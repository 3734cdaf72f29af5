/-
# `FaasOperator.Yaml.Gap` — what stands between two words of a scalar

Blanks, or line breaks with the blanks around them.  A single line break is folded into a space; of
several, the first is dropped.
-/
import FaasOperator.Yaml.Fault

namespace FaasOperator.Yaml

/-- A gap, as far as it has been read. -/
structure Gap where
  /-- The blanks of a gap within a line. -/
  blanks : List Char
  /-- The gap reaches beyond the end of a line. -/
  broken : Bool
  /-- The line break that it begins with, unless that one was escaped. -/
  firstBreak : Option Char
  /-- The line breaks after it. -/
  breaks : List Char

namespace Gap

def none : Gap := ⟨[], false, .none, []⟩

/-- A gap that begins with an escaped line break. -/
def escaped : Gap := ⟨[], true, .none, []⟩

/-- What the gap stands for. -/
def text (g : Gap) : List Char :=
  if g.broken then
    match g.firstBreak with
    | some '\n' => if g.breaks.isEmpty then [' '] else g.breaks
    | some c => c :: g.breaks
    | .none => g.breaks
  else g.blanks

/-- The gap goes on with a blank, which counts only if no line has ended yet. -/
def addBlank (c : Char) (g : Gap) : Gap :=
  if g.broken then g else { g with blanks := g.blanks ++ [c] }

def addBreak (c : Char) (g : Gap) : Gap :=
  if g.broken then { g with breaks := g.breaks ++ [breakText c] }
  else { g with blanks := [], broken := true, firstBreak := some (breakText c) }

/-- Reads on to the end of a gap.  At the start of a line there may be no tab in front of a column;
the place of such a tab is the error. -/
def scan (column : Nat) (g : Gap) (c : Cursor) : Except Mark (Gap × Cursor) :=
  match _h : c.rest with
  | [] => .ok (g, c)
  | x :: _ =>
      if isBlank x then
        if g.broken && c.mark.column < column && x == '\t' then .error c.mark
        else scan column (g.addBlank x) (c.skip 1)
      else if isBreak x then scan column (g.addBreak x) c.skipBreak
      else .ok (g, c)
termination_by c.rest.length
decreasing_by
  · simp [Cursor.length_rest_skip, _h]
  · exact c.length_rest_skipBreak_lt (by simp [_h])

end Gap

end FaasOperator.Yaml
