/-
# `FaasOperator.Yaml.PlainScalar` — scalars without quotes

One ends at a comment, at a mark between documents, at a colon before a gap, in a flow collection at
a mark of that collection, and at a line that is not indented enough.
-/
import FaasOperator.Yaml.Gap

namespace FaasOperator.Yaml.PlainScalar

def isFlowMark (c : Char) : Bool := c == ',' || c == '[' || c == ']' || c == '{' || c == '}'

/-- A character that may not follow a colon within a flow collection. -/
def refusesColon (c : Char) : Bool := isFlowMark c || c == '?'

/-- Where a word ends, and whether it does so at a colon that may not stand there. -/
def word (inFlow : Bool) : List Char → List Char × Bool
  | [] => ([], false)
  | x :: cs =>
      if isGap x then ([], false)
      else if inFlow && x == ':' && cs.head?.any refusesColon then ([], true)
      else if (x == ':' && cs.head?.all isGap) || (inFlow && isFlowMark x) then ([], false)
      else
        let (w, clash) := word inFlow cs
        (x :: w, clash)

structure Scanned where
  text : List Char
  stop : Mark
  /-- A line ended behind the scalar. -/
  broken : Bool
  next : Cursor

/-- Reads on behind a gap. -/
def scanRest (inFlow : Bool) (indent : Nat) (start : Mark) (read : List Char) (gap : Gap)
    (stop : Mark) (c : Cursor) : Except Flaw Scanned :=
  let finished : Except Flaw Scanned := .ok ⟨read, stop, gap.broken, c⟩
  if c.seesDocumentEdge || c.sees (· == '#') then finished
  else
    let (w, clash) := word inFlow c.rest
    let c₁ := c.skip w.length
    if clash then .error ⟨.colonBeforeIndicator, c₁.mark, some (.plainScalar, start)⟩
    else if w.isEmpty then finished
    else
      let read := read ++ gap.text ++ w
      if !c₁.sees isGap then .ok ⟨read, c₁.mark, false, c₁⟩
      else
        match Gap.none.scan indent c₁ with
        | .error place => .error ⟨.tabInIndentation, place, some (.plainScalar, start)⟩
        | .ok (gap, c₂) =>
            if !inFlow && c₂.mark.column < indent then .ok ⟨read, c₁.mark, gap.broken, c₂⟩
            else if c₂.rest.length < c.rest.length then
              scanRest inFlow indent start read gap c₁.mark c₂
            else .ok ⟨read, c₁.mark, gap.broken, c₂⟩
termination_by c.rest.length

/-- Reads a scalar.  Its lines are to be indented by so many columns, if it is not in a flow
collection. -/
def scan (inFlow : Bool) (indent : Nat) (c : Cursor) : Except Flaw Scanned :=
  scanRest inFlow indent c.mark [] .none c.mark c

end FaasOperator.Yaml.PlainScalar
