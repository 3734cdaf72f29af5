/-
# `FaasOperator.Yaml.BlockScalar` — scalars of indented lines

They are taken as they are or folded.  What becomes of the line breaks at the end is told at the
head of the scalar, where the indentation may be told as well.
-/
import FaasOperator.Yaml.Gap

namespace FaasOperator.Yaml.BlockScalar

inductive Chomping where
  | strip
  /-- One of them stays. -/
  | clip
  | keep
deriving DecidableEq, Repr

structure Header where
  chomping : Chomping
  /-- How much further than its surroundings the scalar is indented. -/
  increment : Option Nat

/-- Reads the digit of an indentation, if there is one. -/
def scanIncrement (start : Mark) (c : Cursor) : Except Flaw (Option Nat × Cursor) :=
  match c.rest.head? with
  | some x =>
      if x = '0' then .error ⟨.zeroIndentation, c.mark, some (.blockScalar, start)⟩
      else if x.isDigit then .ok (some (x.toNat - '0'.toNat), c.skip 1)
      else .ok (none, c)
  | none => .ok (none, c)

/-- Reads the sign that tells about the line breaks, if there is one. -/
def scanChomping (c : Cursor) : Chomping × Cursor :=
  match c.rest.head? with
  | some '+' => (.keep, c.skip 1)
  | some '-' => (.strip, c.skip 1)
  | _ => (.clip, c)

/-- Reads the head of a scalar: a sign and a digit in either order, and a comment. -/
def scanHeader (start : Mark) (c : Cursor) : Except Flaw (Header × Cursor) :=
  let (early, c₁) := scanChomping c
  match scanIncrement start c₁ with
  | .error f => .error f
  | .ok (increment, c₂) =>
      let (chomping, c₃) := if early = .clip then scanChomping c₂ else (early, c₂)
      let c₄ := (c₃.skipWhile isBlank).skipComment
      if c₄.rest.isEmpty || c₄.sees isBreak then .ok (⟨chomping, increment⟩, c₄.skipBreak?)
      else .error ⟨.missingLineEnd, c₄.mark, some (.blockScalar, start)⟩

/-- The empty lines in front of a line: their breaks, where they end, the furthest column on the
way, and where the line begins. -/
structure Lead where
  breaks : List Char
  stop : Mark
  furthest : Nat
  next : Cursor

/-- Reads empty lines and the indentation of the line that follows.  Without an indentation all
spaces are passed. -/
def scanLead (start : Mark) (indent : Option Nat) (lead : Lead) : Except Flaw Lead :=
  let c := lead.next
  let inside := fun c : Cursor => indent.all (c.mark.column < ·)
  let spaces := (c.rest.takeWhile (· == ' ')).length
  let c₁ := c.skip (match indent with
    | none => spaces
    | some n => min spaces (n - c.mark.column))
  let furthest := max lead.furthest c₁.mark.column
  if inside c₁ && c₁.sees (· == '\t') then
    .error ⟨.tabForIndentation, c₁.mark, some (.blockScalar, start)⟩
  else
    match c₁.rest.head? with
    | none => .ok { lead with furthest, next := c₁ }
    | some x =>
        if isBreak x then
          let c₂ := c₁.skipBreak
          if c₂.rest.length < c.rest.length then
            scanLead start indent ⟨lead.breaks ++ [breakText x], c₂.mark, furthest, c₂⟩
          else .ok { lead with furthest, next := c₂ }
        else .ok { lead with furthest, next := c₁ }
termination_by lead.next.rest.length

/-- What has been read of a scalar. -/
structure Scanned where
  text : List Char
  /-- The break of the last line. -/
  lastBreak : Option Char
  /-- The last line began with a blank. -/
  blankLead : Bool
  /-- What is in front of the next line. -/
  lead : Lead

/-- What stands between the last line and the next: a folded break becomes a space unless a line
there begins with a blank. -/
def Scanned.joint (s : Scanned) (folded blankNext : Bool) : List Char :=
  if folded && s.lastBreak == some '\n' && !s.blankLead && !blankNext then
    if s.lead.breaks.isEmpty then [' '] else s.lead.breaks
  else s.lastBreak.toList ++ s.lead.breaks

def scanLines (folded : Bool) (start : Mark) (indent : Nat) (s : Scanned) : Except Flaw Scanned :=
  let c := s.lead.next
  if c.mark.column != indent || c.rest.isEmpty then .ok s
  else
    let blank := c.sees isBlank
    let (line, c₁) := c.takeWhile (!isBreak ·)
    let text := s.text ++ s.joint folded blank ++ line
    let c₂ := c₁.skipBreak?
    match scanLead start (some indent) ⟨[], c₂.mark, 0, c₂⟩ with
    | .error f => .error f
    | .ok lead =>
        let s' : Scanned := ⟨text, c₁.rest.head?.map breakText, blank, lead⟩
        if lead.next.rest.length < c.rest.length then scanLines folded start indent s' else .ok s'
termination_by s.lead.next.rest.length

/-- What the scalar stands for, once its line breaks at the end have been dealt with. -/
def Scanned.chomp (s : Scanned) : Chomping → List Char
  | .strip => s.text
  | .clip => s.text ++ s.lastBreak.toList
  | .keep => s.text ++ s.lastBreak.toList ++ s.lead.breaks

/-- Reads a scalar, whose surroundings end in front of a column.  Gives its text and where it ends.
-/
def scan (folded : Bool) (margin : Nat) (c : Cursor) : Except Flaw (String × Mark × Cursor) :=
  let start := c.mark
  match scanHeader start (c.skip 1) with
  | .error f => .error f
  | .ok (header, c₁) =>
      let told := header.increment.map (margin - 1 + ·)
      match scanLead start told ⟨[], c₁.mark, 0, c₁⟩ with
      | .error f => .error f
      | .ok lead =>
          let indent := told.getD (max (max lead.furthest margin) 1)
          match scanLines folded start indent ⟨[], none, false, lead⟩ with
          | .error f => .error f
          | .ok s => .ok (String.ofList (s.chomp header.chomping), s.lead.stop, s.lead.next)

end FaasOperator.Yaml.BlockScalar
