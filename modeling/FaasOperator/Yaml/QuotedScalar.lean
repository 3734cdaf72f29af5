/-
# `FaasOperator.Yaml.QuotedScalar` — scalars in quotes

In single quotes a quote is written twice; in double quotes a backslash begins an escape.  Line
breaks are folded as in scalars without quotes, unless they are escaped.
-/
import FaasOperator.Yaml.Gap

namespace FaasOperator.Yaml.QuotedScalar

inductive Quote where
  | single
  | double
deriving DecidableEq, Repr

/-- The character that opens and closes the scalar. -/
def Quote.char : Quote → Char
  | .single => '\x27'
  | .double => '"'

/-- What an escape stands for. -/
inductive Escape where
  | char (c : Char)
  /-- A code point in so many hexadecimal digits. -/
  | codePoint (digits : Nat)
deriving DecidableEq, Repr

/-- What the character after a backslash begins. -/
def escape? (c : Char) : Option Escape :=
  match c with
  | '0' => some (.char '\x00')
  | 'a' => some (.char '\x07')
  | 'b' => some (.char '\x08')
  | 't' | '\t' => some (.char '\t')
  | 'n' => some (.char '\n')
  | 'v' => some (.char '\x0b')
  | 'f' => some (.char '\x0c')
  | 'r' => some (.char '\r')
  | 'e' => some (.char '\x1b')
  | ' ' => some (.char ' ')
  | '"' => some (.char '"')
  | '/' => some (.char '/')
  | '\\' => some (.char '\\')
  | 'N' => some (.char '\u0085')
  | '_' => some (.char '\u00a0')
  | 'L' => some (.char '\u2028')
  | 'P' => some (.char '\u2029')
  | 'x' => some (.codePoint 2)
  | 'u' => some (.codePoint 4)
  | 'U' => some (.codePoint 8)
  | _ => none

def codePoint? (n : Nat) : Option Char :=
  if h : n.isValidChar then some (Char.ofNatAux n h) else none

/-- A character within the quotes, and where the next one stands. -/
inductive Piece where
  | char (c : Char) (next : Cursor)
  /-- The line break was escaped. -/
  | lineEnd (next : Cursor)
  /-- Here are a gap, the closing quote or the end of the text. -/
  | stop

/-- Reads an escape, which stands behind the backslash at the cursor. -/
def scanEscape (start : Mark) (c : Cursor) : Except Flaw Piece :=
  let fail := fun fault place => .error ⟨fault, place, some (.quotedScalarBody, start)⟩
  match (c.peek? 1).bind escape? with
  | none => fail .unknownEscape c.mark
  | some (.char x) => .ok (.char x (c.skip 2))
  | some (.codePoint n) =>
      let c := c.skip 2
      let digits := c.rest.take n
      if digits.length < n || !digits.all isHexDigit then fail .missingHexDigit c.mark
      else
        match codePoint? (hexValue digits) with
        | some x => .ok (.char x (c.skip n))
        | none => fail .noSuchCharacter c.mark

def scanPiece (q : Quote) (start : Mark) (c : Cursor) : Except Flaw Piece :=
  match c.rest with
  | [] => .ok .stop
  | x :: cs =>
      if isGap x then .ok .stop
      else if x = q.char then
        if q = .single ∧ cs.head? = some x then .ok (.char x (c.skip 2)) else .ok .stop
      else if q = .double ∧ x = '\\' then
        if cs.head?.any isBreak then .ok (.lineEnd (c.skip 1).skipBreak) else scanEscape start c
      else .ok (.char x (c.skip 1))

/-- Reads the characters up to a gap, the closing quote or the end of the text.  Also tells whether
the gap begins with an escaped line break. -/
def scanWord (q : Quote) (start : Mark) (c : Cursor) :
    Except Flaw (List Char × Gap × Cursor) :=
  match scanPiece q start c with
  | .error f => .error f
  | .ok .stop => .ok ([], .none, c)
  | .ok (.lineEnd next) => .ok ([], .escaped, next)
  | .ok (.char x next) =>
      if next.rest.length < c.rest.length then
        (scanWord q start next).map fun (cs, rest) => (x :: cs, rest)
      else .ok ([x], .none, next)
termination_by c.rest.length

/-- Reads on from within the quotes to the closing one. -/
def scanRest (q : Quote) (start : Mark) (read : List Char) (c : Cursor) :
    Except Flaw (List Char × Cursor) :=
  let fail := fun fault place => .error ⟨fault, place, some (.quotedScalar, start)⟩
  if c.seesDocumentEdge then fail .documentMarkInScalar c.mark
  else if c.rest.isEmpty then fail .endInScalar c.mark
  else
    match scanWord q start c with
    | .error f => .error f
    | .ok (word, gap, c₁) =>
        if c₁.sees (· == q.char) then .ok (read ++ word, c₁.skip 1)
        else
          match gap.scan 0 c₁ with
          | .error place => fail .tabInIndentation place
          | .ok (gap, c₂) =>
              if c₂.rest.length < c.rest.length then
                scanRest q start (read ++ word ++ gap.text) c₂
              else fail .endInScalar c₂.mark
termination_by c.rest.length

/-- Reads a scalar in quotes, the first of which stands at the cursor. -/
def scan (q : Quote) (c : Cursor) : Except Flaw (String × Cursor) :=
  (scanRest q c.mark [] (c.skip 1)).map fun (cs, c) => (String.ofList cs, c)

end FaasOperator.Yaml.QuotedScalar
