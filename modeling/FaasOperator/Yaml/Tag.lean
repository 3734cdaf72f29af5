/-
# `FaasOperator.Yaml.Tag` — tags, and the names that values are given

A tag is a handle and the rest of its text; one between angle brackets has no handle.  A name is
given for later mention.
-/
import FaasOperator.Yaml.Fault
import FaasOperator.Yaml.Token

namespace FaasOperator.Yaml.Tag

/-- A character that the text of a tag can have. -/
def isTextChar (c : Char) : Bool := isNameChar c || ";/?:@&=+$.%!~*\x27()".toList.contains c

/-- A character that is allowed besides where brackets show the end of the text. -/
def isBracketChar (c : Char) : Bool := c == ',' || c == '[' || c == ']'

/-- The byte of an escape, if one stands at the cursor. -/
def octet? (c : Cursor) : Option Nat :=
  match c.rest with
  | '%' :: a :: b :: _ =>
      if isHexDigit a && isHexDigit b then some (hexValue [a, b]) else none
  | _ => none

/-- How many bytes a character has that begins with this one. -/
def width (octet : Nat) : Nat :=
  if octet < 0x80 then 1
  else if octet < 0xc0 then 0
  else if octet < 0xe0 then 2
  else if octet < 0xf0 then 3
  else if octet < 0xf8 then 4
  else 0

/-- Where and in the course of what a tag is read. -/
structure Setting where
  activity : Activity
  start : Mark

/-- The error of a fault at a place. -/
def Setting.fail (s : Setting) (fault : Fault) (c : Cursor) : Except Flaw α :=
  .error ⟨fault, c.mark, some (s.activity, s.start)⟩

/-- Reads further bytes of a character. -/
def scanTrailing (s : Setting) : Nat → Cursor → Except Flaw (List UInt8 × Cursor)
  | 0, c => .ok ([], c)
  | n + 1, c =>
      match octet? c with
      | none => s.fail .missingOctet c
      | some octet =>
          if octet / 64 = 2 then
            (scanTrailing s n (c.skip 3)).map fun (bytes, c) => (.ofNat octet :: bytes, c)
          else s.fail .oddTrailingOctet c

/-- Reads a character that is written as the escapes of its bytes. -/
def scanEscape (s : Setting) (c : Cursor) : Except Flaw (List UInt8 × Cursor) :=
  match octet? c with
  | none => s.fail .missingOctet c
  | some octet =>
      if width octet = 0 then s.fail .oddLeadingOctet c
      else
        (scanTrailing s (width octet - 1) (c.skip 3)).map fun (bytes, c) =>
          (.ofNat octet :: bytes, c)

def scanBytes (s : Setting) (bracketed : Bool) (c : Cursor) : Except Flaw (List UInt8 × Cursor) :=
  match c.rest.head? with
  | none => .ok ([], c)
  | some x =>
      if isTextChar x || (bracketed && isBracketChar x) then
        match if x = '%' then scanEscape s c else .ok (x.toString.toUTF8.toList, c.skip 1) with
        | .error f => .error f
        | .ok (bytes, next) =>
            if next.rest.length < c.rest.length then
              (scanBytes s bracketed next).map fun (more, c) => (bytes ++ more, c)
            else .ok (bytes, next)
      else .ok ([], c)
termination_by c.rest.length

def textOf (bytes : List UInt8) : String := (String.fromUTF8? ⟨bytes.toArray⟩).getD ""

/-- Reads the text of a tag, which is not empty. -/
def scanText (s : Setting) (bracketed : Bool) (c : Cursor) : Except Flaw (String × Cursor) :=
  match scanBytes s bracketed c with
  | .error f => .error f
  | .ok (bytes, next) =>
      if bytes.isEmpty then s.fail .missingTagText next else .ok (textOf bytes, next)

/-- Reads an exclamation mark, a name and perhaps another exclamation mark. -/
def scanHandle (s : Setting) (c : Cursor) : Except Flaw (String × Cursor) :=
  if c.sees (· == '!') then
    let (name, c₁) := (c.skip 1).takeWhile isNameChar
    let closed := c₁.sees (· == '!')
    .ok (String.ofList ('!' :: name ++ if closed then ['!'] else []),
      if closed then c₁.skip 1 else c₁)
  else s.fail .missingTagMark c

/-- A handle stands between exclamation marks. -/
def isHandle (handle : String) : Bool := 2 ≤ handle.length && handle.toList.getLast? == some '!'

/-- Reads a tag up to its end.  Text behind a lone exclamation mark belongs to the handle of one. -/
def scanBody (start : Mark) (c : Cursor) : Except Flaw (Token.Kind × Cursor) :=
  let body : Setting := ⟨.tagBody, start⟩
  let whole : Setting := ⟨.tag, start⟩
  if c.peek? 1 = some '<' then
    match scanText body true (c.skip 2) with
    | .error f => .error f
    | .ok (text, c) =>
        if c.sees (· == '>') then .ok (.tag "" text, c.skip 1) else whole.fail .missingTagEnd c
  else
    match scanHandle whole c with
    | .error f => .error f
    | .ok (handle, c) =>
        if isHandle handle then (scanText body false c).map fun (text, c) => (.tag handle text, c)
        else
          (scanBytes body false c).map fun (bytes, c) =>
            let text := String.ofList (handle.toList.drop 1) ++ textOf bytes
            (if text.isEmpty then .tag "" "!" else .tag "!" text, c)

/-- Reads a tag; a gap has to follow, or a comma in a flow collection. -/
def scan (inFlow : Bool) (c : Cursor) : Except Flaw (Token.Kind × Cursor) :=
  match scanBody c.mark c with
  | .error f => .error f
  | .ok (kind, next) =>
      if next.wordEnds 0 || (inFlow && next.sees (· == ',')) then .ok (kind, next)
      else Setting.fail ⟨.tag, c.mark⟩ .missingBlankOrBreak next

/-- A character that may follow a name. -/
def endsName (c : Char) : Bool := isGap c || "?:,]\x7d%@`".toList.contains c

/-- Reads a name behind the mark at the cursor. -/
def scanName (activity : Activity) (c : Cursor) : Except Flaw (String × Cursor) :=
  let (name, next) := (c.skip 1).takeWhile isNameChar
  if name.isEmpty || !next.rest.head?.all endsName then
    Setting.fail ⟨activity, c.mark⟩ .missingName next
  else .ok (String.ofList name, next)

end FaasOperator.Yaml.Tag
