/-
# `FaasOperator.Json` — JSON values and their compact text

The text has no white space, and the members of a record are in the order given.  What a text says
that somebody else wrote is the matter of `FaasOperator.Json.Document` and
`FaasOperator.Json.Decoder`.
-/
import FaasOperator.Json.Numeral

namespace FaasOperator

inductive Json where
  | null
  | bool (b : Bool)
  | number (n : Numeral)
  | text (s : String)
  | list (items : List Json)
  | record (members : List (String × Json))
deriving Inhabited

namespace Json

def int (i : Int) : Json := .number (.ofInt i)

def nat (n : Nat) : Json := .int n

def texts (ss : List String) : Json := .list (ss.map .text)

/-- A record of the members that are present. -/
def present (members : List (String × Option Json)) : Json :=
  .record (members.filterMap fun (k, v) => v.map (k, ·))

/-- The value, or null where there is none. -/
def orNull (v : Option Json) : Json := v.getD .null

/-! ## Text -/

def hexDigit (n : Nat) : Char := Nat.digitChar n

/-- A character inside a string.  Quote, backslash and the control characters are escaped, the
latter by their short escape where there is one; all else stands for itself. -/
def escapeChar (c : Char) : List Char :=
  match c with
  | '"' => ['\\', '"']
  | '\\' => ['\\', '\\']
  | '\x08' => ['\\', 'b']
  | '\x0c' => ['\\', 'f']
  | '\n' => ['\\', 'n']
  | '\r' => ['\\', 'r']
  | '\t' => ['\\', 't']
  | c =>
      if c.toNat < 0x20 then ['\\', 'u', '0', '0', hexDigit (c.toNat / 16), hexDigit (c.toNat % 16)]
      else [c]

/-- A string between its quotes. -/
def renderText (s : String) : List Char := '"' :: (s.toList.flatMap escapeChar ++ ['"'])

mutual

def renderChars : Json → List Char
  | .null => ['n', 'u', 'l', 'l']
  | .bool true => ['t', 'r', 'u', 'e']
  | .bool false => ['f', 'a', 'l', 's', 'e']
  | .number n => n.render
  | .text s => renderText s
  | .list [] => ['[', ']']
  | .list (v :: vs) => '[' :: (renderChars v ++ renderItems vs)
  | .record [] => ['{', '}']
  | .record ((k, v) :: ms) => '{' :: (renderText k ++ ':' :: (renderChars v ++ renderMembers ms))

/-- The items after the first one, each behind a comma, and the closing bracket. -/
def renderItems : List Json → List Char
  | [] => [']']
  | v :: vs => ',' :: (renderChars v ++ renderItems vs)

/-- The members after the first one, each behind a comma, and the closing brace. -/
def renderMembers : List (String × Json) → List Char
  | [] => ['}']
  | (k, v) :: ms => ',' :: (renderText k ++ ':' :: (renderChars v ++ renderMembers ms))

end

/-- The compact text of a value. -/
def render (v : Json) : String := String.ofList v.renderChars

end Json

end FaasOperator
