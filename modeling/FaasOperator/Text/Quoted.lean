/-
# `FaasOperator.Text.Quoted` — the quoted form of a text, as messages show one

In double quotes, with the characters that would be ambiguous or invisible written as escapes.
-/
import FaasOperator.Text.GraphemeExtend
import FaasOperator.Text.Unprintable

namespace FaasOperator.Text

/-- The code point in lower-case hexadecimal, as short as possible, between braces. -/
def codePointEscape (c : Char) : List Char :=
  ['\\', 'u', '{'] ++ Nat.toDigits 16 c.toNat ++ ['}']

/-- A character inside the quoted form.  A mark that would attach to its neighbour counts as
invisible. -/
def quoteChar (c : Char) : List Char :=
  match c with
  | '"' => ['\\', '"']
  | '\\' => ['\\', '\\']
  | '\n' => ['\\', 'n']
  | '\r' => ['\\', 'r']
  | '\t' => ['\\', 't']
  | '\x00' => ['\\', '0']
  | c => if isGraphemeExtend c || isUnprintable c then codePointEscape c else [c]

def quoted (s : String) : String :=
  String.ofList ('"' :: s.toList.flatMap quoteChar ++ ['"'])

end FaasOperator.Text
