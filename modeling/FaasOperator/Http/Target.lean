/-
# `FaasOperator.Http.Target` — the target of a request

A path and perhaps a query.  A target is taken apart at the first question mark, and what follows a
hash sign is not part of it.  A text that is too long, or has characters that a target cannot carry,
is no target.
-/
import FaasOperator.Text

namespace FaasOperator.Http

structure Target where
  path : String
  query : Option String
deriving DecidableEq

namespace Target

/-- A character that a query can carry: most of ASCII, and all beyond it. -/
def isQueryChar (c : Char) : Bool :=
  let n := c.toNat
  n == 0x21 || (0x24 ≤ n && n ≤ 0x3b) || n == 0x3d || (0x3f ≤ n && n != 0x7f)

/-- A character that a path can carry: as in a query, without the question mark, the backquote and a
few brackets. -/
def isPathChar (c : Char) : Bool :=
  let n := c.toNat
  c == '"' || c == '{' || c == '}' || (isQueryChar c && n != 0x3f && n != 0x60)

/-- The text in front of the first hash sign. -/
def withoutFragment (cs : List Char) : List Char := cs.takeWhile (· != '#')

/-- How long the text of a target can be, in bytes. -/
def mostBytes : Nat := 65534

/-- Takes the text of a target apart. -/
def parse? (s : String) : Option Target :=
  let cs := withoutFragment s.toList
  if mostBytes < s.utf8ByteSize then none
  else
    match Text.cut? '?' cs with
    | none => if cs.all isPathChar then some ⟨String.ofList cs, none⟩ else none
    | some (path, query) =>
        if path.all isPathChar && query.all isQueryChar then
          some ⟨String.ofList path, some (String.ofList query)⟩
        else none

def segments (t : Target) : List String :=
  (Text.pieces '/' t.path.toList).map String.ofList

/-- What follows the last slash of the path. -/
def lastSegment (t : Target) : String := t.segments.getLast?.getD ""

end Target

end FaasOperator.Http
