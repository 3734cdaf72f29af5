/-
# `FaasOperator.Http.Url` — absolute addresses

A scheme, an authority and a target.  Only what is wrong with an address is of interest here.  A
text without a scheme is taken for an authority, and one that begins with a slash for a target.
-/
import FaasOperator.Http.Target

namespace FaasOperator.Http

/-- Why a text is no address. -/
inductive UrlProblem where
  | empty
  | tooLong
  | longScheme
  | oddCharacter
  | oddAuthority
  | oddFormat
deriving DecidableEq, Repr

def UrlProblem.message : UrlProblem → String
  | .empty => "empty string"
  | .tooLong => "uri too long"
  | .longScheme => "scheme too long"
  | .oddCharacter => "invalid uri character"
  | .oddAuthority => "invalid authority"
  | .oddFormat => "invalid format"

namespace Url

/-- A character that an authority ends in front of. -/
def endsAuthority (c : Char) : Bool := c == '/' || c == '?' || c == '#'

/-- A character of an authority that has no meaning of its own. -/
def isAuthorityChar (c : Char) : Bool := c.isAlphanum || "!$&\x27()*+,-.;=_~".toList.contains c

/-- What has been seen of an authority. -/
structure Authority where
  /-- The colons that do not belong to a user or stand between brackets. -/
  colons : Nat
  opened : Bool
  closed : Bool
  /-- A percent sign stands where none can be, unless a user ends or brackets close behind it. -/
  percent : Bool
  /-- The last character was an at sign. -/
  endsUser : Bool

namespace Authority

def start : Authority := ⟨0, false, false, false, false⟩

/-- The most colons, as between the brackets of an address of version 6. -/
def mostColons : Nat := 8

/-- The effect of a character. -/
def step (a : Authority) (c : Char) : Except UrlProblem Authority :=
  let a' := { a with endsUser := false }
  if c = ':' then
    if mostColons ≤ a.colons then .error .oddAuthority else .ok { a' with colons := a.colons + 1 }
  else if c = '[' then
    if a.percent || a.opened then .error .oddAuthority else .ok { a' with opened := true }
  else if c = ']' then
    if !a.opened || a.closed then .error .oddAuthority
    else .ok { a' with closed := true, colons := 0, percent := false }
  else if c = '@' then .ok { a with colons := 0, percent := false, endsUser := true }
  else if c = '%' then .ok { a' with percent := true }
  else if isAuthorityChar c then .ok a'
  else .error .oddCharacter

/-- What has been seen makes up an authority. -/
def check (a : Authority) : Except UrlProblem Unit :=
  if a.opened != a.closed || 1 < a.colons || a.endsUser || a.percent then .error .oddAuthority
  else .ok ()

end Authority

/-- The length of the authority at the start of a text. -/
def authorityLength (cs : List Char) : Except UrlProblem Nat := do
  let authority := cs.takeWhile (!endsAuthority ·)
  (← authority.foldlM Authority.step .start).check
  return authority.length

def isSchemeChar (c : Char) : Bool := c.isAlphanum || c == '+' || c == '-' || c == '.' || c == '~'

def longestScheme : Nat := 64

/-- The text behind the scheme and its mark, if it begins with them. -/
def afterScheme? (cs : List Char) : Except UrlProblem (Option (List Char)) :=
  let scheme := cs.takeWhile isSchemeChar
  match cs.drop scheme.length with
  | ':' :: '/' :: '/' :: rest =>
      if longestScheme < scheme.length then .error .longScheme else .ok (some rest)
  | _ => .ok none

/-- What is wrong with a text as an address. -/
def check (s : String) : Except UrlProblem Unit := do
  let cs := s.toList
  let checkTarget := fun cs : List Char =>
    match Target.parse? (String.ofList cs) with
    | some _ => Except.ok ()
    | none => .error UrlProblem.oddCharacter
  if Target.mostBytes < s.utf8ByteSize then throw .tooLong
  match cs with
  | [] => throw .empty
  | ['/'] | ['*'] => return
  | [_] => if (← authorityLength cs) = 1 then return else throw .oddCharacter
  | '/' :: _ => checkTarget cs
  | _ =>
      match ← afterScheme? cs with
      | none => if (← authorityLength cs) = cs.length then return else throw .oddFormat
      | some rest =>
          let n ← authorityLength rest
          if n = 0 then throw .oddFormat else checkTarget (rest.drop n)

end Url

end FaasOperator.Http
