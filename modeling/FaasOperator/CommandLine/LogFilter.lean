/-
# `FaasOperator.CommandLine.LogFilter` — the filter of log lines, and their format

A filter is a list of directives between commas, each with a target or a span or both, and perhaps a
least level.  Whether a text is one is decided character by character (`LogFilter.step`); the
offsets of fields and levels are those of the directive without its blanks, and are looked up in the
directive as it was written, so that a blank in front of it moves them.
-/
import FaasOperator.Text
import FaasOperator.Text.Alphanumeric
import FaasOperator.Text.Pattern

namespace FaasOperator.Text

/-! ## Parts of a text by their offsets

Offsets count the bytes of the UTF-8 form. -/

def dropBytes : Nat → List Char → List Char
  | 0, cs => cs
  | _, [] => []
  | n + 1, c :: cs => dropBytes (n + 1 - c.utf8Size) cs

def takeBytes : Nat → List Char → List Char
  | 0, _ => []
  | _, [] => []
  | n + 1, c :: cs => c :: takeBytes (n + 1 - c.utf8Size) cs

def slice (start stop : Nat) (cs : List Char) : List Char :=
  dropBytes start (takeBytes stop cs)

end FaasOperator.Text

namespace FaasOperator

/-- The text of a well-formed filter. -/
structure LogFilter where
  text : String
deriving DecidableEq, Repr

/-- How log lines are written. -/
inductive LogFormat where
  | plain
  | json
deriving DecidableEq, Repr

/-- Reads exactly the two names. -/
def LogFormat.parse? : String → Option LogFormat
  | "plain" => some .plain
  | "json" => some .json
  | _ => none

namespace LogFilter

/-- What is of interest where nothing else is said. -/
def default : LogFilter := ⟨"function_controller=info,warn"⟩

def levels : List String := ["trace", "debug", "info", "warn", "error", "off"]

/-- The highest number of a level. -/
def highestLevel : UInt64 := 5

/-- A level: its name in any mixture of cases, or its number.  No level at all stands for the
lowest. -/
def isLevel (cs : List Char) : Bool :=
  cs.isEmpty || levels.contains (String.ofList (cs.map Char.toLower)) ||
    (Text.unsigned? (String.ofList cs)).any (· ≤ highestLevel)

/-- What the value of a field is compared with: a number, or a pattern. -/
def isFieldValue (cs : List Char) : Bool :=
  Text.isScientific (Text.dropPlus cs) || Text.isPattern cs

/-- A field: a name, and perhaps a value behind an equals sign; what follows a second one is
ignored. -/
def isField (cs : List Char) : Bool :=
  !cs.isEmpty &&
    match Text.pieces '=' cs with
    | _ :: value :: _ => isFieldValue value
    | _ => true

/-- Where in a directive reading has come to. -/
inductive Phase where
  | start
  /-- Within a target, which may be a level as well. -/
  | target
  | span
  /-- Within a field that starts at this offset. -/
  | field (start : Nat)
  /-- Behind the fields of a span. -/
  | fields
  /-- Behind a span. -/
  | spanned
  /-- Within a level that starts at this offset. -/
  | level (start : Nat)
deriving DecidableEq, Repr

/-- A character that a target can start with. -/
def startsTarget (c : Char) : Bool :=
  c == '-' || c == ':' || c == '_' || Text.isAlphanumeric c

/-- The effect of the character at an offset.  Offsets are counted in the directive without its
blanks, but what is between two of them is looked up in the directive as it is `written`; so a blank
in front of it moves fields and levels. -/
def step (written : List Char) (offset : Nat) (c : Char) : Phase → Option Phase
  | .start => if c = '[' then some .span else if startsTarget c then some .target else none
  | .target =>
      if c = '=' then some (.level (offset + 1))
      else if c = '[' then some .span
      else some .target
  | .span =>
      if c = ']' then some .spanned
      else if c = '{' then some (.field (offset + 1))
      else some .span
  | .field start =>
      if c = '}' then
        if isField (Text.slice start offset written) then some .fields else none
      else some (.field start)
  | .fields => if c = ']' then some .spanned else none
  | .spanned => if c = '=' then some (.level (offset + 1)) else none
  | .level start => some (.level start)

/-- Reads characters, the first of which is at an offset. -/
def run (written : List Char) : Nat → List Char → Phase → Option Phase
  | _, [], p => some p
  | offset, c :: cs, p => (step written offset c p).bind (run written (offset + c.utf8Size) cs)

/-- A directive can end here. -/
def isComplete (written : List Char) : Phase → Bool
  | .target | .spanned => true
  | .level start => isLevel (Text.dropBytes start written)
  | .start | .span | .field _ | .fields => false

def isDirective (written : List Char) : Bool :=
  (run written 0 (Text.trim written) .start).any (isComplete written)

/-- Reads a filter; directives that are empty are passed over. -/
def parse? (s : String) : Option LogFilter :=
  if (Text.pieces ',' s.toList).all fun d => d.isEmpty || isDirective d then some ⟨s⟩ else none

end LogFilter

end FaasOperator
