/-
# `FaasOperator.CommandLine` — reading a command line

Words are taken from left to right, and the first thing that is wrong decides.  A value in a word of
its own is looked at only when the next known flag comes, or at the end: a word that is no flag at
all, coming before that, is what is found wrong.  A flag beats its environment variable, whose value
is then not looked at.
-/
import FaasOperator.CommandLine.Options
import FaasOperator.CommandLine.Word
import FaasOperator.Files

namespace FaasOperator

namespace CommandLine

/-- The one flag that takes no value. -/
def updateStatusFlag : String := "update-status"

/-- How far a command line has been read. -/
structure Reading where
  options : Options
  /-- The settings given so far. -/
  given : List Setting
  statusGiven : Bool
  /-- The flag that came last, if its value is to stand in a word of its own, and that word. -/
  pending : Option (Setting × Option String)
  /-- The separator was read. -/
  separated : Bool

namespace Reading

def start : Reading := ⟨.default, [], false, none, false⟩

/-- Takes over a value. -/
def give (s : Setting) (value : String) (r : Reading) : Except CommandLineError Reading :=
  if r.given.contains s then .error .repeated
  else (s.assign value r.options).map fun o => { r with options := o, given := s :: r.given }

/-- Takes over the value of the flag that came last. -/
def resolve (r : Reading) : Except CommandLineError Reading :=
  match r.pending with
  | none => .ok r
  | some (_, none) => .error .missingValue
  | some (s, some value) => give s value { r with pending := none }

/-- A setting's flag, with its value if that is attached to it. -/
def setting (s : Setting) (value : Option String) (r : Reading) : Except CommandLineError Reading :=
  match r.resolve with
  | .error e => .error e
  | .ok r =>
      match value with
      | some value => r.give s value
      | none => .ok { r with pending := some (s, none) }

def updateStatus (r : Reading) : Except CommandLineError Reading :=
  match r.resolve with
  | .error e => .error e
  | .ok r =>
      if r.statusGiven then .error .repeated
      else .ok { r with options := { r.options with updateStatus := true }, statusGiven := true }

/-- Reads one word. -/
def word (w : Word) (r : Reading) : Except CommandLineError Reading :=
  match w with
  | .separator => .ok { r with separated := true }
  | .letters => .error .unexpectedArgument
  | .plain text =>
      match r.pending with
      | some (s, none) => .ok { r with pending := some (s, some text) }
      | _ => .error .unexpectedArgument
  | .flag name value =>
      if name == updateStatusFlag then
        match value with
        | some _ => .error .unexpectedValue
        | none => r.updateStatus
      else
        match Setting.ofFlag? name with
        | some s => r.setting s value
        | none => .error .unexpectedArgument

/-- Reads the words in order.  Nothing may follow the separator. -/
def words : List String → Reading → Except CommandLineError Reading
  | [], r => r.resolve
  | w :: ws, r =>
      if r.separated then .error .unexpectedArgument
      else
        match r.word (.of w) with
        | .error e => .error e
        | .ok r => words ws r

/-- Takes over the values of the environment variables of these settings, where no flag was given.
-/
def fallBack (env : Environment) : List Setting → Reading → Except CommandLineError Reading
  | [], r => .ok r
  | s :: ss, r =>
      match (if r.given.contains s then none else s.environmentName?.bind env) with
      | none => fallBack env ss r
      | some value =>
          match r.give s value with
          | .error e => .error e
          | .ok r => fallBack env ss r

end Reading

/-- The options that a command line and the environment set. -/
def parse (env : Environment) (words : List String) : Except CommandLineError Options :=
  match Reading.start.words words with
  | .error e => .error e
  | .ok r => (r.fallBack env Setting.all).map (·.options)

end CommandLine

end FaasOperator
