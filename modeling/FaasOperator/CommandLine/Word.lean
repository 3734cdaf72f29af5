/-
# `FaasOperator.CommandLine.Word` — the words of a command line, and why one is refused

A word is told by its look alone (`Word.of`); whether a plain one is a value or out of place depends
on the flag before it, and is for the reader of the command line to say.
-/
import FaasOperator.Text

namespace FaasOperator

inductive CommandLineError where
  /-- A word that is neither a flag nor the value of one. -/
  | unexpectedArgument
  /-- A flag without its value. -/
  | missingValue
  /-- A value that its flag cannot take. -/
  | invalidValue
  /-- A flag that was given before. -/
  | repeated
  /-- A value for a flag that takes none. -/
  | unexpectedValue
deriving DecidableEq, Repr

def CommandLineError.message : CommandLineError → String
  | .unexpectedArgument => "unexpected argument found"
  | .missingValue => "one of the values isn't valid for an argument"
  | .invalidValue => "invalid value for one of the arguments"
  | .repeated => "an argument cannot be used with one or more of the other specified arguments"
  | .unexpectedValue => "unexpected value for an argument found"

namespace CommandLine

/-- A word of a command line. -/
inductive Word where
  /-- Two dashes: no flag follows. -/
  | separator
  /-- A flag, and its value if that is written behind an equals sign. -/
  | flag (name : String) (value : Option String)
  /-- A dash and something else: a flag of one letter, of which there are none. -/
  | letters
  /-- Anything else: a value, if a flag waits for one. -/
  | plain (text : String)
deriving DecidableEq, Repr

/-- The flag that these characters name, two dashes being in front of them. -/
def Word.ofFlag (cs : List Char) : Word :=
  match Text.cut? '=' cs with
  | none => .flag (String.ofList cs) none
  | some (name, value) => .flag (String.ofList name) (some (String.ofList value))

def Word.of (s : String) : Word :=
  match s.toList with
  | ['-', '-'] => .separator
  | '-' :: '-' :: cs => .ofFlag cs
  | '-' :: _ :: _ => .letters
  | _ => .plain s

end CommandLine

end FaasOperator
