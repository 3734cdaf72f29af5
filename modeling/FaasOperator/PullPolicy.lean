/-
# `FaasOperator.PullPolicy` — when the node fetches a container image

The three policies are read by their exact names, and any other text is refused with a message that
names them.
-/
import FaasOperator.Text.Quoted

namespace FaasOperator

inductive PullPolicy where
  | always
  | ifNotPresent
  | never
deriving DecidableEq, Repr

namespace PullPolicy

/-- The policy where none is given. -/
def default : PullPolicy := .always

def render : PullPolicy → String
  | .always => "Always"
  | .ifNotPresent => "IfNotPresent"
  | .never => "Never"

/-- Reads exactly the written forms. -/
def parse? : String → Option PullPolicy
  | "Always" => some .always
  | "IfNotPresent" => some .ifNotPresent
  | "Never" => some .never
  | _ => none

/-- What is said of any other text. -/
def invalidMessage (s : String) : String :=
  "invalid image pull policy " ++ Text.quoted s ++ ": must be Always, IfNotPresent or Never"

end PullPolicy

end FaasOperator
