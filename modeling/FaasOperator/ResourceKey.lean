/-
# `FaasOperator.ResourceKey` — the key of a namespaced resource

Its namespace and its name, written with a slash between them.  The written form is read only if it
has exactly one slash, with at least one character on each side.
-/
import FaasOperator.Text
import FaasOperator.Text.Quoted

namespace FaasOperator

/-- Identifies a resource; the work queue hands out these keys. -/
structure ResourceKey where
  ns : String
  name : String
deriving DecidableEq, Repr, Inhabited

namespace ResourceKey

def render (k : ResourceKey) : String := k.ns ++ "/" ++ k.name

/-- Reads a written key: one slash, with at least one character on each side. -/
def parse? (s : String) : Option ResourceKey :=
  match Text.cut? '/' s.toList with
  | none => none
  | some (ns, name) =>
      if ns.isEmpty || name.isEmpty || name.contains '/' then none
      else some ⟨String.ofList ns, String.ofList name⟩

/-- What is said of a text that is no key. -/
def malformedMessage (s : String) : String := "invalid resource key: " ++ Text.quoted s

/-- Keys are ordered by namespace, then by name. -/
def before (a b : ResourceKey) : Bool :=
  decide (a.ns < b.ns) || (a.ns == b.ns && decide (a.name < b.name))

/-- Inserts a key into an ascending list without repetitions. -/
def insertSorted (k : ResourceKey) : List ResourceKey → List ResourceKey
  | [] => [k]
  | x :: xs =>
      if k = x then x :: xs else if k.before x then k :: x :: xs else x :: insertSorted k xs

/-- The keys in ascending order, each once. -/
def sortedSet (ks : List ResourceKey) : List ResourceKey := ks.foldr insertSorted []

end ResourceKey

end FaasOperator
