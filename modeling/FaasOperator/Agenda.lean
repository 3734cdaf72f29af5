/-
# `FaasOperator.Agenda` — a clock, and what is to happen when

Entries that are due at the same time come in the order in which they were made.  The clock moves
only when it is told to, by any amount at once, so that an entry can be taken out long after it was
due, but never before.
-/
namespace FaasOperator

/-- Something that is due at a time. -/
structure Agenda.Entry (α : Type) where
  due : Nat
  action : α
deriving DecidableEq

/-- The time, in nanoseconds, and the entries in the order in which they are due. -/
structure Agenda (α : Type) where
  now : Nat
  entries : List (Agenda.Entry α)
deriving DecidableEq

namespace Agenda

variable {α : Type}

def empty : Agenda α := ⟨0, []⟩

/-- Puts an entry behind all that are due no later. -/
def place (e : Entry α) : List (Entry α) → List (Entry α)
  | [] => [e]
  | x :: xs => if x.due ≤ e.due then x :: place e xs else e :: x :: xs

def scheduleAt (due : Nat) (action : α) (a : Agenda α) : Agenda α :=
  { a with entries := place ⟨due, action⟩ a.entries }

/-- Thirty years of 365 days, in nanoseconds.  A sleep whose deadline lies beyond the last time that
the clock can tell goes on for that long instead.  Here every delay above it is cut to it, also one
whose deadline could just be told; no delay up to it is touched. -/
def longestDelay : Nat := 30 * 365 * 24 * 60 * 60 * 1000000000

/-- Makes an entry for after a delay; one that is too long to be measured is cut short. -/
def scheduleIn (delay : Nat) (action : α) (a : Agenda α) : Agenda α :=
  a.scheduleAt (a.now + min delay longestDelay) action

def advance (nanos : Nat) (a : Agenda α) : Agenda α := { a with now := a.now + nanos }

/-- Takes out the first entry if it is due. -/
def takeDue? (a : Agenda α) : Option (Entry α × Agenda α) :=
  match a.entries with
  | [] => none
  | e :: es => if e.due ≤ a.now then some (e, { a with entries := es }) else none

/-- Takes out all entries that are due, in order. -/
def takeAllDue (a : Agenda α) : List (Entry α) × Agenda α :=
  (a.entries.takeWhile fun e => e.due ≤ a.now,
    { a with entries := a.entries.dropWhile fun e => e.due ≤ a.now })

end Agenda

end FaasOperator
