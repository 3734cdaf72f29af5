/-
# `FaasOperator.Json.Equality` — equality of JSON values is decidable

Two values are equal when they are written alike up to the spelling of characters: numbers by their
digits, records by their members in order.  The instance is by a comparison that recurses over both
values at once (`Json.same`), since nested lists have no derived one.
-/
import FaasOperator.Json

namespace FaasOperator.Json

mutual

/-- Both values are the same. -/
def same : Json → Json → Bool
  | .null, .null => true
  | .bool a, .bool b => a == b
  | .number m, .number n => m == n
  | .text s, .text t => s == t
  | .list vs, .list ws => sameItems vs ws
  | .record ms, .record ns => sameMembers ms ns
  | _, _ => false

def sameItems : List Json → List Json → Bool
  | [], [] => true
  | v :: vs, w :: ws => same v w && sameItems vs ws
  | _, _ => false

/-- Both records have the same members in the same order. -/
def sameMembers : List (String × Json) → List (String × Json) → Bool
  | [], [] => true
  | (k, v) :: ms, (l, w) :: ns => k == l && same v w && sameMembers ms ns
  | _, _ => false

end

mutual

theorem same_self : (v : Json) → same v v = true
  | .null => by simp [same]
  | .bool _ | .number _ | .text _ => by simp [same]
  | .list vs => by simpa [same] using sameItems_self vs
  | .record ms => by simpa [same] using sameMembers_self ms

theorem sameItems_self : (vs : List Json) → sameItems vs vs = true
  | [] => by simp [sameItems]
  | v :: vs => by simp [sameItems, same_self v, sameItems_self vs]

theorem sameMembers_self : (ms : List (String × Json)) → sameMembers ms ms = true
  | [] => by simp [sameMembers]
  | (_, v) :: ms => by simp [sameMembers, same_self v, sameMembers_self ms]

end

mutual

theorem eq_of_same : (v w : Json) → same v w = true → v = w
  | .null, w, h => by cases w <;> simp_all [same]
  | .bool _, w, h => by cases w <;> simp_all [same]
  | .number _, w, h => by cases w <;> simp_all [same]
  | .text _, w, h => by cases w <;> simp_all [same]
  | .list vs, w, h => by
      cases w <;> simp only [same, Bool.false_eq_true] at h
      exact congrArg Json.list (eq_of_sameItems vs _ h)
  | .record ms, w, h => by
      cases w <;> simp only [same, Bool.false_eq_true] at h
      exact congrArg Json.record (eq_of_sameMembers ms _ h)

theorem eq_of_sameItems : (vs ws : List Json) → sameItems vs ws = true → vs = ws
  | [], [], _ => rfl
  | [], _ :: _, h => by simp [sameItems] at h
  | _ :: _, [], h => by simp [sameItems] at h
  | v :: vs, w :: ws, h => by
      simp only [sameItems, Bool.and_eq_true] at h
      rw [eq_of_same v w h.1, eq_of_sameItems vs ws h.2]

theorem eq_of_sameMembers : (ms ns : List (String × Json)) → sameMembers ms ns = true → ms = ns
  | [], [], _ => rfl
  | [], _ :: _, h => by simp [sameMembers] at h
  | _ :: _, [], h => by simp [sameMembers] at h
  | (k, v) :: ms, (l, w) :: ns, h => by
      simp only [sameMembers, Bool.and_eq_true, beq_iff_eq] at h
      rw [h.1.1, eq_of_same v w h.1.2, eq_of_sameMembers ms ns h.2]

end

theorem same_iff (v w : Json) : same v w = true ↔ v = w :=
  ⟨eq_of_same v w, fun h => h ▸ same_self v⟩

instance : DecidableEq Json := fun v w => decidable_of_iff _ (same_iff v w)

end FaasOperator.Json
