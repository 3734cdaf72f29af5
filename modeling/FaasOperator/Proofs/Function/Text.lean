/-
# `FaasOperator.Proofs.Function.Text` — a declaration is read back from its own text

## What is proved

For every declaration `s`, whatever it holds, every string and replica count, absent and empty maps
and lists alike (`text_identifies`):

* the text of `s` is one JSON document, with nothing behind it;
* `parse s.render = .ok s`;
* no other declaration has the same text;
* where `s` gives a map, a list or amounts with nothing in it and another declaration gives none,
  the two texts are read as different declarations.

## How

The only number of a declaration is its replica count, an integer (`integral_toJson`), so the
compact text is read as the document of the value, and decoding the fields in their order undoes
writing them.
-/
import FaasOperator.Proofs.Function.Layout

namespace FaasOperator

open Json

namespace FunctionSpec

/-! ## The text -/

theorem integralItems_texts (ss : List String) : IntegralItems (ss.map .text) := by
  induction ss with
  | nil => trivial
  | cons s ss ih => exact ⟨trivial, ih⟩

theorem integralMembers_texts (es : List (String × String)) :
    IntegralMembers (es.map fun (k, v) => (k, .text v)) := by
  induction es with
  | nil => trivial
  | cons e es ih => exact ⟨trivial, ih⟩

theorem integral_resources (r : FunctionResources) : r.toJson.Integral := by
  obtain ⟨memory, cpu⟩ := r
  cases memory <;> cases cpu <;>
    simp [FunctionResources.toJson, Json.present, Integral, IntegralMembers]

theorem integral_map (m : StringMap String) : m.toJson.Integral :=
  integralMembers_texts m.entries

theorem integral_list (ss : List String) : (Json.texts ss).Integral :=
  integralItems_texts ss

theorem integral_int32 (n : Int32) : (Json.int n.toInt).Integral :=
  ⟨n.toInt, rfl⟩

theorem integral_orNull {α : Type} {write : α → Json} (h : ∀ a, (write a).Integral)
    (o : Option α) : (orNull (o.map write)).Integral := by
  cases o with
  | none => trivial
  | some a => exact h a

/-- The only number of a declaration is its replica count. -/
theorem integral_toJson (s : FunctionSpec) : s.toJson.Integral := by
  have hmap (m : Option (StringMap String)) : (orNull (m.map StringMap.toJson)).Integral :=
    integral_orNull integral_map m
  have hlist (ss : Option (List String)) : (orNull (ss.map Json.texts)).Integral :=
    integral_orNull integral_list ss
  have hres (r : Option FunctionResources) :
      (orNull (r.map FunctionResources.toJson)).Integral :=
    integral_orNull integral_resources r
  have hreplicas : (orNull (s.replicas.map fun n => Json.int n.toInt)).Integral :=
    integral_orNull integral_int32 s.replicas
  exact ⟨trivial, trivial, hreplicas, trivial, hmap _, hmap _, hmap _, hlist _, hlist _, hres _,
    hres _, trivial, trivial⟩

theorem parse_render (s : FunctionSpec) : FunctionSpec.parse s.render = .ok s :=
  parse_of_laidOut s.laidOut_render

theorem render_injective : Function.Injective FunctionSpec.render := by
  intro s t h
  have hs : FunctionSpec.parse s.render = .ok s := parse_render s
  rw [h, parse_render t] at hs
  exact (Except.ok.inj hs).symm

/-! ## Empty and absent -/

/-- Somewhere the first declaration gives a map, a list or a record of amounts with nothing in it,
and the second one gives none. -/
inductive EmptyForAbsent (s t : FunctionSpec) : Prop
  | annotations : s.annotations = some ∅ → t.annotations = none → EmptyForAbsent s t
  | labels : s.labels = some ∅ → t.labels = none → EmptyForAbsent s t
  | environment : s.environment = some ∅ → t.environment = none → EmptyForAbsent s t
  | constraints : s.constraints = some [] → t.constraints = none → EmptyForAbsent s t
  | secrets : s.secrets = some [] → t.secrets = none → EmptyForAbsent s t
  | limits : s.limits = some ⟨none, none⟩ → t.limits = none → EmptyForAbsent s t
  | requests : s.requests = some ⟨none, none⟩ → t.requests = none → EmptyForAbsent s t

/-- Equal declarations would give in that place both something and nothing. -/
theorem EmptyForAbsent.ne {s t : FunctionSpec} (h : s.EmptyForAbsent t) : s ≠ t := by
  have hne {α : Type} {f : FunctionSpec → Option α} {a : α} (hs : f s = some a)
      (ht : f t = none) : s ≠ t := by
    rintro rfl
    rw [hs] at ht
    cases ht
  cases h with
  | annotations hs ht => exact hne hs ht
  | labels hs ht => exact hne hs ht
  | environment hs ht => exact hne hs ht
  | constraints hs ht => exact hne hs ht
  | secrets hs ht => exact hne hs ht
  | limits hs ht => exact hne hs ht
  | requests hs ht => exact hne hs ht

/-- The text of a declaration is a JSON document from which exactly this declaration is read; no
other declaration has the same text, and what is empty in one and absent in the other is read from
their texts as such. -/
theorem text_identifies (s : FunctionSpec) :
    documentOf? s.render = some (toDocument s.toJson) ∧
    FunctionSpec.parse s.render = .ok s ∧
    (∀ t : FunctionSpec, t.render = s.render → t = s) ∧
    ∀ t : FunctionSpec, s.EmptyForAbsent t →
      FunctionSpec.parse s.render ≠ FunctionSpec.parse t.render := by
  refine ⟨?_, parse_render s, fun t h => render_injective h, fun t h hparse => ?_⟩
  · exact documentOf?_render (integral_toJson s)
  · rw [parse_render s, parse_render t] at hparse
    exact h.ne (Except.ok.inj hparse)

theorem text_identifies_empty_labels :
    ({ FunctionSpec.empty with labels := some ∅ }).EmptyForAbsent .empty ∧
    FunctionSpec.parse ({ FunctionSpec.empty with labels := some ∅ }).render ≠
      FunctionSpec.parse FunctionSpec.empty.render := by
  have h : ({ FunctionSpec.empty with labels := some ∅ }).EmptyForAbsent .empty :=
    .labels rfl rfl
  exact ⟨h, (text_identifies _).2.2.2 _ h⟩

end FunctionSpec

end FaasOperator
