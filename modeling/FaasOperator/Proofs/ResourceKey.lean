/-
# `FaasOperator.Proofs.ResourceKey` — which texts are keys, and which keys are told by their texts

A key may be made of any two texts, and writing it tells nothing of where the one ends and the other
begins.  Reading cuts the text at its first slash and allows no second one.  So, for every string
and every key (`reads_keys`):

* a string is read just if it has one slash and something on each side of it;
* what is read from it is the one such key that is written as this string;
* the text of a key is read as this key if both of its parts say something and have no slash in
  them, and otherwise it is not read at all, and never as another key.

Two keys can have one text only if a slash belongs to a namespace (`eq_of_render`).
-/
import FaasOperator.Proofs.Text
import FaasOperator.ResourceKey

namespace FaasOperator.ResourceKey

/-- The text has one slash, and something on each side of it. -/
structure Slashed (s : String) : Prop where
  once : s.toList.count '/' = 1
  between : ∃ before after, s.toList = before ++ '/' :: after ∧ before ≠ [] ∧ after ≠ []

/-- Both parts of the key say something, and neither has a slash in it. -/
structure Plain (k : ResourceKey) : Prop where
  ns_ne : k.ns ≠ ""
  name_ne : k.name ≠ ""
  ns_unslashed : '/' ∉ k.ns.toList
  name_unslashed : '/' ∉ k.name.toList

variable {s : String} {k k' : ResourceKey}

theorem toList_render (k : ResourceKey) :
    k.render.toList = k.ns.toList ++ '/' :: k.name.toList := by
  simp [render]

theorem parse?_eq_some_iff : parse? s = some k ↔ k.Plain ∧ k.render = s := by
  constructor
  · intro h
    unfold parse? at h
    split at h
    · cases h
    · rename_i ns name hcut
      split at h
      · cases h
      · rename_i hsound
        cases h
        obtain ⟨hslash, hs⟩ := Text.cut?_eq_some_iff.mp hcut
        simp only [Bool.or_eq_true, List.isEmpty_iff, List.contains_iff_mem, not_or] at hsound
        obtain ⟨⟨hns, hname⟩, hsecond⟩ := hsound
        refine ⟨⟨?_, ?_, ?_, ?_⟩, ?_⟩
        · simpa using hns
        · simpa using hname
        · simpa using hslash
        · simpa using hsecond
        · rw [← String.toList_inj, toList_render, hs, String.toList_ofList, String.toList_ofList]
  · rintro ⟨hplain, rfl⟩
    have hcut : Text.cut? '/' k.render.toList = some (k.ns.toList, k.name.toList) :=
      Text.cut?_eq_some_iff.mpr ⟨hplain.ns_unslashed, k.toList_render⟩
    have hns : k.ns.toList ≠ [] := by simpa using hplain.ns_ne
    have hname : k.name.toList ≠ [] := by simpa using hplain.name_ne
    simp [parse?, hcut, hns, hname, hplain.name_unslashed]

theorem slashed_iff : Slashed s ↔ ∃ k : ResourceKey, k.Plain ∧ k.render = s := by
  constructor
  · rintro ⟨honce, before, after, hs, hbefore, hafter⟩
    have hcount : before.count '/' + after.count '/' = 0 := by
      rw [hs, List.count_append, List.count_cons_self] at honce
      omega
    obtain ⟨hb, ha⟩ := Nat.add_eq_zero_iff.mp hcount
    refine ⟨⟨String.ofList before, String.ofList after⟩, ⟨?_, ?_, ?_, ?_⟩, ?_⟩
    · simpa using hbefore
    · simpa using hafter
    · simpa using List.count_eq_zero.mp hb
    · simpa using List.count_eq_zero.mp ha
    · rw [← String.toList_inj, toList_render, hs, String.toList_ofList, String.toList_ofList]
  · rintro ⟨k, hplain, rfl⟩
    constructor
    · rw [toList_render, List.count_append, List.count_cons_self,
        List.count_eq_zero.mpr hplain.ns_unslashed, List.count_eq_zero.mpr hplain.name_unslashed]
    · refine ⟨k.ns.toList, k.name.toList, k.toList_render, ?_, ?_⟩
      · simpa using hplain.ns_ne
      · simpa using hplain.name_ne

theorem parse?_eq_none_iff : parse? s = none ↔ ¬Slashed s := by
  rw [slashed_iff, Option.eq_none_iff_forall_ne_some]
  simp only [ne_eq, parse?_eq_some_iff, not_exists]

theorem eq_of_render (hk : '/' ∉ k.ns.toList) (hk' : '/' ∉ k'.ns.toList)
    (h : k.render = k'.render) : k = k' := by
  have hcut : Text.cut? '/' k.render.toList = some (k.ns.toList, k.name.toList) :=
    Text.cut?_eq_some_iff.mpr ⟨hk, k.toList_render⟩
  have hcut' : Text.cut? '/' k'.render.toList = some (k'.ns.toList, k'.name.toList) :=
    Text.cut?_eq_some_iff.mpr ⟨hk', k'.toList_render⟩
  rw [h, hcut', Option.some.injEq, Prod.mk.injEq] at hcut
  have hns : k'.ns = k.ns := String.toList_inj.mp hcut.1
  have hname : k'.name = k.name := String.toList_inj.mp hcut.2
  cases k
  cases k'
  cases hns
  cases hname
  rfl

/-- The text of a key that is not plain has too many slashes, or nothing on one side. -/
theorem slashed_render_iff : Slashed k.render ↔ k.Plain := by
  refine ⟨fun h => ?_, fun h => slashed_iff.mpr ⟨k, h, rfl⟩⟩
  have hns : '/' ∉ k.ns.toList := by
    have honce := h.once
    rw [toList_render, List.count_append, List.count_cons_self] at honce
    exact List.count_eq_zero.mp (by omega)
  obtain ⟨k', hplain, heq⟩ := slashed_iff.mp h
  exact eq_of_render hplain.ns_unslashed hns heq ▸ hplain

/-- A text is read as a key just if it has one slash and something on each side of it, and what is
read from it is written as this text.  The text of a key is read as that key if both parts say
something and have no slash in them; otherwise it is not read, and never as another key. -/
theorem reads_keys (s : String) (k : ResourceKey) :
    (parse? s = none ↔ ¬Slashed s) ∧
    (parse? s = some k ↔ Slashed s ∧ k.render = s) ∧
    (parse? k.render = none ↔ ¬k.Plain) ∧
    ∀ k', parse? k.render = some k' ↔ k.Plain ∧ k' = k := by
  refine ⟨parse?_eq_none_iff, ?_, ?_, fun k' => ?_⟩
  · rw [parse?_eq_some_iff]
    refine and_congr_left ?_
    rintro rfl
    exact slashed_render_iff.symm
  · rw [parse?_eq_none_iff, slashed_render_iff]
  · rw [parse?_eq_some_iff]
    constructor
    · rintro ⟨hplain, heq⟩
      have hk : k.Plain := slashed_render_iff.mp (slashed_iff.mpr ⟨k', hplain, heq⟩)
      exact ⟨hk, eq_of_render hplain.ns_unslashed hk.ns_unslashed heq⟩
    · rintro ⟨hplain, rfl⟩
      exact ⟨hplain, rfl⟩

end FaasOperator.ResourceKey
