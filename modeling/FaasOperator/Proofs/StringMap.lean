/-
# `FaasOperator.Proofs.StringMap` — building maps from lists of entries

Each way of building is told by what it answers to a lookup: of the entries of one key the last one
counts (`get?_insertAll_reverse`, `get?_ofList_eq_some_iff`), and of two maps the second one
(`get?_overlay`).  Since a map is determined by its lookups, laws such as `insert_insert` and
`ofList_append` are equalities of maps, and are proved by comparing answers.
-/
import FaasOperator.StringMap

namespace FaasOperator.StringMap

variable {α : Type u}

@[simp] theorem get?_emptyCollection (k : String) : (∅ : StringMap α).get? k = none := rfl

@[simp] theorem get?_insert_self (m : StringMap α) (k : String) (v : α) :
    (m.insert k v).get? k = some v := by
  rw [get?_insert, if_pos rfl]

theorem get?_insert_of_ne (m : StringMap α) {k k' : String} (h : k' ≠ k) (v : α) :
    (m.insert k v).get? k' = m.get? k' := by
  rw [get?_insert, if_neg h]

theorem insert_insert (m : StringMap α) (k : String) (v w : α) :
    (m.insert k v).insert k w = m.insert k w := by
  apply ext_get?
  intro k'
  by_cases h : k' = k
  · rw [h, get?_insert_self, get?_insert_self]
  · rw [get?_insert_of_ne _ h, get?_insert_of_ne _ h, get?_insert_of_ne _ h]

theorem insert_comm (m : StringMap α) {k k' : String} (h : k ≠ k') (v w : α) :
    (m.insert k v).insert k' w = (m.insert k' w).insert k v := by
  apply ext_get?
  intro key
  by_cases hk : key = k
  · rw [hk, get?_insert_of_ne _ h, get?_insert_self, get?_insert_self]
  · by_cases hk' : key = k'
    · rw [hk', get?_insert_self, get?_insert_of_ne _ h.symm, get?_insert_self]
    · rw [get?_insert_of_ne _ hk', get?_insert_of_ne _ hk, get?_insert_of_ne _ hk,
        get?_insert_of_ne _ hk']

/-! ## Many entries at once -/

theorem insertAll_cons (m : StringMap α) (k : String) (v : α) (es : List (String × α)) :
    m.insertAll ((k, v) :: es) = (m.insert k v).insertAll es := rfl

theorem insertAll_append (m : StringMap α) (es es' : List (String × α)) :
    m.insertAll (es ++ es') = (m.insertAll es).insertAll es' :=
  List.foldl_append

/-- Of the entries of one key the last one gives it its value; a key of no entry keeps what it
has. -/
theorem get?_insertAll_reverse (m : StringMap α) (es : List (String × α)) (k : String) :
    (m.insertAll es).get? k = (es.reverse.lookup k).or (m.get? k) := by
  induction es generalizing m with
  | nil => rfl
  | cons e es ih =>
      obtain ⟨k', v⟩ := e
      rw [insertAll_cons, ih, List.reverse_cons, List.lookup_append, Option.or_assoc]
      congr 1
      by_cases hk : k = k'
      · rw [hk, get?_insert_self, List.lookup_cons_self, Option.some_or]
      · rw [get?_insert_of_ne m hk, List.lookup_cons, beq_false_of_ne hk]
        rfl

theorem get?_insertAll_of_notMem {es : List (String × α)} {k : String}
    (h : ∀ e ∈ es, e.1 ≠ k) (m : StringMap α) : (m.insertAll es).get? k = m.get? k := by
  have hnone : es.reverse.lookup k = none := by
    rw [List.lookup_eq_none_iff]
    intro e he
    exact bne_iff_ne.mpr (h e (List.mem_reverse.mp he)).symm
  rw [get?_insertAll_reverse, hnone, Option.none_or]

/-- Ascending entries have one value for each key, and it replaces the map's. -/
theorem get?_insertAll {es : List (String × α)}
    (hs : es.Pairwise fun a b => a.1 < b.1) (m : StringMap α) (k : String) :
    (m.insertAll es).get? k = (find k es).or (m.get? k) := by
  induction es generalizing m with
  | nil => rfl
  | cons e es ih =>
      obtain ⟨k', v⟩ := e
      have ⟨hhd, htl⟩ := List.pairwise_cons.mp hs
      show ((m.insert k' v).insertAll es).get? k = _
      by_cases hk : k' = k
      · subst hk
        have hfresh : ∀ e ∈ es, e.1 ≠ k' := fun e he heq =>
          String.lt_irrefl k' (heq ▸ hhd e he)
        rw [get?_insertAll_of_notMem hfresh, get?_insert_self]
        simp only [find, if_pos, Option.some_or]
      · rw [ih htl, get?_insert_of_ne _ (Ne.symm hk)]
        simp only [find, if_neg hk]

theorem get?_overlay (m n : StringMap α) (k : String) :
    (m.overlay n).get? k = (n.get? k).or (m.get? k) :=
  get?_insertAll n.sorted m k

theorem ofList_entries (m : StringMap α) : ofList m.entries = m := by
  apply ext_get?
  intro k
  rw [ofList, get?_insertAll m.sorted, get?_empty, Option.or_none]
  rfl

theorem insertAll_perm {es : List (String × α)} {m : StringMap α} (h : es.Perm m.entries) :
    (∅ : StringMap α).insertAll es = m := by
  have hcomm : ∀ a ∈ es, ∀ b ∈ es, ∀ n : StringMap α,
      (n.insert a.1 a.2).insert b.1 b.2 = (n.insert b.1 b.2).insert a.1 a.2 := by
    rintro ⟨k, v⟩ ha ⟨k', w⟩ hb n
    by_cases hk : k = k'
    · subst hk
      have hv : m.get? k = some v := (mem_entries_iff m k v).mp (h.mem_iff.mp ha)
      have hw : m.get? k = some w := (mem_entries_iff m k w).mp (h.mem_iff.mp hb)
      cases Option.some.inj (hv.symm.trans hw)
      rfl
    · exact insert_comm n hk v w
  exact (h.foldl_eq' hcomm ∅).trans (ofList_entries m)

/-! ## The map of a list -/

theorem get?_ofList (es : List (String × α)) (k : String) :
    (ofList es).get? k = es.reverse.lookup k := by
  rw [ofList, get?_insertAll_reverse, get?_empty, Option.or_none]

theorem get?_ofList_eq_some_iff {es : List (String × α)} {k : String} {v : α} :
    (ofList es).get? k = some v ↔
      ∃ before after, es = before ++ (k, v) :: after ∧ ∀ e ∈ after, e.1 ≠ k := by
  rw [get?_ofList, List.lookup_eq_some_iff]
  constructor
  · rintro ⟨after, before, hsplit, hlast⟩
    refine ⟨before.reverse, after.reverse, ?_, fun e he => ?_⟩
    · rw [List.reverse_eq_iff.mp hsplit, List.reverse_append, List.reverse_cons, List.append_assoc]
      rfl
    · exact (bne_iff_ne.mp (hlast e (List.mem_reverse.mp he))).symm
  · rintro ⟨before, after, rfl, hlast⟩
    refine ⟨after.reverse, before.reverse, ?_, fun e he => ?_⟩
    · rw [List.reverse_append, List.reverse_cons, List.append_assoc]
      rfl
    · exact bne_iff_ne.mpr (hlast e (List.mem_reverse.mp he)).symm

theorem get?_ofList_of_mem {es : List (String × α)} (hn : (es.map (·.1)).Nodup) {k : String}
    {v : α} (h : (k, v) ∈ es) : (ofList es).get? k = some v := by
  obtain ⟨before, after, rfl⟩ := List.append_of_mem h
  rw [get?_ofList_eq_some_iff]
  refine ⟨before, after, rfl, fun e he heq => ?_⟩
  rw [List.map_append, List.map_cons, List.nodup_append] at hn
  exact (List.nodup_cons.mp hn.2.1).1 (List.mem_map.mpr ⟨e, he, heq⟩)

theorem contains_ofList (es : List (String × α)) (k : String) :
    (ofList es).contains k = true ↔ k ∈ es.map (·.1) := by
  rw [contains, get?_ofList, List.lookup_isSome_iff, List.mem_map]
  simp only [List.mem_reverse, beq_iff_eq, @eq_comm _ k]

theorem ofList_append (es es' : List (String × α)) :
    ofList (es ++ es') = (ofList es).overlay (ofList es') := by
  apply ext_get?
  intro k
  rw [get?_overlay, get?_ofList, get?_ofList, get?_ofList, List.reverse_append, List.lookup_append]

/-! ## Keys -/

theorem sorted_keys (m : StringMap α) : m.keys.Pairwise (· < ·) :=
  List.pairwise_map.mpr m.sorted

theorem mem_keys_iff (m : StringMap α) (k : String) : k ∈ m.keys ↔ m.contains k = true := by
  rw [contains, Option.isSome_iff_exists]
  simp only [keys, List.mem_map, ← mem_entries_iff]
  constructor
  · rintro ⟨⟨k', v⟩, hmem, rfl⟩
    exact ⟨v, hmem⟩
  · rintro ⟨v, hmem⟩
    exact ⟨(k, v), hmem, rfl⟩

/-! ## The empty map -/

theorem eq_empty_of_isEmpty {m : StringMap α} (h : m.isEmpty = true) : m = ∅ := by
  have hnil : m.entries = [] := List.isEmpty_iff.mp h
  apply ext_get?
  intro k
  rw [get?, hnil]
  rfl

theorem isEmpty_ofList_iff {es : List (String × α)} : (ofList es).isEmpty = true ↔ es = [] := by
  constructor
  · intro h
    rw [List.eq_nil_iff_forall_not_mem]
    intro e he
    have hkey : (ofList es).contains e.1 = true :=
      (contains_ofList es e.1).mpr (List.mem_map_of_mem he)
    rw [eq_empty_of_isEmpty h] at hkey
    cases hkey
  · rintro rfl
    rfl

/-- A map that is left out if it is empty answers as it stands. -/
theorem bind_get?_of_isEmpty (m : StringMap α) (k : String) :
    (if m.isEmpty then none else some m).bind (·.get? k) = m.get? k := by
  split
  · rename_i hempty
    rw [eq_empty_of_isEmpty hempty]
    rfl
  · rfl

/-! ## Values -/

theorem mem_values_iff {m : StringMap α} {a : α} :
    a ∈ m.values ↔ ∃ name, m.get? name = some a := by
  simp only [values, List.mem_map, ← mem_entries_iff]
  constructor
  · rintro ⟨⟨name, b⟩, hmem, rfl⟩
    exact ⟨name, hmem⟩
  · rintro ⟨name, hmem⟩
    exact ⟨(name, a), hmem, rfl⟩

/-- Values that differ wherever the keys do are listed once each. -/
theorem nodup_values {m : StringMap α}
    (h : ∀ name name' a, m.get? name = some a → m.get? name' = some a → name = name') :
    m.values.Nodup := by
  refine List.pairwise_map.mpr (m.sorted.imp_of_mem ?_)
  rintro ⟨name, a⟩ ⟨name', b⟩ ha hb (hlt : name < name') (rfl : a = b)
  rw [mem_entries_iff] at ha hb
  exact String.lt_irrefl name (h name name' a ha hb ▸ hlt)

end FaasOperator.StringMap
