/-
# `FaasOperator.StringMap` — maps from strings, in the order of their keys

The order of keys is that of their code points.  That the entries ascend is part of the type, so a
map is determined by its lookups (`ext_get?`), and two ways of building one that answer the same
lookups build the same map.
-/
namespace FaasOperator

/-- A finite map from strings, in key order. -/
structure StringMap (α : Type u) where
  entries : List (String × α)
  sorted : entries.Pairwise (fun a b => a.1 < b.1)
deriving DecidableEq

namespace StringMap

variable {α : Type u} {β : Type v}

/-! ## Lists of entries -/

/-- The value at a key of a list of entries. -/
def find (k : String) : List (String × α) → Option α
  | [] => none
  | (k', v) :: es => if k' = k then some v else find k es

/-- Puts an entry into an ascending list, in place of the one with the same key. -/
def place (k : String) (v : α) : List (String × α) → List (String × α)
  | [] => [(k, v)]
  | (k', v') :: es =>
      if k < k' then (k, v) :: (k', v') :: es
      else if k' = k then (k, v) :: es
      else (k', v') :: place k v es

theorem mem_place {k : String} {v : α} {e : String × α} {es : List (String × α)}
    (h : e ∈ place k v es) : e = (k, v) ∨ e ∈ es := by
  induction es with
  | nil => simpa [place] using h
  | cons hd tl ih =>
    obtain ⟨k', v'⟩ := hd
    rw [place] at h
    split at h
    · simpa using h
    · split at h
      · rcases List.mem_cons.mp h with h | h
        · exact .inl h
        · exact .inr (List.mem_cons_of_mem _ h)
      · rcases List.mem_cons.mp h with h | h
        · exact .inr (h ▸ List.mem_cons_self ..)
        · rcases ih h with h | h
          · exact .inl h
          · exact .inr (List.mem_cons_of_mem _ h)

theorem lt_of_not_lt_of_ne {a b : String} (h : ¬a < b) (hne : b ≠ a) : b < a := by
  rcases Std.lt_trichotomy a b with h' | h' | h'
  · exact absurd h' h
  · exact absurd h'.symm hne
  · exact h'

theorem sorted_place (k : String) (v : α) {es : List (String × α)}
    (h : es.Pairwise (fun a b => a.1 < b.1)) : (place k v es).Pairwise (fun a b => a.1 < b.1) := by
  induction es with
  | nil => simp [place]
  | cons hd tl ih =>
    obtain ⟨k', v'⟩ := hd
    have ⟨hhd, htl⟩ := List.pairwise_cons.mp h
    rw [place]
    split
    · rename_i hlt
      refine List.pairwise_cons.mpr ⟨fun e he => ?_, h⟩
      rcases List.mem_cons.mp he with rfl | he
      · exact hlt
      · exact String.lt_trans hlt (hhd e he)
    · split
      · rename_i heq
        exact List.pairwise_cons.mpr ⟨fun e he => heq ▸ hhd e he, htl⟩
      · rename_i hlt hne
        refine List.pairwise_cons.mpr ⟨fun e he => ?_, ih htl⟩
        rcases mem_place he with rfl | he
        · exact lt_of_not_lt_of_ne hlt hne
        · exact hhd e he

theorem find_place (k k' : String) (v : α) (es : List (String × α)) :
    find k' (place k v es) = if k' = k then some v else find k' es := by
  induction es with
  | nil => simp only [place, find, eq_comm]
  | cons hd tl ih =>
    obtain ⟨k'', v''⟩ := hd
    rw [place]
    split
    · simp only [find, eq_comm]
    · split
      · rename_i heq
        subst heq
        by_cases h : k'' = k'
        · simp [find, h]
        · simp [find, h, Ne.symm h]
      · rename_i hne
        by_cases h : k'' = k'
        · subst h; simp [find, hne]
        · simp [find, h, ih]

theorem mem_of_find {k : String} {v : α} {es : List (String × α)} (h : find k es = some v) :
    (k, v) ∈ es := by
  induction es with
  | nil => simp [find] at h
  | cons hd tl ih =>
    obtain ⟨k', v'⟩ := hd
    rw [find] at h
    split at h
    · rename_i heq
      cases h
      exact heq ▸ List.mem_cons_self ..
    · exact List.mem_cons_of_mem _ (ih h)

theorem find_of_mem {k : String} {v : α} {es : List (String × α)}
    (hs : es.Pairwise (fun a b => a.1 < b.1)) (h : (k, v) ∈ es) : find k es = some v := by
  induction es with
  | nil => simp at h
  | cons hd tl ih =>
    obtain ⟨k', v'⟩ := hd
    have ⟨hhd, htl⟩ := List.pairwise_cons.mp hs
    rcases List.mem_cons.mp h with h | h
    · cases h; simp [find]
    · have hlt : k' < k := hhd _ h
      have hne : k' ≠ k := fun e => String.lt_irrefl _ (e ▸ hlt)
      simp [find, hne, ih htl h]

/-! ## Maps -/

def empty : StringMap α := ⟨[], .nil⟩

instance : EmptyCollection (StringMap α) := ⟨empty⟩

instance : Inhabited (StringMap α) := ⟨empty⟩

def get? (m : StringMap α) (k : String) : Option α := find k m.entries

def contains (m : StringMap α) (k : String) : Bool := (m.get? k).isSome

/-- Gives a key its value; a value that it had before is gone. -/
def insert (m : StringMap α) (k : String) (v : α) : StringMap α :=
  ⟨place k v m.entries, sorted_place k v m.sorted⟩

def erase (m : StringMap α) (k : String) : StringMap α :=
  ⟨m.entries.filter (fun e => e.1 != k), m.sorted.filter _⟩

/-- The map without entries is the only empty one. -/
def isEmpty (m : StringMap α) : Bool := m.entries.isEmpty

def size (m : StringMap α) : Nat := m.entries.length

/-- The keys in ascending order. -/
def keys (m : StringMap α) : List String := m.entries.map (·.1)

def values (m : StringMap α) : List α := m.entries.map (·.2)

/-- Inserts the entries one after the other; of two with the same key the later one stays. -/
def insertAll (m : StringMap α) (es : List (String × α)) : StringMap α :=
  es.foldl (fun m e => m.insert e.1 e.2) m

/-- The map of a list of entries; of two with the same key the later one stays. -/
def ofList (es : List (String × α)) : StringMap α := empty.insertAll es

/-- Both maps in one; where both have a value, the second one's stays. -/
def overlay (m n : StringMap α) : StringMap α := m.insertAll n.entries

def map (f : α → β) (m : StringMap α) : StringMap β :=
  ⟨m.entries.map (fun e => (e.1, f e.2)), m.sorted.map _ (fun _ _ h => h)⟩

/-! ## Lookups -/

@[simp] theorem get?_empty (k : String) : (empty : StringMap α).get? k = none := rfl

theorem get?_insert (m : StringMap α) (k k' : String) (v : α) :
    (m.insert k v).get? k' = if k' = k then some v else m.get? k' :=
  find_place k k' v m.entries

theorem mem_entries_iff (m : StringMap α) (k : String) (v : α) :
    (k, v) ∈ m.entries ↔ m.get? k = some v :=
  ⟨find_of_mem m.sorted, mem_of_find⟩

theorem get?_erase (m : StringMap α) (k k' : String) :
    (m.erase k).get? k' = if k' = k then none else m.get? k' := by
  have h (v : α) : (m.erase k).get? k' = some v ↔ k' ≠ k ∧ m.get? k' = some v := by
    rw [← mem_entries_iff, ← mem_entries_iff]
    simp [erase, and_comm]
  rw [Option.ext_iff]
  intro v
  rw [h v]
  split <;> simp_all

/-- A map is determined by its lookups. -/
theorem ext_get? {m n : StringMap α} (h : ∀ k, m.get? k = n.get? k) : m = n := by
  have hmem : ∀ e, e ∈ m.entries ↔ e ∈ n.entries := fun (k, v) => by
    rw [mem_entries_iff, mem_entries_iff, h]
  have key : ∀ {as bs : List (String × α)}, as.Pairwise (fun a b => a.1 < b.1) →
      bs.Pairwise (fun a b => a.1 < b.1) → (∀ e, e ∈ as ↔ e ∈ bs) → as = bs := by
    intro as
    induction as with
    | nil =>
      intro bs _ _ h
      cases bs with
      | nil => rfl
      | cons b bs => exact absurd ((h b).2 (List.mem_cons_self ..)) (List.not_mem_nil)
    | cons a as ih =>
      intro bs ha hb h
      cases bs with
      | nil => exact absurd ((h a).1 (List.mem_cons_self ..)) (List.not_mem_nil)
      | cons b bs =>
        have ⟨ha1, ha2⟩ := List.pairwise_cons.mp ha
        have ⟨hb1, hb2⟩ := List.pairwise_cons.mp hb
        have hab : a = b := by
          rcases List.mem_cons.mp ((h a).1 (List.mem_cons_self ..)) with e | e
          · exact e
          · rcases List.mem_cons.mp ((h b).2 (List.mem_cons_self ..)) with e' | e'
            · exact e'.symm
            · exact absurd (String.lt_trans (ha1 b e') (hb1 a e)) (String.lt_irrefl _)
        subst hab
        have : as = bs := ih ha2 hb2 fun e => by
          constructor
          · intro he
            rcases List.mem_cons.mp ((h e).1 (List.mem_cons_of_mem _ he)) with e' | e'
            · exact absurd (e' ▸ ha1 e he) (String.lt_irrefl _)
            · exact e'
          · intro he
            rcases List.mem_cons.mp ((h e).2 (List.mem_cons_of_mem _ he)) with e' | e'
            · exact absurd (e' ▸ hb1 e he) (String.lt_irrefl _)
            · exact e'
        rw [this]
  cases m; cases n
  simp only [mk.injEq]
  exact key (by assumption) (by assumption) hmem

end StringMap

end FaasOperator
