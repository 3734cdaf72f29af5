/-
# `FaasOperator.Proofs.Json.Decoder` — values are decoded from every text that gives them

`Accepts` says it of strings, truth values, integers, lists, maps, and whatever may be null.  Of a
record the decoder has a draft, which depends on the names of the fields that came so far and not on
their order; `Drafts` says so of one kind of record, and `Drafts.strict` that such a record is read
from each of its texts.
-/
import FaasOperator.Proofs.Json.Reader
import FaasOperator.Proofs.StringMap

namespace FaasOperator.Json

@[simp] theorem Literal.value_sound (s : String) : (Literal.sound s.toList).value = .ok s := by
  simp [Literal.value, Literal.sound]

namespace Decoder

variable {α : Type}

/-- A 32-bit integer is no larger than the largest integer that is kept digit by digit. -/
theorem int32_number (n : Int32) : int32 (.number (.ofInt n.toInt)) = .ok n := by
  have hlo : Int32.minValue.toInt ≤ n.toInt := n.minValue_le_toInt
  have hhi : n.toInt ≤ Int32.maxValue.toInt := n.toInt_le
  have hmin : Int32.minValue.toInt = -2147483648 := by decide
  have hmax : Int32.maxValue.toInt = 2147483647 := by decide
  have hlimit : Numeral.significandLimit = 18446744073709551615 := by decide
  have hsmall : (Numeral.ofInt n.toInt).isTooLarge = false :=
    Numeral.isTooLarge_ofInt (by omega)
  simp only [int32, intBetween, hsmall, Bool.false_eq_true, if_false,
    Numeral.toInt?_ofInt, hlo, hhi, and_self, if_true, Except.map, Int32.ofInt_toInt]

theorem nullable_some {decode : Decoder α} {d : Document} (hd : d ≠ .null) {a : α}
    (ha : decode d = .ok a) : nullable decode d = .ok (some a) := by
  cases d with
  | null => exact absurd rfl hd
  | bool _ | number _ | text _ | list _ _ | record _ _ | broken _ _ =>
      simp only [nullable, ha, Except.map]

/-! ## Texts in every layout -/

open Reader

/-- Every text of a value has a document from which this value is decoded. -/
def Accepts (decode : Decoder α) (texts : Texts α) : Prop :=
  ∀ a cs, texts a cs → ∃ d, Yields cs d ∧ decode d = .ok a

theorem accepts_string : Accepts string StringText := by
  intro s cs h
  obtain ⟨body, rfl, hscans⟩ := h.scans
  exact ⟨.text (.sound s.toList), yields_quoted hscans, Literal.value_sound s⟩

theorem accepts_bool : Accepts bool BoolText := by
  rintro b cs rfl
  exact ⟨.bool b, yields_bool b, rfl⟩

theorem accepts_int32 : Accepts int32 Int32Text := by
  rintro i cs rfl
  exact ⟨_, yields_spell (Numeral.wellFormed_ofInt i.toInt) (.inl rfl), int32_number i⟩

theorem accepts_nullable {decode : Decoder α} {texts : Texts α} (h : Accepts decode texts)
    (hnull : ∀ a, decode .null ≠ .ok a) : Accepts (nullable decode) (NullableText texts) := by
  intro o cs ho
  cases o with
  | none =>
      obtain rfl : cs = nullText := ho
      exact ⟨.null, yields_null, rfl⟩
  | some a =>
      obtain ⟨d, hd, ha⟩ := h a cs ho
      have hne : d ≠ .null := by
        rintro rfl
        exact hnull a ha
      exact ⟨d, hd, nullable_some hne ha⟩

theorem exists_items {decode : Decoder α} {item : Texts α} (h : Accepts decode item)
    {as : List α} {ps : List Padded}
    (hitems : List.Forall₂ (fun a (p : Padded) => item a p.core) as ps) :
    ∃ ds, List.Forall₂ (fun (p : Padded) d => Yields p.core d) ps ds ∧
      items decode none ds = .ok as := by
  induction hitems with
  | nil => exact ⟨[], .nil, rfl⟩
  | @cons a p as ps hitem _ ih =>
      obtain ⟨d, hd, ha⟩ := h a p.core hitem
      obtain ⟨ds, hds, has⟩ := ih
      refine ⟨d :: ds, .cons hd hds, ?_⟩
      simp only [items, ha, has, Except.map]

theorem accepts_list {decode : Decoder α} {item : Texts α} (h : Accepts decode item) :
    Accepts (list decode) (ListText item) := by
  rintro as cs ⟨ws, ps, hws, hitems, rfl⟩
  obtain ⟨ds, hds, has⟩ := exists_items h hitems
  exact ⟨.list ds none, yields_list hws hds, has⟩

theorem exists_entries {decode : Decoder α} {value : Texts α} (h : Accepts decode value)
    {es : List (String × α)} {ps : List (Padded × Padded)}
    (hes : List.Forall₂ (fun (e : String × α) (p : Padded × Padded) =>
      StringText e.1 p.1.core ∧ value e.2 p.2.core) es ps) :
    ∃ ms, List.Forall₂ YieldsMember ps ms ∧
      ∀ m, entries decode none ms m = .ok (m.insertAll es) := by
  induction hes with
  | nil => exact ⟨[], .nil, fun _ => rfl⟩
  | @cons e p es ps hentry _ ih =>
      obtain ⟨hkey, hvalue⟩ := hentry
      obtain ⟨d, hd, ha⟩ := h e.2 p.2.core hvalue
      obtain ⟨ms, hms, hentries⟩ := ih
      refine ⟨(.sound e.1.toList, d) :: ms, .cons ⟨hkey.scans, hd⟩ hms, fun m => ?_⟩
      simp only [entries, Literal.value_sound, ha, hentries]
      rfl

theorem accepts_map {decode : Decoder α} {value : Texts α} (h : Accepts decode value) :
    Accepts (map decode) (MapText value) := by
  rintro m cs ⟨ws, es, ps, hws, hperm, hes, rfl⟩
  obtain ⟨ms, hms, hentries⟩ := exists_entries h hes
  refine ⟨.record ms none, yields_record hws hms, ?_⟩
  show entries decode none ms ∅ = .ok m
  rw [hentries ∅, StringMap.insertAll_perm hperm]

/-! ## Records in every layout -/

section Records

variable {δ : Type} {fields : List (RecordField δ)}

theorem find?_eq_none_of_notMem {name : String} (h : name ∉ fields.map (·.name)) :
    RecordField.find? fields name = none := by
  refine List.find?_eq_none.mpr fun f hf heq => h ?_
  exact List.mem_map.mpr ⟨f, hf, eq_of_beq heq⟩

theorem read_once {name : String} {decode : Decoder α} {get : δ → Option α}
    {set : α → δ → δ} {omissible : Bool} {doc : Document} {r : δ} {a : α}
    (hget : get r = none) (ha : decode doc = .ok a) :
    (RecordField.once name decode get set omissible).read doc r = .ok (set a r) := by
  simp only [RecordField.once, hget, ha, Option.isSome_none, Bool.false_eq_true, if_false,
    Except.map]

/-- A field that is read into the record, unless it was given before.  `draft names` is the record
once the fields of these names were given. -/
def ReadsField (fields : List (RecordField δ)) (draft : List String → δ) (f : FieldText) : Prop :=
  ∃ r, RecordField.find? fields f.name = some r ∧ ∀ cs, f.text cs →
    ∃ d, Yields cs d ∧
      ∀ names, f.name ∉ names → r.read d (draft names) = .ok (draft (f.name :: names))

theorem readsField_once {draft : List String → δ} {name : String} {decode : Decoder α}
    {get : δ → Option α} {set : α → δ → δ} {omissible : Bool}
    (hfind : RecordField.find? fields name = some (.once name decode get set omissible))
    {texts : Texts α} (h : Accepts decode texts) {a : α} {without : Prop}
    (hget : ∀ names, name ∉ names → get (draft names) = none)
    (hset : ∀ names, set a (draft names) = draft (name :: names)) :
    ReadsField fields draft ⟨name, texts a, without⟩ := by
  refine ⟨_, hfind, fun cs hcs => ?_⟩
  obtain ⟨d, hd, ha⟩ := h a cs hcs
  refine ⟨d, hd, fun names hname => ?_⟩
  rw [read_once (hget names hname) ha, hset]

/-- Every field that is given is read into the record, and no other name changes it. -/
structure Drafts (fields : List (RecordField δ)) (given : List FieldText)
    (draft : List String → δ) : Prop where
  field : ∀ f ∈ given, ReadsField fields draft f
  unknown : ∀ name, name ∉ given.map (·.name) → RecordField.find? fields name = none
  draft_unknown : ∀ name, name ∉ given.map (·.name) → ∀ names, draft (name :: names) = draft names

variable {given : List FieldText} {draft : List String → δ}

theorem Drafts.exists_members (h : Drafts fields given draft) {names : List String}
    {ps : List (Padded × Padded)} (hps : List.Forall₂ (MemberText given) names ps)
    (seen : List String)
    (honce : ∀ f ∈ given, names.count f.name + seen.count f.name ≤ 1) :
    ∃ ms, List.Forall₂ YieldsMember ps ms ∧
      members fields none ms (draft seen) = .ok (draft (names.reverse ++ seen)) := by
  induction hps generalizing seen with
  | nil => exact ⟨[], .nil, rfl⟩
  | @cons name p names ps hp _ ih =>
      have honce' : ∀ f ∈ given, names.count f.name + (name :: seen).count f.name ≤ 1 := by
        intro f hf
        have hf' := honce f hf
        rw [List.count_cons] at hf' ⊢
        omega
      obtain ⟨ms, hms, hmembers⟩ := ih (name :: seen) honce'
      have hnames : (name :: names).reverse ++ seen = names.reverse ++ name :: seen := by simp
      rw [hnames]
      -- The other members start from the draft that has seen this name.  For a field that is the
      -- draft in which it was read, for any other name it is the draft as it was.
      cases hp with
      | @field f _ hf hkey htext =>
          obtain ⟨r, hfind, hread⟩ := h.field f hf
          obtain ⟨d, hd, hd'⟩ := hread _ htext
          have hfresh : f.name ∉ seen := by
            intro hmem
            have hf' := honce f hf
            have hpos := List.count_pos_iff.mpr hmem
            rw [List.count_cons_self] at hf'
            omega
          refine ⟨(.sound f.name.toList, d) :: ms, .cons ⟨hkey.scans, hd⟩ hms, ?_⟩
          simp only [members, Literal.value_sound, hfind, hd' seen hfresh, hmembers]
      | unknown hname hkey hvalue =>
          obtain ⟨d, hskip, hd⟩ := hvalue.yields
          refine ⟨(.sound name.toList, d) :: ms, .cons ⟨hkey.scans, hd⟩ hms, ?_⟩
          rw [h.draft_unknown name hname seen] at hmembers
          simp only [members, Literal.value_sound, h.unknown name hname, hskip, hmembers]

/-- A strict record is read from each of its texts, and what was not given may be left out. -/
theorem Drafts.strict (h : Drafts fields given draft) {cs : List Char}
    (hcs : RecordText given cs) :
    ∃ d names, Yields cs d ∧ strict fields (draft []) d = .ok (draft names) ∧
      ∀ f ∈ given, f.name ∈ names ∨ f.omissible := by
  obtain ⟨hws, hps, honce, hgiven⟩ := hcs
  obtain ⟨ms, hms, hmembers⟩ := h.exists_members hps [] (by simpa using honce)
  refine ⟨.record ms none, _, yields_record hws hms, hmembers, fun f hf => ?_⟩
  simpa using hgiven f hf

end Records

end Decoder

end FaasOperator.Json
