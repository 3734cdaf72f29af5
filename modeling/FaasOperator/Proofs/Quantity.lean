/-
# `FaasOperator.Proofs.Quantity` — which texts are quantities

## What is proved

A quantity is a signed number with a suffix (`WellFormed`).  The grammar is an inductive description
of texts; it says nothing about where the number ends and the suffix begins, and a letter such as
`E` can be a suffix of its own or begin an exponent.  Reading agrees with it on every string
(`reads_grammar`).  With `t` the string without the white space at its ends:

    parse s = .ok ⟨t⟩               iff   the grammar derives t
    parse s = .error .empty         iff   t is empty
    parse s = .error (.number t)    iff   t is not empty, and its number part is no signed number
    parse s = .error (.suffix t)    iff   its number part is a signed number, and t is not derived

The number part is the longest beginning that consists of digits, points and signs.  These cases are
all there are, and what was accepted is accepted again, unchanged.

## How

No suffix begins with a character that a number can hold (`Suffix.head?`), so the number can only be
the longest beginning that consists of such characters (`wellFormed_iff`), which is where reading
cuts.
-/
import Mathlib.Data.List.TakeWhile
import FaasOperator.Proofs.Text
import FaasOperator.Quantity

namespace FaasOperator

/-! ## Trimming -/

namespace Text

variable {cs t : List Char}

/-- This is the text without the white space at its ends. -/
structure Trimmed (cs t : List Char) : Prop where
  around : ∃ lead trail, cs = lead ++ t ++ trail ∧
    (∀ c ∈ lead, isBlank c = true) ∧ ∀ c ∈ trail, isBlank c = true
  first : ∀ c, t.head? = some c → isBlank c = false
  last : ∀ c, t.getLast? = some c → isBlank c = false

theorem head?_dropWhile {p : Char → Bool} {c : Char} (h : (cs.dropWhile p).head? = some c) :
    p c = false := by
  have hhead := List.head?_dropWhile_not p cs
  rw [h] at hhead
  exact hhead

theorem dropWhile_of_head? {p : Char → Bool} (h : ∀ c, cs.head? = some c → p c = false) :
    cs.dropWhile p = cs := by
  cases cs with
  | nil => rfl
  | cons c cs => exact List.dropWhile_cons_of_neg (by simp [h c rfl])

theorem takeWhile_of_head? {p : Char → Bool} (h : ∀ c, cs.head? = some c → p c = false) :
    cs.takeWhile p = [] := by
  cases cs with
  | nil => rfl
  | cons c cs => exact List.takeWhile_cons_of_neg (by simp [h c rfl])

theorem trimEnd_append (cs : List Char) :
    ∃ trail, cs = trimEnd cs ++ trail ∧ ∀ c ∈ trail, isBlank c = true := by
  refine ⟨(cs.reverse.takeWhile isBlank).reverse, ?_, fun c hc => ?_⟩
  · rw [trimEnd, ← List.reverse_append, List.takeWhile_append_dropWhile, List.reverse_reverse]
  · exact List.mem_takeWhile_imp (List.mem_reverse.mp hc)

theorem trimmed_trim (cs : List Char) : Trimmed cs (trim cs) := by
  obtain ⟨trail, hsplit, htrail⟩ := trimEnd_append (cs.dropWhile isBlank)
  constructor
  · refine ⟨cs.takeWhile isBlank, trail, ?_, fun c hc => List.mem_takeWhile_imp hc, htrail⟩
    rw [trim, List.append_assoc, ← hsplit, List.takeWhile_append_dropWhile]
  · intro c hc
    have hhead : (cs.dropWhile isBlank).head? = some c := by
      rw [hsplit, List.head?_append, ← trim, hc]
      rfl
    exact head?_dropWhile hhead
  · intro c hc
    rw [trim, trimEnd, List.getLast?_reverse] at hc
    exact head?_dropWhile hc

theorem Trimmed.trim_eq (h : Trimmed cs t) : trim cs = t := by
  obtain ⟨lead, trail, rfl, hlead, htrail⟩ := h.around
  have hend : trimEnd (t ++ trail) = t := by
    rw [trimEnd, List.reverse_append,
      List.dropWhile_append_of_pos fun c hc => htrail c (List.mem_reverse.mp hc),
      dropWhile_of_head? fun c hc => h.last c (List.head?_reverse ▸ hc), List.reverse_reverse]
  rw [trim, List.append_assoc, List.dropWhile_append_of_pos hlead]
  cases t with
  | nil =>
      rw [List.nil_append, List.dropWhile_eq_nil_iff.mpr htrail]
      rfl
  | cons c t =>
      have hfirst : isBlank c = false := h.first c rfl
      rw [dropWhile_of_head? (by simpa using hfirst)]
      exact hend

theorem trimmed_iff : Trimmed cs t ↔ t = trim cs :=
  ⟨fun h => h.trim_eq.symm, fun h => h ▸ trimmed_trim cs⟩

theorem trim_trim (cs : List Char) : trim (trim cs) = trim cs :=
  Trimmed.trim_eq
    { (trimmed_trim cs) with around := ⟨[], [], by simp, nofun, nofun⟩ }

end Text

namespace Quantity

/-! ## The grammar -/

def Digits (cs : List Char) : Prop := cs ≠ [] ∧ ∀ c ∈ cs, c.isDigit = true

inductive Sign : List Char → Prop
  | none : Sign []
  | plus : Sign ['+']
  | minus : Sign ['-']

/-- Digits with a point behind, before or among them, or without one. -/
inductive Unsigned : List Char → Prop
  | whole {ds : List Char} : Digits ds → Unsigned ds
  | decimal {ds fs : List Char} : Digits ds → Digits fs → Unsigned (ds ++ '.' :: fs)
  | pointLast {ds : List Char} : Digits ds → Unsigned (ds ++ ['.'])
  | pointFirst {fs : List Char} : Digits fs → Unsigned ('.' :: fs)

/-- A number with a sign or without one. -/
inductive SignedNumber : List Char → Prop
  | mk {s u : List Char} : Sign s → Unsigned u → SignedNumber (s ++ u)

/-- A power of 1024, a power of 1000, nothing, or a power of ten. -/
inductive Suffix : List Char → Prop
  | binary {c : Char} : c ∈ ['K', 'M', 'G', 'T', 'P', 'E'] → Suffix [c, 'i']
  | decimal {c : Char} : c ∈ ['n', 'u', 'm', 'k', 'M', 'G', 'T', 'P', 'E'] → Suffix [c]
  | none : Suffix []
  | exponent {e : Char} {s ds : List Char} :
      e = 'e' ∨ e = 'E' → Sign s → Digits ds → Suffix (e :: (s ++ ds))

/-- A signed number and a suffix. -/
inductive WellFormed : List Char → Prop
  | mk {n s : List Char} : SignedNumber n → Suffix s → WellFormed (n ++ s)

variable {cs ds fs s u n : List Char} {c : Char}

/-! ## Numbers -/

theorem digits_iff : Digits ds ↔ (!ds.isEmpty && ds.all Char.isDigit) = true := by
  simp [Digits]

theorem Digits.notMem (h : Digits ds) (hc : c.isDigit = false) : c ∉ ds := by
  intro hmem
  rw [h.2 c hmem] at hc
  cases hc

theorem Digits.head? (h : Digits ds) (hhead : (ds ++ cs).head? = some c) : c.isDigit = true := by
  cases ds with
  | nil => exact absurd rfl h.1
  | cons d ds =>
      obtain rfl : d = c := Option.some.inj hhead
      exact h.2 d List.mem_cons_self

theorem Unsigned.head? (h : Unsigned u) (hhead : u.head? = some c) :
    c.isDigit = true ∨ c = '.' := by
  cases h with
  | whole hd => exact .inl (hd.head? (u.append_nil ▸ hhead))
  | decimal hd _ => exact .inl (hd.head? hhead)
  | pointLast hd => exact .inl (hd.head? hhead)
  | pointFirst _ => exact .inr (Option.some.inj hhead).symm

theorem exists_sign (cs : List Char) : ∃ s, Sign s ∧ cs = s ++ dropSign cs := by
  unfold dropSign
  split
  · exact ⟨['+'], .plus, rfl⟩
  · exact ⟨['-'], .minus, rfl⟩
  · exact ⟨[], .none, rfl⟩

theorem dropSign_append (hs : Sign s) (hu : ∀ c, u.head? = some c → c.isDigit = true ∨ c = '.') :
    dropSign (s ++ u) = u := by
  cases hs with
  | plus => rfl
  | minus => rfl
  | none =>
      rw [List.nil_append]
      unfold dropSign
      split
      · simpa using hu '+' rfl
      · simpa using hu '-' rfl
      · rfl

/-- What the number without its sign looks like when it is cut at its first point. -/
theorem unsigned_iff :
    Unsigned u ↔
      (match Text.cut? '.' u with
      | none => !u.isEmpty && u.all Char.isDigit
      | some (whole, fraction) =>
          !(whole.isEmpty && fraction.isEmpty) && whole.all Char.isDigit &&
            fraction.all Char.isDigit) = true := by
  have hpoint : '.'.isDigit = false := by decide
  constructor
  · intro h
    cases h with
    | whole hd =>
        rw [Text.cut?_eq_none_iff.mpr (hd.notMem hpoint)]
        exact digits_iff.mp hd
    | decimal hd hf =>
        rw [Text.cut?_append (hd.notMem hpoint)]
        simp_all [Digits]
    | pointLast hd =>
        rw [Text.cut?_append (hd.notMem hpoint)]
        simp_all [Digits]
    | @pointFirst fs hf =>
        rw [← List.nil_append ('.' :: fs), Text.cut?_append List.not_mem_nil]
        simp_all [Digits]
  · intro h
    split at h
    · exact .whole (digits_iff.mpr h)
    · rename_i whole fraction hcut
      simp only [Bool.and_eq_true, List.all_eq_true] at h
      obtain ⟨⟨hsome, hwhole⟩, hfraction⟩ := h
      rw [(Text.cut?_eq_some_iff.mp hcut).2]
      by_cases hw : whole = []
      · subst hw
        exact .pointFirst ⟨fun hf => by simp [hf] at hsome, hfraction⟩
      · by_cases hf : fraction = []
        · subst hf
          exact .pointLast ⟨hw, hwhole⟩
        · exact .decimal ⟨hw, hwhole⟩ ⟨hf, hfraction⟩

theorem isSignedNumber_iff : isSignedNumber cs = true ↔ SignedNumber cs := by
  constructor
  · intro h
    obtain ⟨s, hs, hcs⟩ := exists_sign cs
    rw [hcs]
    exact .mk hs (unsigned_iff.mpr h)
  · rintro ⟨hs, hu⟩
    rw [isSignedNumber, dropSign_append hs fun c => hu.head?]
    exact unsigned_iff.mp hu

/-! ## Suffixes -/

theorem isExponent_iff : isExponent cs = true ↔
    ∃ e s ds, (e = 'e' ∨ e = 'E') ∧ Sign s ∧ Digits ds ∧ cs = e :: (s ++ ds) := by
  constructor
  · intro h
    unfold isExponent at h
    split at h
    · rename_i cs
      obtain ⟨s, hs, hcs⟩ := exists_sign cs
      exact ⟨'e', s, dropSign cs, .inl rfl, hs, digits_iff.mpr h, by rw [← hcs]⟩
    · rename_i cs
      obtain ⟨s, hs, hcs⟩ := exists_sign cs
      exact ⟨'E', s, dropSign cs, .inr rfl, hs, digits_iff.mpr h, by rw [← hcs]⟩
    · cases h
  · rintro ⟨e, s, ds, he, hs, hd, rfl⟩
    have hdrop : dropSign (s ++ ds) = ds :=
      dropSign_append hs fun c hc => .inl (hd.head? (ds.append_nil.symm ▸ hc))
    rcases he with rfl | rfl
    · rw [isExponent, hdrop]
      exact digits_iff.mp hd
    · rw [isExponent, hdrop]
      exact digits_iff.mp hd

theorem ofList_mem_iff {texts : List String} :
    String.ofList cs ∈ texts ↔ cs ∈ texts.map String.toList := by
  rw [List.mem_map]
  constructor
  · exact fun h => ⟨_, h, String.toList_ofList⟩
  · rintro ⟨s, hs, rfl⟩
    rwa [String.ofList_toList]

theorem mem_binarySuffixes_iff : String.ofList cs ∈ binarySuffixes ↔
    ∃ c ∈ ['K', 'M', 'G', 'T', 'P', 'E'], cs = [c, 'i'] := by
  rw [ofList_mem_iff]
  simp [binarySuffixes]

theorem mem_decimalSuffixes_iff : String.ofList cs ∈ decimalSuffixes ↔
    cs = [] ∨ ∃ c ∈ ['n', 'u', 'm', 'k', 'M', 'G', 'T', 'P', 'E'], cs = [c] := by
  rw [ofList_mem_iff]
  simp [decimalSuffixes, or_left_comm]

theorem isSuffix_iff : isSuffix cs = true ↔ Suffix cs := by
  rw [isSuffix, Bool.or_eq_true, Bool.or_eq_true, List.contains_iff_mem, List.contains_iff_mem,
    mem_binarySuffixes_iff, mem_decimalSuffixes_iff, isExponent_iff]
  constructor
  · rintro ((⟨c, hc, rfl⟩ | rfl | ⟨c, hc, rfl⟩) | ⟨e, s, ds, he, hs, hd, rfl⟩)
    · exact .binary hc
    · exact .none
    · exact .decimal hc
    · exact .exponent he hs hd
  · intro h
    cases h with
    | binary hc => exact .inl (.inl ⟨_, hc, rfl⟩)
    | none => exact .inl (.inr (.inl rfl))
    | decimal hc => exact .inl (.inr (.inr ⟨_, hc, rfl⟩))
    | exponent he hs hd => exact .inr ⟨_, _, _, he, hs, hd, rfl⟩

/-! ## Where the number ends -/

theorem Digits.isNumberChar (h : Digits ds) : ∀ c ∈ ds, isNumberChar c = true := fun c hc => by
  simp [Quantity.isNumberChar, h.2 c hc]

theorem Unsigned.isNumberChar (h : Unsigned u) : ∀ c ∈ u, isNumberChar c = true := by
  have hpoint : Quantity.isNumberChar '.' = true := by decide
  cases h with
  | whole hd => exact hd.isNumberChar
  | decimal hd hf =>
      exact List.forall_mem_append.mpr ⟨hd.isNumberChar,
        List.forall_mem_cons.mpr ⟨hpoint, hf.isNumberChar⟩⟩
  | pointLast hd =>
      exact List.forall_mem_append.mpr ⟨hd.isNumberChar, List.forall_mem_singleton.mpr hpoint⟩
  | pointFirst hf => exact List.forall_mem_cons.mpr ⟨hpoint, hf.isNumberChar⟩

theorem SignedNumber.isNumberChar (h : SignedNumber n) : ∀ c ∈ n, isNumberChar c = true := by
  obtain ⟨hs, hu⟩ := h
  refine List.forall_mem_append.mpr ⟨?_, hu.isNumberChar⟩
  cases hs with
  | none => exact List.forall_mem_nil _
  | plus => exact List.forall_mem_singleton.mpr (by decide)
  | minus => exact List.forall_mem_singleton.mpr (by decide)

/-- No suffix begins with a character of a number. -/
theorem Suffix.head? (h : Suffix s) (hhead : s.head? = some c) : isNumberChar c = false := by
  have hnone {cs : List Char} (hall : cs.all (fun c => !isNumberChar c) = true) (hc : c ∈ cs) :
      isNumberChar c = false := by
    simpa using List.all_eq_true.mp hall c hc
  cases h with
  | none => cases hhead
  | binary hc =>
      obtain rfl := Option.some.inj hhead
      exact hnone (by decide) hc
  | decimal hc =>
      obtain rfl := Option.some.inj hhead
      exact hnone (by decide) hc
  | exponent he _ _ =>
      obtain rfl := Option.some.inj hhead
      rcases he with rfl | rfl <;> decide

/-- The number is the longest beginning that consists of characters of a number. -/
theorem wellFormed_iff : WellFormed cs ↔
    SignedNumber (cs.takeWhile isNumberChar) ∧ Suffix (cs.dropWhile isNumberChar) := by
  constructor
  · rintro ⟨hn, hs⟩
    rw [List.takeWhile_append_of_pos hn.isNumberChar, List.dropWhile_append_of_pos hn.isNumberChar,
      Text.takeWhile_of_head? fun c => hs.head?, Text.dropWhile_of_head? fun c => hs.head?,
      List.append_nil]
    exact ⟨hn, hs⟩
  · rintro ⟨hn, hs⟩
    rw [← cs.takeWhile_append_dropWhile (p := isNumberChar)]
    exact .mk hn hs

theorem SignedNumber.ne_nil (h : SignedNumber n) : n ≠ [] := by
  obtain ⟨-, hu⟩ := h
  cases hu with
  | whole hd => exact List.append_ne_nil_of_right_ne_nil _ hd.1
  | decimal _ _ | pointLast _ | pointFirst _ => simp

theorem WellFormed.number (h : WellFormed cs) : SignedNumber (cs.takeWhile isNumberChar) :=
  (wellFormed_iff.mp h).1

theorem ne_nil_of_number (h : SignedNumber (cs.takeWhile isNumberChar)) : cs ≠ [] := by
  rintro rfl
  exact h.ne_nil rfl

/-! ## Reading -/

/-- Nothing remains of a text without the white space at its ends, or what remains has no number in
front, or something else than a suffix behind it, or is a quantity; and it is read accordingly. -/
theorem parse_cases {s : String} {t : List Char} (h : Text.trim s.toList = t) :
    (t = [] ∧ ¬SignedNumber (t.takeWhile isNumberChar) ∧ ¬WellFormed t ∧
      parse s = .error .empty) ∨
    (t ≠ [] ∧ ¬SignedNumber (t.takeWhile isNumberChar) ∧ ¬WellFormed t ∧
      parse s = .error (.number (String.ofList t))) ∨
    (t ≠ [] ∧ SignedNumber (t.takeWhile isNumberChar) ∧ ¬WellFormed t ∧
      parse s = .error (.suffix (String.ofList t))) ∨
    (t ≠ [] ∧ SignedNumber (t.takeWhile isNumberChar) ∧ WellFormed t ∧
      parse s = .ok ⟨String.ofList t⟩) := by
  simp only [parse, h, List.isEmpty_iff]
  by_cases hn : isSignedNumber (t.takeWhile isNumberChar) = true
  · have hnumber := isSignedNumber_iff.mp hn
    have ht : t ≠ [] := ne_nil_of_number hnumber
    rw [if_neg ht, hn]
    by_cases hs : isSuffix (t.dropWhile isNumberChar) = true
    · have hwell : WellFormed t := wellFormed_iff.mpr ⟨hnumber, isSuffix_iff.mp hs⟩
      rw [hs]
      exact .inr (.inr (.inr ⟨ht, hnumber, hwell, rfl⟩))
    · have hwell : ¬WellFormed t := fun h => hs (isSuffix_iff.mpr (wellFormed_iff.mp h).2)
      rw [Bool.eq_false_iff.mpr hs]
      exact .inr (.inr (.inl ⟨ht, hnumber, hwell, rfl⟩))
  · have hnumber := mt isSignedNumber_iff.mpr hn
    have hwell : ¬WellFormed t := fun h => hnumber h.number
    by_cases ht : t = []
    · exact .inl ⟨ht, hnumber, hwell, if_pos ht⟩
    · rw [if_neg ht, Bool.eq_false_iff.mpr hn]
      exact .inr (.inl ⟨ht, hnumber, hwell, rfl⟩)

theorem parse_eq_ok_iff {s : String} {q : Quantity} : parse s = .ok q ↔
    WellFormed (Text.trim s.toList) ∧ q.text = String.ofList (Text.trim s.toList) := by
  obtain ⟨text⟩ := q
  rcases parse_cases (s := s) rfl with
    ⟨-, -, hwell, hs⟩ | ⟨-, -, hwell, hs⟩ | ⟨-, -, hwell, hs⟩ | ⟨-, -, hwell, hs⟩
  · simp [hs, hwell]
  · simp [hs, hwell]
  · simp [hs, hwell]
  · simp [hs, hwell, eq_comm]

theorem parse_text {s : String} {q : Quantity} (h : parse s = .ok q) : parse q.text = .ok q := by
  obtain ⟨hwell, htext⟩ := parse_eq_ok_iff.mp h
  have htrim : Text.trim q.text.toList = Text.trim s.toList := by
    rw [htext, String.toList_ofList, Text.trim_trim]
  rw [parse_eq_ok_iff, htrim]
  exact ⟨hwell, htext⟩

/-- A text is read as what remains of it without the white space at its ends, if the grammar derives
that.  Otherwise the cause is that nothing remains, or that the longest beginning of the rest that
consists of digits, points and signs is no signed number, or else that the suffix is none; and the
last two carry the text.  What was accepted is accepted again, and unchanged. -/
theorem reads_grammar (s : String) :
    ∃ t, (∀ u, Text.Trimmed s.toList u ↔ u = t) ∧
      (parse s = .ok ⟨String.ofList t⟩ ↔ WellFormed t) ∧
      (parse s = .error .empty ↔ t = []) ∧
      (parse s = .error (.number (String.ofList t)) ↔
        t ≠ [] ∧ ¬SignedNumber (t.takeWhile isNumberChar)) ∧
      (parse s = .error (.suffix (String.ofList t)) ↔
        SignedNumber (t.takeWhile isNumberChar) ∧ ¬WellFormed t) ∧
      ∀ q, parse s = .ok q → q.text = String.ofList t ∧ parse q.text = .ok q := by
  refine ⟨Text.trim s.toList, fun u => Text.trimmed_iff, ?_, ?_, ?_, ?_,
    fun q h => ⟨(parse_eq_ok_iff.mp h).2, parse_text h⟩⟩
  all_goals
    rcases parse_cases (s := s) rfl with
      ⟨ht, hn, hw, hs⟩ | ⟨ht, hn, hw, hs⟩ | ⟨ht, hn, hw, hs⟩ | ⟨ht, hn, hw, hs⟩ <;>
    simp_all

end Quantity

end FaasOperator
