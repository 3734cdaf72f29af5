/-
# `FaasOperator.Proofs.Json.Literal` — strings are read in every way in which they can be written

The text of each character, escaped or not, adds this character to a scan that holds the ones before
it (`steps_charText`), so the scan behind the texts of all characters holds the string, and the
closing quote makes of it a literal without a flaw (`StringText.scans`).

The string of a value that is skipped may have halves of surrogate pairs.  They are flaws of the
scan, but they do not end it (`AnyString.scans`).
-/
import FaasOperator.Json.Literal
import FaasOperator.Proofs.Json.Layout

namespace FaasOperator.Json

namespace TextScan

/-- The scan that holds these characters, last first, and nothing else. -/
def holding (cs : List Char) : TextScan := ⟨cs, none, none, .outside⟩

/-- The scan behind a text, as long as the string goes on. -/
def steps : List Char → TextScan → Option TextScan
  | [], t => some t
  | c :: cs, t =>
      match t.step c with
      | .more t => steps cs t
      | .closed _ | .cut _ => none

theorem steps_append (cs ds : List Char) (t : TextScan) :
    steps (cs ++ ds) t = (steps cs t).bind (steps ds) := by
  induction cs generalizing t with
  | nil => rfl
  | cons c cs ih =>
      rw [List.cons_append, steps, steps]
      cases t.step c with
      | more t => exact ih t
      | closed l => rfl
      | cut l => rfl

theorem close_holding (cs : List Char) : (holding cs).close = .sound cs.reverse := rfl

/-! ## Escapes -/

theorem shortEscape?_of_mem : ∀ e ∈ shortEscapes, e.1 ≠ 'u' ∧ shortEscape? e.1 = some e.2 := by
  decide

theorem hexValue?_hexDigit :
    ∀ d < 16, hexValue? (hexDigit d) = some d ∧ (hexDigit d).utf8Size = 1 := by decide

theorem hexValue?_toUpper : ∀ d < 16, hexValue? (hexDigit d).toUpper = some d ∧
    (hexDigit d).toUpper.utf8Size = 1 := by decide

theorem hexValue?_of_hexDigit {d : Nat} {c : Char} (h : HexDigit d c) :
    hexValue? c = some d ∧ c.utf8Size = 1 := by
  obtain ⟨hd, rfl | rfl⟩ := h
  · exact hexValue?_hexDigit d hd
  · exact hexValue?_toUpper d hd

/-- Where the scan stands within an escape is of no account once the escape is complete. -/
theorem push_escape (t : TextScan) (e : Escape) (c : Char) :
    { t with escape := e }.push c = t.push c := by
  cases h : t.leading <;> simp [push, flawed, h]

theorem pushUnit_escape (t : TextScan) (e : Escape) (n : Nat) :
    { t with escape := e }.pushUnit n = t.pushUnit n := by
  cases h : t.leading <;> simp [pushUnit, flawed, push, h]

theorem escape_push (t : TextScan) (c : Char) : (t.push c).escape = .outside := rfl

theorem escape_pushUnit (t : TextScan) (n : Nat) : (t.pushUnit n).escape = .outside := by
  unfold pushUnit
  split
  · split <;> rfl
  · split
    · rfl
    · split <;> rfl

theorem steps_plain {c : Char} (hq : c ≠ '"') (hb : c ≠ '\\') (hc : ¬c.toNat < 0x20)
    {t : TextScan} (ht : t.escape = .outside) : steps [c] t = some (t.push c) := by
  simp [steps, step, ht, hq, hb, hc]

theorem steps_short {e c : Char} (he : (e, c) ∈ shortEscapes) {t : TextScan}
    (ht : t.escape = .outside) : steps ['\\', e] t = some (t.push c) := by
  obtain ⟨hu, hshort⟩ := shortEscape?_of_mem _ he
  simp [steps, step, ht, hu, hshort, push_escape]

theorem steps_unit {n : Nat} {cs : List Char} (h : UnitEscape n cs) {t : TextScan}
    (ht : t.escape = .outside) : steps cs t = some (t.pushUnit n) := by
  obtain ⟨ha, hb, hc, hd⟩ := h
  obtain ⟨va, sa⟩ := hexValue?_of_hexDigit ha
  obtain ⟨vb, sb⟩ := hexValue?_of_hexDigit hb
  obtain ⟨vc, sc⟩ := hexValue?_of_hexDigit hc
  obtain ⟨vd, sd⟩ := hexValue?_of_hexDigit hd
  simp [steps, step, ht, va, sa, vb, sb, vc, sc, vd, sd, pushUnit_escape]

theorem steps_units {m n : Nat} {first second : List Char} (hfirst : UnitEscape m first)
    (hsecond : UnitEscape n second) {t : TextScan} (ht : t.escape = .outside) :
    steps (first ++ second) t = some ((t.pushUnit m).pushUnit n) := by
  rw [steps_append, steps_unit hfirst ht, Option.bind_some,
    steps_unit hsecond (escape_pushUnit t m)]

/-! ## Characters -/

theorem pushUnit_holding (cs : List Char) (c : Char) :
    (holding cs).pushUnit c.toNat = holding (c :: cs) := by
  have hvalid : c.toNat < 0xd800 ∨ 0xdfff < c.toNat ∧ c.toNat < 0x110000 := c.valid
  have hleading : isLeading c.toNat = false := by simp [isLeading]; omega
  have htrailing : isTrailing c.toNat = false := by simp [isTrailing]; omega
  simp [pushUnit, holding, hleading, htrailing, push]

theorem pushUnit_pair {c : Char} {hi lo : Nat} (hhi : 0xd800 ≤ hi ∧ hi ≤ 0xdbff)
    (hlo : 0xdc00 ≤ lo ∧ lo ≤ 0xdfff)
    (hc : c.toNat = (hi - 0xd800) * 0x400 + (lo - 0xdc00) + 0x10000) (cs : List Char) :
    ((holding cs).pushUnit hi).pushUnit lo = holding (c :: cs) := by
  have hleading : isLeading hi = true := by simp [isLeading]; omega
  have hnot : isTrailing hi = false := by simp [isTrailing]; omega
  have htrailing : isTrailing lo = true := by simp [isTrailing]; omega
  have hchar : Char.ofNat ((hi - 0xd800) * 0x400 + (lo - 0xdc00) + 0x10000) = c := by
    rw [← hc, Char.ofNat_toNat]
  simp only [pushUnit, holding, hleading, hnot, htrailing, if_true, Bool.false_eq_true, if_false,
    hchar]
  rfl

theorem steps_charText {c : Char} {text : List Char} (h : CharText c text) (cs : List Char) :
    steps text (holding cs) = some (holding (c :: cs)) := by
  cases h with
  | plain hq hb hc => exact steps_plain hq hb hc rfl
  | short he => exact steps_short he rfl
  | unit hu => rw [steps_unit hu rfl, pushUnit_holding]
  | pair hfirst hhi hsecond hlo hc =>
      rw [steps_units hfirst hsecond rfl, pushUnit_pair hhi hlo hc]

theorem steps_chars {s : List Char} {parts : List (List Char)}
    (h : List.Forall₂ CharText s parts) (cs : List Char) :
    steps parts.flatten (holding cs) = some (holding (s.reverse ++ cs)) := by
  induction h generalizing cs with
  | nil => rfl
  | cons hc _ ih =>
      rw [List.flatten_cons, steps_append, steps_charText hc, Option.bind_some, ih,
        List.reverse_cons, List.append_assoc]
      rfl

/-! ## Strings without regard to their characters -/

/-- A character ends no string, whatever was wrong in front of it. -/
theorem steps_anyChar {c : Char} {text : List Char} (h : CharText c text) {t : TextScan}
    (ht : t.escape = .outside) : ∃ t', steps text t = some t' ∧ t'.escape = .outside := by
  cases h with
  | plain hq hb hc => exact ⟨_, steps_plain hq hb hc ht, escape_push _ _⟩
  | short he => exact ⟨_, steps_short he ht, escape_push _ _⟩
  | unit hu => exact ⟨_, steps_unit hu ht, escape_pushUnit _ _⟩
  | pair hfirst _ hsecond _ _ =>
      exact ⟨_, steps_units hfirst hsecond ht, escape_pushUnit _ _⟩

theorem steps_parts {parts : List (List Char)}
    (h : ∀ text ∈ parts, (∃ c, CharText c text) ∨ ∃ n, UnitEscape n text) {t : TextScan}
    (ht : t.escape = .outside) :
    ∃ t', steps parts.flatten t = some t' ∧ t'.escape = .outside := by
  induction parts generalizing t with
  | nil => exact ⟨t, rfl, ht⟩
  | cons text parts ih =>
      have hpart : ∃ t', steps text t = some t' ∧ t'.escape = .outside := by
        rcases h text List.mem_cons_self with ⟨c, hc⟩ | ⟨n, hn⟩
        · exact steps_anyChar hc ht
        · exact ⟨_, steps_unit hn ht, escape_pushUnit _ _⟩
      obtain ⟨t', hsteps, ht'⟩ := hpart
      obtain ⟨t'', hrest, ht''⟩ := ih (fun text hmem => h text (List.mem_cons_of_mem _ hmem)) ht'
      refine ⟨t'', ?_, ht''⟩
      rw [List.flatten_cons, steps_append, hsteps, Option.bind_some, hrest]

/-! ## Whole strings -/

/-- Behind an opening quote, this text and a closing quote make this literal. -/
def Scans (body : List Char) (l : Literal) : Prop :=
  ∃ t, steps body .start = some t ∧ t.step '"' = .closed l

theorem step_quote {t : TextScan} (ht : t.escape = .outside) : t.step '"' = .closed t.close := by
  simp [step, ht]

end TextScan

open TextScan

theorem StringText.scans {s : String} {text : List Char} (h : StringText s text) :
    ∃ body, text = quoted body ∧ Scans body (.sound s.toList) := by
  obtain ⟨parts, hparts, rfl⟩ := h
  have hchars := steps_chars hparts []
  rw [List.append_nil] at hchars
  refine ⟨parts.flatten, rfl, holding s.toList.reverse, hchars, ?_⟩
  rw [step_quote rfl, close_holding, List.reverse_reverse]

/-- A string that nobody decodes is read to its end. -/
theorem AnyString.scans {text : List Char} (h : AnyString text) :
    ∃ body l, text = quoted body ∧ Scans body l ∧ l.cut = none := by
  obtain ⟨hparts⟩ := h
  obtain ⟨t, hsteps, ht⟩ := steps_parts hparts (t := .start) rfl
  exact ⟨_, t.close, rfl, ⟨t, hsteps, step_quote ht⟩, rfl⟩

end FaasOperator.Json
