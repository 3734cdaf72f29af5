/-
# `FaasOperator.Proofs.Json.Reader` — a JSON text is read as one document, whatever its layout

## What is proved

Every text of a value, in every layout, is read as a document that can be skipped without a problem
(`ValueText.yields`), wherever the value stands.  A text with white space around it and nothing else
is the text of this one document (`readAll_padded`).

## How

The reader is a fold, so the text of a value takes it from wherever a value may start to the state
behind that value (`Yields`), whatever is open around it.  A number is the exception that `Behind`
makes room for: it is complete only when something else follows.
-/
import FaasOperator.Json.Decoder
import FaasOperator.Proofs.Json.Literal
import FaasOperator.Proofs.Json.Numeral

namespace FaasOperator.Json

namespace Reader

theorem run_append (cs ds : List Char) (r : Reader) : run (cs ++ ds) r = run ds (run cs r) :=
  List.foldl_append

theorem run_cons (c : Char) (cs : List Char) (r : Reader) : run (c :: cs) r = run cs (r.step c) :=
  rfl

theorem step_complete (c : Char) (d : Document) (stack : List Frame) :
    (complete d stack).step c = afterValue c (complete d stack) := by
  cases stack with
  | nil => rfl
  | cons f stack => cases f <;> rfl

theorem finish_complete (d : Document) (stack : List Frame) :
    (complete d stack).finish = endOfText (complete d stack) := by
  cases stack with
  | nil => rfl
  | cons f stack => cases f <;> rfl

/-! ## White space -/

def Idle (r : Reader) : Prop := ∀ c, isBlank c = true → r.step c = r

theorem idle_complete (d : Document) (stack : List Frame) : Idle (complete d stack) := by
  intro c hc
  cases stack with
  | nil => simp [complete, step, afterValue, hc]
  | cons f stack => cases f <;> simp [complete, step, afterValue, hc]

theorem isBlank_of_mem {ws : List Char} (h : WhiteSpace ws) {c : Char} (hc : c ∈ ws) :
    isBlank c = true := by
  rcases h c hc with rfl | rfl | rfl | rfl <;> rfl

theorem run_whiteSpace {r : Reader} (hr : Idle r) {ws : List Char} (h : WhiteSpace ws) :
    run ws r = r := by
  induction ws with
  | nil => rfl
  | cons c ws ih =>
      rw [run_cons, hr c (isBlank_of_mem h List.mem_cons_self)]
      exact ih fun c hc => h c (List.mem_cons_of_mem _ hc)

theorem endsNumber_of_isBlank {c : Char} (h : isBlank c = true) : NumberScan.EndsNumber c := by
  simp only [isBlank, Bool.or_eq_true, beq_iff_eq] at h
  rcases h with ((rfl | rfl) | rfl) | rfl <;> refine ⟨?_, ?_, ?_, ?_⟩ <;> decide

/-! ## Behind a value -/

/-- What follows is taken as it is behind this value. -/
structure Behind (r : Reader) (d : Document) (stack : List Frame) : Prop where
  step : ∀ c, NumberScan.EndsNumber c → r.step c = (complete d stack).step c
  finish : r.finish = (complete d stack).finish

theorem behind_complete (d : Document) (stack : List Frame) : Behind (complete d stack) d stack :=
  ⟨fun _ _ => rfl, rfl⟩

theorem Behind.run_whiteSpace {r : Reader} {d : Document} {stack : List Frame}
    (h : Behind r d stack) {ws : List Char} (hws : WhiteSpace ws) : Behind (run ws r) d stack := by
  cases ws with
  | nil => exact h
  | cons c ws =>
      have hc : isBlank c = true := isBlank_of_mem hws List.mem_cons_self
      have hrest : WhiteSpace ws := fun c hc => hws c (List.mem_cons_of_mem _ hc)
      rw [run_cons, h.step c (endsNumber_of_isBlank hc), idle_complete d stack c hc,
        Reader.run_whiteSpace (idle_complete d stack) hrest]
      exact behind_complete d stack

/-- A value may start here, and these are the lists and records that it stands in. -/
structure AwaitsValue (stack : List Frame) (r : Reader) : Prop where
  idle : Idle r
  start : ∀ c, isBlank c = false → c ≠ ']' → r.step c = startValue c stack

theorem awaitsValue_value (stack : List Frame) : AwaitsValue stack (.value stack) where
  idle := fun c hc => by simp [step, hc]
  start := fun c hc _ => by simp [step, hc]

theorem awaitsValue_listStart (stack : List Frame) :
    AwaitsValue (.list [] :: stack) (.listStart stack) where
  idle := fun c hc => by simp [step, hc]
  start := fun c hc hend => by simp [step, hc, hend]

/-- The text is read as this document, wherever it stands. -/
structure Yields (cs : List Char) (d : Document) : Prop where
  head : ∃ c rest, cs = c :: rest ∧ isBlank c = false ∧ c ≠ ']'
  behind : ∀ stack, Behind (run cs (.value stack)) d stack

theorem Yields.run_padded {p : Padded} {d : Document} (h : Yields p.core d) {stack : List Frame}
    {r : Reader} (hr : AwaitsValue stack r) : Behind (run p.text r) d stack := by
  obtain ⟨c, rest, hcore, hblank, hend⟩ := h.head
  have hstart : run p.core r = run p.core (.value stack) := by
    rw [hcore, run_cons, run_cons, hr.start c hblank hend,
      (awaitsValue_value stack).start c hblank hend]
  rw [Padded.text, run_append, run_append, run_whiteSpace hr.idle p.blank_before, hstart]
  exact (h.behind stack).run_whiteSpace p.blank_after

theorem yields_of_complete {c : Char} {rest : List Char} {d : Document} (hblank : isBlank c = false)
    (hend : c ≠ ']') (h : ∀ stack, run (c :: rest) (.value stack) = complete d stack) :
    Yields (c :: rest) d where
  head := ⟨c, rest, rfl, hblank, hend⟩
  behind := fun stack => h stack ▸ behind_complete d stack

theorem yields_null : Yields nullText .null :=
  yields_of_complete rfl (by decide) fun _ => rfl

theorem yields_bool (b : Bool) : Yields (boolText b) (.bool b) := by
  cases b <;> exact yields_of_complete rfl (by decide) fun _ => rfl

/-! ## Strings -/

theorem run_of_steps {within : TextScan → Reader}
    (hw : ∀ t t' c, t.step c = .more t' → (within t).step c = within t')
    {cs : List Char} {t t' : TextScan} (h : TextScan.steps cs t = some t') :
    run cs (within t) = within t' := by
  induction cs generalizing t with
  | nil =>
      rw [TextScan.steps, Option.some.injEq] at h
      rw [h]
      rfl
  | cons c cs ih =>
      rw [TextScan.steps] at h
      cases hstep : t.step c with
      | more u =>
          rw [hstep] at h
          rw [run_cons, hw t u c hstep]
          exact ih h
      | closed l => rw [hstep] at h; cases h
      | cut l => rw [hstep] at h; cases h

theorem step_inText {t t' : TextScan} {c : Char} (stack : List Frame) (h : t.step c = .more t') :
    (inText t stack).step c = inText t' stack := by
  simp only [step, h]

theorem step_inKey {t t' : TextScan} {c : Char} (ms : List (Literal × Document))
    (stack : List Frame) (h : t.step c = .more t') :
    (inKey ms t stack).step c = inKey ms t' stack := by
  simp only [step, h]

theorem yields_quoted {body : List Char} {l : Literal} (h : TextScan.Scans body l) :
    Yields (quoted body) (.text l) := by
  obtain ⟨t, hsteps, hclose⟩ := h
  refine yields_of_complete rfl (by decide) fun stack => ?_
  show run (body ++ ['"']) (.inText .start stack) = _
  rw [run_append, run_of_steps (fun _ _ _ h => step_inText stack h) hsteps]
  show step (.inText t stack) '"' = _
  simp only [step, hclose]

/-- A key may start here, behind these members. -/
structure AwaitsKey (stack : List Frame) (ms : List (Literal × Document)) (r : Reader) : Prop where
  idle : Idle r
  start : r.step '"' = .inKey ms .start stack

theorem awaitsKey_recordStart (stack : List Frame) : AwaitsKey stack [] (.recordStart stack) where
  idle := fun c hc => by simp [step, hc]
  start := rfl

theorem awaitsKey_keyStart (ms : List (Literal × Document)) (stack : List Frame) :
    AwaitsKey stack ms (.keyStart ms stack) where
  idle := fun c hc => by simp [step, hc]
  start := rfl

theorem run_key {p : Padded} {body : List Char} {l : Literal} (hcore : p.core = quoted body)
    (h : TextScan.Scans body l) {stack : List Frame} {ms : List (Literal × Document)} {r : Reader}
    (hr : AwaitsKey stack ms r) (cs : List Char) :
    run (p.text ++ ':' :: cs) r = run cs (.value (.member ms l :: stack)) := by
  obtain ⟨t, hsteps, hclose⟩ := h
  have hbody : run p.core r = .colon ms l stack := by
    rw [hcore, quoted, run_cons, hr.start, run_append,
      run_of_steps (fun _ _ _ h => step_inKey ms stack h) hsteps]
    show step (.inKey ms t stack) '"' = _
    simp only [step, hclose]
  have hidle : Idle (.colon ms l stack) := fun c hc => by simp [step, hc]
  rw [run_append, Padded.text, run_append, run_append, run_whiteSpace hr.idle p.blank_before, hbody,
    run_whiteSpace hidle p.blank_after]
  rfl

/-! ## Numbers -/

theorem isDigit_ne {c : Char} (h : c.isDigit = true) :
    isBlank c = false ∧ c ≠ 'n' ∧ c ≠ 't' ∧ c ≠ 'f' ∧ c ≠ '"' ∧ c ≠ '[' ∧ c ≠ '{' ∧ c ≠ '-' := by
  have hne : ∀ d : Char, d.isDigit = false → c ≠ d := fun d hd heq => by
    rw [heq, hd] at h; cases h
  refine ⟨?_, hne _ rfl, hne _ rfl, hne _ rfl, hne _ rfl, hne _ rfl, hne _ rfl, hne _ rfl⟩
  simp [isBlank, hne ' ' rfl, hne '\n' rfl, hne '\t' rfl, hne '\r' rfl]

theorem startValue_digit {c : Char} (h : c.isDigit = true) (stack : List Frame) :
    startValue c stack =
      .inNumber ⟨if c = '0' then .zero else .whole, false, [c], none, none⟩ stack := by
  obtain ⟨-, hn, ht, hf, hq, hl, hr, hm⟩ := isDigit_ne h
  unfold startValue
  by_cases h0 : c = '0'
  · simp [h0, NumberScan.start?]
  · simp [NumberScan.start?, hm, h0, h]

theorem step_inNumber {n n' : NumberScan} {c : Char} (stack : List Frame)
    (h : n.step c = .more n') : (inNumber n stack).step c = inNumber n' stack := by
  simp only [step, h]

theorem run_digits {scan : List Char → NumberScan}
    (hscan : ∀ acc c, c.isDigit = true → (scan acc).step c = .more (scan (c :: acc)))
    {ds : List Char} (hd : ∀ c ∈ ds, c.isDigit = true) (acc : List Char) (stack : List Frame) :
    run ds (.inNumber (scan acc) stack) = .inNumber (scan (ds.reverse ++ acc)) stack := by
  induction ds generalizing acc with
  | nil => rfl
  | cons c ds ih =>
      rw [run_cons, step_inNumber stack (hscan acc c (hd c List.mem_cons_self)),
        ih fun c hc => hd c (List.mem_cons_of_mem _ hc), List.reverse_cons, List.append_assoc]
      rfl

theorem run_whole {ds : List Char} (h : Numeral.IsWhole ds) (negative : Bool)
    (stack : List Frame) :
    run ((if negative then ['-'] else []) ++ ds) (.value stack) =
      .inNumber (.ofNumeral ⟨negative, ds, none, none⟩) stack := by
  rcases h with rfl | ⟨d, rest, rfl, hd, hall⟩
  · cases negative <;> rfl
  · have hdigit : d.isDigit = true := hall d List.mem_cons_self
    have hrest : ∀ c ∈ rest, c.isDigit = true := fun c hc => hall c (List.mem_cons_of_mem _ hc)
    have hblank : isBlank d = false := (isDigit_ne hdigit).1
    have hphase : NumberScan.lastPhase ⟨negative, d :: rest, none, none⟩ = .whole := by
      simp [NumberScan.lastPhase, hd]
    have hscan (acc : List Char) (c : Char) (hc : c.isDigit = true) :
        (NumberScan.mk .whole negative acc none none).step c =
          .more ⟨.whole, negative, c :: acc, none, none⟩ := by
      simp only [NumberScan.step, hc, if_true]
    have hdigits := run_digits hscan hrest [d] stack
    -- Behind a sign the first digit is looked at for a zero, without one for the start of a value.
    have hfirst : run ((if negative then ['-'] else []) ++ [d]) (.value stack) =
        .inNumber ⟨.whole, negative, [d], none, none⟩ stack := by
      cases negative with
      | true =>
          show (Reader.inNumber ⟨.sign, true, [], none, none⟩ stack).step d = _
          simp only [step, NumberScan.step, hd, hdigit, if_false, if_true]
      | false =>
          show (Reader.value stack).step d = _
          simp only [step, hblank, Bool.false_eq_true, if_false, startValue_digit hdigit, hd]
    rw [List.append_cons, run_append, hfirst, hdigits, NumberScan.ofNumeral,
      hphase, List.reverse_cons]
    rfl

/-- The digits behind a point or an exponent mark, where the first one starts the part. -/
theorem run_startDigits (scan : List Char → NumberScan) {n : NumberScan} {acc : List Char}
    (hscan : ∀ acc c, c.isDigit = true → (scan acc).step c = .more (scan (c :: acc)))
    (hfirst : ∀ c, c.isDigit = true → n.step c = .more (scan (c :: acc)))
    {ds : List Char} (h : Numeral.Digits ds) (stack : List Frame) :
    run ds (.inNumber n stack) = .inNumber (scan (ds.reverse ++ acc)) stack := by
  obtain ⟨hne, hall⟩ := h
  cases ds with
  | nil => exact absurd rfl hne
  | cons d ds =>
      have hd : d.isDigit = true := hall d List.mem_cons_self
      rw [run_cons, step_inNumber stack (hfirst d hd),
        run_digits hscan fun c hc => hall c (List.mem_cons_of_mem _ hc)]
      rw [List.reverse_cons, List.append_assoc]
      rfl

theorem step_point (negative : Bool) (whole : List Char) :
    (NumberScan.ofNumeral ⟨negative, whole, none, none⟩).step '.' =
      .more ⟨.point, negative, whole.reverse, some [], none⟩ := by
  by_cases h0 : whole = ['0'] <;>
    simp [NumberScan.ofNumeral, NumberScan.lastPhase, NumberScan.step, NumberScan.afterWhole, h0]

theorem run_fraction (negative : Bool) (whole : List Char) {fraction : Option (List Char)}
    (h : ∀ ds, fraction = some ds → Numeral.Digits ds) (stack : List Frame) :
    run (fraction.elim [] ('.' :: ·))
        (.inNumber (.ofNumeral ⟨negative, whole, none, none⟩) stack) =
      .inNumber (.ofNumeral ⟨negative, whole, fraction, none⟩) stack := by
  cases fraction with
  | none => rfl
  | some ds =>
      let scan (acc : List Char) : NumberScan :=
        ⟨.fraction, negative, whole.reverse, some acc, none⟩
      have hscan (acc : List Char) (c : Char) (hc : c.isDigit = true) :
          (scan acc).step c = .more (scan (c :: acc)) := by
        simp [scan, NumberScan.step, hc, NumberScan.pushFraction]
      have hfirst (c : Char) (hc : c.isDigit = true) :
          (NumberScan.mk .point negative whole.reverse (some []) none).step c =
            .more (scan [c]) := by
        simp [scan, NumberScan.step, hc, NumberScan.pushFraction]
      show run ('.' :: ds) _ = _
      rw [run_cons, step_inNumber stack (step_point negative whole),
        run_startDigits scan hscan hfirst (h ds rfl), List.append_nil]
      rfl

theorem step_mark {mark : Char} (hmark : mark = 'e' ∨ mark = 'E') (negative : Bool)
    (whole : List Char) (fraction : Option (List Char)) :
    (NumberScan.ofNumeral ⟨negative, whole, fraction, none⟩).step mark =
      .more ⟨.exponentMark, negative, whole.reverse, fraction.map List.reverse, some []⟩ := by
  rcases hmark with rfl | rfl <;> cases fraction <;> by_cases h0 : whole = ['0'] <;>
    simp [NumberScan.ofNumeral, NumberScan.lastPhase, NumberScan.step, NumberScan.afterWhole, h0]

/-- A scan within the exponent, which has these characters so far, last first. -/
def exponentScan (negative : Bool) (whole : List Char) (fraction : Option (List Char))
    (phase : NumberPhase) (acc : List Char) : NumberScan :=
  ⟨phase, negative, whole.reverse, fraction.map List.reverse, some acc⟩

theorem step_exponentScan {phase : NumberPhase}
    (hphase : phase = .exponentMark ∨ phase = .exponentSign ∨ phase = .exponent) (negative : Bool)
    (whole : List Char) (fraction : Option (List Char)) (acc : List Char) {c : Char}
    (hc : c.isDigit = true) :
    (exponentScan negative whole fraction phase acc).step c =
      .more (exponentScan negative whole fraction .exponent (c :: acc)) := by
  have hsign : ¬(c = '+' ∨ c = '-') := by
    rintro (rfl | rfl) <;> exact absurd hc (by decide)
  rcases hphase with rfl | rfl | rfl <;>
    simp [exponentScan, NumberScan.step, hc, hsign, NumberScan.pushExponent]

theorem run_exponentDigits {phase : NumberPhase}
    (hphase : phase = .exponentMark ∨ phase = .exponentSign) (negative : Bool)
    (whole : List Char) (fraction : Option (List Char)) (acc : List Char) {ds : List Char}
    (h : Numeral.Digits ds) (stack : List Frame) :
    run ds (.inNumber (exponentScan negative whole fraction phase acc) stack) =
      .inNumber (exponentScan negative whole fraction .exponent (ds.reverse ++ acc)) stack := by
  have hphase' : phase = .exponentMark ∨ phase = .exponentSign ∨ phase = .exponent := by tauto
  refine run_startDigits (exponentScan negative whole fraction .exponent) ?_ ?_ h stack
  · exact fun acc c hc => step_exponentScan (.inr (.inr rfl)) negative whole fraction acc hc
  · exact fun c hc => step_exponentScan hphase' negative whole fraction acc hc

theorem run_exponent {mark : Char} (hmark : mark = 'e' ∨ mark = 'E') (negative : Bool)
    (whole : List Char) (fraction : Option (List Char)) {exponent : Option (List Char)}
    (h : ∀ ds, exponent = some ds → Numeral.IsExponent ds) (stack : List Frame) :
    run (exponent.elim [] (mark :: ·))
        (.inNumber (.ofNumeral ⟨negative, whole, fraction, none⟩) stack) =
      .inNumber (.ofNumeral ⟨negative, whole, fraction, exponent⟩) stack := by
  cases exponent with
  | none => rfl
  | some ds =>
      have hmarked : run [mark] (.inNumber (.ofNumeral ⟨negative, whole, fraction, none⟩) stack) =
          .inNumber (exponentScan negative whole fraction .exponentMark []) stack :=
        step_inNumber stack (step_mark hmark negative whole fraction)
      have hends (acc : List Char) (hacc : acc = ds.reverse) :
          exponentScan negative whole fraction .exponent acc =
            .ofNumeral ⟨negative, whole, fraction, some ds⟩ := by
        rw [hacc]
        rfl
      show run ([mark] ++ ds) _ = _
      rw [run_append, hmarked]
      cases h ds rfl with
      | unsigned hds =>
          rw [run_exponentDigits (.inl rfl) negative whole fraction [] hds, hends _ (by simp)]
      | @signed sign ds hsign hds =>
          have hstep : (exponentScan negative whole fraction .exponentMark []).step sign =
              .more (exponentScan negative whole fraction .exponentSign [sign]) := by
            rcases hsign with rfl | rfl <;> rfl
          rw [run_cons, step_inNumber stack hstep,
            run_exponentDigits (.inr rfl) negative whole fraction [sign] hds, hends _ (by simp)]

theorem behind_inNumber (n : Numeral) (stack : List Frame) :
    Behind (.inNumber (.ofNumeral n) stack) (.number n) stack where
  step := fun c hc => by
    rw [step_complete]
    simp only [step, NumberScan.step_ofNumeral hc]
  finish := by
    rw [finish_complete]
    simp only [finish, NumberScan.isComplete_ofNumeral, if_true, NumberScan.numeral_ofNumeral]

theorem run_spell {n : Numeral} (h : n.WellFormed) {mark : Char} (hmark : mark = 'e' ∨ mark = 'E')
    (stack : List Frame) :
    run (n.spell mark) (.value stack) = .inNumber (.ofNumeral n) stack := by
  obtain ⟨negative, whole, fraction, exponent⟩ := n
  rw [Numeral.spell, run_append, run_append, run_whole h.whole,
    run_fraction negative whole h.fraction, run_exponent hmark negative whole fraction h.exponent]

theorem spell_head {n : Numeral} (h : n.WellFormed) (mark : Char) :
    ∃ c rest, n.spell mark = c :: rest ∧ isBlank c = false ∧ c ≠ ']' := by
  obtain ⟨negative, whole, fraction, exponent⟩ := n
  cases negative with
  | true => exact ⟨_, _, rfl, rfl, by decide⟩
  | false =>
      rcases h.whole with hzero | ⟨d, rest, hds, -, hall⟩
      · cases hzero
        exact ⟨_, _, rfl, rfl, by decide⟩
      · cases hds
        have hd : d.isDigit = true := hall d List.mem_cons_self
        refine ⟨_, _, rfl, (isDigit_ne hd).1, ?_⟩
        rintro rfl
        exact absurd hd (by decide)

theorem yields_spell {n : Numeral} (h : n.WellFormed) {mark : Char}
    (hmark : mark = 'e' ∨ mark = 'E') : Yields (n.spell mark) (.number n) where
  head := spell_head h mark
  behind := fun stack => run_spell h hmark stack ▸ behind_inNumber n stack

/-! ## Lists and records -/

theorem endsNumber_comma : NumberScan.EndsNumber ',' := by
  refine ⟨?_, ?_, ?_, ?_⟩ <;> decide

theorem endsNumber_bracket : NumberScan.EndsNumber ']' := by
  refine ⟨?_, ?_, ?_, ?_⟩ <;> decide

theorem endsNumber_brace : NumberScan.EndsNumber '}' := by
  refine ⟨?_, ?_, ?_, ?_⟩ <;> decide

/-- Parts in a row, with commas between them and a bracket behind the last one.  Each part is added
to what was read, which is kept last first. -/
theorem run_row {α β : Type} (awaits : List β → Reader → Prop) (closed : List β → Reader)
    {reads : α → β → Prop} {text : α → List Char} {close : Char}
    (hpart : ∀ a b acc r, reads a b → awaits acc r →
      awaits (b :: acc) ((run (text a) r).step ',') ∧
      (run (text a) r).step close = closed (b :: acc))
    {as : List α} {bs : List β} (h : List.Forall₂ reads as bs) (hne : as ≠ []) {acc : List β}
    {r : Reader} (hr : awaits acc r) :
    run ([','].intercalate (as.map text) ++ [close]) r = closed (bs.reverse ++ acc) := by
  -- A comma leaves the reader where the next part may start, with one more part read; only the last
  -- part has the bracket behind it.
  induction h generalizing acc r with
  | nil => exact absurd rfl hne
  | @cons a b as bs hab hrest ih =>
      obtain ⟨hcomma, hclose⟩ := hpart a b acc r hab hr
      cases as with
      | nil =>
          cases hrest
          rw [List.map_singleton, List.intercalate_singleton, run_append]
          exact hclose
      | cons a' as =>
          rw [List.map_cons, List.map_cons, List.intercalate_cons_cons, List.append_assoc,
            List.append_assoc, run_append, List.reverse_cons, List.append_assoc]
          exact ih (by simp) hcomma

theorem yields_list {ws : List Char} (hws : WhiteSpace ws) {items : List Padded}
    {ds : List Document} (h : List.Forall₂ (fun p d => Yields p.core d) items ds) :
    Yields (listText ws items) (.list ds none) := by
  refine yields_of_complete rfl (by decide) fun stack => ?_
  have hstart := awaitsValue_listStart stack
  show run (ws ++ ([','].intercalate (items.map Padded.text) ++ [']'])) (.listStart stack) = _
  rw [run_append, run_whiteSpace hstart.idle hws]
  by_cases hne : items = []
  · cases hne
    cases h
    rfl
  · have hpart (p : Padded) (d : Document) (acc : List Document) (r : Reader)
        (hp : Yields p.core d) (hr : AwaitsValue (.list acc :: stack) r) :
        AwaitsValue (.list (d :: acc) :: stack) ((run p.text r).step ',') ∧
        (run p.text r).step ']' = complete (.list (d :: acc).reverse none) stack := by
      have hbehind := hp.run_padded hr
      rw [hbehind.step ',' endsNumber_comma, hbehind.step ']' endsNumber_bracket]
      exact ⟨awaitsValue_value _, rfl⟩
    have hrow := run_row (fun acc => AwaitsValue (.list acc :: stack))
      (fun acc => complete (.list acc.reverse none) stack) hpart h hne hstart
    rw [hrow, List.append_nil, List.reverse_reverse]

/-- A key and a value are read as this member. -/
def YieldsMember (m : Padded × Padded) (e : Literal × Document) : Prop :=
  (∃ body, m.1.core = quoted body ∧ TextScan.Scans body e.1) ∧ Yields m.2.core e.2

theorem YieldsMember.run_member {m : Padded × Padded} {e : Literal × Document}
    (h : YieldsMember m e) {stack : List Frame} {ms : List (Literal × Document)} {r : Reader}
    (hr : AwaitsKey stack ms r) :
    Behind (run (memberText m) r) e.2 (.member ms e.1 :: stack) := by
  obtain ⟨⟨body, hcore, hscans⟩, hvalue⟩ := h
  rw [memberText, run_key hcore hscans hr]
  exact hvalue.run_padded (awaitsValue_value _)

theorem yields_record {ws : List Char} (hws : WhiteSpace ws) {members : List (Padded × Padded)}
    {es : List (Literal × Document)} (h : List.Forall₂ YieldsMember members es) :
    Yields (recordText ws members) (.record es none) := by
  refine yields_of_complete rfl (by decide) fun stack => ?_
  have hstart := awaitsKey_recordStart stack
  show run (ws ++ ([','].intercalate (members.map memberText) ++ ['}'])) (.recordStart stack) = _
  rw [run_append, run_whiteSpace hstart.idle hws]
  by_cases hne : members = []
  · cases hne
    cases h
    rfl
  · have hpart (m : Padded × Padded) (e : Literal × Document) (acc : List (Literal × Document))
        (r : Reader) (hm : YieldsMember m e) (hr : AwaitsKey stack acc r) :
        AwaitsKey stack (e :: acc) ((run (memberText m) r).step ',') ∧
        (run (memberText m) r).step '}' = complete (.record (e :: acc).reverse none) stack := by
      have hbehind := hm.run_member hr
      rw [hbehind.step ',' endsNumber_comma, hbehind.step '}' endsNumber_brace]
      exact ⟨awaitsKey_keyStart (e :: acc) stack, rfl⟩
    have hrow := run_row (AwaitsKey stack)
      (fun acc => complete (.record acc.reverse none) stack) hpart h hne hstart
    rw [hrow, List.append_nil, List.reverse_reverse]

/-! ## Values of any kind -/

theorem exists_forall₂ {α β : Type} {r : α → β → Prop} {as : List α}
    (h : ∀ a ∈ as, ∃ b, r a b) : ∃ bs, List.Forall₂ r as bs := by
  induction as with
  | nil => exact ⟨[], .nil⟩
  | cons a as ih =>
      obtain ⟨b, hb⟩ := h a List.mem_cons_self
      obtain ⟨bs, hbs⟩ := ih fun a ha => h a (List.mem_cons_of_mem _ ha)
      exact ⟨b :: bs, .cons hb hbs⟩

end Reader

open Reader

/-- Every value is read as a document that can be skipped. -/
theorem ValueText.yields {cs : List Char} (h : ValueText cs) :
    ∃ d, d.skipProblem = none ∧ Yields cs d := by
  induction h with
  | null => exact ⟨.null, rfl, yields_null⟩
  | bool b => exact ⟨.bool b, rfl, yields_bool b⟩
  | number hn hmark => exact ⟨.number _, rfl, yields_spell hn hmark⟩
  | string hs =>
      obtain ⟨body, l, rfl, hscans, hcut⟩ := hs.scans
      exact ⟨.text l, hcut, yields_quoted hscans⟩
  | list hws _ ih =>
      obtain ⟨ds, hds⟩ := exists_forall₂ fun p hp => (ih p hp).imp fun _ h => h.2
      exact ⟨.list ds none, rfl, yields_list hws hds⟩
  | @record ws members hws hkeys _ ih =>
      -- A key may have a flaw here: whoever skips the record does not look at its keys.
      have hmembers : ∀ m ∈ members, ∃ e, YieldsMember m e := by
        intro m hm
        obtain ⟨body, l, hcore, hscans, -⟩ := (hkeys m hm).scans
        obtain ⟨d, -, hd⟩ := ih m hm
        exact ⟨(l, d), ⟨body, hcore, hscans⟩, hd⟩
      obtain ⟨es, hes⟩ := exists_forall₂ hmembers
      exact ⟨.record es none, rfl, yields_record hws hes⟩

/-! ## Whole texts -/

/-- A text with white space around it is read as one document, and nothing follows it. -/
theorem readAll_padded {p : Padded} {d : Document} (h : Yields p.core d) :
    readAll p.text = .finished d :=
  (h.run_padded (awaitsValue_value [])).finish

theorem decodeText_of_yields {α : Type} (decode : Decoder α) {s : String} {p : Padded}
    (hs : s.toList = p.text) {d : Document} (h : Yields p.core d) :
    decodeText decode s = decode d := by
  unfold decodeText
  rw [hs, readAll_padded h]
  simp only [Reader.document]
  cases decode d <;> rfl

end FaasOperator.Json
