/-
# `FaasOperator.Proofs.Json.Compact` — the compact text of a value is read as the value

The compact text of a JSON value is one of the layouts in which the value can be written
(`FaasOperator.Proofs.Json.Layout`), so it is read back as the document of that value, with nothing
wrong in it (`readAll_renderChars`).  The numbers of the value have to be integers (`Integral`): a
fraction is written as its digits are, but whether it is a double is no matter of its text alone.
-/
import FaasOperator.Proofs.Json.Reader

namespace FaasOperator.Json

open Reader

/-! ## Strings and numbers -/

theorem charText_escapeChar (c : Char) : CharText c (escapeChar c) := by
  unfold escapeChar
  split
  · exact .short (by decide)
  · exact .short (by decide)
  · exact .short (by decide)
  · exact .short (by decide)
  · exact .short (by decide)
  · exact .short (by decide)
  · exact .short (by decide)
  · rename_i hq hb _ _ _ _ _
    split
    · rename_i h
      have hzero : HexDigit 0 '0' := ⟨by decide, .inl rfl⟩
      have hhi : HexDigit (c.toNat / 16) (hexDigit (c.toNat / 16)) := ⟨by omega, .inl rfl⟩
      have hlo : HexDigit (c.toNat % 16) (hexDigit (c.toNat % 16)) := ⟨by omega, .inl rfl⟩
      have hunit := UnitEscape.digits hzero hzero hhi hlo
      have hcode : ((0 * 16 + 0) * 16 + c.toNat / 16) * 16 + c.toNat % 16 = c.toNat := by omega
      rw [hcode] at hunit
      exact .unit hunit
    · rename_i h
      exact .plain hq hb h

theorem stringText_renderText (s : String) : StringText s (renderText s) := by
  refine ⟨s.toList.map escapeChar, ?_, by rw [← List.flatMap_def]; rfl⟩
  exact List.forall₂_map_right_iff.mpr (List.forall₂_same.mpr fun c _ => charText_escapeChar c)

theorem render_eq_spell (n : Numeral) : n.render = n.spell 'e' := by
  obtain ⟨negative, whole, fraction, exponent⟩ := n
  cases fraction <;> cases exponent <;> rfl

/-! ## Lists and records -/

theorem Padded.text_bare (cs : List Char) : (Padded.bare cs).text = cs := by
  simp [Padded.bare, Padded.text]

/-- A row written part by part, each one but the first behind a comma. -/
theorem row_of_tail {α : Type} (text : α → List Char) (tail : List α → List Char) {close : Char}
    (hnil : tail [] = [close]) (hcons : ∀ b bs, tail (b :: bs) = ',' :: (text b ++ tail bs))
    (a : α) (as : List α) :
    text a ++ tail as = [','].intercalate ((a :: as).map text) ++ [close] := by
  induction as generalizing a with
  | nil => rw [hnil, List.map_singleton, List.intercalate_singleton]
  | cons b bs ih =>
      have hrest := ih b
      rw [List.map_cons] at hrest
      rw [hcons, hrest, List.map_cons, List.map_cons, List.intercalate_cons_cons]
      simp

theorem renderChars_list (vs : List Json) :
    renderChars (.list vs) = listText [] (vs.map fun v => .bare (renderChars v)) := by
  cases vs with
  | nil => rfl
  | cons v vs =>
      have hrow := row_of_tail renderChars renderItems rfl (fun _ _ => rfl) v vs
      rw [renderChars, hrow, listText, List.map_map]
      simp [Function.comp_def, Padded.text_bare]

def renderMember (m : String × Json) : List Char := renderText m.1 ++ ':' :: renderChars m.2

theorem renderChars_record (ms : List (String × Json)) :
    renderChars (.record ms) =
      recordText [] (ms.map fun m => (.bare (renderText m.1), .bare (renderChars m.2))) := by
  cases ms with
  | nil => rfl
  | cons m ms =>
      have hrow := row_of_tail renderMember renderMembers rfl
        (fun m ms => by simp [renderMembers, renderMember]) m ms
      have hrest : renderChars (.record (m :: ms)) =
          '{' :: (renderMember m ++ renderMembers ms) := by
        simp [renderChars, renderMember]
      have hmember : (memberText ∘ fun m : String × Json =>
          (Padded.bare (renderText m.1), Padded.bare (renderChars m.2))) = renderMember := by
        funext m
        simp [memberText, renderMember, Padded.text_bare]
      rw [hrest, hrow, recordText, List.map_map, hmember, List.nil_append]

/-! ## Values -/

mutual

/-- Every number within the value is an integer. -/
def Integral : Json → Prop
  | .null | .bool _ | .text _ => True
  | .number n => ∃ i, n = .ofInt i
  | .list vs => IntegralItems vs
  | .record ms => IntegralMembers ms

def IntegralItems : List Json → Prop
  | [] => True
  | v :: vs => Integral v ∧ IntegralItems vs

def IntegralMembers : List (String × Json) → Prop
  | [] => True
  | (_, v) :: ms => Integral v ∧ IntegralMembers ms

end

mutual

theorem yields_renderChars : (v : Json) → v.Integral → Yields (renderChars v) (toDocument v)
  | .null, _ => yields_null
  | .bool true, _ => yields_bool true
  | .bool false, _ => yields_bool false
  | .number n, hv => by
      obtain ⟨i, rfl⟩ := hv
      rw [renderChars, render_eq_spell]
      exact yields_spell (Numeral.wellFormed_ofInt i) (.inl rfl)
  | .text s, _ => by
      obtain ⟨body, hbody, hscans⟩ := (stringText_renderText s).scans
      rw [renderChars, hbody]
      exact yields_quoted hscans
  | .list vs, hv => renderChars_list vs ▸ yields_list whiteSpace_nil (yields_renderItems vs hv)
  | .record ms, hv =>
      renderChars_record ms ▸ yields_record whiteSpace_nil (yields_renderMembers ms hv)

theorem yields_renderItems : (vs : List Json) → IntegralItems vs →
    List.Forall₂ (fun (p : Padded) d => Yields p.core d)
      (vs.map fun v => .bare (renderChars v)) (toItems vs)
  | [], _ => .nil
  | v :: vs, hvs => .cons (yields_renderChars v hvs.1) (yields_renderItems vs hvs.2)

theorem yields_renderMembers : (ms : List (String × Json)) → IntegralMembers ms →
    List.Forall₂ YieldsMember
      (ms.map fun m => (.bare (renderText m.1), .bare (renderChars m.2))) (toMembers ms)
  | [], _ => .nil
  | (k, v) :: ms, hms =>
      .cons ⟨(stringText_renderText k).scans, yields_renderChars v hms.1⟩
        (yields_renderMembers ms hms.2)

end

theorem readAll_renderChars {v : Json} (hv : v.Integral) :
    readAll v.renderChars = .finished (toDocument v) := by
  have hread := readAll_padded (p := .bare v.renderChars) (yields_renderChars v hv)
  rwa [Padded.text_bare] at hread

theorem documentOf?_render {v : Json} (hv : v.Integral) :
    documentOf? v.render = some (toDocument v) := by
  rw [documentOf?, Json.render, String.toList_ofList, readAll_renderChars hv]

end FaasOperator.Json
