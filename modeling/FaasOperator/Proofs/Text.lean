/-
# `FaasOperator.Proofs.Text` — where a text comes apart

Cutting at a separator divides a text at its first occurrence (`cut?_eq_some_iff`), and taking it to
pieces divides it at every one, so that the number of pieces tells how often the separator occurs
(`length_pieces`).
-/
import FaasOperator.Text

namespace FaasOperator.Text

variable {sep : Char} {cs before after : List Char}

/-! ## Cutting -/

theorem cut?_eq_none_iff : cut? sep cs = none ↔ sep ∉ cs := by
  induction cs with
  | nil => simp [cut?]
  | cons c cs ih =>
      rw [cut?]
      split
      · simp_all
      · rename_i hc
        rw [Option.map_eq_none_iff, ih, List.mem_cons, or_iff_right (Ne.symm hc)]

theorem cut?_append (h : sep ∉ before) :
    cut? sep (before ++ sep :: after) = some (before, after) := by
  induction before with
  | nil => simp [cut?]
  | cons c before ih =>
      obtain ⟨hc, hbefore⟩ := not_or.mp (mt List.mem_cons.mpr h)
      rw [List.cons_append, cut?, if_neg (Ne.symm hc), ih hbefore]
      rfl

theorem cut?_eq_some_iff :
    cut? sep cs = some (before, after) ↔ sep ∉ before ∧ cs = before ++ sep :: after := by
  refine ⟨fun h => ?_, fun ⟨hbefore, hcs⟩ => hcs ▸ cut?_append hbefore⟩
  induction cs generalizing before with
  | nil => cases h
  | cons c cs ih =>
      rw [cut?] at h
      split at h
      · rename_i hc
        cases h
        rw [hc]
        exact ⟨List.not_mem_nil, rfl⟩
      · rename_i hc
        obtain ⟨⟨before', after'⟩, hcut, heq⟩ := Option.map_eq_some_iff.mp h
        cases heq
        obtain ⟨hbefore, rfl⟩ := ih hcut
        exact ⟨by simp [Ne.symm hc, hbefore], rfl⟩

/-! ## Pieces -/

theorem length_pieces : (pieces sep cs).length = cs.count sep + 1 := by
  induction cs with
  | nil => rfl
  | cons c cs ih =>
      rw [pieces]
      split
      · rename_i hc
        rw [List.length_cons, ih, hc, List.count_cons_self]
      · rename_i hc
        rw [List.count_cons_of_ne hc, ← ih]
        cases hpieces : pieces sep cs with
        | nil => simp [hpieces] at ih
        | cons p ps => rfl

theorem pieces_of_notMem (h : sep ∉ cs) : pieces sep cs = [cs] := by
  induction cs with
  | nil => rfl
  | cons c cs ih =>
      obtain ⟨hc, hcs⟩ := not_or.mp (mt List.mem_cons.mpr h)
      rw [pieces, if_neg (Ne.symm hc), ih hcs]

theorem pieces_append (h : sep ∉ before) :
    pieces sep (before ++ sep :: after) = before :: pieces sep after := by
  induction before with
  | nil => simp [pieces]
  | cons c before ih =>
      obtain ⟨hc, hbefore⟩ := not_or.mp (mt List.mem_cons.mpr h)
      rw [List.cons_append, pieces, if_neg (Ne.symm hc), ih hbefore]

theorem pieces_eq_pair_iff : pieces sep cs = [before, after] ↔
    sep ∉ before ∧ sep ∉ after ∧ cs = before ++ sep :: after := by
  constructor
  · intro h
    cases hcut : cut? sep cs with
    | none =>
        rw [pieces_of_notMem (cut?_eq_none_iff.mp hcut)] at h
        cases h
    | some parts =>
        obtain ⟨first, rest⟩ := parts
        obtain ⟨hfirst, rfl⟩ := cut?_eq_some_iff.mp hcut
        rw [pieces_append hfirst, List.cons.injEq] at h
        obtain ⟨rfl, hrest⟩ := h
        have hcount : rest.count sep = 0 := by
          have hlength : (pieces sep rest).length = rest.count sep + 1 := length_pieces
          rw [hrest, List.length_singleton] at hlength
          omega
        have hnot : sep ∉ rest := List.count_eq_zero.mp hcount
        rw [pieces_of_notMem hnot, List.cons.injEq] at hrest
        obtain ⟨rfl, -⟩ := hrest
        exact ⟨hfirst, hnot, rfl⟩
  · rintro ⟨hbefore, hafter, rfl⟩
    rw [pieces_append hbefore, pieces_of_notMem hafter]

end FaasOperator.Text
