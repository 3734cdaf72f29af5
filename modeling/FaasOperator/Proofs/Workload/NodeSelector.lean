/-
# `FaasOperator.Proofs.Workload.NodeSelector` — what the constraints of a declaration select

A constraint is a term of the selector just if it has one equals sign
(`nodeSelectorTerm?_eq_some_iff`).  For every list of constraints (`last_term_wins`):

* the value of a key is that of the last term with this key, whatever stands in between
  (`LastTerm`);
* there is no selector just if no constraint has one equals sign;
* the selector of further constraints is laid over that of those before;
* rendered pods have the selector of the declared constraints.

So a constraint that is no term can stand anywhere, and neighbouring terms of different keys can
change places, without a change of the selector (`nodeSelector_insert`, `nodeSelector_swap`).
-/
import Mathlib.Data.List.Basic
import FaasOperator.Proofs.StringMap
import FaasOperator.Proofs.Text
import FaasOperator.Proofs.Workload.Volumes
import FaasOperator.Workload.Deployment

namespace FaasOperator

variable {constraint key value key' value' : String}

theorem nodeSelectorTerm?_eq_none_iff :
    nodeSelectorTerm? constraint = none ↔ constraint.toList.count '=' ≠ 1 := by
  have hlength : (Text.pieces '=' constraint.toList).length = constraint.toList.count '=' + 1 :=
    Text.length_pieces
  unfold nodeSelectorTerm?
  split
  · rename_i hpieces
    rw [hpieces] at hlength
    simpa using hlength.symm
  · rename_i hpieces
    refine iff_of_true rfl fun hcount => ?_
    rw [hcount] at hlength
    obtain ⟨k, v, hkv⟩ := List.length_eq_two.mp hlength
    exact hpieces k v hkv

theorem nodeSelectorTerm?_eq_some_iff : nodeSelectorTerm? constraint = some (key, value) ↔
    '=' ∉ key.toList ∧ '=' ∉ value.toList ∧ constraint = key ++ "=" ++ value := by
  have hpieces : nodeSelectorTerm? constraint = some (key, value) ↔
      Text.pieces '=' constraint.toList = [key.toList, value.toList] := by
    unfold nodeSelectorTerm?
    split
    · rename_i k v heq
      rw [heq]
      simp [← String.toList_inj]
    · rename_i hne
      exact iff_of_false (by simp) (hne _ _)
  rw [hpieces, Text.pieces_eq_pair_iff, ← String.toList_inj]
  simp

/-! ## Constraints that come and go -/

/-- What is no term of the selector can stand anywhere among the constraints. -/
theorem nodeSelector_insert (h : constraint.toList.count '=' ≠ 1) (before after : List String) :
    nodeSelector (before ++ constraint :: after) = nodeSelector (before ++ after) := by
  have hnone := nodeSelectorTerm?_eq_none_iff.mpr h
  simp only [nodeSelector, List.filterMap_append, List.filterMap_cons_none hnone]

theorem nodeSelector_swap {constraint' : String}
    (h : nodeSelectorTerm? constraint = some (key, value))
    (h' : nodeSelectorTerm? constraint' = some (key', value')) (hne : key ≠ key')
    (before after : List String) :
    nodeSelector (before ++ constraint :: constraint' :: after) =
      nodeSelector (before ++ constraint' :: constraint :: after) := by
  have hmaps (es es' : List (String × String)) :
      StringMap.ofList (es ++ (key, value) :: (key', value') :: es') =
        StringMap.ofList (es ++ (key', value') :: (key, value) :: es') := by
    rw [StringMap.ofList, StringMap.insertAll_append, StringMap.ofList, StringMap.insertAll_append,
      StringMap.insertAll_cons, StringMap.insertAll_cons, StringMap.insertAll_cons,
      StringMap.insertAll_cons, StringMap.insert_comm _ hne]
  simp only [nodeSelector, List.filterMap_append, List.filterMap_cons_some h,
    List.filterMap_cons_some h', hmaps]

/-! ## The last term of a key -/

structure WritesTerm (constraint key value : String) : Prop where
  once : constraint.toList.count '=' = 1
  text_eq : constraint = key ++ "=" ++ value

/-- A constraint writes the term, and no later one writes a term of its key. -/
def LastTerm (constraints : List String) (key value : String) : Prop :=
  ∃ before constraint after, constraints = before ++ constraint :: after ∧
    WritesTerm constraint key value ∧ ∀ later ∈ after, ∀ other, ¬WritesTerm later key other

theorem writesTerm_iff :
    WritesTerm constraint key value ↔ nodeSelectorTerm? constraint = some (key, value) := by
  rw [nodeSelectorTerm?_eq_some_iff]
  have hcount : (key ++ "=" ++ value).toList.count '=' =
      key.toList.count '=' + 1 + value.toList.count '=' := by
    rw [String.toList_append, String.toList_append, List.count_append, List.count_append]
    rfl
  constructor
  · rintro ⟨honce, rfl⟩
    rw [hcount] at honce
    exact ⟨List.count_eq_zero.mp (by omega), List.count_eq_zero.mp (by omega), rfl⟩
  · rintro ⟨hkey, hvalue, rfl⟩
    refine ⟨?_, rfl⟩
    rw [hcount, List.count_eq_zero.mpr hkey, List.count_eq_zero.mpr hvalue]

variable {constraints : List String}

/-- The selector answers like the map of all terms, which it is unless there are none. -/
theorem bind_get?_nodeSelector (constraints : List String) (key : String) :
    (nodeSelector constraints).bind (·.get? key) =
      (StringMap.ofList (constraints.filterMap nodeSelectorTerm?)).get? key :=
  StringMap.bind_get?_of_isEmpty _ key

theorem bind_get?_nodeSelector_eq_some_iff :
    (nodeSelector constraints).bind (·.get? key) = some value ↔ LastTerm constraints key value := by
  rw [bind_get?_nodeSelector, StringMap.get?_ofList_eq_some_iff]
  constructor
  · -- the constraint that the last entry comes from may have others in front of it that write none
    rintro ⟨terms, laterTerms, hterms, hlast⟩
    obtain ⟨front, rest, rfl, -, hrest⟩ := List.filterMap_eq_append_iff.mp hterms
    obtain ⟨passed, constraint, after, rfl, -, hterm, rfl⟩ := List.filterMap_eq_cons_iff.mp hrest
    refine ⟨front ++ passed, constraint, after, (List.append_assoc _ _ _).symm,
      writesTerm_iff.mpr hterm, ?_⟩
    intro later hlater other hother
    have hmem : (key, other) ∈ after.filterMap nodeSelectorTerm? :=
      List.mem_filterMap.mpr ⟨later, hlater, writesTerm_iff.mp hother⟩
    exact hlast (key, other) hmem rfl
  · rintro ⟨before, constraint, after, rfl, hterm, hlast⟩
    refine ⟨before.filterMap nodeSelectorTerm?, after.filterMap nodeSelectorTerm?, ?_, ?_⟩
    · rw [List.filterMap_append, List.filterMap_cons_some (writesTerm_iff.mp hterm)]
    · rintro ⟨key', other⟩ hmem rfl
      obtain ⟨later, hlater, hother⟩ := List.mem_filterMap.mp hmem
      exact hlast later hlater other (writesTerm_iff.mpr hother)

theorem nodeSelector_eq_none_iff :
    nodeSelector constraints = none ↔
      ¬∃ constraint ∈ constraints, constraint.toList.count '=' = 1 := by
  have hterms : nodeSelector constraints = none ↔
      constraints.filterMap nodeSelectorTerm? = [] := by
    rw [← StringMap.isEmpty_ofList_iff, nodeSelector]
    simp
  rw [hterms, List.filterMap_eq_nil_iff]
  simp only [nodeSelectorTerm?_eq_none_iff, not_exists, not_and, ne_eq]

theorem nodeSelector_append (constraints more : List String) :
    nodeSelector (constraints ++ more) =
      (nodeSelector constraints).merge StringMap.overlay (nodeSelector more) := by
  have hsome {terms : List (String × String)} (h : terms ≠ []) :
      (if (StringMap.ofList terms).isEmpty then none else some (StringMap.ofList terms)) =
        some (StringMap.ofList terms) :=
    if_neg (mt StringMap.isEmpty_ofList_iff.mp h)
  simp only [nodeSelector, List.filterMap_append]
  by_cases hterms : constraints.filterMap nodeSelectorTerm? = []
  · rw [hterms, List.nil_append]
    exact Option.merge_none_left.symm
  · by_cases hmore : more.filterMap nodeSelectorTerm? = []
    · rw [hmore, List.append_nil]
      exact Option.merge_none_right.symm
    · rw [hsome hterms, hsome hmore, hsome (List.append_ne_nil_of_left_ne_nil hterms _),
        StringMap.ofList_append]
      rfl

/-- Whatever stands between the terms of a key, the last of them is selected; there is no selector
just if no constraint has one equals sign; of constraints in two parts, the selector of the second
part is laid over that of the first.  Rendered pods have the selector of the declared constraints.
-/
theorem last_term_wins (constraints more : List String) (key value : String) :
    ((nodeSelector constraints).bind (·.get? key) = some value ↔
      LastTerm constraints key value) ∧
    (nodeSelector constraints = none ↔
      ¬∃ constraint ∈ constraints, constraint.toList.count '=' = 1) ∧
    nodeSelector (constraints ++ more) =
      (nodeSelector constraints).merge StringMap.overlay (nodeSelector more) ∧
    ∀ (f : FunctionObject) (owner : OwnerReference) (secrets : Secrets) (policy : PullPolicy),
      (f.deployment owner secrets policy).pod?.map (·.nodeSelector) =
        some (nodeSelector (f.spec.constraints.getD [])) := by
  refine ⟨bind_get?_nodeSelector_eq_some_iff, nodeSelector_eq_none_iff,
    nodeSelector_append constraints more, ?_⟩
  intro f owner secrets policy
  rw [f.pod?_deployment]
  rfl

example : nodeSelector ["zone=a", "gpu", "zone=b", "zone=c=d", "="] =
    some (.ofList [("zone", "b"), ("", "")]) := by decide

end FaasOperator
