/-
# `FaasOperator.Proofs.Function.Layout` — the layout of a declaration does not matter

## What is proved

`LaidOut s text` says that a text gives the declaration `s`, in whatever layout: fields in any
order, with white space, escapes and fields of other names and any values between them, the entries
of a map in any order, and without the fields that have the value they would have anyway.  It is a
description of texts that does not mention the reader.  Then (`FunctionSpec.layout_irrelevant`):

    s.LaidOut text → parse text = .ok s

and a Deployment that carries `text` needs an update just if one with the operator's own text does.
That text is one of the layouts (`laidOut_render`), so the statement is about something.

## What it is not

A field that is given twice is no layout here: such a text is refused.  A list in place of a record
is read too, and is left out as well.
-/
import Mathlib.Data.List.Nodup
import FaasOperator.Proofs.Json.Compact
import FaasOperator.Proofs.Json.Decoder
import FaasOperator.Workload.Change

namespace FaasOperator

open Json Decoder

/-! ## Layouts -/

/-- The amounts that a record gives. -/
def FunctionResources.fieldTexts (r : FunctionResources) : List FieldText := [
  .optional "memory" StringText r.memory,
  .optional "cpu" StringText r.cpu]

/-- A record of amounts. -/
def ResourcesText : Texts FunctionResources := fun r => RecordText r.fieldTexts

namespace FunctionSpec

/-- The fields that a text of a declaration gives.  Texts may be left out when they are empty, the
flag when it is off, and everything else when it is absent. -/
def fieldTexts (s : FunctionSpec) : List FieldText := [
  .withDefault "name" StringText s.name "",
  .withDefault "image" StringText s.image "",
  .optional "replicas" Int32Text s.replicas,
  .withDefault "handler" StringText s.handler "",
  .optional "annotations" (MapText StringText) s.annotations,
  .optional "labels" (MapText StringText) s.labels,
  .optional "environment" (MapText StringText) s.environment,
  .optional "constraints" (ListText StringText) s.constraints,
  .optional "secrets" (ListText StringText) s.secrets,
  .optional "limits" ResourcesText s.limits,
  .optional "requests" ResourcesText s.requests,
  .withDefault "readOnlyRootFilesystem" BoolText s.readOnlyRootFilesystem false]

/-- The text is a record that gives this declaration, with white space around it. -/
def LaidOut (s : FunctionSpec) (text : String) : Prop :=
  ∃ p : Padded, text.toList = p.text ∧ RecordText s.fieldTexts p.core

end FunctionSpec

/-! ## What was given so far -/

section Given

variable {α : Type}

def given (names : List String) (name : String) (a : α) : Option α :=
  if name ∈ names then some a else none

theorem given_of_notMem {names : List String} {name : String} (h : name ∉ names) (a : α) :
    given names name a = none := if_neg h

@[simp] theorem given_cons_self (names : List String) (name : String) (a : α) :
    given (name :: names) name a = some a := if_pos List.mem_cons_self

@[simp] theorem given_cons_of_ne {name other : String} (h : other ≠ name) (names : List String)
    (a : α) : given (other :: names) name a = given names name a := by
  simp [given, h.symm]

theorem getD_given {names : List String} {name : String} {a default : α}
    (h : name ∈ names ∨ a = default) : (given names name a).getD default = a := by
  by_cases hname : name ∈ names
  · simp [given, hname]
  · simp [given, hname, h.resolve_left hname]

theorem join_given {names : List String} {name : String} {o : Option α}
    (h : name ∈ names ∨ o = none) : (given names name o).join = o := by
  by_cases hname : name ∈ names
  · simp [given, hname]
  · simp [given, hname, h.resolve_left hname]

end Given

/-! ## Amounts -/

namespace FunctionResources

/-- The reading that has seen the fields of these names. -/
def draft (r : FunctionResources) (names : List String) : Draft where
  memory := given names "memory" r.memory
  cpu := given names "cpu" r.cpu

theorem accepts_amount : Accepts (nullable string) (NullableText StringText) :=
  accepts_nullable accepts_string fun _ h => nomatch h

theorem drafts (r : FunctionResources) : Drafts fields r.fieldTexts r.draft where
  field := by
    simp only [fieldTexts, List.forall_mem_cons, List.not_mem_nil, IsEmpty.forall_iff,
      implies_true, and_true]
    refine ⟨readsField_once rfl accepts_amount ?_ ?_, readsField_once rfl accepts_amount ?_ ?_⟩
    all_goals simp +contextual [draft, given_of_notMem]
  unknown := fun _ hname => find?_eq_none_of_notMem hname
  draft_unknown := by
    intro name hname names
    simp only [fieldTexts, FieldText.optional, FieldText.withDefault, List.map_cons, List.map_nil,
      List.mem_cons, List.not_mem_nil, or_false, not_or] at hname
    simp [draft, hname]

theorem accepts_decode : Accepts FunctionResources.decode ResourcesText := by
  intro r cs h
  obtain ⟨d, names, hd, hstrict, hgiven⟩ := r.drafts.strict h
  refine ⟨d, hd, ?_⟩
  have hread : FunctionResources.decode d = .ok (ofDraft (r.draft names)) :=
    congrArg (Except.map ofDraft) hstrict
  simp only [fieldTexts, FieldText.optional, FieldText.withDefault, List.forall_mem_cons] at hgiven
  obtain ⟨hmemory, hcpu, -⟩ := hgiven
  rw [hread, ofDraft]
  simp only [draft, join_given hmemory, join_given hcpu]

end FunctionResources

/-! ## Declarations -/

namespace FunctionSpec

/-- The reading that has seen the fields of these names. -/
def draft (s : FunctionSpec) (names : List String) : Draft where
  name := given names "name" s.name
  image := given names "image" s.image
  replicas := given names "replicas" s.replicas
  handler := given names "handler" s.handler
  annotations := given names "annotations" s.annotations
  labels := given names "labels" s.labels
  environment := given names "environment" s.environment
  constraints := given names "constraints" s.constraints
  secrets := given names "secrets" s.secrets
  limits := given names "limits" s.limits
  requests := given names "requests" s.requests
  readOnlyRootFilesystem := given names "readOnlyRootFilesystem" s.readOnlyRootFilesystem

theorem accepts_replicas : Accepts (nullable int32) (NullableText Int32Text) :=
  accepts_nullable accepts_int32 fun _ h => nomatch h

theorem accepts_texts : Accepts (nullable (map string)) (NullableText (MapText StringText)) :=
  accepts_nullable (accepts_map accepts_string) fun _ h => nomatch h

theorem accepts_names : Accepts (nullable (list string)) (NullableText (ListText StringText)) :=
  accepts_nullable (accepts_list accepts_string) fun _ h => nomatch h

theorem accepts_amounts :
    Accepts (nullable FunctionResources.decode) (NullableText ResourcesText) :=
  accepts_nullable FunctionResources.accepts_decode fun _ h => nomatch h

theorem drafts (s : FunctionSpec) : Drafts fields s.fieldTexts s.draft where
  field := by
    simp only [fieldTexts, List.forall_mem_cons, List.not_mem_nil, IsEmpty.forall_iff,
      implies_true, and_true]
    refine ⟨readsField_once rfl accepts_string ?_ ?_, readsField_once rfl accepts_string ?_ ?_,
      readsField_once rfl accepts_replicas ?_ ?_, readsField_once rfl accepts_string ?_ ?_,
      readsField_once rfl accepts_texts ?_ ?_, readsField_once rfl accepts_texts ?_ ?_,
      readsField_once rfl accepts_texts ?_ ?_, readsField_once rfl accepts_names ?_ ?_,
      readsField_once rfl accepts_names ?_ ?_, readsField_once rfl accepts_amounts ?_ ?_,
      readsField_once rfl accepts_amounts ?_ ?_, readsField_once rfl accepts_bool ?_ ?_⟩
    all_goals simp +contextual [draft, given_of_notMem]
  unknown := fun _ hname => find?_eq_none_of_notMem hname
  draft_unknown := by
    intro name hname names
    simp only [fieldTexts, FieldText.optional, FieldText.withDefault, List.map_cons, List.map_nil,
      List.mem_cons, List.not_mem_nil, or_false, not_or] at hname
    simp [draft, hname]

/-- What was left out is read as it would have been given. -/
theorem ofDraft_draft {s : FunctionSpec} {names : List String}
    (h : ∀ f ∈ s.fieldTexts, f.name ∈ names ∨ f.omissible) : ofDraft (s.draft names) = s := by
  simp only [fieldTexts, FieldText.optional, FieldText.withDefault, List.forall_mem_cons] at h
  obtain ⟨hname, himage, hreplicas, hhandler, hannotations, hlabels, henvironment, hconstraints,
    hsecrets, hlimits, hrequests, hreadOnly, -⟩ := h
  simp only [ofDraft, draft, getD_given hname, getD_given himage, join_given hreplicas,
    getD_given hhandler, join_given hannotations, join_given hlabels, join_given henvironment,
    join_given hconstraints, join_given hsecrets, join_given hlimits, join_given hrequests,
    getD_given hreadOnly]

theorem parse_of_laidOut {s : FunctionSpec} {text : String} (h : s.LaidOut text) :
    FunctionSpec.parse text = .ok s := by
  obtain ⟨p, htext, hrecord⟩ := h
  obtain ⟨d, names, hd, hstrict, hgiven⟩ := s.drafts.strict hrecord
  have hread : FunctionSpec.decode d = .ok (ofDraft (s.draft names)) :=
    congrArg (Except.map ofDraft) hstrict
  rw [FunctionSpec.parse, decodeText_of_yields _ htext hd, hread, ofDraft_draft hgiven]

end FunctionSpec

/-! ## The text that the operator writes -/

section Writing

variable {α : Type}

/-- The compact text of a value is one of its texts. -/
def WrittenAs (write : α → Json) (texts : Texts α) : Prop := ∀ a, texts a (write a).renderChars

theorem writtenAs_text : WrittenAs Json.text StringText := stringText_renderText

theorem writtenAs_bool : WrittenAs Json.bool BoolText := by
  intro b
  cases b <;> rfl

theorem writtenAs_int32 : WrittenAs (fun i : Int32 => Json.int i.toInt) Int32Text :=
  fun _ => render_eq_spell _

theorem writtenAs_orNull {write : α → Json} {texts : Texts α} (h : WrittenAs write texts) :
    WrittenAs (fun o : Option α => Json.orNull (o.map write)) (NullableText texts) := by
  intro o
  cases o with
  | none => rfl
  | some a => exact h a

theorem writtenAs_texts : WrittenAs Json.texts (ListText StringText) := by
  intro ss
  refine ⟨[], _, whiteSpace_nil, ?_, renderChars_list (ss.map .text)⟩
  rw [List.map_map]
  exact List.forall₂_map_right_iff.mpr (List.forall₂_same.mpr fun s _ => writtenAs_text s)

theorem writtenAs_map : WrittenAs StringMap.toJson (MapText StringText) := by
  intro m
  refine ⟨[], m.entries, _, whiteSpace_nil, .refl _, ?_, renderChars_record _⟩
  rw [List.map_map]
  exact List.forall₂_map_right_iff.mpr (List.forall₂_same.mpr fun e _ =>
    ⟨stringText_renderText e.1, stringText_renderText e.2⟩)

theorem recordText_compact (fs : List FieldText) {fields : List FieldText}
    {ms : List (String × Json)} (hfs : fs ⊆ fields)
    (h : List.Forall₂ (fun f m => f.name = m.1 ∧ f.text m.2.renderChars) fs ms)
    (honce : (fs.map (·.name)).Nodup) (hgiven : ∀ f ∈ fields, f ∈ fs ∨ f.omissible) :
    RecordText fields (Json.record ms).renderChars := by
  have hmembers : List.Forall₂ (MemberText fields) (fs.map (·.name))
      (ms.map fun m => (.bare (renderText m.1), .bare m.2.renderChars)) := by
    refine List.forall₂_map_left_iff.mpr (List.forall₂_map_right_iff.mpr ?_)
    refine ((List.forall₂_and_left _ _).mpr ⟨hfs, h⟩).imp ?_
    rintro f ⟨k, v⟩ ⟨hf, rfl, htext⟩
    exact .field hf (stringText_renderText f.name) htext
  rw [renderChars_record]
  refine .members whiteSpace_nil hmembers (fun f _ => ?_) fun f hf => ?_
  · exact List.nodup_iff_count_le_one.mp honce f.name
  · exact (hgiven f hf).imp_left fun hmem => List.mem_map_of_mem hmem

theorem writtenAs_resources : WrittenAs FunctionResources.toJson ResourcesText := by
  rintro ⟨memory, cpu⟩
  have hmemory (m : String) : (FieldText.optional "memory" StringText (some m)).text
      (Json.text m).renderChars := writtenAs_text m
  have hcpu (c : String) : (FieldText.optional "cpu" StringText (some c)).text
      (Json.text c).renderChars := writtenAs_text c
  cases memory with
  | none =>
      cases cpu with
      | none =>
          refine recordText_compact [] ?_ .nil .nil ?_
          all_goals simp [FunctionResources.fieldTexts, FieldText.optional, FieldText.withDefault]
      | some c =>
          refine recordText_compact [.optional "cpu" StringText (some c)] ?_
            (.cons ⟨rfl, hcpu c⟩ .nil) (by simp) ?_
          all_goals simp [FunctionResources.fieldTexts, FieldText.optional, FieldText.withDefault]
  | some m =>
      cases cpu with
      | none =>
          refine recordText_compact [.optional "memory" StringText (some m)] ?_
            (.cons ⟨rfl, hmemory m⟩ .nil) (by simp) ?_
          all_goals simp [FunctionResources.fieldTexts, FieldText.optional, FieldText.withDefault]
      | some c =>
          exact recordText_compact (FunctionResources.fieldTexts ⟨some m, some c⟩)
            (List.Subset.refl _) (.cons ⟨rfl, hmemory m⟩ (.cons ⟨rfl, hcpu c⟩ .nil))
            (by simp [FunctionResources.fieldTexts, FieldText.optional, FieldText.withDefault])
            fun _ hf => .inl hf

end Writing

namespace FunctionSpec

theorem nodup_names (s : FunctionSpec) : (s.fieldTexts.map (·.name)).Nodup := by
  simp [fieldTexts, FieldText.optional, FieldText.withDefault]

theorem laidOut_render (s : FunctionSpec) : s.LaidOut s.render := by
  refine ⟨.bare s.toJson.renderChars, ?_, ?_⟩
  · rw [FunctionSpec.render, Json.render, String.toList_ofList, Padded.text_bare]
  · refine recordText_compact s.fieldTexts (List.Subset.refl _) ?_ s.nodup_names
      fun _ hf => .inl hf
    refine .cons ⟨rfl, writtenAs_text s.name⟩ ?_
    refine .cons ⟨rfl, writtenAs_text s.image⟩ ?_
    refine .cons ⟨rfl, writtenAs_orNull writtenAs_int32 s.replicas⟩ ?_
    refine .cons ⟨rfl, writtenAs_text s.handler⟩ ?_
    refine .cons ⟨rfl, writtenAs_orNull writtenAs_map s.annotations⟩ ?_
    refine .cons ⟨rfl, writtenAs_orNull writtenAs_map s.labels⟩ ?_
    refine .cons ⟨rfl, writtenAs_orNull writtenAs_map s.environment⟩ ?_
    refine .cons ⟨rfl, writtenAs_orNull writtenAs_texts s.constraints⟩ ?_
    refine .cons ⟨rfl, writtenAs_orNull writtenAs_texts s.secrets⟩ ?_
    refine .cons ⟨rfl, writtenAs_orNull writtenAs_resources s.limits⟩ ?_
    refine .cons ⟨rfl, writtenAs_orNull writtenAs_resources s.requests⟩ ?_
    exact .cons ⟨rfl, writtenAs_bool s.readOnlyRootFilesystem⟩ .nil

end FunctionSpec

/-! ## The layout makes no difference -/

/-- Whether a Deployment is up to date depends on the declaration it was made from, and not on the
layout in which it carries this declaration. -/
theorem needsUpdate_of_laidOut {s : FunctionSpec} {text : String} (h : s.LaidOut text)
    {d d' : Deployment} (hd : d.metadata.annotation? specAnnotation = some text)
    (hd' : d'.metadata.annotation? specAnnotation = some s.render) (current : FunctionSpec) :
    needsUpdate current d = needsUpdate current d' := by
  simp only [needsUpdate, hd, hd', FunctionSpec.parse_of_laidOut h,
    FunctionSpec.parse_of_laidOut s.laidOut_render]

/-- From every text that gives a declaration this declaration is read, and a Deployment that carries
the text is replaced when one with the operator's own text is. -/
theorem FunctionSpec.layout_irrelevant {s : FunctionSpec} {text : String} (h : s.LaidOut text) :
    FunctionSpec.parse text = .ok s ∧
    ∀ (current : FunctionSpec) (d d' : Deployment),
      d.metadata.annotation? specAnnotation = some text →
      d'.metadata.annotation? specAnnotation = some s.render →
      needsUpdate current d = needsUpdate current d' :=
  ⟨parse_of_laidOut h, fun current _ _ hd hd' => needsUpdate_of_laidOut h hd hd' current⟩

/-! A text in another layout: the first field comes last, under a name with an escape in it, fields
of other names stand in front of the rest, and most of what is absent is left out. -/

def scatteredSpec : FunctionSpec :=
  { FunctionSpec.empty with name := "echo", limits := some ⟨none, some "1"⟩ }

def scatteredText : String :=
  "\x7b \"note\" : [1e2, null],\n\"limits\" : \x7b\"x\":true, \"cpu\":\"1\"\x7d, " ++
    "\"\\u006eame\":\"echo\" \x7d"

def scatteredNote : Padded × Padded :=
  (⟨[' '], "\"note\"".toList, [' '], whiteSpace_space, whiteSpace_space⟩,
    ⟨[' '], listText [] [.bare "1e2".toList,
      ⟨[' '], nullText, [], whiteSpace_space, whiteSpace_nil⟩], [],
      whiteSpace_space, whiteSpace_nil⟩)

def scatteredAmounts : List (Padded × Padded) := [
  (.bare "\"x\"".toList, .bare (boolText true)),
  (⟨[' '], "\"cpu\"".toList, [], whiteSpace_space, whiteSpace_nil⟩, .bare "\"1\"".toList)]

def scatteredLimits : Padded × Padded :=
  (⟨['\n'], "\"limits\"".toList, [' '], whiteSpace_newline, whiteSpace_space⟩,
    ⟨[' '], recordText [] scatteredAmounts, [], whiteSpace_space, whiteSpace_nil⟩)

def scatteredName : Padded × Padded :=
  (⟨[' '], "\"\\u006eame\"".toList, [], whiteSpace_space, whiteSpace_nil⟩,
    ⟨[], "\"echo\"".toList, [' '], whiteSpace_nil, whiteSpace_space⟩)

/-- The number and the null of the note are a list of values. -/
theorem valueText_scatteredNote : ValueText scatteredNote.2.core := by
  have hnumber : (Numeral.mk false ['1'] none (some ['2'])).WellFormed := by
    refine ⟨.inr ⟨'1', [], rfl, by decide, by simp⟩, fun _ h => (nomatch h), ?_⟩
    rintro ds ⟨⟩
    exact .unsigned ⟨by decide, by simp⟩
  refine .list whiteSpace_nil ?_
  simp only [List.forall_mem_cons, List.not_mem_nil, IsEmpty.forall_iff, implies_true, and_true]
  exact ⟨.number hnumber (.inl rfl), .null⟩

theorem resourcesText_scatteredLimits : ResourcesText ⟨none, some "1"⟩ scatteredLimits.2.core := by
  have hx : MemberText (FunctionResources.fieldTexts ⟨none, some "1"⟩) "x"
      (.bare "\"x\"".toList, .bare (boolText true)) :=
    .unknown (by decide) (stringText_renderText "x") (.bool true)
  have hcpu : MemberText (FunctionResources.fieldTexts ⟨none, some "1"⟩) "cpu"
      (⟨[' '], "\"cpu\"".toList, [], whiteSpace_space, whiteSpace_nil⟩, .bare "\"1\"".toList) :=
    .field (.tail _ (.head _)) (stringText_renderText "cpu") (stringText_renderText "1")
  refine .members whiteSpace_nil (.cons hx (.cons hcpu .nil)) (fun f _ => ?_) ?_
  · exact List.nodup_iff_count_le_one.mp (by decide) f.name
  · simp [FunctionResources.fieldTexts, FieldText.optional, FieldText.withDefault]

/-- The escape in front of the name is the code of its first letter. -/
theorem stringText_scatteredName : StringText "name" scatteredName.1.core := by
  have hescape : UnitEscape 'n'.toNat ['\\', 'u', '0', '0', '6', 'e'] :=
    .digits (i := 0) (j := 0) (k := 6) (l := 14) ⟨by decide, .inl rfl⟩ ⟨by decide, .inl rfl⟩
      ⟨by decide, .inl rfl⟩ ⟨by decide, .inl rfl⟩
  have hplain (c : Char) (hc : c = 'a' ∨ c = 'm' ∨ c = 'e') : CharText c [c] := by
    rcases hc with rfl | rfl | rfl <;> exact .plain (by decide) (by decide) (by decide)
  refine ⟨[['\\', 'u', '0', '0', '6', 'e'], ['a'], ['m'], ['e']], ?_, rfl⟩
  refine .cons (.unit hescape) (.cons (hplain 'a' (.inl rfl)) ?_)
  exact .cons (hplain 'm' (.inr (.inl rfl))) (.cons (hplain 'e' (.inr (.inr rfl))) .nil)

theorem laidOut_scatteredText : scatteredSpec.LaidOut scatteredText := by
  have hnote : MemberText scatteredSpec.fieldTexts "note" scatteredNote :=
    .unknown (by decide) (stringText_renderText "note") valueText_scatteredNote
  have hlimits : MemberText scatteredSpec.fieldTexts "limits" scatteredLimits := by
    refine .field (f := .optional "limits" ResourcesText scatteredSpec.limits) ?_
      (stringText_renderText "limits") resourcesText_scatteredLimits
    simp [FunctionSpec.fieldTexts]
  have hname : MemberText scatteredSpec.fieldTexts "name" scatteredName :=
    .field (.head _) stringText_scatteredName (stringText_renderText "echo")
  refine ⟨.bare (recordText [] [scatteredNote, scatteredLimits, scatteredName]), ?_, ?_⟩
  · decide +kernel
  · refine .members whiteSpace_nil (.cons hnote (.cons hlimits (.cons hname .nil))) ?_ ?_
    · exact fun f _ => List.nodup_iff_count_le_one.mp (by decide) f.name
    · simp [FunctionSpec.fieldTexts, FieldText.optional, FieldText.withDefault, scatteredSpec,
        FunctionSpec.empty]

/-- A Deployment that carries this text and says nothing else. -/
def carrying (text : String) : Deployment :=
  { Deployment.empty with
    metadata := { ObjectMeta.empty with
      annotations := some (StringMap.empty.insert specAnnotation text) } }

theorem annotation_carrying (text : String) :
    (carrying text).metadata.annotation? specAnnotation = some text :=
  StringMap.get?_insert_self _ _ text

theorem FunctionSpec.layout_irrelevant_scattered :
    scatteredSpec.LaidOut scatteredText ∧ FunctionSpec.parse scatteredText = .ok scatteredSpec ∧
    needsUpdate .empty (carrying scatteredText) =
      needsUpdate .empty (carrying scatteredSpec.render) := by
  have h := FunctionSpec.layout_irrelevant laidOut_scatteredText
  exact ⟨laidOut_scatteredText, h.1,
    h.2 .empty _ _ (annotation_carrying scatteredText) (annotation_carrying scatteredSpec.render)⟩

end FaasOperator
