/-
# `FaasOperator.Proofs.Index.Replay` — the index against a plain replay of what it has heard

## What is proved

The notifications since the start are a list of changes for each kind, objects applied and keys
deleted; a reset counts as all that it applies and then all that it deletes.  For both kinds, after
every sequence of notifications with resyncs in between (`cache_replays`):

* what is held under a key is the last object with that namespace and name that was applied and not
  deleted since (`LastApplied`), and nothing else is held;
* the list of a namespace is these objects, each once;
* an object whose metadata say no namespace or no name is nowhere;
* a namespace without objects is not kept, and the gauges tell how many objects each one has.

## How

Every single step is one change to what is found, so many steps are a replay (`function?_notify`,
`deployment?_notify`), and a replay finds what was applied last (`replay_eq_some_iff`).
-/
import Mathlib.Data.List.Induction
import FaasOperator.Proofs.Index.Gauges

namespace FaasOperator

/-! ## Changes to objects of one kind -/

/-- An object was applied, or the one under a key deleted. -/
inductive Change (α : Type) where
  | apply (a : α)
  | delete (key : ResourceKey)

/-- An object's metadata has this namespace and this name, and neither is empty. -/
def ObjectMeta.Names (m : ObjectMeta) (key : ResourceKey) : Prop :=
  m.ns = some key.ns ∧ m.name = some key.name ∧ key.ns ≠ "" ∧ key.name ≠ ""

theorem ObjectMeta.key?_eq_some_iff_names {m : ObjectMeta} {key : ResourceKey} :
    m.key? = some key ↔ m.Names key := by
  rw [key?_eq_some_iff, Names, ← Bool.not_eq_true, ← Bool.not_eq_true, String.isEmpty_iff,
    String.isEmpty_iff]

theorem ObjectMeta.Names.unique {m : ObjectMeta} {key key' : ResourceKey} (h : m.Names key)
    (h' : m.Names key') : key = key' := by
  rw [← key?_eq_some_iff_names] at h h'
  rw [h] at h'
  exact Option.some.inj h'

namespace Change

variable {α : Type} (metadata : α → ObjectMeta)

/-- The change is to the object under this key. -/
def Touches (key : ResourceKey) : Change α → Prop
  | .apply a => (metadata a).Names key
  | .delete k => key = k

/-- The object under this key was applied, and not applied or deleted since. -/
def LastApplied (cs : List (Change α)) (key : ResourceKey) (a : α) : Prop :=
  ∃ before after, cs = before ++ .apply a :: after ∧ (metadata a).Names key ∧
    ∀ c ∈ after, ¬c.Touches metadata key

/-- What is found under each key after a change. -/
def onto (found : ResourceKey → Option α) : Change α → ResourceKey → Option α
  | .apply a, key => if (metadata a).key? = some key then some a else found key
  | .delete k, key => if key = k then none else found key

/-- What is found under each key after all changes. -/
def replay (cs : List (Change α)) : ResourceKey → Option α :=
  cs.foldl (onto metadata) fun _ => none

variable {metadata} {cs : List (Change α)} {c : Change α} {key : ResourceKey} {a : α}

theorem onto_of_not_touches {found : ResourceKey → Option α} (h : ¬c.Touches metadata key) :
    c.onto metadata found key = found key := by
  cases c with
  | apply b => exact if_neg fun hb => h (ObjectMeta.key?_eq_some_iff_names.mp hb)
  | delete k => exact if_neg h

/-- A change to the object under a key leaves the object that it applies, or none. -/
theorem onto_of_touches {found : ResourceKey → Option α} (h : c.Touches metadata key) :
    c.onto metadata found key = some a ↔ c = .apply a := by
  cases c with
  | apply b =>
      have he : (Change.apply b).onto metadata found key = some b :=
        if_pos (ObjectMeta.key?_eq_some_iff_names.mpr h)
      simp [he]
  | delete k =>
      have he : (Change.delete k).onto metadata found key = none := if_pos h
      simp [he]

theorem not_lastApplied_nil : ¬LastApplied metadata [] key a := by
  rintro ⟨before, after, h, -⟩
  exact List.append_ne_nil_of_right_ne_nil before (List.cons_ne_nil _ after) h.symm

theorem lastApplied_concat :
    LastApplied metadata (cs ++ [c]) key a ↔
      (c = .apply a ∧ c.Touches metadata key) ∨
        (LastApplied metadata cs key a ∧ ¬c.Touches metadata key) := by
  constructor
  · rintro ⟨before, after, hcs, hnames, hafter⟩
    -- the change at the end is the apply itself, or comes after it
    rcases List.eq_nil_or_concat after with rfl | ⟨after, c', rfl⟩
    · obtain ⟨-, hc⟩ := List.append_inj' hcs rfl
      cases hc
      exact .inl ⟨rfl, hnames⟩
    · rw [List.concat_eq_append, ← List.cons_append, ← List.append_assoc] at hcs
      obtain ⟨rfl, hc⟩ := List.append_inj' hcs rfl
      cases hc
      refine .inr ⟨⟨before, after, rfl, hnames, fun d hd => ?_⟩, ?_⟩
      · exact hafter d (by simp [hd])
      · exact hafter c (by simp)
  · rintro (⟨rfl, htouches⟩ | ⟨⟨before, after, rfl, hnames, hafter⟩, hc⟩)
    · exact ⟨cs, [], rfl, htouches, nofun⟩
    · refine ⟨before, after ++ [c], by simp, hnames, fun c' hc' => ?_⟩
      rcases List.mem_append.mp hc' with hc' | hc'
      · exact hafter c' hc'
      · rw [List.mem_singleton.mp hc']
        exact hc

theorem replay_eq_some_iff : replay metadata cs key = some a ↔ LastApplied metadata cs key a := by
  -- on the changes with the latest split off: it alone decides, unless it is to another object
  induction cs using List.reverseRecOn with
  | nil => exact ⟨nofun, fun h => absurd h not_lastApplied_nil⟩
  | append_singleton cs c ih =>
      have hstep : replay metadata (cs ++ [c]) = c.onto metadata (replay metadata cs) := by
        simp [replay]
      rw [hstep, lastApplied_concat]
      by_cases h : c.Touches metadata key
      · rw [onto_of_touches h]
        simp [h]
      · rw [onto_of_not_touches h, ih]
        simp [h]

end Change

/-! ## The changes that notifications bring -/

open Change

/-- The changes to functions, in the order in which they are taken in. -/
def Notification.functionChanges : Notification → List (Change FunctionObject)
  | .applyFunction f => [.apply f]
  | .deleteFunction key => [.delete key]
  | .resetFunctions fs removed => fs.map .apply ++ removed.map .delete
  | .applyDeployment _ | .deleteDeployment _ | .resetDeployments _ _ => []

/-- The changes to Deployments, in the order in which they are taken in. -/
def Notification.deploymentChanges : Notification → List (Change Deployment)
  | .applyDeployment d => [.apply d]
  | .deleteDeployment key => [.delete key]
  | .resetDeployments ds removed => ds.map .apply ++ removed.map .delete
  | .applyFunction _ | .deleteFunction _ | .resetFunctions _ _ => []

namespace Index

/-- The indexes that a sequence of notifications can lead to, resyncs coming in between. -/
inductive Heard : List Notification → Index → Prop
  | empty : Heard [] .empty
  | notify {ns : List Notification} {i : Index} (n : Notification) :
      Heard ns i → Heard (ns ++ [n]) (i.notify n).1
  | resync {ns : List Notification} {i : Index} : Heard ns i → Heard ns i.resync.1

section Found

variable {α β : Type} {metadata : α → ObjectMeta} (found : Index → ResourceKey → Option α)
  {delete : ResourceKey → Index → Routed}

/-- If every step is one change to what is found, many are the changes one after the other. -/
theorem found_each {step : β → Index → Routed} {change : β → Change α}
    (hstep : ∀ x i, found (step x i).1 = (change x).onto metadata (found i)) (xs : List β)
    (r : Routed) :
    found (each step xs r).1 = (xs.map change).foldl (onto metadata) (found r.1) := by
  induction xs generalizing r with
  | nil => rfl
  | cons x xs ih =>
      obtain ⟨i, keys⟩ := r
      rw [List.map_cons, List.foldl_cons, ← hstep x i]
      exact ih _

/-- A reset changes what is found by all that it applies, then by all that it deletes. -/
theorem found_reset {apply : α → Index → Routed}
    (happly : ∀ a i, found (apply a i).1 = (Change.apply a).onto metadata (found i))
    (hdelete : ∀ k i, found (delete k i).1 = (Change.delete k).onto metadata (found i))
    (xs : List α) (removed : List ResourceKey) (i : Index) :
    found (each delete removed (each apply xs (i, []))).1 =
      (xs.map Change.apply ++ removed.map Change.delete).foldl (onto metadata) (found i) := by
  rw [found_each found hdelete, found_each found happly, List.foldl_append]

theorem found_reset_of_eq {apply : β → Index → Routed}
    (happly : ∀ x i, found (apply x i).1 = found i)
    (hdelete : ∀ k i, found (delete k i).1 = found i) (xs : List β) (removed : List ResourceKey)
    (i : Index) : found (each delete removed (each apply xs (i, []))).1 = found i := by
  have hxs : found (each apply xs (i, [])).1 = found i :=
    each_induction (P := fun r => found r.1 = found i) rfl fun x _ j _ hj =>
      (happly x j).trans hj
  exact each_induction (P := fun r => found r.1 = found i) hxs fun k _ j _ hj =>
    (hdelete k j).trans hj

end Found

theorem function?_notify (n : Notification) (i : Index) :
    (i.notify n).1.function? =
      n.functionChanges.foldl (onto FunctionObject.metadata) i.function? := by
  have happly (f : FunctionObject) (i : Index) :
      (applyFunction f i).1.function? = (Change.apply f).onto FunctionObject.metadata i.function? :=
    funext (function?_applyFunction f i)
  have hdelete (k : ResourceKey) (i : Index) :
      (deleteFunction k i).1.function? = (Change.delete k).onto FunctionObject.metadata i.function? :=
    funext (function?_deleteFunction k i)
  cases n with
  | applyFunction f => exact happly f i
  | deleteFunction k => exact hdelete k i
  | resetFunctions fs removed =>
      exact found_reset function? happly hdelete fs removed i
  | applyDeployment d => exact function?_applyDeployment d i
  | deleteDeployment k => exact function?_deleteDeployment k i
  | resetDeployments ds removed =>
      exact found_reset_of_eq function? function?_applyDeployment
        function?_deleteDeployment ds removed i

theorem deployment?_notify (n : Notification) (i : Index) :
    (i.notify n).1.deployment? =
      n.deploymentChanges.foldl (onto Deployment.metadata) i.deployment? := by
  have happly (d : Deployment) (i : Index) :
      (applyDeployment d i).1.deployment? = (Change.apply d).onto Deployment.metadata i.deployment? :=
    funext (deployment?_applyDeployment d i)
  have hdelete (k : ResourceKey) (i : Index) :
      (deleteDeployment k i).1.deployment? = (Change.delete k).onto Deployment.metadata i.deployment? :=
    funext (deployment?_deleteDeployment k i)
  cases n with
  | applyFunction f => exact deployment?_applyFunction f i
  | deleteFunction k => exact deployment?_deleteFunction k i
  | resetFunctions fs removed =>
      exact found_reset_of_eq deployment? deployment?_applyFunction
        deployment?_deleteFunction fs removed i
  | applyDeployment d => exact happly d i
  | deleteDeployment k => exact hdelete k i
  | resetDeployments ds removed =>
      exact found_reset deployment? happly hdelete ds removed i

/-! ## Sequences of notifications -/

variable {ns : List Notification}

theorem Heard.reachable (h : Heard ns i) : i.Reachable := by
  induction h with
  | empty => exact .empty
  | notify n _ ih => exact ih.notify n
  | resync _ ih => exact ih.resync

/-- Whatever can be reached comes of some sequence of notifications. -/
theorem reachable_iff_heard : i.Reachable ↔ ∃ ns, Heard ns i := by
  constructor
  · intro h
    induction h with
    | empty => exact ⟨[], .empty⟩
    | notify n _ ih =>
        obtain ⟨ns, hns⟩ := ih
        exact ⟨ns ++ [n], hns.notify n⟩
    | resync _ ih =>
        obtain ⟨ns, hns⟩ := ih
        exact ⟨ns, hns.resync⟩
  · rintro ⟨ns, h⟩
    exact h.reachable

theorem Heard.tidy (h : Heard ns i) : i.Tidy := h.reachable.tidy

theorem Heard.function?_eq_replay (h : Heard ns i) :
    i.function? = replay FunctionObject.metadata (ns.flatMap Notification.functionChanges) := by
  induction h with
  | empty => rfl
  | notify n _ ih => rw [function?_notify, ih]; simp [replay]
  | resync _ ih => exact ih

theorem Heard.deployment?_eq_replay (h : Heard ns i) :
    i.deployment? = replay Deployment.metadata (ns.flatMap Notification.deploymentChanges) := by
  induction h with
  | empty => rfl
  | notify n _ ih => rw [deployment?_notify, ih]; simp [replay]
  | resync _ ih => exact ih

/-! ## What the index answers -/

section Mirrors

variable {α : Type} {metadata : α → ObjectMeta} {cs : List (Change α)}
  {get : ResourceKey → Option α} {list : String → List α} {gauge : MetricFamily}

/-- What is told about the objects of one kind agrees with the changes to them. -/
structure Mirrors (metadata : α → ObjectMeta) (cs : List (Change α))
    (get : ResourceKey → Option α) (list : String → List α) (gauge : MetricFamily) : Prop where
  get_iff : ∀ key a, get key = some a ↔ LastApplied metadata cs key a
  /-- An object is under its own namespace and name, and has both. -/
  names : ∀ key a, get key = some a → (metadata a).Names key
  list_iff : ∀ ns a, a ∈ list ns ↔ ∃ name, get ⟨ns, name⟩ = some a
  once : ∀ ns, (list ns).Nodup
  gauge_eq : ∀ ns, gauge.value ns = (list ns).length

/-- The answers of a map for each namespace, if what is found in them is what a replay finds. -/
theorem mirrors_of_replay (maps : String → StringMap α)
    (hget : ∀ key : ResourceKey, (maps key.ns).get? key.name = replay metadata cs key)
    (hgauge : ∀ ns, gauge.value ns = (maps ns).size) :
    Mirrors metadata cs (replay metadata cs) (fun ns => (maps ns).values) gauge := by
  have hnames : ∀ key a, replay metadata cs key = some a → (metadata a).Names key := by
    intro key a ha
    obtain ⟨-, -, -, hnames, -⟩ := replay_eq_some_iff.mp ha
    exact hnames
  constructor
  · exact fun _ _ => replay_eq_some_iff
  · exact hnames
  · intro ns a
    simp only [← hget]
    exact StringMap.mem_values_iff
  · intro ns
    -- an object that is under two names would have both
    refine StringMap.nodup_values fun name name' a ha ha' => ?_
    have hkey := hnames ⟨ns, name⟩ a ((hget ⟨ns, name⟩).symm.trans ha)
    have hkey' := hnames ⟨ns, name'⟩ a ((hget ⟨ns, name'⟩).symm.trans ha')
    exact congrArg ResourceKey.name (hkey.unique hkey')
  · intro ns
    rw [hgauge, StringMap.size, StringMap.values, List.length_map]

end Mirrors

/-- After any sequence of notifications, what is held of each kind under a namespace and a name is
the last object applied with these in its metadata and not deleted since; the list of a namespace is
these objects, each once; an object without a namespace or a name is nowhere; a namespace without
objects is not kept; and the gauges are the numbers of objects. -/
theorem cache_replays (h : Heard ns i) :
    Mirrors FunctionObject.metadata (ns.flatMap Notification.functionChanges)
      i.function? i.listFunctions i.metrics.functions ∧
    Mirrors Deployment.metadata (ns.flatMap Notification.deploymentChanges)
      i.deployment? i.listDeployments i.metrics.deployments ∧
    ∀ ns s, i.namespaces.get? ns = some s →
      s.functions.isEmpty = false ∨ s.deployments.isEmpty = false := by
  refine ⟨?_, ?_, h.tidy.kept⟩
  · have hreplay := h.function?_eq_replay
    rw [hreplay]
    exact mirrors_of_replay (fun ns => (i.space ns).functions) (congrFun hreplay) h.tidy.functions
  · have hreplay := h.deployment?_eq_replay
    rw [hreplay]
    exact mirrors_of_replay (fun ns => (i.space ns).deployments) (congrFun hreplay)
      h.tidy.deployments

def versionMeta (name : Option String) (version : String) : ObjectMeta :=
  { ObjectMeta.empty with
    name := name, ns := some "openfaas-fn", resourceVersion := some version }

def functionVersion (name : Option String) (version : String) : FunctionObject :=
  ⟨versionMeta name version, FunctionSpec.empty, none⟩

/-- A function is applied, and listed again in a new version, next to one without a name, while one
is gone that was never applied.  A Deployment is applied, and deleted twice. -/
theorem cache_replays_relisted :
    ∃ i, Heard [.applyFunction (functionVersion (some "echo") "1"),
        .resetFunctions [functionVersion (some "echo") "2", functionVersion none "3"]
          [⟨"openfaas-fn", "gone"⟩],
        .applyDeployment { Deployment.empty with metadata := versionMeta (some "echo") "4" },
        .deleteDeployment ⟨"openfaas-fn", "echo"⟩,
        .deleteDeployment ⟨"openfaas-fn", "echo"⟩] i ∧
      i.function? ⟨"openfaas-fn", "echo"⟩ = some (functionVersion (some "echo") "2") ∧
      i.metrics.functions.value "openfaas-fn" = 1 ∧
      i.metrics.deployments.value "openfaas-fn" = 0 := by
  have h₁ := Heard.empty.notify (.applyFunction (functionVersion (some "echo") "1"))
  have h₂ := h₁.notify (.resetFunctions
    [functionVersion (some "echo") "2", functionVersion none "3"] [⟨"openfaas-fn", "gone"⟩])
  have h₃ := h₂.notify
    (.applyDeployment { Deployment.empty with metadata := versionMeta (some "echo") "4" })
  have h₄ := h₃.notify (.deleteDeployment ⟨"openfaas-fn", "echo"⟩)
  have h := h₄.notify (.deleteDeployment ⟨"openfaas-fn", "echo"⟩)
  obtain ⟨hfunctions, hdeployments, -⟩ := cache_replays h
  refine ⟨_, h, ?_, ?_, ?_⟩
  · refine (hfunctions.get_iff _ _).mpr ⟨[.apply (functionVersion (some "echo") "1")],
      [.apply (functionVersion none "3"), .delete ⟨"openfaas-fn", "gone"⟩], rfl,
      ⟨rfl, rfl, by decide, by decide⟩, ?_⟩
    simp [Touches, ObjectMeta.Names, functionVersion, versionMeta, ObjectMeta.empty]
  · rw [hfunctions.gauge_eq]
    decide
  · rw [hdeployments.gauge_eq]
    decide

end Index

end FaasOperator
