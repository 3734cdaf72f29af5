/-
# `FaasOperator.Proofs.Index.Owners` — whom a single change tells

A function that is applied is told of itself, and a Deployment tells the cached function of its
namespace that its controller reference names: when it is applied in a state that is news, and when
it is deleted.  `Due` says this of the cache as the change finds it.

That the index does it, although it looks the owner up in the cache as the change leaves it and has
several reasons to give up on the way, is `answered_notify`: one key is enqueued, and it is due, or
none is due and the change is ignored.
-/
import FaasOperator.Proofs.Index.Notify
import FaasOperator.Proofs.Index.Replay

namespace FaasOperator

theorem ObjectMeta.Names.anyNamespace {m : ObjectMeta} {key : ResourceKey} (h : m.Names key) :
    m.anyNamespace = key.ns :=
  anyNamespace_of_key? (key?_eq_some_iff_names.mpr h)

theorem ObjectMeta.not_names_of_key? {m : ObjectMeta} (h : m.key? = none) (key : ResourceKey) :
    ¬m.Names key := by
  intro hkey
  rw [key?_eq_some_iff_names.mpr hkey] at h
  cases h

def Notification.isSingle : Notification → Bool
  | .resetFunctions _ _ | .resetDeployments _ _ => false
  | .applyFunction _ | .deleteFunction _ | .applyDeployment _ | .deleteDeployment _ => true

/-- The notification applies one object, or deletes one Deployment: a change that somebody may have
to be told of, and that is counted. -/
def Notification.isCounted : Notification → Bool
  | .applyFunction _ | .applyDeployment _ | .deleteDeployment _ => true
  | .deleteFunction _ | .resetFunctions _ _ | .resetDeployments _ _ => false

theorem Notification.isSingle_of_isCounted {n : Notification} (h : n.isCounted = true) :
    n.isSingle = true := by
  cases n with
  | applyFunction _ | applyDeployment _ | deleteDeployment _ => rfl
  | deleteFunction _ | resetFunctions _ _ | resetDeployments _ _ => cases h

theorem Notification.eq_deleteFunction {n : Notification} (hsingle : n.isSingle = true)
    (hn : n.isCounted = false) : ∃ key, n = .deleteFunction key := by
  cases n with
  | deleteFunction key => exact ⟨key, rfl⟩
  | resetFunctions _ _ | resetDeployments _ _ => cases hsingle
  | applyFunction _ | applyDeployment _ | deleteDeployment _ => cases hn

/-- The first reference that claims to control the Deployment is to a function of this name. -/
def Deployment.NamesOwner (d : Deployment) (name : String) : Prop :=
  ∃ r, d.metadata.controller? = some r ∧ r.kind = FunctionObject.kind ∧ r.name = name

namespace Index

theorem Reachable.names {i : Index} (hi : i.Reachable) (k : ResourceKey) (d : Deployment)
    (hd : i.deployment? k = some d) : d.metadata.Names k :=
  ObjectMeta.key?_eq_some_iff_names.mp (hi.holds.deployments k d hd)

/-! ## Keys that are due -/

/-- The Deployment under `k` names, by kind and name, the function that is cached under `key`. -/
def Tells (i : Index) (k : ResourceKey) (d : Deployment) (key : ResourceKey) : Prop :=
  key.ns = k.ns ∧ d.NamesOwner key.name ∧ ∃ f, i.function? key = some f

/-- No state of the Deployment under `k` is cached at the same version. -/
def News (i : Index) (k : ResourceKey) (d : Deployment) : Prop :=
  ∀ p v, i.deployment? k = some p → p.metadata.resourceVersion = some v →
    d.metadata.resourceVersion ≠ some v

/-- The key that a single change has to enqueue. -/
inductive Due (i : Index) : Notification → ResourceKey → Prop
  | function {f : FunctionObject} {key : ResourceKey} :
      f.metadata.Names key → Due i (.applyFunction f) key
  | applied {d : Deployment} {k key : ResourceKey} :
      d.metadata.Names k → i.News k d → i.Tells k d key → Due i (.applyDeployment d) key
  | deleted {d : Deployment} {k key : ResourceKey} :
      i.deployment? k = some d → i.Tells k d key → Due i (.deleteDeployment k) key

theorem due_applyFunction_iff {i : Index} {f : FunctionObject} {key : ResourceKey} :
    i.Due (.applyFunction f) key ↔ f.metadata.Names key := by
  constructor
  · intro h
    cases h with
    | function hkey => exact hkey
  · exact .function

theorem due_applyDeployment_iff {i : Index} {d : Deployment} {k key : ResourceKey}
    (hk : d.metadata.Names k) :
    i.Due (.applyDeployment d) key ↔ i.News k d ∧ i.Tells k d key := by
  constructor
  · intro h
    cases h with
    | applied hk' hnews htells =>
        rw [hk.unique hk']
        exact ⟨hnews, htells⟩
  · rintro ⟨hnews, htells⟩
    exact .applied hk hnews htells

theorem due_deleteDeployment_iff {i : Index} {d : Deployment} {k key : ResourceKey}
    (hd : i.deployment? k = some d) : i.Due (.deleteDeployment k) key ↔ i.Tells k d key := by
  constructor
  · intro h
    cases h with
    | deleted hd' htells =>
        rw [hd] at hd'
        cases hd'
        exact htells
  · exact .deleted hd

theorem sameVersion_iff {p d : Deployment} :
    sameVersion p d = true ↔
      ∃ v, p.metadata.resourceVersion = some v ∧ d.metadata.resourceVersion = some v := by
  unfold sameVersion
  cases p.metadata.resourceVersion with
  | none => simp
  | some v =>
      rw [Option.isSome_some, Bool.true_and, beq_iff_eq]
      constructor
      · intro h
        exact ⟨v, rfl, h.symm⟩
      · rintro ⟨w, hw, h⟩
        rw [hw, h]

theorem news_iff {i : Index} {k : ResourceKey} {d : Deployment} :
    i.News k d ↔ (i.deployment? k).any (fun p => sameVersion p d) = false := by
  rw [← Bool.not_eq_true, Option.any_eq_true, not_exists]
  constructor
  · rintro h p ⟨hp, hversion⟩
    obtain ⟨v, hv, hv'⟩ := sameVersion_iff.mp hversion
    exact h p v hp hv hv'
  · intro h p v hp hv hv'
    exact h p ⟨hp, sameVersion_iff.mpr ⟨v, hv, hv'⟩⟩

/-! ## What comes of a change -/

inductive Answered (P : ResourceKey → Prop) (i : Index) : Routed → Prop
  | enqueue {cause : Cause} {key : ResourceKey} : cause ≠ .resync → (∀ key', P key' ↔ key' = key) →
      Answered P i (i.enqueue cause [key])
  | ignore {reason : Ignored} : (∀ key, ¬P key) → Answered P i (i.ignore reason)

section Answered

variable {P Q : ResourceKey → Prop} {i : Index} {r : Routed}

theorem Answered.congr (h : Answered P i r) (hPQ : ∀ key, P key ↔ Q key) : Answered Q i r := by
  cases h with
  | enqueue hcause hP => exact .enqueue hcause fun key => (hPQ key).symm.trans (hP key)
  | ignore hP => exact .ignore fun key hQ => hP key ((hPQ key).mpr hQ)

theorem Answered.mem_iff (h : Answered P i r) (key : ResourceKey) : key ∈ r.2 ↔ P key := by
  cases h with
  | enqueue _ hP =>
      rw [hP key]
      exact List.mem_singleton
  | ignore hP =>
      constructor
      · intro hmem
        cases hmem
      · intro hkey
        exact absurd hkey (hP key)

theorem Answered.length_le (h : Answered P i r) : r.2.length ≤ 1 := by
  cases h with
  | enqueue _ _ => exact Nat.le_refl 1
  | ignore _ => exact Nat.zero_le 1

theorem answered_enqueueOwner (i : Index) (d : Deployment) {k : ResourceKey}
    (hk : d.metadata.Names k) : Answered (i.Tells k d) i (i.enqueueOwner d) := by
  unfold enqueueOwner
  split
  · rename_i hnone
    refine .ignore fun key htells => ?_
    obtain ⟨-, ⟨r, hr, -, -⟩, -⟩ := htells
    rw [hnone] at hr
    cases hr
  · rename_i owner howner
    -- the owner is the one reference that can name anybody
    have hnames : ∀ name, d.NamesOwner name ↔
        owner.kind = FunctionObject.kind ∧ owner.name = name := by
      intro name
      unfold Deployment.NamesOwner
      simp [howner]
    rw [hk.anyNamespace]
    split
    · rename_i hkind
      refine .ignore fun key htells => ?_
      obtain ⟨-, hname, -⟩ := htells
      exact bne_iff_ne.mp hkind ((hnames _).mp hname).1
    · rename_i hkind
      have hkind' : owner.kind = FunctionObject.kind := by simpa using hkind
      dsimp only
      split
      · rename_i hf
        refine .ignore ?_
        rintro ⟨ns, name⟩ ⟨(rfl : ns = k.ns), hname, f, hf'⟩
        obtain ⟨-, (rfl : owner.name = name)⟩ := (hnames _).mp hname
        rw [hf] at hf'
        cases hf'
      · rename_i f hf
        refine .enqueue (by decide) ?_
        rintro ⟨ns, name⟩
        constructor
        · rintro ⟨(rfl : ns = k.ns), hname, -⟩
          obtain ⟨-, (rfl : owner.name = name)⟩ := (hnames _).mp hname
          rfl
        · intro heq
          cases heq
          exact ⟨rfl, (hnames _).mpr ⟨hkind', rfl⟩, f, hf⟩

end Answered

/-! ## Single changes -/

/-- The same notifications have been counted, apart from resyncs. -/
structure SameCounts (i j : Index) : Prop where
  enqueues : j.metrics.enqueues = i.metrics.enqueues
  ignored : j.metrics.ignored = i.metrics.ignored

theorem sameCounts_updateSpace (i : Index) (ns : String) (f : NamespaceIndex → NamespaceIndex) :
    i.SameCounts (i.updateSpace ns f) := ⟨rfl, rfl⟩

theorem answered_applyFunction (f : FunctionObject) (i : Index) :
    ∃ j, i.SameCounts j ∧
      Answered (i.Due (.applyFunction f)) j (i.notify (.applyFunction f)) := by
  show ∃ j, i.SameCounts j ∧ Answered (i.Due (.applyFunction f)) j (applyFunction f i)
  unfold applyFunction
  cases hkey : f.metadata.key? with
  | none =>
      refine ⟨i, ⟨rfl, rfl⟩, .ignore fun key hdue => ?_⟩
      exact f.metadata.not_names_of_key? hkey key (due_applyFunction_iff.mp hdue)
  | some key =>
      have hnames := ObjectMeta.key?_eq_some_iff_names.mp hkey
      refine ⟨_, sameCounts_updateSpace i _ _, .enqueue (by decide) fun key' => ?_⟩
      rw [due_applyFunction_iff]
      constructor
      · intro h
        exact h.unique hnames
      · rintro rfl
        exact hnames

theorem tells_updateSpace (i : Index) (k : ResourceKey) (d : Deployment) (key : ResourceKey)
    (g : StringMap Deployment → StringMap Deployment) :
    (i.updateSpace k.ns fun s => { s with deployments := g s.deployments }).Tells k d key ↔
      i.Tells k d key := by
  unfold Tells
  rw [function?_updateSpace_deployments]

theorem answered_applyDeployment (d : Deployment) (i : Index) :
    ∃ j, i.SameCounts j ∧
      Answered (i.Due (.applyDeployment d)) j (i.notify (.applyDeployment d)) := by
  show ∃ j, i.SameCounts j ∧ Answered (i.Due (.applyDeployment d)) j (applyDeployment d i)
  unfold applyDeployment
  cases hk : d.metadata.key? with
  | none =>
      refine ⟨i, ⟨rfl, rfl⟩, .ignore fun key hdue => ?_⟩
      cases hdue with
      | applied hnames _ _ => exact d.metadata.not_names_of_key? hk _ hnames
  | some k =>
      have hnames := ObjectMeta.key?_eq_some_iff_names.mp hk
      refine ⟨i.updateSpace k.ns fun s =>
        { s with deployments := s.deployments.insert k.name d }, sameCounts_updateSpace i _ _, ?_⟩
      dsimp only
      split
      · rename_i hversion
        refine .ignore fun key hdue => ?_
        obtain ⟨hnews, -⟩ := (due_applyDeployment_iff hnames).mp hdue
        rw [news_iff.mp hnews] at hversion
        cases hversion
      · rename_i hversion
        have hnews : i.News k d := news_iff.mpr (Bool.not_eq_true _ ▸ hversion)
        refine (answered_enqueueOwner _ d hnames).congr fun key => ?_
        rw [tells_updateSpace i k d key (·.insert k.name d), due_applyDeployment_iff hnames,
          and_iff_right hnews]

/-- Where what is cached under a key has that key, its owner is looked up where the key says. -/
theorem answered_deleteDeployment {k : ResourceKey} {i : Index}
    (hk : ∀ d, i.deployment? k = some d → d.metadata.Names k) :
    ∃ j, i.SameCounts j ∧
      Answered (i.Due (.deleteDeployment k)) j (i.notify (.deleteDeployment k)) := by
  show ∃ j, i.SameCounts j ∧ Answered (i.Due (.deleteDeployment k)) j (deleteDeployment k i)
  unfold deleteDeployment
  cases hd : i.deployment? k with
  | none =>
      refine ⟨i, ⟨rfl, rfl⟩, .ignore fun key hdue => ?_⟩
      cases hdue with
      | deleted hd' _ =>
          rw [hd] at hd'
          cases hd'
  | some d =>
      refine ⟨_, sameCounts_updateSpace i _ _,
        (answered_enqueueOwner _ d (hk d hd)).congr fun key => ?_⟩
      rw [tells_updateSpace i k d key (·.erase k.name), due_deleteDeployment_iff hd]

theorem answered_notify {i : Index} (hi : i.Reachable) {n : Notification}
    (hn : n.isCounted = true) : ∃ j, i.SameCounts j ∧ Answered (i.Due n) j (i.notify n) := by
  cases n with
  | applyFunction f => exact answered_applyFunction f i
  | applyDeployment d => exact answered_applyDeployment d i
  | deleteDeployment k => exact answered_deleteDeployment (hi.names k)
  | deleteFunction _ | resetFunctions _ _ | resetDeployments _ _ => cases hn

/-- The keys that a single change enqueues are those that are due; nobody is told of a function that
is gone. -/
theorem mem_notify_iff {i : Index} (hi : i.Reachable) {n : Notification}
    (hn : n.isSingle = true) (key : ResourceKey) : key ∈ (i.notify n).2 ↔ i.Due n key := by
  cases hcounted : n.isCounted with
  | true =>
      obtain ⟨j, -, hanswered⟩ := answered_notify hi hcounted
      exact hanswered.mem_iff key
  | false =>
      obtain ⟨k, rfl⟩ := Notification.eq_deleteFunction hn hcounted
      constructor
      · intro hmem
        cases hmem
      · intro hdue
        cases hdue

end Index

end FaasOperator
