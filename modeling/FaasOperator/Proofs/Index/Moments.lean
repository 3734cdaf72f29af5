/-
# `FaasOperator.Proofs.Index.Moments` — notifications change by change

A reset is taken in as all that it applies and then all that it deletes, any other notification is
one change itself (`notify_parts`).  `trail` and `moments` tell of each notification, and of each
change, the index that it finds; that index is reachable (`reachable_of_mem_moments`).
-/
import FaasOperator.Proofs.Index.Owners

namespace FaasOperator

/-- The single changes that a notification brings, in the order in which they are taken in. -/
def Notification.parts : Notification → List Notification
  | .resetFunctions fs removed => fs.map .applyFunction ++ removed.map .deleteFunction
  | .resetDeployments ds removed => ds.map .applyDeployment ++ removed.map .deleteDeployment
  | .applyFunction f => [.applyFunction f]
  | .deleteFunction key => [.deleteFunction key]
  | .applyDeployment d => [.applyDeployment d]
  | .deleteDeployment key => [.deleteDeployment key]

theorem Notification.isSingle_of_mem_parts {n p : Notification} (h : p ∈ n.parts) :
    p.isSingle = true := by
  cases n with
  | resetFunctions fs removed | resetDeployments ds removed =>
      rcases List.mem_append.mp h with h | h
      · obtain ⟨x, -, rfl⟩ := List.mem_map.mp h
        rfl
      · obtain ⟨k, -, rfl⟩ := List.mem_map.mp h
        rfl
  | applyFunction _ | deleteFunction _ | applyDeployment _ | deleteDeployment _ =>
      rw [List.mem_singleton.mp h]
      rfl

namespace Index

def trail : List Notification → Index → List (Index × Notification)
  | [], _ => []
  | n :: ns, i => (i, n) :: trail ns (i.notify n).1

/-- Each of the changes that the notifications bring, with the index that it finds. -/
def moments (ns : List Notification) (i : Index) : List (Index × Notification) :=
  (i.trail ns).flatMap fun m => m.1.trail m.2.parts

section Moments

variable {i : Index} {m : Index × Notification}

theorem map_snd_trail (ns : List Notification) (i : Index) : (i.trail ns).map (·.2) = ns := by
  induction ns generalizing i with
  | nil => rfl
  | cons n ns ih =>
      show n :: ((i.notify n).1.trail ns).map (·.2) = n :: ns
      rw [ih]

theorem keys_trail (ns : List Notification) (i : Index) :
    (i.notifyAll ns).2 = (i.trail ns).flatMap fun m => (m.1.notify m.2).2 := by
  induction ns generalizing i with
  | nil => rfl
  | cons n ns ih =>
      rw [notifyAll_cons]
      show (i.notify n).2 ++ ((i.notify n).1.notifyAll ns).2 = _
      rw [ih]
      rfl

theorem reachable_of_mem_trail {ns : List Notification} (hi : i.Reachable)
    (h : m ∈ i.trail ns) : m.1.Reachable := by
  induction ns generalizing i with
  | nil => cases h
  | cons n ns ih =>
      rcases List.mem_cons.mp h with rfl | h
      · exact hi
      · exact ih (hi.notify n) h

/-- A notification is the changes that it brings, one after the other, and a mark that it came. -/
theorem notify_parts (n : Notification) (i : Index) :
    (i.notify n).2 = (i.notifyAll n.parts).2 ∧
      (i.notify n).1.namespaces = (i.notifyAll n.parts).1.namespaces ∧
      (i.notify n).1.metrics = (i.notifyAll n.parts).1.metrics := by
  cases n with
  | resetFunctions fs removed =>
      have h : i.notifyAll (Notification.resetFunctions fs removed).parts =
          each deleteFunction removed (each applyFunction fs (i, [])) := by
        show each notify (fs.map .applyFunction ++ removed.map .deleteFunction) (i, []) = _
        rw [each_append, each_map, each_map]
        rfl
      rw [h]
      exact ⟨rfl, rfl, rfl⟩
  | resetDeployments ds removed =>
      have h : i.notifyAll (Notification.resetDeployments ds removed).parts =
          each deleteDeployment removed (each applyDeployment ds (i, [])) := by
        show each notify (ds.map .applyDeployment ++ removed.map .deleteDeployment) (i, []) = _
        rw [each_append, each_map, each_map]
        rfl
      rw [h]
      exact ⟨rfl, rfl, rfl⟩
  | applyFunction _ | deleteFunction _ | applyDeployment _ | deleteDeployment _ =>
      exact ⟨rfl, rfl, rfl⟩

theorem map_snd_moments (ns : List Notification) (i : Index) :
    (i.moments ns).map (·.2) = ns.flatMap Notification.parts := by
  calc (i.moments ns).map (·.2)
      = (i.trail ns).flatMap fun m => (m.1.trail m.2.parts).map (·.2) := List.map_flatMap
    _ = (i.trail ns).flatMap fun m => m.2.parts := by simp only [map_snd_trail]
    _ = ((i.trail ns).map (·.2)).flatMap Notification.parts := by rw [List.flatMap_map]
    _ = ns.flatMap Notification.parts := by rw [map_snd_trail]

theorem keys_moments (ns : List Notification) (i : Index) :
    (i.notifyAll ns).2 = (i.moments ns).flatMap fun m => (m.1.notify m.2).2 := by
  have hparts (m : Index × Notification) : (m.1.notify m.2).2 =
      (m.1.trail m.2.parts).flatMap fun p => (p.1.notify p.2).2 := by
    rw [(notify_parts m.2 m.1).1, keys_trail]
  rw [keys_trail, moments, List.flatMap_assoc]
  exact congrArg (i.trail ns).flatMap (funext hparts)

theorem isSingle_of_mem_moments {ns : List Notification} (h : m ∈ i.moments ns) :
    m.2.isSingle = true := by
  have hmem : m.2 ∈ ns.flatMap Notification.parts :=
    map_snd_moments ns i ▸ List.mem_map_of_mem h
  obtain ⟨n, -, hpart⟩ := List.mem_flatMap.mp hmem
  exact Notification.isSingle_of_mem_parts hpart

theorem reachable_of_mem_moments {ns : List Notification} (hi : i.Reachable)
    (h : m ∈ i.moments ns) : m.1.Reachable := by
  obtain ⟨m', hm', hm⟩ := List.mem_flatMap.mp h
  exact reachable_of_mem_trail (reachable_of_mem_trail hi hm') hm

end Moments

end Index

end FaasOperator
