/-
# `FaasOperator.Workload.Volumes` — volumes of a pod and mounts of its first container

They are added and removed by name.  A list of which nothing is left is absent.
-/
import FaasOperator.Kubernetes.Deployment

namespace FaasOperator

/-- The elements that pass, or nothing if none does. -/
def keepOnly (p : α → Bool) (xs : Option (List α)) : Option (List α) :=
  match xs with
  | none => none
  | some xs => if (xs.filter p).isEmpty then none else some (xs.filter p)

def append (x : α) (xs : Option (List α)) : Option (List α) := some (xs.getD [] ++ [x])

/-- The volumes without those of a name. -/
def removeVolume (name : String) (vs : Option (List Volume)) : Option (List Volume) :=
  keepOnly (fun v => v.name != name) vs

def removeMount (name : String) (ms : Option (List VolumeMount)) : Option (List VolumeMount) :=
  keepOnly (fun m => m.name != name) ms

/-- Changes a pod and its first container together, if there is a container. -/
def PodSpec.withFirstContainer (f : PodSpec → Container → PodSpec × Container) (p : PodSpec) :
    PodSpec :=
  match p.containers with
  | [] => p
  | c :: cs =>
      let (p, c) := f p c
      { p with containers := c :: cs }

end FaasOperator
