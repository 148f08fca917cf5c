import Caretaker.Build.Gather
import Caretaker.Converge
import Caretaker.PodReport

/-!
# Passes

A pass reads a parent and goes through the steps of its kind (`steps`): children are converged in a
fixed order, and the pods of a workload are reported once it has been converged.  The first failure
ends a pass; what was written before it stays.  A parent that is gone needs nothing: its children go
with it.
-/

namespace Caretaker

/-- What the children of a parent depend on besides the parent. -/
structure Surroundings where
  /-- The images that the environment gives. -/
  images : OperandImages := {}
  /-- The template of the health check configuration, or why there is none. -/
  template : Except Error (Child .configMap) := .error .missingTemplate

/-- One step of a pass. -/
inductive Step (kind : ParentKind) where
  /-- Converge the child that is built from the parent. -/
  | child (childKind : ChildKind)
    (build : Object (.parent kind) → Except Error (Child childKind))
  /-- Report the pods that carry the labels of a workload. -/
  | report (list : PodList kind) (labels : Object (.parent kind) → LabelMap)

/-- The steps of a pass over a health service with the given workload for its cache. -/
def healthServiceSteps (surroundings : Surroundings) (workload : MemcachedWorkload) :
    List (Step .healthService) := [
  match workload with
    | .deployment => .child .deployment (Build.memcachedDeployment · surroundings.images)
    | .statefulSet => .child .statefulSet (Build.memcachedStatefulSet · surroundings.images),
  .report .memcachedNodes Build.memcachedLabels,
  .child .service Build.memcachedService,
  .child .configMap (Build.healthConfigMap · surroundings.template),
  .child .deployment (Build.healthDeployment · surroundings.images),
  .report .healthCheckNodes Build.healthLabels,
  .child .service Build.healthService,
  .child .ingress Build.healthIngress]

/-- The steps of a pass over a must-gather service; `defaultClass` is the class of a claim that names
none. -/
def mustGatherServiceSteps (surroundings : Surroundings) (defaultClass : String) :
    List (Step .mustGatherService) := [
  .child .persistentVolumeClaim (Build.mustGatherClaim · defaultClass),
  .child .deployment (Build.mustGatherDeployment · surroundings.images),
  .report .mustGatherServiceNodes Build.mustGatherLabels,
  .child .service Build.mustGatherService,
  .child .ingress Build.mustGatherIngress]

/-- The class for the claim of a must-gather service: the one that it names, else one of the
cluster.  The cluster is asked for its classes only if the claim has a name and is not there yet: an
existing claim is never changed. -/
def classForClaim (parent : MustGatherService) (ns : String) : Program String := do
  let claim := parent.spec.persistentVolumeClaim
  match claim.storageClassName.filter (· ≠ "") with
  | some name => return name
  | none =>
    if isBlankText claim.name then
      return ""
    else
      match ← Program.attempt (.get (.child .persistentVolumeClaim) ns claim.name) with
      | .ok _ => return ""
      | .error error =>
        if error.isNotFound then
          let classes : List StorageClass ← Program.perform .listStorageClasses
          return Build.defaultStorageClass classes
        else Program.fail error

/-- The steps of a pass over a parent that was read in the given namespace. -/
def steps (surroundings : Surroundings) (ns : String) :
    (kind : ParentKind) → Object (.parent kind) → Program (List (Step kind))
  | .healthService, parent =>
    return healthServiceSteps surroundings (HealthService.spec parent).memcached.workload
  | .mustGatherService, parent => do
    return mustGatherServiceSteps surroundings (← classForClaim parent ns)
  | .mustGatherJob, _ => return [.child .job (Build.gatherJob · surroundings.images)]
  | .mustGatherConfig, _ => return [.child .configMap Build.gatherConfigMap]

/-- Perform steps for a parent and list the changes of its children. -/
def performSteps {kind : ParentKind} (owner : OwnerReference) :
    List (Step kind) → Object (.parent kind) → Program (List Change)
  | [], _ => return []
  | .child _ build :: rest, parent => do
    let converged ← converge owner (← Program.ofExcept (build parent))
    let changes ← performSteps owner rest parent
    return converged.change :: changes
  | .report list labels :: rest, parent => do
    let reported ← reportPods list (labels parent) parent
    performSteps owner rest reported.parent

/-- Read the parent of a pass; there is none if it is gone. -/
def fetchParent (kind : ParentKind) (ns name : String) :
    Program (Option (Object (.parent kind))) := do
  match ← Program.attempt (.get (.parent kind) ns name) with
  | .ok parent => return some parent
  | .error error => if error.isNotFound then return none else Program.fail error

/-- One pass over a parent. -/
def pass (surroundings : Surroundings) (kind : ParentKind) (ns name : String) :
    Program (List Change) := do
  match ← fetchParent kind ns name with
  | none => return []
  | some parent =>
    let owner ← Program.ofExcept parent.controllerReference
    let steps ← steps surroundings ns kind parent
    performSteps owner steps parent

end Caretaker
