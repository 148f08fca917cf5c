import Caretaker.Store.Program

/-!
# Reporting pods

The status of a parent lists the names of the pods of its workloads.  `reportPods` writes such a
list only when it differs from the names that the store gives, in their order, and goes on with the
parent that the store gives back, so that later writes of the same pass carry its version.
-/

namespace Caretaker

/-- The lists of pods in the status of a parent. -/
inductive PodList : ParentKind → Type where
  /-- The pods of the cache. -/
  | memcachedNodes : PodList .healthService
  /-- The pods of the health check service. -/
  | healthCheckNodes : PodList .healthService
  /-- The pods of the must-gather service. -/
  | mustGatherServiceNodes : PodList .mustGatherService
  deriving DecidableEq, Repr

namespace PodList

/-- The names in a list; an absent status has empty lists. -/
def names {kind : ParentKind} : PodList kind → Object (.parent kind) → List String
  | memcachedNodes, parent => (HealthService.status parent).memcachedNodes
  | healthCheckNodes, parent => (HealthService.status parent).healthCheckNodes
  | mustGatherServiceNodes, parent => (MustGatherService.status parent).mustGatherServiceNodes

/-- The parent with other names in a list. -/
def withNames {kind : ParentKind} :
    PodList kind → Object (.parent kind) → List String → Object (.parent kind)
  | memcachedNodes, parent, names =>
    HealthService.withStatus parent { HealthService.status parent with memcachedNodes := names }
  | healthCheckNodes, parent, names =>
    HealthService.withStatus parent { HealthService.status parent with healthCheckNodes := names }
  | mustGatherServiceNodes, parent, names =>
    MustGatherService.withStatus parent
      { MustGatherService.status parent with mustGatherServiceNodes := names }

end PodList

/-- The names of pods, in their order. -/
def podNames (pods : List Pod) : List String := pods.map fun pod => pod.metadata.nameAny

/-- The parent after a report, and whether its status was written. -/
structure Reported (kind : ParentKind) where
  wrote : Bool
  parent : Object (.parent kind)

/-- Report the pods in the namespace of a parent that carry the given labels. -/
def reportPods {kind : ParentKind} (list : PodList kind) (labels : LabelMap)
    (parent : Object (.parent kind)) : Program (Reported kind) := do
  match parent.metadata.ns with
  | none => Program.fail (.missingField "metadata.namespace")
  | some ns =>
    let pods : List Pod ← Program.perform (.list .pod ns labels)
    let names := podNames pods
    if list.names parent = names then
      return ⟨false, parent⟩
    else
      let stored ← Program.perform (.updateStatus (.parent kind) (list.withNames parent names))
      return ⟨true, stored⟩

end Caretaker
