import Caretaker.Shape.Kind

/-!
# Kinds of objects

Parents are objects of the four kinds that users write; children are objects of the seven kinds that
are kept in the state a parent asks for.  Pods and storage classes are only read.
-/

namespace Caretaker

/-- The kinds that users write. -/
inductive ParentKind where
  | healthService
  | mustGatherService
  | mustGatherJob
  | mustGatherConfig
  deriving DecidableEq, Repr

/-- The kinds of owned objects. -/
inductive ChildKind where
  | deployment
  | statefulSet
  | service
  | ingress
  | configMap
  | persistentVolumeClaim
  | job
  deriving DecidableEq, Repr

/-- The kinds of objects. -/
inductive Kind where
  | parent (kind : ParentKind)
  | child (kind : ChildKind)
  | pod
  | storageClass
  deriving DecidableEq, Repr

namespace ParentKind

/-- All parent kinds. -/
def all : List ParentKind := [healthService, mustGatherService, mustGatherJob, mustGatherConfig]

/-- The name of a parent kind. -/
def name : ParentKind → String
  | healthService => "HealthService"
  | mustGatherService => "MustGatherService"
  | mustGatherJob => "MustGatherJob"
  | mustGatherConfig => "MustGatherConfig"

/-- The name of a collection of parents in a path. -/
def plural : ParentKind → String
  | healthService => "healthservices"
  | mustGatherService => "mustgatherservices"
  | mustGatherJob => "mustgatherjobs"
  | mustGatherConfig => "mustgatherconfigs"

/-- The group of the parent kinds. -/
def group : String := "operator.healthcheck.dev"

/-- The version of the parent kinds. -/
def version : String := "v1alpha1"

end ParentKind

namespace ChildKind

/-- All child kinds. -/
def all : List ChildKind :=
  [deployment, statefulSet, service, ingress, configMap, persistentVolumeClaim, job]

/-- The name of a child kind. -/
def name : ChildKind → String
  | deployment => "Deployment"
  | statefulSet => "StatefulSet"
  | service => "Service"
  | ingress => "Ingress"
  | configMap => "ConfigMap"
  | persistentVolumeClaim => "PersistentVolumeClaim"
  | job => "Job"

/-- The name of a collection of children in a path. -/
def plural : ChildKind → String
  | deployment => "deployments"
  | statefulSet => "statefulsets"
  | service => "services"
  | ingress => "ingresses"
  | configMap => "configmaps"
  | persistentVolumeClaim => "persistentvolumeclaims"
  | job => "jobs"

/-- The group of a child kind; the core group has no name. -/
def group : ChildKind → String
  | deployment | statefulSet => "apps"
  | service | configMap | persistentVolumeClaim => ""
  | ingress => "networking.k8s.io"
  | job => "batch"

/-- What a child holds besides its metadata. -/
def shape : ChildKind → Shape
  | deployment => Shape.deployment
  | statefulSet => Shape.statefulSet
  | service => Shape.service
  | ingress => Shape.ingress
  | configMap => Shape.configMap
  | persistentVolumeClaim => Shape.persistentVolumeClaim
  | job => Shape.job

end ChildKind

namespace Kind

/-- All kinds. -/
def all : List Kind :=
  ParentKind.all.map parent ++ ChildKind.all.map child ++ [pod, storageClass]

/-- The name of a kind. -/
def name : Kind → String
  | parent kind => kind.name
  | child kind => kind.name
  | pod => "Pod"
  | storageClass => "StorageClass"

/-- The kind with a given name. -/
def ofName? (name : String) : Option Kind := all.find? fun kind => kind.name = name

/-- The name of a collection of objects in a path. -/
def plural : Kind → String
  | parent kind => kind.plural
  | child kind => kind.plural
  | pod => "pods"
  | storageClass => "storageclasses"

/-- The group of a kind; the core group has no name. -/
def group : Kind → String
  | parent _ => ParentKind.group
  | child kind => kind.group
  | pod => ""
  | storageClass => "storage.k8s.io"

/-- The version of a kind within its group. -/
def version : Kind → String
  | parent _ => ParentKind.version
  | _ => "v1"

/-- Group and version of a kind. -/
def apiVersion (kind : Kind) : String :=
  if kind.group = "" then kind.version else kind.group ++ "/" ++ kind.version

end Kind

end Caretaker
