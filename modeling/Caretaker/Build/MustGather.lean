import Caretaker.Build.Health
import Caretaker.Json.Path

/-!
# The children of a must-gather service

A claim for the archives, a deployment that serves them, an HTTP service and a route.
-/

namespace Caretaker

namespace Build

/-- The path that routes to the must-gather service. -/
def mustGatherPath : String := "/must-gather/"

/-- The path on which the must-gather service is checked. -/
def mustGatherProbePath : String := "/v1alpha1/healthz"

/-- The directory of the archives. -/
def mustGatherDir : String := "/must-gather"

/-- The volume of the archives. -/
def mustGatherVolume : String := "must-gather"

/-- The account that the must-gather service runs under. -/
def mustGatherAccount : String := "must-gather-service"

/-- The storage that a claim asks for when its parent does not say. -/
def defaultStorage : Quantity := "2Gi"

/-- The command that serves archives. -/
def mustGatherCommand : List String := ["/bin/must-gather-service", "-v", "1"]

/-- The provisioner of classes that provide no storage. -/
def noProvisioner : String := "kubernetes.io/no-provisioner"

/-- The annotation of the default class of a cluster. -/
def defaultClassAnnotation : String := "storageclass.kubernetes.io/is-default-class"

/-- The provisioner of a storage class. -/
def provisioner (storageClass : StorageClass) : String :=
  ((Document.json storageClass.body).get? "provisioner").bind Json.text? |>.getD ""

/-- Whether a storage class is annotated as the default of its cluster. -/
def isDefaultClass (storageClass : StorageClass) : Bool :=
  (storageClass.metadata.annotations.getD ∅).get? defaultClassAnnotation = some "true"

/-- The class for a claim that names none: of the classes with a provisioner, the first that is
annotated as the default, else the first; the empty text if there is none. -/
def defaultStorageClass (classes : List StorageClass) : String :=
  let usable := classes.filter fun storageClass => provisioner storageClass ≠ noProvisioner
  match usable.find? isDefaultClass <|> usable.head? with
  | some storageClass => storageClass.metadata.nameAny
  | none => ""

/-- The labels of a must-gather service and of its pods. -/
def mustGatherLabels (parent : MustGatherService) : LabelMap :=
  labels parent.spec.mustGather.name parent.metadata.nameAny

/-- The name of the must-gather service, which must not be blank. -/
def mustGatherName (parent : MustGatherService) : Except Error String :=
  nonBlank parent.spec.mustGather.name "spec.mustGather.name"

/-- The name of the claim, which must not be blank. -/
def claimName (parent : MustGatherService) : Except Error String :=
  nonBlank parent.spec.persistentVolumeClaim.name "spec.persistentVolumeClaim.name"

/-- The storage that a parent asks for. -/
def requestedStorage (parent : MustGatherService) : Quantity :=
  match parent.spec.persistentVolumeClaim.resources with
  | none => defaultStorage
  | some resources =>
    ((resources.json.at? ["requests", "storage"]).bind Json.text?).getD defaultStorage

/-- The claim of the archives; `defaultClass` is the class of a claim that names none. -/
def mustGatherClaim (parent : MustGatherService) (defaultClass : String) :
    Except Error (Child .persistentVolumeClaim) := do
  let name ← claimName parent
  let ns ← parentNs parent
  let storageClass :=
    (parent.spec.persistentVolumeClaim.storageClassName.filter (· ≠ "")).getD defaultClass
  return .of .persistentVolumeClaim
    { metadata name ns (labels name parent.metadata.nameAny) with
      annotations := some productAnnotations }
    (.object [
      ("spec", .object [
        ("accessModes", .array [.text "ReadWriteOnce"]),
        ("resources", .object [
          ("requests", .object [("storage", .text (requestedStorage parent))])]),
        ("storageClassName", .text storageClass)])])

/-- The container of the must-gather service. -/
def mustGatherContainer (parent : MustGatherService) (images : OperandImages) : Json :=
  let spec := parent.spec.mustGather
  .object [
    ("command", .ofTexts (command spec.command mustGatherCommand)),
    ("env", .array [envNs "POD_NAMESPACE", envValue "LOGLEVEL" "1"]),
    ("image", .text (spec.image.operandReference .mustGatherService images)),
    ("imagePullPolicy", .text (pullPolicy spec.image.pullPolicy)),
    ("livenessProbe", httpProbe mustGatherProbePath 3),
    ("name", .text spec.name),
    ("readinessProbe", httpProbe mustGatherProbePath 1),
    ("resources", (Allotment.ofResources spec.resources).requirements.json),
    ("securityContext", .ofOption (spec.securityContext.map (·.json))),
    ("volumeMounts", .array [mount mustGatherVolume mustGatherDir])]

/-- The pods of the must-gather service. -/
def mustGatherTemplate (parent : MustGatherService) (images : OperandImages) : Json :=
  let spec := parent.spec.mustGather
  .object [
    ("metadata", templateMetadata (mustGatherLabels parent)),
    ("spec", .object [
      ("containers", .array [mustGatherContainer parent images]),
      ("hostIPC", .bool false),
      ("hostNetwork", .bool spec.hostNetwork),
      ("hostPID", .bool false),
      ("nodeSelector", .ofOption (spec.nodeSelector.map .ofLabels)),
      ("serviceAccountName", .text (serviceAccount spec.serviceAccountName mustGatherAccount)),
      ("terminationGracePeriodSeconds", .int gracePeriodSeconds),
      ("tolerations", .ofOption (spec.tolerations.map Document.encodeList)),
      ("volumes", .array [
        claimVolume mustGatherVolume parent.spec.persistentVolumeClaim.name])])]

/-- The deployment of the must-gather service. -/
def mustGatherDeployment (parent : MustGatherService) (images : OperandImages) :
    Except Error (Child .deployment) := do
  let name ← mustGatherName parent
  let _ ← claimName parent
  let ns ← parentNs parent
  return .of .deployment (metadata name ns (mustGatherLabels parent)) (.object [
    ("spec", .object (("minReadySeconds", .int 0) ::
      replicated (replicas parent.spec.mustGather.replicas) (mustGatherLabels parent)
        (mustGatherTemplate parent images)))])

/-- The HTTP service of the must-gather service. -/
def mustGatherService (parent : MustGatherService) : Except Error (Child .service) := do
  let name ← mustGatherName parent
  let ns ← parentNs parent
  return httpService name ns (mustGatherLabels parent)

/-- The route to the must-gather service. -/
def mustGatherIngress (parent : MustGatherService) : Except Error (Child .ingress) := do
  let name ← mustGatherName parent
  let ns ← parentNs parent
  return httpIngress name ns (mustGatherLabels parent) mustGatherPath

end Build

end Caretaker
