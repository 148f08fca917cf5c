import Caretaker.Allotment
import Caretaker.Error
import Caretaker.Image
import Caretaker.Object

/-!
# Parts of built children

Labels, annotations, probes, services and routes that the children of different parents share.
Children are built from their parent alone: nothing here reads a store, and no child is built with
owner references.
-/

namespace Caretaker

/-- A child with the given metadata and a body of its kind's shape. -/
def Child.of (kind : ChildKind) (metadata : Metadata) (body : Json) : Child kind :=
  ⟨metadata, Document.of kind.shape body⟩

namespace Build

/-- The tool that manages the children. -/
def managedBy : String := "healthcheck-operator"

/-- The TCP port of the HTTP services. -/
def servicePort : Int := 6967

/-- The labels of an application that belongs to a release; they also select its pods. -/
def labels (name release : String) : LabelMap := .ofList [
  ("app", name),
  ("app.kubernetes.io/instance", release),
  ("app.kubernetes.io/managed-by", managedBy),
  ("app.kubernetes.io/name", name),
  ("release", release)]

/-- The annotations that every pod template carries. -/
def productAnnotations : LabelMap := .ofList [
  ("productID", "068a62892a1e4db39641342e592daa25"),
  ("productMetric", "FREE"),
  ("productName", "IBM Cloud Platform Common Services")]

/-- The headers that a route adds to its answers. -/
def routeHeaders : List String := [
  "add_header Cache-Control \"no-cache, no-store, must-revalidate\";",
  "add_header Pragma no-cache;",
  "add_header Expires 0;",
  "add_header X-Frame-Options \"SAMEORIGIN\";",
  "add_header X-Content-Type-Options nosniff;",
  "add_header X-XSS-Protection \"1; mode=block\";"]

/-- The annotations that every route carries. -/
def routeAnnotations : LabelMap := .ofList [
  ("icp.management.ibm.com/configuration-snippet", "\n".intercalate routeHeaders),
  ("icp.management.ibm.com/rewrite-target", "/"),
  ("kubernetes.io/ingress.class", "ibm-icp-management")]

/-- The number of replicas to run: at least one. -/
def replicas (requested : Int32) : Int32 := if 0 < requested then requested else 1

/-- The service account to run under: the requested one, unless it is empty. -/
def serviceAccount (requested : Option String) (default : String) : String :=
  (requested.filter fun account => account ≠ "").getD default

/-- The command to run: the requested one, unless it is empty. -/
def command (requested : Option (List String)) (default : List String) : List String :=
  (requested.filter fun words => !words.isEmpty).getD default

/-- When to pull an image: as requested, unless that is empty. -/
def pullPolicy (requested : Option String) : String :=
  (requested.filter fun policy => policy ≠ "").getD "IfNotPresent"

/-- A text that must not be blank. -/
def nonBlank (value field : String) : Except Error String :=
  if isBlankText value then .error (.missingField field) else .ok value

/-- The namespace of a parent, where its children go. -/
def parentNs {kind : Kind} (parent : Object kind) : Except Error String :=
  match parent.metadata.ns with
  | some ns => .ok ns
  | none => .error (.missingField "metadata.namespace")

/-- The metadata of a child. -/
def metadata (name ns : String) (labels : LabelMap) : Metadata :=
  { name := some name, ns := some ns, labels := some labels }

/-- The metadata of a pod template. -/
def templateMetadata (labels : LabelMap) : Json :=
  Metadata.encode { labels := some labels, annotations := some productAnnotations }

/-- A selection by labels. -/
def matchLabels (labels : LabelMap) : Json := .object [("matchLabels", .ofLabels labels)]

/-- A check of a path of the HTTP service. -/
def httpProbe (path : String) (failureThreshold : Int) : Json := .object [
  ("failureThreshold", .int failureThreshold),
  ("httpGet", .object [
    ("path", .text path),
    ("port", .int servicePort),
    ("scheme", .text "HTTP")]),
  ("initialDelaySeconds", .int 10),
  ("periodSeconds", .int 10),
  ("successThreshold", .int 1),
  ("timeoutSeconds", .int 2)]

/-- A check of a named TCP port. -/
def tcpProbe (port : String) (initialDelay timeout : Int) : Json := .object [
  ("initialDelaySeconds", .int initialDelay),
  ("tcpSocket", .object [("port", .text port)]),
  ("timeoutSeconds", .int timeout)]

/-- An environment variable with a fixed value. -/
def envValue (name value : String) : Json := .object [("name", .text name), ("value", .text value)]

/-- An environment variable that holds the namespace of the pod. -/
def envNs (name : String) : Json := .object [
  ("name", .text name),
  ("valueFrom", .object [("fieldRef", .object [("fieldPath", .text "metadata.namespace")])])]

/-- Where a volume appears in a container. -/
def mount (volume path : String) : Json := .object [
  ("mountPath", .text path), ("name", .text volume)]

/-- A volume that a claim provides. -/
def claimVolume (name claim : String) : Json := .object [
  ("name", .text name),
  ("persistentVolumeClaim", .object [("claimName", .text claim)])]

/-- The workload of identical pods that a controller with a label selector runs. -/
def replicated (replicas : Int32) (labels : LabelMap) (template : Json) : List (String × Json) := [
  ("replicas", .int replicas.toInt),
  ("selector", matchLabels labels),
  ("template", template)]

/-- A service on the TCP port of HTTP services for the pods with the given labels. -/
def httpService (name ns : String) (labels : LabelMap) : Child .service :=
  .of .service (metadata name ns labels) (.object [
    ("spec", .object [
      ("ports", .array [.object [
        ("port", .int servicePort),
        ("targetPort", .int servicePort)]]),
      ("selector", .ofLabels labels),
      ("type", .text "ClusterIP")])])

/-- A route from a path to the HTTP service of the same name. -/
def httpIngress (name ns : String) (labels : LabelMap) (path : String) : Child .ingress :=
  .of .ingress { metadata name ns labels with annotations := some routeAnnotations } (.object [
    ("spec", .object [
      ("rules", .array [.object [
        ("http", .object [
          ("paths", .array [.object [
            ("backend", .object [
              ("service", .object [
                ("name", .text name),
                ("port", .object [("number", .int servicePort)])])]),
            ("path", .text path),
            ("pathType", .text "ImplementationSpecific")]])])]])])])

end Build

end Caretaker
