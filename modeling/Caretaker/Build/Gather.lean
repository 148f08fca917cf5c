import Caretaker.Build.MustGather
import Caretaker.Text.Split

/-!
# The children of must-gather jobs and configurations

A job collects once, next to the pods of the must-gather service, so that it can share the volume of
the archives.  A configuration is published as a config map; only the default command of a job reads
it.
-/

namespace Caretaker

namespace Build

/-- The application that jobs belong to. -/
def gatherApp : String := "must-gather-job"

/-- The account that a job runs under. -/
def gatherAccount : String := "must-gather-job"

/-- The claim that holds the archives. -/
def archiveClaim : String := "must-gather-pvc"

/-- The key and file name of a gather configuration. -/
def gatherConfigKey : String := "gather_config"

/-- The volume of a gather configuration. -/
def gatherConfigVolume : String := "must-gather-config"

/-- How often a failed job is tried again. -/
def backoffLimit : Int := 4

/-- The command line that a parent asks for, unless it is blank. -/
def gatherCommandLine? (parent : MustGatherJob) : Option String :=
  parent.spec.mustGatherCommand.filter fun line => !isBlankText line

/-- The words of the command: those of the command line between spaces, or the default command. -/
def gatherCommand (parent : MustGatherJob) : List String :=
  match gatherCommandLine? parent with
  | some line => splitText ' ' line
  | none => ["gather"]

/-- Where the volumes of a job appear in its container. -/
def gatherMounts (parent : MustGatherJob) : List Json :=
  mount archiveClaim mustGatherDir ::
    match gatherCommandLine? parent with
    | some _ => []
    | none => [.object [
        ("mountPath", .text ("/usr/bin/" ++ gatherConfigKey)),
        ("name", .text gatherConfigVolume),
        ("subPath", .text gatherConfigKey)]]

/-- The volumes of a job: the archives, and the configuration if the default command reads it. -/
def gatherVolumes (parent : MustGatherJob) : List Json :=
  claimVolume archiveClaim archiveClaim ::
    match gatherCommandLine? parent with
    | some _ => []
    | none => [.object [
        ("configMap", .object [("name", .text (parent.spec.mustGatherConfigName.getD ""))]),
        ("name", .text gatherConfigVolume)]]

/-- The labels of the pods that a job is placed next to. -/
def archivePodLabels : LabelMap := .ofList [
  ("app.kubernetes.io/instance", mustGatherAccount),
  ("app.kubernetes.io/managed-by", managedBy),
  ("app.kubernetes.io/name", mustGatherAccount)]

/-- The rule that places a job on the node of the must-gather service. -/
def gatherAffinity : Json := .object [
  ("podAffinity", .object [
    ("requiredDuringSchedulingIgnoredDuringExecution", .array [.object [
      ("labelSelector", matchLabels archivePodLabels),
      ("topologyKey", .text "kubernetes.io/hostname")]])])]

/-- The container of a job. -/
def gatherContainer (parent : MustGatherJob) (images : OperandImages) : Json :=
  let spec := parent.spec
  let name := parent.metadata.nameAny
  .object [
    ("command", .ofTexts (gatherCommand parent)),
    ("env", .array [envValue "FROM_OPERATOR" "1", envValue "INSTANCE_NAME" name]),
    ("image", .text (spec.image.operandReference .mustGather images)),
    ("imagePullPolicy", .text (pullPolicy spec.image.pullPolicy)),
    ("name", .text name),
    ("volumeMounts", .array (gatherMounts parent))]

/-- The labels of a job. -/
def gatherLabels (parent : MustGatherJob) : LabelMap := labels gatherApp parent.metadata.nameAny

/-- The job that collects an archive. -/
def gatherJob (parent : MustGatherJob) (images : OperandImages) : Except Error (Child .job) := do
  let name := parent.metadata.nameAny
  let ns ← parentNs parent
  let labels := gatherLabels parent
  return .of .job (metadata name ns labels) (.object [
    ("spec", .object [
      ("backoffLimit", .int backoffLimit),
      ("template", .object [
        ("metadata", Metadata.encode {
          name := some name
          labels := some labels
          annotations := some productAnnotations }),
        ("spec", .object [
          ("affinity", gatherAffinity),
          ("containers", .array [gatherContainer parent images]),
          ("restartPolicy", .text "Never"),
          ("serviceAccountName",
            .text (serviceAccount parent.spec.serviceAccountName gatherAccount)),
          ("volumes", .array (gatherVolumes parent))])])])])

/-- The config map that publishes a gather configuration. -/
def gatherConfigMap (parent : MustGatherConfig) : Except Error (Child .configMap) := do
  let name := parent.metadata.nameAny
  let ns ← parentNs parent
  return .of .configMap (metadata name ns (.ofList [("app", name)])) (.object [
    ("data", .object [(gatherConfigKey, .text parent.spec.gatherConfig)])])

end Build

end Caretaker
