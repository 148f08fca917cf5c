import Caretaker.Proofs.Build.Coherence
import Caretaker.Text.Split

/-!
# Built jobs

A job has one container and mounts every volume of its pod once (`MountsVolumes`).  It runs the
words of the command line of its parent, with the archives alone (`RunsLine`), or where there is
none, the default command with a gather configuration (`RunsDefault`).

A job knows neither the name of a must-gather service nor that of its claim: it is placed next to
pods with fixed labels and takes a claim of a fixed name.  So it reaches the pods and the archives
of a service only where these have just those names (`gatherJob_reaches_iff`).
-/

namespace Caretaker

open Json

/-- Whether the volumes of a child and what its containers mount belong together one to one. -/
structure MountsVolumes {kind : ChildKind} (child : Child kind) : Prop where
  named : ∀ volume ∈ podVolumes child, ∃ name, volume.at? ["name"] = some (.text name)
  distinct : ((podVolumes child).map (·.at? ["name"])).Nodup
  declared : ∀ mount ∈ podMounts child,
    (podVolumes child).countP (fun volume => volume.at? ["name"] = mount.at? ["name"]) = 1
  used : ∀ volume ∈ podVolumes child,
    (podMounts child).countP (fun mount => mount.at? ["name"] = volume.at? ["name"]) = 1

/-- Where volumes and mounts have the same distinct names, they belong together. -/
theorem MountsVolumes.of_names {kind : ChildKind} {child : Child kind} {names : List String}
    (distinct : names.Nodup)
    (volumes : (podVolumes child).map (·.at? ["name"]) = names.map fun name => some (.text name))
    (mounts : (podMounts child).map (·.at? ["name"]) = names.map fun name => some (.text name)) :
    MountsVolumes child := by
  let places : List (Option Json) := names.map fun name => some (.text name)
  have placesDistinct : places.Nodup :=
    List.Pairwise.map _ (fun _ _ apart same => apart (by cases same; rfl)) distinct
  have mem_places {parts : List Json} (same : parts.map (·.at? ["name"]) = places) :
      ∀ part ∈ parts, part.at? ["name"] ∈ places := by
    intro part member
    rw [← same]
    exact List.mem_map_of_mem (f := (·.at? ["name"])) member
  have once {parts : List Json} (same : parts.map (·.at? ["name"]) = places) :
      ∀ place ∈ places, parts.countP (fun part => part.at? ["name"] = place) = 1 := by
    intro place member
    have counted : parts.countP (fun part => part.at? ["name"] = place) = places.count place := by
      rw [← same, List.count_eq_countP, List.countP_map]
      exact List.countP_congr fun part _ => by simp
    rw [counted, placesDistinct.count, if_pos member]
  refine ⟨fun volume member => ?_, volumes ▸ placesDistinct,
    fun mount member => once volumes _ (mem_places mounts mount member),
    fun volume member => once mounts _ (mem_places volumes volume member)⟩
  obtain ⟨name, -, same⟩ := List.mem_map.mp (mem_places volumes volume member)
  exact ⟨name, same.symm⟩

/-- Whether a child has one container, which runs a command. -/
def RunsCommand {kind : ChildKind} (child : Child kind) (words : List String) : Prop :=
  ∃ container, podContainers child = [container] ∧
    container.at? ["command"] = some (.ofTexts words)

/-- Whether a volume is the one that a claim provides. -/
def IsClaimed (volume : Json) (claim : String) : Prop :=
  volume.at? ["persistentVolumeClaim", "claimName"] = some (.text claim)

/-- Whether a job runs the words between the spaces of a line, with the archives alone. -/
structure RunsLine (job : Child .job) (line : String) : Prop where
  command : ∃ words, RunsCommand job words ∧ (∀ word ∈ words, ' ' ∉ word.toList) ∧
    " ".intercalate words = line
  volumes : ∃ archives, podVolumes job = [archives] ∧ IsClaimed archives Build.archiveClaim

/-- Whether a job runs the default command, with the archives and a configuration. -/
structure RunsDefault (job : Child .job) (configName : String) : Prop where
  command : RunsCommand job ["gather"]
  volumes : ∃ archives configuration, podVolumes job = [archives, configuration] ∧
    IsClaimed archives Build.archiveClaim ∧
    configuration.at? ["configMap", "name"] = some (.text configName) ∧
    ∃ mount ∈ podMounts job, mount.at? ["name"] = configuration.at? ["name"] ∧
      mount.at? ["subPath"] = some (.text "gather_config")

namespace Build

variable {parent : MustGatherJob} {images : OperandImages} {job : Child .job}

/-- The command line that counts is the given one, unless that is blank. -/
theorem gatherCommandLine?_eq_some {line : String} : gatherCommandLine? parent = some line ↔
    parent.spec.mustGatherCommand = some line ∧ isBlankText line = false := by
  rw [gatherCommandLine?, Option.filter_eq_some_iff, Bool.not_eq_true']

theorem gatherCommandLine?_eq_none : gatherCommandLine? parent = none ↔
    ∀ line, parent.spec.mustGatherCommand = some line → isBlankText line = true := by
  simp [gatherCommandLine?, Option.filter_eq_none_iff]

/-- A job can be built if its parent has a namespace. -/
theorem exists_gatherJob {ns : String} (given : parent.metadata.ns = some ns)
    (images : OperandImages) : ∃ job, gatherJob parent images = .ok job := by
  rw [gatherJob, parentNs_eq_ok.mpr given]
  exact ⟨_, rfl⟩

theorem hasPods_job : ChildKind.job.HasPods := ⟨rfl, rfl⟩

theorem runsCommand_gatherJob (built : gatherJob parent images = .ok job) :
    RunsCommand job (gatherCommand parent) := by
  obtain ⟨ns, -, same⟩ := bind_eq_ok.mp built
  cases same
  refine ⟨_, podContainers_of hasPods_job rfl, ?_⟩
  -- The words are not known here, so the completion of the container cannot be computed.
  have shape : Shape.container.at? ["command"] = some (.list .text) := rfl
  have given : (gatherContainer parent images).follow? ["command"] =
      some (.ofTexts (gatherCommand parent)) := rfl
  rw [Shape.at?_fit Shape.isOrdered_container shape given nofun, ofTexts, Shape.fit, List.map_map]
  rfl

theorem podVolumes_gatherJob (built : gatherJob parent images = .ok job) :
    podVolumes job = gatherVolumes parent := by
  obtain ⟨ns, -, same⟩ := bind_eq_ok.mp built
  cases same
  rw [podVolumes_of hasPods_job rfl, gatherVolumes]
  cases gatherCommandLine? parent <;> rfl

theorem podMounts_gatherJob (built : gatherJob parent images = .ok job) :
    podMounts job = gatherMounts parent := by
  obtain ⟨ns, -, same⟩ := bind_eq_ok.mp built
  cases same
  rw [podMounts_of hasPods_job rfl rfl, gatherMounts]
  cases gatherCommandLine? parent <;> rfl

/-- A job with a command line runs it. -/
theorem runsLine_gatherJob {line : String} (given : gatherCommandLine? parent = some line)
    (built : gatherJob parent images = .ok job) : RunsLine job line := by
  have command := runsCommand_gatherJob built
  have volumes := podVolumes_gatherJob built
  rw [gatherCommand, given] at command
  rw [gatherVolumes, given] at volumes
  exact ⟨⟨_, command, fun _ => not_mem_of_mem_splitText, intercalate_splitText ' ' line⟩,
    _, volumes, rfl⟩

/-- A job without a command line runs the default command. -/
theorem runsDefault_gatherJob (absent : gatherCommandLine? parent = none)
    (built : gatherJob parent images = .ok job) :
    RunsDefault job (parent.spec.mustGatherConfigName.getD "") := by
  have command := runsCommand_gatherJob built
  have volumes := podVolumes_gatherJob built
  have mounts := podMounts_gatherJob built
  rw [gatherCommand, absent] at command
  rw [gatherVolumes, absent] at volumes
  rw [gatherMounts, absent] at mounts
  refine ⟨command, _, _, volumes, rfl, rfl, ?_⟩
  rw [mounts]
  exact ⟨_, List.mem_cons_of_mem _ List.mem_cons_self, rfl, rfl⟩

/-- A job mounts every volume once. -/
theorem mountsVolumes_gatherJob (built : gatherJob parent images = .ok job) :
    MountsVolumes job := by
  have volumes := podVolumes_gatherJob built
  have mounts := podMounts_gatherJob built
  rw [gatherVolumes] at volumes
  rw [gatherMounts] at mounts
  -- Volumes and mounts are chosen apart from each other, but by the same command line.
  cases given : gatherCommandLine? parent with
  | some line =>
    rw [given] at volumes mounts
    refine .of_names (by decide : [archiveClaim].Nodup) ?_ ?_
    · rw [volumes]
      rfl
    · rw [mounts]
      rfl
  | none =>
    rw [given] at volumes mounts
    refine .of_names (by decide : [archiveClaim, gatherConfigVolume].Nodup) ?_ ?_
    · rw [volumes]
      rfl
    · rw [mounts]
      rfl

/-- A job is built for every parent in a namespace.  It runs the words of the command line, or the
default command where that is missing or blank, and mounts every volume once. -/
theorem gatherJob_runs {ns : String} (given : parent.metadata.ns = some ns)
    (images : OperandImages) :
    ∃ job, gatherJob parent images = .ok job ∧
      (∀ line, parent.spec.mustGatherCommand = some line → isBlankText line = false →
        RunsLine job line) ∧
      ((∀ line, parent.spec.mustGatherCommand = some line → isBlankText line = true) →
        RunsDefault job (parent.spec.mustGatherConfigName.getD "")) ∧
      MountsVolumes job := by
  obtain ⟨job, built⟩ := exists_gatherJob given images
  exact ⟨job, built,
    fun line asked wanted =>
      runsLine_gatherJob (gatherCommandLine?_eq_some.mpr ⟨asked, wanted⟩) built,
    fun blank => runsDefault_gatherJob (gatherCommandLine?_eq_none.mpr blank) built,
    mountsVolumes_gatherJob built⟩

/-- A parent of a job with a configuration, and a command line or none. -/
def sampleJob (line : Option String) : MustGatherJob :=
  ⟨{ name := some "collect", ns := some "kube-system" },
    ({ mustGatherCommand := line, mustGatherConfigName := some "config" } : MustGatherJobSpec)⟩

/-- A line with two spaces in a row is run, and one of a tab and an em space is not. -/
theorem gatherJob_runs_of_samples :
    (∃ job, gatherJob (sampleJob (some "gather  --all\tns")) {} = .ok job ∧
      RunsLine job "gather  --all\tns" ∧ MountsVolumes job) ∧
      ∃ job, gatherJob (sampleJob (some "\t\u2003")) {} = .ok job ∧
        RunsDefault job "config" ∧ MountsVolumes job := by
  have given (line : Option String) : (sampleJob line).metadata.ns = some "kube-system" := rfl
  obtain ⟨job, built, runs, -, mounts⟩ :=
    gatherJob_runs (given (some "gather  --all\tns")) {}
  obtain ⟨other, otherBuilt, -, runsDefault, otherMounts⟩ :=
    gatherJob_runs (given (some "\t\u2003")) {}
  refine ⟨⟨job, built, runs _ rfl (by decide), mounts⟩, other, otherBuilt, runsDefault ?_,
    otherMounts⟩
  rintro line ⟨⟩
  decide

end Build

section Archives

variable {kind : ChildKind}

/-- The list of rules that place the pods of a child on the nodes of other pods. -/
def affinityField : List String :=
  podSpecField ++ ["affinity", "podAffinity", "requiredDuringSchedulingIgnoredDuringExecution"]

/-- The rules that place the pods of a child on the nodes of other pods. -/
def requiredTerms (child : Child kind) : List Json := child.encode.itemsAt affinityField

/-- The rule of a job that is built with one. -/
theorem requiredTerms_of {metadata : Metadata} {raw term : Json}
    (given : raw.follow? affinityField = some (.array [term])) :
    requiredTerms (Child.of .job metadata raw) = [Shape.podAffinityTerm.fit term] :=
  itemsAt_childOf metadata (by decide) rfl given

/-- Whether the only rule that places a job asks for labels that the pods of a workload carry. -/
structure Joins (job : Child .job) (workload : Child kind) (term : Json)
    (wanted labels : LabelMap) : Prop where
  onlyTerm : requiredTerms job = [term]
  wants : term.at? ["labelSelector"] = some (.object [("matchLabels", .ofLabels wanted)])
  labelled : workload.encode.at? ["spec", "template", "metadata", "labels"] =
    some (.ofLabels labels)
  carried : ∀ name value, wanted.get? name = some value → labels.get? name = some value
  placed : job.metadata.ns = workload.metadata.ns

/-- Whether a job runs next to the pods of a workload. -/
def JoinsPods (job : Child .job) (workload : Child kind) : Prop :=
  ∃ term wanted labels, Joins job workload term wanted labels

/-- Whether the only claim among the volumes of a job is the given one. -/
def SharesClaim (job : Child .job) (claim : Child .persistentVolumeClaim) : Prop :=
  ∃ name, claim.metadata.name = some name ∧ job.metadata.ns = claim.metadata.ns ∧
    (podVolumes job).filterMap (·.at? ["persistentVolumeClaim", "claimName"]) = [.text name]

end Archives

namespace Build

variable {parent : MustGatherJob} {images : OperandImages} {job : Child .job}

/-- The namespace of a job is that of its parent. -/
theorem ns_gatherJob (built : gatherJob parent images = .ok job) :
    job.metadata.ns = parent.metadata.ns := by
  obtain ⟨ns, given, same⟩ := bind_eq_ok.mp built
  cases same
  exact (parentNs_eq_ok.mp given).symm

/-- A job is placed next to pods with fixed labels. -/
theorem requiredTerms_gatherJob (built : gatherJob parent images = .ok job) :
    ∃ term, requiredTerms job = [term] ∧ term.at? ["labelSelector"] =
      some (.object [("matchLabels", .ofLabels archivePodLabels)]) := by
  obtain ⟨ns, -, same⟩ := bind_eq_ok.mp built
  cases same
  exact ⟨_, requiredTerms_of rfl, rfl⟩

/-- The claim among the volumes of a job has a fixed name. -/
theorem claims_gatherJob (built : gatherJob parent images = .ok job) :
    (podVolumes job).filterMap (·.at? ["persistentVolumeClaim", "claimName"]) =
      [.text archiveClaim] := by
  rw [podVolumes_gatherJob built, gatherVolumes]
  cases gatherCommandLine? parent <;> rfl

/-- The labels of an application that belongs to a release, looked up by name. -/
theorem get?_labels (name release key : String) :
    (labels name release).get? key = Assoc.get? [
      ("app", name),
      ("app.kubernetes.io/instance", release),
      ("app.kubernetes.io/managed-by", managedBy),
      ("app.kubernetes.io/name", name),
      ("release", release)] key := by
  rw [labels, KeyMap.get?, KeyMap.ofList, Assoc.get?_ofList]
  show ["app", "app.kubernetes.io/instance", "app.kubernetes.io/managed-by",
    "app.kubernetes.io/name", "release"].Nodup
  decide

/-- The pods that a job is placed next to carry the name of the account both as the name of their
application and as that of its release. -/
theorem archivePodLabels_carried_iff {name release : String} :
    (∀ key value, archivePodLabels.get? key = some value →
      (labels name release).get? key = some value) ↔
      name = mustGatherAccount ∧ release = mustGatherAccount := by
  constructor
  · intro carried
    have sameName := carried "app.kubernetes.io/name" mustGatherAccount rfl
    have sameRelease := carried "app.kubernetes.io/instance" mustGatherAccount rfl
    rw [get?_labels] at sameName sameRelease
    exact ⟨Option.some.inj sameName, Option.some.inj sameRelease⟩
  · rintro ⟨rfl, rfl⟩ key value wanted
    have all : ∀ entry ∈ archivePodLabels.entries,
        (labels mustGatherAccount mustGatherAccount).get? entry.1 = some entry.2 := by
      decide
    exact all (key, value) (Assoc.mem_of_get? wanted)

end Build

section Reach

variable {surroundings : Surroundings} {defaultClass : String} {service : MustGatherService}
  {parent : MustGatherJob} {images : OperandImages} {job : Child .job}

theorem ofLabels_inj {left right : LabelMap} (same : Json.ofLabels left = .ofLabels right) :
    left = right :=
  Option.some.inj ((labels?_ofLabels left).symm.trans (same ▸ labels?_ofLabels right))

/-- A job joins the pods with given labels if they carry the fixed ones. -/
theorem joinsPods_gatherJob_iff {kind : ChildKind} {workload : Child kind} {labels : LabelMap}
    (labelled : workload.encode.at? ["spec", "template", "metadata", "labels"] =
      some (.ofLabels labels))
    (placed : job.metadata.ns = workload.metadata.ns)
    (built : Build.gatherJob parent images = .ok job) :
    JoinsPods job workload ↔ ∀ name value, Build.archivePodLabels.get? name = some value →
      labels.get? name = some value := by
  obtain ⟨term, onlyTerm, wants⟩ := Build.requiredTerms_gatherJob built
  constructor
  · rintro ⟨other, wanted, found, joins⟩
    cases (onlyTerm.symm.trans joins.onlyTerm)
    have sameWanted := wants.symm.trans joins.wants
    simp only [Option.some.injEq, object.injEq, List.cons.injEq, Prod.mk.injEq] at sameWanted
    cases ofLabels_inj (Option.some.inj (labelled.symm.trans joins.labelled))
    cases ofLabels_inj sameWanted.1.2
    exact joins.carried
  · intro carried
    exact ⟨term, _, labels, onlyTerm, wants, labelled, carried, placed⟩

/-- A job shares a claim of its namespace that has the fixed name. -/
theorem sharesClaim_gatherJob_iff {claim : Child .persistentVolumeClaim} {name : String}
    (named : claim.metadata.name = some name) (placed : job.metadata.ns = claim.metadata.ns)
    (built : Build.gatherJob parent images = .ok job) :
    SharesClaim job claim ↔ name = Build.archiveClaim := by
  have claims := Build.claims_gatherJob built
  constructor
  · rintro ⟨other, otherNamed, -, shared⟩
    cases named.symm.trans otherNamed
    cases shared.symm.trans claims
    rfl
  · rintro rfl
    exact ⟨_, named, placed, claims⟩

/-- A job joins the pods of a service of its namespace if the service and its deployment have the
name that jobs know. -/
theorem joinsPods_deployment_iff (children : GatherChildren surroundings defaultClass service)
    (sameNs : parent.metadata.ns = service.metadata.ns)
    (built : Build.gatherJob parent images = .ok job) :
    JoinsPods job children.deployment ↔
      service.spec.mustGather.name = "must-gather-service" ∧
        service.metadata.nameAny = "must-gather-service" := by
  obtain ⟨ns, given, placed⟩ := children.fit.placed
  have there := placed children.deployment.metadata (by simp)
  have here := (Build.ns_gatherJob built).trans (sameNs.trans given)
  rw [joinsPods_gatherJob_iff children.fit.deployment.labelled (here.trans there.symm) built]
  exact Build.archivePodLabels_carried_iff

/-- A job shares the claim of a service of its namespace if that has the name that jobs know. -/
theorem sharesClaim_claim_iff (children : GatherChildren surroundings defaultClass service)
    (sameNs : parent.metadata.ns = service.metadata.ns)
    (built : Build.gatherJob parent images = .ok job) :
    SharesClaim job children.claim ↔
      service.spec.persistentVolumeClaim.name = "must-gather-pvc" := by
  obtain ⟨ns, given, placed⟩ := children.fit.placed
  have there := placed children.claim.metadata (by simp)
  have here := (Build.ns_gatherJob built).trans (sameNs.trans given)
  exact sharesClaim_gatherJob_iff ((builds_mustGatherClaim given _).name _ children.built_claim)
    (here.trans there.symm) built

/-- A job reaches the pods and the claim of a must-gather service of its namespace just if they have
the names that jobs know. -/
theorem gatherJob_reaches_iff (children : GatherChildren surroundings defaultClass service)
    (sameNs : parent.metadata.ns = service.metadata.ns)
    (built : Build.gatherJob parent images = .ok job) :
    (JoinsPods job children.deployment ↔
      service.spec.mustGather.name = "must-gather-service" ∧
        service.metadata.nameAny = "must-gather-service") ∧
      (SharesClaim job children.claim ↔
        service.spec.persistentVolumeClaim.name = "must-gather-pvc") :=
  ⟨joinsPods_deployment_iff children sameNs built, sharesClaim_claim_iff children sameNs built⟩

/-- A must-gather service in the namespace of the sample jobs. -/
def archiveService (name claim : String) : MustGatherService :=
  ⟨{ name := some name, ns := some "kube-system" },
    ({ spec := {
        mustGather := { name := name }
        persistentVolumeClaim := { name := claim } } } :
      Observed MustGatherServiceSpec MustGatherServiceStatus)⟩

/-- Such a service has children if its names are not blank. -/
theorem nonempty_archiveService {name claim : String} (nameGiven : isBlankText name = false)
    (claimGiven : isBlankText claim = false) :
    Nonempty (GatherChildren sampleSurroundings "standard" (archiveService name claim)) :=
  GatherChildren.nonempty_iff.mpr ⟨⟨_, rfl⟩, List.forall_mem_cons.mpr ⟨nameGiven,
    List.forall_mem_cons.mpr ⟨claimGiven, List.forall_mem_nil _⟩⟩⟩

/-- A job reaches a service with the names that jobs know. -/
theorem gatherJob_reaches_known_names :
    ∃ (children : GatherChildren sampleSurroundings "standard"
        (archiveService "must-gather-service" "must-gather-pvc")) (job : Child .job),
      Build.gatherJob (Build.sampleJob none) {} = .ok job ∧ JoinsPods job children.deployment ∧
        SharesClaim job children.claim := by
  have given : (Build.sampleJob none).metadata.ns = some "kube-system" := rfl
  obtain ⟨children⟩ : Nonempty (GatherChildren sampleSurroundings "standard"
      (archiveService "must-gather-service" "must-gather-pvc")) :=
    nonempty_archiveService (by decide) (by decide)
  obtain ⟨job, built⟩ := Build.exists_gatherJob given {}
  obtain ⟨joins, shares⟩ := gatherJob_reaches_iff children rfl built
  exact ⟨children, job, built, joins.mpr ⟨rfl, rfl⟩, shares.mpr rfl⟩

/-- A job of the same namespace reaches neither the pods nor the claim of a service with other
names. -/
theorem gatherJob_misses_other_names :
    ∃ (children : GatherChildren sampleSurroundings "standard"
        (archiveService "gather" "archives")) (job : Child .job),
      Build.gatherJob (Build.sampleJob none) {} = .ok job ∧
        (Build.sampleJob none).metadata.ns = (archiveService "gather" "archives").metadata.ns ∧
        ¬ JoinsPods job children.deployment ∧ ¬ SharesClaim job children.claim := by
  have given : (Build.sampleJob none).metadata.ns = some "kube-system" := rfl
  obtain ⟨children⟩ : Nonempty (GatherChildren sampleSurroundings "standard"
      (archiveService "gather" "archives")) :=
    nonempty_archiveService (by decide) (by decide)
  obtain ⟨job, built⟩ := Build.exists_gatherJob given {}
  refine ⟨children, job, built, rfl, fun joins => ?_, fun shares => ?_⟩
  · exact absurd ((joinsPods_deployment_iff children rfl built).mp joins).1 (by decide)
  · exact absurd ((sharesClaim_claim_iff children rfl built).mp shares) (by decide)

end Reach

end Caretaker
