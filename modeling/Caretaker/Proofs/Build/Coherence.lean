import Caretaker.Proofs.Merge.Extent
import Caretaker.Proofs.Pass.Independence
import Caretaker.Proofs.Shape.Fit

/-!
# Built children fit together

The children of a parent are built one by one, each from the parent alone.  Still they name each
other: a selection finds the pods of its workload, a port leads to the port that the container of
the workload opens and that its probes check, a route leads to its service, and a volume is the one
that a claim or a configuration provides.  `HealthChildren` and `GatherChildren` hold the children
that the builders give for one parent, and `children_fit` says that they fit together.
-/

namespace Caretaker

open Json

/-- The list of volumes in a workload. -/
def volumesField : List String := podSpecField ++ ["volumes"]

section Views

variable {kind : ChildKind}

/-- The containers of a workload. -/
def podContainers (workload : Child kind) : List Json := workload.encode.itemsAt containersField

/-- The volumes of the pods of a workload. -/
def podVolumes (workload : Child kind) : List Json := workload.encode.itemsAt volumesField

/-- Where volumes appear in the containers of a workload. -/
def podMounts (workload : Child kind) : List Json :=
  (podContainers workload).flatMap (·.itemsAt ["volumeMounts"])

/-- The ports of a service. -/
def portsOf (service : Child .service) : List Json := service.encode.itemsAt ["spec", "ports"]

/-- Where a route leads to. -/
def backendsOf (ingress : Child .ingress) : List Json :=
  (ingress.encode.itemsAt ["spec", "rules"]).flatMap fun rule =>
    (rule.itemsAt ["http", "paths"]).filterMap (·.at? ["backend"])

/-- Whether a workload selects the pods that it makes by the given labels, makes as many as
requested but at least one, and declares every volume that it mounts once. -/
structure RunsPods (workload : Child kind) (labels : LabelMap) (requested : Int32) : Prop where
  selects : workload.encode.at? ["spec", "selector", "matchLabels"] = some (.ofLabels labels)
  labelled : workload.encode.at? ["spec", "template", "metadata", "labels"] =
    some (.ofLabels labels)
  replicas : workload.encode.at? ["spec", "replicas"] =
    some (.int (if 0 < requested then requested else 1).toInt)
  mounts : ∀ mount ∈ podMounts workload,
    (podVolumes workload).countP (fun volume => volume.at? ["name"] = mount.at? ["name"]) = 1

/-- Whether a service leads to the cache that a workload runs: its port leads to the name of a port
of the container that has the same number, and both probes check that port. -/
structure LeadsToCache (service : Child .service) (workload : Child kind)
    (port container : Json) (name : String) (number : Int) : Prop where
  onlyPort : portsOf service = [port]
  onlyContainer : podContainers workload = [container]
  leadsTo : port.at? ["targetPort"] = some (.text name)
  serves : port.at? ["port"] = some (.int number)
  liveness : container.at? ["livenessProbe", "tcpSocket", "port"] = some (.text name)
  readiness : container.at? ["readinessProbe", "tcpSocket", "port"] = some (.text name)
  opens : ∃ opened ∈ container.itemsAt ["ports"], opened.at? ["name"] = some (.text name) ∧
    opened.at? ["containerPort"] = some (.int number)

/-- Whether a route leads to a service, and the service to the port that both probes of the
container of a workload check. -/
structure LeadsToServer (ingress : Child .ingress) (service : Child .service)
    (workload : Child kind) (backend port container : Json) (name : String)
    (number target : Int) : Prop where
  onlyBackend : backendsOf ingress = [backend]
  onlyPort : portsOf service = [port]
  onlyContainer : podContainers workload = [container]
  named : service.metadata.name = some name
  leadsTo : backend.at? ["service", "name"] = some (.text name)
  leadsToPort : backend.at? ["service", "port", "number"] = some (.int number)
  serves : port.at? ["port"] = some (.int number)
  leadsOn : port.at? ["targetPort"] = some (.int target)
  liveness : container.at? ["livenessProbe", "httpGet", "port"] = some (.int target)
  readiness : container.at? ["readinessProbe", "httpGet", "port"] = some (.int target)

end Views

/-- The children that are built for a health service, its cache in both forms. -/
structure HealthChildren (surroundings : Surroundings) (parent : HealthService) where
  cacheDeployment : Child .deployment
  cacheStatefulSet : Child .statefulSet
  cacheService : Child .service
  configMap : Child .configMap
  deployment : Child .deployment
  service : Child .service
  ingress : Child .ingress
  built_cacheDeployment : Build.memcachedDeployment parent surroundings.images = .ok cacheDeployment
  built_cacheStatefulSet :
    Build.memcachedStatefulSet parent surroundings.images = .ok cacheStatefulSet
  built_cacheService : Build.memcachedService parent = .ok cacheService
  built_configMap : Build.healthConfigMap parent surroundings.template = .ok configMap
  built_deployment : Build.healthDeployment parent surroundings.images = .ok deployment
  built_service : Build.healthService parent = .ok service
  built_ingress : Build.healthIngress parent = .ok ingress

/-- The children that are built for a must-gather service. -/
structure GatherChildren (surroundings : Surroundings) (defaultClass : String)
    (parent : MustGatherService) where
  claim : Child .persistentVolumeClaim
  deployment : Child .deployment
  service : Child .service
  ingress : Child .ingress
  built_claim : Build.mustGatherClaim parent defaultClass = .ok claim
  built_deployment : Build.mustGatherDeployment parent surroundings.images = .ok deployment
  built_service : Build.mustGatherService parent = .ok service
  built_ingress : Build.mustGatherIngress parent = .ok ingress

/-- Whether the children of a health service fit together. -/
structure HealthChildren.Fit {surroundings : Surroundings} {parent : HealthService}
    (children : HealthChildren surroundings parent) : Prop where
  placed : ∃ ns, parent.metadata.ns = some ns ∧ ∀ metadata ∈ [children.cacheDeployment.metadata,
    children.cacheStatefulSet.metadata, children.cacheService.metadata, children.configMap.metadata,
    children.deployment.metadata, children.service.metadata, children.ingress.metadata],
    metadata.ns = some ns
  cacheDeployment : RunsPods children.cacheDeployment (Build.memcachedLabels parent)
    parent.spec.memcached.replicaCount
  cacheStatefulSet : RunsPods children.cacheStatefulSet (Build.memcachedLabels parent)
    parent.spec.memcached.replicaCount
  cacheSelected : children.cacheService.encode.at? ["spec", "selector"] =
    some (.ofLabels (Build.memcachedLabels parent))
  cacheReported : ∀ workload labels,
    .report .memcachedNodes labels ∈ healthServiceSteps surroundings workload ↔
      labels = Build.memcachedLabels
  cacheTemplates : children.cacheDeployment.encode.at? ["spec", "template"] =
    children.cacheStatefulSet.encode.at? ["spec", "template"]
  cacheGoverned : ∃ name, children.cacheService.metadata.name = some name ∧
    children.cacheStatefulSet.encode.at? ["spec", "serviceName"] = some (.text name)
  cacheDeploymentPort : ∃ port container name number,
    LeadsToCache children.cacheService children.cacheDeployment port container name number
  cacheStatefulSetPort : ∃ port container name number,
    LeadsToCache children.cacheService children.cacheStatefulSet port container name number
  deployment : RunsPods children.deployment (Build.healthLabels parent)
    parent.spec.healthService.replicaCount
  selected : children.service.encode.at? ["spec", "selector"] =
    some (.ofLabels (Build.healthLabels parent))
  reported : ∀ workload labels,
    .report .healthCheckNodes labels ∈ healthServiceSteps surroundings workload ↔
      labels = Build.healthLabels
  port : ∃ backend port container name number target, LeadsToServer children.ingress
    children.service children.deployment backend port container name number target
  configuration : ∃ name, children.configMap.metadata.name = some name ∧
    (podVolumes children.deployment).filterMap (·.at? ["configMap", "name"]) = [.text name]

/-- Whether the children of a must-gather service fit together. -/
structure GatherChildren.Fit {surroundings : Surroundings} {defaultClass : String}
    {parent : MustGatherService} (children : GatherChildren surroundings defaultClass parent) :
    Prop where
  placed : ∃ ns, parent.metadata.ns = some ns ∧ ∀ metadata ∈ [children.claim.metadata,
    children.deployment.metadata, children.service.metadata, children.ingress.metadata],
    metadata.ns = some ns
  deployment : RunsPods children.deployment (Build.mustGatherLabels parent)
    parent.spec.mustGather.replicas
  selected : children.service.encode.at? ["spec", "selector"] =
    some (.ofLabels (Build.mustGatherLabels parent))
  reported : ∀ labels,
    .report .mustGatherServiceNodes labels ∈ mustGatherServiceSteps surroundings defaultClass ↔
      labels = Build.mustGatherLabels
  port : ∃ backend port container name number target, LeadsToServer children.ingress
    children.service children.deployment backend port container name number target
  archives : ∃ name, children.claim.metadata.name = some name ∧
    (podVolumes children.deployment).filterMap
      (·.at? ["persistentVolumeClaim", "claimName"]) = [.text name]

namespace Build

variable {kind : Kind} {childKind : ChildKind} {parent : Object kind} {value field : String}
  {child : Child childKind}

theorem nonBlank_eq_ok {text : String} :
    nonBlank value field = .ok text ↔ isBlankText value = false ∧ value = text := by
  unfold nonBlank
  cases isBlankText value <;> simp

/-- A builder that requires a name and the namespace of its parent. -/
theorem named_eq_ok {next : String → String → Child childKind} :
    (nonBlank value field >>= fun name => parentNs parent >>= fun ns => pure (next name ns)) =
        Except.ok child ↔
      isBlankText value = false ∧ ∃ ns, parent.metadata.ns = some ns ∧ next value ns = child := by
  simp only [bind_eq_ok, nonBlank_eq_ok, parentNs_eq_ok, pure, Except.pure, Except.ok.injEq]
  constructor
  · rintro ⟨_, ⟨notBlank, rfl⟩, ns, given, rfl⟩
    exact ⟨notBlank, ns, given, rfl⟩
  · rintro ⟨notBlank, ns, given, rfl⟩
    exact ⟨value, ⟨notBlank, rfl⟩, ns, given, rfl⟩

/-- A builder that requires a second name as well. -/
theorem namedTwice_eq_ok {other otherField : String} {next : String → String → Child childKind} :
    (nonBlank value field >>= fun name => nonBlank other otherField >>= fun _ =>
        parentNs parent >>= fun ns => pure (next name ns)) = Except.ok child ↔
      isBlankText value = false ∧ isBlankText other = false ∧
        ∃ ns, parent.metadata.ns = some ns ∧ next value ns = child := by
  simp only [bind_eq_ok, nonBlank_eq_ok, parentNs_eq_ok, pure, Except.pure, Except.ok.injEq]
  constructor
  · rintro ⟨_, ⟨notBlank, rfl⟩, _, ⟨otherGiven, -⟩, ns, given, rfl⟩
    exact ⟨notBlank, otherGiven, ns, given, rfl⟩
  · rintro ⟨notBlank, otherGiven, ns, given, rfl⟩
    exact ⟨value, ⟨notBlank, rfl⟩, other, ⟨otherGiven, rfl⟩, ns, given, rfl⟩

/-- The configuration of a health service requires two names, a namespace and a template. -/
theorem healthConfigMap_eq_ok {parent : HealthService}
    {template : Except Error (Child .configMap)} {child : Child .configMap} :
    healthConfigMap parent template = .ok child ↔
      isBlankText parent.spec.healthService.name = false ∧
        isBlankText parent.spec.healthService.configmapName = false ∧
        ∃ ns, parent.metadata.ns = some ns ∧ ∃ base, template = .ok base ∧
          { base with
            metadata := { base.metadata with
              name := some parent.spec.healthService.configmapName
              ns := some ns
              labels := some (healthLabels parent) } } = child := by
  simp only [healthConfigMap, healthName, healthConfigName, bind_eq_ok, nonBlank_eq_ok,
    parentNs_eq_ok, pure, Except.pure, Except.ok.injEq]
  constructor
  · rintro ⟨_, ⟨nameGiven, -⟩, _, ⟨configGiven, rfl⟩, ns, given, base, there, rfl⟩
    exact ⟨nameGiven, configGiven, ns, given, base, there, rfl⟩
  · rintro ⟨nameGiven, configGiven, ns, given, base, there, rfl⟩
    exact ⟨_, ⟨nameGiven, rfl⟩, _, ⟨configGiven, rfl⟩, ns, given, base, there, rfl⟩

end Build

section Workloads

variable {kind : ChildKind} {metadata : Metadata} {raw container : Json} {labels : LabelMap}

/-- Whether a kind of child runs pods for good. -/
def ChildKind.IsWorkload (kind : ChildKind) : Prop := kind = .deployment ∨ kind = .statefulSet

theorem ChildKind.IsWorkload.at? (isWorkload : kind.IsWorkload) :
    kind.shape.at? ["spec", "selector", "matchLabels"] = some Shape.texts ∧
      kind.shape.at? ["spec", "template", "metadata", "labels"] = some Shape.texts ∧
      kind.shape.at? ["spec", "replicas"] = some .int32 := by
  rcases isWorkload with rfl | rfl
  · exact ⟨rfl, rfl, rfl⟩
  · exact ⟨rfl, rfl, rfl⟩

/-- Whether a kind of child has pods with containers and volumes. -/
structure ChildKind.HasPods (kind : ChildKind) : Prop where
  containers : kind.shape.at? containersField = some (.list .container)
  volumes : kind.shape.at? volumesField = some (.list .volume)

theorem ChildKind.IsWorkload.hasPods (isWorkload : kind.IsWorkload) : kind.HasPods := by
  rcases isWorkload with rfl | rfl
  · exact ⟨rfl, rfl⟩
  · exact ⟨rfl, rfl⟩

/-- The container of a child that is built with one. -/
theorem podContainers_of (hasPods : kind.HasPods)
    (given : raw.follow? containersField = some (.array [container])) :
    podContainers (Child.of kind metadata raw) = [Shape.container.fit container] :=
  itemsAt_childOf metadata (by decide) hasPods.containers given

/-- The volumes of a child that is built with some. -/
theorem podVolumes_of (hasPods : kind.HasPods) {volumes : List Json}
    (given : raw.follow? volumesField = some (.array volumes)) :
    podVolumes (Child.of kind metadata raw) = volumes.map Shape.volume.fit :=
  itemsAt_childOf metadata (by decide) hasPods.volumes given

/-- What is mounted in a child that is built with one container. -/
theorem podMounts_of (hasPods : kind.HasPods) {mounts : List Json}
    (given : raw.follow? containersField = some (.array [container]))
    (mounted : container.follow? ["volumeMounts"] = some (.array mounts)) :
    podMounts (Child.of kind metadata raw) = mounts.map Shape.volumeMount.fit := by
  have inContainer : (Shape.container.fit container).itemsAt ["volumeMounts"] =
      mounts.map Shape.volumeMount.fit :=
    Shape.itemsAt_fit Shape.isOrdered_container rfl mounted
  rw [podMounts, podContainers_of hasPods given, List.flatMap_singleton, inContainer]

/-- A workload whose container mounts nothing declares what it mounts. -/
theorem mounts_of_absent (isWorkload : kind.IsWorkload) {members : Json.Members}
    (given : raw.follow? containersField = some (.array [.object members]))
    (absent : Assoc.get? members "volumeMounts" = none) :
    podMounts (Child.of kind metadata raw) = [] := by
  have nothing : (Shape.container.fit (.object members)).at? ["volumeMounts"] = none :=
    Shape.at?_fit_of_absent Shape.isOrdered_container rfl absent []
  rw [podMounts, podContainers_of isWorkload.hasPods given]
  simp only [List.flatMap_cons, List.flatMap_nil, itemsAt, nothing, Option.bind_none,
    Option.getD_none, List.append_nil]

/-- A workload declares what it mounts if the parts that it is built from do. -/
theorem declares_of (isWorkload : kind.IsWorkload) {mounts volumes : List Json}
    (containers : raw.follow? containersField = some (.array [container]))
    (mounted : container.follow? ["volumeMounts"] = some (.array mounts))
    (declared : raw.follow? volumesField = some (.array volumes))
    (once : ∀ mount ∈ mounts.map Shape.volumeMount.fit, (volumes.map Shape.volume.fit).countP
      (fun volume => volume.at? ["name"] = mount.at? ["name"]) = 1) :
    ∀ mount ∈ podMounts (Child.of kind metadata raw),
      (podVolumes (Child.of kind metadata raw)).countP
        (fun volume => volume.at? ["name"] = mount.at? ["name"]) = 1 := by
  rw [podVolumes_of isWorkload.hasPods declared, podMounts_of isWorkload.hasPods containers mounted]
  exact once

theorem follow?_templateMetadata (labels : LabelMap) :
    (Build.templateMetadata labels).follow? ["labels"] = some (.ofLabels labels) := by
  let template : Metadata := { labels := some labels, annotations := some Build.productAnnotations }
  have there : reach ["labels"] (some template.encode) = some (.ofLabels labels) :=
    template.reach_labels
  obtain ⟨members, same, -⟩ := template.isRecord_encode
  rw [same] at there
  rw [show Build.templateMetadata labels = .object members from same]
  exact there

/-- A workload that is built for labels and a number of pods runs them. -/
theorem runsPods_of (isWorkload : kind.IsWorkload) {requested : Int32}
    (selects : raw.follow? ["spec", "selector", "matchLabels"] = some (.ofLabels labels))
    (template : raw.follow? ["spec", "template", "metadata"] = some (Build.templateMetadata labels))
    (replicas : raw.follow? ["spec", "replicas"] = some (.int (Build.replicas requested).toInt))
    (mounts : ∀ mount ∈ podMounts (Child.of kind metadata raw),
      (podVolumes (Child.of kind metadata raw)).countP
        (fun volume => volume.at? ["name"] = mount.at? ["name"]) = 1) :
    RunsPods (Child.of kind metadata raw) labels requested := by
  obtain ⟨selectorShape, labelsShape, replicasShape⟩ := isWorkload.at?
  have labelled : raw.follow? ["spec", "template", "metadata", "labels"] =
      some (.ofLabels labels) := by
    rw [show ["spec", "template", "metadata", "labels"] =
      ["spec", "template", "metadata"] ++ ["labels"] from rfl, follow?_append, template]
    exact follow?_templateMetadata labels
  refine ⟨?_, ?_, ?_, mounts⟩
  · rw [at?_childOf metadata (by decide) selectorShape selects nofun, Shape.fit_ofLabels]
  · rw [at?_childOf metadata (by decide) labelsShape labelled nofun, Shape.fit_ofLabels]
  · rw [at?_childOf metadata (by decide) replicasShape replicas nofun, Shape.fit_int32]
    rfl

/-- A service that is built for labels selects the pods that carry them. -/
theorem selected_of (given : raw.follow? ["spec", "selector"] = some (.ofLabels labels)) :
    (Child.of .service metadata raw).encode.at? ["spec", "selector"] = some (.ofLabels labels) := by
  have shape : ChildKind.service.shape.at? ["spec", "selector"] = some Shape.texts := rfl
  rw [at?_childOf metadata (by decide) shape given nofun, Shape.fit_ofLabels]

/-- The service and the route of a name lead to a container that is checked on their port. -/
theorem leadsToServer (isWorkload : kind.IsWorkload) (name ns path : String)
    (given : raw.follow? containersField = some (.array [container]))
    (liveness : container.follow? ["livenessProbe", "httpGet", "port"] =
      some (.int Build.servicePort))
    (readiness : container.follow? ["readinessProbe", "httpGet", "port"] =
      some (.int Build.servicePort)) :
    ∃ backend port serving leading number target,
      LeadsToServer (Build.httpIngress name ns labels path) (Build.httpService name ns labels)
        (Child.of kind metadata raw) backend port serving leading number target := by
  let backend : Json := .object [("service", .object [
    ("name", .text name), ("port", .object [("number", .int Build.servicePort)])])]
  let port : Json := .object [
    ("port", .int Build.servicePort), ("targetPort", .int Build.servicePort)]
  refine ⟨backend, port, _, name, Build.servicePort, Build.servicePort, ?_, ?_,
    podContainers_of isWorkload.hasPods given, rfl, rfl, rfl, rfl, rfl, ?_, ?_⟩
  · have rules : (Build.httpIngress name ns labels path).encode.itemsAt ["spec", "rules"] =
        [.object [("http", .object [("paths", .array [.object [
          ("backend", backend),
          ("path", .text path),
          ("pathType", .text "ImplementationSpecific")]])])]] := by
      refine (itemsAt_childOf _ (by decide) rfl rfl).trans ?_
      rfl
    rw [backendsOf, rules]
    rfl
  · refine (itemsAt_childOf _ (by decide) rfl rfl).trans ?_
    rfl
  · have shape : Shape.container.at? ["livenessProbe", "httpGet", "port"] =
      some .textOrInt32 := rfl
    exact Shape.at?_fit Shape.isOrdered_container shape liveness nofun
  · have shape : Shape.container.at? ["readinessProbe", "httpGet", "port"] =
      some .textOrInt32 := rfl
    exact Shape.at?_fit Shape.isOrdered_container shape readiness nofun

end Workloads

section Cache

variable {kind : ChildKind} {metadata : Metadata} {raw : Json} {parent : HealthService}
  {images : OperandImages}

theorem follow?_memcachedTemplate
    (template : raw.follow? ["spec", "template"] = some (Build.memcachedTemplate parent images)) :
    raw.follow? containersField = some (.array [Build.memcachedContainer parent images]) := by
  rw [show containersField = ["spec", "template"] ++ ["spec", "containers"] from rfl,
    follow?_append, template]
  rfl

/-- A workload with the template of the cache runs its pods. -/
theorem runsPods_cache (isWorkload : kind.IsWorkload)
    (selects : raw.follow? ["spec", "selector", "matchLabels"] =
      some (.ofLabels (Build.memcachedLabels parent)))
    (template : raw.follow? ["spec", "template"] = some (Build.memcachedTemplate parent images))
    (replicas : raw.follow? ["spec", "replicas"] =
      some (.int (Build.replicas parent.spec.memcached.replicaCount).toInt)) :
    RunsPods (Child.of kind metadata raw) (Build.memcachedLabels parent)
      parent.spec.memcached.replicaCount := by
  have templateMetadata : raw.follow? ["spec", "template", "metadata"] =
      some (Build.templateMetadata (Build.memcachedLabels parent)) := by
    rw [show ["spec", "template", "metadata"] = ["spec", "template"] ++ ["metadata"] from rfl,
      follow?_append, template]
    rfl
  refine runsPods_of isWorkload selects templateMetadata replicas ?_
  rw [mounts_of_absent isWorkload (follow?_memcachedTemplate template) rfl]
  exact List.forall_mem_nil _

/-- The service of the cache leads to a workload with the template of the cache. -/
theorem leadsToCache {service : Child .service} (isWorkload : kind.IsWorkload)
    (built : Build.memcachedService parent = .ok service)
    (template : raw.follow? ["spec", "template"] = some (Build.memcachedTemplate parent images)) :
    ∃ port container name number,
      LeadsToCache service (Child.of kind metadata raw) port container name number := by
  let name := parent.spec.memcached.name
  let port : Json := .object [
    ("name", .text name), ("port", .int Build.memcachedPort), ("targetPort", .text name)]
  refine ⟨port, _, name, Build.memcachedPort, ?_,
    podContainers_of isWorkload.hasPods (follow?_memcachedTemplate template), rfl, rfl, rfl, rfl,
    ?_⟩
  · obtain ⟨-, ns, -, rfl⟩ := Build.named_eq_ok.mp built
    refine (itemsAt_childOf _ (by decide) rfl rfl).trans ?_
    rfl
  · have ports : (Shape.container.fit (Build.memcachedContainer parent images)).itemsAt ["ports"] =
        [.object [("containerPort", .int Build.memcachedPort), ("name", .text name)]] := rfl
    rw [ports]
    exact ⟨_, List.mem_singleton_self _, rfl, rfl⟩

variable {deployment : Child .deployment} {statefulSet : Child .statefulSet}
  {service : Child .service}

theorem runsPods_memcachedDeployment
    (built : Build.memcachedDeployment parent images = .ok deployment) :
    RunsPods deployment (Build.memcachedLabels parent) parent.spec.memcached.replicaCount := by
  obtain ⟨-, ns, -, rfl⟩ := Build.named_eq_ok.mp built
  exact runsPods_cache (.inl rfl) rfl rfl rfl

theorem runsPods_memcachedStatefulSet
    (built : Build.memcachedStatefulSet parent images = .ok statefulSet) :
    RunsPods statefulSet (Build.memcachedLabels parent) parent.spec.memcached.replicaCount := by
  obtain ⟨-, ns, -, rfl⟩ := Build.named_eq_ok.mp built
  exact runsPods_cache (.inr rfl) rfl rfl rfl

theorem selected_memcachedService (built : Build.memcachedService parent = .ok service) :
    service.encode.at? ["spec", "selector"] = some (.ofLabels (Build.memcachedLabels parent)) := by
  obtain ⟨-, ns, -, rfl⟩ := Build.named_eq_ok.mp built
  exact selected_of rfl

/-- Both forms of the cache have the same pods. -/
theorem templates_memcached
    (builtDeployment : Build.memcachedDeployment parent images = .ok deployment)
    (builtStatefulSet : Build.memcachedStatefulSet parent images = .ok statefulSet) :
    deployment.encode.at? ["spec", "template"] = statefulSet.encode.at? ["spec", "template"] := by
  obtain ⟨-, ns, -, rfl⟩ := Build.named_eq_ok.mp builtDeployment
  obtain ⟨-, ns, -, rfl⟩ := Build.named_eq_ok.mp builtStatefulSet
  have deploymentShape : ChildKind.deployment.shape.at? ["spec", "template"] =
    some Shape.podTemplate := rfl
  have statefulSetShape : ChildKind.statefulSet.shape.at? ["spec", "template"] =
    some Shape.podTemplate := rfl
  rw [at?_childOf _ (by decide) deploymentShape rfl (by nofun),
    at?_childOf _ (by decide) statefulSetShape rfl (by nofun)]

theorem governed_memcachedStatefulSet
    (built : Build.memcachedStatefulSet parent images = .ok statefulSet) :
    statefulSet.encode.at? ["spec", "serviceName"] = some (.text Build.memcachedServiceName) := by
  obtain ⟨-, ns, -, rfl⟩ := Build.named_eq_ok.mp built
  have shape : ChildKind.statefulSet.shape.at? ["spec", "serviceName"] = some .text := rfl
  rw [at?_childOf _ (by decide) shape rfl (by nofun)]
  rfl

end Cache

section Server

variable {deployment : Child .deployment} {service : Child .service} {ingress : Child .ingress}
  {images : OperandImages}

theorem runsPods_healthDeployment {parent : HealthService}
    (built : Build.healthDeployment parent images = .ok deployment) :
    RunsPods deployment (Build.healthLabels parent) parent.spec.healthService.replicaCount := by
  obtain ⟨-, -, ns, -, rfl⟩ := Build.namedTwice_eq_ok.mp built
  refine runsPods_of (.inl rfl) rfl rfl rfl ?_
  refine declares_of (.inl rfl) rfl rfl rfl ?_
  simp only [List.map_cons, List.map_nil, List.forall_mem_cons]
  exact ⟨rfl, rfl, List.forall_mem_nil _⟩

theorem selected_healthService {parent : HealthService}
    (built : Build.healthService parent = .ok service) :
    service.encode.at? ["spec", "selector"] = some (.ofLabels (Build.healthLabels parent)) := by
  obtain ⟨-, ns, -, rfl⟩ := Build.named_eq_ok.mp built
  exact selected_of rfl

theorem leadsToServer_health {parent : HealthService}
    (builtDeployment : Build.healthDeployment parent images = .ok deployment)
    (builtService : Build.healthService parent = .ok service)
    (builtIngress : Build.healthIngress parent = .ok ingress) :
    ∃ backend port container name number target,
      LeadsToServer ingress service deployment backend port container name number target := by
  obtain ⟨-, -, _, -, rfl⟩ := Build.namedTwice_eq_ok.mp builtDeployment
  obtain ⟨-, ns, given, rfl⟩ := Build.named_eq_ok.mp builtService
  obtain ⟨-, _, same, rfl⟩ := Build.named_eq_ok.mp builtIngress
  cases given.symm.trans same
  refine leadsToServer (.inl rfl) _ ns _ rfl ?liveness ?readiness
  case liveness => rfl
  case readiness => rfl

/-- The only configuration among the volumes of a health check service is its own. -/
theorem configuration_healthDeployment {parent : HealthService}
    (built : Build.healthDeployment parent images = .ok deployment) :
    (podVolumes deployment).filterMap (·.at? ["configMap", "name"]) =
      [.text parent.spec.healthService.configmapName] := by
  obtain ⟨-, -, ns, -, rfl⟩ := Build.namedTwice_eq_ok.mp built
  rw [podVolumes_of (ChildKind.IsWorkload.hasPods (.inl rfl)) rfl]
  rfl

theorem runsPods_mustGatherDeployment {parent : MustGatherService}
    (built : Build.mustGatherDeployment parent images = .ok deployment) :
    RunsPods deployment (Build.mustGatherLabels parent) parent.spec.mustGather.replicas := by
  obtain ⟨-, -, ns, -, rfl⟩ := Build.namedTwice_eq_ok.mp built
  refine runsPods_of (.inl rfl) rfl rfl rfl ?_
  refine declares_of (.inl rfl) rfl rfl rfl ?_
  simp only [List.map_cons, List.map_nil, List.forall_mem_cons]
  exact ⟨rfl, List.forall_mem_nil _⟩

theorem selected_mustGatherService {parent : MustGatherService}
    (built : Build.mustGatherService parent = .ok service) :
    service.encode.at? ["spec", "selector"] = some (.ofLabels (Build.mustGatherLabels parent)) := by
  obtain ⟨-, ns, -, rfl⟩ := Build.named_eq_ok.mp built
  exact selected_of rfl

theorem leadsToServer_mustGather {parent : MustGatherService}
    (builtDeployment : Build.mustGatherDeployment parent images = .ok deployment)
    (builtService : Build.mustGatherService parent = .ok service)
    (builtIngress : Build.mustGatherIngress parent = .ok ingress) :
    ∃ backend port container name number target,
      LeadsToServer ingress service deployment backend port container name number target := by
  obtain ⟨-, -, _, -, rfl⟩ := Build.namedTwice_eq_ok.mp builtDeployment
  obtain ⟨-, ns, given, rfl⟩ := Build.named_eq_ok.mp builtService
  obtain ⟨-, _, same, rfl⟩ := Build.named_eq_ok.mp builtIngress
  cases given.symm.trans same
  refine leadsToServer (.inl rfl) _ ns _ rfl ?liveness ?readiness
  case liveness => rfl
  case readiness => rfl

/-- The only claim among the volumes of a must-gather service is its own. -/
theorem archives_mustGatherDeployment {parent : MustGatherService}
    (built : Build.mustGatherDeployment parent images = .ok deployment) :
    (podVolumes deployment).filterMap (·.at? ["persistentVolumeClaim", "claimName"]) =
      [.text parent.spec.persistentVolumeClaim.name] := by
  obtain ⟨-, -, ns, -, rfl⟩ := Build.namedTwice_eq_ok.mp built
  rw [podVolumes_of (ChildKind.IsWorkload.hasPods (.inl rfl)) rfl]
  rfl

end Server

/-- The labels of pods that the passes over a health service report. -/
theorem report_mem_healthServiceSteps (surroundings : Surroundings) (workload : MemcachedWorkload)
    (list : PodList .healthService) (labels : HealthService → LabelMap) :
    .report list labels ∈ healthServiceSteps surroundings workload ↔ labels = list.labels := by
  cases workload <;> cases list <;> simp [healthServiceSteps, PodList.labels]

/-- The labels of pods that the passes over a must-gather service report. -/
theorem report_mem_mustGatherServiceSteps (surroundings : Surroundings) (defaultClass : String)
    (list : PodList .mustGatherService) (labels : MustGatherService → LabelMap) :
    .report list labels ∈ mustGatherServiceSteps surroundings defaultClass ↔
      labels = list.labels := by
  cases list
  simp [mustGatherServiceSteps, PodList.labels]

namespace HealthChildren

variable {surroundings : Surroundings} {parent : HealthService}

/-- What is built for a health service fits together. -/
theorem fit (children : HealthChildren surroundings parent) : children.Fit := by
  obtain ⟨-, ns, given, -⟩ := Build.named_eq_ok.mp children.built_service
  refine
    { placed := ⟨ns, given, ?_⟩
      cacheDeployment := runsPods_memcachedDeployment children.built_cacheDeployment
      cacheStatefulSet := runsPods_memcachedStatefulSet children.built_cacheStatefulSet
      cacheSelected := selected_memcachedService children.built_cacheService
      cacheReported := fun workload => report_mem_healthServiceSteps surroundings workload _
      cacheTemplates :=
        templates_memcached children.built_cacheDeployment children.built_cacheStatefulSet
      cacheGoverned := ⟨_, (builds_memcachedService given).name _ children.built_cacheService,
        governed_memcachedStatefulSet children.built_cacheStatefulSet⟩
      cacheDeploymentPort := ?_
      cacheStatefulSetPort := ?_
      deployment := runsPods_healthDeployment children.built_deployment
      selected := selected_healthService children.built_service
      reported := fun workload => report_mem_healthServiceSteps surroundings workload _
      port := leadsToServer_health children.built_deployment children.built_service
        children.built_ingress
      configuration := ⟨_, (builds_healthConfigMap given _).name _ children.built_configMap,
        configuration_healthDeployment children.built_deployment⟩ }
  · simp only [List.forall_mem_cons]
    exact ⟨(builds_memcachedDeployment given _).ns _ children.built_cacheDeployment,
      (builds_memcachedStatefulSet given _).ns _ children.built_cacheStatefulSet,
      (builds_memcachedService given).ns _ children.built_cacheService,
      (builds_healthConfigMap given _).ns _ children.built_configMap,
      (builds_healthDeployment given _).ns _ children.built_deployment,
      (builds_healthService given).ns _ children.built_service,
      (builds_healthIngress given).ns _ children.built_ingress, List.forall_mem_nil _⟩
  · obtain ⟨-, _, -, same⟩ := Build.named_eq_ok.mp children.built_cacheDeployment
    rw [← same]
    exact leadsToCache (.inl rfl) children.built_cacheService rfl
  · obtain ⟨-, _, -, same⟩ := Build.named_eq_ok.mp children.built_cacheStatefulSet
    rw [← same]
    exact leadsToCache (.inr rfl) children.built_cacheService rfl

/-- The children of a health service can be built if it has a namespace and the names that are
required of it, and if there is a template. -/
theorem nonempty_iff : Nonempty (HealthChildren surroundings parent) ↔
    (∃ ns, parent.metadata.ns = some ns) ∧ (∃ template, surroundings.template = .ok template) ∧
      ∀ entry ∈ requiredNames .healthService parent, isBlankText entry.2 = false := by
  constructor
  · rintro ⟨children⟩
    obtain ⟨cacheGiven, ns, given, -⟩ := Build.named_eq_ok.mp children.built_cacheDeployment
    obtain ⟨-, -, _, -, template, there, -⟩ :=
      Build.healthConfigMap_eq_ok.mp children.built_configMap
    exact ⟨⟨ns, given⟩, ⟨template, there⟩, List.forall_mem_cons.mpr ⟨cacheGiven,
      (builds_healthConfigMap given _).required _ children.built_configMap⟩⟩
  · rintro ⟨⟨ns, given⟩, ⟨template, there⟩, names⟩
    simp only [requiredNames, List.forall_mem_cons] at names
    obtain ⟨cacheGiven, nameGiven, configGiven, -⟩ := names
    exact ⟨{
      cacheDeployment := _
      cacheStatefulSet := _
      cacheService := _
      configMap := _
      deployment := _
      service := _
      ingress := _
      built_cacheDeployment := Build.named_eq_ok.mpr ⟨cacheGiven, ns, given, rfl⟩
      built_cacheStatefulSet := Build.named_eq_ok.mpr ⟨cacheGiven, ns, given, rfl⟩
      built_cacheService := Build.named_eq_ok.mpr ⟨cacheGiven, ns, given, rfl⟩
      built_configMap := Build.healthConfigMap_eq_ok.mpr
        ⟨nameGiven, configGiven, ns, given, template, there, rfl⟩
      built_deployment := Build.namedTwice_eq_ok.mpr ⟨nameGiven, configGiven, ns, given, rfl⟩
      built_service := Build.named_eq_ok.mpr ⟨nameGiven, ns, given, rfl⟩
      built_ingress := Build.named_eq_ok.mpr ⟨nameGiven, ns, given, rfl⟩ }⟩

end HealthChildren

namespace GatherChildren

variable {surroundings : Surroundings} {defaultClass : String} {parent : MustGatherService}

/-- What is built for a must-gather service fits together. -/
theorem fit (children : GatherChildren surroundings defaultClass parent) : children.Fit := by
  obtain ⟨-, ns, given, -⟩ := Build.named_eq_ok.mp children.built_service
  refine
    { placed := ⟨ns, given, ?_⟩
      deployment := runsPods_mustGatherDeployment children.built_deployment
      selected := selected_mustGatherService children.built_service
      reported := report_mem_mustGatherServiceSteps surroundings defaultClass _
      port := leadsToServer_mustGather children.built_deployment children.built_service
        children.built_ingress
      archives := ⟨_, (builds_mustGatherClaim given _).name _ children.built_claim,
        archives_mustGatherDeployment children.built_deployment⟩ }
  simp only [List.forall_mem_cons]
  exact ⟨(builds_mustGatherClaim given _).ns _ children.built_claim,
    (builds_mustGatherDeployment given _).ns _ children.built_deployment,
    (builds_mustGatherService given).ns _ children.built_service,
    (builds_mustGatherIngress given).ns _ children.built_ingress, List.forall_mem_nil _⟩

/-- The children of a must-gather service can be built if it has a namespace and the names that are
required of it. -/
theorem nonempty_iff : Nonempty (GatherChildren surroundings defaultClass parent) ↔
    (∃ ns, parent.metadata.ns = some ns) ∧
      ∀ entry ∈ requiredNames .mustGatherService parent, isBlankText entry.2 = false := by
  constructor
  · rintro ⟨children⟩
    obtain ⟨-, ns, given, -⟩ := Build.named_eq_ok.mp children.built_service
    exact ⟨⟨ns, given⟩, (builds_mustGatherDeployment given _).required _ children.built_deployment⟩
  · rintro ⟨⟨ns, given⟩, names⟩
    simp only [requiredNames, List.forall_mem_cons] at names
    obtain ⟨nameGiven, claimGiven, -⟩ := names
    exact ⟨{
      claim := _
      deployment := _
      service := _
      ingress := _
      built_claim := Build.named_eq_ok.mpr ⟨claimGiven, ns, given, rfl⟩
      built_deployment := Build.namedTwice_eq_ok.mpr ⟨nameGiven, claimGiven, ns, given, rfl⟩
      built_service := Build.named_eq_ok.mpr ⟨nameGiven, ns, given, rfl⟩
      built_ingress := Build.named_eq_ok.mpr ⟨nameGiven, ns, given, rfl⟩ }⟩

end GatherChildren

/-- The children that are built for a health service or for a must-gather service fit together,
whatever the images, the template and the class of storage. -/
theorem children_fit (surroundings : Surroundings) :
    (∀ (parent : HealthService) (children : HealthChildren surroundings parent), children.Fit) ∧
      ∀ (defaultClass : String) (parent : MustGatherService)
        (children : GatherChildren surroundings defaultClass parent), children.Fit :=
  ⟨fun _ children => children.fit, fun _ _ children => children.fit⟩

/-- The sample health service and the sample must-gather service have children, and these fit
together. -/
theorem children_fit_of_samples :
    (∃ children : HealthChildren sampleSurroundings (sampleParent "cache" "check"), children.Fit) ∧
      ∃ children : GatherChildren sampleSurroundings "standard" sampleGather, children.Fit := by
  obtain ⟨healthFit, gatherFit⟩ := children_fit sampleSurroundings
  obtain ⟨health⟩ : Nonempty (HealthChildren sampleSurroundings (sampleParent "cache" "check")) :=
    HealthChildren.nonempty_iff.mpr ⟨⟨_, rfl⟩, ⟨_, rfl⟩, by decide⟩
  obtain ⟨gather⟩ : Nonempty (GatherChildren sampleSurroundings "standard" sampleGather) :=
    GatherChildren.nonempty_iff.mpr ⟨⟨_, rfl⟩, by decide⟩
  exact ⟨⟨health, healthFit _ health⟩, gather, gatherFit _ _ gather⟩

end Caretaker
