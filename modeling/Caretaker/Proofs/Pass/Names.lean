import Caretaker.Proofs.Pass.Effect

/-!
# The names of children

A pass requires names of its parent (`requiredNames`) and brings about children of known kinds under
known names (`childNames`).  A builder fails for a required name that is blank, or for the template;
otherwise its child has its name in the namespace of the parent (`Builds`).
-/

namespace Caretaker

variable {kind : ParentKind}

/-- The names that a pass requires of its parent, with their fields. -/
def requiredNames : (kind : ParentKind) → Object (.parent kind) → List (String × String)
  | .healthService, parent => [
    ("spec.memcached.name", (HealthService.spec parent).memcached.name),
    ("spec.healthService.name", (HealthService.spec parent).healthService.name),
    ("spec.healthService.configmapName", (HealthService.spec parent).healthService.configmapName)]
  | .mustGatherService, parent => [
    ("spec.mustGather.name", (MustGatherService.spec parent).mustGather.name),
    ("spec.persistentVolumeClaim.name", (MustGatherService.spec parent).persistentVolumeClaim.name)]
  | .mustGatherJob, _ | .mustGatherConfig, _ => []

/-- The kind of child that a workload of a cache is. -/
def MemcachedWorkload.childKind : MemcachedWorkload → ChildKind
  | deployment => .deployment
  | statefulSet => .statefulSet

/-- The kinds and the names of the children of a parent, in the order of a pass. -/
def childNames : (kind : ParentKind) → Object (.parent kind) → List (ChildKind × String)
  | .healthService, parent => [
    ((HealthService.spec parent).memcached.workload.childKind,
      (HealthService.spec parent).memcached.name),
    (.service, "memcached"),
    (.configMap, (HealthService.spec parent).healthService.configmapName),
    (.deployment, (HealthService.spec parent).healthService.name),
    (.service, (HealthService.spec parent).healthService.name),
    (.ingress, (HealthService.spec parent).healthService.name)]
  | .mustGatherService, parent => [
    (.persistentVolumeClaim, (MustGatherService.spec parent).persistentVolumeClaim.name),
    (.deployment, (MustGatherService.spec parent).mustGather.name),
    (.service, (MustGatherService.spec parent).mustGather.name),
    (.ingress, (MustGatherService.spec parent).mustGather.name)]
  | .mustGatherJob, parent => [(.job, parent.metadata.nameAny)]
  | .mustGatherConfig, parent => [(.configMap, parent.metadata.nameAny)]

/-- Parents that ask for the same require the same names. -/
theorem requiredNames_congr {left right : Object (.parent kind)} (same : SameRequest left right) :
    requiredNames kind right = requiredNames kind left := by
  have spec := same.spec
  cases kind with
  | healthService =>
    have spec : HealthService.spec right = HealthService.spec left := spec
    simp only [requiredNames, spec]
  | mustGatherService =>
    have spec : MustGatherService.spec right = MustGatherService.spec left := spec
    simp only [requiredNames, spec]
  | mustGatherJob => rfl
  | mustGatherConfig => rfl

/-- Parents that ask for the same have children under the same names. -/
theorem childNames_congr {left right : Object (.parent kind)} (same : SameRequest left right) :
    childNames kind right = childNames kind left := by
  have spec := same.spec
  have named : right.metadata.nameAny = left.metadata.nameAny := by
    rw [same.metadata]
    rfl
  cases kind with
  | healthService =>
    have spec : HealthService.spec right = HealthService.spec left := spec
    simp only [childNames, spec]
  | mustGatherService =>
    have spec : MustGatherService.spec right = MustGatherService.spec left := spec
    simp only [childNames, spec]
  | mustGatherJob => simp only [childNames, named]
  | mustGatherConfig => simp only [childNames, named]

/-- The owners that a child is built with, or why there are none: those of the template for the
configuration of a health service, and none for any other child. -/
def Surroundings.owners (surroundings : Surroundings) :
    ParentKind → ChildKind → Except Error (Option (List OwnerReference))
  | .healthService, .configMap => surroundings.template.map fun template =>
    template.metadata.ownerReferences
  | _, _ => .ok none

/-- Whether a child is built under a name in a namespace with the given owners, unless a required
name is blank or the owners could not be had. -/
structure Builds {childKind : ChildKind} (required : List (String × String))
    (owners : Except Error (Option (List OwnerReference))) (ns name : String)
    (built : Except Error (Child childKind)) : Prop where
  refused : ∀ error, built = .error error →
    (∃ entry ∈ required, isBlankText entry.2 = true ∧ error = .missingField entry.1) ∨
      owners = .error error
  required : ∀ child, built = .ok child → ∀ entry ∈ required, isBlankText entry.2 = false
  owners : ∀ child, built = .ok child → owners = .ok child.metadata.ownerReferences
  ns : ∀ child, built = .ok child → child.metadata.ns = some ns
  name : ∀ child, built = .ok child → child.metadata.name = some name

namespace Builds

variable {childKind : ChildKind} {required : List (String × String)}
  {owners : Except Error (Option (List OwnerReference))} {ns name : String}

theorem ok {child : Child childKind} {references : Option (List OwnerReference)}
    (owned : child.metadata.ownerReferences = references) (nsGiven : child.metadata.ns = some ns)
    (nameGiven : child.metadata.name = some name) :
    Builds [] (.ok references) ns name (pure child) where
  refused := nofun
  required _ _ := List.forall_mem_nil _
  owners := by rintro _ ⟨⟩; rw [owned]
  ns := by rintro _ ⟨⟩; exact nsGiven
  name := by rintro _ ⟨⟩; exact nameGiven

theorem of_error {error : Error}
    (reason : (∃ entry ∈ required, isBlankText entry.2 = true ∧ error = .missingField entry.1) ∨
      owners = .error error) :
    Builds required owners ns name (.error error : Except Error (Child childKind)) := by
  refine ⟨fun other same => Except.error.inj same ▸ reason, fun _ same => ?_, fun _ same => ?_,
    fun _ same => ?_, fun _ same => ?_⟩
  all_goals cases same

/-- A builder that asks for the template has its owners. -/
theorem template {source : Except Error (Child .configMap)}
    {next : Child .configMap → Except Error (Child childKind)}
    (rest : ∀ template, Builds [] (.ok template.metadata.ownerReferences) ns name (next template)) :
    Builds [] (source.map fun template => template.metadata.ownerReferences) ns name
      (source >>= next) := by
  cases source with
  | ok template => exact rest template
  | error error => exact of_error (Or.inr rfl)

/-- A builder that requires a name fails if it is blank. -/
theorem require {value field : String} {next : String → Except Error (Child childKind)}
    (rest : Builds required owners ns name (next value)) :
    Builds ((field, value) :: required) owners ns name (Build.nonBlank value field >>= next) := by
  unfold Build.nonBlank
  split
  case isTrue blank => exact of_error (Or.inl ⟨_, List.mem_cons_self, blank, rfl⟩)
  case isFalse given =>
    refine ⟨fun error same => ?_, fun child same => ?_, rest.owners, rest.ns, rest.name⟩
    · rcases rest.refused error same with ⟨entry, member, blank⟩ | failed
      · exact Or.inl ⟨entry, List.mem_cons_of_mem _ member, blank⟩
      · exact Or.inr failed
    · exact List.forall_mem_cons.mpr ⟨eq_false_of_ne_true given, rest.required child same⟩

/-- A child that may be updated has a name if that is not blank or required. -/
theorem name_ne_empty {built : Except Error (Child childKind)} {child : Child childKind}
    (builds : Builds required owners ns name built) (succeeded : built = .ok child)
    (isMutable : childKind.isCreateOnly = false)
    (proper : childKind.isCreateOnly = true ∨ isBlankText name = false ∨
      ∃ field, (field, name) ∈ required) : name ≠ "" := by
  have notBlank : isBlankText name = false := by
    rcases proper with createOnly | notBlank | ⟨field, member⟩
    · cases createOnly.symm.trans isMutable
    · exact notBlank
    · exact builds.required child succeeded _ member
  rintro rfl
  cases notBlank

/-- A builder that asks for the namespace of its parent gets it. -/
theorem place {parent : Object (.parent kind)} {next : String → Except Error (Child childKind)}
    (given : parent.metadata.ns = some ns) (rest : Builds required owners ns name (next ns)) :
    Builds required owners ns name (Build.parentNs parent >>= next) := by
  rw [Build.parentNs_eq_ok.mpr given]
  exact rest

end Builds

section Health

variable {parent : HealthService} {ns : String} (given : parent.metadata.ns = some ns)

include given

theorem builds_memcachedDeployment (images : OperandImages) :
    Builds [("spec.memcached.name", parent.spec.memcached.name)] (.ok none) ns
      parent.spec.memcached.name (Build.memcachedDeployment parent images) :=
  .require (.place given (.ok rfl rfl rfl))

theorem builds_memcachedStatefulSet (images : OperandImages) :
    Builds [("spec.memcached.name", parent.spec.memcached.name)] (.ok none) ns
      parent.spec.memcached.name (Build.memcachedStatefulSet parent images) :=
  .require (.place given (.ok rfl rfl rfl))

theorem builds_memcachedService :
    Builds [("spec.memcached.name", parent.spec.memcached.name)] (.ok none) ns
      "memcached" (Build.memcachedService parent) :=
  .require (.place given (.ok rfl rfl rfl))

theorem builds_healthConfigMap (template : Except Error (Child .configMap)) :
    Builds [("spec.healthService.name", parent.spec.healthService.name),
        ("spec.healthService.configmapName", parent.spec.healthService.configmapName)]
      (template.map fun template => template.metadata.ownerReferences) ns
      parent.spec.healthService.configmapName (Build.healthConfigMap parent template) :=
  .require (.require (.place given (.template fun _ => .ok rfl rfl rfl)))

theorem builds_healthDeployment (images : OperandImages) :
    Builds [("spec.healthService.name", parent.spec.healthService.name),
        ("spec.healthService.configmapName", parent.spec.healthService.configmapName)] (.ok none) ns
      parent.spec.healthService.name (Build.healthDeployment parent images) :=
  .require (.require (.place given (.ok rfl rfl rfl)))

theorem builds_healthService :
    Builds [("spec.healthService.name", parent.spec.healthService.name)] (.ok none) ns
      parent.spec.healthService.name (Build.healthService parent) :=
  .require (.place given (.ok rfl rfl rfl))

theorem builds_healthIngress :
    Builds [("spec.healthService.name", parent.spec.healthService.name)] (.ok none) ns
      parent.spec.healthService.name (Build.healthIngress parent) :=
  .require (.place given (.ok rfl rfl rfl))

end Health

section Gather

variable {parent : MustGatherService} {ns : String} (given : parent.metadata.ns = some ns)

include given

theorem builds_mustGatherClaim (defaultClass : String) :
    Builds [("spec.persistentVolumeClaim.name", parent.spec.persistentVolumeClaim.name)] (.ok none)
      ns parent.spec.persistentVolumeClaim.name (Build.mustGatherClaim parent defaultClass) :=
  .require (.place given (.ok rfl rfl rfl))

theorem builds_mustGatherDeployment (images : OperandImages) :
    Builds [("spec.mustGather.name", parent.spec.mustGather.name),
        ("spec.persistentVolumeClaim.name", parent.spec.persistentVolumeClaim.name)] (.ok none) ns
      parent.spec.mustGather.name (Build.mustGatherDeployment parent images) :=
  .require (.require (.place given (.ok rfl rfl rfl)))

theorem builds_mustGatherService :
    Builds [("spec.mustGather.name", parent.spec.mustGather.name)] (.ok none) ns
      parent.spec.mustGather.name (Build.mustGatherService parent) :=
  .require (.place given (.ok rfl rfl rfl))

theorem builds_mustGatherIngress :
    Builds [("spec.mustGather.name", parent.spec.mustGather.name)] (.ok none) ns
      parent.spec.mustGather.name (Build.mustGatherIngress parent) :=
  .require (.place given (.ok rfl rfl rfl))

end Gather

theorem builds_gatherJob {parent : MustGatherJob} {ns : String}
    (given : parent.metadata.ns = some ns) (images : OperandImages) :
    Builds [] (.ok none) ns parent.metadata.nameAny (Build.gatherJob parent images) :=
  .place given (.ok rfl rfl rfl)

theorem builds_gatherConfigMap {parent : MustGatherConfig} {ns : String}
    (given : parent.metadata.ns = some ns) :
    Builds [] (.ok none) ns parent.metadata.nameAny (Build.gatherConfigMap parent) :=
  .place given (.ok rfl rfl rfl)

/-- Whether a step builds one of the children of a parent and requires only what the pass requires,
which includes the name of a child that may be updated. -/
def Step.Fits (surroundings : Surroundings) (parent : Object (.parent kind)) (ns : String) :
    Step kind → Prop
  | .child childKind build => ∃ required name, required ⊆ requiredNames kind parent ∧
    (childKind, name) ∈ childNames kind parent ∧
    (childKind.isCreateOnly = true ∨ isBlankText name = false ∨ ∃ field, (field, name) ∈ required) ∧
    Builds required (surroundings.owners kind childKind) ns name (build parent)
  | .report .. => True

section Steps

variable (surroundings : Surroundings) (defaultClass : String) {parent : Object (.parent kind)}
  {ns : String}

/-- Every step of a pass builds one of its children. -/
theorem fits_stepsWith (given : parent.metadata.ns = some ns) :
    ∀ step ∈ stepsWith surroundings defaultClass kind parent, step.Fits surroundings parent ns := by
  cases kind with
  | healthService =>
    simp only [stepsWith, healthServiceSteps, List.forall_mem_cons, List.not_mem_nil, false_imp_iff,
      implies_true, and_true]
    refine ⟨?_, trivial, ?_, ?_, ?_, trivial, ?_, ?_⟩
    · cases workload : (HealthService.spec parent).memcached.workload with
      | deployment =>
        exact ⟨_, _, by simp [requiredNames],
          by simp [childNames, workload, MemcachedWorkload.childKind], by simp,
          builds_memcachedDeployment given surroundings.images⟩
      | statefulSet =>
        exact ⟨_, _, by simp [requiredNames],
          by simp [childNames, workload, MemcachedWorkload.childKind], by simp,
          builds_memcachedStatefulSet given surroundings.images⟩
    · exact ⟨_, _, by simp [requiredNames], by simp [childNames], Or.inr (Or.inl (by decide)),
        builds_memcachedService given⟩
    · exact ⟨_, _, by simp [requiredNames], by simp [childNames], by simp,
        builds_healthConfigMap given surroundings.template⟩
    · exact ⟨_, _, by simp [requiredNames], by simp [childNames], by simp,
        builds_healthDeployment given surroundings.images⟩
    · exact ⟨_, _, by simp [requiredNames], by simp [childNames], by simp,
        builds_healthService given⟩
    · exact ⟨_, _, by simp [requiredNames], by simp [childNames], by simp,
        builds_healthIngress given⟩
  | mustGatherService =>
    simp only [stepsWith, mustGatherServiceSteps, List.forall_mem_cons, List.not_mem_nil,
      false_imp_iff, implies_true, and_true]
    refine ⟨?_, ?_, trivial, ?_, ?_⟩
    · exact ⟨_, _, by simp [requiredNames], by simp [childNames], by simp,
        builds_mustGatherClaim given defaultClass⟩
    · exact ⟨_, _, by simp [requiredNames], by simp [childNames], by simp,
        builds_mustGatherDeployment given surroundings.images⟩
    · exact ⟨_, _, by simp [requiredNames], by simp [childNames], by simp,
        builds_mustGatherService given⟩
    · exact ⟨_, _, by simp [requiredNames], by simp [childNames], by simp,
        builds_mustGatherIngress given⟩
  | mustGatherJob =>
    intro step member
    cases List.mem_singleton.mp member
    exact ⟨_, _, List.nil_subset _, List.mem_singleton_self _, Or.inl rfl,
      builds_gatherJob given surroundings.images⟩
  | mustGatherConfig =>
    intro step member
    cases List.mem_singleton.mp member
    exact ⟨_, _, List.nil_subset _, List.mem_singleton_self _, Or.inl rfl,
      builds_gatherConfigMap given⟩

variable {surroundings defaultClass} {children : List SomeChild}

/-- Every child has its owners. -/
theorem owners_builtBy {steps : List (Step kind)}
    (fits : ∀ step ∈ steps, step.Fits surroundings parent ns)
    (built : builtBy parent steps = .ok children) :
    ∀ child ∈ children, surroundings.owners kind child.1 = .ok child.2.metadata.ownerReferences ∧
      child.2.metadata.ns = some ns := by
  induction steps generalizing children with
  | nil =>
    cases built
    exact List.forall_mem_nil _
  | cons step rest ih =>
    obtain ⟨here, later⟩ := List.forall_mem_cons.mp fits
    cases step with
    | report => exact ih later built
    | child childKind build =>
      obtain ⟨child, others, first, next, rfl⟩ := builtBy_child_eq_ok.mp built
      obtain ⟨required, name, -, -, -, builds⟩ := here
      exact List.forall_mem_cons.mpr
        ⟨⟨builds.owners child first, builds.ns child first⟩, ih later next⟩

/-- A pass whose children can be built has all the names that it requires, and brings about children
of its kinds and names. -/
theorem names_desiredChildren (given : parent.metadata.ns = some ns)
    (built : desiredChildren surroundings defaultClass kind parent = .ok children) :
    (∀ entry ∈ requiredNames kind parent, isBlankText entry.2 = false) ∧
      children.map (fun child => (child.1, child.2.metadata.name)) =
        (childNames kind parent).map fun entry => (entry.1, some entry.2) := by
  cases kind with
  | healthService =>
    simp only [desiredChildren, desiredCache, Build.bind_eq_ok] at built
    obtain ⟨cache, cacheBuilt, cacheService, built₂, configMap, built₃, deployment, built₄, service,
      built₅, ingress, built₆, ⟨⟩⟩ := built
    have configMapBuilds := builds_healthConfigMap given surroundings.template
    have cacheNamed : cache.1 = (HealthService.spec parent).memcached.workload.childKind ∧
        cache.2.metadata.name = some (HealthService.spec parent).memcached.name ∧
        isBlankText (HealthService.spec parent).memcached.name = false := by
      split at cacheBuilt
      · next workload =>
        obtain ⟨child, built₁, ⟨⟩⟩ := Build.bind_eq_ok.mp cacheBuilt
        have builds := builds_memcachedDeployment given surroundings.images
        exact ⟨by rw [workload]; rfl, builds.name _ built₁,
          builds.required _ built₁ _ List.mem_cons_self⟩
      · next workload =>
        obtain ⟨child, built₁, ⟨⟩⟩ := Build.bind_eq_ok.mp cacheBuilt
        have builds := builds_memcachedStatefulSet given surroundings.images
        exact ⟨by rw [workload]; rfl, builds.name _ built₁,
          builds.required _ built₁ _ List.mem_cons_self⟩
    obtain ⟨cacheKind, cacheName, cacheGiven⟩ := cacheNamed
    refine ⟨List.forall_mem_cons.mpr ⟨cacheGiven, configMapBuilds.required _ built₃⟩, ?_⟩
    simp only [childNames, List.map_cons, List.map_nil, cacheKind, cacheName,
      (builds_memcachedService given).name _ built₂, configMapBuilds.name _ built₃,
      (builds_healthDeployment given surroundings.images).name _ built₄,
      (builds_healthService given).name _ built₅, (builds_healthIngress given).name _ built₆]
  | mustGatherService =>
    simp only [desiredChildren, Build.bind_eq_ok] at built
    obtain ⟨claim, built₁, deployment, built₂, service, built₃, ingress, built₄, ⟨⟩⟩ := built
    have deploymentBuilds := builds_mustGatherDeployment given surroundings.images
    refine ⟨deploymentBuilds.required _ built₂, ?_⟩
    simp only [childNames, List.map_cons, List.map_nil,
      (builds_mustGatherClaim given defaultClass).name _ built₁, deploymentBuilds.name _ built₂,
      (builds_mustGatherService given).name _ built₃,
      (builds_mustGatherIngress given).name _ built₄]
  | mustGatherJob =>
    simp only [desiredChildren, Build.bind_eq_ok] at built
    obtain ⟨job, built, ⟨⟩⟩ := built
    refine ⟨List.forall_mem_nil _, ?_⟩
    simp only [childNames, List.map_cons, List.map_nil,
      (builds_gatherJob given surroundings.images).name _ built]
  | mustGatherConfig =>
    simp only [desiredChildren, Build.bind_eq_ok] at built
    obtain ⟨configMap, built, ⟨⟩⟩ := built
    refine ⟨List.forall_mem_nil _, ?_⟩
    simp only [childNames, List.map_cons, List.map_nil,
      (builds_gatherConfigMap given).name _ built]

/-- Each of the names of the children is that of a child. -/
theorem exists_child_of_names
    (named : children.map (fun child => (child.1, child.2.metadata.name)) =
      (childNames kind parent).map fun entry => (entry.1, some entry.2))
    {childKind : ChildKind} {childName : String}
    (wanted : (childKind, childName) ∈ childNames kind parent) :
    ∃ desired : Child childKind, ⟨childKind, desired⟩ ∈ children ∧
      desired.metadata.name = some childName := by
  have member := List.mem_map_of_mem (f := fun entry => (entry.1, some entry.2)) wanted
  rw [← named] at member
  obtain ⟨⟨_, desired⟩, isChild, agrees⟩ := List.mem_map.mp member
  simp only [Prod.mk.injEq] at agrees
  obtain ⟨rfl, hasName⟩ := agrees
  exact ⟨desired, isChild, hasName⟩

end Steps

end Caretaker
