import Caretaker.Proofs.Pass.Settled

/-!
# The steps of a pass

The steps of a pass depend on the parent, on its surroundings and, for a must-gather service, on the
storage class that a new claim gets (`stepsWith`).  They are the same for parents that ask for the
same, and every child belongs into the namespace of its parent (`isPlaced_stepsWith`).
-/

namespace Caretaker

variable {kind : ParentKind}

/-- The steps of a pass; the claim of a must-gather service that names no class gets the given
one. -/
def stepsWith (surroundings : Surroundings) (defaultClass : String) :
    (kind : ParentKind) → Object (.parent kind) → List (Step kind)
  | .healthService, parent =>
    healthServiceSteps surroundings (HealthService.spec parent).memcached.workload
  | .mustGatherService, _ => mustGatherServiceSteps surroundings defaultClass
  | .mustGatherJob, _ => [.child .job (Build.gatherJob · surroundings.images)]
  | .mustGatherConfig, _ => [.child .configMap Build.gatherConfigMap]

section Steps

variable (surroundings : Surroundings) (defaultClass : String) (parent : Object (.parent kind))

theorem isStable_stepsWith :
    ∀ step ∈ stepsWith surroundings defaultClass kind parent, step.IsStable := by
  cases kind with
  | healthService => exact isStable_healthServiceSteps _ _
  | mustGatherService => exact isStable_mustGatherServiceSteps _ _
  | mustGatherJob =>
    intro step member
    cases List.mem_singleton.mp member
    exact isStable_gatherJob surroundings
  | mustGatherConfig =>
    intro step member
    cases List.mem_singleton.mp member
    exact isStable_gatherConfigMap

/-- No list of pods is reported twice in a pass. -/
theorem nodup_reportedLists_stepsWith :
    (reportedLists (stepsWith surroundings defaultClass kind parent)).Nodup := by
  cases kind with
  | healthService =>
    simp only [stepsWith]
    cases (HealthService.spec parent).memcached.workload <;>
      simp [healthServiceSteps, reportedLists]
  | mustGatherService => simp [stepsWith, mustGatherServiceSteps, reportedLists]
  | mustGatherJob => simp [stepsWith, reportedLists]
  | mustGatherConfig => simp [stepsWith, reportedLists]

/-- Every pass begins with a child. -/
theorem exists_stepsWith_eq_child :
    ∃ childKind build rest,
      stepsWith surroundings defaultClass kind parent = .child childKind build :: rest := by
  cases kind with
  | healthService =>
    simp only [stepsWith]
    cases (HealthService.spec parent).memcached.workload <;> exact ⟨_, _, _, rfl⟩
  | mustGatherService => exact ⟨_, _, _, rfl⟩
  | mustGatherJob => exact ⟨_, _, _, rfl⟩
  | mustGatherConfig => exact ⟨_, _, _, rfl⟩

end Steps

/-- Parents that ask for the same have the same steps. -/
theorem stepsWith_congr {left right : Object (.parent kind)} (same : SameRequest left right)
    (surroundings : Surroundings) (defaultClass : String) :
    stepsWith surroundings defaultClass kind right =
      stepsWith surroundings defaultClass kind left := by
  cases kind with
  | healthService =>
    have spec : HealthService.spec right = HealthService.spec left := same.spec
    simp only [stepsWith, spec]
  | mustGatherService => rfl
  | mustGatherJob => rfl
  | mustGatherConfig => rfl

namespace Build

theorem bind_eq_ok {α β : Type} {first : Except Error α} {next : α → Except Error β} {value : β} :
    (first >>= next) = .ok value ↔ ∃ given, first = .ok given ∧ next given = .ok value := by
  cases first with
  | error error => exact ⟨nofun, fun ⟨_, failed, _⟩ => nomatch failed⟩
  | ok given => exact ⟨fun same => ⟨given, rfl, same⟩, fun ⟨_, .refl _, same⟩ => same⟩

theorem parentNs_eq_ok {kind : Kind} {parent : Object kind} {ns : String} :
    parentNs parent = .ok ns ↔ parent.metadata.ns = some ns := by
  unfold parentNs
  cases parent.metadata.ns <;> simp

/-- The claims for two classes have the same metadata. -/
theorem metadata_mustGatherClaim {parent : MustGatherService} {defaultClass : String}
    {claim : Child .persistentVolumeClaim}
    (built : mustGatherClaim parent defaultClass = .ok claim) (otherClass : String) :
    ∃ other, mustGatherClaim parent otherClass = .ok other ∧ other.metadata = claim.metadata := by
  simp only [mustGatherClaim, bind_eq_ok] at built ⊢
  obtain ⟨name, named, ns, given, ⟨⟩⟩ := built
  exact ⟨_, ⟨name, named, ns, given, rfl⟩, rfl⟩

/-- A claim that cannot be built for a class cannot be built for any other one. -/
theorem mustGatherClaim_eq_error {parent : MustGatherService} {defaultClass : String}
    {error : Error} (failed : mustGatherClaim parent defaultClass = .error error)
    (otherClass : String) : mustGatherClaim parent otherClass = .error error := by
  unfold mustGatherClaim at failed ⊢
  cases named : claimName parent with
  | error reason =>
    rw [named] at failed
    exact failed
  | ok name =>
    rw [named] at failed
    cases placed : parentNs parent with
    | error reason =>
      rw [placed] at failed
      exact failed
    | ok ns =>
      rw [placed] at failed
      cases failed

theorem isPlaced_healthServiceSteps (surroundings : Surroundings) (workload : MemcachedWorkload) :
    ∀ step ∈ healthServiceSteps surroundings workload, step.IsPlaced := by
  simp only [healthServiceSteps, List.forall_mem_cons, List.not_mem_nil, false_imp_iff,
    implies_true, and_true]
  refine ⟨?_, trivial, ?_, ?_, ?_, trivial, ?_, ?_⟩
  case refine_1 =>
    cases workload
    all_goals
      intro parent desired built
      simp only [memcachedDeployment, memcachedStatefulSet, bind_eq_ok, parentNs_eq_ok] at built
      obtain ⟨name, -, ns, given, ⟨⟩⟩ := built
      exact ⟨ns, given, rfl⟩
  case refine_3 =>
    intro parent desired built
    simp only [healthConfigMap, bind_eq_ok, parentNs_eq_ok] at built
    obtain ⟨name, -, configName, -, ns, given, base, -, ⟨⟩⟩ := built
    exact ⟨ns, given, rfl⟩
  case refine_4 =>
    intro parent desired built
    simp only [healthDeployment, bind_eq_ok, parentNs_eq_ok] at built
    obtain ⟨name, -, configName, -, ns, given, ⟨⟩⟩ := built
    exact ⟨ns, given, rfl⟩
  all_goals
    intro parent desired built
    simp only [memcachedService, Build.healthService, healthIngress, bind_eq_ok,
      parentNs_eq_ok] at built
    obtain ⟨name, -, ns, given, ⟨⟩⟩ := built
    exact ⟨ns, given, rfl⟩

theorem isPlaced_mustGatherServiceSteps (surroundings : Surroundings) (defaultClass : String) :
    ∀ step ∈ mustGatherServiceSteps surroundings defaultClass, step.IsPlaced := by
  simp only [mustGatherServiceSteps, List.forall_mem_cons, List.not_mem_nil, false_imp_iff,
    implies_true, and_true]
  refine ⟨?_, ?_, trivial, ?_, ?_⟩
  case refine_2 =>
    intro parent desired built
    simp only [mustGatherDeployment, bind_eq_ok, parentNs_eq_ok] at built
    obtain ⟨name, -, claim, -, ns, given, ⟨⟩⟩ := built
    exact ⟨ns, given, rfl⟩
  all_goals
    intro parent desired built
    simp only [mustGatherClaim, Build.mustGatherService, mustGatherIngress, bind_eq_ok,
      parentNs_eq_ok] at built
    obtain ⟨name, -, ns, given, ⟨⟩⟩ := built
    exact ⟨ns, given, rfl⟩

end Build

/-- Every child belongs into the namespace of its parent. -/
theorem isPlaced_stepsWith (surroundings : Surroundings) (defaultClass : String)
    (parent : Object (.parent kind)) :
    ∀ step ∈ stepsWith surroundings defaultClass kind parent, step.IsPlaced := by
  cases kind with
  | healthService => exact Build.isPlaced_healthServiceSteps _ _
  | mustGatherService => exact Build.isPlaced_mustGatherServiceSteps _ _
  | mustGatherJob =>
    intro step member
    cases List.mem_singleton.mp member
    intro parent desired built
    simp only [Build.gatherJob, Build.bind_eq_ok, Build.parentNs_eq_ok] at built
    obtain ⟨ns, given, ⟨⟩⟩ := built
    exact ⟨ns, given, rfl⟩
  | mustGatherConfig =>
    intro step member
    cases List.mem_singleton.mp member
    intro parent desired built
    simp only [Build.gatherConfigMap, Build.bind_eq_ok, Build.parentNs_eq_ok] at built
    obtain ⟨ns, given, ⟨⟩⟩ := built
    exact ⟨ns, given, rfl⟩

/-- A stored parent that can own children gives its name, and its namespace if its first child can be
built. -/
theorem Object.IsStored.given {parent : Object (.parent kind)} {ns name : String}
    (stored : parent.IsStored ns name) {owner : OwnerReference}
    (owns : parent.controllerReference = .ok owner) {surroundings : Surroundings}
    {defaultClass : String} {childKind : ChildKind}
    {build : Object (.parent kind) → Except Error (Child childKind)} {rest : List (Step kind)}
    (first : stepsWith surroundings defaultClass kind parent = .child childKind build :: rest)
    {desired : Child childKind} (built : build parent = .ok desired) :
    parent.metadata.ns = some ns ∧ parent.metadata.name = some name := by
  have placed : (Step.child childKind build).IsPlaced :=
    isPlaced_stepsWith surroundings defaultClass parent _ (first ▸ List.mem_cons_self)
  obtain ⟨parentNs, nsGiven, -⟩ := placed parent desired built
  have nameGiven := name_of_controllerReference owns
  constructor
  · rw [nsGiven, ← stored.ns, Object.nsD, nsGiven, Option.getD_some]
  · rw [nameGiven, ← stored.name, Object.nameD, nameGiven, Option.getD_some]

end Caretaker
