import Caretaker.Pass
import Caretaker.Proofs.PodReport

/-!
# What children depend on

Two parents ask for the same if they differ in their version and their status at most
(`SameRequest`).  All steps of a pass are stable: what they build and which labels they look for are
the same for parents that ask for the same (`isStable_healthServiceSteps`,
`isStable_mustGatherServiceSteps`).  So the status that a pass writes on its way changes nothing
about the children that follow.
-/

namespace Caretaker

namespace ParentKind

/-- What a parent of a kind asks for. -/
def Spec : ParentKind → Type
  | healthService => HealthServiceSpec
  | mustGatherService => MustGatherServiceSpec
  | mustGatherJob => MustGatherJobSpec
  | mustGatherConfig => MustGatherConfigSpec

/-- What the body of a parent asks for. -/
def specOf : (kind : ParentKind) → kind.Body → kind.Spec
  | healthService, body => Observed.spec body
  | mustGatherService, body => Observed.spec body
  | mustGatherJob, body => body
  | mustGatherConfig, body => body

end ParentKind

variable {kind : ParentKind}

/-- Parents that differ in their version and their status at most. -/
structure SameRequest (left right : Object (.parent kind)) : Prop where
  metadata : right.metadata =
    { left.metadata with resourceVersion := right.metadata.resourceVersion }
  spec : kind.specOf right.body = kind.specOf left.body

namespace SameRequest

variable {left middle right : Object (.parent kind)}

theorem refl (parent : Object (.parent kind)) : SameRequest parent parent := ⟨rfl, rfl⟩

theorem trans (first : SameRequest left middle) (second : SameRequest middle right) :
    SameRequest left right where
  metadata := by
    refine second.metadata.trans ?_
    rw [first.metadata]
  spec := second.spec.trans first.spec

theorem ns (same : SameRequest left right) : right.metadata.ns = left.metadata.ns :=
  (congrArg Metadata.ns same.metadata :)

theorem name (same : SameRequest left right) : right.metadata.name = left.metadata.name :=
  (congrArg Metadata.name same.metadata :)

theorem uid (same : SameRequest left right) : right.metadata.uid = left.metadata.uid :=
  (congrArg Metadata.uid same.metadata :)

/-- Parents that ask for the same refer to themselves in the same way. -/
theorem controllerReference_eq (same : SameRequest left right) :
    right.controllerReference = left.controllerReference := by
  simp only [Object.controllerReference, Object.nameD, same.name, same.uid]

/-- A report of pods asks for nothing else. -/
theorem reported (list : PodList kind) (names : List String) (parent : Object (.parent kind)) :
    SameRequest parent (list.reported names parent) := by
  unfold PodList.reported
  split
  · exact refl parent
  · cases list <;> exact ⟨rfl, rfl⟩

end SameRequest

/-- Whether a step builds the same, or looks for the same labels, for parents that ask for the
same. -/
def Step.IsStable : Step kind → Prop
  | .child _ build => ∀ left right, SameRequest left right → build left = build right
  | .report _ labels => ∀ left right, SameRequest left right → labels left = labels right

/-- Whether a step builds its child only for a parent with a namespace, and there. -/
def Step.IsPlaced : Step kind → Prop
  | .child _ build => ∀ parent desired, build parent = .ok desired →
    ∃ ns, parent.metadata.ns = some ns ∧ desired.metadata.ns = some ns
  | .report .. => True

/-- What depends on metadata without its version and on the specification alone is the same for
health services that ask for the same. -/
theorem HealthService.stable {α : Type} {read : HealthService → α}
    (reads : ∀ (metadata : Metadata) (version : Option String) (spec : HealthServiceSpec)
      (status status' : Option HealthServiceStatus),
      read ⟨metadata, (⟨spec, status⟩ : Observed HealthServiceSpec HealthServiceStatus)⟩ =
        read ⟨{ metadata with resourceVersion := version },
          (⟨spec, status'⟩ : Observed HealthServiceSpec HealthServiceStatus)⟩)
    (left right : HealthService) (same : SameRequest left right) : read left = read right := by
  obtain ⟨metadata, spec⟩ := same
  obtain ⟨leftMetadata, leftBody⟩ := left
  obtain ⟨rightMetadata, rightBody⟩ := right
  obtain ⟨leftSpec, leftStatus⟩ : Observed HealthServiceSpec HealthServiceStatus := leftBody
  obtain ⟨rightSpec, rightStatus⟩ : Observed HealthServiceSpec HealthServiceStatus := rightBody
  change rightSpec = leftSpec at spec
  change rightMetadata = { leftMetadata with resourceVersion := _ } at metadata
  rw [spec, metadata]
  exact reads _ _ _ _ _

/-- What depends on metadata without its version and on the specification alone is the same for
must-gather services that ask for the same. -/
theorem MustGatherService.stable {α : Type} {read : MustGatherService → α}
    (reads : ∀ (metadata : Metadata) (version : Option String) (spec : MustGatherServiceSpec)
      (status status' : Option MustGatherServiceStatus),
      read ⟨metadata, (⟨spec, status⟩ : Observed MustGatherServiceSpec MustGatherServiceStatus)⟩ =
        read ⟨{ metadata with resourceVersion := version },
          (⟨spec, status'⟩ : Observed MustGatherServiceSpec MustGatherServiceStatus)⟩)
    (left right : MustGatherService) (same : SameRequest left right) :
    read left = read right := by
  obtain ⟨metadata, spec⟩ := same
  obtain ⟨leftMetadata, leftBody⟩ := left
  obtain ⟨rightMetadata, rightBody⟩ := right
  obtain ⟨leftSpec, leftStatus⟩ : Observed MustGatherServiceSpec MustGatherServiceStatus := leftBody
  obtain ⟨rightSpec, rightStatus⟩ : Observed MustGatherServiceSpec MustGatherServiceStatus :=
    rightBody
  change rightSpec = leftSpec at spec
  change rightMetadata = { leftMetadata with resourceVersion := _ } at metadata
  rw [spec, metadata]
  exact reads _ _ _ _ _

theorem isStable_healthServiceSteps (surroundings : Surroundings) (workload : MemcachedWorkload) :
    ∀ step ∈ healthServiceSteps surroundings workload, step.IsStable := by
  have deployment : (Step.child .deployment
      (Build.memcachedDeployment · surroundings.images)).IsStable :=
    HealthService.stable fun _ _ _ _ _ => rfl
  have statefulSet : (Step.child .statefulSet
      (Build.memcachedStatefulSet · surroundings.images)).IsStable :=
    HealthService.stable fun _ _ _ _ _ => rfl
  simp only [healthServiceSteps, List.forall_mem_cons, List.not_mem_nil, false_imp_iff,
    implies_true, and_true]
  refine ⟨?_, ?_, ?_, ?_, ?_, ?_, ?_, ?_⟩
  · cases workload
    · exact deployment
    · exact statefulSet
  all_goals exact HealthService.stable fun _ _ _ _ _ => rfl

theorem isStable_mustGatherServiceSteps (surroundings : Surroundings) (defaultClass : String) :
    ∀ step ∈ mustGatherServiceSteps surroundings defaultClass, step.IsStable := by
  simp only [mustGatherServiceSteps, List.forall_mem_cons, List.not_mem_nil, false_imp_iff,
    implies_true, and_true]
  refine ⟨?_, ?_, ?_, ?_, ?_⟩
  all_goals exact MustGatherService.stable fun _ _ _ _ _ => rfl

theorem isStable_gatherJob (surroundings : Surroundings) :
    (Step.child .job (Build.gatherJob · surroundings.images)).IsStable := by
  rintro ⟨leftMetadata, left⟩ ⟨rightMetadata, right⟩ ⟨metadata, spec⟩
  change right = left at spec
  change rightMetadata = { leftMetadata with resourceVersion := _ } at metadata
  rw [spec, metadata]
  rfl

theorem isStable_gatherConfigMap :
    (Step.child .configMap Build.gatherConfigMap).IsStable := by
  rintro ⟨leftMetadata, left⟩ ⟨rightMetadata, right⟩ ⟨metadata, spec⟩
  change right = left at spec
  change rightMetadata = { leftMetadata with resourceVersion := _ } at metadata
  rw [spec, metadata]
  rfl

end Caretaker
