import Caretaker.Kind
import Caretaker.Proofs.Shape.Normal

/-!
# The known shapes are in order

The fields of every record that the API knows are listed in ascending order of their names
(`Shape.isOrdered_child`).  A record is checked once and then counts as checked inside others.
-/

namespace Caretaker

namespace Shape

/-- Texts ascend if their characters do. -/
theorem lt_of_chars {left right : List Char} (below : left < right) :
    String.ofList left < String.ofList right := by
  rw [String.lt_iff, String.toList_ofList, String.toList_ofList]
  exact below

section Fields

variable {name next : String} {presence other : Presence} {shape follower : Shape} {fields : Fields}

theorem areOrdered_singleton :
    areOrdered [(name, presence, shape)] = true ↔ shape.isOrdered = true := by
  simp [areOrdered]

theorem areOrdered_cons_cons :
    areOrdered ((name, presence, shape) :: (next, other, follower) :: fields) = true ↔
      name < next ∧ shape.isOrdered = true ∧
        areOrdered ((next, other, follower) :: fields) = true := by
  simp [areOrdered, and_assoc]

end Fields

/-- The records that are found in many kinds of objects. -/
theorem isOrdered_common :
    managedFields.isOrdered = true ∧ metadata.isOrdered = true ∧ labelSelector.isOrdered = true ∧
      localObject.isOrdered = true ∧ claimSpec.isOrdered = true ∧ claimStatus.isOrdered = true := by
  simp only [managedFields, metadata, ownerReference, labelSelector, localObject, claimSpec,
    claimStatus, condition, List.map_cons, List.map_nil, List.cons_append, List.nil_append,
    isOrdered, areOrdered_cons_cons, areOrdered_singleton, optional, required, texts, and_true,
    true_and, -String.reduceLT]
  and_intros <;> exact lt_of_chars (by decide)

theorem isOrdered_managedFields : managedFields.isOrdered = true := isOrdered_common.1

theorem isOrdered_resourceRequirements : resourceRequirements.isOrdered = true := by
  simp only [resourceRequirements, isOrdered, areOrdered_cons_cons, areOrdered_singleton, optional,
    required, texts, and_true, -String.reduceLT]
  and_intros <;> exact lt_of_chars (by decide)

/-- What says with which privileges a container runs. -/
theorem isOrdered_privileges :
    confinementProfile.isOrdered = true ∧ seLinuxOptions.isOrdered = true ∧
      windowsOptions.isOrdered = true ∧ securityContext.isOrdered = true := by
  simp only [confinementProfile, seLinuxOptions, windowsOptions, securityContext, isOrdered,
    areOrdered_cons_cons, areOrdered_singleton, optional, required, and_true, true_and,
    -String.reduceLT]
  and_intros <;> exact lt_of_chars (by decide)

theorem isOrdered_securityContext : securityContext.isOrdered = true := isOrdered_privileges.2.2.2

/-- The other records that containers are made of. -/
theorem isOrdered_parts :
    probe.isOrdered = true ∧ lifecycleHandler.isOrdered = true ∧ fieldSelector.isOrdered = true ∧
      resourceSelector.isOrdered = true ∧ envVar.isOrdered = true ∧ envSource.isOrdered = true ∧
      containerPort.isOrdered = true ∧ volumeMount.isOrdered = true ∧
      containerState.isOrdered = true := by
  simp only [execAction, httpGetAction, tcpSocketAction, probe, lifecycleHandler, keySelector,
    fieldSelector, resourceSelector, envVar, envSource, containerPort, volumeMount, containerState,
    isOrdered, areOrdered_cons_cons, areOrdered_singleton, optional, required, and_true, true_and,
    -String.reduceLT]
  and_intros <;> exact lt_of_chars (by decide)

theorem isOrdered_containers :
    container.isOrdered = true ∧ ephemeralContainer.isOrdered = true ∧
      containerStatus.isOrdered = true := by
  simp only [container, ephemeralContainer, containerWith, containerStatus,
    isOrdered_resourceRequirements, isOrdered_securityContext, isOrdered_parts, List.cons_append,
    List.nil_append, isOrdered, areOrdered_cons_cons, areOrdered_singleton, optional, required,
    texts, and_true, true_and, -String.reduceLT]
  and_intros <;> exact lt_of_chars (by decide)

theorem isOrdered_container : container.isOrdered = true := isOrdered_containers.1

theorem isOrdered_volume : volume.isOrdered = true := by
  simp only [volume, keyToPath, downwardFiles, projection, isOrdered_common, isOrdered_parts,
    isOrdered, areOrdered_cons_cons, areOrdered_singleton, optional, required, texts, and_true,
    true_and, -String.reduceLT]
  and_intros <;> exact lt_of_chars (by decide)

theorem isOrdered_toleration : toleration.isOrdered = true := by
  simp only [toleration, isOrdered, areOrdered_cons_cons, areOrdered_singleton, optional, and_true,
    true_and, -String.reduceLT]
  and_intros <;> exact lt_of_chars (by decide)

/-- What says where a pod may run and with which privileges. -/
theorem isOrdered_placement :
    nodeAffinity.isOrdered = true ∧ podAffinity.isOrdered = true ∧
      spreadConstraint.isOrdered = true ∧ podSecurityContext.isOrdered = true := by
  simp only [nodeAffinity, nodeSelectorTerm, podAffinity, podAffinityTerm, spreadConstraint,
    podSecurityContext, isOrdered_common, isOrdered_privileges, isOrdered, areOrdered_cons_cons,
    areOrdered_singleton, optional, required, and_true, true_and, -String.reduceLT]
  and_intros <;> exact lt_of_chars (by decide)

theorem isOrdered_podSpec : podSpec.isOrdered = true := by
  simp only [podSpec, isOrdered_common, isOrdered_resourceRequirements, isOrdered_containers,
    isOrdered_volume, isOrdered_toleration, isOrdered_placement, isOrdered, areOrdered_cons_cons,
    areOrdered_singleton, optional, required, texts, and_true, true_and, -String.reduceLT]
  and_intros <;> exact lt_of_chars (by decide)

theorem isOrdered_podTemplate : podTemplate.isOrdered = true := by
  simp only [podTemplate, isOrdered_common, isOrdered_podSpec, isOrdered, areOrdered_cons_cons,
    areOrdered_singleton, optional, and_true, -String.reduceLT]
  exact lt_of_chars (by decide)

theorem isOrdered_pod : pod.isOrdered = true := by
  simp only [pod, podStatus, isOrdered_containers, isOrdered_podSpec, isOrdered,
    areOrdered_cons_cons, areOrdered_singleton, optional, required, and_true, true_and,
    -String.reduceLT]
  and_intros <;> exact lt_of_chars (by decide)

theorem isOrdered_child (kind : ChildKind) : kind.shape.isOrdered = true := by
  cases kind
  all_goals
    simp only [ChildKind.shape, deployment, statefulSet, job, podFailurePolicy, service,
      loadBalancer, ingress, ingressBackend, configMap, persistentVolumeClaim, claimTemplate,
      condition, List.map_cons, List.map_nil, List.cons_append, List.nil_append, isOrdered_common,
      isOrdered_podTemplate, isOrdered, areOrdered_cons_cons, areOrdered_singleton, optional,
      required, texts, and_true, true_and, -String.reduceLT]
    and_intros <;> exact lt_of_chars (by decide)

end Shape

end Caretaker
