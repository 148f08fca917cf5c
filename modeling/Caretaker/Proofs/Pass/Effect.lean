import Caretaker.Proofs.Pass.Run

/-!
# The effect of a pass

The children that a pass brings about are built from the parent as it was read (`desiredChildren`).
If no two of them have the same place, each is created, updated or left alone by what was in its
place at the start (`Effects`), and nothing else changes but the status of the parent.
-/

namespace Caretaker

variable {kind : ParentKind}

/-- A child of some kind. -/
abbrev SomeChild : Type := (kind : ChildKind) × Child kind

/-- The place of a child. -/
def SomeChild.key (child : SomeChild) : Key := Key.ofObject child.2

/-- The labels of the pods in a list. -/
def PodList.labels {kind : ParentKind} : PodList kind → Object (.parent kind) → LabelMap
  | memcachedNodes => Build.memcachedLabels
  | healthCheckNodes => Build.healthLabels
  | mustGatherServiceNodes => Build.mustGatherLabels

/-- Every list of pods is reported. -/
theorem report_mem_stepsWith (surroundings : Surroundings) (defaultClass : String)
    (parent : Object (.parent kind)) (list : PodList kind) :
    Step.report list list.labels ∈ stepsWith surroundings defaultClass kind parent := by
  cases list <;> simp [stepsWith, healthServiceSteps, mustGatherServiceSteps, PodList.labels]

/-- The cache of a health service. -/
def desiredCache (surroundings : Surroundings) (parent : HealthService) :
    Except Error SomeChild := do
  match (HealthService.spec parent).memcached.workload with
  | .deployment => return ⟨.deployment, ← Build.memcachedDeployment parent surroundings.images⟩
  | .statefulSet => return ⟨.statefulSet, ← Build.memcachedStatefulSet parent surroundings.images⟩

/-- The children that a pass brings about, in its order; the claim of a must-gather service that
names no class gets the given one. -/
def desiredChildren (surroundings : Surroundings) (defaultClass : String) :
    (kind : ParentKind) → Object (.parent kind) → Except Error (List SomeChild)
  | .healthService, parent => do
    return [
      ← desiredCache surroundings parent,
      ⟨.service, ← Build.memcachedService parent⟩,
      ⟨.configMap, ← Build.healthConfigMap parent surroundings.template⟩,
      ⟨.deployment, ← Build.healthDeployment parent surroundings.images⟩,
      ⟨.service, ← Build.healthService parent⟩,
      ⟨.ingress, ← Build.healthIngress parent⟩]
  | .mustGatherService, parent => do
    return [
      ⟨.persistentVolumeClaim, ← Build.mustGatherClaim parent defaultClass⟩,
      ⟨.deployment, ← Build.mustGatherDeployment parent surroundings.images⟩,
      ⟨.service, ← Build.mustGatherService parent⟩,
      ⟨.ingress, ← Build.mustGatherIngress parent⟩]
  | .mustGatherJob, parent => do return [⟨.job, ← Build.gatherJob parent surroundings.images⟩]
  | .mustGatherConfig, parent => do return [⟨.configMap, ← Build.gatherConfigMap parent⟩]

/-- The children that steps build for a parent. -/
def builtBy (parent : Object (.parent kind)) : List (Step kind) → Except Error (List SomeChild)
  | [] => return []
  | .report .. :: rest => builtBy parent rest
  | .child childKind build :: rest => do
    let child ← build parent
    let children ← builtBy parent rest
    return ⟨childKind, child⟩ :: children

theorem builtBy_stepsWith (surroundings : Surroundings) (defaultClass : String)
    (parent : Object (.parent kind)) :
    builtBy parent (stepsWith surroundings defaultClass kind parent) =
      desiredChildren surroundings defaultClass kind parent := by
  cases kind with
  | healthService =>
    simp only [stepsWith, desiredChildren, desiredCache, healthServiceSteps]
    cases (HealthService.spec parent).memcached.workload <;> simp [builtBy]
  | mustGatherService => simp [stepsWith, mustGatherServiceSteps, builtBy, desiredChildren]
  | mustGatherJob => simp [stepsWith, builtBy, desiredChildren]
  | mustGatherConfig => simp [stepsWith, builtBy, desiredChildren]

/-- What became of desired children between a store before and a store after, with one change for
each: a child that was not there was created under the next uid, one that was there was updated if
its kind allows that, and any other one stayed.  The numbers count the uids assigned before and
after. -/
inductive Effects (owner : OwnerReference) (before after : MemoryStore) :
    Nat → List SomeChild → List Change → Nat → Prop where
  | nil {assigned : Nat} : Effects owner before after assigned [] [] assigned
  | created {assigned final : Nat} {childKind : ChildKind} {desired child : Child childKind}
    {children : List SomeChild} {changes : List Change}
    (absent : before.document? (Key.ofObject desired) = none)
    (owned : desired.attachOwner owner = .ok child)
    (stored : after.document? (Key.ofObject desired) =
      some (child.numbered ("uid-" ++ toString (assigned + 1))).encode)
    (rest : Effects owner before after (assigned + 1) children changes final) :
    Effects owner before after assigned (⟨childKind, desired⟩ :: children)
      (⟨.created, childKind, desired.nameD⟩ :: changes) final
  | updated {assigned final : Nat} {childKind : ChildKind} {desired live child : Child childKind}
    {children : List SomeChild} {changes : List Change}
    (isMutable : childKind.isCreateOnly = false)
    (found : before.document? (Key.ofObject desired) = some live.encode)
    (replaced : replacement owner live desired = .ok child) (keeps : Keeps live child)
    (stored : after.document? (Key.ofObject desired) = some child.bumped.encode)
    (rest : Effects owner before after assigned children changes final) :
    Effects owner before after assigned (⟨childKind, desired⟩ :: children)
      (⟨.updated, childKind, desired.nameD⟩ :: changes) final
  | unchanged {assigned final : Nat} {childKind : ChildKind} {desired live : Child childKind}
    {children : List SomeChild} {changes : List Change}
    (createOnly : childKind.isCreateOnly = true)
    (found : before.document? (Key.ofObject desired) = some live.encode)
    (stored : after.document? (Key.ofObject desired) = some live.encode)
    (rest : Effects owner before after assigned children changes final) :
    Effects owner before after assigned (⟨childKind, desired⟩ :: children)
      (⟨.unchanged, childKind, desired.nameD⟩ :: changes) final

theorem builtBy_child_eq_ok {childKind : ChildKind} {parent : Object (.parent kind)}
    {build : Object (.parent kind) → Except Error (Child childKind)} {steps : List (Step kind)}
    {children : List SomeChild} :
    builtBy parent (.child childKind build :: steps) = .ok children ↔
      ∃ child others, build parent = .ok child ∧ builtBy parent steps = .ok others ∧
        children = ⟨childKind, child⟩ :: others := by
  simp only [builtBy, Build.bind_eq_ok]
  constructor
  · rintro ⟨child, built, others, rest, ⟨⟩⟩
    exact ⟨child, others, built, rest, rfl⟩
  · rintro ⟨child, others, built, rest, rfl⟩
    exact ⟨child, built, others, rest, rfl⟩

/-- The store at the start counts only for the places of the children. -/
theorem Effects.of_before {owner : OwnerReference} {before between after : MemoryStore}
    {assigned final : Nat} {children : List SomeChild} {changes : List Change}
    (effects : Effects owner between after assigned children changes final)
    (same : ∀ child ∈ children, between.document? child.key = before.document? child.key) :
    Effects owner before after assigned children changes final := by
  induction effects with
  | nil => exact .nil
  | created absent owned stored _ ih =>
    obtain ⟨here, later⟩ := List.forall_mem_cons.mp same
    exact .created (here.symm.trans absent) owned stored (ih later)
  | updated isMutable found replaced keeps stored _ ih =>
    obtain ⟨here, later⟩ := List.forall_mem_cons.mp same
    exact .updated isMutable (here.symm.trans found) replaced keeps stored (ih later)
  | unchanged createOnly found stored _ ih =>
    obtain ⟨here, later⟩ := List.forall_mem_cons.mp same
    exact .unchanged createOnly (here.symm.trans found) stored (ih later)

/-- What became of the first of desired children. -/
theorem Effects.cons {owner : OwnerReference} {before after : MemoryStore} {childKind : ChildKind}
    {desired : Child childKind} {became : Converged childKind} {childNs childName : String}
    {final : Nat} {children : List SomeChild} {changes : List Change}
    (wellFormed : before.WellFormed) (nsGiven : desired.metadata.ns = some childNs)
    (nameGiven : desired.metadata.name = some childName)
    (result : converged owner desired before.nextUid
      (before.object? (.child childKind) childNs childName) = .ok became)
    (stored : after.document? (Key.ofObject desired) = some became.object.encode)
    (rest : Effects owner before after (before.assigned + became.outcome.assigns) children changes
      final) :
    Effects owner before after before.assigned (⟨childKind, desired⟩ :: children)
      (became.change :: changes) final := by
  have key : Key.ofObject desired = ⟨.child childKind, childNs, childName⟩ :=
    Object.key_of_some nsGiven nameGiven
  have isStored := isStored_of_converged nsGiven nameGiven
    (fun _ => MemoryStore.isStored_of_object? wellFormed) result
  have change : became.change = ⟨became.outcome, childKind, desired.nameD⟩ := by
    rw [Converged.change, isStored.name, Object.nameD, nameGiven, Option.getD_some]
  rw [change]
  cases found : before.object? (.child childKind) childNs childName with
  | none =>
    rw [found] at result
    obtain ⟨child, owned, rfl⟩ := converged_none_eq_ok.mp result
    have absent := (MemoryStore.object?_eq_none_iff wellFormed).mp found
    exact .created (key ▸ absent) owned stored rest
  | some live =>
    rw [found] at result
    have there := (MemoryStore.object?_eq_some_iff wellFormed).mp found
    rcases converged_some_eq_ok.mp result with
      ⟨createOnly, rfl⟩ | ⟨isMutable, child, replaced, -, rfl⟩
    · exact .unchanged createOnly (key ▸ there) stored rest
    · exact .updated isMutable (key ▸ there) replaced (keeps_of_replacement replaced) stored rest

namespace Performed

variable {owner : OwnerReference} {base parent last : Object (.parent kind)} {ns name : String}
  {steps : List (Step kind)} {store after : MemoryStore} {changes : List Change}
  {children : List SomeChild}

theorem exists_builtBy
    (performed : Performed owner base ns name steps parent store changes last after) :
    ∃ children, builtBy base steps = .ok children := by
  induction performed with
  | nil => exact ⟨[], rfl⟩
  | child built _ _ _ _ ih =>
    obtain ⟨others, rest⟩ := ih
    exact ⟨_, builtBy_child_eq_ok.mpr ⟨_, others, built, rest, rfl⟩⟩
  | report _ ih => exact ih

/-- Steps write the children that they build, and the parent. -/
theorem document?_of_not_mem
    (performed : Performed owner base ns name steps parent store changes last after)
    (before : Underway store parent ns name) (built : builtBy base steps = .ok children)
    {key : Key} (notParent : key ≠ ⟨.parent kind, ns, name⟩)
    (notChild : key ∉ children.map SomeChild.key) :
    after.document? key = store.document? key := by
  induction performed generalizing children with
  | nil => rfl
  | child builtHere nsGiven nameGiven result _ ih =>
    obtain ⟨desired, others, same, rest, rfl⟩ := builtBy_child_eq_ok.mp built
    cases builtHere.symm.trans same
    obtain ⟨notHere, notLater⟩ := not_or.mp (mt List.mem_cons.mpr notChild)
    refine (ih (before.leave nsGiven nameGiven result) rest notLater).trans ?_
    refine (MemoryStore.document?_put _ _ _ _ _).trans (if_neg fun here => notHere ?_)
    exact here.trans (Object.key_of_some nsGiven nameGiven).symm
  | report _ ih =>
    refine (ih (before.report _ _) built notChild).trans ?_
    rw [MemoryStore.document?, before.objects_leave]
    exact (MemoryStore.document?_put _ _ _ _ _).trans (if_neg notParent)

/-- If no two children have the same place, each becomes what its place at the start calls for. -/
theorem effects (performed : Performed owner base ns name steps parent store changes last after)
    (before : Underway store parent ns name) (built : builtBy base steps = .ok children)
    (apart : (children.map SomeChild.key).Nodup) :
    Effects owner store after store.assigned children changes after.assigned := by
  induction performed generalizing children with
  | nil =>
    cases built
    exact .nil
  | @child childKind build steps inHand _ between after desired childNs childName became changes
      builtHere nsGiven nameGiven result later ih =>
    obtain ⟨_, others, same, rest, rfl⟩ := builtBy_child_eq_ok.mp built
    cases builtHere.symm.trans same
    obtain ⟨notLater, apart⟩ : Key.ofObject desired ∉ others.map SomeChild.key ∧ _ :=
      List.nodup_cons.mp apart
    have key : Key.ofObject desired = ⟨.child childKind, childNs, childName⟩ :=
      Object.key_of_some nsGiven nameGiven
    have next := before.leave nsGiven nameGiven result
    have stored : after.document? (Key.ofObject desired) = some became.object.encode := by
      rw [later.document?_of_not_mem next rest (by simp [key]) notLater, key]
      exact (MemoryStore.document?_put _ _ _ _ _).trans (if_pos rfl)
    have effects : Effects owner between after (became.leave between childNs childName).assigned
        others changes after.assigned := by
      apply (ih next rest apart).of_before
      intro child member
      refine (MemoryStore.document?_put _ _ _ _ _).trans (if_neg fun here => notLater ?_)
      rw [key, ← here]
      exact List.mem_map_of_mem member
    exact effects.cons before.wellFormed nsGiven nameGiven result stored
  | @report list labels _ inHand _ store _ _ _ ih =>
    have effects := ih (before.report _ _) built apart
    rw [PodList.assigned_leave] at effects
    apply effects.of_before
    intro child _
    rw [MemoryStore.document?, before.objects_leave]
    refine (MemoryStore.document?_put _ _ _ _ _).trans (if_neg fun here => ?_)
    cases congrArg Key.kind here

end Performed

/-- The children of a parent other than a health service are of different kinds. -/
theorem nodup_key_desiredChildren {surroundings : Surroundings} {defaultClass : String}
    {parent : Object (.parent kind)} {children : List SomeChild}
    (notHealth : kind ≠ .healthService)
    (built : desiredChildren surroundings defaultClass kind parent = .ok children) :
    (children.map SomeChild.key).Nodup := by
  have differ (left right : SomeChild) (kinds : left.1 ≠ right.1) : left.key ≠ right.key :=
    fun same => kinds (Kind.child.inj (congrArg Key.kind same))
  cases kind with
  | healthService => exact absurd rfl notHealth
  | mustGatherService =>
    simp only [desiredChildren, Build.bind_eq_ok] at built
    obtain ⟨claim, -, deployment, -, service, -, ingress, -, ⟨⟩⟩ := built
    simp [differ]
  | mustGatherJob =>
    simp only [desiredChildren, Build.bind_eq_ok] at built
    obtain ⟨job, -, ⟨⟩⟩ := built
    simp
  | mustGatherConfig =>
    simp only [desiredChildren, Build.bind_eq_ok] at built
    obtain ⟨configMap, -, ⟨⟩⟩ := built
    simp

namespace MemoryStore

variable {store after : MemoryStore} {parent : Object (.parent kind)} {ns name : String}
  {changes : List Change}

/-- A pass that succeeds makes of each child what its place at the start calls for, gives the status
of the parent the names of its pods, and touches nothing else. -/
theorem run_pass_effects (reachable : store.Reachable) (quiet : store.Quiet)
    (surroundings : Surroundings) (found : store.object? (.parent kind) ns name = some parent)
    (apart : kind = .healthService → ∀ children,
      desiredChildren surroundings (store.classFor ns kind parent) kind parent = .ok children →
      (children.map SomeChild.key).Nodup)
    (ran : store.run (pass surroundings kind ns name) = (.ok changes, after)) :
    ∃ owner children last,
      parent.controllerReference = .ok owner ∧
      desiredChildren surroundings (store.classFor ns kind parent) kind parent = .ok children ∧
      Effects owner store after store.assigned children changes after.assigned ∧
      after.document? ⟨.parent kind, ns, name⟩ = some last.encode ∧ SameRequest parent last ∧
      (∀ list : PodList kind, list.names last = podNames (store.pods ns (list.labels parent))) ∧
      ∀ key, key ≠ ⟨.parent kind, ns, name⟩ → key ∉ children.map SomeChild.key →
        after.document? key = store.document? key := by
  obtain ⟨underway, owner, owns⟩ := underway_of_run_pass quiet reachable.wellFormed found ran
  obtain ⟨between, began, succeeds⟩ := run_pass_eq_ok underway owns surroundings
  obtain ⟨last, performed⟩ := (succeeds changes after).mp ran
  have before := began.underway_between
  obtain ⟨children, built⟩ := performed.exists_builtBy
  have desired : desiredChildren surroundings (store.classFor ns kind parent) kind parent =
      .ok children := (builtBy_stepsWith _ _ _).symm.trans built
  have distinct : (children.map SomeChild.key).Nodup := by
    by_cases health : kind = .healthService
    · exact apart health children desired
    · exact nodup_key_desiredChildren health desired
  have untouched (key : Key) : between.document? key = store.document? key := by
    obtain ⟨calls, rfl, -⟩ := began.reads
    rfl
  have effects := performed.effects before built distinct
  rw [← began.alike.assigned] at effects
  refine ⟨owner, children, last, owns, desired, effects.of_before fun child _ => untouched _,
    (performed.underway before).stored, performed.sameRequest, fun list => ?_,
    fun key notParent notChild => ?_⟩
  · rw [began.alike.pods]
    exact performed.names_of_mem before (nodup_reportedLists_stepsWith _ _ _)
      (report_mem_stepsWith surroundings _ parent list)
  · exact (performed.document?_of_not_mem before built notParent notChild).trans (untouched key)

/-- The pass over a health service whose children have places of their own. -/
theorem run_pass_effects_of_two_names :
    ∃ changes after owner children, ∃ last : HealthService,
      (sampleStore "cache" "check").run samplePass = (.ok changes, after) ∧
      Effects owner (sampleStore "cache" "check") after 2 children changes after.assigned ∧
      after.document? ⟨.parent .healthService, "kube-system", "sample"⟩ = some last.encode := by
  have distinct : ((sampleStore "cache" "check").object? (.parent .healthService) "kube-system"
      "sample").any (fun parent =>
        match desiredChildren sampleSurroundings "" .healthService parent with
        | .ok children => decide (children.map SomeChild.key).Nodup
        | .error _ => true) = true := by
    decide +kernel
  obtain ⟨parent, found, apart⟩ := (Option.any_eq_true _ _).mp distinct
  obtain ⟨changes, after, ran⟩ := exists_run_samplePass
  have nodup (children : List SomeChild)
      (built : desiredChildren sampleSurroundings "" .healthService parent = .ok children) :
      (children.map SomeChild.key).Nodup := by
    rw [built] at apart
    exact of_decide_eq_true apart
  obtain ⟨owner, children, last, -, -, effects, stored, -⟩ :=
    run_pass_effects (reachable_sampleStore _ _) rfl _ found (fun _ => nodup) ran
  exact ⟨changes, after, owner, children, last, ran, effects, stored⟩

end MemoryStore

end Caretaker
