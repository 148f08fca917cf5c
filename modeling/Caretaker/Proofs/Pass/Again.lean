import Caretaker.Proofs.Pass.Run

/-!
# Steps that are performed again

Once the first steps of a pass were performed, performing them again settles on what they left
(`Performed.again`), although the claim of a must-gather service may now be built for another class:
a claim that is there stays as it is.
-/

namespace Caretaker

variable {kind : ParentKind}

/-- What is performed for a parent is performed for every parent that asks for the same. -/
theorem Performed.of_sameRequest {owner : OwnerReference}
    {base other parent last : Object (.parent kind)} {ns name : String} {steps : List (Step kind)}
    {store after : MemoryStore} {changes : List Change}
    (performed : Performed owner base ns name steps parent store changes last after)
    (same : SameRequest base other) (stable : ∀ step ∈ steps, step.IsStable) :
    Performed owner other ns name steps parent store changes last after := by
  induction performed with
  | nil => exact .nil
  | child built nsGiven nameGiven result _ ih =>
    have sameBuilt := stable _ List.mem_cons_self base other same
    exact .child (sameBuilt.symm.trans built) nsGiven nameGiven result
      (ih fun step member => stable step (List.mem_cons_of_mem _ member))
  | report _ ih =>
    have sameLabels := stable _ List.mem_cons_self base other same
    have later := ih fun step member => stable step (List.mem_cons_of_mem _ member)
    rw [sameLabels] at later
    exact .report later

namespace Settles

variable {owner : OwnerReference} {base parent : Object (.parent kind)} {ns : String}
  {target : (childKind : ChildKind) → String → String → Option (Child childKind)}
  {steps : List (Step kind)} {store : MemoryStore}

/-- A child of a kind that is only created may be built in another way. -/
theorem rebuild {stepKind : ChildKind}
    {build other : Object (.parent kind) → Except Error (Child stepKind)}
    (settles : Settles owner base ns target (.child stepKind build :: steps) parent store)
    (createOnly : stepKind.isCreateOnly = true)
    (builds : ∀ desired, build base = .ok desired →
      ∃ otherDesired, other base = .ok otherDesired ∧
        otherDesired.metadata = desired.metadata) :
    Settles owner base ns target (.child stepKind other :: steps) parent store := by
  have later (childKind : ChildKind) (childNs childName : String)
      (isMutable : childKind.isCreateOnly = false)
      (builder : Object (.parent kind) → Except Error (Child stepKind)) :
      desiredAt base childKind childNs childName (.child stepKind builder :: steps) =
        desiredAt base childKind childNs childName steps := by
    have apart : stepKind ≠ childKind := by
      rintro rfl
      rw [createOnly] at isMutable
      cases isMutable
    have elsewhere :
        Step.desired? base childKind childNs childName (.child stepKind builder) = none := by
      rw [Step.desired?]
      cases builder base <;> simp [apart]
    rw [desiredAt, List.filterMap_cons, elsewhere]
    rfl
  refine ⟨?_, ?_, ?_, ?_⟩
  · intro childKind builder member
    rcases List.mem_cons.mp member with here | there
    · cases here
      obtain ⟨desired, childName, built, nsGiven, nameGiven, present⟩ :=
        settles.present stepKind build List.mem_cons_self
      obtain ⟨otherDesired, otherBuilt, metadata⟩ := builds desired built
      exact ⟨otherDesired, childName, otherBuilt, metadata ▸ nsGiven, metadata ▸ nameGiven, present⟩
    · exact settles.present childKind builder (List.mem_cons_of_mem _ there)
  · intro childKind childNs childName isMutable
    have own := settles.replaced childKind childNs childName isMutable
    rwa [later childKind childNs childName isMutable] at own ⊢
  · intro childKind childNs childName none
    have own := settles.kept childKind childNs childName
    cases onlyCreated : childKind.isCreateOnly with
    | true => exact own (Or.inl onlyCreated)
    | false =>
      rw [later childKind childNs childName onlyCreated] at own none
      exact own none
  · intro list labels member
    rcases List.mem_cons.mp member with here | there
    · cases here
    · exact settles.reported list labels (List.mem_cons_of_mem _ there)

end Settles

/-- The first steps of a pass, made for another class, are settled wherever they are settled for the
given one. -/
theorem Settles.exists_stepsWith {owner : OwnerReference} {base parent : Object (.parent kind)}
    {ns : String} {target : (childKind : ChildKind) → String → String → Option (Child childKind)}
    {first later : List (Step kind)} {store : MemoryStore} {surroundings : Surroundings}
    {defaultClass : String}
    (settles : Settles owner base ns target first parent store) (notEmpty : first ≠ [])
    (split : stepsWith surroundings defaultClass kind base = first ++ later)
    (otherClass : String) :
    ∃ otherFirst, stepsWith surroundings otherClass kind base = otherFirst ++ later ∧
      Settles owner base ns target otherFirst parent store := by
  cases kind with
  | mustGatherService =>
    cases first with
    | nil => exact absurd rfl notEmpty
    | cons head rest =>
      obtain ⟨rfl, tail⟩ := List.cons.inj (split : mustGatherServiceSteps _ _ = head :: (rest ++ later))
      refine ⟨.child .persistentVolumeClaim (Build.mustGatherClaim · otherClass) :: rest, ?_,
        settles.rebuild rfl fun claim built => Build.metadata_mustGatherClaim built otherClass⟩
      exact congrArg (List.cons _) tail
  | healthService => exact ⟨first, split, settles⟩
  | mustGatherJob => exact ⟨first, split, settles⟩
  | mustGatherConfig => exact ⟨first, split, settles⟩

/-- The first steps of a pass that were performed can be performed again, for whatever class, over
every store that is like the one that they left; they at most refresh children. -/
theorem Performed.again {owner : OwnerReference} {base parent last : Object (.parent kind)}
    {ns name : String} {first later : List (Step kind)} {store after other : MemoryStore}
    {changes : List Change} {surroundings : Surroundings} {defaultClass : String}
    (performed : Performed owner base ns name first parent store changes last after)
    (before : Underway store parent ns name) (given : base.metadata.ns = some ns)
    (notEmpty : first ≠ [])
    (split : stepsWith surroundings defaultClass kind base = first ++ later)
    (alike : MemoryStore.Alike after other) (underway : Underway other last ns name)
    (otherClass : String) :
    ∃ otherFirst otherChanges final,
      stepsWith surroundings otherClass kind base = otherFirst ++ later ∧
      Performed owner base ns name otherFirst last other otherChanges last final ∧
      MemoryStore.Alike other final ∧ Refreshed ns other final otherChanges := by
  have once : (reportedLists first).Nodup := by
    have all := nodup_reportedLists_stepsWith surroundings defaultClass base
    rw [split, reportedLists, List.filterMap_append] at all
    exact (List.nodup_append.mp all).1
  have placed : ∀ step ∈ first, step.IsPlaced := fun step member =>
    isPlaced_stepsWith surroundings defaultClass base step
      (split ▸ List.mem_append_left later member)
  obtain ⟨otherFirst, otherSplit, settles⟩ :=
    (performed.settles before once placed given alike).exists_stepsWith notEmpty split otherClass
  obtain ⟨otherChanges, final, otherPerformed, children, refreshed⟩ := settles.performed underway
  have finalAlike : MemoryStore.Alike other final :=
    ⟨fun childKind childNs childName => (children childKind childNs childName).symm,
      fun key notChild => (refreshed.others notChild).symm, refreshed.assigned.symm⟩
  exact ⟨otherFirst, otherChanges, final, otherSplit, otherPerformed, finalAlike, refreshed⟩

namespace Began

variable {surroundings : Surroundings} {store between : MemoryStore}
  {parent : Object (.parent kind)} {owner : OwnerReference} {ns name : String}

theorem refreshed (began : Began surroundings store parent owner ns name between) :
    Refreshed ns store between [] := by
  obtain ⟨calls, rfl, reads⟩ := began.reads
  refine ⟨fun _ => Or.inl rfl, rfl, ⟨calls, rfl, fun call member => ?_⟩, nofun⟩
  have reads := reads call member
  constructor
  · intro create
    rw [create] at reads
    cases reads
  · intro updateStatus
    rw [updateStatus] at reads
    cases reads

end Began

namespace MemoryStore

variable {store after : MemoryStore} {ns name : String} {changes : List Change}

/-- A pass that succeeded succeeds again at once, and at most refreshes children. -/
theorem exists_run_pass_again (quiet : store.Quiet) (wellFormed : store.WellFormed)
    {surroundings : Surroundings}
    (ran : store.run (pass surroundings kind ns name) = (.ok changes, after)) :
    ∃ changesAgain final,
      after.run (pass surroundings kind ns name) = (.ok changesAgain, final) ∧
        Alike after final ∧ Refreshed ns after final changesAgain := by
  cases found : store.object? (.parent kind) ns name with
  | none =>
    rw [run_pass_of_none quiet wellFormed surroundings found] at ran
    cases ran
    have quietAfter : (store.called .get (.parent kind) name).Quiet := quiet
    have wellFormedAfter : (store.called .get (.parent kind) name).WellFormed := wellFormed
    have gone : (store.called .get (.parent kind) name).object? (.parent kind) ns name = none :=
      found
    refine ⟨[], _, run_pass_of_none quietAfter wellFormedAfter surroundings gone,
      .of_objects rfl rfl, ?_⟩
    have reads : Verb.get ≠ .create ∧ Verb.get ≠ .updateStatus := by simp
    exact .called ns _ reads (.parent kind) name
  | some parent =>
    obtain ⟨underway, owner, owns⟩ := underway_of_run_pass quiet wellFormed found ran
    obtain ⟨between, began, succeeds⟩ := run_pass_eq_ok underway owns surroundings
    obtain ⟨last, performed⟩ := (succeeds changes after).mp ran
    have before := began.underway_between
    have same := performed.sameRequest
    have underwayAfter := performed.underway before
    have ownsAfter := same.controllerReference_eq.trans owns
    obtain ⟨betweenAgain, beganAgain, succeedsAgain⟩ :=
      run_pass_eq_ok underwayAfter ownsAfter surroundings
    obtain ⟨childKind, build, rest, first⟩ := exists_stepsWith_eq_child surroundings
      (store.classFor ns kind parent) parent
    obtain ⟨steps, changesAgain, final, split, performedAgain, alike, refreshed⟩ :=
      performed.again before underway.nsGiven (by rw [first]; exact List.cons_ne_nil _ _)
        (List.append_nil _).symm beganAgain.alike beganAgain.underway_between
        (after.classFor ns kind last)
    rw [List.append_nil] at split
    have stepsAgain : stepsWith surroundings (after.classFor ns kind last) kind last = steps :=
      (stepsWith_congr same _ _).trans split
    have stable := isStable_stepsWith surroundings (after.classFor ns kind last) last
    rw [stepsAgain] at stable
    refine ⟨changesAgain, final, (succeedsAgain changesAgain final).mpr ⟨last, ?_⟩,
      beganAgain.alike.trans alike, ?_⟩
    · rw [stepsAgain]
      exact performedAgain.of_sameRequest same stable
    · exact beganAgain.refreshed.trans refreshed

/-- A pass is idempotent: over the store that it left it succeeds again, creates nothing, writes no
status, and leaves every document as it is but for the versions of the children that it updates. -/
theorem run_pass_idempotent (reachable : store.Reachable) (quiet : store.Quiet)
    (surroundings : Surroundings) (kind : ParentKind) (ns name : String)
    (ran : store.run (pass surroundings kind ns name) = (.ok changes, after)) :
    ∃ changesAgain calls final,
      after.run (pass surroundings kind ns name) = (.ok changesAgain, final) ∧
      final.calls = after.calls ++ calls ∧
      (∀ call ∈ calls, call.verb ≠ .create ∧ call.verb ≠ .updateStatus) ∧
      (∀ change ∈ changesAgain, change.outcome = .updated ∨ change.outcome = .unchanged) ∧
      ∀ key, final.document? key = after.document? key ∨
        ∃ change ∈ changesAgain, change.outcome = .updated ∧
          key = ⟨.child change.kind, ns, change.name⟩ ∧
          ∃ (child : Child change.kind) (version : Option String),
            after.document? key = some child.encode ∧
            final.document? key = some (child.withVersion version).encode := by
  obtain ⟨changesAgain, final, ranAgain, alike, refreshed⟩ :=
    exists_run_pass_again quiet reachable.wellFormed ran
  obtain ⟨calls, same, gentle⟩ := refreshed.calls
  refine ⟨changesAgain, calls, final, ranAgain, same, gentle, ?_, ?_⟩
  · intro change member
    have notCreated := refreshed.outcomes change member
    cases outcome : change.outcome with
    | created => exact absurd outcome notCreated
    | updated => exact Or.inl rfl
    | unchanged => exact Or.inr rfl
  · intro key
    rcases refreshed.rewritten key with kept | ⟨change, member, updated, rfl⟩
    · exact Or.inl kept
    · have wellFormedAfter : after.WellFormed := by
        have left := reachable.wellFormed.run (pass surroundings kind ns name)
        rwa [ran] at left
      have wellFormedFinal : final.WellFormed := by
        have left := wellFormedAfter.run (pass surroundings kind ns name)
        rwa [ranAgain] at left
      rcases alike.document?_child wellFormedAfter wellFormedFinal change.kind ns change.name with
        kept | versions
      · exact Or.inl kept
      · exact Or.inr ⟨change, member, updated, rfl, versions⟩

/-- The pass settles even where two steps want the same deployment. -/
theorem run_pass_idempotent_of_one_name :
    ∃ changes after changesAgain final,
      (sampleStore "operand" "operand").run samplePass = (.ok changes, after) ∧
      after.run samplePass = (.ok changesAgain, final) := by
  obtain ⟨changes, after, ran⟩ :=
    exists_run_eq_ok (sampleStore "operand" "operand") samplePass (by decide +kernel)
  obtain ⟨changesAgain, calls, final, ranAgain, -⟩ :=
    run_pass_idempotent (reachable_sampleStore _ _) rfl _ _ _ _ ran
  exact ⟨changes, after, changesAgain, final, ran, ranAgain⟩

end MemoryStore

end Caretaker
