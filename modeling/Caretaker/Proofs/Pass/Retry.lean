import Caretaker.Proofs.Partial
import Caretaker.Proofs.Pass.Again

/-!
# Passes that were interrupted

Every error but that nothing was found ends a pass (`propagates_pass`).  Whatever a pass leaves when
it is interrupted has the content that some of its first steps leave, from which the others lead on
to the end (`Halfway`).  So a pass that is retried settles on what was done and does the rest.
-/

namespace Caretaker

section Propagation

open Program

theorem propagates_updateChild {kind : ChildKind} (owner : OwnerReference)
    (live desired : Child kind) : (updateChild owner live desired).Propagates := by
  unfold updateChild
  split
  · exact propagates_pure _
  · apply (propagates_ofExcept _).bind
    intro child
    exact (propagates_perform _).bind fun stored => propagates_pure _

theorem propagates_converge {kind : ChildKind} (owner : OwnerReference) (desired : Child kind) :
    (converge owner desired).Propagates := by
  apply (propagates_ofExcept _).bind
  intro key
  apply propagates_attempt (fun _ other => fails_unless_missing other)
  intro answer
  cases answer with
  | ok live => exact propagates_updateChild owner live desired
  | error error =>
    refine propagates_unless_missing ?_ error
    apply (propagates_ofExcept _).bind
    intro child
    exact (propagates_perform _).bind fun stored => propagates_pure _

theorem propagates_reportPods {kind : ParentKind} (list : PodList kind) (labels : LabelMap)
    (parent : Object (.parent kind)) : (reportPods list labels parent).Propagates := by
  unfold reportPods
  split
  · trivial
  · apply (propagates_perform _).bind
    intro pods
    dsimp only
    split
    · exact propagates_pure _
    · exact (propagates_perform _).bind fun stored => propagates_pure _

variable {kind : ParentKind}

theorem propagates_performSteps (owner : OwnerReference) (steps : List (Step kind))
    (parent : Object (.parent kind)) : (performSteps owner steps parent).Propagates := by
  induction steps generalizing parent with
  | nil => exact propagates_pure _
  | cons step rest ih =>
    cases step with
    | child childKind build =>
      apply (propagates_ofExcept _).bind
      intro desired
      apply (propagates_converge owner desired).bind
      intro became
      exact (ih parent).bind fun changes => propagates_pure _
    | report list labels =>
      exact (propagates_reportPods list _ parent).bind fun reported => ih reported.parent

theorem propagates_steps (surroundings : Surroundings) (ns : String)
    (parent : Object (.parent kind)) : (steps surroundings ns kind parent).Propagates := by
  cases kind with
  | mustGatherService =>
    refine Propagates.bind ?_ fun defaultClass => propagates_pure _
    simp only [classForClaim]
    split
    · exact propagates_pure _
    split
    · exact propagates_pure _
    · apply propagates_attempt (fun _ other => fails_unless_missing other)
      intro answer
      cases answer with
      | ok claim => exact propagates_pure _
      | error error =>
        refine propagates_unless_missing ?_ error
        exact (propagates_perform _).bind fun classes => propagates_pure _
  | healthService => exact propagates_pure _
  | mustGatherJob => exact propagates_pure _
  | mustGatherConfig => exact propagates_pure _

/-- Every error but that nothing was found ends a pass. -/
theorem propagates_pass (surroundings : Surroundings) (kind : ParentKind) (ns name : String) :
    (pass surroundings kind ns name).Propagates := by
  have fetch : (fetchParent kind ns name).Propagates := by
    apply propagates_attempt (fun _ other => fails_unless_missing other)
    intro answer
    cases answer with
    | ok parent => exact propagates_pure _
    | error error => exact propagates_unless_missing (propagates_pure _) error
  apply fetch.bind
  intro found
  cases found with
  | none => exact propagates_pure _
  | some parent =>
    apply (propagates_ofExcept _).bind
    intro owner
    exact (propagates_steps surroundings ns parent).bind fun steps =>
      propagates_performSteps owner steps parent

end Propagation

variable {kind : ParentKind}

/-- Whether a store has the content that some first steps leave, from which the later ones lead to
the end. -/
def Halfway (owner : OwnerReference) (base : Object (.parent kind)) (ns name : String)
    (steps : List (Step kind)) (parent : Object (.parent kind)) (store : MemoryStore)
    (last : Object (.parent kind)) (after left : MemoryStore) : Prop :=
  ∃ first later changes laterChanges middle between, steps = first ++ later ∧
    Performed owner base ns name first parent store changes middle between ∧
    Performed owner base ns name later middle between laterChanges last after ∧
    MemoryStore.SameContent between left

section Halfway

variable {owner : OwnerReference} {base parent middle last : Object (.parent kind)}
  {ns name : String} {steps : List (Step kind)} {store between after left : MemoryStore}
  {changes : List Change}

theorem Performed.halfway_start
    (performed : Performed owner base ns name steps parent store changes last after)
    (same : MemoryStore.SameContent store left) :
    Halfway owner base ns name steps parent store last after left :=
  ⟨[], steps, [], changes, parent, store, rfl, .nil, performed, same⟩

theorem Halfway.cons {step : Step kind}
    (halfway : Halfway owner base ns name steps middle between last after left)
    (single : Performed owner base ns name [step] parent store changes middle between) :
    Halfway owner base ns name (step :: steps) parent store last after left := by
  obtain ⟨first, later, firstChanges, laterChanges, inHand, mid, rfl, done, rest, same⟩ := halfway
  exact ⟨step :: first, later, changes ++ firstChanges, laterChanges, inHand, mid, rfl,
    single.append done, rest, same⟩

/-- However far steps that succeed are performed, they leave the content of some first steps. -/
theorem Performed.throughout
    (performed : Performed owner base ns name steps parent store changes last after)
    (before : Underway store parent ns name) (same : SameRequest base parent)
    (stable : ∀ step ∈ steps, step.IsStable) :
    store.Throughout (performSteps owner steps parent)
      (Halfway owner base ns name steps parent store last after) := by
  induction performed with
  | nil => exact .done _ (Performed.nil.halfway_start (.refl _))
  | @child childKind build rest inHand _ store after desired childNs childName became changes built
      nsGiven nameGiven result restPerformed ih =>
    have builtInHand : build inHand = .ok desired :=
      (stable _ List.mem_cons_self base inHand same).symm.trans built
    have whole : Performed owner base ns name (.child childKind build :: rest) inHand store _ _ _ :=
      .child built nsGiven nameGiven result restPerformed
    have single : Performed owner base ns name [.child childKind build] inHand store _ _ _ :=
      .child built nsGiven nameGiven result .nil
    have converged : store.run (converge owner desired) =
        (.ok became, became.leave store childNs childName) :=
      (MemoryStore.run_converge_eq_ok before.quiet before.wellFormed).mpr
        ⟨childNs, childName, nsGiven, nameGiven, result, rfl⟩
    have later := ih (before.leave nsGiven nameGiven result) same fun step member =>
      stable step (List.mem_cons_of_mem _ member)
    rw [performSteps, builtInHand]
    show store.Throughout (converge owner desired >>= _) _
    refine ((MemoryStore.writesOnce_converge store owner desired).mono fun left written => ?_).bind
      fun value between ran => ?_
    · rw [converged] at written
      rcases written with unwritten | written
      · exact whole.halfway_start unwritten
      · exact (restPerformed.halfway_start written).cons single
    · cases converged.symm.trans ran
      exact (later.mono fun left halfway => halfway.cons single).map _
  | @report list labels rest inHand _ store after changes restPerformed ih =>
    have sameLabels : labels base = labels inHand := stable _ List.mem_cons_self base inHand same
    have whole : Performed owner base ns name (.report list labels :: rest) inHand store _ _ _ :=
      .report restPerformed
    have single : Performed owner base ns name [.report list labels] inHand store [] _ _ :=
      .report .nil
    obtain ⟨wrote, reported⟩ := MemoryStore.run_reportPods_eq before list (labels base)
    have later := ih (before.report list (labels base))
      (same.trans (SameRequest.reported list _ inHand)) fun step member =>
        stable step (List.mem_cons_of_mem _ member)
    rw [performSteps, ← sameLabels]
    refine ((MemoryStore.writesOnce_reportPods store list (labels base) inHand).mono
      fun left written => ?_).bind fun value between ran => ?_
    · rw [reported] at written
      rcases written with unwritten | written
      · exact whole.halfway_start unwritten
      · exact (restPerformed.halfway_start written).cons single
    · cases reported.symm.trans ran
      exact later.mono fun left halfway => halfway.cons single

end Halfway

namespace MemoryStore

theorem throughout_fetchParent (store : MemoryStore) (kind : ParentKind) (ns name : String) :
    store.Throughout (fetchParent kind ns name) (SameContent store) := by
  have reads := store.sameContent_get (.parent kind) ns name
  refine .ask (.refl store) ?_
  cases (store.answer (.get (.parent kind) ns name)).1 with
  | ok parent => exact .done _ reads
  | error error =>
    show Throughout _ (if error.isNotFound then _ else _) _
    split <;> exact .done _ reads

theorem throughout_steps (store : MemoryStore) (surroundings : Surroundings) (ns : String)
    (parent : Object (.parent kind)) :
    store.Throughout (steps surroundings ns kind parent) (SameContent store) := by
  cases kind with
  | mustGatherService =>
    refine Throughout.map ?_ _
    simp only [classForClaim]
    split
    · exact .done _ (.refl store)
    split
    · exact .done _ (.refl store)
    · have reads := store.sameContent_get (.child .persistentVolumeClaim) ns
        (MustGatherService.spec parent).persistentVolumeClaim.name
      refine .ask (.refl store) ?_
      cases (store.answer (.get (.child .persistentVolumeClaim) ns
          (MustGatherService.spec parent).persistentVolumeClaim.name)).1 with
      | ok claim => exact .done _ reads
      | error error =>
        show Throughout _ (if error.isNotFound then _ else _) _
        split
        · have lists := reads.trans (sameContent_listStorageClasses _)
          refine .ask reads ?_
          generalize (MemoryStore.answer _ .listStorageClasses).1 = classes
          cases classes <;> exact .done _ lists
        · exact .done _ reads
  | healthService => exact .done _ (.refl store)
  | mustGatherJob => exact .done _ (.refl store)
  | mustGatherConfig => exact .done _ (.refl store)

end MemoryStore

/-- However far a pass that succeeds is performed, it leaves the content of some of its first
steps. -/
theorem Began.throughout {surroundings : Surroundings} {store between after : MemoryStore}
    {parent last : Object (.parent kind)} {owner : OwnerReference} {ns name : String}
    {changes : List Change} (began : Began surroundings store parent owner ns name between)
    (performed : Performed owner parent ns name
      (stepsWith surroundings (store.classFor ns kind parent) kind parent) parent between changes
      last after) :
    store.Throughout (pass surroundings kind ns name)
      (Halfway owner parent ns name
        (stepsWith surroundings (store.classFor ns kind parent) kind parent) parent between last
        after) := by
  have opening : ∀ left, MemoryStore.SameContent store left → Halfway owner parent ns name
      (stepsWith surroundings (store.classFor ns kind parent) kind parent) parent between last
      after left := by
    obtain ⟨calls, rfl, -⟩ := began.reads
    exact fun left same => performed.halfway_start ⟨same.objects, same.assigned⟩
  have fetched := MemoryStore.run_fetchParent began.underway.quiet began.underway.wellFormed kind
    ns name
  unfold pass
  apply ((store.throughout_fetchParent kind ns name).mono opening).bind
  intro found next ran
  rw [began.underway.object?] at fetched
  cases fetched.symm.trans ran
  simp only [began.owns]
  show MemoryStore.Throughout _ (steps surroundings ns kind parent >>= _) _
  have reads := (store.called .get (.parent kind) name).throughout_steps surroundings ns parent
  refine (reads.mono fun left same => opening left ⟨same.objects, same.assigned⟩).bind
    fun list next ran => ?_
  cases began.ran.symm.trans ran
  exact performed.throughout began.underway_between (.refl parent) (isStable_stepsWith _ _ parent)

/-- The parent of an interrupted pass is that of its first steps. -/
theorem Underway.of_sameContent {store left : MemoryStore} {parent : Object (.parent kind)}
    {ns name : String} (underway : Underway store parent ns name) (quiet : left.Quiet)
    (same : MemoryStore.SameContent store left) : Underway left parent ns name := by
  obtain ⟨-, wellFormed, stored, nsGiven, nameGiven⟩ := underway
  refine ⟨quiet, wellFormed.of_objects same.objects.symm, ?_, nsGiven, nameGiven⟩
  rwa [MemoryStore.document?, ← same.objects]

/-- The steps of a retried pass settle on what was done and do the rest. -/
theorem Halfway.resume {surroundings : Surroundings} {store between after left : MemoryStore}
    {parent last : Object (.parent kind)} {owner : OwnerReference} {ns name : String}
    (began : Began surroundings store parent owner ns name between)
    (halfway : Halfway owner parent ns name
      (stepsWith surroundings (store.classFor ns kind parent) kind parent) parent between last
      after left) (quiet : left.Quiet) :
    ∃ changesAgain final, left.run (pass surroundings kind ns name) = (.ok changesAgain, final) ∧
      MemoryStore.Alike after final := by
  obtain ⟨first, later, changes, laterChanges, middle, mid, split, done, rest, same⟩ := halfway
  have before := began.underway_between
  have underwayMid := done.underway before
  have request := done.sameRequest
  have underwayLeft := underwayMid.of_sameContent quiet same
  obtain ⟨betweenLeft, beganLeft, succeeds⟩ := MemoryStore.run_pass_eq_ok underwayLeft
    (request.controllerReference_eq.trans began.owns) surroundings
  have alike : MemoryStore.Alike mid betweenLeft := same.alike.trans beganLeft.alike
  have stable := isStable_stepsWith surroundings (left.classFor ns kind middle) parent
  have finish {changesAgain : List Change} {final : MemoryStore}
      (performed : Performed owner parent ns name
        (stepsWith surroundings (left.classFor ns kind middle) kind parent) middle betweenLeft
        changesAgain last final) :
      left.run (pass surroundings kind ns name) = (.ok changesAgain, final) := by
    refine (succeeds changesAgain final).mpr ⟨last, ?_⟩
    rw [stepsWith_congr request]
    exact performed.of_sameRequest request stable
  by_cases notEmpty : first = []
  · subst notEmpty
    cases done
    have sameClass : left.classFor ns kind parent = store.classFor ns kind parent :=
      (began.alike.trans same.alike).symm.classFor ns parent
    obtain ⟨final, performed, finalAlike⟩ := rest.alike before beganLeft.underway_between alike
    rw [sameClass, split] at finish
    exact ⟨laterChanges, final, finish performed, finalAlike⟩
  · obtain ⟨otherFirst, otherChanges, settled, otherSplit, again, settledAlike, -⟩ :=
      done.again before began.underway.nsGiven notEmpty split alike beganLeft.underway_between
        (left.classFor ns kind middle)
    obtain ⟨final, performed, finalAlike⟩ := rest.alike underwayMid
      (again.underway beganLeft.underway_between) (alike.trans settledAlike)
    rw [otherSplit] at finish
    exact ⟨otherChanges ++ laterChanges, final, finish (again.append performed), finalAlike⟩

namespace MemoryStore

variable {store after left : MemoryStore} {ns name : String} {changes : List Change}

/-- A pass that was interrupted can be made up for, whatever it has done. -/
theorem exists_run_pass_of_partial (quiet : store.Quiet) (wellFormed : store.WellFormed)
    {surroundings : Surroundings}
    (ran : store.run (pass surroundings kind ns name) = (.ok changes, after))
    (quietLeft : left.Quiet) (count : Nat)
    (same : SameContent (store.reached (pass surroundings kind ns name) count) left) :
    ∃ changesAgain final, left.run (pass surroundings kind ns name) = (.ok changesAgain, final) ∧
      Alike after final := by
  cases found : store.object? (.parent kind) ns name with
  | none =>
    have gone := run_pass_of_none quiet wellFormed surroundings found
    cases gone.symm.trans ran
    have untouched : store.Throughout (pass surroundings kind ns name) (SameContent store) := by
      unfold pass
      apply (store.throughout_fetchParent kind ns name).bind
      intro parent next fetched
      rw [run_fetchParent quiet wellFormed, found] at fetched
      cases fetched
      exact .done _ ⟨rfl, rfl⟩
    have content := (untouched count).trans same
    have goneLeft : left.object? (.parent kind) ns name = none := by
      rw [object?, document?, ← content.objects]
      exact found
    refine ⟨[], _, run_pass_of_none quietLeft (wellFormed.of_objects content.objects.symm)
      surroundings goneLeft, .of_objects content.objects content.assigned⟩
  | some parent =>
    obtain ⟨underway, owner, owns⟩ := underway_of_run_pass quiet wellFormed found ran
    obtain ⟨between, began, succeeds⟩ := run_pass_eq_ok underway owns surroundings
    obtain ⟨last, performed⟩ := (succeeds changes after).mp ran
    obtain ⟨first, later, _, _, middle, mid, split, done, rest, content⟩ :=
      began.throughout performed count
    exact Halfway.resume began ⟨first, later, _, _, middle, mid, split, done, rest,
      content.trans same⟩ quietLeft

/-- Whatever calls of a pass failed, another pass without failing calls makes up for it. -/
theorem exists_run_pass_of_failing (quiet : store.Quiet) (wellFormed : store.WellFormed)
    {surroundings : Surroundings}
    (ran : store.run (pass surroundings kind ns name) = (.ok changes, after))
    (failures : List (Verb × Kind)) :
    ∃ changesAgain final,
      (((store.failing failures).run (pass surroundings kind ns name)).2.failing []).run
          (pass surroundings kind ns name) = (.ok changesAgain, final) ∧ Alike after final := by
  obtain ⟨trace, calls, quietAfter, ends⟩ :=
    run_failing (propagates_pass surroundings kind ns name) quiet ran failures
  rcases ends with ⟨-, succeeds⟩ | ⟨before, call, later, -, -, -, -, fails⟩
  · have lifted : (after.failing failures).failing [] = after := by
      obtain ⟨objects, calls, failures, assigned⟩ := after
      cases quietAfter
      rfl
    rw [succeeds, lifted]
    obtain ⟨changesAgain, final, ranAgain, alike, -⟩ := exists_run_pass_again quiet wellFormed ran
    exact ⟨changesAgain, final, ranAgain, alike⟩
  · rw [fails]
    exact exists_run_pass_of_partial quiet wellFormed ran rfl before.length ⟨rfl, rfl⟩

/-- A pass with failing calls makes the calls of the pass without them up to the first that fails,
and fails with that.  Once no calls fail any more, another pass leads to the same objects, but for
the versions of children. -/
theorem run_pass_interrupted (reachable : store.Reachable) (quiet : store.Quiet)
    (surroundings : Surroundings) (kind : ParentKind) (ns name : String)
    (ran : store.run (pass surroundings kind ns name) = (.ok changes, after))
    (failures : List (Verb × Kind)) :
    ∃ trace result interrupted changesAgain final,
      after.calls = store.calls ++ trace ∧
      (store.failing failures).run (pass surroundings kind ns name) = (result, interrupted) ∧
      ((∀ call ∈ trace, call.isIn failures = false) ∧ result = .ok changes ∧
          interrupted = after.failing failures ∨
        ∃ before call later reached, trace = before ++ call :: later ∧
          (∀ earlier ∈ before, earlier.isIn failures = false) ∧ call.isIn failures = true ∧
          result = .error (.injected call.verb call.kind call.name) ∧
          interrupted.calls = store.calls ++ (before ++ [call]) ∧
          reached = store.reached (pass surroundings kind ns name) before.length ∧
          reached.calls = store.calls ++ before ∧ interrupted.objects = reached.objects ∧
          interrupted.assigned = reached.assigned) ∧
      (interrupted.failing []).run (pass surroundings kind ns name) = (.ok changesAgain, final) ∧
      final.assigned = after.assigned ∧
      ∀ key, final.document? key = after.document? key ∨
        ∃ (childKind : ChildKind) (child : Child childKind) (version : Option String),
          key.kind = .child childKind ∧ after.document? key = some child.encode ∧
          final.document? key = some (child.withVersion version).encode := by
  have wellFormed := reachable.wellFormed
  have wellFormedAfter : after.WellFormed := by
    have left := wellFormed.run (pass surroundings kind ns name)
    rwa [ran] at left
  have wellFormedFailing : (store.failing failures).WellFormed := wellFormed
  have wellFormedLifted :
      (((store.failing failures).run (pass surroundings kind ns name)).2.failing []).WellFormed :=
    wellFormedFailing.run (pass surroundings kind ns name)
  obtain ⟨trace, calls, -, ends⟩ :=
    run_failing (propagates_pass surroundings kind ns name) quiet ran failures
  obtain ⟨changesAgain, final, ranAgain, alike⟩ :=
    exists_run_pass_of_failing quiet wellFormed ran failures
  have wellFormedFinal : final.WellFormed := by
    have left := wellFormedLifted.run (pass surroundings kind ns name)
    rwa [ranAgain] at left
  obtain ⟨result, interrupted, failed⟩ : ∃ result interrupted,
      (store.failing failures).run (pass surroundings kind ns name) = (result, interrupted) :=
    ⟨_, _, (Prod.eta _).symm⟩
  rw [failed] at ranAgain
  refine ⟨trace, result, interrupted, changesAgain, final, calls, failed, ?_, ranAgain,
    alike.assigned.symm, alike.documents wellFormedAfter wellFormedFinal⟩
  rcases ends with ⟨none, succeeds⟩ | ⟨before, call, later, split, none, isIn, earlier, fails⟩
  · cases failed.symm.trans succeeds
    exact Or.inl ⟨none, rfl, rfl⟩
  · cases failed.symm.trans fails
    refine Or.inr ⟨before, call, later, _, split, none, isIn, rfl, ?_, rfl, earlier, rfl, rfl⟩
    show (store.reached _ _).calls ++ [call] = _
    rw [earlier, List.append_assoc]

/-- A pass whose creation of services fails is made up for by the next one. -/
theorem run_pass_interrupted_at_service :
    ∃ changes after result interrupted changesAgain final,
      (sampleStore "cache" "check").run samplePass = (.ok changes, after) ∧
      ((sampleStore "cache" "check").failing [(.create, .child .service)]).run samplePass =
        (result, interrupted) ∧
      result.isOk = false ∧
      (interrupted.failing []).run samplePass = (.ok changesAgain, final) ∧
      final.assigned = after.assigned := by
  obtain ⟨changes, after, ran⟩ := exists_run_samplePass
  have fails : (((sampleStore "cache" "check").failing [(.create, .child .service)]).run
      samplePass).1.isOk = false := by
    decide +kernel
  obtain ⟨trace, result, interrupted, changesAgain, final, -, failed, -, ranAgain, assigned, -⟩ :=
    run_pass_interrupted (reachable_sampleStore _ _) rfl _ _ _ _ ran [(.create, .child .service)]
  have same := congrArg (fun left => left.1.isOk) failed
  exact ⟨changes, after, result, interrupted, changesAgain, final, ran, failed,
    same.symm.trans fails, ranAgain, assigned⟩

end MemoryStore

end Caretaker
