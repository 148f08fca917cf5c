import Caretaker.Proofs.Attachment
import Caretaker.Proofs.Pass.Failure
import Caretaker.Proofs.Pass.History

/-!
# One child converged, and once more

A converge that succeeds has put its object into the place of the desired one and touched no other
place (`MemoryStore.Brought`); one that fails has changed no object, and fails for a reason that the
store shows beforehand (`MemoryStore.Unconverged`).  What became of a child becomes of it again but
for the version (`converged_again`), so the same converge right after a success refreshes that
object at most (`MemoryStore.Refreshes`).  All this holds on any reachable store, whichever calls
are to fail (`MemoryStore.converge_brings_or_keeps`).
-/

namespace Caretaker

variable {kind : ChildKind} {owner : OwnerReference} {desired : Child kind} {uid ns name : String}

section Converged

variable {live : Option (Child kind)} {became : Converged kind}

/-- The outcome of a child tells what was there. -/
theorem outcome_of_converged (result : converged owner desired uid live = .ok became) :
    (became.outcome = .created ↔ live = none) ∧
      (became.outcome = .unchanged ↔ live.isSome ∧ kind.isCreateOnly = true) ∧
      (became.outcome = .unchanged → live = some became.object) := by
  cases live with
  | none =>
    obtain ⟨child, -, rfl⟩ := converged_none_eq_ok.mp result
    simp
  | some live =>
    rcases converged_some_eq_ok.mp result with ⟨createOnly, rfl⟩ | ⟨isMutable, child, -, -, rfl⟩
    · simp [createOnly]
    · simp [isMutable]

/-- A child that was created or updated took the owner. -/
theorem attached_of_converged (result : converged owner desired uid live = .ok became)
    (wrote : became.outcome ≠ .unchanged) :
    Attached owner (live.getD desired).ownerReferences became.object.ownerReferences := by
  cases live with
  | none =>
    obtain ⟨child, took, rfl⟩ := converged_none_eq_ok.mp result
    exact (Object.attached_of_attachOwner took).2
  | some live =>
    rcases converged_some_eq_ok.mp result with ⟨-, rfl⟩ | ⟨-, child, replaced, -, rfl⟩
    · exact absurd rfl wrote
    · obtain ⟨owned, took, rfl⟩ := replacement_eq_ok.mp replaced
      exact (Object.attached_of_attachOwner took).2

/-- A replacement is its own replacement. -/
theorem replacement_again {there child : Child kind}
    (replaced : replacement owner there desired = .ok child) :
    replacement owner child desired = .ok child := by
  have once : [desired].foldlM (replacement owner) there = .ok child := by
    rw [List.foldlM_cons, replaced]
    rfl
  have twice := foldlM_replacement_again once
  rw [List.foldlM_cons] at twice
  cases again : replacement owner child desired with
  | error error =>
    rw [again] at twice
    cases twice
  | ok next =>
    rw [again] at twice
    exact twice

/-- What became of a child becomes of it once more, but for the version. -/
theorem converged_again (nsGiven : desired.metadata.ns = some ns)
    (nameGiven : desired.metadata.name = some name)
    (stored : ∀ child, live = some child → child.IsStored ns name)
    (result : converged owner desired uid live = .ok became) (next : String) :
    converged owner desired next (some became.object) =
      .ok (if kind.isCreateOnly then ⟨.unchanged, became.object⟩
        else ⟨.updated, became.object.bumped⟩) := by
  cases isMutable : kind.isCreateOnly with
  | true => exact converged_some_eq_ok.mpr (Or.inl ⟨isMutable, rfl⟩)
  | false =>
    have unversioned := replacement_again (replacement_of_converged isMutable result)
    have settled := replacement_withVersion owner became.object.unversioned desired
      became.object.metadata.resourceVersion
    rw [unversioned, Object.withVersion_unversioned, Object.withVersion_self] at settled
    have given := given_of_converged isMutable nsGiven nameGiven stored result
    have writable := Key.forWriting_of_some given.1 given.2
    exact converged_some_eq_ok.mpr (Or.inr ⟨isMutable, _, settled, ⟨_, writable⟩, rfl⟩)

/-- A child that keeps the names of a live one can be written exactly if that can. -/
theorem Keeps.forWriting {there child : Child kind} (keeps : Keeps there child) :
    Key.forWriting child = Key.forWriting there := by
  rw [Key.forWriting, keeps.ns, keeps.name, Key.forWriting]

/-- Nothing becomes of a child exactly if it is hindered, or its replacement has no place. -/
theorem converged_eq_error_iff {error : Error} :
    converged owner desired uid live = .error error ↔
      Hindered owner desired live error ∨
        ∃ there owned, live = some there ∧ kind.isCreateOnly = false ∧
          there.attachOwner owner = .ok owned ∧ Key.forWriting there = .error error := by
  cases live with
  | none =>
    rw [converged, Hindered]
    cases desired.attachOwner owner <;> simp [Except.map]
  | some there =>
    rw [converged, Hindered]
    cases kind.isCreateOnly with
    | true => simp
    | false =>
      cases took : there.attachOwner owner with
      | error reason => simp [replacement_eq, took, Except.map, bind, Except.bind]
      | ok owned =>
        have replaced : replacement owner there desired = .ok (merged owned desired) :=
          replacement_eq_ok.mpr ⟨owned, took, rfl⟩
        have place := (keeps_of_replacement replaced).forWriting
        simp only [replaced, bind, Except.bind, place]
        cases named : Key.forWriting there <;> simp [took, named, pure, Except.pure]

end Converged

namespace MemoryStore

/-- Why a child is not converged in the place that the desired object names, with the error that
this gives. -/
inductive Unconverged (store : MemoryStore) (owner : OwnerReference) (desired : Child kind)
    (ns name : String) : Error → Prop where
  /-- Look-ups are to fail. -/
  | lookup (failing : store.fails .get (.child kind) = true) :
    Unconverged store owner desired ns name (.injected .get (.child kind) name)
  /-- The object that would be written does not take the owner. -/
  | hindered {error : Error} (running : store.fails .get (.child kind) = false)
    (hindered : Hindered owner desired (store.object? (.child kind) ns name) error) :
    Unconverged store owner desired ns name error
  /-- The object that is there takes the owner but names no place of its own. -/
  | unplaced {live owned : Child kind} {error : Error}
    (running : store.fails .get (.child kind) = false)
    (found : store.object? (.child kind) ns name = some live)
    (isMutable : kind.isCreateOnly = false) (took : live.attachOwner owner = .ok owned)
    (unplaced : Key.forWriting live = .error error) :
    Unconverged store owner desired ns name error
  /-- The write that leads to what would become of the child is to fail. -/
  | write {became : Converged kind} {verb : Verb}
    (running : store.fails .get (.child kind) = false)
    (result : converged owner desired store.nextUid (store.object? (.child kind) ns name) =
      .ok became)
    (writes : became.outcome.write? = some verb) (failing : store.fails verb (.child kind) = true) :
    Unconverged store owner desired ns name (.injected verb (.child kind) name)

/-- What a converge has done that succeeded: the store has its object in the place of the desired
one and all other objects as they were, its outcome tells what was there, and the object took the
owner unless it is as it was. -/
structure Brought (store : MemoryStore) (owner : OwnerReference) (desired : Child kind)
    (ns name : String) (became : Converged kind) (after : MemoryStore) : Prop where
  stored : after.object? (.child kind) ns name = some became.object
  others : ∀ key : Key, key ≠ ⟨.child kind, ns, name⟩ → after.document? key = store.document? key
  created : became.outcome = .created ↔ store.document? ⟨.child kind, ns, name⟩ = none
  unchanged : became.outcome = .unchanged ↔
    (store.document? ⟨.child kind, ns, name⟩).isSome ∧ kind.isCreateOnly = true
  untouched : became.outcome = .unchanged → after.objects = store.objects
  attached : became.outcome ≠ .unchanged →
    Attached owner ((store.object? (.child kind) ns name).getD desired).ownerReferences
      became.object.ownerReferences

/-- What the same converge does right after one that left an object: it changes that object in
nothing but its version, and fails only if the object is to be updated and updates are to fail. -/
structure Refreshes (store : MemoryStore) (owner : OwnerReference) (desired : Child kind)
    (ns name : String) (object : Child kind) : Prop where
  others : ∀ key : Key, key ≠ ⟨.child kind, ns, name⟩ →
    (store.run (converge owner desired)).2.document? key = store.document? key
  stored : ∃ version, (version = object.metadata.resourceVersion ∨
      kind.isCreateOnly = false ∧ version = some (nextVersion object.versionD)) ∧
    (store.run (converge owner desired)).2.object? (.child kind) ns name =
      some (object.withVersion version)
  answer : (∃ became, (store.run (converge owner desired)).1 = .ok became ∧
      became.outcome = if kind.isCreateOnly then .unchanged else .updated) ∨
    kind.isCreateOnly = false ∧ store.fails .update (.child kind) = true ∧
      (store.run (converge owner desired)).1 = .error (.injected .update (.child kind) name)

variable {store after : MemoryStore} {became : Converged kind} {error : Error}

theorem run_converge_of_unnamed (unnamed : Key.forWriting desired = .error error) :
    store.run (converge owner desired) = (.error error, store) := by
  rw [converge, unnamed, run_bind, run_ofExcept]

/-- Converging a child in its place fails exactly for one of the reasons against it. -/
theorem run_converge_eq_error_iff (wellFormed : store.WellFormed)
    (nsGiven : desired.metadata.ns = some ns) (nameGiven : desired.metadata.name = some name) :
    (store.run (converge owner desired)).1 = .error error ↔
      Unconverged store owner desired ns name error := by
  rw [run_converge_eq wellFormed nsGiven nameGiven]
  constructor
  · intro failed
    split at failed
    · next failing =>
      cases failed
      exact .lookup failing
    next running =>
    have running := eq_false_of_ne_true running
    split at failed
    · next result =>
      cases failed
      rcases converged_eq_error_iff.mp result with
        hindered | ⟨live, owned, found, isMutable, took, unplaced⟩
      · exact .hindered running hindered
      · exact .unplaced running found isMutable took unplaced
    next result =>
    split at failed
    · next failing =>
      cases failed
      obtain ⟨writes, fails⟩ := Option.filter_eq_some_iff.mp failing
      exact .write running result writes fails
    · cases failed
  · intro reason
    cases reason with
    | lookup failing => rw [failing, if_pos rfl]
    | hindered running hindered =>
      rw [running, if_neg Bool.false_ne_true, converged_eq_error_iff.mpr (Or.inl hindered)]
    | unplaced running found isMutable took unplaced =>
      rw [running, if_neg Bool.false_ne_true,
        converged_eq_error_iff.mpr (Or.inr ⟨_, _, found, isMutable, took, unplaced⟩)]
    | @write became verb running result writes failing =>
      have filtered : became.outcome.write?.filter (store.fails · (.child kind)) = some verb :=
        Option.filter_eq_some_iff.mpr ⟨writes, failing⟩
      rw [running, if_neg Bool.false_ne_true, result]
      simp only [filtered]

/-- A converge that fails changes no object. -/
theorem objects_of_run_converge_eq_error (wellFormed : store.WellFormed)
    (failed : (store.run (converge owner desired)).1 = .error error) :
    (store.run (converge owner desired)).2.objects = store.objects := by
  cases named : Key.forWriting desired with
  | error reason => rw [run_converge_of_unnamed named]
  | ok key =>
    obtain ⟨ns, name, rfl, nsGiven, nameGiven⟩ := Key.exists_of_forWriting named
    rw [run_converge_eq wellFormed nsGiven nameGiven] at failed ⊢
    revert failed
    -- Whatever fails, no more than calls are recorded.
    split
    · exact fun _ => rfl
    split
    · exact fun _ => rfl
    split
    · exact fun _ => rfl
    · exact fun failed => nomatch failed

/-- A converge that succeeds brings its object into the place of the desired one. -/
theorem brought_of_converged (wellFormed : store.WellFormed)
    (result : converged owner desired store.nextUid (store.object? (.child kind) ns name) =
      .ok became) :
    Brought store owner desired ns name became (became.leave store ns name) := by
  obtain ⟨created, unchanged, same⟩ := outcome_of_converged result
  refine ⟨object?_put_self .., fun key apart => ?_, ?_, ?_, ?_, attached_of_converged result⟩
  · exact (document?_put ..).trans (if_neg apart)
  · rw [created, object?_eq_none_iff wellFormed]
  · rw [unchanged, Option.isSome_iff_ne_none, Option.isSome_iff_ne_none, Ne,
      object?_eq_none_iff wellFormed]
  · intro isUnchanged
    show (store.put ns name became.object).objects = store.objects
    rw [put_of_object? wellFormed (same isUnchanged)]

/-- The same converge right after a success: it leaves an object of a kind that is only created as
it is, and else counts the version of its object up, unless updates are to fail. -/
theorem run_converge_again (wellFormed : store.WellFormed)
    (nsGiven : desired.metadata.ns = some ns) (nameGiven : desired.metadata.name = some name)
    (ran : store.run (converge owner desired) = (.ok became, after)) :
    after.run (converge owner desired) =
      if kind.isCreateOnly then
        (.ok ⟨.unchanged, became.object⟩, after.called .get (.child kind) name)
      else if store.fails .update (.child kind) then
        (.error (.injected .update (.child kind) name),
          (after.called .get (.child kind) name).called .update (.child kind) name)
      else
        (.ok ⟨.updated, became.object.bumped⟩,
          Converged.leave ⟨.updated, became.object.bumped⟩ after ns name) := by
  have wellFormedAfter : after.WellFormed := by
    have kept := wellFormed.run (converge owner desired)
    rwa [ran] at kept
  obtain ⟨otherNs, otherName, nsSame, nameSame, running, result, -, left⟩ :=
    (run_converge_eq_ok_iff wellFormed).mp ran
  cases nsGiven.symm.trans nsSame
  cases nameGiven.symm.trans nameSame
  have found : after.object? (.child kind) ns name = some became.object :=
    left ▸ object?_put_self ..
  have fails (verb : Verb) : after.fails verb (.child kind) = store.fails verb (.child kind) := by
    rw [← left]
    rfl
  have again := converged_again nsGiven nameGiven
    (fun _ => isStored_of_object? wellFormed) result after.nextUid
  rw [run_converge_eq wellFormedAfter nsGiven nameGiven, fails, running,
    if_neg Bool.false_ne_true, found, again]
  cases createOnly : kind.isCreateOnly with
  | true =>
    simp only [if_true, Outcome.write?, Option.filter_none, Converged.leave, Outcome.verbs,
      Outcome.assigns, put_of_object? wellFormedAfter found]
    rfl
  | false =>
    simp only [if_false, Bool.false_eq_true, Outcome.write?, Option.filter_some, fails]
    cases store.fails .update (.child kind) <;> rfl

theorem refreshes_of_run_converge (wellFormed : store.WellFormed)
    (nsGiven : desired.metadata.ns = some ns) (nameGiven : desired.metadata.name = some name)
    (ran : store.run (converge owner desired) = (.ok became, after))
    (found : after.object? (.child kind) ns name = some became.object) :
    Refreshes after owner desired ns name became.object := by
  have again := run_converge_again wellFormed nsGiven nameGiven ran
  have sameVersion := Object.withVersion_self became.object
  have fails : after.fails .update (.child kind) = store.fails .update (.child kind) := by
    obtain ⟨-, -, -, -, -, -, -, rfl⟩ := (run_converge_eq_ok_iff wellFormed).mp ran
    rfl
  cases createOnly : kind.isCreateOnly with
  | true =>
    rw [createOnly, if_pos rfl] at again
    refine ⟨fun key _ => ?_, ⟨_, Or.inl rfl, ?_⟩, Or.inl ⟨_, congrArg Prod.fst again, ?_⟩⟩
    · rw [again]
      rfl
    · rw [again, sameVersion]
      exact found
    · rw [createOnly]
      rfl
  | false =>
    rw [createOnly, if_neg Bool.false_ne_true] at again
    cases failing : store.fails .update (.child kind) with
    | true =>
      rw [failing, if_pos rfl] at again
      refine ⟨fun key _ => ?_, ⟨_, Or.inl rfl, ?_⟩,
        Or.inr ⟨createOnly, fails.trans failing, congrArg Prod.fst again⟩⟩
      · rw [again]
        rfl
      · rw [again, sameVersion]
        exact found
    | false =>
      rw [failing, if_neg Bool.false_ne_true] at again
      refine ⟨fun key apart => ?_, ⟨_, Or.inr ⟨createOnly, rfl⟩, ?_⟩,
        Or.inl ⟨_, congrArg Prod.fst again, ?_⟩⟩
      · rw [again]
        exact (document?_put ..).trans (if_neg apart)
      · rw [again]
        exact object?_put_self ..
      · rw [createOnly]
        rfl

/-- A converge that succeeds brings its object into the place of the desired one and changes nothing
else, and the same converge right after it refreshes that object at most.  A converge fails exactly
if the desired object names no place, or for one of the reasons against it there, and then no object
changes. -/
theorem converge_brings_or_keeps (reachable : store.Reachable) (owner : OwnerReference)
    (desired : Child kind) :
    (∀ became after, store.run (converge owner desired) = (.ok became, after) →
      ∃ ns name, desired.metadata.ns = some ns ∧ desired.metadata.name = some name ∧
        Brought store owner desired ns name became after ∧
        Refreshes after owner desired ns name became.object) ∧
    ∀ error,
      ((store.run (converge owner desired)).1 = .error error ↔
        Key.forWriting desired = .error error ∨
          ∃ ns name, desired.metadata.ns = some ns ∧ desired.metadata.name = some name ∧
            Unconverged store owner desired ns name error) ∧
      ((store.run (converge owner desired)).1 = .error error →
        (store.run (converge owner desired)).2.objects = store.objects) := by
  have wellFormed := reachable.wellFormed
  refine ⟨fun became after ran => ?_,
    fun error => ⟨?_, objects_of_run_converge_eq_error wellFormed⟩⟩
  · obtain ⟨ns, name, nsGiven, nameGiven, -, result, -, left⟩ :=
      (run_converge_eq_ok_iff wellFormed).mp ran
    have brought := left ▸ brought_of_converged wellFormed result
    exact ⟨ns, name, nsGiven, nameGiven, brought,
      refreshes_of_run_converge wellFormed nsGiven nameGiven ran brought.stored⟩
  · cases named : Key.forWriting desired with
    | error reason =>
      rw [run_converge_of_unnamed named, Except.error.injEq, Except.error.injEq]
      refine ⟨Or.inl, fun reasons => reasons.resolve_right ?_⟩
      rintro ⟨ns, name, nsGiven, nameGiven, -⟩
      cases named.symm.trans (Key.forWriting_of_some nsGiven nameGiven)
    | ok key =>
      obtain ⟨ns, name, rfl, nsGiven, nameGiven⟩ := Key.exists_of_forWriting named
      rw [run_converge_eq_error_iff wellFormed nsGiven nameGiven]
      constructor
      · exact fun reason => Or.inr ⟨ns, name, nsGiven, nameGiven, reason⟩
      · rintro (unnamed | ⟨otherNs, otherName, nsSame, nameSame, reason⟩)
        · cases unnamed
        · cases nsGiven.symm.trans nsSame
          cases nameGiven.symm.trans nameSame
          exact reason

end MemoryStore

section Sample

/-- The owner of a sample child. -/
def sampleOwner (uid : String) : OwnerReference :=
  { apiVersion := "v1", kind := "Sample", name := "owner", uid := uid, controller := some true }

/-- A service of some owners. -/
def ownedService (owners : List OwnerReference) : Child .service :=
  ⟨{ name := some "cache", ns := some "ns", ownerReferences := some owners },
    Document.of _ (.object [])⟩

/-- A store with a service that refers twice to its owner, and to a guest. -/
def ownedStore : MemoryStore :=
  .insert {} (ownedService
    [sampleOwner "uid", { sampleOwner "guest" with controller := none }, sampleOwner "uid"])

/-- Converging that service leaves one reference to the owner, behind the one to the guest. -/
theorem converge_leaves_one_reference :
    ∃ became after,
      ownedStore.run (converge (sampleOwner "uid") (ownedService [])) = (.ok became, after) ∧
        after.object? (.child .service) "ns" "cache" = some became.object ∧
        became.object.ownerReferences.filter (fun reference => reference.uid = "uid") =
          [sampleOwner "uid"] ∧
        after.Refreshes (sampleOwner "uid") (ownedService []) "ns" "cache" became.object := by
  have reachable : ownedStore.Reachable := .insert .empty _
  have updates : (ownedStore.run (converge (sampleOwner "uid") (ownedService []))).1.toOption.any
      (fun became => became.outcome = .updated) = true := by
    decide +kernel
  cases ran : ownedStore.run (converge (sampleOwner "uid") (ownedService [])) with
  | mk result after =>
    cases result with
    | error error =>
      rw [ran] at updates
      cases updates
    | ok became =>
      rw [ran] at updates
      have updated : became.outcome = .updated := of_decide_eq_true updates
      obtain ⟨ns, name, nsGiven, nameGiven, brought, refreshes⟩ :=
        (MemoryStore.converge_brings_or_keeps reachable (sampleOwner "uid") (ownedService [])).1
          became after ran
      cases nsGiven
      cases nameGiven
      have attached := brought.attached (by simp [updated])
      exact ⟨became, after, rfl, brought.stored, attached.self, refreshes⟩

end Sample

end Caretaker
