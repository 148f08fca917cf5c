import Caretaker.Proofs.Pass.Names

/-!
# What a pass may write

A pass has the place of its parent and the places of the children that it comes to (`childKeys`),
which are those that can be built from the parent, up to the first that cannot.  It writes no other
place, whether it succeeds or fails (`MemoryStore.document?_run_pass`).  All of them are in the
namespace of the parent, so parents in different namespaces have none in common
(`childKeys_disjoint`).
-/

namespace Caretaker

variable {kind : ParentKind}

/-- The places of the children that steps build for a parent, up to the first that cannot be
built. -/
def builtKeys (parent : Object (.parent kind)) : List (Step kind) → List Key
  | [] => []
  | .report .. :: rest => builtKeys parent rest
  | .child _ build :: rest =>
    match build parent with
    | .ok desired => Key.ofObject desired :: builtKeys parent rest
    | .error _ => []

theorem builtKeys_of_ok {childKind : ChildKind} {parent : Object (.parent kind)}
    {build : Object (.parent kind) → Except Error (Child childKind)} {desired : Child childKind}
    (built : build parent = .ok desired) (rest : List (Step kind)) :
    builtKeys parent (.child childKind build :: rest) =
      Key.ofObject desired :: builtKeys parent rest := by
  rw [builtKeys, built]

theorem builtKeys_of_error {childKind : ChildKind} {parent : Object (.parent kind)}
    {build : Object (.parent kind) → Except Error (Child childKind)} {error : Error}
    (failed : build parent = .error error) (rest : List (Step kind)) :
    builtKeys parent (.child childKind build :: rest) = [] := by
  rw [builtKeys, failed]

/-- Steps build in the same places for parents that ask for the same. -/
theorem builtKeys_congr {left right : Object (.parent kind)} (same : SameRequest left right)
    {steps : List (Step kind)} (stable : ∀ step ∈ steps, step.IsStable) :
    builtKeys right steps = builtKeys left steps := by
  induction steps with
  | nil => rfl
  | cons step rest ih =>
    obtain ⟨here, later⟩ := List.forall_mem_cons.mp stable
    cases step with
    | report list labels => exact ih later
    | child childKind build => rw [builtKeys, builtKeys, here left right same, ih later]

/-- The places of the children that a pass over a parent comes to. -/
def childKeys (surroundings : Surroundings) (parent : Object (.parent kind)) : List Key :=
  builtKeys parent (stepsWith surroundings "" kind parent)

/-- The places of a parent and of the children that a pass over it comes to. -/
def ownKeys (surroundings : Surroundings) (parent : Object (.parent kind)) (ns name : String) :
    List Key :=
  ⟨.parent kind, ns, name⟩ :: childKeys surroundings parent

/-- What steps build are children. -/
theorem exists_kind_of_mem_builtKeys {parent : Object (.parent kind)} {steps : List (Step kind)}
    {key : Key} (member : key ∈ builtKeys parent steps) :
    ∃ childKind, key.kind = .child childKind := by
  induction steps with
  | nil => cases member
  | cons step rest ih =>
    cases step with
    | report list labels => exact ih member
    | child childKind build =>
      cases built : build parent with
      | error error =>
        rw [builtKeys_of_error built] at member
        cases member
      | ok desired =>
        rw [builtKeys_of_ok built] at member
        rcases List.mem_cons.mp member with rfl | later
        · exact ⟨childKind, rfl⟩
        · exact ih later

/-- A place of a pass is that of a parent or of a child. -/
theorem kind_of_mem_ownKeys {surroundings : Surroundings} {parent : Object (.parent kind)}
    {ns name : String} {key : Key} (own : key ∈ ownKeys surroundings parent ns name) :
    key.kind = .parent kind ∨ ∃ childKind, key.kind = .child childKind := by
  rcases List.mem_cons.mp own with rfl | member
  · exact Or.inl rfl
  · exact Or.inr (exists_kind_of_mem_builtKeys member)

/-- The children that a pass comes to are among those that its parent names. -/
theorem exists_name_of_mem_childKeys {surroundings : Surroundings} {parent : Object (.parent kind)}
    {ns : String} {key : Key} (given : parent.metadata.ns = some ns)
    (member : key ∈ childKeys surroundings parent) :
    ∃ childKind name, (childKind, name) ∈ childNames kind parent ∧
      key = ⟨.child childKind, ns, name⟩ := by
  have named (steps : List (Step kind)) (fits : ∀ step ∈ steps, step.Fits surroundings parent ns)
      (member : key ∈ builtKeys parent steps) :
      ∃ childKind name, (childKind, name) ∈ childNames kind parent ∧
        key = ⟨.child childKind, ns, name⟩ := by
    induction steps with
    | nil => cases member
    | cons step rest ih =>
      obtain ⟨here, later⟩ := List.forall_mem_cons.mp fits
      cases step with
      | report list labels => exact ih later member
      | child childKind build =>
        obtain ⟨required, name, -, isChild, -, builds⟩ := here
        cases built : build parent with
        | error error =>
          rw [builtKeys_of_error built] at member
          cases member
        | ok desired =>
          rw [builtKeys_of_ok built] at member
          rcases List.mem_cons.mp member with rfl | restMember
          · exact ⟨childKind, name, isChild,
              Object.key_of_some (builds.ns desired built) (builds.name desired built)⟩
          · exact ih later restMember
  exact named _ (fits_stepsWith surroundings "" given) member

/-- Parents in different namespaces have no child in one place, and neither have those that name no
child in common. -/
theorem childKeys_disjoint {otherKind : ParentKind} {surroundings otherSurroundings : Surroundings}
    {parent : Object (.parent kind)} {other : Object (.parent otherKind)} {ns otherNs : String}
    (given : parent.metadata.ns = some ns) (otherGiven : other.metadata.ns = some otherNs)
    (apart : ns = otherNs → ∀ child ∈ childNames kind parent, child ∉ childNames otherKind other) :
    ∀ key ∈ childKeys surroundings parent, key ∉ childKeys otherSurroundings other := by
  intro key member otherMember
  obtain ⟨childKind, name, isChild, rfl⟩ := exists_name_of_mem_childKeys given member
  obtain ⟨otherChildKind, otherName, otherIsChild, same⟩ :=
    exists_name_of_mem_childKeys otherGiven otherMember
  cases same
  exact apart rfl _ isChild otherIsChild

/-- Passes over different parents have no place in common if they have no child in one place. -/
theorem ownKeys_disjoint {otherKind : ParentKind} {surroundings otherSurroundings : Surroundings}
    {parent : Object (.parent kind)} {other : Object (.parent otherKind)}
    {ns name otherNs otherName : String}
    (apart : (⟨.parent kind, ns, name⟩ : Key) ≠ ⟨.parent otherKind, otherNs, otherName⟩)
    (disjoint : ∀ key ∈ childKeys surroundings parent, key ∉ childKeys otherSurroundings other) :
    ∀ key ∈ ownKeys surroundings parent ns name,
      key ∉ ownKeys otherSurroundings other otherNs otherName := by
  intro key own otherOwn
  rcases List.mem_cons.mp own with rfl | member
  · rcases List.mem_cons.mp otherOwn with same | otherMember
    · exact apart same
    · obtain ⟨childKind, isChild⟩ := exists_kind_of_mem_builtKeys otherMember
      cases isChild
  · rcases List.mem_cons.mp otherOwn with rfl | otherMember
    · obtain ⟨childKind, isChild⟩ := exists_kind_of_mem_builtKeys member
      cases isChild
    · exact disjoint key member otherMember

/-- A pass has no child in a place that its parent does not name. -/
theorem not_mem_ownKeys_of_not_mem_childNames {surroundings : Surroundings}
    {parent : Object (.parent kind)} {ns name : String} (given : parent.metadata.ns = some ns)
    {place : ChildKind × String} (notChild : place ∉ childNames kind parent) :
    (⟨.child place.1, ns, place.2⟩ : Key) ∉ ownKeys surroundings parent ns name := by
  intro own
  rcases List.mem_cons.mp own with isParent | member
  · cases isParent
  · obtain ⟨childKind, childName, isChild, same⟩ := exists_name_of_mem_childKeys given member
    cases same
    exact notChild isChild

/-- A pass does not write another parent. -/
theorem not_mem_ownKeys_of_parent {surroundings : Surroundings} {parent : Object (.parent kind)}
    {ns name other : String} (apart : other ≠ name) :
    (⟨.parent kind, ns, other⟩ : Key) ∉ ownKeys surroundings parent ns name := by
  intro own
  rcases List.mem_cons.mp own with same | member
  · cases same
    exact apart rfl
  · obtain ⟨childKind, isChild⟩ := exists_kind_of_mem_builtKeys member
    cases isChild

/-- The places of the children do not depend on the class for the claim. -/
theorem builtKeys_stepsWith (surroundings : Surroundings) (defaultClass : String)
    (parent : Object (.parent kind)) :
    builtKeys parent (stepsWith surroundings defaultClass kind parent) =
      childKeys surroundings parent := by
  cases kind with
  | mustGatherService =>
    cases built : Build.mustGatherClaim parent defaultClass with
    | error error =>
      exact (builtKeys_of_error built _).trans
        (builtKeys_of_error (Build.mustGatherClaim_eq_error built "") _).symm
    | ok claim =>
      obtain ⟨other, otherBuilt, metadata⟩ := Build.metadata_mustGatherClaim built ""
      have place : Key.ofObject other = Key.ofObject claim := by
        rw [Key.ofObject, Key.ofObject, Object.nsD, Object.nameD, metadata]
        rfl
      refine (builtKeys_of_ok built _).trans (Eq.trans ?_ (builtKeys_of_ok otherBuilt _).symm)
      rw [place]
  | healthService => rfl
  | mustGatherJob => rfl
  | mustGatherConfig => rfl

namespace MemoryStore

variable {store : MemoryStore} {parent : Object (.parent kind)} {owner : OwnerReference}
  {ns name : String} {childKind : ChildKind}
  {build : Object (.parent kind) → Except Error (Child childKind)} {rest : List (Step kind)}

/-- A child that cannot be built ends a pass. -/
theorem run_performSteps_of_unbuilt {error : Error} (failed : build parent = .error error) :
    store.run (performSteps owner (.child childKind build :: rest) parent) =
      (.error error, store) := by
  rw [performSteps, run_bind, run_ofExcept, failed]

/-- A child that does not name its place ends a pass. -/
theorem run_performSteps_of_unplaced {desired : Child childKind} {error : Error}
    (built : build parent = .ok desired) (unplaced : Key.forWriting desired = .error error) :
    store.run (performSteps owner (.child childKind build :: rest) parent) =
      (.error error, store) := by
  rw [performSteps, run_bind, run_ofExcept, built]
  simp only
  rw [run_bind, converge, unplaced, run_bind, run_ofExcept]

/-- A child that can be built is converged before the rest of a pass. -/
theorem run_performSteps_of_built (quiet : store.Quiet) (wellFormed : store.WellFormed)
    {desired : Child childKind} {childNs childName : String} (built : build parent = .ok desired)
    (nsGiven : desired.metadata.ns = some childNs)
    (nameGiven : desired.metadata.name = some childName) :
    store.run (performSteps owner (.child childKind build :: rest) parent) =
      match converged owner desired store.nextUid
        (store.object? (.child childKind) childNs childName) with
      | .error error => (.error error, store.called .get (.child childKind) childName)
      | .ok became =>
        let later := (became.leave store childNs childName).run (performSteps owner rest parent)
        (later.1.map (became.change :: ·), later.2) := by
  rw [performSteps, run_bind, run_ofExcept, built]
  simp only
  rw [run_bind, run_converge quiet wellFormed nsGiven nameGiven]
  cases converged owner desired store.nextUid
      (store.object? (.child childKind) childNs childName) with
  | error error => rfl
  | ok became =>
    simp only
    rw [run_bind]
    rcases (became.leave store childNs childName).run (performSteps owner rest parent) with
      ⟨_ | changes, after⟩ <;> rfl

theorem run_performSteps_report (underway : Underway store parent ns name) (list : PodList kind)
    (labels : Object (.parent kind) → LabelMap) :
    store.run (performSteps owner (.report list labels :: rest) parent) =
      (list.leave (labels parent) parent store ns name).run (performSteps owner rest
        (list.reported (podNames (store.pods ns (labels parent))) parent)) := by
  obtain ⟨wrote, ran⟩ := run_reportPods_eq underway list (labels parent)
  rw [performSteps, run_bind, ran]

/-- Steps write the places of the children that they come to and of their parent, and no other. -/
theorem document?_run_performSteps {steps : List (Step kind)} {key : Key}
    (underway : Underway store parent ns name) (stable : ∀ step ∈ steps, step.IsStable)
    (notChild : key ∉ builtKeys parent steps) (notParent : key ≠ ⟨.parent kind, ns, name⟩) :
    (store.run (performSteps owner steps parent)).2.document? key = store.document? key := by
  induction steps generalizing store parent with
  | nil => rfl
  | cons step rest ih =>
    obtain ⟨-, stableRest⟩ := List.forall_mem_cons.mp stable
    cases step with
    | report list labels =>
      have same := SameRequest.reported list (podNames (store.pods ns (labels parent))) parent
      rw [run_performSteps_report underway]
      refine (ih (underway.report list (labels parent)) stableRest ?_).trans ?_
      · rw [builtKeys_congr same stableRest]
        exact notChild
      · rw [document?, underway.objects_leave]
        exact (document?_put _ _ _ _ _).trans (if_neg notParent)
    | child childKind build =>
      cases built : build parent with
      | error error => rw [run_performSteps_of_unbuilt built]
      | ok desired =>
        cases writable : Key.forWriting desired with
        | error error => rw [run_performSteps_of_unplaced built writable]
        | ok place =>
          obtain ⟨childNs, childName, rfl, nsGiven, nameGiven⟩ := Key.exists_of_forWriting writable
          rw [builtKeys_of_ok built, List.mem_cons, Key.ofObject_of_forWriting writable,
            not_or] at notChild
          rw [run_performSteps_of_built underway.quiet underway.wellFormed built nsGiven nameGiven]
          cases result : converged owner desired store.nextUid
              (store.object? (.child childKind) childNs childName) with
          | error error => rfl
          | ok became =>
            refine (ih (underway.leave nsGiven nameGiven result) stableRest notChild.2).trans ?_
            exact (document?_put _ _ _ _ _).trans (if_neg notChild.1)

end MemoryStore

/-- Whether the first child of a pass cannot be built. -/
def FirstFails (surroundings : Surroundings) (defaultClass : String) (parent : Object (.parent kind))
    (error : Error) : Prop :=
  ∃ (childKind : ChildKind) (build : Object (.parent kind) → Except Error (Child childKind))
    (rest : List (Step kind)),
    stepsWith surroundings defaultClass kind parent = .child childKind build :: rest ∧
      build parent = .error error

/-- Whether the first child can be built does not depend on the class for the claim. -/
theorem FirstFails.of_class {surroundings : Surroundings} {defaultClass : String}
    {parent : Object (.parent kind)} {error : Error}
    (fails : FirstFails surroundings defaultClass parent error) (otherClass : String) :
    FirstFails surroundings otherClass parent error := by
  obtain ⟨childKind, build, rest, first, failed⟩ := fails
  cases kind with
  | mustGatherService =>
    cases first
    exact ⟨_, _, _, rfl, Build.mustGatherClaim_eq_error failed otherClass⟩
  | healthService => exact ⟨childKind, build, rest, first, failed⟩
  | mustGatherJob => exact ⟨childKind, build, rest, first, failed⟩
  | mustGatherConfig => exact ⟨childKind, build, rest, first, failed⟩

namespace MemoryStore

variable {store : MemoryStore} {parent : Object (.parent kind)} {ns name : String}

/-- Whether a pass over a parent fails after some reads, whatever else a quiet store holds. -/
def FailsAtOnce (surroundings : Surroundings) (parent : Object (.parent kind)) (ns name : String)
    (error : Error) : Prop :=
  ∀ store : MemoryStore, store.Quiet → store.WellFormed →
    store.object? (.parent kind) ns name = some parent →
    ∃ calls, store.run (pass surroundings kind ns name) = (.error error, store.reading calls)

/-- A pass over a stored parent fails at once, or the parent can own children, gives its namespace
and its name, and has a first child that can be built. -/
theorem failsAtOnce_or (surroundings : Surroundings) (stored : parent.IsStored ns name) :
    (∃ error, FailsAtOnce surroundings parent ns name error) ∨
      (∃ owner, parent.controllerReference = .ok owner) ∧ parent.metadata.ns = some ns ∧
        parent.metadata.name = some name ∧ ∀ error, ¬ FirstFails surroundings "" parent error := by
  cases owns : parent.controllerReference with
  | error error =>
    refine Or.inl ⟨error, fun store quiet wellFormed found => ?_⟩
    obtain ⟨calls, -, -, ran⟩ := run_pass_of_some quiet wellFormed surroundings found
    exact ⟨[⟨.get, .parent kind, name⟩], ran.trans (by rw [owns]; rfl)⟩
  | ok owner =>
    by_cases fails : ∃ error, FirstFails surroundings "" parent error
    · obtain ⟨error, fails⟩ := fails
      refine Or.inl ⟨error, fun store quiet wellFormed found => ?_⟩
      obtain ⟨calls, -, -, ran⟩ := run_pass_of_some quiet wellFormed surroundings found
      obtain ⟨childKind, build, rest, first, failed⟩ :=
        fails.of_class (store.classFor ns kind parent)
      refine ⟨calls, ran.trans ?_⟩
      rw [owns, first]
      exact run_performSteps_of_unbuilt failed
    · have builds : ∀ error, ¬ FirstFails surroundings "" parent error := not_exists.mp fails
      obtain ⟨childKind, build, rest, first⟩ := exists_stepsWith_eq_child surroundings "" parent
      cases built : build parent with
      | error error => exact absurd ⟨childKind, build, rest, first, built⟩ (builds error)
      | ok desired =>
        obtain ⟨nsGiven, nameGiven⟩ := stored.given owns first built
        exact Or.inr ⟨⟨owner, rfl⟩, nsGiven, nameGiven, builds⟩

/-- A pass writes its own places and no other. -/
theorem document?_run_pass (quiet : store.Quiet) (wellFormed : store.WellFormed)
    {surroundings : Surroundings} (found : store.object? (.parent kind) ns name = some parent)
    {key : Key} (notOwn : key ∉ ownKeys surroundings parent ns name) :
    (store.run (pass surroundings kind ns name)).2.document? key = store.document? key := by
  obtain ⟨notParent, notChild⟩ := not_or.mp (mt List.mem_cons.mpr notOwn)
  rcases failsAtOnce_or surroundings (isStored_of_object? wellFormed found) with
    ⟨error, fails⟩ | ⟨⟨owner, owns⟩, nsGiven, nameGiven, -⟩
  · obtain ⟨calls, ran⟩ := fails store quiet wellFormed found
    rw [ran]
    rfl
  · obtain ⟨calls, -, -, ran⟩ := run_pass_of_some quiet wellFormed surroundings found
    have underway : Underway (store.reading calls) parent ns name :=
      ⟨quiet, wellFormed, (object?_eq_some_iff wellFormed).mp found, nsGiven, nameGiven⟩
    rw [ran, owns]
    refine (document?_run_performSteps underway (isStable_stepsWith _ _ _) ?_ notParent).trans rfl
    rwa [builtKeys_stepsWith]

end MemoryStore

end Caretaker
