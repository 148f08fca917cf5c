import Caretaker.Proofs.Pass.Frame

/-!
# What steps make of each child

Steps act on a child one after the other, each with its own desired object (`desiredAt`).  What they
leave of it is therefore a repeated replacement of what was there (`Performed.history`), and
repeating the same replacements changes nothing (`Performed.replays`).
-/

namespace Caretaker

variable {kind : ParentKind}

/-- The desired object that a step has for the child under a namespace and a name, if any. -/
def Step.desired? (base : Object (.parent kind)) (childKind : ChildKind) (ns name : String) :
    Step kind → Option (Child childKind)
  | .report .. => none
  | .child stepKind build =>
    match build base with
    | .error _ => none
    | .ok desired =>
      if same : stepKind = childKind then
        if desired.metadata.ns = some ns ∧ desired.metadata.name = some name then
          some (same ▸ desired)
        else none
      else none

/-- The desired objects that steps have for the child under a namespace and a name. -/
def desiredAt (base : Object (.parent kind)) (childKind : ChildKind) (ns name : String)
    (steps : List (Step kind)) : List (Child childKind) :=
  steps.filterMap (Step.desired? base childKind ns name)

section Desired

variable {base : Object (.parent kind)} {childKind : ChildKind}
  {build : Object (.parent kind) → Except Error (Child childKind)} {desired : Child childKind}
  {ns name : String} {steps : List (Step kind)}

theorem desiredAt_child_self (built : build base = .ok desired)
    (nsGiven : desired.metadata.ns = some ns) (nameGiven : desired.metadata.name = some name) :
    desiredAt base childKind ns name (.child childKind build :: steps) =
      desired :: desiredAt base childKind ns name steps := by
  have here : Step.desired? base childKind ns name (.child childKind build) = some desired := by
    simp [Step.desired?, built, nsGiven, nameGiven]
  rw [desiredAt, List.filterMap_cons, here]
  rfl

theorem desiredAt_child_of_ne (built : build base = .ok desired)
    (nsGiven : desired.metadata.ns = some ns) (nameGiven : desired.metadata.name = some name)
    {otherKind : ChildKind} {otherNs otherName : String}
    (apart : (⟨.child otherKind, otherNs, otherName⟩ : Key) ≠ ⟨.child childKind, ns, name⟩) :
    desiredAt base otherKind otherNs otherName (.child childKind build :: steps) =
      desiredAt base otherKind otherNs otherName steps := by
  have elsewhere :
      Step.desired? base otherKind otherNs otherName (.child childKind build) = none := by
    simp only [Step.desired?, built, nsGiven, nameGiven, Option.some.injEq]
    split
    case isTrue same =>
      subst same
      refine if_neg ?_
      rintro ⟨rfl, rfl⟩
      exact apart rfl
    case isFalse => rfl
  rw [desiredAt, List.filterMap_cons, elsewhere]
  rfl

end Desired

namespace MemoryStore

variable {store : MemoryStore} {childKind : ChildKind} {ns name : String}

theorem child?_leave_self (became : Converged childKind) :
    (became.leave store ns name).child? childKind ns name = some became.object.unversioned :=
  store.child?_put_self ns name became.object

theorem child?_leave_of_ne (became : Converged childKind) {otherKind : ChildKind}
    {otherNs otherName : String}
    (apart : (⟨.child otherKind, otherNs, otherName⟩ : Key) ≠ ⟨.child childKind, ns, name⟩) :
    (became.leave store ns name).child? otherKind otherNs otherName =
      store.child? otherKind otherNs otherName :=
  store.child?_put_of_ne became.object apart

end MemoryStore

theorem Underway.child?_report {store : MemoryStore} {parent : Object (.parent kind)}
    {ns name : String} (underway : Underway store parent ns name) (list : PodList kind)
    (labels : LabelMap) (childKind : ChildKind) (childNs childName : String) :
    (list.leave labels parent store ns name).child? childKind childNs childName =
      store.child? childKind childNs childName := by
  rw [MemoryStore.child?, MemoryStore.object?, MemoryStore.document?, underway.objects_leave]
  exact store.child?_put_of_ne _ (by simp)

/-- What became of a child of a kind that is not only created is the replacement of what was there,
or of itself if nothing was there. -/
theorem replacement_of_converged {childKind : ChildKind} {owner : OwnerReference}
    {desired : Child childKind} {uid : String} {live : Option (Child childKind)}
    {became : Converged childKind} (isMutable : childKind.isCreateOnly = false)
    (result : converged owner desired uid live = .ok became) :
    replacement owner ((live.map Object.unversioned).getD became.object.unversioned) desired =
      .ok became.object.unversioned := by
  cases live with
  | none =>
    obtain ⟨child, took, rfl⟩ := converged_none_eq_ok.mp result
    obtain ⟨references, attached, rfl⟩ := Object.attachOwner_eq_ok.mp took
    have owned : ((desired.withOwners references).numbered uid).unversioned.attachOwner owner =
        .ok ((desired.withOwners references).numbered uid).unversioned :=
      Object.attachOwner_eq_ok.mpr ⟨references, attachReference_again attached, rfl⟩
    exact replacement_eq_ok.mpr ⟨_, owned, merged_of_alike rfl rfl rfl⟩
  | some live =>
    rcases converged_some_eq_ok.mp result with ⟨createOnly, -⟩ | ⟨-, child, replaced, -, rfl⟩
    · rw [createOnly] at isMutable
      cases isMutable
    · rw [Option.map_some, Option.getD_some, Object.unversioned, replacement_withVersion, replaced]
      rfl

namespace Performed

variable {owner : OwnerReference} {base parent last : Object (.parent kind)} {ns name : String}
  {steps : List (Step kind)} {store after : MemoryStore} {changes : List Change}

/-- A child for which no step has a desired object stays as it is; any other one is what the desired
objects make of it, or of some first child if there was none. -/
theorem history (performed : Performed owner base ns name steps parent store changes last after)
    (before : Underway store parent ns name) {childKind : ChildKind}
    (isMutable : childKind.isCreateOnly = false) (childNs childName : String) :
    desiredAt base childKind childNs childName steps = [] ∧
        after.child? childKind childNs childName = store.child? childKind childNs childName ∨
      ∃ start final, (∀ child, store.child? childKind childNs childName = some child →
          start = child) ∧
        (desiredAt base childKind childNs childName steps).foldlM (replacement owner) start =
          .ok final ∧
        after.child? childKind childNs childName = some final ∧
        final.metadata.ns = some childNs ∧ final.metadata.name = some childName := by
  induction performed with
  | nil => exact Or.inl ⟨rfl, rfl⟩
  | @child stepKind build rest _ _ between _ desired stepNs stepName became _ built nsGiven nameGiven
      result _ ih =>
    have later := ih (before.leave nsGiven nameGiven result)
    by_cases here : (⟨.child childKind, childNs, childName⟩ : Key) =
        ⟨.child stepKind, stepNs, stepName⟩
    · cases here
      obtain ⟨finalNs, finalName⟩ := given_of_converged isMutable nsGiven nameGiven
        (fun _ => MemoryStore.isStored_of_object? before.wellFormed) result
      have first := replacement_of_converged isMutable result
      rw [desiredAt_child_self built nsGiven nameGiven]
      rw [MemoryStore.child?_leave_self] at later
      refine Or.inr ⟨(between.child? childKind childNs childName).getD became.object.unversioned, ?_⟩
      have start : ∀ child, between.child? childKind childNs childName = some child →
          (between.child? childKind childNs childName).getD became.object.unversioned = child := by
        intro child found
        rw [found, Option.getD_some]
      rcases later with ⟨none, kept⟩ | ⟨next, final, same, replaced, found, given⟩
      · refine ⟨became.object.unversioned, start, ?_, kept, finalNs, finalName⟩
        rw [none, List.foldlM_cons, MemoryStore.child?, first]
        rfl
      · cases same _ rfl
        refine ⟨final, start, ?_, found, given⟩
        rw [List.foldlM_cons, MemoryStore.child?, first]
        exact replaced
    · rw [desiredAt_child_of_ne built nsGiven nameGiven here]
      rwa [MemoryStore.child?_leave_of_ne _ here] at later
  | report _ ih =>
    have later := ih (before.report _ _)
    rwa [before.child?_report] at later

/-- Replacing a child by the same desired objects again changes nothing. -/
theorem replays (performed : Performed owner base ns name steps parent store changes last after)
    (before : Underway store parent ns name) {childKind : ChildKind}
    (isMutable : childKind.isCreateOnly = false) {childNs childName : String}
    (desired : desiredAt base childKind childNs childName steps ≠ []) :
    ∃ final, after.child? childKind childNs childName = some final ∧
      final.metadata.ns = some childNs ∧ final.metadata.name = some childName ∧
      (desiredAt base childKind childNs childName steps).foldlM (replacement owner) final =
        .ok final := by
  rcases performed.history before isMutable childNs childName with
    ⟨none, -⟩ | ⟨start, final, -, replaced, found, ns, name⟩
  · exact absurd none desired
  · exact ⟨final, found, ns, name, foldlM_replacement_again replaced⟩

/-- No child disappears. -/
theorem isSome_child? (performed : Performed owner base ns name steps parent store changes last after)
    (before : Underway store parent ns name) {childKind : ChildKind} {childNs childName : String}
    (present : (store.child? childKind childNs childName).isSome) :
    (after.child? childKind childNs childName).isSome := by
  induction performed with
  | nil => exact present
  | @child stepKind _ _ _ _ _ _ _ stepNs stepName _ _ _ nsGiven nameGiven result _ ih =>
    refine ih (before.leave nsGiven nameGiven result) ?_
    by_cases here : (⟨.child childKind, childNs, childName⟩ : Key) =
        ⟨.child stepKind, stepNs, stepName⟩
    · cases here
      rw [MemoryStore.child?_leave_self]
      rfl
    · rwa [MemoryStore.child?_leave_of_ne _ here]
  | report _ ih =>
    refine ih (before.report _ _) ?_
    rwa [before.child?_report]

/-- Every child that a step builds is there in the end. -/
theorem exists_child (performed : Performed owner base ns name steps parent store changes last after)
    (before : Underway store parent ns name) {childKind : ChildKind}
    {build : Object (.parent kind) → Except Error (Child childKind)}
    (member : Step.child childKind build ∈ steps) :
    ∃ desired childNs childName, build base = .ok desired ∧
      desired.metadata.ns = some childNs ∧ desired.metadata.name = some childName ∧
      (after.child? childKind childNs childName).isSome := by
  induction performed with
  | nil => cases member
  | child built nsGiven nameGiven result rest ih =>
    have next := before.leave nsGiven nameGiven result
    rcases List.mem_cons.mp member with here | later
    · cases here
      refine ⟨_, _, _, built, nsGiven, nameGiven, rest.isSome_child? next ?_⟩
      rw [MemoryStore.child?_leave_self]
      rfl
    · exact ih next later
  | report _ ih => exact ih (before.report _ _) ((List.mem_cons.mp member).resolve_left nofun)

end Performed

end Caretaker
