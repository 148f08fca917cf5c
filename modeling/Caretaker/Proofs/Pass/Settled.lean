import Caretaker.Proofs.Pass.History

/-!
# Steps that find everything settled

Steps are settled over a store (`Settles`) if every child that they build is there, replacing it by
its desired objects ends with a given child, and the parent in hand lists the pods already.  Such
steps succeed and at most refresh the versions of children (`Settles.performed`).  Steps that were
performed once are settled over the store that they left (`Performed.settles`).
-/

namespace Caretaker

variable {kind : ParentKind}

/-- What is left by steps that at most refresh children of a namespace: nothing is created, no status
is written, and only updated children are stored again. -/
structure Refreshed (ns : String) (store after : MemoryStore) (changes : List Change) : Prop where
  rewritten : ∀ key, after.document? key = store.document? key ∨
    ∃ change ∈ changes, change.outcome = .updated ∧ key = ⟨.child change.kind, ns, change.name⟩
  assigned : after.assigned = store.assigned
  calls : ∃ calls, after.calls = store.calls ++ calls ∧
    ∀ call ∈ calls, call.verb ≠ .create ∧ call.verb ≠ .updateStatus
  outcomes : ∀ change ∈ changes, change.outcome ≠ .created

namespace Refreshed

variable {ns : String} {store between after : MemoryStore} {changes later : List Change}

theorem refl (ns : String) (store : MemoryStore) : Refreshed ns store store [] where
  rewritten _ := Or.inl rfl
  assigned := rfl
  calls := ⟨[], (List.append_nil _).symm, nofun⟩
  outcomes := nofun

theorem trans (first : Refreshed ns store between changes)
    (second : Refreshed ns between after later) : Refreshed ns store after (changes ++ later) where
  rewritten key := by
    rcases second.rewritten key with same | ⟨change, member, rest⟩
    · rcases first.rewritten key with before | ⟨change, member, rest⟩
      · exact Or.inl (same.trans before)
      · exact Or.inr ⟨change, List.mem_append_left _ member, rest⟩
    · exact Or.inr ⟨change, List.mem_append_right _ member, rest⟩
  assigned := second.assigned.trans first.assigned
  calls := by
    obtain ⟨calls, same, gentle⟩ := first.calls
    obtain ⟨more, moreSame, moreGentle⟩ := second.calls
    refine ⟨calls ++ more, by rw [moreSame, same, List.append_assoc], fun call member => ?_⟩
    exact (List.mem_append.mp member).elim (gentle call) (moreGentle call)
  outcomes change member := (List.mem_append.mp member).elim (first.outcomes change)
    (second.outcomes change)

/-- Only the version of a refreshed child, if anything, is new. -/
theorem others (refreshed : Refreshed ns store after changes) {key : Key}
    (notChild : ∀ childKind, key.kind ≠ .child childKind) :
    after.document? key = store.document? key := by
  rcases refreshed.rewritten key with same | ⟨change, -, -, isChild⟩
  · exact same
  · exact absurd (congrArg Key.kind isChild) (notChild _)

theorem called {verb : Verb} (ns : String) (store : MemoryStore)
    (gentle : verb ≠ .create ∧ verb ≠ .updateStatus) (callKind : Kind) (name : String) :
    Refreshed ns store (store.called verb callKind name) [] where
  rewritten _ := Or.inl rfl
  assigned := rfl
  calls := ⟨[⟨verb, callKind, name⟩], rfl, fun _ member => by
    cases List.mem_singleton.mp member
    exact gentle⟩
  outcomes := nofun

/-- A child that was not created is at most refreshed. -/
theorem leave {childKind : ChildKind} {became : Converged childKind} {childName : String}
    (notCreated : became.outcome ≠ .created) (wellFormed : store.WellFormed)
    (unchanged : became.outcome = .unchanged →
      store.object? (.child childKind) ns childName = some became.object)
    (named : became.object.nameD = childName) :
    Refreshed ns store (became.leave store ns childName) [became.change] where
  rewritten key := by
    by_cases here : key = ⟨.child childKind, ns, childName⟩
    · cases outcome : became.outcome with
      | created => exact absurd outcome notCreated
      | updated =>
        refine Or.inr ⟨became.change, List.mem_singleton.mpr rfl, outcome, ?_⟩
        rw [here, ← named]
        rfl
      | unchanged =>
        refine Or.inl ?_
        have same := MemoryStore.put_of_object? wellFormed (unchanged outcome)
        show (store.put ns childName became.object).document? key = _
        rw [same]
    · exact Or.inl ((MemoryStore.document?_put _ _ _ _ _).trans (if_neg here))
  assigned := by
    show store.assigned + became.outcome.assigns = store.assigned
    cases outcome : became.outcome with
    | created => exact absurd outcome notCreated
    | updated => rfl
    | unchanged => rfl
  calls := by
    refine ⟨became.outcome.verbs.map fun verb => ⟨verb, .child childKind, childName⟩, rfl, ?_⟩
    cases outcome : became.outcome with
    | created => exact absurd outcome notCreated
    | updated => simp [Outcome.verbs]
    | unchanged => simp [Outcome.verbs]
  outcomes change member := by
    rw [List.mem_singleton.mp member]
    exact notCreated

end Refreshed

/-- Whether steps have nothing to create and no pods to report; `target` is what their replacements
make of the children. -/
structure Settles (owner : OwnerReference) (base : Object (.parent kind)) (ns : String)
    (target : (childKind : ChildKind) → String → String → Option (Child childKind))
    (steps : List (Step kind)) (parent : Object (.parent kind)) (store : MemoryStore) : Prop where
  present : ∀ childKind build, Step.child childKind build ∈ steps →
    ∃ desired childName, build base = .ok desired ∧ desired.metadata.ns = some ns ∧
      desired.metadata.name = some childName ∧ (store.child? childKind ns childName).isSome
  replaced : ∀ childKind childNs childName, childKind.isCreateOnly = false →
    desiredAt base childKind childNs childName steps ≠ [] →
    ∃ live final, store.child? childKind childNs childName = some live ∧
      live.metadata.ns = some childNs ∧ live.metadata.name = some childName ∧
      (desiredAt base childKind childNs childName steps).foldlM (replacement owner) live =
        .ok final ∧ target childKind childNs childName = some final
  kept : ∀ childKind childNs childName,
    childKind.isCreateOnly = true ∨ desiredAt base childKind childNs childName steps = [] →
    target childKind childNs childName = store.child? childKind childNs childName
  reported : ∀ list labels, Step.report list labels ∈ steps →
    list.names parent = podNames (store.pods ns (labels base))

/-- Whether a child, up to its version, is what the first step makes of the one that is there, and
the other steps make of it what the target has. -/
structure LeadsOn (owner : OwnerReference) (base : Object (.parent kind)) (ns : String)
    (target : (childKind : ChildKind) → String → String → Option (Child childKind))
    (steps : List (Step kind)) (store : MemoryStore) {stepKind : ChildKind} (stepName : String)
    (next : Child stepKind) : Prop where
  stays : stepKind.isCreateOnly = true → store.child? stepKind ns stepName = some next
  follows : stepKind.isCreateOnly = false →
    next.metadata.ns = some ns ∧ next.metadata.name = some stepName ∧
      ∃ final, (desiredAt base stepKind ns stepName steps).foldlM (replacement owner) next =
          .ok final ∧
        target stepKind ns stepName = some final

/-- A child of a kind that is not only created is replaced under its next version. -/
theorem exists_converged_of_replacement {store : MemoryStore} {owner : OwnerReference}
    {childKind : ChildKind} {desired live next : Child childKind} {childNs childName : String}
    (uid : String) (isMutable : childKind.isCreateOnly = false)
    (found : store.child? childKind childNs childName = some live)
    (nsGiven : live.metadata.ns = some childNs) (nameGiven : live.metadata.name = some childName)
    (replaced : replacement owner live desired = .ok next) :
    ∃ became, converged owner desired uid (store.object? (.child childKind) childNs childName) =
        .ok became ∧ became.outcome = .updated ∧ became.object.unversioned = next := by
  obtain ⟨object, there, rfl⟩ := Option.map_eq_some_iff.mp found
  have keeps := keeps_of_replacement replaced
  have again : replacement owner object desired =
      .ok (next.withVersion object.metadata.resourceVersion) := by
    have versioned := replacement_withVersion owner object.unversioned desired
      object.metadata.resourceVersion
    rw [replaced, Object.withVersion_unversioned, Object.withVersion_self] at versioned
    exact versioned
  have writable : Key.forWriting (next.withVersion object.metadata.resourceVersion) =
      .ok ⟨.child childKind, childNs, childName⟩ :=
    Key.forWriting_of_some (keeps.ns.trans nsGiven) (keeps.name.trans nameGiven)
  rw [there]
  refine ⟨_, converged_some_eq_ok.mpr (Or.inr ⟨isMutable, _, again, ⟨_, writable⟩, rfl⟩), rfl, ?_⟩
  exact Object.unversioned_of_none keeps.version

namespace Settles

variable {owner : OwnerReference} {base parent : Object (.parent kind)} {ns name : String}
  {target : (childKind : ChildKind) → String → String → Option (Child childKind)}
  {steps : List (Step kind)} {store : MemoryStore}

/-- Settled steps whose first one leaves a store in which only one child may have changed. -/
theorem tail {after : MemoryStore} {stepKind : ChildKind}
    {build : Object (.parent kind) → Except Error (Child stepKind)} {desired : Child stepKind}
    {stepName : String}
    (settles : Settles owner base ns target (.child stepKind build :: steps) parent store)
    (built : build base = .ok desired) (nsGiven : desired.metadata.ns = some ns)
    (nameGiven : desired.metadata.name = some stepName)
    (elsewhere : ∀ childKind childNs childName,
      (⟨.child childKind, childNs, childName⟩ : Key) ≠ ⟨.child stepKind, ns, stepName⟩ →
      after.child? childKind childNs childName = store.child? childKind childNs childName)
    (pods : ∀ labels, after.pods ns labels = store.pods ns labels)
    {next : Child stepKind} (here : after.child? stepKind ns stepName = some next)
    (leads : LeadsOn owner base ns target steps store stepName next) :
    Settles owner base ns target steps parent after where
  present childKind build member := by
    obtain ⟨desired, childName, built, nsGiven, nameGiven, present⟩ :=
      settles.present childKind build (List.mem_cons_of_mem _ member)
    refine ⟨desired, childName, built, nsGiven, nameGiven, ?_⟩
    by_cases same : (⟨.child childKind, ns, childName⟩ : Key) =
        ⟨.child stepKind, ns, stepName⟩
    · cases same
      rw [here]
      rfl
    · rwa [elsewhere _ _ _ same]
  replaced childKind childNs childName isMutable some := by
    by_cases same : (⟨.child childKind, childNs, childName⟩ : Key) =
        ⟨.child stepKind, ns, stepName⟩
    · cases same
      obtain ⟨nsKept, nameKept, final, replaced, reached⟩ := leads.follows isMutable
      exact ⟨next, final, here, nsKept, nameKept, replaced, reached⟩
    · have own := settles.replaced childKind childNs childName isMutable
      rw [desiredAt_child_of_ne built nsGiven nameGiven same] at own
      rw [elsewhere _ _ _ same]
      exact own some
  kept childKind childNs childName none := by
    by_cases same : (⟨.child childKind, childNs, childName⟩ : Key) =
        ⟨.child stepKind, ns, stepName⟩
    · cases same
      rw [here]
      cases onlyCreated : stepKind.isCreateOnly with
      | true =>
        rw [settles.kept stepKind ns stepName (Or.inl onlyCreated)]
        exact leads.stays onlyCreated
      | false =>
        obtain ⟨-, -, final, replaced, reached⟩ := leads.follows onlyCreated
        rw [onlyCreated] at none
        rw [none.resolve_left nofun] at replaced
        cases replaced
        exact reached
    · have own := settles.kept childKind childNs childName
      rw [desiredAt_child_of_ne built nsGiven nameGiven same] at own
      rw [elsewhere _ _ _ same]
      exact own none
  reported list labels member := by
    rw [pods]
    exact settles.reported list labels (List.mem_cons_of_mem _ member)

/-- What becomes of the first child of settled steps: it is not created, and the desired objects of
the steps that follow lead on to the target. -/
theorem exists_converged {stepKind : ChildKind}
    {build : Object (.parent kind) → Except Error (Child stepKind)}
    (settles : Settles owner base ns target (.child stepKind build :: steps) parent store)
    (wellFormed : store.WellFormed) :
    ∃ desired stepName became, build base = .ok desired ∧
      desired.metadata.ns = some ns ∧ desired.metadata.name = some stepName ∧
      converged owner desired store.nextUid (store.object? (.child stepKind) ns stepName) =
        .ok became ∧
      became.outcome ≠ .created ∧
      (became.outcome = .unchanged →
        store.object? (.child stepKind) ns stepName = some became.object) ∧
      LeadsOn owner base ns target steps store stepName became.object.unversioned := by
  obtain ⟨desired, stepName, built, nsGiven, nameGiven, present⟩ :=
    settles.present stepKind build List.mem_cons_self
  cases onlyCreated : stepKind.isCreateOnly with
  | true =>
    obtain ⟨object, there⟩ : ∃ object,
        store.object? (.child stepKind) ns stepName = some object := by
      rw [MemoryStore.child?, Option.isSome_map] at present
      exact Option.isSome_iff_exists.mp present
    have stays : store.child? stepKind ns stepName = some object.unversioned := by
      rw [MemoryStore.child?, there]
      rfl
    refine ⟨desired, stepName, ⟨.unchanged, object⟩, built, nsGiven, nameGiven, ?_,
      Outcome.noConfusion, fun _ => there, fun _ => stays, fun isMutable => ?_⟩
    · rw [there]
      exact converged_some_eq_ok.mpr (Or.inl ⟨onlyCreated, rfl⟩)
    · cases onlyCreated.symm.trans isMutable
  | false =>
    have own := settles.replaced stepKind ns stepName onlyCreated
    rw [desiredAt_child_self built nsGiven nameGiven] at own
    obtain ⟨live, final, found, nsKept, nameKept, replaced, reached⟩ :=
      own (List.cons_ne_nil _ _)
    rw [List.foldlM_cons] at replaced
    cases first : replacement owner live desired with
    | error error =>
      rw [first] at replaced
      cases replaced
    | ok next =>
      rw [first] at replaced
      obtain ⟨became, result, outcome, object⟩ :=
        exists_converged_of_replacement store.nextUid onlyCreated found nsKept nameKept first
      have given := given_of_converged onlyCreated nsGiven nameGiven
        (fun _ => MemoryStore.isStored_of_object? wellFormed) result
      refine ⟨desired, stepName, became, built, nsGiven, nameGiven, result,
        by simp [outcome], by simp [outcome], fun createOnly => ?_,
        fun _ => ⟨given.1, given.2, final, ?_, reached⟩⟩
      · cases onlyCreated.symm.trans createOnly
      · rw [object]
        exact replaced

/-- Settled steps succeed, at most refresh children, and end with the target. -/
theorem performed (settles : Settles owner base ns target steps parent store)
    (before : Underway store parent ns name) :
    ∃ changes after, Performed owner base ns name steps parent store changes parent after ∧
      (∀ childKind childNs childName,
        after.child? childKind childNs childName = target childKind childNs childName) ∧
      Refreshed ns store after changes := by
  induction steps generalizing store with
  | nil =>
    refine ⟨[], store, .nil, fun childKind childNs childName => ?_, .refl ns store⟩
    exact (settles.kept childKind childNs childName (Or.inr rfl)).symm
  | cons step rest ih =>
    cases step with
    | child stepKind build =>
      obtain ⟨desired, stepName, became, built, nsGiven, nameGiven, result, notCreated, unchanged,
        leads⟩ := settles.exists_converged before.wellFormed
      have next := before.leave nsGiven nameGiven result
      have stored := isStored_of_converged nsGiven nameGiven
        (fun _ => MemoryStore.isStored_of_object? before.wellFormed) result
      have single : Performed owner base ns name [.child stepKind build] parent store
          [became.change] parent (became.leave store ns stepName) :=
        .child built nsGiven nameGiven result .nil
      have restSettles : Settles owner base ns target rest parent
          (became.leave store ns stepName) :=
        settles.tail built nsGiven nameGiven
          (fun _ _ _ apart => MemoryStore.child?_leave_of_ne became apart) (single.pods before ns)
          (MemoryStore.child?_leave_self became) leads
      obtain ⟨changes, after, performed, reached, refreshed⟩ := ih restSettles next
      exact ⟨_, after, single.append performed, reached,
        (Refreshed.leave notCreated before.wellFormed unchanged stored.name).trans refreshed⟩
    | report list labels =>
      have same := settles.reported list labels List.mem_cons_self
      have leave : list.leave (labels base) parent store ns name = store.called .list .pod "" := by
        rw [PodList.leave, if_pos same]
      have reported : list.reported (podNames (store.pods ns (labels base))) parent = parent := by
        rw [PodList.reported, if_pos same]
      have next := before.report list (labels base)
      rw [leave, reported] at next
      have restSettles : Settles owner base ns target rest parent (store.called .list .pod "") :=
        ⟨fun childKind build member => settles.present childKind build (List.mem_cons_of_mem _ member),
          settles.replaced, settles.kept,
          fun list labels member => settles.reported list labels (List.mem_cons_of_mem _ member)⟩
      obtain ⟨changes, after, performed, reached, refreshed⟩ := ih restSettles next
      refine ⟨changes, after, .report ?_, reached, ?_⟩
      · rw [leave, reported]
        exact performed
      · exact (Refreshed.called ns store (by simp) .pod "").trans refreshed

end Settles

namespace Performed

variable {owner : OwnerReference} {base parent last : Object (.parent kind)} {ns name : String}
  {steps : List (Step kind)} {store after other : MemoryStore} {changes : List Change}

/-- Steps that were performed are settled over every store that is like the one they left. -/
theorem settles (performed : Performed owner base ns name steps parent store changes last after)
    (before : Underway store parent ns name) (once : (reportedLists steps).Nodup)
    (placed : ∀ step ∈ steps, step.IsPlaced) (given : base.metadata.ns = some ns)
    (alike : MemoryStore.Alike after other) :
    Settles owner base ns (other.child? · · ·) steps last other where
  present childKind build member := by
    obtain ⟨desired, childNs, childName, built, nsGiven, nameGiven, present⟩ :=
      performed.exists_child before member
    obtain ⟨_, parentNs, childNs'⟩ := placed _ member base desired built
    cases given.symm.trans parentNs
    cases nsGiven.symm.trans childNs'
    exact ⟨desired, childName, built, nsGiven, nameGiven, alike.children _ _ _ ▸ present⟩
  replaced childKind childNs childName isMutable some := by
    obtain ⟨final, found, ns, name, replaced⟩ := performed.replays before isMutable some
    rw [alike.children] at found
    exact ⟨final, final, found, ns, name, replaced, found⟩
  kept _ _ _ _ := rfl
  reported list labels member := by
    rw [performed.names_of_mem before once member, ← alike.pods, performed.pods before]

end Performed

end Caretaker
