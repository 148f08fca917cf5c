import Caretaker.Proofs.Pass.Request
import Caretaker.Proofs.Store.Alike

/-!
# Steps that were performed

`Performed` says what a list of steps does to a quiet store when all of them succeed.  The children
and labels are those of the parent that the pass began with, while reports act on the parent in
hand.  Running the steps succeeds exactly in this way (`MemoryStore.run_performSteps_eq_ok`).
-/

namespace Caretaker

variable {kind : ParentKind}

/-- The store after a report of pods for a parent in hand. -/
def PodList.leave (list : PodList kind) (labels : LabelMap) (parent : Object (.parent kind))
    (store : MemoryStore) (ns name : String) : MemoryStore :=
  if list.names parent = podNames (store.pods ns labels) then store.called .list .pod ""
  else
    ((store.called .list .pod "").called .updateStatus (.parent kind) name).put ns name
      (list.reported (podNames (store.pods ns labels)) parent)

@[simp]
theorem PodList.assigned_leave (list : PodList kind) (labels : LabelMap)
    (parent : Object (.parent kind)) (store : MemoryStore) (ns name : String) :
    (list.leave labels parent store ns name).assigned = store.assigned := by
  rw [PodList.leave]
  split <;> rfl

/-- What steps do that all succeed, for a parent under the given namespace and name: the changes of
children, the parent that is then in hand, and the store that is left. -/
inductive Performed (owner : OwnerReference) (base : Object (.parent kind)) (ns name : String) :
    List (Step kind) → Object (.parent kind) → MemoryStore →
      List Change → Object (.parent kind) → MemoryStore → Prop where
  | nil {parent : Object (.parent kind)} {store : MemoryStore} :
    Performed owner base ns name [] parent store [] parent store
  | child {childKind : ChildKind} {build : Object (.parent kind) → Except Error (Child childKind)}
    {steps : List (Step kind)} {parent last : Object (.parent kind)} {store after : MemoryStore}
    {desired : Child childKind} {childNs childName : String} {became : Converged childKind}
    {changes : List Change} (built : build base = .ok desired)
    (nsGiven : desired.metadata.ns = some childNs)
    (nameGiven : desired.metadata.name = some childName)
    (result : converged owner desired store.nextUid
      (store.object? (.child childKind) childNs childName) = .ok became)
    (rest : Performed owner base ns name steps parent (became.leave store childNs childName)
      changes last after) :
    Performed owner base ns name (.child childKind build :: steps) parent store
      (became.change :: changes) last after
  | report {list : PodList kind} {labels : Object (.parent kind) → LabelMap}
    {steps : List (Step kind)} {parent last : Object (.parent kind)} {store after : MemoryStore}
    {changes : List Change}
    (rest : Performed owner base ns name steps
      (list.reported (podNames (store.pods ns (labels base))) parent)
      (list.leave (labels base) parent store ns name) changes last after) :
    Performed owner base ns name (.report list labels :: steps) parent store changes last after

namespace Underway

variable {store : MemoryStore} {parent : Object (.parent kind)} {ns name : String}

theorem object? (underway : Underway store parent ns name) :
    store.object? (.parent kind) ns name = some parent :=
  (MemoryStore.object?_eq_some_iff underway.wellFormed).mpr underway.stored

/-- A pass goes on after a child was converged. -/
theorem leave (underway : Underway store parent ns name) {owner : OwnerReference}
    {childKind : ChildKind} {desired : Child childKind} {childNs childName : String}
    {became : Converged childKind} (nsGiven : desired.metadata.ns = some childNs)
    (nameGiven : desired.metadata.name = some childName)
    (result : converged owner desired store.nextUid
      (store.object? (.child childKind) childNs childName) = .ok became) :
    Underway (became.leave store childNs childName) parent ns name where
  quiet := underway.quiet
  wellFormed := by
    have stored := isStored_of_converged nsGiven nameGiven
      (fun _ => MemoryStore.isStored_of_object? underway.wellFormed) result
    exact underway.wellFormed.put stored rfl
  stored := by
    show (store.put childNs childName became.object).document? _ = _
    rw [MemoryStore.document?_put, if_neg (fun same => by cases congrArg Key.kind same)]
    exact underway.stored
  nsGiven := underway.nsGiven
  nameGiven := underway.nameGiven

/-- The objects after a report are those with the reported parent in its place. -/
theorem objects_leave (underway : Underway store parent ns name) (list : PodList kind)
    (labels : LabelMap) :
    (list.leave labels parent store ns name).objects =
      (store.put ns name (list.reported (podNames (store.pods ns labels)) parent)).objects := by
  unfold PodList.leave
  split
  case isTrue same =>
    rw [PodList.reported, if_pos same,
      MemoryStore.put_of_object? underway.wellFormed underway.object?]
    rfl
  case isFalse => rfl

/-- A pass goes on after a report. -/
theorem report (underway : Underway store parent ns name) (list : PodList kind)
    (labels : LabelMap) :
    Underway (list.leave labels parent store ns name)
      (list.reported (podNames (store.pods ns labels)) parent) ns name := by
  have objects := underway.objects_leave list labels
  have same := SameRequest.reported list (podNames (store.pods ns labels)) parent
  have isStored := MemoryStore.isStored_of_object? underway.wellFormed underway.object?
  have reported :
      (list.reported (podNames (store.pods ns labels)) parent).IsStored ns name := by
    refine ⟨?_, ?_, ?_, ?_⟩
    · exact (congrArg (·.getD "") same.ns).trans isStored.ns
    · exact (congrArg (·.getD "") same.name).trans isStored.name
    · exact (congrArg Option.isSome same.uid).trans isStored.uid
    · unfold PodList.reported
      split
      · exact isStored.version
      · rfl
  refine ⟨?_, underway.wellFormed.put reported objects, ?_, same.ns.trans underway.nsGiven,
    same.name.trans underway.nameGiven⟩
  · unfold PodList.leave
    split <;> exact underway.quiet
  · rw [MemoryStore.document?, objects]
    exact (MemoryStore.document?_put _ _ _ _ _).trans (if_pos rfl)

end Underway

namespace MemoryStore

variable {store after : MemoryStore} {owner : OwnerReference} {base parent : Object (.parent kind)}
  {ns name : String}

theorem run_reportPods_eq (underway : Underway store parent ns name) (list : PodList kind)
    (labels : LabelMap) :
    ∃ wrote, store.run (reportPods list labels parent) =
      (.ok ⟨wrote, list.reported (podNames (store.pods ns labels)) parent⟩,
        list.leave labels parent store ns name) := by
  by_cases same : list.names parent = podNames (store.pods ns labels)
  · rw [run_reportPods_of_names underway same, PodList.leave, if_pos same, PodList.reported,
      if_pos same]
    exact ⟨false, rfl⟩
  · rw [run_reportPods_of_ne underway same, PodList.leave, if_neg same]
    exact ⟨true, rfl⟩

/-- Steps succeed exactly if they can be performed one after the other. -/
theorem run_performSteps_eq_ok {steps : List (Step kind)} {changes : List Change}
    (underway : Underway store parent ns name) (same : SameRequest base parent)
    (stable : ∀ step ∈ steps, step.IsStable) :
    store.run (performSteps owner steps parent) = (.ok changes, after) ↔
      ∃ last, Performed owner base ns name steps parent store changes last after := by
  induction steps generalizing store parent changes with
  | nil =>
    rw [performSteps, run_pure]
    constructor
    · rintro ⟨⟩
      exact ⟨parent, .nil⟩
    · rintro ⟨last, ⟨⟩⟩
      rfl
  | cons step rest ih =>
    have restStable : ∀ step ∈ rest, step.IsStable := fun other member =>
      stable other (List.mem_cons_of_mem _ member)
    cases step with
    | child childKind build =>
      have built : build base = build parent := stable _ List.mem_cons_self base parent same
      simp only [performSteps, run_bind_eq_ok, run_ofExcept, run_pure, Prod.mk.injEq,
        Except.ok.injEq]
      constructor
      · rintro ⟨desired, _, ⟨buildOk, rfl⟩, became, _, ran, others, _, restRan, rfl, rfl⟩
        obtain ⟨childNs, childName, nsGiven, nameGiven, result, rfl⟩ :=
          (run_converge_eq_ok underway.quiet underway.wellFormed).mp ran
        obtain ⟨last, performed⟩ :=
          (ih (underway.leave nsGiven nameGiven result) same restStable).mp restRan
        exact ⟨last, .child (built.trans buildOk) nsGiven nameGiven result performed⟩
      · rintro ⟨last, performed⟩
        cases performed with
        | child buildOk nsGiven nameGiven result performed =>
          exact ⟨_, _, ⟨built.symm.trans buildOk, rfl⟩, _, _,
            (run_converge_eq_ok underway.quiet underway.wellFormed).mpr
              ⟨_, _, nsGiven, nameGiven, result, rfl⟩, _, _,
            (ih (underway.leave nsGiven nameGiven result) same restStable).mpr ⟨last, performed⟩,
            rfl, rfl⟩
    | report list labels =>
      have sameLabels : labels base = labels parent := stable _ List.mem_cons_self base parent same
      obtain ⟨wrote, ran⟩ := run_reportPods_eq underway list (labels parent)
      have next (changes : List Change) :
          (list.leave (labels parent) parent store ns name).run (performSteps owner rest
              (list.reported (podNames (store.pods ns (labels parent))) parent)) =
              (.ok changes, after) ↔ ∃ last, _ :=
        ih (underway.report list (labels parent))
          (same.trans (SameRequest.reported list _ parent)) restStable
      rw [performSteps, run_bind, ran]
      constructor
      · intro restRan
        obtain ⟨last, performed⟩ := (next _).mp restRan
        exact ⟨last, .report (sameLabels ▸ performed)⟩
      · rintro ⟨last, performed⟩
        cases performed with
        | report performed => exact (next _).mpr ⟨last, sameLabels ▸ performed⟩

end MemoryStore

end Caretaker
