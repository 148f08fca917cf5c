import Caretaker.Proofs.Pass.Performed

/-!
# What steps leave alone

Steps write children and the status of the parent in hand, so the pods of the store stay as they are
(`Performed.pods`) and a list in the status holds the names of the last report of it
(`Performed.names_of_mem`).  Steps do the same in stores that are alike (`Performed.alike`).
-/

namespace Caretaker

variable {kind : ParentKind}

/-- The lists of pods that steps report. -/
def reportedLists (steps : List (Step kind)) : List (PodList kind) :=
  steps.filterMap fun step =>
    match step with
    | .child .. => none
    | .report list _ => some list

namespace Performed

variable {owner : OwnerReference} {base parent last : Object (.parent kind)} {ns name : String}
  {steps : List (Step kind)} {store after : MemoryStore} {changes : List Change}

theorem underway (performed : Performed owner base ns name steps parent store changes last after)
    (before : Underway store parent ns name) : Underway after last ns name := by
  induction performed with
  | nil => exact before
  | child _ nsGiven nameGiven result _ ih => exact ih (before.leave nsGiven nameGiven result)
  | report _ ih => exact ih (before.report _ _)

theorem sameRequest (performed : Performed owner base ns name steps parent store changes last after) :
    SameRequest parent last := by
  induction performed with
  | nil => exact .refl _
  | child _ _ _ _ _ ih => exact ih
  | report _ ih => exact (SameRequest.reported _ _ _).trans ih

theorem append {later : List (Step kind)} {laterChanges : List Change}
    {final : Object (.parent kind)} {end_ : MemoryStore}
    (first : Performed owner base ns name steps parent store changes last after)
    (second : Performed owner base ns name later last after laterChanges final end_) :
    Performed owner base ns name (steps ++ later) parent store (changes ++ laterChanges) final
      end_ := by
  induction first with
  | nil => exact second
  | child built nsGiven nameGiven result _ ih =>
    exact .child built nsGiven nameGiven result (ih second)
  | report _ ih => exact .report (ih second)

/-- Steps write only children and the parent. -/
theorem document?_of_other
    (performed : Performed owner base ns name steps parent store changes last after)
    (before : Underway store parent ns name) {key : Key}
    (notChild : ∀ childKind, key.kind ≠ .child childKind)
    (notParent : key ≠ ⟨.parent kind, ns, name⟩) :
    after.document? key = store.document? key := by
  induction performed with
  | nil => rfl
  | child _ nsGiven nameGiven result _ ih =>
    refine (ih (before.leave nsGiven nameGiven result)).trans ?_
    exact (MemoryStore.document?_put _ _ _ _ _).trans
      (if_neg fun same => notChild _ (congrArg Key.kind same))
  | report _ ih =>
    refine (ih (before.report _ _)).trans ?_
    rw [MemoryStore.document?, before.objects_leave]
    exact (MemoryStore.document?_put _ _ _ _ _).trans (if_neg notParent)

theorem pods (performed : Performed owner base ns name steps parent store changes last after)
    (before : Underway store parent ns name) (podNs : String) (labels : LabelMap) :
    after.pods podNs labels = store.pods podNs labels := by
  rw [MemoryStore.pods, MemoryStore.pods]
  rw [MemoryStore.documentsWhere_congr fun key isPod =>
    performed.document?_of_other before (by simp [isPod]) fun same => by
      rw [same] at isPod
      cases isPod]

theorem names_of_not_mem
    (performed : Performed owner base ns name steps parent store changes last after)
    {list : PodList kind} (notReported : list ∉ reportedLists steps) :
    list.names last = list.names parent := by
  induction performed with
  | nil => rfl
  | child _ _ _ _ _ ih => exact ih notReported
  | report _ ih =>
    obtain ⟨apart, later⟩ := not_or.mp (mt List.mem_cons.mpr notReported)
    exact (ih later).trans (PodList.names_reported_of_ne apart _ _)

/-- A list that is reported once holds the names of the pods at the end. -/
theorem names_of_mem
    (performed : Performed owner base ns name steps parent store changes last after)
    (before : Underway store parent ns name) (once : (reportedLists steps).Nodup)
    {list : PodList kind} {labels : Object (.parent kind) → LabelMap}
    (member : Step.report list labels ∈ steps) :
    list.names last = podNames (store.pods ns (labels base)) := by
  induction performed with
  | nil => cases member
  | child built nsGiven nameGiven result _ ih =>
    have later := (List.mem_cons.mp member).resolve_left nofun
    rw [ih (before.leave nsGiven nameGiven result) once later,
      (Performed.child built nsGiven nameGiven result .nil).pods before]
  | @report reportedList labelsOf _ inHand _ between _ _ rest ih =>
    obtain ⟨notLater, once⟩ := List.nodup_cons.mp once
    rcases List.mem_cons.mp member with here | later
    · cases here
      rw [rest.names_of_not_mem notLater, PodList.names_reported]
    · have single : Performed owner base ns name [.report reportedList labelsOf] inHand between []
          _ _ := .report .nil
      rw [ih (before.report _ _) once later, single.pods before]

/-- Steps do the same in stores that are alike. -/
theorem alike {left right leftAfter : MemoryStore}
    (performed : Performed owner base ns name steps parent left changes last leftAfter)
    (leftBefore : Underway left parent ns name) (rightBefore : Underway right parent ns name)
    (same : MemoryStore.Alike left right) :
    ∃ rightAfter, Performed owner base ns name steps parent right changes last rightAfter ∧
      MemoryStore.Alike leftAfter rightAfter := by
  induction performed generalizing right with
  | nil => exact ⟨right, .nil, same⟩
  | @child childKind _ _ _ _ _ _ desired childNs childName became _ built nsGiven nameGiven result
      _ ih =>
    obtain ⟨other, otherResult, outcome, object⟩ :=
      MemoryStore.converged_alike (same.children childKind childNs childName) result
    rw [same.nextUid] at otherResult
    have change : other.change = became.change := by
      have sameName : other.object.nameD = became.object.nameD :=
        (congrArg (fun object : Child childKind => object.nameD) object :)
      rw [Converged.change, Converged.change, outcome, sameName]
    obtain ⟨rightAfter, rest, restAlike⟩ := ih (leftBefore.leave nsGiven nameGiven result)
      (rightBefore.leave nsGiven nameGiven otherResult)
      (same.leave outcome.symm object.symm childNs childName)
    exact ⟨rightAfter, change ▸ .child built nsGiven nameGiven otherResult rest, restAlike⟩
  | @report list labels _ parent _ store _ _ _ ih =>
    have samePods := same.pods ns (labels base)
    have leaves : MemoryStore.Alike (list.leave (labels base) parent store ns name)
        (list.leave (labels base) parent right ns name) := by
      refine same.put_other (list.reported (podNames (store.pods ns (labels base))) parent)
        (by simp) (leftBefore.objects_leave _ _) ?_ ?_
      · rw [samePods]
        exact rightBefore.objects_leave _ _
      · rw [PodList.assigned_leave, PodList.assigned_leave, same.assigned]
    obtain ⟨rightAfter, rest, restAlike⟩ := ih (leftBefore.report _ _)
      (samePods ▸ rightBefore.report list (labels base)) leaves
    exact ⟨rightAfter, .report (samePods ▸ rest), restAlike⟩

end Performed

end Caretaker
