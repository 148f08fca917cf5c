import Caretaker.Proofs.Pass.Effect
import Caretaker.Proofs.Store.Listing

/-!
# The status after a pass

A pass writes the status of its parent once for each list of pods that was not up to date
(`Performed.exists_statusWrites`).  Afterwards every list names the pods that the store holds, and
the parent asks for what it asked for before (`MemoryStore.run_pass_status`).
-/

namespace Caretaker

variable {kind : ParentKind}

/-- The lists of pods in the status of a parent, in the order in which a pass reports them. -/
def PodList.all : (kind : ParentKind) → List (PodList kind)
  | .healthService => [memcachedNodes, healthCheckNodes]
  | .mustGatherService => [mustGatherServiceNodes]
  | .mustGatherJob | .mustGatherConfig => []

/-- A pass reports every list of pods once. -/
theorem reportedLists_stepsWith (surroundings : Surroundings) (defaultClass : String)
    (parent : Object (.parent kind)) :
    reportedLists (stepsWith surroundings defaultClass kind parent) = PodList.all kind := by
  cases kind with
  | healthService =>
    simp only [stepsWith]
    cases (HealthService.spec parent).memcached.workload <;> rfl
  | mustGatherService => rfl
  | mustGatherJob => rfl
  | mustGatherConfig => rfl

/-- The number of calls that write a status. -/
def statusWrites (calls : List Call) : Nat := calls.countP fun call => call.verb = .updateStatus

@[simp]
theorem statusWrites_append (calls later : List Call) :
    statusWrites (calls ++ later) = statusWrites calls + statusWrites later :=
  List.countP_append

theorem statusWrites_of_reads {calls : List Call}
    (reads : ∀ call ∈ calls, call.verb.isWrite = false) :
    statusWrites calls = 0 := by
  refine List.countP_eq_zero.mpr fun call member writes => ?_
  have read := reads call member
  rw [of_decide_eq_true writes] at read
  cases read

/-- Converging a child writes no status. -/
theorem Outcome.statusWrites_verbs (outcome : Outcome) (kind : Kind) (name : String) :
    statusWrites (outcome.verbs.map fun verb => ⟨verb, kind, name⟩) = 0 := by
  cases outcome <;> rfl

/-- A report writes the status if the list is not up to date. -/
theorem PodList.exists_calls_leave (list : PodList kind) (labels : LabelMap)
    (parent : Object (.parent kind)) (store : MemoryStore) (ns name : String) :
    ∃ trace, (list.leave labels parent store ns name).calls = store.calls ++ trace ∧
      statusWrites trace =
        if list.names parent = podNames (store.pods ns labels) then 0 else 1 := by
  unfold PodList.leave
  split
  · exact ⟨[⟨.list, .pod, ""⟩], rfl, rfl⟩
  · refine ⟨[⟨.list, .pod, ""⟩, ⟨.updateStatus, .parent kind, name⟩], ?_, rfl⟩
    exact List.append_assoc _ _ _

namespace Performed

variable {owner : OwnerReference} {base parent last : Object (.parent kind)} {ns name : String}
  {steps : List (Step kind)} {store after : MemoryStore} {changes : List Change}

/-- Steps write a status once for every list that they change. -/
theorem exists_statusWrites
    (performed : Performed owner base ns name steps parent store changes last after)
    (once : (reportedLists steps).Nodup) :
    ∃ trace, after.calls = store.calls ++ trace ∧
      statusWrites trace =
        (reportedLists steps).countP fun list => list.names parent ≠ list.names last := by
  induction performed with
  | nil => exact ⟨[], (List.append_nil _).symm, rfl⟩
  | @child _ _ steps inHand last store _ _ _ childName became _ _ _ _ _ _ ih =>
    obtain ⟨trace, same, count⟩ := ih once
    refine ⟨_, same.trans (List.append_assoc _ _ _), ?_⟩
    rw [statusWrites_append, Outcome.statusWrites_verbs, Nat.zero_add, count]
    rfl
  | @report list labels rest inHand last store _ _ later ih =>
    obtain ⟨notLater, once⟩ := List.nodup_cons.mp once
    obtain ⟨trace, same, count⟩ := ih once
    obtain ⟨calls, reported, written⟩ := list.exists_calls_leave (labels base) inHand store ns name
    refine ⟨calls ++ trace, by rw [same, reported, List.append_assoc], ?_⟩
    -- The lists that follow are other ones, so this report has not touched them.
    have others : ∀ other ∈ reportedLists rest,
        (decide (other.names (list.reported (podNames (store.pods ns (labels base))) inHand) ≠
            other.names last) = true ↔
          decide (other.names inHand ≠ other.names last) = true) := by
      intro other member
      have apart : other ≠ list := fun same => notLater (same ▸ member)
      rw [PodList.names_reported_of_ne apart]
    have final : list.names last = podNames (store.pods ns (labels base)) :=
      (later.names_of_not_mem notLater).trans (PodList.names_reported _ _ _)
    have lists : reportedLists (.report list labels :: rest) = list :: reportedLists rest := rfl
    rw [statusWrites_append, written, count, List.countP_congr others, lists, List.countP_cons,
      final, Nat.add_comm]
    by_cases upToDate : list.names inHand = podNames (store.pods ns (labels base)) <;>
      simp [upToDate]

end Performed

namespace MemoryStore

variable {store after : MemoryStore} {parent : Object (.parent kind)} {ns name : String}
  {changes : List Change}

/-- After a pass that succeeds, every list of pods in the status of the parent names the pods of its
namespace that carry the labels of the list, each once and in their order.  The pass has written the
status once for every list that was not up to date, and has changed nothing else about the parent
but its version. -/
theorem run_pass_status (reachable : store.Reachable) (quiet : store.Quiet)
    (surroundings : Surroundings) (found : store.object? (.parent kind) ns name = some parent)
    (ran : store.run (pass surroundings kind ns name) = (.ok changes, after)) :
    ∃ last trace,
      after.object? (.parent kind) ns name = some last ∧
      (∀ list : PodList kind, ∃ entries, after.ListsPods ns (list.labels parent) entries ∧
        list.names last = entries.map fun entry => entry.2.metadata.nameAny) ∧
      after.calls = store.calls ++ trace ∧
      (trace.countP fun call => call.verb = .updateStatus) =
        ((PodList.all kind).countP fun list => list.names parent ≠ list.names last) ∧
      last.metadata =
        { parent.metadata with resourceVersion := last.metadata.resourceVersion } ∧
      kind.specOf last.body = kind.specOf parent.body := by
  obtain ⟨underway, owner, owns⟩ := underway_of_run_pass quiet reachable.wellFormed found ran
  obtain ⟨between, began, succeeds⟩ := run_pass_eq_ok underway owns surroundings
  obtain ⟨last, performed⟩ := (succeeds changes after).mp ran
  have before := began.underway_between
  have once := nodup_reportedLists_stepsWith surroundings (store.classFor ns kind parent) parent
  have final := performed.underway before
  obtain ⟨trace, calls, count⟩ := performed.exists_statusWrites once
  obtain ⟨reads, rfl, areReads⟩ := began.reads
  refine ⟨last, reads ++ trace, final.object?, fun list => ?_,
    calls.trans (List.append_assoc _ _ _), ?_, performed.sameRequest.metadata,
    performed.sameRequest.spec⟩
  · obtain ⟨entries, lists, same⟩ := exists_listsPods final.wellFormed ns (list.labels parent)
    refine ⟨entries, lists, ?_⟩
    rw [performed.names_of_mem before once (report_mem_stepsWith surroundings _ parent list),
      ← performed.pods before, same, podNames, List.map_map]
    rfl
  · rw [reportedLists_stepsWith] at count
    refine (statusWrites_append reads trace).trans ?_
    rw [statusWrites_of_reads areReads, Nat.zero_add, count]

/-- The pass over a health service with one pod of its cache. -/
theorem run_pass_status_of_one_pod :
    ∃ changes after parent last entries,
      (sampleStore "cache" "check").run samplePass = (.ok changes, after) ∧
      after.object? (.parent .healthService) "kube-system" "sample" = some last ∧
      after.ListsPods "kube-system" (Build.memcachedLabels parent) entries ∧
      PodList.memcachedNodes.names last = entries.map fun entry => entry.2.metadata.nameAny := by
  have isThere : ((sampleStore "cache" "check").object? (.parent .healthService) "kube-system"
      "sample").isSome = true := by
    decide +kernel
  obtain ⟨parent, found⟩ := Option.isSome_iff_exists.mp isThere
  obtain ⟨changes, after, ran⟩ := exists_run_samplePass
  obtain ⟨last, trace, final, lists, -⟩ :=
    run_pass_status (reachable_sampleStore _ _) rfl _ found ran
  obtain ⟨entries, listed, named⟩ := lists .memcachedNodes
  exact ⟨changes, after, parent, last, entries, ran, final, listed, named⟩

end MemoryStore

end Caretaker
