import Caretaker.Proofs.Obedience
import Caretaker.Proofs.Store.Listing

/-!
# When a report writes

A report lists the pods of the namespace that its parent names, and writes a status exactly if the
parent, which need not be the stored one, has other names in that list
(`MemoryStore.report_writes_iff_names_differ`).  What it stores is the stored parent with the status
of the given one, but for the list (`PodList.withStatusOf`), and the same report of what it gives
back writes nothing more, if the stored parent names its namespace.
-/

namespace Caretaker

namespace PodList

variable {kind : ParentKind}

/-- A parent with the status of another one of its kind. -/
def withStatusOf {kind : ParentKind} :
    PodList kind → Object (.parent kind) → Object (.parent kind) → Object (.parent kind)
  | memcachedNodes, parent, other | healthCheckNodes, parent, other =>
    HealthService.withStatus parent (HealthService.status other)
  | mustGatherServiceNodes, parent, other =>
    MustGatherService.withStatus parent (MustGatherService.status other)

@[simp]
theorem metadata_withStatusOf (list : PodList kind) (parent other : Object (.parent kind)) :
    (list.withStatusOf parent other).metadata = parent.metadata := by
  cases list <;> rfl

@[simp]
theorem names_withStatusOf (list other : PodList kind) (parent source : Object (.parent kind)) :
    other.names (list.withStatusOf parent source) = other.names source := by
  cases list <;> cases other <;> rfl

/-- A parent with the status of one that was given names takes that status. -/
theorem takesStatus_withStatusOf (list : PodList kind) (stored parent : Object (.parent kind))
    (names : List String) :
    Kind.TakesStatus (list.withStatusOf stored (list.withNames parent names)).body stored.body
      ((Kind.status? (list.withNames parent names).body).or (Kind.status? stored.body)) := by
  cases list with
  | memcachedNodes | healthCheckNodes => exact HealthService.takesStatus_withStatus stored _
  | mustGatherServiceNodes => exact MustGatherService.takesStatus_withStatus stored _

end PodList

variable {kind : ParentKind} {store after : MemoryStore} {list : PodList kind} {labels : LabelMap}
  {parent : Object (.parent kind)} {ns name : String}

namespace MemoryStore

/-- What a report has done that wrote the given names: it counted the stored parent up, with the
status of its own parent but for the list, and recorded that it listed pods and wrote one status. -/
structure ReportWrites (store : MemoryStore) (list : PodList kind) (parent : Object (.parent kind))
    (names : List String) (ns name : String) (stored : Object (.parent kind))
    (reported : Reported kind) (after : MemoryStore) : Prop where
  found : store.object? (.parent kind) ns name = some stored
  answer : reported = ⟨true, (list.withStatusOf stored (list.withNames parent names)).bumped⟩
  put : after.object? (.parent kind) ns name = some reported.parent
  others : ∀ key : Key, key ≠ ⟨.parent kind, ns, name⟩ → after.document? key = store.document? key
  names : ∀ other : PodList kind,
    other.names reported.parent = if other = list then names else other.names parent
  calls : after.calls =
    store.calls ++ [⟨.list, .pod, ""⟩, ⟨.updateStatus, .parent kind, name⟩]
  failures : after.failures = store.failures

/-- A report lists the pods, and writes a status only if the parent has other names. -/
theorem requests_reportPods (wellFormed : store.WellFormed)
    (nsGiven : parent.metadata.ns = some ns) :
    ((reportPods list labels parent).log answer store).map Exchange.request =
      .list .pod ns labels ::
        if store.fails .list .pod then []
        else if list.names parent = podNames (store.pods ns labels) then []
        else [.updateStatus (.parent kind)
          (list.withNames parent (podNames (store.pods ns labels)))] := by
  rw [reportPods, nsGiven]
  refine congrArg (List.cons (Request.list .pod ns labels)) ?_
  show ((Program.bind (.done (store.list .pod ns labels).1) _).log answer
    (store.list .pod ns labels).2).map Exchange.request = _
  rw [list_pods wellFormed]
  cases store.fails .list .pod with
  | true => rfl
  | false =>
    simp only [Bool.false_eq_true, if_false, Program.bind_done_ok]
    split
    · rfl
    · refine congrArg (List.cons (Request.updateStatus (.parent kind) _)) ?_
      show ((Program.bind (.done (MemoryStore.updateStatus _ _).1) _).log _ _).map _ = _
      rcases (MemoryStore.updateStatus _ _).1 <;> rfl

/-- An accepted write of a status that was given names. -/
theorem Accepted.eq_withStatusOf {names : List String} {reply : Object (.parent kind)}
    (accepted : Accepted store ns name (list.withNames parent names) .updateStatus reply) :
    ∃ stored : Object (.parent kind),
      store.document? ⟨.parent kind, ns, name⟩ = some stored.encode ∧
        reply = (list.withStatusOf stored (list.withNames parent names)).bumped := by
  cases accepted with
  | @updateStatus stored body found takes =>
    refine ⟨stored, found, ?_⟩
    rw [takes.unique (list.takesStatus_withStatusOf stored parent names)]
    cases list <;> rfl

/-- A report that writes stores the stored parent with the status of the given one but for the
list. -/
theorem reportWrites_of_ok (wellFormed : store.WellFormed) (nsGiven : parent.metadata.ns = some ns)
    (apart : list.names parent ≠ podNames (store.pods ns labels)) {reported : Reported kind}
    (ran : store.run (reportPods list labels parent) = (.ok reported, after)) :
    ∃ name stored, parent.metadata.name = some name ∧
      ReportWrites store list parent (podNames (store.pods ns labels)) ns name stored reported
        after := by
  have wellFormedCalled : (store.called .list .pod "").WellFormed := wellFormed
  rw [run_reportPods wellFormed nsGiven, if_neg apart] at ran
  cases running : store.fails .list .pod with
  | true =>
    rw [running] at ran
    cases ran
  | false =>
    rw [running, if_neg Bool.false_ne_true] at ran
    obtain ⟨wrote, left⟩ := Prod.mk.inj ran
    cases answered : ((store.called .list .pod "").updateStatus
        (list.withNames parent (podNames (store.pods ns labels)))).1 with
    | error error =>
      rw [answered] at wrote
      cases wrote
    | ok reply =>
      rw [answered] at wrote
      cases wrote
      have done : ((store.called .list .pod "").write .updateStatus
          (list.withNames parent (podNames (store.pods ns labels)))).1 = .ok reply := answered
      obtain ⟨sentNs, name, nsSent, nameSent, accepted, accepts⟩ :=
        accepted_of_write wellFormedCalled done
      have after_eq := left.symm.trans accepts
      rw [PodList.metadata_withNames] at nsSent nameSent
      cases nsGiven.symm.trans nsSent
      obtain ⟨stored, found, same⟩ := accepted.eq_withStatusOf
      refine ⟨name, stored, nameSent, (object?_eq_some_iff wellFormed).mpr found,
        congrArg (Reported.mk true) same, ?_, fun key apart => ?_, fun other => ?_, ?_,
        by rw [after_eq]; rfl⟩
      · rw [after_eq]
        exact object?_put_self ..
      · rw [after_eq]
        exact document?_accepting_of_ne apart
      · rw [same, Object.bumped, PodList.names_withVersion, PodList.names_withStatusOf]
        split
        · next here => rw [here, PodList.names_withNames]
        · next apart => rw [PodList.names_withNames_of_ne apart]
      · rw [after_eq]
        simp [accepting, called, put, Writing.verb]

/-- A report that fails changes no object. -/
theorem objects_of_run_reportPods_eq_error (wellFormed : store.WellFormed) {error : Error}
    (failed : (store.run (reportPods list labels parent)).1 = .error error) :
    (store.run (reportPods list labels parent)).2.objects = store.objects := by
  have wellFormedCalled : (store.called .list .pod "").WellFormed := wellFormed
  cases nsGiven : parent.metadata.ns with
  | none =>
    rw [reportPods, nsGiven]
    rfl
  | some ns =>
    rw [run_reportPods wellFormed nsGiven] at failed ⊢
    revert failed
    split
    · exact fun _ => rfl
    split
    · intro failed
      cases failed
    intro failed
    cases answered : ((store.called .list .pod "").updateStatus
        (list.withNames parent (podNames (store.pods ns labels)))).1 with
    | ok reply =>
      simp only [answered] at failed
      cases failed
    | error reason =>
      exact objects_of_refused wellFormedCalled
        (show ((store.called .list .pod "").answer (.updateStatus _ _)).1 = _ from answered)

/-- The report of a parent that a report gave back writes nothing, if that parent names its
namespace, and else fails. -/
theorem ReportWrites.run_again {stored : Object (.parent kind)} {reported : Reported kind}
    (writes : ReportWrites store list parent (podNames (store.pods ns labels)) ns name stored
      reported after)
    (wellFormed : store.WellFormed) (wellFormedAfter : after.WellFormed)
    (running : store.fails .list .pod = false) :
    after.run (reportPods list labels reported.parent) =
      match stored.metadata.ns with
      | some _ => (.ok ⟨false, reported.parent⟩, after.called .list .pod "")
      | none => (.error (.missingField "metadata.namespace"), after) := by
  have sameNs : reported.parent.metadata.ns = stored.metadata.ns := by
    rw [writes.answer]
    show (list.withStatusOf stored _).metadata.ns = _
    rw [PodList.metadata_withStatusOf]
  cases named : stored.metadata.ns with
  | none =>
    rw [reportPods, sameNs, named]
    rfl
  | some storedNs =>
    have isStored := isStored_of_object? wellFormed writes.found
    have place : storedNs = ns := by
      rw [← isStored.ns, Object.nsD, named, Option.getD_some]
    have samePods : after.pods ns labels = store.pods ns labels := by
      have others (key : Key) (isPod : key.kind = .pod) :
          after.document? key = store.document? key := by
        refine writes.others key ?_
        rintro rfl
        cases isPod
      rw [pods, documentsWhere_congr others, pods]
    have runningAfter : after.fails .list .pod = false := by
      rw [fails, writes.failures]
      exact running
    have same : list.names reported.parent = podNames (after.pods ns labels) := by
      rw [writes.names list, if_pos rfl, samePods]
    rw [run_reportPods wellFormedAfter (sameNs.trans (named.trans (congrArg some place))),
      runningAfter, if_neg Bool.false_ne_true, if_pos same]

/-- A report writes a status exactly if its parent has other names in the list than the pods, in the
order of their places: then it makes one request to write, which fails for one of the reasons to
refuse it, and else it gives back what it stored.  A report that fails changes no object, and the
same report right after one that wrote writes nothing more, if the stored parent names its
namespace. -/
theorem report_writes_iff_names_differ (reachable : store.Reachable) (list : PodList kind)
    (labels : LabelMap) (parent : Object (.parent kind)) :
    (∀ error, (store.run (reportPods list labels parent)).1 = .error error →
      (store.run (reportPods list labels parent)).2.objects = store.objects) ∧
    (parent.metadata.ns = none →
      store.run (reportPods list labels parent) =
        (.error (.missingField "metadata.namespace"), store)) ∧
    ∀ ns, parent.metadata.ns = some ns →
      (store.fails .list .pod = true →
        store.run (reportPods list labels parent) =
            (.error (.injected .list .pod ""), store.called .list .pod "") ∧
          ((reportPods list labels parent).log answer store).map Exchange.request =
            [.list .pod ns labels]) ∧
      (store.fails .list .pod = false → ∃ entries, store.ListsPods ns labels entries ∧
        (list.names parent = podNames (entries.map Prod.snd) →
          store.run (reportPods list labels parent) =
              (.ok ⟨false, parent⟩, store.called .list .pod "") ∧
            ((reportPods list labels parent).log answer store).map Exchange.request =
              [.list .pod ns labels]) ∧
        (list.names parent ≠ podNames (entries.map Prod.snd) →
          ((reportPods list labels parent).log answer store).map Exchange.request =
              [.list .pod ns labels, .updateStatus (.parent kind)
                (list.withNames parent (podNames (entries.map Prod.snd)))] ∧
          (∀ error, (store.run (reportPods list labels parent)).1 = .error error ↔
            (store.called .list .pod "").Refused
              (list.withNames parent (podNames (entries.map Prod.snd))) .updateStatus error) ∧
          ∀ reported after, store.run (reportPods list labels parent) = (.ok reported, after) →
            ∃ name stored, parent.metadata.name = some name ∧
              ReportWrites store list parent (podNames (entries.map Prod.snd)) ns name stored
                reported after ∧
              after.run (reportPods list labels reported.parent) =
                match stored.metadata.ns with
                | some _ => (.ok ⟨false, reported.parent⟩, after.called .list .pod "")
                | none => (.error (.missingField "metadata.namespace"), after))) := by
  have wellFormed := reachable.wellFormed
  refine ⟨fun _ => objects_of_run_reportPods_eq_error wellFormed, fun nameless => ?nameless,
    fun ns nsGiven => ⟨fun failing => ?failing, fun running => ?running⟩⟩
  case nameless =>
    rw [reportPods, nameless]
    rfl
  case failing =>
    rw [run_reportPods wellFormed nsGiven, requests_reportPods wellFormed nsGiven, failing]
    exact ⟨rfl, rfl⟩
  case running =>
    obtain ⟨entries, lists, same⟩ := exists_listsPods wellFormed ns labels
    refine ⟨entries, lists, ?_⟩
    rw [← same, requests_reportPods wellFormed nsGiven, running, if_neg Bool.false_ne_true]
    constructor
    · intro names
      rw [run_reportPods wellFormed nsGiven, running, if_neg Bool.false_ne_true, if_pos names,
        if_pos names]
      exact ⟨rfl, rfl⟩
    · intro apart
      rw [if_neg apart]
      refine ⟨rfl, fun error => ?_, fun reported after ran => ?_⟩
      · have wellFormedCalled : (store.called .list .pod "").WellFormed := wellFormed
        rw [run_reportPods wellFormed nsGiven, running, if_neg Bool.false_ne_true, if_neg apart,
          ← write_eq_error_iff wellFormedCalled]
        show Except.map _ (MemoryStore.write _ .updateStatus _).1 = _ ↔ _
        cases (MemoryStore.write _ .updateStatus _).1 <;> simp [Except.map]
      · obtain ⟨name, stored, nameGiven, writes⟩ := reportWrites_of_ok wellFormed nsGiven apart ran
        have wellFormedAfter : after.WellFormed := by
          have kept := wellFormed.run (reportPods list labels parent)
          rwa [ran] at kept
        exact ⟨name, stored, nameGiven, writes, writes.run_again wellFormed wellFormedAfter running⟩

end MemoryStore

section Sample

/-- A health service that names a namespace, or none. -/
def reportedService (ns : Option String) : HealthService :=
  ⟨{ name := some "hs", ns := ns }, ({ spec := default } : Observed _ _)⟩

/-- A store with that health service and a pod. -/
def reportStore (ns : Option String) : MemoryStore :=
  (MemoryStore.insert {} (reportedService ns)).insert
    (⟨{ name := some "p", ns := ns }, Document.of _ (.object [])⟩ : Pod)

theorem reachable_reportStore (ns : Option String) : (reportStore ns).Reachable :=
  .insert (.insert .empty _) _

/-- The pod is reported once. -/
theorem report_writes_once :
    ∃ reported after,
      (reportStore (some "ns")).run
          (reportPods .memcachedNodes ∅ (reportedService (some "ns"))) = (.ok reported, after) ∧
        reported.wrote = true ∧
        after.run (reportPods .memcachedNodes ∅ reported.parent) =
          (.ok ⟨false, reported.parent⟩, after.called .list .pod "") := by
  have wrote : ((reportStore (some "ns")).run
      (reportPods .memcachedNodes ∅ (reportedService (some "ns")))).1.toOption.any (·.wrote) =
        true := by
    decide +kernel
  have named : ((reportStore (some "ns")).object? (.parent .healthService) "ns" "hs").all
      (·.metadata.ns = some "ns") = true := by
    decide +kernel
  obtain ⟨-, -, inPlace⟩ := MemoryStore.report_writes_iff_names_differ
    (reachable_reportStore (some "ns")) .memcachedNodes ∅ (reportedService (some "ns"))
  obtain ⟨entries, -, silent, writes⟩ := (inPlace "ns" rfl).2 rfl
  by_cases same : PodList.memcachedNodes.names (reportedService (some "ns")) =
      podNames (entries.map Prod.snd)
  · rw [(silent same).1] at wrote
    cases wrote
  · obtain ⟨-, -, does⟩ := writes same
    cases ran : (reportStore (some "ns")).run
        (reportPods .memcachedNodes ∅ (reportedService (some "ns"))) with
    | mk result after =>
      cases result with
      | error error =>
        rw [ran] at wrote
        cases wrote
      | ok reported =>
        obtain ⟨name, stored, nameGiven, done, again⟩ := does reported after ran
        cases nameGiven
        rw [done.found] at named
        rw [show stored.metadata.ns = some "ns" from of_decide_eq_true named] at again
        exact ⟨reported, after, rfl, by rw [done.answer], again⟩

/-- The report of a parent under the empty namespace writes the parent that was put there without
any namespace, and the same report of what it gave back fails. -/
theorem report_again_fails_without_namespace :
    (reportStore none).Reachable ∧
    ∃ reported after,
      (reportStore none).run (reportPods .memcachedNodes ∅ (reportedService (some ""))) =
          (.ok reported, after) ∧
        reported.wrote = true ∧
        after.run (reportPods .memcachedNodes ∅ reported.parent) =
          (.error (.missingField "metadata.namespace"), after) := by
  refine ⟨reachable_reportStore none, ?_⟩
  have wrote : ((reportStore none).run
      (reportPods .memcachedNodes ∅ (reportedService (some "")))).1.toOption.any
        (fun reported => reported.wrote && reported.parent.metadata.ns = none) = true := by
    decide +kernel
  cases ran : (reportStore none).run
      (reportPods .memcachedNodes ∅ (reportedService (some ""))) with
  | mk result after =>
    rw [ran] at wrote
    cases result with
    | error error => cases wrote
    | ok reported =>
      have both : reported.wrote && reported.parent.metadata.ns = none := wrote
      simp only [Bool.and_eq_true, decide_eq_true_eq] at both
      refine ⟨reported, after, rfl, both.1, ?_⟩
      rw [reportPods, both.2]
      rfl

end Sample

end Caretaker
