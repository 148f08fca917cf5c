import Caretaker.Proofs.Program
import Caretaker.Proofs.Store.WellFormed

/-!
# Writes

A store has three ways to write an object (`Writing`).  Every write is either refused, for a reason
that its object and the store show beforehand (`MemoryStore.Refused`), or accepted, and then the
answer is the object that is in the place afterwards (`MemoryStore.Accepted`).  There is no third
case (`MemoryStore.write_cases`): what an accepted write stores can always be read again.
-/

namespace Caretaker

/-- The ways to write an object. -/
inductive Writing where
  | create
  | update
  | updateStatus
  deriving DecidableEq

namespace Writing

/-- What a way to write does. -/
def verb : Writing → Verb
  | create => .create
  | update => .update
  | updateStatus => .updateStatus

/-- The number of uids that an accepted write takes. -/
def assigns : Writing → Nat
  | create => 1
  | update | updateStatus => 0

/-- The calls that are recorded for a write: one if the object names its place, and else none. -/
def calls {kind : Kind} (writing : Writing) (sent : Object kind) : List Call :=
  match sent.metadata.ns, sent.metadata.name with
  | some _, some name => [⟨writing.verb, kind, name⟩]
  | _, _ => []

/-- The request to write an object. -/
def request {kind : Kind} (writing : Writing) (object : Object kind) : Request :=
  match writing with
  | create => .create kind object
  | update => .update kind object
  | updateStatus => .updateStatus kind object

end Writing

/-- A request reads, or it writes an object in one of the ways. -/
theorem Request.reads_or_writes (request : Request) :
    request.verb.isWrite = false ∨
      ∃ (kind : Kind) (writing : Writing) (object : Object kind),
        request = writing.request object := by
  cases request with
  | get | list | listStorageClasses => exact Or.inl rfl
  | create kind object => exact Or.inr ⟨kind, .create, object, rfl⟩
  | update kind object => exact Or.inr ⟨kind, .update, object, rfl⟩
  | updateStatus kind object => exact Or.inr ⟨kind, .updateStatus, object, rfl⟩

/-- Whether an object may follow a stored one in its place: under its uid, with the version after
it. -/
structure Object.Follows {kind : Kind} (object earlier : Object kind) : Prop where
  uid : object.uidD = earlier.uidD
  version : object.versionD = nextVersion earlier.versionD

namespace MemoryStore

variable {store : MemoryStore} {kind : Kind} {writing : Writing} {sent : Object kind}
  {error : Error}

/-- Write an object. -/
def write (store : MemoryStore) (writing : Writing) (object : Object kind) :
    Except Error (Object kind) × MemoryStore :=
  match writing with
  | .create => store.create object
  | .update => store.update object
  | .updateStatus => store.updateStatus object

/-- The store after a write that is refused. -/
def attempted (store : MemoryStore) (writing : Writing) (sent : Object kind) : MemoryStore :=
  { store with calls := store.calls ++ writing.calls sent }

/-- Why a write is refused, with the error that it is answered with. -/
inductive Refused (store : MemoryStore) (sent : Object kind) : Writing → Error → Prop where
  /-- The object names no namespace. -/
  | noNamespace {writing : Writing} (absent : sent.metadata.ns = none) :
    Refused store sent writing (.missingField "metadata.namespace")
  /-- The object has no name. -/
  | noName {writing : Writing} {ns : String} (nsGiven : sent.metadata.ns = some ns)
    (absent : sent.metadata.name = none) :
    Refused store sent writing (.missingField "metadata.name")
  /-- Calls like this one are to fail. -/
  | injected {writing : Writing} {ns name : String} (nsGiven : sent.metadata.ns = some ns)
    (nameGiven : sent.metadata.name = some name)
    (failing : store.fails writing.verb kind = true) :
    Refused store sent writing (.injected writing.verb kind name)
  /-- An object is to be created where there is one already. -/
  | duplicate {ns name : String} (nsGiven : sent.metadata.ns = some ns)
    (nameGiven : sent.metadata.name = some name) (running : store.fails .create kind = false)
    (there : (store.document? ⟨kind, ns, name⟩).isSome) :
    Refused store sent .create (.alreadyExists kind name)
  /-- There is nothing to be replaced. -/
  | absent {writing : Writing} {ns name : String} (nsGiven : sent.metadata.ns = some ns)
    (nameGiven : sent.metadata.name = some name)
    (running : store.fails writing.verb kind = false) (replaces : writing ≠ .create)
    (gone : store.document? ⟨kind, ns, name⟩ = none) :
    Refused store sent writing (.notFound kind ns name)
  /-- The object has another version than the one that is there. -/
  | stale {ns name version : String} {document : Json} (nsGiven : sent.metadata.ns = some ns)
    (nameGiven : sent.metadata.name = some name) (running : store.fails .update kind = false)
    (there : store.document? ⟨kind, ns, name⟩ = some document)
    (versioned : sent.metadata.resourceVersion = some version)
    (other : version ≠ StoredDocument.version document) :
    Refused store sent .update (.conflict kind name)

/-- What an accepted write of an object puts under a namespace and a name. -/
inductive Accepted (store : MemoryStore) (ns name : String) (sent : Object kind) :
    Writing → Object kind → Prop where
  /-- The sent object under the next uid. -/
  | create (absent : store.document? ⟨kind, ns, name⟩ = none) :
    Accepted store ns name sent .create (sent.numbered store.nextUid)
  /-- The sent object with the status of the stored one. -/
  | update {stored : Object kind} {body : kind.Body}
    (found : store.document? ⟨kind, ns, name⟩ = some stored.encode)
    (takes : Kind.TakesStatus body sent.body (Kind.status? stored.body)) :
    Accepted store ns name sent .update ⟨(sentAfter sent stored).metadata, body⟩
  /-- The stored object with the status of the sent one, if that has any. -/
  | updateStatus {stored : Object kind} {body : kind.Body}
    (found : store.document? ⟨kind, ns, name⟩ = some stored.encode)
    (takes : Kind.TakesStatus body stored.body
      ((Kind.status? sent.body).or (Kind.status? stored.body))) :
    Accepted store ns name sent .updateStatus ⟨stored.bumped.metadata, body⟩

/-- The store after an accepted write. -/
def accepting (store : MemoryStore) (writing : Writing) (ns name : String) (stored : Object kind) :
    MemoryStore :=
  { (store.called writing.verb kind name).put ns name stored with
    assigned := store.assigned + writing.assigns }

theorem attempted_of_named {ns name : String} (nsGiven : sent.metadata.ns = some ns)
    (nameGiven : sent.metadata.name = some name) :
    store.attempted writing sent = store.called writing.verb kind name := by
  rw [attempted, Writing.calls, nsGiven, nameGiven]
  rfl

theorem attempted_of_unnamed (unnamed : Key.forWriting sent = .error error) :
    store.attempted writing sent = store := by
  have nothing : writing.calls sent = [] := by
    unfold Writing.calls
    split
    · next ns name nsGiven nameGiven =>
      cases (Key.forWriting_of_some nsGiven nameGiven).symm.trans unnamed
    · rfl
  rw [attempted, nothing, List.append_nil]

theorem write_of_unnamed (unnamed : Key.forWriting sent = .error error) :
    store.write writing sent = (.error error, store) := by
  cases writing with
  | create => exact create_of_refused unnamed
  | update => exact update_of_refused unnamed
  | updateStatus => exact updateStatus_of_refused unnamed

/-- A sent object is stale if it has another version than the stored one. -/
theorem isStale_eq_true_iff {document : Json} :
    isStale sent document = true ↔ ∃ version, sent.metadata.resourceVersion = some version ∧
      version ≠ StoredDocument.version document := by
  rw [isStale, Option.any_eq_true]
  simp

/-- A write that is refused is answered with its error. -/
theorem write_of_refused (refused : Refused store sent writing error) :
    store.write writing sent = (.error error, store.attempted writing sent) := by
  cases refused with
  | noNamespace absent =>
    have unnamed : Key.forWriting sent = .error (.missingField "metadata.namespace") := by
      rw [Key.forWriting, absent]
      rfl
    rw [write_of_unnamed unnamed, attempted_of_unnamed unnamed]
  | noName nsGiven absent =>
    have unnamed : Key.forWriting sent = .error (.missingField "metadata.name") := by
      rw [Key.forWriting, nsGiven, absent]
      rfl
    rw [write_of_unnamed unnamed, attempted_of_unnamed unnamed]
  | injected nsGiven nameGiven failing =>
    have named := Key.forWriting_of_some nsGiven nameGiven
    rw [attempted_of_named nsGiven nameGiven]
    cases writing with
    | create => exact (create_eq store named).trans (if_pos failing)
    | update => exact (update_eq store named).trans (if_pos failing)
    | updateStatus => exact (updateStatus_eq store named).trans (if_pos failing)
  | duplicate nsGiven nameGiven running there =>
    rw [attempted_of_named nsGiven nameGiven]
    refine (create_eq store (Key.forWriting_of_some nsGiven nameGiven)).trans ?_
    rw [running, if_neg Bool.false_ne_true, if_pos there]
    rfl
  | absent nsGiven nameGiven running replaces gone =>
    have named := Key.forWriting_of_some nsGiven nameGiven
    rw [attempted_of_named nsGiven nameGiven]
    cases writing with
    | create => exact absurd rfl replaces
    | update =>
      refine (update_eq store named).trans ((if_neg (ne_true_of_eq_false running)).trans ?_)
      rw [gone]
      rfl
    | updateStatus =>
      refine (updateStatus_eq store named).trans ((if_neg (ne_true_of_eq_false running)).trans ?_)
      rw [gone]
      rfl
  | stale nsGiven nameGiven running there versioned other =>
    rw [attempted_of_named nsGiven nameGiven]
    refine (update_eq store (Key.forWriting_of_some nsGiven nameGiven)).trans ?_
    have isStale := isStale_eq_true_iff.mpr ⟨_, versioned, other⟩
    rw [if_neg (ne_true_of_eq_false running), there]
    exact if_pos isStale

/-- A write is refused, or it is accepted and answered with what it stores. -/
theorem write_cases (wellFormed : store.WellFormed) (writing : Writing) (sent : Object kind) :
    (∃ error, Refused store sent writing error) ∨
      ∃ ns name stored, sent.metadata.ns = some ns ∧ sent.metadata.name = some name ∧
        Accepted store ns name sent writing stored ∧
        store.write writing sent = (.ok stored, store.accepting writing ns name stored) := by
  cases nsGiven : sent.metadata.ns with
  | none => exact Or.inl ⟨_, .noNamespace nsGiven⟩
  | some ns =>
  cases nameGiven : sent.metadata.name with
  | none => exact Or.inl ⟨_, .noName nsGiven nameGiven⟩
  | some name =>
  have named : Key.forWriting sent = .ok ⟨kind, ns, name⟩ :=
    Key.forWriting_of_some nsGiven nameGiven
  cases running : store.fails writing.verb kind with
  | true => exact Or.inl ⟨_, .injected nsGiven nameGiven running⟩
  | false =>
  cases found : store.document? ⟨kind, ns, name⟩ with
  | none =>
    by_cases creates : writing = .create
    · subst creates
      refine Or.inr ⟨ns, name, _, rfl, rfl, .create found, ?_⟩
      refine (create_eq store named).trans ((if_neg (ne_true_of_eq_false running)).trans ?_)
      rw [found]
      rfl
    · exact Or.inl ⟨_, .absent nsGiven nameGiven running creates found⟩
  | some document =>
    obtain ⟨stored, rfl, -⟩ := wellFormed.exists_object found
    cases writing with
    | create => exact Or.inl ⟨_, .duplicate nsGiven nameGiven running (by rw [found]; rfl)⟩
    | update =>
      by_cases stale : isStale sent stored.encode = true
      · obtain ⟨version, versioned, other⟩ := isStale_eq_true_iff.mp stale
        exact Or.inl ⟨_, .stale nsGiven nameGiven running found versioned other⟩
      · obtain ⟨body, takes, written⟩ := exists_updated sent stored
        refine Or.inr ⟨ns, name, _, rfl, rfl, .update found takes, ?_⟩
        refine (update_eq store named).trans ((if_neg (ne_true_of_eq_false running)).trans ?_)
        rw [found]
        refine (if_neg stale).trans ?_
        rw [written, read_encode]
        rfl
    | updateStatus =>
      obtain ⟨body, takes, written⟩ := exists_statusUpdated sent stored
      refine Or.inr ⟨ns, name, _, rfl, rfl, .updateStatus found takes, ?_⟩
      refine (updateStatus_eq store named).trans ((if_neg (ne_true_of_eq_false running)).trans ?_)
      rw [found]
      show (read kind (statusUpdated sent.encode stored.encode), _) = _
      rw [written, read_encode]
      rfl

/-- A write fails exactly for one of the reasons to refuse it. -/
theorem write_eq_error_iff (wellFormed : store.WellFormed) :
    (store.write writing sent).1 = .error error ↔ Refused store sent writing error := by
  refine ⟨fun failed => ?_, fun refused => by rw [write_of_refused refused]⟩
  rcases write_cases wellFormed writing sent with
    ⟨reason, refused⟩ | ⟨_, _, _, -, -, -, wrote⟩
  · rw [write_of_refused refused] at failed
    cases failed
    exact refused
  · rw [wrote] at failed
    cases failed

/-- A write that succeeds is accepted, and its answer is what it stores. -/
theorem accepted_of_write (wellFormed : store.WellFormed) {reply : Object kind}
    (done : (store.write writing sent).1 = .ok reply) :
    ∃ ns name, sent.metadata.ns = some ns ∧ sent.metadata.name = some name ∧
      Accepted store ns name sent writing reply ∧
      (store.write writing sent).2 = store.accepting writing ns name reply := by
  rcases write_cases wellFormed writing sent with
    ⟨reason, refused⟩ | ⟨ns, name, stored, nsGiven, nameGiven, accepted, wrote⟩
  · rw [write_of_refused refused] at done
    cases done
  · rw [wrote] at done ⊢
    cases done
    exact ⟨ns, name, nsGiven, nameGiven, accepted, rfl⟩

variable {ns name : String} {stored : Object kind}

theorem document?_accepting_self :
    (store.accepting writing ns name stored).document? ⟨kind, ns, name⟩ = some stored.encode :=
  (document?_put _ ns name stored _).trans (if_pos rfl)

theorem document?_accepting_of_ne {key : Key} (apart : key ≠ ⟨kind, ns, name⟩) :
    (store.accepting writing ns name stored).document? key = store.document? key :=
  (document?_put _ ns name stored key).trans (if_neg apart)

/-- An accepted write stores an object that belongs into its place. -/
theorem Accepted.isStored (accepted : Accepted store ns name sent writing stored)
    (wellFormed : store.WellFormed) (nsGiven : sent.metadata.ns = some ns)
    (nameGiven : sent.metadata.name = some name) : stored.IsStored ns name := by
  have nsD : sent.nsD = ns := congrArg (·.getD "") nsGiven
  have nameD : sent.nameD = name := congrArg (·.getD "") nameGiven
  cases accepted with
  | create => exact ⟨nsD, nameD, rfl, rfl⟩
  | update => exact ⟨nsD, nameD, rfl, rfl⟩
  | updateStatus found =>
    obtain ⟨earlier, same, isStored⟩ := wellFormed.exists_object found
    cases Object.encode_injective same
    exact ⟨isStored.ns, isStored.name, isStored.uid, rfl⟩

/-- An accepted write of an object that is there already counts it up. -/
theorem Accepted.follows (accepted : Accepted store ns name sent writing stored)
    {earlier : Object kind} (found : store.document? ⟨kind, ns, name⟩ = some earlier.encode) :
    stored.Follows earlier := by
  cases accepted with
  | create absent => cases absent.symm.trans found
  | update there =>
    cases Object.encode_injective (Option.some.inj (there.symm.trans found))
    exact ⟨rfl, rfl⟩
  | updateStatus there =>
    cases Object.encode_injective (Option.some.inj (there.symm.trans found))
    exact ⟨rfl, rfl⟩

/-- A write lets the calls that are to fail be. -/
theorem failures_write (wellFormed : store.WellFormed) (writing : Writing) (sent : Object kind) :
    (store.write writing sent).2.failures = store.failures := by
  rcases write_cases wellFormed writing sent with
    ⟨error, refused⟩ | ⟨ns, name, stored, -, -, -, wrote⟩
  · rw [write_of_refused refused]
    rfl
  · rw [wrote]
    rfl

/-- A write leaves the documents of a store as they are, or it succeeds and puts an object into its
place, as the successor of the one in that place if there is one. -/
theorem write_effect (wellFormed : store.WellFormed) (writing : Writing) (sent : Object kind) :
    (store.write writing sent).2.objects = store.objects ∨
      (∃ reply, (store.write writing sent).1 = .ok reply) ∧
        ∃ ns name, ∃ object : Object kind, object.IsStored ns name ∧
          (store.write writing sent).2.objects = (store.put ns name object).objects ∧
          ∀ earlier : Object kind, store.document? ⟨kind, ns, name⟩ = some earlier.encode →
            object.Follows earlier := by
  rcases write_cases wellFormed writing sent with
    ⟨error, refused⟩ | ⟨ns, name, stored, nsGiven, nameGiven, accepted, wrote⟩
  · rw [write_of_refused refused]
    exact Or.inl rfl
  · rw [wrote]
    exact Or.inr ⟨⟨stored, rfl⟩, ns, name, stored,
      accepted.isStored wellFormed nsGiven nameGiven, rfl, fun _ => accepted.follows⟩

/-- A request that reads is recorded, and nothing else. -/
theorem exists_answer_eq_called (store : MemoryStore) {request : Request}
    (reads : request.verb.isWrite = false) :
    ∃ name, (store.answer request).2 = store.called request.verb request.kind name := by
  cases request with
  | get kind ns name => exact ⟨name, by rw [answer, get_eq]; rfl⟩
  | list kind ns labels => exact ⟨"", by rw [answer, list_eq]; rfl⟩
  | listStorageClasses => exact ⟨"", by rw [answer, listStorageClasses_eq]; rfl⟩
  | create | update | updateStatus => cases reads

/-- A request leaves the documents of a store as they are, or it succeeds and puts an object into
its place, as the successor of the one in that place if there is one. -/
theorem answer_cases (wellFormed : store.WellFormed) (request : Request) :
    (store.answer request).2.objects = store.objects ∨
      (∃ reply, (store.answer request).1 = .ok reply) ∧
        ∃ kind ns name, ∃ object : Object kind, object.IsStored ns name ∧
          (store.answer request).2.objects = (store.put ns name object).objects ∧
          ∀ earlier : Object kind, store.document? ⟨kind, ns, name⟩ = some earlier.encode →
            object.Follows earlier := by
  rcases request.reads_or_writes with reads | ⟨kind, writing, object, rfl⟩
  · obtain ⟨name, called⟩ := store.exists_answer_eq_called reads
    rw [called]
    exact Or.inl rfl
  · have effect := write_effect wellFormed writing object
    cases writing with
    | create => exact effect.imp_right (And.imp_right (⟨kind, ·⟩))
    | update => exact effect.imp_right (And.imp_right (⟨kind, ·⟩))
    | updateStatus => exact effect.imp_right (And.imp_right (⟨kind, ·⟩))

/-- Answering a request lets the calls that are to fail be. -/
theorem failures_answer (wellFormed : store.WellFormed) (request : Request) :
    (store.answer request).2.failures = store.failures := by
  rcases request.reads_or_writes with reads | ⟨kind, writing, object, rfl⟩
  · obtain ⟨name, called⟩ := store.exists_answer_eq_called reads
    rw [called]
    rfl
  · have kept := failures_write wellFormed writing object
    cases writing <;> exact kept

/-- Answering a request keeps a store well-formed. -/
theorem WellFormed.answer (wellFormed : store.WellFormed) (request : Request) :
    (store.answer request).2.WellFormed := by
  rcases answer_cases wellFormed request with same | ⟨-, kind, ns, name, object, stored, wrote, -⟩
  · exact wellFormed.of_objects same
  · exact wellFormed.put stored wrote

/-- A request that is refused changes no object. -/
theorem objects_of_refused (wellFormed : store.WellFormed) {request : Request} {error : Error}
    (refused : (store.answer request).1 = .error error) :
    (store.answer request).2.objects = store.objects := by
  rcases answer_cases wellFormed request with same | ⟨⟨reply, answered⟩, -⟩
  · exact same
  · cases refused.symm.trans answered

/-- Running a program keeps a store well-formed. -/
theorem WellFormed.run {α : Type} (wellFormed : store.WellFormed) (program : Program α) :
    (store.run program).2.WellFormed :=
  program.run_preserves WellFormed (fun _ request wellFormed => wellFormed.answer request) wellFormed

/-- What requests of well-formed stores preserve holds after a run. -/
theorem WellFormed.run_preserves {α : Type} (wellFormed : store.WellFormed)
    (sort : MemoryStore → Prop)
    (preserves : ∀ store : MemoryStore, store.WellFormed → sort store →
      ∀ request, sort (store.answer request).2)
    (program : Program α) (holds : sort store) : sort (store.run program).2 := by
  have both := program.run_preserves (fun store => store.WellFormed ∧ sort store)
    (fun store request ⟨wellFormed, holds⟩ =>
      ⟨wellFormed.answer request, preserves store wellFormed holds request⟩)
    ⟨wellFormed, holds⟩
  exact both.2

/-- Every reachable store is well-formed. -/
theorem Reachable.wellFormed (reachable : store.Reachable) : store.WellFormed := by
  induction reachable with
  | empty => exact fun _ _ found => nomatch found
  | insert _ object ih => exact ih.insert object
  | answer _ request ih => exact ih.answer request
  | failOn _ _ _ ih => exact ih
  | clearCalls _ ih => exact ih

/-- A write fails exactly for one of the reasons to refuse it.  Then objects, counted uids and
failures stay as they were, and one call more is recorded if the object names its place.  A write
that does not fail has put its answer into that place. -/
theorem write_refused_or_accepted (reachable : store.Reachable) (writing : Writing)
    (sent : Object kind) :
    (∀ error, (store.write writing sent).1 = .error error ↔ Refused store sent writing error) ∧
      (∀ error, (store.write writing sent).1 = .error error →
        (store.write writing sent).2.objects = store.objects ∧
        (store.write writing sent).2.assigned = store.assigned ∧
        (store.write writing sent).2.failures = store.failures ∧
        (store.write writing sent).2.calls = store.calls ++ writing.calls sent) ∧
      ∀ reply, (store.write writing sent).1 = .ok reply →
        ∃ ns name, sent.metadata.ns = some ns ∧ sent.metadata.name = some name ∧
          (store.write writing sent).2.document? ⟨kind, ns, name⟩ = some reply.encode ∧
          (store.write writing sent).2 = store.accepting writing ns name reply := by
  have wellFormed := reachable.wellFormed
  refine ⟨fun error => write_eq_error_iff wellFormed, fun error failed => ?_, fun reply done => ?_⟩
  · have refused := (write_eq_error_iff wellFormed).mp failed
    rw [write_of_refused refused]
    exact ⟨rfl, rfl, rfl, rfl⟩
  · obtain ⟨ns, name, nsGiven, nameGiven, -, after⟩ := accepted_of_write wellFormed done
    refine ⟨ns, name, nsGiven, nameGiven, ?_, after⟩
    rw [after]
    exact document?_accepting_self

end MemoryStore

section Sample

/-- A service that carries a version, or none. -/
def sampleService (version : Option String) : Child .service :=
  ⟨{ name := some "cache", ns := some "kube-system", resourceVersion := version },
    Document.of _ (.object [])⟩

/-- A store with that service. -/
def serviceStore : MemoryStore := .insert {} (sampleService none)

theorem reachable_serviceStore : serviceStore.Reachable := .insert .empty _

/-- An update that carries another version than the stored one is a call that changes nothing. -/
theorem write_refused_of_stale :
    serviceStore.Reachable ∧
      (serviceStore.write .update (sampleService (some "7"))).1 =
        .error (.conflict (.child .service) "cache") ∧
      (serviceStore.write .update (sampleService (some "7"))).2.objects = serviceStore.objects ∧
      (serviceStore.write .update (sampleService (some "7"))).2.calls =
        [⟨.update, .child .service, "cache"⟩] := by
  obtain ⟨reasons, unchanged, -⟩ := MemoryStore.write_refused_or_accepted reachable_serviceStore
    .update (sampleService (some "7"))
  have found : serviceStore.document? ⟨.child .service, "kube-system", "cache"⟩ =
      some ((sampleService none).numbered "uid-1").encode := by decide +kernel
  have stale : "7" ≠ StoredDocument.version ((sampleService none).numbered "uid-1").encode := by
    rw [StoredDocument.version_encode]
    decide
  have refused := (reasons _).mpr (.stale rfl rfl rfl found rfl stale)
  obtain ⟨objects, -, -, calls⟩ := unchanged _ refused
  exact ⟨reachable_serviceStore, refused, objects, calls⟩

end Sample

end Caretaker
