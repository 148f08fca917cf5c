import Caretaker.Proofs.Store.Writing

/-!
# Stored objects

In a well-formed store a look-up of an object and a look-up of its document say the same
(`MemoryStore.object?_eq_some_iff`).  Putting an object into its place changes that place alone
(`MemoryStore.object?_put_of_ne`).
-/

namespace Caretaker

namespace KeyMap

variable {κ α : Type} [LT κ] [DecidableEq κ] [DecidableLT κ] [LE κ] [Std.IsLinearOrder κ]
  [Std.LawfulOrderLT κ]

/-- Giving a key the value that it has changes nothing. -/
theorem insert_of_get? {map : KeyMap κ α} {key : κ} {value : α}
    (found : map.get? key = some value) : map.insert key value = map := by
  apply ext_get?
  intro query
  rw [get?_insert]
  split
  case isTrue same => rw [same, found]
  case isFalse => rfl

omit [DecidableLT κ] [Std.IsLinearOrder κ] in
/-- A key of a filtered map has its value if that passes the test. -/
theorem get?_filter (map : KeyMap κ α) (test : κ → α → Bool) (key : κ) :
    (map.filter test).get? key = (map.get? key).filter (test key) :=
  Assoc.get?_filter map.ascending test key

end KeyMap

namespace MemoryStore

variable {store : MemoryStore} {kind : Kind} {ns name : String}

/-- Whether no calls of a store are to fail. -/
def Quiet (store : MemoryStore) : Prop := store.failures = []

theorem Quiet.fails (quiet : store.Quiet) (verb : Verb) (kind : Kind) :
    store.fails verb kind = false := by
  rw [MemoryStore.fails, quiet]
  rfl

theorem object?_eq_some_iff (wellFormed : store.WellFormed) {object : Object kind} :
    store.object? kind ns name = some object ↔
      store.document? ⟨kind, ns, name⟩ = some object.encode := by
  unfold object?
  constructor
  · intro read
    obtain ⟨document, found, same⟩ := Option.bind_eq_some_iff.mp read
    obtain ⟨stored, rfl, -⟩ := wellFormed.exists_object found
    rw [Object.decode?_encode] at same
    cases same
    exact found
  · intro found
    rw [found, Option.bind_some, Object.decode?_encode]

theorem object?_eq_none_iff (wellFormed : store.WellFormed) :
    store.object? kind ns name = none ↔ store.document? ⟨kind, ns, name⟩ = none := by
  unfold object?
  constructor
  · intro read
    cases found : store.document? ⟨kind, ns, name⟩ with
    | none => rfl
    | some document =>
      obtain ⟨stored, rfl, -⟩ := wellFormed.exists_object found
      rw [found, Option.bind_some, Object.decode?_encode] at read
      cases read
  · intro absent
    rw [absent, Option.bind_none]

theorem isStored_of_object? (wellFormed : store.WellFormed) {object : Object kind}
    (found : store.object? kind ns name = some object) : object.IsStored ns name := by
  obtain ⟨stored, same, isStored⟩ :=
    wellFormed.exists_object ((object?_eq_some_iff wellFormed).mp found)
  cases Object.encode_injective same
  exact isStored

theorem object?_put_self (store : MemoryStore) (ns name : String) (object : Object kind) :
    (store.put ns name object).object? kind ns name = some object := by
  rw [object?, document?_put, if_pos rfl, Option.bind_some, Object.decode?_encode]

theorem object?_put_of_ne (store : MemoryStore) {ns name : String} (object : Object kind)
    {other : Kind} {otherNs otherName : String}
    (apart : (⟨other, otherNs, otherName⟩ : Key) ≠ ⟨kind, ns, name⟩) :
    (store.put ns name object).object? other otherNs otherName =
      store.object? other otherNs otherName := by
  rw [object?, document?_put, if_neg apart, object?]

theorem object?_congr {after : MemoryStore}
    (same : after.document? ⟨kind, ns, name⟩ = store.document? ⟨kind, ns, name⟩) :
    after.object? kind ns name = store.object? kind ns name := by
  rw [object?, object?, same]

/-- Putting an object where it is already changes nothing. -/
theorem put_of_object? (wellFormed : store.WellFormed) {object : Object kind}
    (found : store.object? kind ns name = some object) : store.put ns name object = store := by
  rw [put, KeyMap.insert_of_get? ((object?_eq_some_iff wellFormed).mp found)]

/-- A look-up that does not fail reads the object that is there. -/
theorem get_of_running (wellFormed : store.WellFormed) (running : store.fails .get kind = false)
    (ns name : String) :
    (store.get kind ns name).1 =
      match store.object? kind ns name with
      | none => .error (.notFound kind ns name)
      | some object => .ok object := by
  rw [get_eq, running]
  cases found : store.object? kind ns name with
  | none =>
    rw [(object?_eq_none_iff wellFormed).mp found]
    rfl
  | some object =>
    rw [(object?_eq_some_iff wellFormed).mp found]
    exact read_encode object

/-- A quiet store reads the objects that it holds. -/
theorem get_of_quiet (quiet : store.Quiet) (wellFormed : store.WellFormed) (kind : Kind)
    (ns name : String) :
    store.get kind ns name =
      (match store.object? kind ns name with
        | none => .error (.notFound kind ns name)
        | some object => .ok object,
        store.called .get kind name) :=
  Prod.ext (get_of_running wellFormed (quiet.fails .get kind) ns name) (by rw [get_eq])

theorem answer_get_of_failing (failing : store.fails .get kind = true) (ns name : String) :
    store.answer (.get kind ns name) =
      (.error (.injected .get kind name), store.called .get kind name) := by
  refine (get_eq store kind ns name).trans ?_
  rw [failing]
  rfl

theorem answer_get_of_found (wellFormed : store.WellFormed)
    (running : store.fails .get kind = false) {object : Object kind}
    (found : store.object? kind ns name = some object) :
    store.answer (.get kind ns name) = (.ok object, store.called .get kind name) := by
  have read := get_of_running wellFormed running ns name
  rw [found] at read
  refine Prod.ext read ?_
  rw [answer, get_eq]

theorem answer_get_of_absent (wellFormed : store.WellFormed)
    (running : store.fails .get kind = false) (absent : store.object? kind ns name = none) :
    store.answer (.get kind ns name) =
      (.error (.notFound kind ns name), store.called .get kind name) := by
  have read := get_of_running wellFormed running ns name
  rw [absent] at read
  refine Prod.ext read ?_
  rw [answer, get_eq]

theorem answer_create_of_failing {object : Object kind}
    (writable : Key.forWriting object = .ok ⟨kind, ns, name⟩)
    (failing : store.fails .create kind = true) :
    store.answer (.create kind object) =
      (.error (.injected .create kind name), store.called .create kind name) := by
  refine (create_eq store writable).trans ?_
  rw [failing]
  rfl

theorem answer_create_of_absent {object : Object kind}
    (writable : Key.forWriting object = .ok ⟨kind, ns, name⟩)
    (running : store.fails .create kind = false)
    (absent : store.document? ⟨kind, ns, name⟩ = none) :
    store.answer (.create kind object) =
      (.ok (object.numbered store.nextUid),
        { (store.called .create kind name).put ns name (object.numbered store.nextUid) with
          assigned := store.assigned + 1 }) := by
  refine (create_eq store writable).trans ?_
  rw [running, absent]
  rfl

/-- An object that is read is the one that the store holds. -/
theorem document?_of_get (wellFormed : store.WellFormed) {object : Object kind}
    (read : (store.get kind ns name).1 = .ok object) :
    store.document? ⟨kind, ns, name⟩ = some object.encode := by
  rw [get_eq] at read
  split at read
  · cases read
  · cases found : store.document? ⟨kind, ns, name⟩ with
    | none =>
      rw [found] at read
      cases read
    | some document =>
      obtain ⟨stored, rfl, -⟩ := wellFormed.exists_object found
      rw [found] at read
      cases (read_encode stored).symm.trans read
      rfl

/-- A place that is taken is not reported to be free. -/
theorem isNotFound_of_get (wellFormed : store.WellFormed) {document : Json} {error : Error}
    (there : store.document? ⟨kind, ns, name⟩ = some document)
    (refused : (store.get kind ns name).1 = .error error) : error.isNotFound = false := by
  obtain ⟨stored, rfl, -⟩ := wellFormed.exists_object there
  rw [get_eq, there] at refused
  split at refused
  · cases refused
    rfl
  · cases (read_encode stored).symm.trans refused

/-- An object is created only in a free place, and is there afterwards. -/
theorem document?_of_create {object stored : Object kind} {key : Key}
    (writable : Key.forWriting object = .ok key) (created : (store.create object).1 = .ok stored) :
    store.document? key = none ∧ ((store.create object).2.document? key).isSome := by
  obtain ⟨ns, name, rfl, -, -⟩ := Key.exists_of_forWriting writable
  rw [create_eq store writable] at created ⊢
  split at created
  · cases created
  split at created
  · cases created
  next running absent =>
  rw [if_neg running, if_neg absent]
  refine ⟨Option.not_isSome_iff_eq_none.mp absent, ?_⟩
  unfold document?
  exact (congrArg Option.isSome (KeyMap.get?_insert _ _ _ _)).trans (by rw [if_pos rfl]; rfl)

end MemoryStore

/-- The place that a request writes to, if it writes and names one. -/
def Request.place? : Request → Option Key
  | .create _ object | .update _ object | .updateStatus _ object => (Key.forWriting object).toOption
  | .get .. | .list .. | .listStorageClasses => none

theorem Request.place?_of_read {request : Request} (reads : request.verb.isWrite = false) :
    request.place? = none := by
  cases request <;> first | rfl | cases reads

theorem Key.forWriting_of_toOption {kind : Kind} {object : Object kind} {key : Key}
    (named : (forWriting object).toOption = some key) : forWriting object = .ok key := by
  cases writable : forWriting object with
  | error error =>
    rw [writable] at named
    cases named
  | ok place =>
    rw [writable] at named
    cases named
    rfl

/-- A request changes no place but the one that it writes to. -/
theorem MemoryStore.document?_answer_of_ne {store : MemoryStore} (wellFormed : store.WellFormed)
    {request : Request} {key : Key} (apart : request.place? ≠ some key) :
    (store.answer request).2.document? key = store.document? key := by
  rcases request.reads_or_writes with reads | ⟨kind, writing, object, rfl⟩
  · obtain ⟨name, called⟩ := store.exists_answer_eq_called reads
    rw [called]
    rfl
  · have kept : (store.write writing object).2.document? key = store.document? key := by
      rcases store.write_cases wellFormed writing object with
        ⟨error, refused⟩ | ⟨ns, name, stored, nsGiven, nameGiven, -, wrote⟩
      · rw [write_of_refused refused]
        rfl
      · rw [wrote]
        refine document?_accepting_of_ne fun here => apart ?_
        have named := congrArg Except.toOption (Key.forWriting_of_some nsGiven nameGiven)
        cases writing <;> exact named.trans (congrArg some here.symm)
    cases writing <;> exact kept

end Caretaker
