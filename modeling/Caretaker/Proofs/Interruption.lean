import Caretaker.Proofs.Program
import Caretaker.Proofs.Store.Object

/-!
# Interrupted runs

A program propagates (`Program.Propagates`) if every error ends it, except the one that nothing was
found.  If such a program succeeds, it succeeds with some calls failing as well, unless one of its
calls is among them; then it ends with the first such call, and what it wrote until then stays
(`MemoryStore.run_failing`).
-/

namespace Caretaker

namespace Program

variable {α β : Type}

/-- The program as far as a number of requests go, with its value if it is over by then. -/
def take : Program α → Nat → Program (Option α)
  | done result, _ => done (result.map some)
  | ask _ _, 0 => done (.ok none)
  | ask request next, count + 1 => ask request fun answer => (next answer).take count

/-- Whether every error ends a program, except the one that nothing was found. -/
def Propagates : Program α → Prop
  | done _ => True
  | ask _ next =>
    (∀ error, error.isNotFound = false → next (.error error) = done (.error error)) ∧
      ∀ answer, (next answer).Propagates

theorem Propagates.bind {program : Program α} {next : α → Program β}
    (first : program.Propagates) (second : ∀ value, (next value).Propagates) :
    (program >>= next).Propagates := by
  induction program with
  | done result =>
    cases result with
    | ok value => exact second value
    | error error => trivial
  | ask request rest ih =>
    refine ⟨fun error other => ?_, fun answer => ih answer (first.2 answer)⟩
    show (rest (.error error)).bind next = _
    rw [first.1 error other, bind_done_error]

theorem propagates_ofExcept (result : Except Error α) : (ofExcept result).Propagates := trivial

theorem propagates_pure (value : α) : (pure value : Program α).Propagates := trivial

theorem propagates_perform (request : Request) : (perform request).Propagates :=
  ⟨fun _ _ => rfl, fun _ => trivial⟩

theorem propagates_attempt {request : Request} {next : Except Error request.Answer → Program α}
    (fails : ∀ error, error.isNotFound = false → next (.error error) = fail error)
    (later : ∀ answer, (next answer).Propagates) : (attempt request >>= next).Propagates :=
  ⟨fails, later⟩

/-- A program that goes on when nothing was found fails with every other error. -/
theorem fails_unless_missing {missing : Program α} {error : Error}
    (other : error.isNotFound = false) :
    (if error.isNotFound then missing else fail error) = fail error := by
  rw [other]
  rfl

theorem propagates_unless_missing {missing : Program α} (propagates : missing.Propagates)
    (error : Error) : (if error.isNotFound then missing else fail error).Propagates := by
  split
  · exact propagates
  · trivial

end Program

/-- Whether a call is among those that are to fail. -/
def Call.isIn (call : Call) (failures : List (Verb × Kind)) : Bool :=
  failures.contains (call.verb, call.kind)

namespace MemoryStore

variable {α : Type} {store after : MemoryStore}

/-- The store in which the calls of the given verbs and kinds fail, and no others. -/
def failing (store : MemoryStore) (failures : List (Verb × Kind)) : MemoryStore :=
  { store with failures := failures }

/-- The store that a run of a program has reached after a number of requests. -/
def reached (store : MemoryStore) (program : Program α) (count : Nat) : MemoryStore :=
  (store.run (program.take count)).2

/-- The store that a failing call leaves. -/
def refusing (store : MemoryStore) (call : Call) (failures : List (Verb × Kind)) : MemoryStore :=
  { store with calls := store.calls ++ [call], failures := failures }

/-- What a request does that is recorded as a call and then, unless it is to fail, acts on the
documents and the number of uids. -/
theorem answer_of_recorded {Answer : Type} (call : Call)
    (handle : MemoryStore → Except Error Answer × MemoryStore)
    (act : Objects → Nat → Except Error Answer × Objects × Nat) (quiet : store.Quiet)
    (handles : ∀ store, handle store =
      if store.fails call.verb call.kind then
        (.error (.injected call.verb call.kind call.name),
          store.called call.verb call.kind call.name)
      else
        ((act store.objects store.assigned).1,
          { store.called call.verb call.kind call.name with
            objects := (act store.objects store.assigned).2.1
            assigned := (act store.objects store.assigned).2.2 }))
    (failures : List (Verb × Kind)) :
    ∃ call : Call, (handle store).2.calls = store.calls ++ [call] ∧ (handle store).2.Quiet ∧
      handle (store.failing failures) =
        if call.isIn failures then
          (.error (.injected call.verb call.kind call.name), store.refusing call failures)
        else ((handle store).1, (handle store).2.failing failures) := by
  have acts := handles store
  rw [quiet.fails] at acts
  refine ⟨call, ?_, ?_, ?_⟩
  · rw [acts]
    rfl
  · rw [acts]
    exact quiet
  · rw [acts, handles]
    rfl

/-- A write that is answered, if only by saying that nothing was found, names its place in full. -/
theorem exists_place_of_answered {kind : Kind} {object : Object kind} {request : Request}
    (answered : ∀ error, (store.answer request).1 = .error error → error.isNotFound = true)
    (refuses : ∀ error, Key.forWriting object = .error error →
      (store.answer request).1 = .error error) :
    ∃ ns name, Key.forWriting object = .ok ⟨kind, ns, name⟩ := by
  cases writable : Key.forWriting object with
  | error error =>
    have found := answered error (refuses error writable)
    rw [Key.isNotFound_of_forWriting writable] at found
    cases found
  | ok key =>
    obtain ⟨ns, name, rfl, -, -⟩ := Key.exists_of_forWriting writable
    exact ⟨ns, name, rfl⟩

/-- A request that is answered, if only by saying that nothing was found, makes one call; if that is
to fail, it does, and else the answer is the same. -/
theorem answer_failing (quiet : store.Quiet) (request : Request) (failures : List (Verb × Kind))
    (answered : ∀ error, (store.answer request).1 = .error error → error.isNotFound = true) :
    ∃ call : Call, (store.answer request).2.calls = store.calls ++ [call] ∧
      (store.answer request).2.Quiet ∧
      (store.failing failures).answer request =
        if call.isIn failures then
          (.error (.injected call.verb call.kind call.name), store.refusing call failures)
        else ((store.answer request).1, (store.answer request).2.failing failures) := by
  cases request with
  | get kind ns name =>
    refine answer_of_recorded ⟨.get, kind, name⟩ (get · kind ns name)
      (fun objects assigned =>
        ((objects.get? ⟨kind, ns, name⟩).elim (.error (.notFound kind ns name)) (read kind),
          objects, assigned)) quiet (fun store => ?_) failures
    refine (get_eq store kind ns name).trans ?_
    unfold document?
    cases store.objects.get? ⟨kind, ns, name⟩ <;>
      exact apply_ite (Prod.mk · (store.called .get kind name)) _ _ _
  | list kind ns labels =>
    refine answer_of_recorded ⟨.list, kind, ""⟩ (list · kind ns labels)
      (fun objects assigned =>
        ((objects.filter fun key document => key.kind = kind && (key.ns = ns &&
          StoredDocument.hasLabels document labels)).values.mapM (read kind), objects, assigned))
      quiet (fun store => ?_) failures
    refine (list_eq store kind ns labels).trans ?_
    exact apply_ite (Prod.mk · (store.called .list kind "")) _ _ _
  | listStorageClasses =>
    refine answer_of_recorded ⟨.list, .storageClass, ""⟩ listStorageClasses
      (fun objects assigned =>
        ((objects.filter fun key _ => key.kind = .storageClass && true).values.mapM
          (read .storageClass), objects, assigned)) quiet (fun store => ?_) failures
    refine (listStorageClasses_eq store).trans ?_
    exact apply_ite (Prod.mk · (store.called .list .storageClass "")) _ _ _
  | create kind object =>
    obtain ⟨ns, name, writable⟩ := exists_place_of_answered answered fun _ refused =>
      congrArg Prod.fst (create_of_refused refused)
    refine answer_of_recorded ⟨.create, kind, name⟩ (create · object)
      (fun objects assigned =>
        if (objects.get? ⟨kind, ns, name⟩).isSome then
          (.error (.alreadyExists kind name), objects, assigned)
        else
          (.ok (object.numbered ("uid-" ++ toString (assigned + 1))),
            objects.insert ⟨kind, ns, name⟩
              (object.numbered ("uid-" ++ toString (assigned + 1))).encode, assigned + 1))
      quiet (fun store => ?_) failures
    refine (create_eq store writable).trans (ite_congr rfl (fun _ => rfl) fun _ => ?_)
    unfold document?
    cases (store.objects.get? ⟨kind, ns, name⟩).isSome <;> rfl
  | update kind object =>
    obtain ⟨ns, name, writable⟩ := exists_place_of_answered answered fun _ refused =>
      congrArg Prod.fst (update_of_refused refused)
    refine answer_of_recorded ⟨.update, kind, name⟩ (update · object)
      (fun objects assigned => (objects.get? ⟨kind, ns, name⟩).elim
        (.error (.notFound kind ns name), objects, assigned) fun stored =>
          if isStale object stored then (.error (.conflict kind name), objects, assigned)
          else
            (read kind (updated object.encode stored),
              objects.insert ⟨kind, ns, name⟩ (updated object.encode stored), assigned))
      quiet (fun store => ?_) failures
    refine (update_eq store writable).trans (ite_congr rfl (fun _ => rfl) fun _ => ?_)
    unfold document?
    cases store.objects.get? ⟨kind, ns, name⟩ with
    | none => rfl
    | some stored =>
      simp only [Option.elim_some]
      cases isStale object stored <;> rfl
  | updateStatus kind object =>
    obtain ⟨ns, name, writable⟩ := exists_place_of_answered answered fun _ refused =>
      congrArg Prod.fst (updateStatus_of_refused refused)
    refine answer_of_recorded ⟨.updateStatus, kind, name⟩ (updateStatus · object)
      (fun objects assigned => (objects.get? ⟨kind, ns, name⟩).elim
        (.error (.notFound kind ns name), objects, assigned) fun stored =>
          (read kind (statusUpdated object.encode stored),
            objects.insert ⟨kind, ns, name⟩ (statusUpdated object.encode stored), assigned))
      quiet (fun store => ?_) failures
    refine (updateStatus_eq store writable).trans (ite_congr rfl (fun _ => rfl) fun _ => ?_)
    unfold document?
    cases store.objects.get? ⟨kind, ns, name⟩ <;> rfl

theorem run_ask (store : MemoryStore) (request : Request)
    (next : Except Error request.Answer → Program α) :
    store.run (.ask request next) =
      (store.answer request).2.run (next (store.answer request).1) := rfl

/-- A program that propagates and succeeds is answered, if only by saying that nothing was found. -/
theorem isNotFound_of_run_ask {request : Request} {next : Except Error request.Answer → Program α}
    (propagates : (Program.ask request next).Propagates) {value : α}
    (ran : store.run (.ask request next) = (.ok value, after)) (error : Error)
    (answered : (store.answer request).1 = .error error) : error.isNotFound = true := by
  cases other : error.isNotFound with
  | true => rfl
  | false =>
    rw [run_ask, answered, propagates.1 error other] at ran
    cases ran

/-- A program that propagates and succeeds does the same with failing calls if it makes none of
them.  Else it ends with the first that it makes, after what it did until then. -/
theorem run_failing {program : Program α} (propagates : program.Propagates) (quiet : store.Quiet)
    {value : α} (ran : store.run program = (.ok value, after)) (failures : List (Verb × Kind)) :
    ∃ trace, after.calls = store.calls ++ trace ∧ after.Quiet ∧
      ((∀ call ∈ trace, call.isIn failures = false) ∧
          (store.failing failures).run program = (.ok value, after.failing failures) ∨
        ∃ before call later, trace = before ++ call :: later ∧
          (∀ earlier ∈ before, earlier.isIn failures = false) ∧ call.isIn failures = true ∧
          (store.reached program before.length).calls = store.calls ++ before ∧
          (store.failing failures).run program =
            (.error (.injected call.verb call.kind call.name),
              (store.reached program before.length).refusing call failures)) := by
  induction program generalizing store with
  | done result =>
    cases ran
    exact ⟨[], (List.append_nil _).symm, quiet, Or.inl ⟨nofun, rfl⟩⟩
  | ask request next ih =>
    obtain ⟨call, calls, quietAfter, failing⟩ :=
      answer_failing quiet request failures (isNotFound_of_run_ask propagates ran)
    rw [run_ask] at ran
    obtain ⟨trace, same, quietEnd, ends⟩ := ih _ (propagates.2 _) quietAfter ran
    refine ⟨call :: trace, ?_, quietEnd, ?_⟩
    · rw [same, calls, List.append_assoc, List.singleton_append]
    · rw [run_ask, failing]
      cases isIn : call.isIn failures with
      | true =>
        refine Or.inr ⟨[], call, trace, rfl, nofun, isIn, (List.append_nil _).symm, ?_⟩
        simp only [if_true]
        rw [propagates.1 _ rfl]
        rfl
      | false =>
        simp only [Bool.false_eq_true, if_false]
        rcases ends with
          ⟨none, succeeds⟩ | ⟨before, failed, later, split, none, failedIn, between, fails⟩
        · exact Or.inl ⟨List.forall_mem_cons.mpr ⟨isIn, none⟩, succeeds⟩
        · refine Or.inr ⟨call :: before, failed, later, congrArg (List.cons call) split,
            List.forall_mem_cons.mpr ⟨isIn, none⟩, failedIn, ?_, fails⟩
          refine between.trans ?_
          rw [calls, List.append_assoc, List.singleton_append]

end MemoryStore

end Caretaker
