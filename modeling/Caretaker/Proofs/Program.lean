import Caretaker.Store.Memory

/-!
# Running programs over a store in memory

A run of a program that goes on with another one is the run of the first followed by the run of the
second (`MemoryStore.run_bind`).  A run that succeeds therefore comes apart into the runs of its
parts (`MemoryStore.run_bind_eq_ok`).  Whatever every answer preserves holds after a run
(`Program.run_preserves`).
-/

namespace Caretaker

/-- What every answer preserves holds after a run. -/
theorem Program.run_preserves {σ α : Type}
    {answer : σ → (request : Request) → Except Error request.Answer × σ} (sort : σ → Prop)
    (preserves : ∀ state request, sort state → sort (answer state request).2)
    (program : Program α) {state : σ} (holds : sort state) :
    sort (program.run answer state).2 := by
  induction program generalizing state with
  | done => exact holds
  | ask request next ih => exact ih _ (preserves state request holds)

/-- A program that makes a request goes on with its answer. -/
theorem Program.run_ask_of {σ α : Type}
    {answer : σ → (request : Request) → Except Error request.Answer × σ} {state after : σ}
    {request : Request} {reply : Except Error request.Answer}
    (answered : answer state request = (reply, after))
    (next : Except Error request.Answer → Program α) :
    (Program.ask request next).run answer state = (next reply).run answer after := by
  rw [run, answered]

theorem Program.bind_assoc {α β γ : Type} (program : Program α) (next : α → Program β)
    (rest : β → Program γ) :
    program >>= next >>= rest = program >>= fun value => next value >>= rest := by
  induction program with
  | done result => cases result <;> rfl
  | ask request answered ih => exact congrArg (Program.ask request) (funext ih)

namespace MemoryStore

variable {α β : Type} {store after : MemoryStore}

theorem run_bind (store : MemoryStore) (program : Program α) (next : α → Program β) :
    store.run (program >>= next) =
      match store.run program with
      | (.ok value, between) => between.run (next value)
      | (.error error, between) => (.error error, between) := by
  refine (Program.run_bind answer program next store).trans ?_
  rw [run]
  rcases program.run answer store with ⟨_ | _, _⟩ <;> rfl

@[simp]
theorem run_pure (store : MemoryStore) (value : α) :
    store.run (pure value : Program α) = (.ok value, store) := rfl

@[simp]
theorem run_ofExcept (store : MemoryStore) (result : Except Error α) :
    store.run (Program.ofExcept result) = (result, store) := rfl

@[simp]
theorem run_perform (store : MemoryStore) (request : Request) :
    store.run (Program.perform request) = store.answer request := rfl

@[simp]
theorem run_attempt (store : MemoryStore) (request : Request) :
    store.run (Program.attempt request) =
      (.ok (store.answer request).1, (store.answer request).2) := rfl

/-- A run that succeeds is made of runs that succeed. -/
theorem run_bind_eq_ok {program : Program α} {next : α → Program β} {value : β} :
    store.run (program >>= next) = (.ok value, after) ↔
      ∃ first between, store.run program = (.ok first, between) ∧
        between.run (next first) = (.ok value, after) := by
  rw [run_bind]
  constructor
  · intro succeeds
    split at succeeds
    · next first between ran => exact ⟨first, between, ran, succeeds⟩
    · cases succeeds
  · rintro ⟨first, between, ran, succeeds⟩
    rw [ran]
    exact succeeds

/-- A run that fails is one of a first part that fails, or of one that succeeds and a rest that
fails. -/
theorem run_bind_eq_error {program : Program α} {next : α → Program β} {error : Error} :
    store.run (program >>= next) = (.error error, after) ↔
      store.run program = (.error error, after) ∨
        ∃ first between, store.run program = (.ok first, between) ∧
          between.run (next first) = (.error error, after) := by
  rw [run_bind]
  rcases store.run program with ⟨reason | first, between⟩
  · simp
  · constructor
    · exact fun failed => Or.inr ⟨first, between, rfl, failed⟩
    · rintro (⟨⟨⟩⟩ | ⟨_, _, ⟨⟩, failed⟩)
      exact failed

end MemoryStore

end Caretaker
