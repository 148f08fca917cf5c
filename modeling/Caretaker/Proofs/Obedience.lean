import Caretaker.Proofs.Interleaving

/-!
# Programs that obey a rule

A rule says which request may follow the exchanges that a program had so far.  Whether a program
obeys one is read off its tree (`Program.Obeys`), for all answers that a store may admit: nothing is
known about the store, and programs that obey go on to each other (`Program.Obeys.bind`).  Every run
of a program that obeys keeps the rule (`Program.Obeys.log`).
-/

namespace Caretaker

/-- The error that an exchange ended with, unless it only says that there is nothing to be read. -/
def Exchange.failure? (exchange : Exchange) : Option Error :=
  match exchange.reply with
  | .ok _ => none
  | .error error =>
    if exchange.request.verb = .get && error.isNotFound then none else some error

/-- Whether the answer to an exchange that gives one object back is about the place that was asked
for; absent names are empty. -/
def Exchange.Faithful : Exchange → Prop
  | ⟨.get kind ns name, .ok object⟩ => Key.ofObject object = ⟨kind, ns, name⟩
  | ⟨.updateStatus _ sent, .ok stored⟩ => Key.ofObject stored = Key.ofObject sent
  | _ => True

namespace Program

variable {α β σ : Type} {admits : Exchange → Prop} {rule : List Exchange → Request → Prop}

/-- Whether a program that had some exchanges makes only requests that the rule lets follow, and
ends as it should, if its answers are admitted. -/
def Obeys (admits : Exchange → Prop) (rule : List Exchange → Request → Prop)
    (ends : List Exchange → Except Error α → Prop) : Program α → List Exchange → Prop
  | done result, said => ends said result
  | ask request next, said => rule said request ∧ ∀ reply, admits ⟨request, reply⟩ →
    (next reply).Obeys admits rule ends (said ++ [⟨request, reply⟩])

/-- The exchanges of a run, in their order. -/
def log (answer : σ → (request : Request) → Except Error request.Answer × σ) :
    Program α → σ → List Exchange
  | done _, _ => []
  | ask request next, state =>
    let reply := answer state request
    ⟨request, reply.1⟩ :: (next reply.1).log answer reply.2

@[simp]
theorem log_done (answer : σ → (request : Request) → Except Error request.Answer × σ)
    (result : Except Error α) (state : σ) : (done result).log answer state = [] := rfl

theorem log_ask_of {answer : σ → (request : Request) → Except Error request.Answer × σ}
    {state after : σ} {request : Request} {reply : Except Error request.Answer}
    (answered : answer state request = (reply, after))
    (next : Except Error request.Answer → Program α) :
    (ask request next).log answer state = ⟨request, reply⟩ :: (next reply).log answer after := by
  rw [log, answered]

/-- A program that goes on with another one has its exchanges, and then those of the other one. -/
theorem log_bind (answer : σ → (request : Request) → Except Error request.Answer × σ)
    (program : Program α) (next : α → Program β) (state : σ) :
    (program >>= next).log answer state = program.log answer state ++
      match program.run answer state with
      | (.ok value, after) => (next value).log answer after
      | (.error _, _) => [] := by
  induction program generalizing state with
  | done result => cases result <;> rfl
  | ask request rest ih => exact congrArg (List.cons _) (ih _ _)

theorem log_bind_of_ok {answer : σ → (request : Request) → Except Error request.Answer × σ}
    {program : Program α} {state after : σ} {value : α}
    (ran : program.run answer state = (.ok value, after)) (next : α → Program β) :
    (program >>= next).log answer state =
      program.log answer state ++ (next value).log answer after := by
  rw [log_bind, ran]

theorem log_bind_of_error {answer : σ → (request : Request) → Except Error request.Answer × σ}
    {program : Program α} {state after : σ} {error : Error}
    (ran : program.run answer state = (.error error, after)) (next : α → Program β) :
    (program >>= next).log answer state = program.log answer state := by
  rw [log_bind, ran, List.append_nil]

namespace Obeys

theorem mono {program : Program α} {ends weaker : List Exchange → Except Error α → Prop}
    {said : List Exchange} (obeys : program.Obeys admits rule ends said)
    (implied : ∀ later result, ends later result → weaker later result) :
    program.Obeys admits rule weaker said := by
  induction program generalizing said with
  | done result => exact implied said result obeys
  | ask request next ih => exact ⟨obeys.1, fun reply admitted => ih reply (obeys.2 reply admitted)⟩

/-- A program obeys before another one if its value lets that one obey. -/
theorem bind {program : Program α} {next : α → Program β}
    {ends : List Exchange → Except Error β → Prop} {said : List Exchange}
    (obeys : program.Obeys admits rule (fun later result =>
      match result with
      | .ok value => (next value).Obeys admits rule ends later
      | .error error => ends later (.error error)) said) :
    (program >>= next).Obeys admits rule ends said := by
  induction program generalizing said with
  | done result =>
    cases result with
    | ok value => exact obeys
    | error error => exact obeys
  | ask request rest ih => exact ⟨obeys.1, fun reply admitted => ih reply (obeys.2 reply admitted)⟩

/-- A run of a program that obeys keeps the rule at every request, and ends as it should. -/
theorem log {program : Program α} {ends : List Exchange → Except Error α → Prop}
    {said : List Exchange} (obeys : program.Obeys admits rule ends said)
    (answer : σ → (request : Request) → Except Error request.Answer × σ) (state : σ)
    (admitted : ∀ exchange ∈ program.log answer state, admits exchange) :
    ends (said ++ program.log answer state) (program.run answer state).1 ∧
      ∀ before exchange after, program.log answer state = before ++ exchange :: after →
        rule (said ++ before) exchange.request := by
  induction program generalizing said state with
  | done result =>
    rw [Program.log, List.append_nil]
    exact ⟨obeys, fun before exchange after split => by simp at split⟩
  | ask request next ih =>
    obtain ⟨permitted, rest⟩ := obeys
    obtain ⟨here, later⟩ := List.forall_mem_cons.mp admitted
    obtain ⟨ended, kept⟩ := ih _ (rest _ here) _ later
    rw [List.append_assoc] at ended
    refine ⟨ended, fun before exchange after split => ?_⟩
    cases before with
    | nil =>
      obtain ⟨rfl, -⟩ := List.cons.inj split
      rw [List.append_nil]
      exact permitted
    | cons first before =>
      obtain ⟨rfl, others⟩ := List.cons.inj split
      have permitted := kept before exchange after others
      rwa [List.append_assoc] at permitted

end Obeys

end Program

end Caretaker
