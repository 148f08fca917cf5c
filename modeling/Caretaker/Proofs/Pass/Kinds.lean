import Caretaker.Pass
import Caretaker.Proofs.Obedience

/-!
# The kinds that a program asks about

Which kinds the requests of a program are about is read off its tree (`Program.Asks`).  The steps of
a pass ask about the kinds of their children, about pods and about the parent
(`asks_performSteps`), and a program leaves the objects of all kinds alone that it does not ask
about (`Program.Asks.document?_run`).
-/

namespace Caretaker

theorem Request.kind_of_place? {request : Request} {key : Key}
    (writes : request.place? = some key) : key.kind = request.kind := by
  cases request with
  | get | list | listStorageClasses => cases writes
  | create kind object | update kind object | updateStatus kind object =>
    exact (Key.forWriting_eq_ok.mp (Key.forWriting_of_toOption writes)).2.2

namespace Program

variable {α β σ : Type} {about wider : Kind → Prop} {program : Program α}

/-- Whether all requests of a program are about kinds of a sort, whatever it is answered. -/
def Asks (about : Kind → Prop) : Program α → Prop
  | done _ => True
  | ask request next => about request.kind ∧ ∀ reply, (next reply).Asks about

namespace Asks

theorem mono (asks : program.Asks about) (implied : ∀ kind, about kind → wider kind) :
    program.Asks wider := by
  induction program with
  | done => trivial
  | ask request next ih => exact ⟨implied _ asks.1, fun reply => ih reply (asks.2 reply)⟩

theorem bind {next : α → Program β} (asks : program.Asks about)
    (rest : ∀ value, (next value).Asks about) : (program >>= next).Asks about := by
  induction program with
  | done result =>
    cases result with
    | ok value => exact rest value
    | error error => trivial
  | ask request answered ih => exact ⟨asks.1, fun reply => ih reply (asks.2 reply)⟩

/-- The exchanges of a run are about the kinds that the program asks about. -/
theorem log (asks : program.Asks about)
    (answer : σ → (request : Request) → Except Error request.Answer × σ) (state : σ) :
    ∀ exchange ∈ program.log answer state, about exchange.request.kind := by
  induction program generalizing state with
  | done => exact List.forall_mem_nil _
  | ask request next ih => exact List.forall_mem_cons.mpr ⟨asks.1, ih _ (asks.2 _) _⟩

/-- Objects of a kind that a program does not ask about stay as they are. -/
theorem document?_run {store : MemoryStore} (asks : program.Asks about)
    (wellFormed : store.WellFormed) {key : Key} (other : ¬about key.kind) :
    (store.run program).2.document? key = store.document? key := by
  induction program generalizing store with
  | done => rfl
  | ask request next ih =>
    have apart : request.place? ≠ some key := fun writes =>
      other (Request.kind_of_place? writes ▸ asks.1)
    exact (ih _ (asks.2 _) (wellFormed.answer request)).trans
      (MemoryStore.document?_answer_of_ne wellFormed apart)

end Asks

end Program

section Parts

variable {kind : ParentKind} {childKind : ChildKind} (owner : OwnerReference)

theorem asks_converge (desired : Child childKind) :
    (converge owner desired).Asks (· = .child childKind) := by
  rcases converge_cases owner desired with ⟨error, ends⟩ | ⟨ns, name, next, asks, found, missing⟩
  · rw [ends]
    trivial
  rw [asks]
  refine ⟨rfl, fun reply => ?_⟩
  cases reply with
  | ok live =>
    rw [found]
    rcases updateChild_cases owner live desired with same | ⟨error, ends⟩ | ⟨child, -, updates⟩
    · rw [same]
      trivial
    · rw [ends]
      trivial
    · rw [updates]
      exact ⟨rfl, fun _ => trivial⟩
  | error error =>
    rw [missing]
    split
    · rcases createChild_cases owner desired with ⟨error, ends⟩ | ⟨child, -, creates⟩
      · rw [ends]
        trivial
      · rw [creates]
        exact ⟨rfl, fun _ => trivial⟩
    · trivial

theorem asks_reportPods (list : PodList kind) (labels : LabelMap) (parent : Object (.parent kind)) :
    (reportPods list labels parent).Asks fun asked => asked = .pod ∨ asked = .parent kind := by
  unfold reportPods
  split
  · trivial
  · refine Program.Asks.bind ⟨Or.inl rfl, fun _ => trivial⟩ fun pods => ?_
    dsimp only
    split
    · trivial
    · exact Program.Asks.bind ⟨Or.inr rfl, fun _ => trivial⟩ fun _ => trivial

/-- The kinds that a step asks about. -/
def Step.kinds : Step kind → List Kind
  | .child childKind _ => [.child childKind]
  | .report .. => [.pod, .parent kind]

theorem asks_performSteps (steps : List (Step kind)) (parent : Object (.parent kind)) :
    (performSteps owner steps parent).Asks (· ∈ steps.flatMap Step.kinds) := by
  induction steps generalizing parent with
  | nil => trivial
  | cons step rest ih =>
    have later (parent : Object (.parent kind)) :
        (performSteps owner rest parent).Asks (· ∈ (step :: rest).flatMap Step.kinds) :=
      (ih parent).mono fun _ member => List.mem_append_right _ member
    cases step with
    | child childKind build =>
      have built : (Program.ofExcept (build parent)).Asks (· ∈ (Step.child childKind build ::
          rest).flatMap Step.kinds) := trivial
      refine built.bind fun desired => ?_
      refine ((asks_converge owner desired).mono ?_).bind fun converged =>
        (later parent).bind fun changes => trivial
      rintro _ rfl
      exact List.mem_cons_self
    | report list labels =>
      refine ((asks_reportPods list _ parent).mono ?_).bind fun reported => later reported.parent
      rintro _ (rfl | rfl)
      · exact List.mem_cons_self
      · exact List.mem_cons_of_mem _ List.mem_cons_self

end Parts

end Caretaker
