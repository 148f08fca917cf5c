import Caretaker.Api.Server
import Caretaker.Controller.Announcement
import Caretaker.Proofs.Obedience
import Caretaker.Proofs.Pass.Run
import Mathlib.Data.List.Basic

/-!
# What is announced of the passes

The children that a pass creates are in its exchanges (`creations`), and those that it lists as
created are announced.  A pass that succeeds lists what it created (`makes_pass`), but one that
fails lists nothing.  So over all passes of a history, what is announced is what the passes that
succeeded created, and why the others failed (`announcements_of_history`): of a child that was
created before a pass failed nobody hears (`silent_creation`).
-/

namespace Caretaker

/-- The change that an exchange stands for if it created a child. -/
def Exchange.creation? : Exchange → Option Change
  | ⟨.create (.child kind) _, .ok stored⟩ => some ⟨.created, kind, (stored : Child kind).nameD⟩
  | _ => none

/-- The children that exchanges created, in their order. -/
def creations (exchanges : List Exchange) : List Change := exchanges.filterMap Exchange.creation?

theorem creations_append (exchanges later : List Exchange) :
    creations (exchanges ++ later) = creations exchanges ++ creations later :=
  List.filterMap_append

/-- The changes among others that are creations. -/
def createdAmong (changes : List Change) : List Change :=
  changes.filter fun change => change.outcome = .created

namespace Program

variable {α β : Type}

/-- Whether what a program creates and its value are related whenever it succeeds, whatever it is
answered. -/
def Makes (program : Program α) (related : List Change → α → Prop) : Prop :=
  ∀ said, program.Obeys (fun _ => True) (fun _ _ => True) (fun later result =>
    ∀ value, result = .ok value →
      ∃ made, creations later = creations said ++ made ∧ related made value) said

namespace Makes

variable {related between : List Change → α → Prop}

theorem bind {program : Program α} {next : α → Program β} {final : List Change → β → Prop}
    (makes : program.Makes between)
    (rest : ∀ value made, between made value →
      (next value).Makes fun later result => final (made ++ later) result) :
    (program >>= next).Makes final := by
  refine fun said => Obeys.bind (Obeys.mono (makes said) fun later result ends => ?_)
  cases result with
  | error error => nofun
  | ok value =>
    obtain ⟨made, split, goesOn⟩ := ends value rfl
    refine Obeys.mono (rest value made goesOn later) fun last result ends value same => ?_
    obtain ⟨more, splitLast, holds⟩ := ends value same
    exact ⟨made ++ more, by rw [splitLast, split, List.append_assoc], holds⟩

/-- A program that makes no request creates nothing. -/
theorem done {result : Except Error α} (holds : ∀ value, result = .ok value → related [] value) :
    (Program.done result).Makes related :=
  fun _ value same => ⟨[], (List.append_nil _).symm, holds value same⟩

theorem fail {error : Error} : (Program.fail error : Program α).Makes related :=
  done fun _ same => nomatch same

theorem pure {value : α} (holds : related [] value) : (Pure.pure value : Program α).Makes related :=
  done fun _ same => Except.ok.inj same ▸ holds

/-- A request creates at most what its exchange stands for. -/
theorem ask {request : Request} {next : Except Error request.Answer → Program α}
    (rest : ∀ reply, (next reply).Makes fun later value =>
      related ((Exchange.creation? ⟨request, reply⟩).toList ++ later) value) :
    (Program.ask request next).Makes related := by
  refine fun said => ⟨trivial, fun reply _ => ?_⟩
  refine Obeys.mono (rest reply _) fun last result ends value same => ?_
  obtain ⟨more, split, holds⟩ := ends value same
  refine ⟨_, ?_, holds⟩
  rw [split, creations_append, List.append_assoc]
  congr 2

end Makes

end Program

section Parts

variable {α : Type} {kind : ParentKind} {childKind : ChildKind} {owner : OwnerReference}

theorem makes_ofExcept (result : Except Error α) :
    (Program.ofExcept result).Makes fun made _ => made = [] := .done fun _ _ => rfl

theorem makes_perform (request : Request) : (Program.perform request).Makes fun made reply =>
    made = (Exchange.creation? ⟨request, .ok reply⟩).toList :=
  .ask fun reply => .done fun value same => by rw [same, List.append_nil]

theorem makes_attempt (request : Request) : (Program.attempt request).Makes fun made reply =>
    made = (Exchange.creation? ⟨request, reply⟩).toList :=
  .ask fun reply => .done fun value same => by rw [Except.ok.inj same, List.append_nil]

theorem makes_createChild (desired : Child childKind) :
    (createChild owner desired).Makes fun made converged =>
      made = createdAmong [converged.change] := by
  refine (makes_ofExcept _).bind fun child _ none => (makes_perform _).bind fun stored _ made => ?_
  rw [none, made]
  exact .pure rfl

theorem makes_updateChild (live desired : Child childKind) :
    (updateChild owner live desired).Makes fun made converged =>
      made = createdAmong [converged.change] := by
  unfold updateChild
  split
  · exact .pure rfl
  · refine (makes_ofExcept _).bind fun child _ none =>
      (makes_perform _).bind fun stored _ made => ?_
    rw [none, made]
    exact .pure rfl

/-- Converging a child lists it as created exactly if it was. -/
theorem makes_converge (desired : Child childKind) :
    (converge owner desired).Makes fun made converged =>
      made = createdAmong [converged.change] := by
  refine (makes_ofExcept _).bind fun key _ none =>
    (makes_attempt _).bind fun reply made looked => ?_
  obtain rfl : made = [] := looked
  simp only [none, List.nil_append]
  cases reply with
  | ok live => exact makes_updateChild live desired
  | error error =>
    dsimp only
    split
    · exact makes_createChild desired
    · exact .fail

theorem makes_reportPods (list : PodList kind) (labels : LabelMap)
    (parent : Object (.parent kind)) :
    (reportPods list labels parent).Makes fun made _ => made = [] := by
  unfold reportPods
  split
  · exact .fail
  · refine (makes_perform _).bind fun pods _ none => ?_
    rw [none]
    dsimp only
    split
    · exact .pure rfl
    · refine (makes_perform _).bind fun stored _ none => ?_
      rw [none]
      exact .pure rfl

/-- Performing steps lists what was created, in its order. -/
theorem makes_performSteps (steps : List (Step kind)) (parent : Object (.parent kind)) :
    (performSteps owner steps parent).Makes fun made changes => made = createdAmong changes := by
  induction steps generalizing parent with
  | nil => exact .pure rfl
  | cons step rest ih =>
    cases step with
    | child childKind build =>
      refine (makes_ofExcept _).bind fun desired _ none => (makes_converge desired).bind
        fun converged first here => (ih parent).bind fun changes later there => .pure ?_
      rw [none, here, there, List.nil_append, List.append_nil]
      exact (List.filter_append [converged.change] changes).symm
    | report list labels =>
      refine (makes_reportPods list _ parent).bind fun reported _ none => ?_
      rw [none]
      exact ih reported.parent

theorem makes_classForClaim (parent : MustGatherService) (ns : String) :
    (classForClaim parent ns).Makes fun made _ => made = [] := by
  unfold classForClaim
  dsimp only
  split
  · exact .pure rfl
  split
  · exact .pure rfl
  · refine (makes_attempt _).bind fun reply _ none => ?_
    rw [none]
    cases reply with
    | ok claim => exact .pure rfl
    | error error =>
      dsimp only
      split
      · refine (makes_perform _).bind fun classes _ none => ?_
        rw [none]
        exact .pure rfl
      · exact .fail

theorem makes_steps (surroundings : Surroundings) (ns : String) (parent : Object (.parent kind)) :
    (steps surroundings ns kind parent).Makes fun made _ => made = [] := by
  cases kind with
  | healthService => exact .pure rfl
  | mustGatherService =>
    refine (makes_classForClaim parent ns).bind fun defaultClass _ none => ?_
    rw [none]
    exact .pure rfl
  | mustGatherJob => exact .pure rfl
  | mustGatherConfig => exact .pure rfl

/-- A pass that succeeds lists what it created, in its order. -/
theorem makes_pass (surroundings : Surroundings) (kind : ParentKind) (ns name : String) :
    (pass surroundings kind ns name).Makes fun made changes => made = createdAmong changes := by
  have fetched : (fetchParent kind ns name).Makes fun made _ => made = [] := by
    refine (makes_attempt _).bind fun reply _ none => ?_
    rw [none]
    cases reply with
    | ok parent => exact .pure rfl
    | error error =>
      dsimp only
      split
      · exact .pure rfl
      · exact .fail
  refine fetched.bind fun parent _ none => ?_
  rw [none]
  cases parent with
  | none => exact .pure rfl
  | some parent =>
    refine (makes_ofExcept _).bind fun owner _ none =>
      (makes_steps surroundings ns parent).bind fun steps _ none' => ?_
    rw [none, none']
    exact makes_performSteps steps parent

end Parts

/-- A pass that is made over a store in some state, whatever led to that. -/
structure Visit (σ : Type) where
  surroundings : Surroundings
  kind : ParentKind
  ns : String
  name : String
  state : σ

namespace Visit

variable {σ : Type} (answer : σ → (request : Request) → Except Error request.Answer × σ)
  (visit : Visit σ)

/-- The program of a visit. -/
def program : Program (List Change) := pass visit.surroundings visit.kind visit.ns visit.name

/-- The exchanges of a visit. -/
def exchanges : List Exchange := visit.program.log answer visit.state

/-- How a visit ends. -/
def outcome : Except Error (List Change) := (visit.program.run answer visit.state).1

/-- What is announced of a visit. -/
def announcements : List Announcement := Announcement.ofPass (visit.outcome answer)

end Visit

/-- Over all visits of a history, each child that a pass created is announced once if that pass
succeeds, in the order of their creation, and of a pass that fails nothing is announced but why it
failed. -/
theorem announcements_of_history {σ : Type}
    (answer : σ → (request : Request) → Except Error request.Answer × σ)
    (history : List (Visit σ)) :
    history.flatMap (Visit.announcements answer) = history.flatMap fun visit =>
      match visit.outcome answer with
      | .ok _ => (creations (visit.exchanges answer)).map fun change =>
        ⟨⟨.normal, "Created", "Reconcile"⟩, "Created " ++ change.kind.name ++ " " ++ change.name⟩
      | .error error => [⟨⟨.warning, "ReconcileFailed", "Reconcile"⟩, error.message⟩] := by
  refine List.flatMap_congr fun visit _ => ?_
  obtain ⟨listed, -⟩ := (makes_pass visit.surroundings visit.kind visit.ns visit.name []).log answer
    visit.state (fun _ _ => trivial)
  unfold Visit.announcements
  cases outcome : visit.outcome answer with
  | error error => rfl
  | ok changes =>
    obtain ⟨made, split, same⟩ := listed changes outcome
    have created : creations (visit.exchanges answer) = createdAmong changes := by
      rw [← same]
      exact split
    rw [created]
    rfl

section Sample

/-- A server with a health service, which once refuses to look up the service of its cache. -/
def sampleServer : Api.Server :=
  let parent : HealthService := (sampleParent "cache" "check").withVersion (some "1")
  { objects := .ofList [
      ((Kind.parent .healthService).objectPath "kube-system" "sample",
        Object.encode { parent with metadata := { parent.metadata with uid := some "uid-1" } }),
      (Kind.pod.collectionPath "kube-system",
        .ofMembers [("items", .array []), ("metadata", .object [])])]
    script := [⟨"GET", (Kind.child .service).objectPath "kube-system" "memcached", some 1,
      .reply ⟨500, .text "down"⟩⟩] }

/-- The first visit of the health service on that server. -/
def sampleVisit : Visit Api.Server :=
  ⟨sampleSurroundings, .healthService, "kube-system", "sample", sampleServer⟩

/-- That visit creates the cache and fails, and nobody hears of the cache. -/
theorem silent_creation :
    creations (sampleVisit.exchanges Api.Server.answer) = [⟨.created, .deployment, "cache"⟩] ∧
      (sampleVisit.announcements Api.Server.answer).map (·.note) = ["Kube Error"] := by
  decide +kernel

end Sample

end Caretaker
