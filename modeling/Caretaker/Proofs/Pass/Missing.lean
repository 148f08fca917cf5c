import Caretaker.Proofs.Api.Client
import Caretaker.Proofs.Pass.Discipline
import Caretaker.Template

/-!
# Objects that are not there

A look-up may be answered that nothing is there.  A pass never ends with that error: it takes it for
an answer and goes on, or ends for another reason, and every other failure ends it
(`HandlesMissing`).  This holds over any connection, whatever that replies, and over every store in
memory, where a pass replaces only objects that it has read (`MemoryStore.isPlain_log`).
-/

namespace Caretaker

/-- Whether a result is not the error that nothing is there. -/
def Finds {α : Type} (result : Except Error α) : Prop :=
  ∀ error, result = .error error → error.isNotFound = false

namespace Finds

variable {α β : Type}

theorem ok (value : α) : Finds (.ok value) := nofun

theorem of_error {error : Error} (found : error.isNotFound = false) :
    Finds (.error error : Except Error α) := by
  rintro _ ⟨⟩
  exact found

theorem bind {first : Except Error α} {next : α → Except Error β} (finds : Finds first)
    (rest : ∀ value, Finds (next value)) : Finds (first >>= next) := by
  cases first with
  | error error => exact of_error (finds error rfl)
  | ok value => exact rest value

end Finds

section Sources

variable {kind : Kind}

theorem finds_nonBlank (value field : String) : Finds (Build.nonBlank value field) := by
  unfold Build.nonBlank
  split
  · exact .of_error rfl
  · exact .ok value

theorem finds_parentNs (parent : Object kind) : Finds (Build.parentNs parent) := by
  unfold Build.parentNs
  split
  · exact .ok _
  · exact .of_error rfl

theorem finds_controllerReference (object : Object kind) : Finds object.controllerReference := by
  unfold Object.controllerReference
  split
  · exact .ok _
  · exact .of_error rfl

theorem finds_attachOwner (object : Object kind) (owner : OwnerReference) :
    Finds (object.attachOwner owner) := by
  intro error refused
  obtain ⟨reference, -, rfl⟩ := Object.exists_isForeign_of_attachOwner refused
  rfl

theorem finds_replacement {childKind : ChildKind} (owner : OwnerReference)
    (live desired : Child childKind) : Finds (replacement owner live desired) := by
  rw [replacement_eq]
  cases took : live.attachOwner owner with
  | error error => exact .of_error (finds_attachOwner live owner error took)
  | ok owned => exact .ok _

/-- Reading the template does not end with the error that nothing is there, not even without a
file. -/
theorem finds_readTemplate (file : Option String) : Finds (Template.read file) := by
  unfold Template.read
  split
  · exact .of_error rfl
  · split
    · exact .ok _
    · exact .of_error rfl

theorem finds_template (source : Template.Source) : Finds source.template := by
  cases source with
  | file text => exact finds_readTemplate text
  | given template => exact .ok template

end Sources

/-- Whether a step builds its child, or fails to, without the error that nothing is there. -/
def Step.Finds {kind : ParentKind} : Step kind → Prop
  | .child _ build => ∀ parent, Caretaker.Finds (build parent)
  | .report .. => True

variable {kind : ParentKind}

/-- The steps of a pass build their children without the error that nothing is there, if the
template is had without it. -/
theorem finds_stepsWith {surroundings : Surroundings} (template : Finds surroundings.template)
    (defaultClass : String) (parent : Object (.parent kind)) :
    ∀ step ∈ stepsWith surroundings defaultClass kind parent, step.Finds := by
  have required {kind : Kind} {parent : Object kind} {childKind : ChildKind} {value field : String}
      {next : String → String → Except Error (Child childKind)}
      (rest : ∀ name ns, Finds (next name ns)) :
      Finds (Build.nonBlank value field >>= fun name =>
        Build.parentNs parent >>= fun ns => next name ns) :=
    .bind (finds_nonBlank _ _) fun name => .bind (finds_parentNs _) (rest name)
  have twice {kind : Kind} {parent : Object kind} {childKind : ChildKind}
      {value field value' field' : String}
      {next : String → String → String → Except Error (Child childKind)}
      (rest : ∀ name other ns, Finds (next name other ns)) :
      Finds (Build.nonBlank value field >>= fun name =>
        Build.nonBlank value' field' >>= fun other =>
          Build.parentNs parent >>= fun ns => next name other ns) :=
    .bind (finds_nonBlank _ _) fun name => required (rest name)
  cases kind with
  | healthService =>
    simp only [stepsWith, healthServiceSteps, List.forall_mem_cons, List.not_mem_nil,
      false_imp_iff, implies_true, and_true]
    refine ⟨?_, trivial, fun _ => required fun _ _ => .ok _,
      fun _ => twice fun _ _ _ => .bind template fun _ => .ok _,
      fun _ => twice fun _ _ _ => .ok _, trivial, fun _ => required fun _ _ => .ok _,
      fun _ => required fun _ _ => .ok _⟩
    cases (HealthService.spec parent).memcached.workload with
    | deployment => exact fun _ => required fun _ _ => .ok _
    | statefulSet => exact fun _ => required fun _ _ => .ok _
  | mustGatherService =>
    simp only [stepsWith, mustGatherServiceSteps, List.forall_mem_cons, List.not_mem_nil,
      false_imp_iff, implies_true, and_true]
    exact ⟨fun _ => required fun _ _ => .ok _, fun _ => twice fun _ _ _ => .ok _, trivial,
      fun _ => required fun _ _ => .ok _, fun _ => required fun _ _ => .ok _⟩
  | mustGatherJob =>
    exact List.forall_mem_singleton.mpr fun _ => .bind (finds_parentNs _) fun _ => .ok _
  | mustGatherConfig =>
    exact List.forall_mem_singleton.mpr fun _ => .bind (finds_parentNs _) fun _ => .ok _

/-- Whether an exchange ended with the error that nothing is there. -/
def Exchange.isMissing (exchange : Exchange) : Bool :=
  match exchange.reply with
  | .ok _ => false
  | .error error => error.isNotFound

theorem Exchange.exists_error {exchange : Exchange} (missing : exchange.isMissing = true) :
    ∃ error, exchange.reply = .error error ∧ error.isNotFound = true := by
  obtain ⟨request, reply⟩ := exchange
  cases reply with
  | ok answer => cases missing
  | error error => exact ⟨error, rfl, missing⟩

/-- Whether an exchange is no other than a look-up if it ended with the error that nothing is
there. -/
def Exchange.IsPlain (exchange : Exchange) : Prop :=
  exchange.isMissing = true → exchange.request.verb = .get

/-- Which request may follow an exchange: any, if that succeeded, and none after a failure, except
that a child that is not there is created, and that the classes are listed for a claim that is not
there. -/
inductive Exchange.Leads : Exchange → Request → Prop where
  | answered {request : Request} (answer : request.Answer) (next : Request) :
    Leads ⟨request, .ok answer⟩ next
  | creates {childKind : ChildKind} {ns name : String} {missing : Error} {child : Child childKind}
    (notFound : missing.isNotFound = true)
    (place : Key.forWriting child = .ok ⟨.child childKind, ns, name⟩) :
    Leads ⟨.get (.child childKind) ns name, .error missing⟩ (.create (.child childKind) child)
  | lists {ns name : String} {missing : Error} (notFound : missing.isNotFound = true) :
    Leads ⟨.get (.child .persistentVolumeClaim) ns name, .error missing⟩ .listStorageClasses

/-- Which error part of a pass may end with after its last exchange. -/
inductive Exchange.Breaks : Exchange → Error → Prop where
  | alone {request : Request} {error : Error} (answer : request.Answer)
    (found : error.isNotFound = false) : Breaks ⟨request, .ok answer⟩ error
  | failed {request : Request} {error : Error} (found : error.isNotFound = false) :
    Breaks ⟨request, .error error⟩ error
  | refused {childKind : ChildKind} {ns name owner ownerName : String} {missing : Error}
    (notFound : missing.isNotFound = true) :
    Breaks ⟨.get (.child childKind) ns name, .error missing⟩ (.foreignController owner ownerName)

/-- Whether the last of some exchanges succeeded. -/
def Answered (said : List Exchange) : Prop :=
  ∃ request, ∃ answer : request.Answer, said.getLast? = some ⟨request, .ok answer⟩

theorem answered_concat (said : List Exchange) {request : Request} (answer : request.Answer) :
    Answered (said ++ [⟨request, .ok answer⟩]) :=
  ⟨request, answer, List.getLast?_concat⟩

/-- What holds when part of a pass is over. -/
def PartOver {α : Type} (said : List Exchange) : Except Error α → Prop
  | .ok _ => Answered said
  | .error error => ∃ last, said.getLast? = some last ∧ last.Breaks error

/-- Whether a request may follow the last of some exchanges. -/
def MayFollow (said : List Exchange) (request : Request) : Prop :=
  ∀ last, said.getLast? = some last → last.Leads request

theorem Exchange.Leads.mayFollow {exchange : Exchange} {request : Request}
    (leads : exchange.Leads request) (said : List Exchange) :
    MayFollow (said ++ [exchange]) request := by
  intro last found
  rw [List.getLast?_concat, Option.some.injEq] at found
  exact found ▸ leads

theorem Answered.mayFollow {said : List Exchange} (answered : Answered said) (request : Request) :
    MayFollow said request := by
  obtain ⟨_, answer, found⟩ := answered
  intro last same
  rw [found, Option.some.injEq] at same
  exact same ▸ .answered answer request

theorem Answered.partOver {α : Type} {said : List Exchange} (answered : Answered said)
    {result : Except Error α} (finds : Finds result) : PartOver said result := by
  cases result with
  | ok value => exact answered
  | error error =>
    obtain ⟨_, answer, found⟩ := answered
    exact ⟨_, found, .alone answer (finds error rfl)⟩

theorem Exchange.Breaks.partOver {α : Type} {exchange : Exchange} {error : Error}
    (breaks : exchange.Breaks error) (said : List Exchange) :
    PartOver (said ++ [exchange]) (.error error : Except Error α) :=
  ⟨exchange, List.getLast?_concat, breaks⟩

/-- Whether a program that begins after a success takes care of what is not there. -/
def Program.Handles {α : Type} (program : Program α) : Prop :=
  ∀ said, Answered said → program.Obeys Exchange.IsPlain MayFollow PartOver said

section Parts

variable {α β : Type} {owner : OwnerReference}

theorem Program.Handles.bind {program : Program α} {next : α → Program β}
    (handles : program.Handles) (rest : ∀ value, (next value).Handles) :
    (program >>= next).Handles := by
  intro said answered
  refine Program.Obeys.bind (Program.Obeys.mono (handles said answered) fun later result ended => ?_)
  cases result with
  | ok value => exact rest value later ended
  | error error => exact ended

theorem handles_ofExcept {result : Except Error α} (finds : Finds result) :
    (Program.ofExcept result).Handles := fun _ answered => answered.partOver finds

theorem handles_pure (value : α) : (pure value : Program α).Handles := fun _ answered => answered

/-- A request that looks nothing up ends the program if it fails. -/
theorem obeys_perform {request : Request} {rest : request.Answer → Program α}
    (other : request.verb ≠ .get) {said : List Exchange} (next : MayFollow said request)
    (handles : ∀ answer, (rest answer).Handles) :
    (Program.perform request >>= rest).Obeys Exchange.IsPlain MayFollow PartOver said := by
  refine ⟨next, fun reply plain => ?_⟩
  cases reply with
  | ok answer => exact handles answer _ (answered_concat said answer)
  | error error =>
    have found : error.isNotFound = false :=
      eq_false_of_ne_true fun missing => other (plain missing)
    exact (Exchange.Breaks.failed found).partOver _

theorem handles_perform {request : Request} {rest : request.Answer → Program α}
    (other : request.verb ≠ .get) (handles : ∀ answer, (rest answer).Handles) :
    (Program.perform request >>= rest).Handles :=
  fun _ answered => obeys_perform other (answered.mayFollow request) handles

theorem handles_updateChild {childKind : ChildKind} (live desired : Child childKind) :
    (updateChild owner live desired).Handles := by
  unfold updateChild
  split
  · exact handles_pure _
  · exact (handles_ofExcept (finds_replacement owner live desired)).bind fun child =>
      handles_perform (by rintro ⟨⟩) fun stored => handles_pure _

/-- A child that is not there is created unless the desired object does not take its owner. -/
theorem obeys_createChild {childKind : ChildKind} {desired : Child childKind} {ns name : String}
    (place : Key.forWriting desired = .ok ⟨.child childKind, ns, name⟩) {missing : Error}
    (notFound : missing.isNotFound = true) (said : List Exchange) :
    (createChild owner desired).Obeys Exchange.IsPlain MayFollow PartOver
      (said ++ [⟨.get (.child childKind) ns name, .error missing⟩]) := by
  unfold createChild
  cases took : desired.attachOwner owner with
  | error error =>
    obtain ⟨reference, -, rfl⟩ := Object.exists_isForeign_of_attachOwner took
    exact (Exchange.Breaks.refused notFound).partOver said
  | ok child =>
    have leads : (⟨.get (.child childKind) ns name, .error missing⟩ : Exchange).Leads
        (.create (.child childKind) child) :=
      .creates notFound ((Key.forWriting_attachOwner took).trans place)
    exact obeys_perform (by rintro ⟨⟩) (leads.mayFollow said) fun stored => handles_pure _

theorem handles_converge {childKind : ChildKind} (desired : Child childKind) :
    (converge owner desired).Handles := by
  unfold converge
  cases writable : Key.forWriting desired with
  | error error =>
    exact fun _ answered => answered.partOver (.of_error (Key.isNotFound_of_forWriting writable))
  | ok key =>
    obtain ⟨ns, name, rfl, -, -⟩ := Key.exists_of_forWriting writable
    refine fun said answered => ⟨answered.mayFollow _, fun reply _ => ?_⟩
    cases reply with
    | ok live => exact handles_updateChild live desired _ (answered_concat said live)
    | error error =>
      show Program.Obeys _ _ _ (if error.isNotFound then _ else _) _
      split
      case isTrue notFound => exact obeys_createChild writable notFound said
      case isFalse other => exact (Exchange.Breaks.failed (eq_false_of_ne_true other)).partOver said

theorem handles_reportPods (list : PodList kind) (labels : LabelMap)
    (parent : Object (.parent kind)) : (reportPods list labels parent).Handles := by
  unfold reportPods
  split
  · exact handles_ofExcept (.of_error rfl)
  · refine handles_perform (by rintro ⟨⟩) fun pods => ?_
    dsimp only
    split
    · exact handles_pure _
    · exact handles_perform (by rintro ⟨⟩) fun stored => handles_pure _

theorem handles_performSteps {steps : List (Step kind)} (finds : ∀ step ∈ steps, step.Finds)
    (parent : Object (.parent kind)) : (performSteps owner steps parent).Handles := by
  induction steps generalizing parent with
  | nil => exact handles_pure _
  | cons step rest ih =>
    obtain ⟨here, later⟩ := List.forall_mem_cons.mp finds
    cases step with
    | child childKind build =>
      exact (handles_ofExcept (here parent)).bind fun desired =>
        (handles_converge desired).bind fun converged =>
          (ih later parent).bind fun changes => handles_pure _
    | report list labels =>
      exact (handles_reportPods list _ parent).bind fun reported => ih later reported.parent

/-- The classes are listed for a claim that is not there. -/
theorem handles_classForClaim (parent : MustGatherService) (ns : String) :
    (classForClaim parent ns).Handles := by
  unfold classForClaim
  dsimp only
  split
  · exact handles_pure _
  split
  · exact handles_pure _
  · refine fun said answered => ⟨answered.mayFollow _, fun reply _ => ?_⟩
    cases reply with
    | ok claim => exact answered_concat said claim
    | error error =>
      show Program.Obeys _ _ _ (if error.isNotFound then _ else _) _
      split
      case isTrue notFound =>
        exact obeys_perform (by rintro ⟨⟩) ((Exchange.Leads.lists notFound).mayFollow said)
          fun classes => handles_pure _
      case isFalse other => exact (Exchange.Breaks.failed (eq_false_of_ne_true other)).partOver said

/-- The steps of a pass take care of what is not there, if the template is had. -/
theorem handles_steps {surroundings : Surroundings} (template : Finds surroundings.template)
    (ns : String) (parent : Object (.parent kind)) :
    (steps surroundings ns kind parent >>= fun steps =>
      performSteps owner steps parent).Handles := by
  have handles (defaultClass : String) :
      (performSteps owner (stepsWith surroundings defaultClass kind parent) parent).Handles :=
    handles_performSteps (finds_stepsWith template defaultClass parent) parent
  cases kind with
  | healthService => exact handles ""
  | mustGatherJob => exact handles ""
  | mustGatherConfig => exact handles ""
  | mustGatherService =>
    intro said answered
    refine Program.Obeys.bind (Program.Obeys.bind (Program.Obeys.mono
      (handles_classForClaim parent ns said answered) fun later result ended => ?_))
    cases result with
    | ok defaultClass => exact handles defaultClass later ended
    | error error => exact ended

end Parts

/-- How a pass takes the error that nothing is there, which ended a look-up: what follows, and the
result of the pass. -/
inductive Consumed (kind : ParentKind) (ns name : String) :
    Request → List Exchange → Except Error (List Change) → Prop where
  /-- Without its parent a pass has nothing to do. -/
  | parent : Consumed kind ns name (.get (.parent kind) ns name) [] (.ok [])
  /-- A child that is not there is created. -/
  | child {childKind : ChildKind} {childNs childName : String} {child : Child childKind}
    {reply : Except Error (Child childKind)} {after : List Exchange}
    {result : Except Error (List Change)}
    (place : Key.forWriting child = .ok ⟨.child childKind, childNs, childName⟩) :
    Consumed kind ns name (.get (.child childKind) childNs childName)
      (⟨.create (.child childKind) child, reply⟩ :: after) result
  /-- A child that is not there is not created if another owner is to control it. -/
  | foreign {childKind : ChildKind} {childNs childName owner ownerName : String} :
    Consumed kind ns name (.get (.child childKind) childNs childName) []
      (.error (.foreignController owner ownerName))
  /-- For a claim that is not there the classes are listed. -/
  | claim {claimNs claimName : String} {reply : Except Error (List StorageClass)}
    {after : List Exchange} {result : Except Error (List Change)} :
    Consumed kind ns name (.get (.child .persistentVolumeClaim) claimNs claimName)
      (⟨.listStorageClasses, reply⟩ :: after) result

/-- What a pass makes of objects that are not there. -/
structure HandlesMissing (kind : ParentKind) (ns name : String) (exchanges : List Exchange)
    (result : Except Error (List Change)) : Prop where
  /-- The pass does not end with the error that nothing is there. -/
  finds : Finds result
  /-- Nothing but a look-up is answered with it. -/
  plain : ∀ exchange ∈ exchanges, exchange.IsPlain
  /-- A look-up that is answered with it is taken care of. -/
  consumed : ∀ before exchange after, exchanges = before ++ exchange :: after →
    exchange.isMissing = true → Consumed kind ns name exchange.request after result
  /-- Any other error ends the pass. -/
  ends : ∀ before exchange after error, exchanges = before ++ exchange :: after →
    exchange.reply = .error error → error.isNotFound = false → after = [] ∧ result = .error error

/-- Whether a pass found nothing in the place of its parent, and is over. -/
def ParentGone (kind : ParentKind) (ns name : String) (said : List Exchange)
    (result : Except Error (List Change)) : Prop :=
  result = .ok [] ∧ ∃ error, error.isNotFound = true ∧
    said = [⟨.get (.parent kind) ns name, .error error⟩]

/-- Every pass takes care of what is not there, if the template is had. -/
theorem obeys_pass_missing {surroundings : Surroundings} (template : Finds surroundings.template)
    (kind : ParentKind) (ns name : String) :
    (pass surroundings kind ns name).Obeys Exchange.IsPlain MayFollow
      (fun later result => ParentGone kind ns name later result ∨ PartOver later result) [] := by
  refine Program.Obeys.bind ⟨by rintro last ⟨⟩, fun reply _ => ?_⟩
  cases reply with
  | error error =>
    show Program.Obeys _ _ _ (if error.isNotFound = true then _ else _) _
    split
    case isTrue notFound => exact Or.inl ⟨rfl, error, notFound, rfl⟩
    case isFalse other =>
      exact Or.inr ((Exchange.Breaks.failed (eq_false_of_ne_true other)).partOver [])
  | ok first =>
    have handles : (Program.ofExcept first.controllerReference >>= fun owner =>
        steps surroundings ns kind first >>= fun steps => performSteps owner steps first).Handles :=
      (handles_ofExcept (finds_controllerReference first)).bind fun owner =>
        handles_steps template ns first
    have obeys := Program.Obeys.mono (handles _ (answered_concat [] first))
      (fun later result => Or.inr (a := ParentGone kind ns name later result))
    exact obeys

/-- If the last exchange of a pass failed, the pass takes care of what is not there, or ends with
that error. -/
theorem last_of_error {ns name : String} {said before : List Exchange}
    {result : Except Error (List Change)} {request : Request} {error : Error}
    (ended : ParentGone kind ns name said result ∨ PartOver said result)
    (split : said = before ++ [⟨request, .error error⟩]) :
    if error.isNotFound then Consumed kind ns name request [] result
    else result = .error error := by
  have isLast : said.getLast? = some ⟨request, .error error⟩ := by
    rw [split, List.getLast?_concat]
  rcases ended with ⟨rfl, missing, notFound, rfl⟩ | ended
  · cases isLast
    rw [if_pos notFound]
    exact .parent
  · cases result with
    | ok changes =>
      obtain ⟨_, answer, found⟩ := ended
      cases isLast.symm.trans found
    | error reason =>
      obtain ⟨last, found, breaks⟩ := ended
      cases isLast.symm.trans found
      cases breaks with
      | failed other => rw [if_neg (ne_true_of_eq_false other)]
      | refused notFound =>
        rw [if_pos notFound]
        exact .foreign

/-- An exchange that failed is followed by another one only if that takes care of what is not
there. -/
theorem Exchange.Leads.of_error {ns name : String} {request : Request} {error : Error}
    {following : Exchange}
    (leads : (⟨request, .error error⟩ : Exchange).Leads following.request)
    (after : List Exchange) (result : Except Error (List Change)) :
    error.isNotFound = true ∧ Consumed kind ns name request (following :: after) result := by
  obtain ⟨next, reply⟩ := following
  cases leads with
  | creates notFound place => exact ⟨notFound, .child place⟩
  | lists notFound => exact ⟨notFound, .claim⟩

/-- A pass over a store that answers nothing but look-ups with the error that nothing is there takes
care of that error. -/
theorem handlesMissing_pass {σ : Type}
    {answer : σ → (request : Request) → Except Error request.Answer × σ} {state : σ}
    {surroundings : Surroundings} (template : Finds surroundings.template) {ns name : String}
    (plain : ∀ exchange ∈ (pass surroundings kind ns name).log answer state, exchange.IsPlain) :
    HandlesMissing kind ns name ((pass surroundings kind ns name).log answer state)
      ((pass surroundings kind ns name).run answer state).1 := by
  obtain ⟨ended, next⟩ := (obeys_pass_missing template kind ns name).log answer state plain
  simp only [List.nil_append] at ended next
  generalize (pass surroundings kind ns name).log answer state = exchanges at plain ended next
  generalize ((pass surroundings kind ns name).run answer state).1 = result at ended
  have taken (before : List Exchange) (request : Request) (error : Error) (after : List Exchange)
      (split : exchanges = before ++ ⟨request, .error error⟩ :: after) :
      if error.isNotFound then Consumed kind ns name request after result
      else after = [] ∧ result = .error error := by
    cases after with
    | nil => simpa using last_of_error ended split
    | cons following after =>
      have leads : (⟨request, .error error⟩ : Exchange).Leads following.request := by
        refine next (before ++ [⟨request, .error error⟩]) following after ?_ _ List.getLast?_concat
        rw [split, List.append_assoc]
        rfl
      obtain ⟨notFound, consumed⟩ := leads.of_error after result
      rw [if_pos notFound]
      exact consumed
  refine ⟨?_, plain, ?_, ?_⟩
  · rintro error rfl
    rcases ended with ⟨⟨⟩, -⟩ | ⟨last, -, breaks⟩
    cases breaks with
    | alone _ found => exact found
    | failed found => exact found
    | refused => rfl
  · rintro before ⟨request, reply⟩ after split missing
    cases reply with
    | ok answer => cases missing
    | error error =>
      have consumed := taken before request error after split
      rwa [if_pos (show error.isNotFound = true from missing)] at consumed
  · rintro before ⟨request, reply⟩ after error split failed found
    obtain rfl : reply = .error error := failed
    have ended := taken before request error after split
    rwa [if_neg (ne_true_of_eq_false found)] at ended

namespace MemoryStore

variable {store : MemoryStore}

/-- Whether every object that was read is in its place. -/
def HasRead (store : MemoryStore) (said : List Exchange) : Prop :=
  ∀ (kind : Kind) (ns name : String) (object : Object kind),
    ⟨.get kind ns name, .ok object⟩ ∈ said → store.document? ⟨kind, ns, name⟩ ≠ none

/-- Objects that were read stay in their places, whatever else is asked. -/
theorem HasRead.answer {said : List Exchange} (hasRead : store.HasRead said)
    (wellFormed : store.WellFormed) (request : Request) :
    (store.answer request).2.HasRead (said ++ [⟨request, (store.answer request).1⟩]) := by
  have stays (key : Key) (there : store.document? key ≠ none) :
      (store.answer request).2.document? key ≠ none := by
    rcases answer_cases wellFormed request with same | ⟨-, kind, ns, name, object, -, wrote, -⟩
    · rwa [document?, same]
    · have written := document?_put store ns name object key
      rw [document?, wrote]
      rw [document?] at written
      rw [written]
      split
      · exact Option.some_ne_none _
      · exact there
  intro kind ns name object member
  rcases List.mem_append.mp member with earlier | here
  · exact stays _ (hasRead kind ns name object earlier)
  · have same := List.mem_singleton.mp here
    obtain rfl : Request.get kind ns name = request := congrArg Exchange.request same
    have reply : (store.answer (.get kind ns name)).1 = .ok object := by
      simpa using same.symm
    refine stays _ ?_
    rw [document?_of_get wellFormed reply]
    exact Option.some_ne_none _

/-- A write that is answered that nothing is there replaces what is not there. -/
theorem absent_of_write (wellFormed : store.WellFormed) {kind : Kind} (writing : Writing)
    {sent : Object kind} {error : Error} (failed : (store.write writing sent).1 = .error error)
    (notFound : error.isNotFound = true) :
    writing ≠ .create ∧ store.document? (Key.ofObject sent) = none := by
  cases (write_eq_error_iff wellFormed).mp failed with
  | absent nsGiven nameGiven _ replaces gone =>
    rw [Object.key_of_some nsGiven nameGiven]
    exact ⟨replaces, gone⟩
  | noNamespace | noName | injected | duplicate | stale => cases notFound

/-- Reading a list of objects is not answered that nothing is there. -/
theorem finds_list (store : MemoryStore) {request : Request} (lists : request.verb = .list) :
    Finds (store.answer request).1 := by
  have finds_read (kind : Kind) (document : Json) : Finds (read kind document) := by
    unfold read
    split
    · exact .ok _
    · exact .of_error rfl
  have finds_mapM (kind : Kind) (documents : List Json) :
      Finds (documents.mapM (read kind)) := by
    induction documents with
    | nil => exact .ok []
    | cons document rest ih =>
      rw [List.mapM_cons]
      exact (finds_read kind document).bind fun _ => ih.bind fun _ => .ok _
  cases request with
  | list kind ns labels =>
    rw [answer, list_eq]
    dsimp only
    split
    · exact .of_error rfl
    · exact finds_mapM kind _
  | listStorageClasses =>
    rw [answer, listStorageClasses_eq]
    dsimp only
    split
    · exact .of_error rfl
    · exact finds_mapM .storageClass _
  | get | create | update | updateStatus => cases lists

variable {surroundings : Surroundings} {ns name : String}

/-- What a pass asks of a store in memory is answered that nothing is there only if it is a
look-up: a pass replaces what it has read. -/
theorem isPlain_answer (wellFormed : store.WellFormed) {said : List Exchange}
    (hasRead : store.HasRead said) {request : Request}
    (permitted : Permitted surroundings kind ns name said request) :
    Exchange.IsPlain ⟨request, (store.answer request).1⟩ := by
  intro missing
  obtain ⟨error, failed, notFound⟩ := Exchange.exists_error missing
  cases request with
  | get => rfl
  | list | listStorageClasses =>
    cases notFound.symm.trans (store.finds_list rfl error failed)
  | create kind object =>
    obtain ⟨other, -⟩ := absent_of_write wellFormed .create failed notFound
    exact absurd rfl other
  | update objectKind object =>
    obtain ⟨-, absent⟩ := absent_of_write wellFormed .update failed notFound
    obtain ⟨childKind, isChild⟩ := permitted.exists_child (Or.inr rfl)
    obtain rfl : objectKind = .child childKind := isChild
    obtain ⟨earlier, _, childNs, childName, _, _, live, _, rfl, _, _, _, _, place, -⟩ :=
      permitted.of_update
    rw [place] at absent
    exact absurd absent (hasRead _ _ _ live (List.mem_append_right _ List.mem_cons_self))
  | updateStatus objectKind object =>
    obtain ⟨-, absent⟩ := absent_of_write wellFormed .updateStatus failed notFound
    obtain ⟨place, earlier, labels, pods, split⟩ := permitted.of_updateStatus
    rcases permitted.exists_course with rfl | ⟨first, owner, parent, course⟩
    · cases earlier <;> cases split
    · obtain ⟨rest, rfl⟩ := course.begins
      rw [place] at absent
      exact absurd absent (hasRead _ _ _ first List.mem_cons_self)

/-- Nothing but a look-up of a pass is answered that nothing is there by a store in memory. -/
theorem isPlain_log {α : Type} {program : Program α} (wellFormed : store.WellFormed)
    {ends : List Exchange → Except Error α → Prop} {said : List Exchange}
    (obeys : program.Obeys Exchange.Faithful (Permitted surroundings kind ns name) ends said)
    (hasRead : store.HasRead said) :
    ∀ exchange ∈ program.log MemoryStore.answer store, exchange.IsPlain := by
  induction program generalizing store said with
  | done => exact List.forall_mem_nil _
  | ask request next ih =>
    obtain ⟨permitted, rest⟩ := obeys
    exact List.forall_mem_cons.mpr ⟨isPlain_answer wellFormed hasRead permitted,
      ih _ (wellFormed.answer request) (rest _ (faithful_answer wellFormed request))
        (hasRead.answer wellFormed request)⟩

end MemoryStore

/-- Over a connection, nothing but a look-up is answered that nothing is there. -/
theorem Api.Client.isPlain_log {σ α : Type}
    (connection : σ → Api.Message → Option Api.Reply × σ) (program : Program α) (state : σ) :
    ∀ exchange ∈ program.log (answer connection) state, exchange.IsPlain := by
  induction program generalizing state with
  | done => exact List.forall_mem_nil _
  | ask request next ih =>
    refine List.forall_mem_cons.mpr ⟨fun missing => ?_, ih _ _⟩
    obtain ⟨error, failed, notFound⟩ := Exchange.exists_error missing
    exact isGet_of_answer failed notFound

/-- No pass ends with the error that nothing is there, wherever its template comes from: over any
connection and over any store in memory it takes care of what is not there, and ends with any other
error.  A look-up that a server refuses with the code 404 is answered that nothing is there; any
other request that a server refuses ends with what the server says. -/
theorem pass_handles_missing (images : OperandImages) (source : Template.Source)
    (kind : ParentKind) (ns name : String) :
    (∀ {σ : Type} (connection : σ → Api.Message → Option Api.Reply × σ) (state : σ),
      HandlesMissing kind ns name
        ((pass ⟨images, source.template⟩ kind ns name).log (Api.Client.answer connection) state)
        ((pass ⟨images, source.template⟩ kind ns name).run
          (Api.Client.answer connection) state).1) ∧
    (∀ (objectKind : Kind) (objectNs objectName : String) (reply : Api.Reply),
      reply.isRefusal = true → (Refusal.ofReply reply).code = 404 →
        Api.Client.read (.get objectKind objectNs objectName) (some reply) =
          .error (.notFound objectKind objectNs objectName)) ∧
    (∀ (request : Request) (reply : Api.Reply), request.verb ≠ .get → reply.isRefusal = true →
      Api.Client.read request (some reply) = .error (.refused (Refusal.ofReply reply))) ∧
    ∀ store : MemoryStore, store.Reachable →
      HandlesMissing kind ns name
        ((pass ⟨images, source.template⟩ kind ns name).log MemoryStore.answer store)
        (store.run (pass ⟨images, source.template⟩ kind ns name)).1 := by
  have template : Finds (⟨images, source.template⟩ : Surroundings).template :=
    finds_template source
  refine ⟨fun {σ} connection state => ?_,
    fun objectKind objectNs objectName reply refusal code => ?_,
    fun request reply other refusal => ?_, fun store reachable => ?_⟩
  · exact handlesMissing_pass template (Api.Client.isPlain_log connection _ state)
  · rw [Api.Client.read_of_refusal refusal]
    exact congrArg Except.error (if_pos code)
  · rw [Api.Client.read_of_refusal refusal, Api.Client.refused_of_not_get other]
  · exact handlesMissing_pass template (MemoryStore.isPlain_log reachable.wellFormed
      (obeys_pass _ kind ns name) (by rintro _ _ _ _ ⟨⟩))

section Sample

/-- The reply of a server that has nothing where a message asks. -/
def sampleRefusal : Api.Reply := ⟨404, .document (Api.statusDocument 404 "NotFound" "not found")⟩

/-- The pass over the sample parent looks for six children that are not there and creates them.  The
refusal says that nothing is there to a look-up, and not to a listing. -/
theorem pass_handles_missing_of_six_children :
    (samplePass.log MemoryStore.answer (sampleStore "cache" "check")).countP
        Exchange.isMissing = 6 ∧
      HandlesMissing .healthService "kube-system" "sample"
        (samplePass.log MemoryStore.answer (sampleStore "cache" "check"))
        ((sampleStore "cache" "check").run samplePass).1 ∧
      Api.Client.read (.get .pod "kube-system" "cache-0") (some sampleRefusal) =
        .error (.notFound .pod "kube-system" "cache-0") ∧
      Api.Client.read (.list .pod "kube-system" ∅) (some sampleRefusal) =
        .error (.refused ⟨404, "NotFound", "not found"⟩) := by
  obtain ⟨-, missing, refused, stores⟩ := pass_handles_missing {}
    (.given (.of .configMap {} (.object []))) .healthService "kube-system" "sample"
  have read : Refusal.ofReply sampleRefusal = ⟨404, "NotFound", "not found"⟩ := by decide +kernel
  refine ⟨by decide +kernel, stores _ (reachable_sampleStore "cache" "check"), ?_, ?_⟩
  · exact missing .pod "kube-system" "cache-0" sampleRefusal rfl (congrArg Refusal.code read)
  · exact (refused (.list .pod "kube-system" ∅) sampleRefusal (by rintro ⟨⟩) rfl).trans
      (congrArg (Except.error <| Error.refused ·) read)

end Sample

end Caretaker
