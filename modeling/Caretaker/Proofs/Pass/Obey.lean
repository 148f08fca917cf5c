import Caretaker.Proofs.Pass.Course

/-!
# Every pass keeps to its course

The parts of a pass make only requests that are permitted after the course so far, and leave a
course that the next part goes on from (`Follows`).  So a whole pass obeys, whatever it is answered
(`obeys_pass`).
-/

namespace Caretaker

variable {kind : ParentKind}

/-- What holds when part of a pass is over: whatever is to hold before the rest, or the pass
fails. -/
def Onward {α : Type} (ns name : String) (first : Object (.parent kind)) (owner : OwnerReference)
    (next : List Exchange → α → Prop) (said : List Exchange) : Except Error α → Prop
  | .ok value => next said value
  | .error error => Fails ns name first owner said error

/-- Whether part of a pass makes only requests that are permitted, and goes on. -/
def Follows {α : Type} (surroundings : Surroundings) (ns name : String)
    (first : Object (.parent kind)) (owner : OwnerReference) (program : Program α)
    (next : List Exchange → α → Prop) (said : List Exchange) : Prop :=
  program.Obeys Exchange.Faithful (Permitted surroundings kind ns name)
    (Onward ns name first owner next) said

section Parts

variable {surroundings : Surroundings} {ns name : String} {first parent : Object (.parent kind)}
  {owner : OwnerReference} {said : List Exchange} {α β : Type}

theorem Follows.bind {program : Program α} {rest : α → Program β} {next : List Exchange → β → Prop}
    (follows : Follows surroundings ns name first owner program
      (fun later value => Follows surroundings ns name first owner (rest value) next later) said) :
    Follows surroundings ns name first owner (program >>= rest) next said := by
  refine Program.Obeys.bind (Program.Obeys.mono follows fun later result onward => ?_)
  cases result with
  | ok value => exact onward
  | error error => exact onward

theorem Follows.mono {program : Program α} {next weaker : List Exchange → α → Prop}
    (follows : Follows surroundings ns name first owner program next said)
    (implied : ∀ later value, next later value → weaker later value) :
    Follows surroundings ns name first owner program weaker said := by
  refine Program.Obeys.mono follows fun later result onward => ?_
  cases result with
  | ok value => exact implied later value onward
  | error error => exact onward

theorem follows_ofExcept (course : Course ns name first owner said parent)
    {result : Except Error α} {next : List Exchange → α → Prop}
    (ended : ∀ value, result = .ok value → next said value) :
    Follows surroundings ns name first owner (.ofExcept result) next said := by
  cases result with
  | ok value => exact ended value rfl
  | error error => exact .alone course

theorem follows_perform (course : Course ns name first owner said parent) {request : Request}
    (permitted : Permitted surroundings kind ns name said request) (other : request.verb ≠ .get)
    {next : List Exchange → request.Answer → Prop}
    (ended : ∀ reply, Exchange.Faithful ⟨request, .ok reply⟩ →
      next (said ++ [⟨request, .ok reply⟩]) reply) :
    Follows surroundings ns name first owner (.perform request) next said := by
  refine ⟨permitted, fun reply faithful => ?_⟩
  cases reply with
  | ok value => exact ended value faithful
  | error error => exact .stopped course (Exchange.stops_of_error fun isGet => absurd isGet other)

/-- What holds after a child was converged: it was looked up, and the change accounts for it. -/
def AfterChild (ns name : String) (first : Object (.parent kind)) (owner : OwnerReference)
    (parent : Object (.parent kind)) {childKind : ChildKind} (desired : Child childKind)
    (said : List Exchange) (later : List Exchange) (converged : Converged childKind) : Prop :=
  Course ns name first owner later parent ∧ ∃ exchanges, later = said ++ exchanges ∧
    Accounts exchanges [converged.change] ∧
    ∃ reply, ⟨.get (.child childKind) desired.nsD desired.nameD, reply⟩ ∈ exchanges

variable {childKind : ChildKind} {desired : Child childKind} {childNs childName : String}

theorem lookedUp (nsGiven : desired.metadata.ns = some childNs)
    (nameGiven : desired.metadata.name = some childName) (reply : Except Error (Child childKind)) :
    (⟨.get (.child childKind) desired.nsD desired.nameD, reply⟩ : Exchange) ∈
      [⟨.get (.child childKind) childNs childName, reply⟩] := by
  rw [Object.nsD, Object.nameD, nsGiven, nameGiven]
  exact List.mem_cons_self

theorem follows_createChild (course : Course ns name first owner said parent)
    (wanted : Wanted surroundings first parent desired)
    (nsGiven : desired.metadata.ns = some childNs)
    (nameGiven : desired.metadata.name = some childName)
    {missing : Error} (notFound : missing.isNotFound = true) :
    Follows surroundings ns name first owner (createChild owner desired)
      (AfterChild ns name first owner parent desired said)
      (said ++ [⟨.get (.child childKind) childNs childName, .error missing⟩]) := by
  have asked := course.missing childKind childNs childName notFound
  have nothing : Accounts [⟨.get (.child childKind) childNs childName, .error missing⟩] [] :=
    .of_missing
  refine Follows.bind (follows_ofExcept asked fun child owned => Follows.bind ?_)
  refine follows_perform asked (.create course wanted nsGiven nameGiven notFound owned)
    (by rintro ⟨⟩)
    fun stored _ => ?_
  exact ⟨asked.answered (by rintro ⟨⟩) (Exchange.not_stops_of_verb (by rintro ⟨⟩)), _,
    List.append_assoc _ _ _, nothing.append (.of_verb (by rintro ⟨⟩)), _,
    List.mem_append_left _ (lookedUp nsGiven nameGiven _)⟩

theorem follows_updateChild (course : Course ns name first owner said parent)
    (wanted : Wanted surroundings first parent desired)
    (nsGiven : desired.metadata.ns = some childNs)
    (nameGiven : desired.metadata.name = some childName)
    {live : Child childKind} (place : Key.ofObject live = ⟨.child childKind, childNs, childName⟩) :
    Follows surroundings ns name first owner (updateChild owner live desired)
      (AfterChild ns name first owner parent desired said)
      (said ++ [⟨.get (.child childKind) childNs childName, .ok live⟩]) := by
  unfold updateChild
  split
  case isTrue createOnly =>
    have goesOn (isMutable : childKind.isCreateOnly = false) :
        ∃ owned, live.attachOwner owner = .ok owned :=
      absurd (createOnly.symm.trans isMutable) (by decide)
    exact ⟨course.answered (by rintro ⟨⟩) (Exchange.not_stops_of_found goesOn), _, rfl,
      .of_found fun _ => List.mem_singleton_self _, _, lookedUp nsGiven nameGiven _⟩
  case isFalse isMutable =>
    have isMutable := eq_false_of_ne_true isMutable
    cases took : live.attachOwner owner with
    | error error =>
      rw [replacement_eq, took]
      exact .stopped course (.refused isMutable took)
    | ok owned =>
      have asked : Course ns name first owner
          (said ++ [⟨.get (.child childKind) childNs childName, .ok live⟩]) parent :=
        course.answered (by rintro ⟨⟩) (Exchange.not_stops_of_found fun _ => ⟨owned, took⟩)
      have nothing : Accounts [⟨.get (.child childKind) childNs childName, .ok live⟩] [] :=
        .of_found fun createOnly => absurd (createOnly.symm.trans isMutable) (by decide)
      refine Follows.bind (follows_ofExcept asked fun child replaced => Follows.bind ?_)
      refine follows_perform asked
        (.update course wanted nsGiven nameGiven isMutable place replaced) (by rintro ⟨⟩)
        fun stored _ => ?_
      exact ⟨asked.answered (by rintro ⟨⟩) (Exchange.not_stops_of_verb (by rintro ⟨⟩)), _,
        List.append_assoc _ _ _, nothing.append (.of_verb (by rintro ⟨⟩)), _,
        List.mem_append_left _ (lookedUp nsGiven nameGiven _)⟩

/-- Converging a child is part of a pass. -/
theorem follows_converge (course : Course ns name first owner said parent)
    (wanted : Wanted surroundings first parent desired) :
    Follows surroundings ns name first owner (converge owner desired)
      (AfterChild ns name first owner parent desired said) said := by
  refine Follows.bind (follows_ofExcept course fun key writable => ?_)
  obtain ⟨childNs, childName, rfl, nsGiven, nameGiven⟩ := Key.exists_of_forWriting writable
  refine ⟨.read course rfl, fun reply faithful => ?_⟩
  cases reply with
  | ok live => exact follows_updateChild course wanted nsGiven nameGiven faithful
  | error error =>
    show Follows _ _ _ _ _ (if error.isNotFound then _ else _) _ _
    split
    case isTrue notFound => exact follows_createChild course wanted nsGiven nameGiven notFound
    case isFalse other =>
      exact .stopped course (Exchange.stops_of_error fun _ => eq_false_of_ne_true other)

/-- Reporting pods is part of a pass. -/
theorem follows_reportPods (course : Course ns name first owner said parent) (list : PodList kind)
    (labels : LabelMap) :
    Follows surroundings ns name first owner (reportPods list labels parent)
      (fun later reported => Course ns name first owner later reported.parent ∧
        ∃ exchanges, later = said ++ exchanges ∧ Accounts exchanges []) said := by
  unfold reportPods
  cases given : parent.metadata.ns with
  | none => exact .alone course
  | some parentNs =>
    obtain rfl : parentNs = ns := by
      have same := congrArg Key.ns course.place
      rwa [Key.ofObject, Object.nsD, given, Option.getD_some] at same
    refine Follows.bind (follows_perform course (.read course rfl) (by rintro ⟨⟩) fun pods _ => ?_)
    have asked : Course parentNs name first owner
        (said ++ [⟨.list .pod parentNs labels, .ok pods⟩]) parent :=
      course.answered (by rintro ⟨⟩) (Exchange.not_stops_of_verb (by rintro ⟨⟩))
    have nothing : Accounts [⟨.list .pod parentNs labels, .ok pods⟩] [] := .of_verb (by rintro ⟨⟩)
    dsimp only
    split
    case isTrue => exact ⟨asked, _, rfl, nothing⟩
    case isFalse =>
      refine Follows.bind (follows_perform asked (.report course list) (by rintro ⟨⟩)
        fun stored faithful => ?_)
      have place : Key.ofObject stored = ⟨.parent kind, parentNs, name⟩ := by
        refine Eq.trans faithful (Eq.trans ?_ course.place)
        rw [Key.ofObject, Object.nsD, Object.nameD, PodList.metadata_withNames]
        rfl
      exact ⟨asked.written place, _, List.append_assoc _ _ _,
        nothing.append (.of_verb (by rintro ⟨⟩))⟩

/-- What holds after steps were performed: the changes account for the exchanges. -/
def AfterSteps (ns name : String) (first : Object (.parent kind)) (owner : OwnerReference)
    (said later : List Exchange) (changes : List Change) : Prop :=
  ∃ last exchanges, Course ns name first owner later last ∧ later = said ++ exchanges ∧
    Accounts exchanges changes

/-- A step that converges a child looks it up, and the steps that follow go on from there. -/
theorem follows_child {defaultClass : String}
    {build : Object (.parent kind) → Except Error (Child childKind)} {rest : List (Step kind)}
    (course : Course ns name first owner said parent)
    (member : Step.child childKind build ∈ stepsWith surroundings defaultClass kind first)
    (onward : ∀ later, Course ns name first owner later parent →
      Follows surroundings ns name first owner (performSteps owner rest parent)
        (AfterSteps ns name first owner later) later) :
    Follows surroundings ns name first owner
      (performSteps owner (.child childKind build :: rest) parent)
      (fun later changes => ∃ last exchanges desired reply, Course ns name first owner later last ∧
        later = said ++ exchanges ∧ Accounts exchanges changes ∧ build parent = .ok desired ∧
        ⟨.get (.child childKind) desired.nsD desired.nameD, reply⟩ ∈ exchanges) said := by
  refine Follows.bind (follows_ofExcept course fun desired built => Follows.bind ?_)
  refine (follows_converge course ⟨defaultClass, build, member, built⟩).mono
    fun between converged => ?_
  rintro ⟨goesOn, exchanges, rfl, accounts, reply, lookedUp⟩
  refine Follows.bind ((onward _ goesOn).mono fun later changes => ?_)
  rintro ⟨last, others, final, rfl, rest⟩
  exact ⟨last, exchanges ++ others, desired, reply, final, List.append_assoc _ _ _,
    accounts.append rest, built, List.mem_append_left _ lookedUp⟩

/-- Performing steps is part of a pass. -/
theorem follows_performSteps {defaultClass : String} {steps : List (Step kind)}
    (course : Course ns name first owner said parent)
    (members : ∀ step ∈ steps, step ∈ stepsWith surroundings defaultClass kind first) :
    Follows surroundings ns name first owner (performSteps owner steps parent)
      (AfterSteps ns name first owner said) said := by
  induction steps generalizing said parent with
  | nil =>
    exact ⟨parent, [], course, (List.append_nil _).symm, fun _ _ _ _ _ member => nomatch member⟩
  | cons step rest ih =>
    obtain ⟨member, later⟩ := List.forall_mem_cons.mp members
    cases step with
    | child childKind build =>
      refine (follows_child course member fun _ goesOn => ih goesOn later).mono
        fun final changes => ?_
      rintro ⟨last, exchanges, _, _, course, split, accounts, -⟩
      exact ⟨last, exchanges, course, split, accounts⟩
    | report list labels =>
      refine Follows.bind ((follows_reportPods course list (labels parent)).mono ?_)
      rintro _ reported ⟨goesOn, exchanges, rfl, nothing⟩
      refine (ih goesOn later).mono fun final changes => ?_
      rintro ⟨last, others, course, rfl, accounts⟩
      exact ⟨last, exchanges ++ others, course, List.append_assoc _ _ _, nothing.append accounts⟩

end Parts

section Whole

variable {surroundings : Surroundings} {ns name : String}

/-- The class for a claim is part of a pass, which looks up the claim at most. -/
theorem follows_classForClaim {first : MustGatherService} {owner : OwnerReference}
    {said : List Exchange} (course : Course ns name first owner said first) :
    Follows surroundings ns name first owner (classForClaim first ns)
      (fun later _ => Course ns name first owner later first ∧
        ∃ exchanges, later = said ++ exchanges ∧
          ∀ (childKind : ChildKind) (childNs childName : String) reply,
            ⟨.get (.child childKind) childNs childName, reply⟩ ∈ exchanges →
              childKind = .persistentVolumeClaim ∧ childNs = ns ∧
                childName = (MustGatherService.spec first).persistentVolumeClaim.name) said := by
  unfold classForClaim
  dsimp only
  split
  · exact ⟨course, [], (List.append_nil _).symm, fun _ _ _ _ member => nomatch member⟩
  split
  case isTrue => exact ⟨course, [], (List.append_nil _).symm, fun _ _ _ _ member => nomatch member⟩
  case isFalse =>
    refine ⟨.read course rfl, fun reply _ => ?_⟩
    cases reply with
    | ok claim =>
      refine ⟨course.answered (by rintro ⟨⟩) (Exchange.not_stops_of_found (by rintro ⟨⟩)), _, rfl,
        ?_⟩
      intro childKind childNs childName reply member
      cases List.mem_singleton.mp member
      exact ⟨rfl, rfl, rfl⟩
    | error error =>
      show Follows _ _ _ _ _ (if error.isNotFound then _ else _) _ _
      split
      case isFalse other =>
        exact .stopped course (Exchange.stops_of_error fun _ => eq_false_of_ne_true other)
      case isTrue notFound =>
        have asked := course.missing .persistentVolumeClaim ns
          (MustGatherService.spec first).persistentVolumeClaim.name notFound
        refine Follows.bind (follows_perform asked (.read asked rfl) (by rintro ⟨⟩)
          fun classes _ => ?_)
        refine ⟨asked.answered (by rintro ⟨⟩) (Exchange.not_stops_of_verb (by rintro ⟨⟩)), _,
          List.append_assoc _ _ _, ?_⟩
        intro childKind childNs childName reply member
        rcases List.mem_cons.mp member with same | last
        · cases same
          exact ⟨rfl, rfl, rfl⟩
        · cases congrArg Exchange.request (List.mem_singleton.mp last)

theorem not_mem_fetched {kind : ParentKind} {parent : Object (.parent kind)} {childKind : ChildKind}
    {childNs childName : String} {reply : Except Error (Child childKind)} :
    (⟨.get (.child childKind) childNs childName, reply⟩ : Exchange) ∉
      [⟨.get (.parent kind) ns name, .ok parent⟩] := by
  intro member
  cases congrArg Exchange.request (List.mem_singleton.mp member)

/-- A pass that has read a parent that owns goes on to its end. -/
theorem follows_fetched {first : Object (.parent kind)} {owner : OwnerReference}
    (course : Course ns name first owner [⟨.get (.parent kind) ns name, .ok first⟩] first) :
    Follows surroundings ns name first owner
      (steps surroundings ns kind first >>= fun steps => performSteps owner steps first)
      (fun later changes => Concluded kind ns name later (.ok changes))
      [⟨.get (.parent kind) ns name, .ok first⟩] := by
  -- Only a must-gather service asks for more than its parent before it converges its children.
  have straight (defaultClass : String) :
      Follows surroundings ns name first owner
        (performSteps owner (stepsWith surroundings defaultClass kind first) first)
        (fun later changes => Concluded kind ns name later (.ok changes))
        [⟨.get (.parent kind) ns name, .ok first⟩] := by
    refine (follows_performSteps course fun _ member => member).mono fun later changes => ?_
    rintro ⟨last, exchanges, final, rfl, accounts⟩
    exact .finished final accounts fun _ _ _ _ member => absurd member not_mem_fetched
  cases kind with
  | healthService => exact straight ""
  | mustGatherJob => exact straight ""
  | mustGatherConfig => exact straight ""
  | mustGatherService =>
    refine Follows.bind (Follows.bind ((follows_classForClaim course).mono ?_))
    rintro _ defaultClass ⟨goesOn, looked, rfl, claims⟩
    have member : Step.child .persistentVolumeClaim (Build.mustGatherClaim · defaultClass) ∈
        stepsWith surroundings defaultClass .mustGatherService first := List.mem_cons_self
    have rest : ∀ step ∈ (stepsWith surroundings defaultClass .mustGatherService first).tail,
        step ∈ stepsWith surroundings defaultClass .mustGatherService first :=
      fun _ member => List.mem_of_mem_tail member
    refine (follows_child goesOn member fun later onward =>
      follows_performSteps onward rest).mono fun later changes => ?_
    rintro ⟨last, exchanges, desired, reply, final, rfl, accounts, built, lookedUp⟩
    refine .finished final accounts fun childKind childNs childName earlier found => ?_
    rcases List.mem_append.mp found with fetched | found
    · exact absurd fetched not_mem_fetched
    · obtain ⟨rfl, rfl, rfl⟩ := claims childKind childNs childName earlier found
      obtain ⟨parentNs, given, nsGiven⟩ := isPlaced_stepsWith _ _ _ _ member first desired built
      have nameGiven := (builds_mustGatherClaim given defaultClass).name desired built
      obtain rfl : parentNs = childNs := by
        have same := congrArg Key.ns course.place
        rwa [Key.ofObject, Object.nsD, given, Option.getD_some] at same
      rw [Object.nsD, Object.nameD, nsGiven, nameGiven, Option.getD_some,
        Option.getD_some] at lookedUp
      exact ⟨reply, lookedUp⟩

/-- Every pass obeys, whatever it is answered. -/
theorem obeys_pass (surroundings : Surroundings) (kind : ParentKind) (ns name : String) :
    (pass surroundings kind ns name).Obeys Exchange.Faithful (Permitted surroundings kind ns name)
      (Concluded kind ns name) [] := by
  refine Program.Obeys.bind ⟨.fetch, fun reply faithful => ?_⟩
  cases reply with
  | error error =>
    have unread : Concluded kind ns name [⟨.get (.parent kind) ns name, .error error⟩] _ := .unread
    by_cases notFound : error.isNotFound = true
    · rw [if_pos notFound] at unread
      show Program.Obeys _ _ _ (if error.isNotFound = true then _ else _) _
      rw [if_pos notFound]
      exact unread
    · rw [if_neg notFound] at unread
      show Program.Obeys _ _ _ (if error.isNotFound = true then _ else _) _
      rw [if_neg notFound]
      exact unread
  | ok first =>
    show Program.Obeys _ _ _ (Program.ofExcept first.controllerReference >>= fun owner =>
      steps surroundings ns kind first >>= fun steps => performSteps owner steps first)
      [⟨.get (.parent kind) ns name, .ok first⟩]
    cases owns : first.controllerReference with
    | error error => exact Concluded.unowned owns
    | ok owner =>
      refine Program.Obeys.mono (follows_fetched (.fetched owns faithful))
        fun later result onward => ?_
      cases result with
      | ok changes => exact onward
      | error error => exact .failed onward

end Whole

end Caretaker
