import Caretaker.Proofs.Obedience
import Caretaker.Proofs.Pass.Names

/-!
# The course of a pass

What a pass may ask of a store, whatever the store answers.  The exchanges of a pass are a course
(`Course`) that begins with its parent and goes on until an exchange stops it (`Exchange.Stops`).
The course so far says which request is permitted next (`Permitted`) and how the pass may end
(`Concluded`).
-/

namespace Caretaker

/-- Why a pass for an owner ends after an exchange: the exchange failed, or it gave a child that
would be updated and does not take the owner. -/
inductive Exchange.Stops (owner : OwnerReference) : Exchange → Error → Prop where
  | failed {exchange : Exchange} {error : Error} (fails : exchange.failure? = some error) :
    Stops owner exchange error
  | refused {childKind : ChildKind} {ns name : String} {live : Child childKind} {error : Error}
    (isMutable : childKind.isCreateOnly = false) (refuses : live.attachOwner owner = .error error) :
    Stops owner ⟨.get (.child childKind) ns name, .ok live⟩ error

variable {kind : ParentKind}

/-- The exchanges of a pass so far, which began with a parent and its owner reference, and the
parent in hand: the answer to the last status write, or else the parent that was read. -/
inductive Course (ns name : String) (first : Object (.parent kind)) (owner : OwnerReference) :
    List Exchange → Object (.parent kind) → Prop where
  | fetched (owns : first.controllerReference = .ok owner)
    (place : Key.ofObject first = ⟨.parent kind, ns, name⟩) :
    Course ns name first owner [⟨.get (.parent kind) ns name, .ok first⟩] first
  | answered {said : List Exchange} {parent : Object (.parent kind)} {exchange : Exchange}
    (course : Course ns name first owner said parent)
    (other : exchange.request.verb ≠ .updateStatus)
    (goesOn : ∀ error, ¬exchange.Stops owner error) :
    Course ns name first owner (said ++ [exchange]) parent
  | written {said : List Exchange} {parent sent stored : Object (.parent kind)}
    (course : Course ns name first owner said parent)
    (place : Key.ofObject stored = ⟨.parent kind, ns, name⟩) :
    Course ns name first owner (said ++ [⟨.updateStatus (.parent kind) sent, .ok stored⟩]) stored

/-- Whether a step of the pass that began with a parent builds a child for the parent in hand. -/
def Wanted (surroundings : Surroundings) (first parent : Object (.parent kind))
    {childKind : ChildKind} (desired : Child childKind) : Prop :=
  ∃ defaultClass build,
    Step.child childKind build ∈ stepsWith surroundings defaultClass kind first ∧
    build parent = .ok desired

/-- Which request of a pass may follow the exchanges so far. -/
inductive Permitted (surroundings : Surroundings) (kind : ParentKind) (ns name : String) :
    List Exchange → Request → Prop where
  /-- A pass begins with its parent. -/
  | fetch : Permitted surroundings kind ns name [] (.get (.parent kind) ns name)
  /-- Once it has a parent that owns, a pass may read. -/
  | read {first parent : Object (.parent kind)} {owner : OwnerReference} {said : List Exchange}
    {request : Request} (course : Course ns name first owner said parent)
    (reads : request.verb.isWrite = false) : Permitted surroundings kind ns name said request
  /-- A child that was not found is created, with its owner. -/
  | create {first parent : Object (.parent kind)} {owner : OwnerReference} {said : List Exchange}
    {childKind : ChildKind} {desired child : Child childKind} {childNs childName : String}
    {missing : Error} (course : Course ns name first owner said parent)
    (wanted : Wanted surroundings first parent desired)
    (nsGiven : desired.metadata.ns = some childNs)
    (nameGiven : desired.metadata.name = some childName)
    (notFound : missing.isNotFound = true) (owned : desired.attachOwner owner = .ok child) :
    Permitted surroundings kind ns name
      (said ++ [⟨.get (.child childKind) childNs childName, .error missing⟩])
      (.create (.child childKind) child)
  /-- A child that was found is updated by its replacement. -/
  | update {first parent : Object (.parent kind)} {owner : OwnerReference} {said : List Exchange}
    {childKind : ChildKind} {desired live child : Child childKind} {childNs childName : String}
    (course : Course ns name first owner said parent)
    (wanted : Wanted surroundings first parent desired)
    (nsGiven : desired.metadata.ns = some childNs)
    (nameGiven : desired.metadata.name = some childName)
    (isMutable : childKind.isCreateOnly = false)
    (place : Key.ofObject live = ⟨.child childKind, childNs, childName⟩)
    (replaced : replacement owner live desired = .ok child) :
    Permitted surroundings kind ns name
      (said ++ [⟨.get (.child childKind) childNs childName, .ok live⟩])
      (.update (.child childKind) child)
  /-- The status of the parent is written after its pods were listed. -/
  | report {first parent : Object (.parent kind)} {owner : OwnerReference} {said : List Exchange}
    {labels : LabelMap} {pods : List Pod} (course : Course ns name first owner said parent)
    (list : PodList kind) :
    Permitted surroundings kind ns name (said ++ [⟨.list .pod ns labels, .ok pods⟩])
      (.updateStatus (.parent kind) (list.withNames parent (podNames pods)))

/-- Whether changes account for every child that exchanges found and that is left alone. -/
def Accounts (exchanges : List Exchange) (changes : List Change) : Prop :=
  ∀ (childKind : ChildKind) (ns name : String) (live : Child childKind),
    childKind.isCreateOnly = true → ⟨.get (.child childKind) ns name, .ok live⟩ ∈ exchanges →
      ⟨.unchanged, childKind, live.nameD⟩ ∈ changes

/-- How a pass fails after it has begun: for a reason of its own, or stopped by its last
exchange. -/
inductive Fails (ns name : String) (first : Object (.parent kind)) (owner : OwnerReference) :
    List Exchange → Error → Prop where
  | alone {said : List Exchange} {parent : Object (.parent kind)} {error : Error}
    (course : Course ns name first owner said parent) : Fails ns name first owner said error
  | stopped {said : List Exchange} {parent : Object (.parent kind)} {exchange : Exchange}
    {error : Error} (course : Course ns name first owner said parent)
    (stops : exchange.Stops owner error) : Fails ns name first owner (said ++ [exchange]) error

/-- How a pass ends. -/
inductive Concluded (kind : ParentKind) (ns name : String) :
    List Exchange → Except Error (List Change) → Prop where
  /-- The parent could not be read, or is gone. -/
  | unread {error : Error} : Concluded kind ns name
      [⟨.get (.parent kind) ns name, .error error⟩]
      (if error.isNotFound then .ok [] else .error error)
  /-- The parent cannot own. -/
  | unowned {first : Object (.parent kind)} {error : Error}
    (refused : first.controllerReference = .error error) :
    Concluded kind ns name [⟨.get (.parent kind) ns name, .ok first⟩] (.error error)
  | failed {first : Object (.parent kind)} {owner : OwnerReference} {said : List Exchange}
    {error : Error} (fails : Fails ns name first owner said error) :
    Concluded kind ns name said (.error error)
  /-- All children were converged; a child that was looked up before that was looked up again. -/
  | finished {first parent : Object (.parent kind)} {owner : OwnerReference}
    {before later : List Exchange} {changes : List Change}
    (course : Course ns name first owner (before ++ later) parent)
    (accounts : Accounts later changes)
    (again : ∀ (childKind : ChildKind) (childNs childName : String) reply,
      ⟨.get (.child childKind) childNs childName, reply⟩ ∈ before →
        ∃ reply, ⟨.get (.child childKind) childNs childName, reply⟩ ∈ later) :
    Concluded kind ns name (before ++ later) (.ok changes)

namespace Course

variable {ns name : String} {first parent : Object (.parent kind)} {owner : OwnerReference}
  {said : List Exchange}

theorem place (course : Course ns name first owner said parent) :
    Key.ofObject parent = ⟨.parent kind, ns, name⟩ := by
  induction course with
  | fetched _ place => exact place
  | answered _ _ _ ih => exact ih
  | written _ place => exact place

theorem owns (course : Course ns name first owner said parent) :
    first.controllerReference = .ok owner := by
  induction course with
  | fetched owns => exact owns
  | answered _ _ _ ih => exact ih
  | written _ _ ih => exact ih

/-- A course begins with the parent that was read. -/
theorem begins (course : Course ns name first owner said parent) :
    ∃ rest, said = ⟨.get (.parent kind) ns name, .ok first⟩ :: rest := by
  induction course with
  | fetched => exact ⟨[], rfl⟩
  | answered _ _ _ ih =>
    obtain ⟨rest, rfl⟩ := ih
    exact ⟨rest ++ [_], rfl⟩
  | written _ _ ih =>
    obtain ⟨rest, rfl⟩ := ih
    exact ⟨rest ++ [_], rfl⟩

/-- No exchange of a course stops it. -/
theorem not_stops (course : Course ns name first owner said parent) :
    ∀ exchange ∈ said, ∀ error, ¬exchange.Stops owner error := by
  induction course with
  | fetched =>
    intro exchange member error stops
    cases List.mem_singleton.mp member
    cases stops with
    | failed fails => cases fails
  | answered _ _ goesOn ih =>
    exact List.forall_mem_append.mpr ⟨ih, List.forall_mem_singleton.mpr goesOn⟩
  | written _ _ ih =>
    refine List.forall_mem_append.mpr ⟨ih, List.forall_mem_singleton.mpr fun error stops => ?_⟩
    cases stops with
    | failed fails => cases fails

end Course

/-- A course goes on after a look-up that finds nothing. -/
theorem Course.missing {ns name : String} {first parent : Object (.parent kind)}
    {owner : OwnerReference} {said : List Exchange}
    (course : Course ns name first owner said parent) (childKind : ChildKind)
    (childNs childName : String) {error : Error} (notFound : error.isNotFound = true) :
    Course ns name first owner
      (said ++ [⟨.get (.child childKind) childNs childName, .error error⟩]) parent := by
  refine course.answered (by rintro ⟨⟩) ?_
  rintro _ ⟨fails⟩
  simp [Exchange.failure?, Request.verb, notFound] at fails

/-- A request that succeeds and reads no single object goes on. -/
theorem Exchange.not_stops_of_verb {owner : OwnerReference} {request : Request}
    {reply : request.Answer} (other : request.verb ≠ .get) (error : Error) :
    ¬Exchange.Stops owner ⟨request, .ok reply⟩ error := by
  intro stops
  generalize same : (⟨request, .ok reply⟩ : Exchange) = exchange at stops
  cases stops with
  | failed fails =>
    rw [← same] at fails
    cases fails
  | refused =>
    obtain rfl : request = _ := congrArg Exchange.request same
    exact other rfl

/-- A child that was found goes on if it is left alone or takes the owner. -/
theorem Exchange.not_stops_of_found {owner : OwnerReference} {childKind : ChildKind}
    {ns name : String} {live : Child childKind}
    (takes : childKind.isCreateOnly = false → ∃ owned, live.attachOwner owner = .ok owned)
    (error : Error) : ¬Exchange.Stops owner ⟨.get (.child childKind) ns name, .ok live⟩ error := by
  intro stops
  cases stops with
  | failed fails => cases fails
  | refused isMutable refuses =>
    obtain ⟨owned, took⟩ := takes isMutable
    cases took.symm.trans refuses

/-- Every exchange that fails stops a pass, unless nothing was found. -/
theorem Exchange.stops_of_error {owner : OwnerReference} {request : Request} {error : Error}
    (fails : request.verb = .get → error.isNotFound = false) :
    Exchange.Stops owner ⟨request, .error error⟩ error := by
  apply Exchange.Stops.failed
  rw [Exchange.failure?]
  by_cases isGet : request.verb = .get
  · simp [fails isGet]
  · simp [isGet]

namespace Accounts

variable {exchanges later : List Exchange} {changes others : List Change}

theorem append (accounts : Accounts exchanges changes) (rest : Accounts later others) :
    Accounts (exchanges ++ later) (changes ++ others) := by
  intro childKind ns name live createOnly member
  rcases List.mem_append.mp member with here | there
  · exact List.mem_append_left _ (accounts childKind ns name live createOnly here)
  · exact List.mem_append_right _ (rest childKind ns name live createOnly there)

/-- Exchanges that found no child that is left alone leave nothing to account for. -/
theorem of_forall (found : ∀ (childKind : ChildKind) (ns name : String) (live : Child childKind),
    ⟨.get (.child childKind) ns name, .ok live⟩ ∈ exchanges → childKind.isCreateOnly = false) :
    Accounts exchanges changes := by
  intro childKind ns name live createOnly member
  cases createOnly.symm.trans (found childKind ns name live member)

theorem of_verb {exchange : Exchange} (other : exchange.request.verb ≠ .get) :
    Accounts [exchange] changes := by
  refine of_forall fun childKind ns name live member => absurd ?_ other
  rw [← List.mem_singleton.mp member]
  rfl

theorem of_missing {request : Request} {error : Error} :
    Accounts [⟨request, .error error⟩] changes :=
  of_forall fun _ _ _ _ member => nomatch List.mem_singleton.mp member

theorem of_found {childKind : ChildKind} {ns name : String} {live : Child childKind}
    (listed : childKind.isCreateOnly = true → ⟨.unchanged, childKind, live.nameD⟩ ∈ changes) :
    Accounts [⟨.get (.child childKind) ns name, .ok live⟩] changes := by
  intro otherKind otherNs otherName other createOnly member
  cases List.mem_singleton.mp member
  exact listed createOnly

end Accounts

/-- A request is permitted at the beginning or after a course. -/
theorem Permitted.exists_course {surroundings : Surroundings} {ns name : String}
    {said : List Exchange} {request : Request}
    (permitted : Permitted surroundings kind ns name said request) :
    said = [] ∨ ∃ first owner, ∃ parent : Object (.parent kind),
      Course ns name first owner said parent := by
  cases permitted with
  | fetch => exact Or.inl rfl
  | read course => exact Or.inr ⟨_, _, _, course⟩
  | create course _ _ _ notFound => exact Or.inr ⟨_, _, _, course.missing _ _ _ notFound⟩
  | update course _ _ _ _ _ replaced =>
    obtain ⟨owned, took, -⟩ := replacement_eq_ok.mp replaced
    exact Or.inr ⟨_, _, _, course.answered (by rintro ⟨⟩)
      (Exchange.not_stops_of_found fun _ => ⟨owned, took⟩)⟩
  | report course =>
    exact Or.inr ⟨_, _, _, course.answered (by rintro ⟨⟩)
      (Exchange.not_stops_of_verb (by rintro ⟨⟩))⟩

end Caretaker
