import Caretaker.Proofs.Pass.Discipline
import Caretaker.Proofs.Pass.Failure
import Caretaker.Proofs.Pass.Footprint

/-!
# Children in the possession of their owner

An owner holds a child that names its place and is owned by it alone (`Object.IsHeldBy`).
Such a child takes its owner again and refuses every other one.  A place is open to an owner if
there is nothing in it that the owner does not hold (`MemoryStore.IsOpenTo`).  Steps whose children
belong into open places succeed, and leave these places open (`exists_performed`).  So a pass over a
parent all of whose places are open succeeds, and its owner holds all its children afterwards
(`MemoryStore.exists_run_pass_of_open`).
-/

namespace Caretaker

variable {kind : ParentKind}

namespace Object

variable {objectKind : Kind} {object : Object objectKind} {owner other : OwnerReference}

theorem IsOwnedBy.eq_of_controls (owned : object.IsOwnedBy owner) {reference : OwnerReference}
    (member : reference ∈ object.ownerReferences) (controls : reference.isController = true) :
    reference = owner := by
  have isController := List.mem_filter.mpr ⟨member, controls⟩
  rw [owned.2] at isController
  exact List.mem_singleton.mp isController

/-- An object takes the owner that it is owned by. -/
theorem IsOwnedBy.exists_attached (owned : object.IsOwnedBy owner) :
    ∃ again, object.attachOwner owner = .ok again := by
  cases took : object.attachOwner owner with
  | ok again => exact ⟨again, rfl⟩
  | error error =>
    obtain ⟨reference, foreign, -⟩ := exists_isForeign_of_attachOwner took
    exact absurd (congrArg (·.uid) (owned.eq_of_controls foreign.member foreign.controls))
      foreign.foreign

/-- An object that is owned by an owner names it to every other one that it refuses. -/
theorem IsOwnedBy.refused (owned : object.IsOwnedBy owner) (apart : owner.uid ≠ other.uid) :
    object.attachOwner other = .error (.foreignController owner.kind owner.name) := by
  have isController : owner ∈ object.ownerReferences.filter OwnerReference.isController := by
    rw [owned.2]
    exact List.mem_singleton_self owner
  obtain ⟨member, controls⟩ := List.mem_filter.mp isController
  have foreign : object.IsForeign other.uid owner := ⟨member, controls, apart⟩
  obtain ⟨error, refused⟩ := foreign.exists_refused
  obtain ⟨reference, named, rfl⟩ := exists_isForeign_of_attachOwner refused
  rw [refused, owned.eq_of_controls named.member named.controls]

/-- Whether an object names its place and is owned by an owner alone. -/
structure IsHeldBy (object : Object objectKind) (owner : OwnerReference) (ns name : String) :
    Prop where
  ns : object.metadata.ns = some ns
  name : object.metadata.name = some name
  owned : object.IsOwnedBy owner

/-- An object that took a parent as its owner is held by it in the place that the object names. -/
theorem isHeldBy_of_attachOwner {parent : Object (.parent kind)} {owned : Object objectKind}
    {ns name : String} (owns : parent.controllerReference = .ok owner)
    (took : object.attachOwner owner = .ok owned) (nsGiven : object.metadata.ns = some ns)
    (nameGiven : object.metadata.name = some name) : owned.IsHeldBy owner ns name := by
  have isOwned := isOwnedBy_of_attachOwner owns took
  obtain ⟨references, -, rfl⟩ := attachOwner_eq_ok.mp took
  exact ⟨nsGiven, nameGiven, isOwned⟩

end Object

section Converged

variable {childKind : ChildKind} {owner : OwnerReference} {desired : Child childKind}
  {ns name : String}

/-- A child that takes the owner is held by it after it was converged in a place where the owner
holds whatever is there. -/
theorem exists_converged_of_isHeldBy {parent : Object (.parent kind)}
    (owns : parent.controllerReference = .ok owner) (nsGiven : desired.metadata.ns = some ns)
    (nameGiven : desired.metadata.name = some name)
    (takes : ∃ owned, desired.attachOwner owner = .ok owned) {live : Option (Child childKind)}
    (held : ∀ child, live = some child → child.IsHeldBy owner ns name) (uid : String) :
    ∃ became, converged owner desired uid live = .ok became ∧
      became.object.IsHeldBy owner ns name := by
  cases live with
  | none =>
    obtain ⟨child, took⟩ := takes
    obtain ⟨childNs, childName, owned⟩ := Object.isHeldBy_of_attachOwner owns took nsGiven nameGiven
    exact ⟨_, converged_none_eq_ok.mpr ⟨child, took, rfl⟩, childNs, childName, owned⟩
  | some live =>
    have isHeld := held live rfl
    cases only : childKind.isCreateOnly with
    | true => exact ⟨_, converged_some_eq_ok.mpr (Or.inl ⟨only, rfl⟩), isHeld⟩
    | false =>
      obtain ⟨again, took⟩ := isHeld.owned.exists_attached
      have replaced : replacement owner live desired = .ok (merged again desired) :=
        replacement_eq_ok.mpr ⟨again, took, rfl⟩
      have keeps := keeps_of_replacement replaced
      obtain ⟨childNs, childName, owned⟩ := Object.isHeldBy_of_attachOwner owns
        (attachOwner_replacement replaced) (keeps.ns.trans isHeld.ns) (keeps.name.trans isHeld.name)
      refine ⟨_, converged_some_eq_ok.mpr (Or.inr ⟨only, _, replaced,
        ⟨_, Key.forWriting_of_some childNs childName⟩, rfl⟩), childNs, childName, owned⟩

/-- A child that would be updated but does not take the owner cannot be converged. -/
theorem converged_of_refused {live : Child childKind} {error : Error}
    (isMutable : childKind.isCreateOnly = false) (refused : live.attachOwner owner = .error error)
    (uid : String) :
    converged owner desired uid (some live) = .error error := by
  rw [converged, isMutable, replacement_eq, refused]
  rfl

end Converged

namespace MemoryStore

/-- Whether the owner holds what is in the place of a child, if there is anything. -/
def IsOpenTo (store : MemoryStore) (owner : OwnerReference) (ns : String)
    (place : ChildKind × String) : Prop :=
  ∀ child, store.object? (.child place.1) ns place.2 = some child → child.IsHeldBy owner ns place.2

/-- Whether there is a child in a place and the owner holds it. -/
def HasHeld (store : MemoryStore) (owner : OwnerReference) (ns : String)
    (place : ChildKind × String) : Prop :=
  ∃ child, store.object? (.child place.1) ns place.2 = some child ∧ child.IsHeldBy owner ns place.2

variable {store after : MemoryStore} {owner : OwnerReference} {ns name : String}
  {place : ChildKind × String}

theorem isOpenTo_of_none (absent : store.object? (.child place.1) ns place.2 = none) :
    store.IsOpenTo owner ns place := by
  intro child found
  cases absent.symm.trans found

theorem HasHeld.isOpenTo (held : store.HasHeld owner ns place) : store.IsOpenTo owner ns place := by
  obtain ⟨child, found, isHeld⟩ := held
  intro other otherFound
  cases found.symm.trans otherFound
  exact isHeld

theorem IsOpenTo.of_object? (isOpen : store.IsOpenTo owner ns place)
    (same : after.object? (.child place.1) ns place.2 = store.object? (.child place.1) ns place.2) :
    after.IsOpenTo owner ns place := by
  rw [IsOpenTo, same]
  exact isOpen

theorem HasHeld.of_object? (held : store.HasHeld owner ns place)
    (same : after.object? (.child place.1) ns place.2 = store.object? (.child place.1) ns place.2) :
    after.HasHeld owner ns place := by
  rw [HasHeld, same]
  exact held

/-- A place stays open when a child that the owner holds is stored, there or elsewhere. -/
theorem IsOpenTo.leave (isOpen : store.IsOpenTo owner ns place) {childKind : ChildKind}
    {became : Converged childKind} (held : became.object.IsHeldBy owner ns name) :
    (became.leave store ns name).IsOpenTo owner ns place := by
  obtain ⟨placeKind, placeName⟩ := place
  by_cases here : (⟨.child placeKind, ns, placeName⟩ : Key) = ⟨.child childKind, ns, name⟩
  · cases here
    intro child found
    have stored : (became.leave store ns name).object? (.child childKind) ns name =
        some became.object := object?_put_self _ _ _ _
    cases stored.symm.trans found
    exact held
  · exact isOpen.of_object? (object?_put_of_ne _ _ here)

end MemoryStore

/-- Whether a step builds a child that takes the owner and belongs into one of the given places. -/
def Step.IsOwnable (owner : OwnerReference) (base : Object (.parent kind)) (ns : String)
    (places : List (ChildKind × String)) : Step kind → Prop
  | .child childKind build => ∃ desired name, build base = .ok desired ∧
    desired.metadata.ns = some ns ∧ desired.metadata.name = some name ∧
    (childKind, name) ∈ places ∧ ∃ owned, desired.attachOwner owner = .ok owned
  | .report .. => True

/-- Steps whose children take the owner and belong into places that are open to it can be performed,
and leave these places open. -/
theorem exists_performed {owner : OwnerReference} {base parent : Object (.parent kind)}
    {ns name : String} {places : List (ChildKind × String)} {steps : List (Step kind)}
    {store : MemoryStore} (owns : base.controllerReference = .ok owner)
    (underway : Underway store parent ns name)
    (ownable : ∀ step ∈ steps, step.IsOwnable owner base ns places)
    (isOpen : ∀ place ∈ places, store.IsOpenTo owner ns place) :
    ∃ changes last after, Performed owner base ns name steps parent store changes last after ∧
      ∀ place ∈ places, after.IsOpenTo owner ns place := by
  induction steps generalizing store parent with
  | nil => exact ⟨[], parent, store, .nil, isOpen⟩
  | cons step rest ih =>
    obtain ⟨here, later⟩ := List.forall_mem_cons.mp ownable
    cases step with
    | child childKind build =>
      obtain ⟨desired, childName, built, nsGiven, nameGiven, member, takes⟩ := here
      obtain ⟨became, result, held⟩ := exists_converged_of_isHeldBy owns nsGiven nameGiven takes
        (isOpen (childKind, childName) member) store.nextUid
      obtain ⟨changes, last, after, performed, openAfter⟩ :=
        ih (underway.leave nsGiven nameGiven result) later
          fun place isPlace => (isOpen place isPlace).leave held
      exact ⟨_, last, after, .child built nsGiven nameGiven result performed, openAfter⟩
    | report list labels =>
      obtain ⟨changes, last, after, performed, openAfter⟩ :=
        ih (underway.report list (labels base)) later fun place isPlace =>
          (isOpen place isPlace).of_object? (underway.object?_report list _ _ _ _)
      exact ⟨changes, last, after, .report performed, openAfter⟩

/-- The owner holds a child that was performed in a place that is open in the end. -/
theorem Performed.hasHeld {owner : OwnerReference} {base parent last : Object (.parent kind)}
    {ns name childName : String} {steps : List (Step kind)} {store after : MemoryStore}
    {changes : List Change} {childKind : ChildKind}
    {build : Object (.parent kind) → Except Error (Child childKind)} {desired : Child childKind}
    (performed : Performed owner base ns name steps parent store changes last after)
    (before : Underway store parent ns name) (member : Step.child childKind build ∈ steps)
    (built : build base = .ok desired) (nsGiven : desired.metadata.ns = some ns)
    (nameGiven : desired.metadata.name = some childName)
    (isOpen : after.IsOpenTo owner ns (childKind, childName)) :
    after.HasHeld owner ns (childKind, childName) := by
  obtain ⟨other, childNs, otherName, same, otherNs, hasName, present⟩ :=
    performed.exists_child before member
  cases built.symm.trans same
  cases nsGiven.symm.trans otherNs
  cases nameGiven.symm.trans hasName
  rw [MemoryStore.child?, Option.isSome_map] at present
  obtain ⟨child, found⟩ := Option.isSome_iff_exists.mp present
  exact ⟨child, found, isOpen child found⟩

/-- Each child that steps build is built by one of them. -/
theorem exists_step_of_mem_builtBy {parent : Object (.parent kind)} {steps : List (Step kind)}
    {children : List SomeChild} (built : builtBy parent steps = .ok children) {child : SomeChild}
    (member : child ∈ children) :
    ∃ build, Step.child child.1 build ∈ steps ∧ build parent = .ok child.2 := by
  induction steps generalizing children with
  | nil =>
    cases built
    cases member
  | cons step rest ih =>
    cases step with
    | report =>
      obtain ⟨build, isStep, same⟩ := ih built member
      exact ⟨build, List.mem_cons_of_mem _ isStep, same⟩
    | child childKind build =>
      obtain ⟨first, others, here, later, rfl⟩ := builtBy_child_eq_ok.mp built
      rcases List.mem_cons.mp member with rfl | isOther
      · exact ⟨build, List.mem_cons_self, here⟩
      · obtain ⟨other, isStep, same⟩ := ih later isOther
        exact ⟨other, List.mem_cons_of_mem _ isStep, same⟩

/-- Whether the template of surroundings can be read and names no controller. -/
def Surroundings.Works (surroundings : Surroundings) : Prop :=
  ∃ template, surroundings.template = .ok template ∧
    ∀ reference ∈ template.ownerReferences, reference.isController = false

section Works

variable {surroundings : Surroundings} {childKind : ChildKind}

/-- Surroundings that work have owners for every child, and no controller among them. -/
theorem Surroundings.Works.exists_owners (works : surroundings.Works) (kind : ParentKind)
    (childKind : ChildKind) :
    ∃ references, surroundings.owners kind childKind = .ok references ∧
      ∀ reference ∈ references.getD [], reference.isController = false := by
  obtain ⟨template, readable, free⟩ := works
  rcases surroundings.owners_cases kind childKind with unowned | ⟨-, -, same⟩
  · exact ⟨none, unowned, List.forall_mem_nil _⟩
  · rw [readable] at same
    exact ⟨template.metadata.ownerReferences, same, free⟩

/-- A builder that is given the names that it requires builds a child that takes every owner, if it
has no controller from elsewhere. -/
theorem Builds.exists_owned {required : List (String × String)}
    {owners : Except Error (Option (List OwnerReference))} {ns name : String}
    {built : Except Error (Child childKind)} (builds : Builds required owners ns name built)
    (given : ∀ entry ∈ required, isBlankText entry.2 = false)
    {references : Option (List OwnerReference)} (readable : owners = .ok references)
    (free : ∀ reference ∈ references.getD [], reference.isController = false)
    (owner : OwnerReference) :
    ∃ desired, built = .ok desired ∧ desired.metadata.ns = some ns ∧
      desired.metadata.name = some name ∧ ∃ owned, desired.attachOwner owner = .ok owned := by
  cases result : built with
  | error error =>
    rcases builds.refused error result with ⟨entry, member, blank, -⟩ | noOwners
    · cases (given entry member).symm.trans blank
    · cases readable.symm.trans noOwners
  | ok desired =>
    refine ⟨desired, rfl, builds.ns desired result, builds.name desired result, ?_⟩
    cases took : desired.attachOwner owner with
    | ok owned => exact ⟨owned, rfl⟩
    | error error =>
      obtain ⟨reference, foreign, -⟩ := Object.exists_isForeign_of_attachOwner took
      have same := Except.ok.inj (readable.symm.trans (builds.owners desired result))
      have member := foreign.member
      rw [Object.ownerReferences, ← same] at member
      cases (free reference member).symm.trans foreign.controls

/-- Every child of a parent that gives the required names can be built and owned. -/
theorem Step.Fits.isOwnable {parent : Object (.parent kind)} {ns : String}
    (works : surroundings.Works)
    (given : ∀ entry ∈ requiredNames kind parent, isBlankText entry.2 = false) {step : Step kind}
    (fits : step.Fits surroundings parent ns) (owner : OwnerReference) :
    step.IsOwnable owner parent ns (childNames kind parent) := by
  cases step with
  | report => trivial
  | child childKind build =>
    obtain ⟨required, name, isRequired, isChild, -, builds⟩ := fits
    obtain ⟨references, readable, free⟩ := works.exists_owners kind childKind
    obtain ⟨desired, built, nsGiven, nameGiven, takes⟩ := builds.exists_owned
      (fun entry member => given entry (isRequired member)) readable free owner
    exact ⟨desired, name, built, nsGiven, nameGiven, isChild, takes⟩

end Works

namespace MemoryStore

variable {store : MemoryStore} {parent : Object (.parent kind)} {owner : OwnerReference}
  {ns name : String} {surroundings : Surroundings}

/-- A pass over a parent all of whose places are open to it succeeds, and the parent holds all its
children afterwards. -/
theorem exists_run_pass_of_open (underway : Underway store parent ns name)
    (owns : parent.controllerReference = .ok owner) (works : surroundings.Works)
    (given : ∀ entry ∈ requiredNames kind parent, isBlankText entry.2 = false)
    (isOpen : ∀ place ∈ childNames kind parent, store.IsOpenTo owner ns place) :
    ∃ changes last after, store.run (pass surroundings kind ns name) = (.ok changes, after) ∧
      Underway after last ns name ∧ SameRequest parent last ∧
      ∀ place ∈ childNames kind parent, after.HasHeld owner ns place := by
  obtain ⟨between, began, succeeds⟩ := run_pass_eq_ok underway owns surroundings
  have before := began.underway_between
  have openBetween : ∀ place ∈ childNames kind parent, between.IsOpenTo owner ns place := by
    obtain ⟨calls, rfl, -⟩ := began.reads
    exact isOpen
  have fits := fits_stepsWith surroundings (store.classFor ns kind parent) underway.nsGiven
  obtain ⟨changes, last, after, performed, openAfter⟩ := exists_performed owns before
    (fun step member => (fits step member).isOwnable works given owner) openBetween
  refine ⟨changes, last, after, (succeeds changes after).mpr ⟨last, performed⟩,
    performed.underway before, performed.sameRequest, ?_⟩
  rintro ⟨childKind, childName⟩ wanted
  obtain ⟨children, built⟩ := performed.exists_builtBy
  obtain ⟨-, named⟩ :=
    names_desiredChildren underway.nsGiven ((builtBy_stepsWith _ _ _).symm.trans built)
  obtain ⟨desired, member, hasName⟩ := exists_child_of_names named wanted
  obtain ⟨build, isStep, builtHere⟩ := exists_step_of_mem_builtBy built member
  exact performed.hasHeld before isStep builtHere (owners_builtBy fits built _ member).2 hasName
    (openAfter _ wanted)

end MemoryStore

end Caretaker
