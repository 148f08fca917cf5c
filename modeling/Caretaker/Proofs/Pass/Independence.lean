import Caretaker.Proofs.Pass.Footprint
import Caretaker.Proofs.Store.Twin
import Caretaker.Proofs.Store.Uid

/-!
# Passes that do not touch each other

A pass does the same over stores that it cannot tell apart (`MemoryStore.run_pass_twins`), and it
writes only its own places.  So two passes over different parents that have no child in one place
have the same results in either order, and leave the same objects but for the uids of those that they
created (`MemoryStore.run_pass_comm`).
-/

namespace Caretaker

namespace MemoryStore

variable {kind : ParentKind} {left right : MemoryStore} {parent : Object (.parent kind)}
  {ns name : String} {children : List Key} {surroundings : Surroundings}

/-- Whether runs over two stores have the same result, leave stores that a pass cannot tell apart and
take equally many uids. -/
structure SameRun {α : Type} (place : Key) (children : List Key) (left right : MemoryStore)
    (leftRun rightRun : Except Error α × MemoryStore) : Prop where
  result : leftRun.1 = rightRun.1
  twins : Twins place children leftRun.2 rightRun.2
  assigned : leftRun.2.assigned + right.assigned = rightRun.2.assigned + left.assigned

theorem Twins.leave {place : Key} (twins : Twins place children left right) {childKind : ChildKind}
    (notChild : place.kind ≠ .child childKind) {leftBecame rightBecame : Converged childKind}
    (same : leftBecame.anonymous = rightBecame.anonymous) (childNs childName : String) :
    Twins place children (leftBecame.leave left childNs childName)
      (rightBecame.leave right childNs childName) :=
  (twins.put_child notChild (congrArg Converged.object same)).of_objects rfl rfl

theorem Twins.report (twins : Twins ⟨.parent kind, ns, name⟩ children left right)
    (leftUnderway : Underway left parent ns name) (rightUnderway : Underway right parent ns name)
    (list : PodList kind) (labels : LabelMap) :
    Twins ⟨.parent kind, ns, name⟩ children (list.leave labels parent left ns name)
      (list.leave labels parent right ns name) := by
  refine (twins.put_parent (list.reported (podNames (left.pods ns labels)) parent)).of_objects
    (leftUnderway.objects_leave list labels) ?_
  rw [twins.pods]
  exact rightUnderway.objects_leave list labels

/-- Steps do the same over stores that a pass cannot tell apart. -/
theorem run_performSteps_twins (owner : OwnerReference) {steps : List (Step kind)}
    (leftUnderway : Underway left parent ns name) (rightUnderway : Underway right parent ns name)
    (stable : ∀ step ∈ steps, step.IsStable) (contains : builtKeys parent steps ⊆ children)
    (twins : Twins ⟨.parent kind, ns, name⟩ children left right) :
    SameRun ⟨.parent kind, ns, name⟩ children left right
      (left.run (performSteps owner steps parent))
      (right.run (performSteps owner steps parent)) := by
  induction steps generalizing left right parent with
  | nil => exact ⟨rfl, twins, Nat.add_comm _ _⟩
  | cons step rest ih =>
    obtain ⟨-, stableRest⟩ := List.forall_mem_cons.mp stable
    cases step with
    | report list labels =>
      have later := rightUnderway.report list (labels parent)
      rw [← twins.pods] at later
      have contains : builtKeys (list.reported (podNames (left.pods ns (labels parent))) parent)
          rest ⊆ children := by
        rw [builtKeys_congr (.reported list _ parent) stableRest]
        exact contains
      obtain ⟨result, after, assigned⟩ := ih (leftUnderway.report list (labels parent)) later
        stableRest contains (twins.report leftUnderway rightUnderway list (labels parent))
      rw [PodList.assigned_leave, PodList.assigned_leave] at assigned
      rw [run_performSteps_report leftUnderway, run_performSteps_report rightUnderway,
        ← twins.pods]
      exact ⟨result, after, assigned⟩
    | child childKind build =>
      cases built : build parent with
      | error error =>
        rw [run_performSteps_of_unbuilt built, run_performSteps_of_unbuilt built]
        exact ⟨rfl, twins, Nat.add_comm _ _⟩
      | ok desired =>
        cases writable : Key.forWriting desired with
        | error error =>
          rw [run_performSteps_of_unplaced built writable,
            run_performSteps_of_unplaced built writable]
          exact ⟨rfl, twins, Nat.add_comm _ _⟩
        | ok place =>
          obtain ⟨childNs, childName, rfl, nsGiven, nameGiven⟩ := Key.exists_of_forWriting writable
          rw [builtKeys_of_ok built, Key.ofObject_of_forWriting writable,
            List.cons_subset] at contains
          rw [run_performSteps_of_built leftUnderway.quiet leftUnderway.wellFormed built nsGiven
              nameGiven,
            run_performSteps_of_built rightUnderway.quiet rightUnderway.wellFormed built nsGiven
              nameGiven]
          rcases converged_twins owner desired left.nextUid right.nextUid
              (twins.children childKind childNs childName contains.1) with
            ⟨error, leftResult, rightResult⟩ | ⟨became, other, leftResult, rightResult, same⟩
          · rw [leftResult, rightResult]
            exact ⟨rfl, twins.of_objects rfl rfl, Nat.add_comm _ _⟩
          · have outcome : became.outcome = other.outcome := (congrArg Converged.outcome same :)
            obtain ⟨result, after, assigned⟩ :=
              ih (leftUnderway.leave nsGiven nameGiven leftResult)
                (rightUnderway.leave nsGiven nameGiven rightResult) stableRest contains.2
                (twins.leave (by simp) same childNs childName)
            rw [leftResult, rightResult]
            refine ⟨?_, after, ?_⟩
            · simp only [Converged.change_eq same, result]
            · simp only [Converged.leave, outcome] at assigned ⊢
              omega

/-- The claim of a pass that comes to it gets the same class over stores that a pass cannot tell
apart. -/
theorem Twins.classFor
    (twins : Twins ⟨.parent kind, ns, name⟩ (childKeys surroundings parent) left right)
    (nsGiven : parent.metadata.ns = some ns)
    (builds : ∀ error, ¬ FirstFails surroundings "" parent error) :
    left.classFor ns kind parent = right.classFor ns kind parent := by
  cases kind with
  | mustGatherService =>
    cases built : Build.mustGatherClaim parent "" with
    | error error => exact absurd ⟨_, _, _, rfl, built⟩ (builds error)
    | ok claim =>
      have placed := builds_mustGatherClaim nsGiven ""
      have place := Object.key_of_some (placed.ns claim built) (placed.name claim built)
      have member : (⟨.child .persistentVolumeClaim, ns,
          (MustGatherService.spec parent).persistentVolumeClaim.name⟩ : Key) ∈
            childKeys surroundings parent := by
        have keys : childKeys surroundings parent = Key.ofObject claim :: _ :=
          builtKeys_of_ok built _
        rw [keys, place]
        exact List.mem_cons_self
      have claims := congrArg Option.isSome (twins.children _ _ _ member)
      rw [anonymous?, anonymous?, Option.isSome_map, Option.isSome_map] at claims
      simp only [MemoryStore.classFor, claimClass, claims, twins.storageClasses]
  | healthService => rfl
  | mustGatherJob => rfl
  | mustGatherConfig => rfl

/-- A pass does the same over stores that it cannot tell apart. -/
theorem run_pass_twins (leftQuiet : left.Quiet) (leftWellFormed : left.WellFormed)
    (rightQuiet : right.Quiet) (rightWellFormed : right.WellFormed)
    (found : left.object? (.parent kind) ns name = some parent)
    (twins : Twins ⟨.parent kind, ns, name⟩ (childKeys surroundings parent) left right) :
    SameRun ⟨.parent kind, ns, name⟩ (childKeys surroundings parent) left right
      (left.run (pass surroundings kind ns name)) (right.run (pass surroundings kind ns name)) := by
  have leftStored := (object?_eq_some_iff leftWellFormed).mp found
  have rightStored := twins.parent.symm.trans leftStored
  have rightFound := (object?_eq_some_iff rightWellFormed).mpr rightStored
  rcases failsAtOnce_or surroundings (isStored_of_object? leftWellFormed found) with
    ⟨error, fails⟩ | ⟨⟨owner, owns⟩, nsGiven, nameGiven, builds⟩
  · obtain ⟨leftCalls, leftRan⟩ := fails left leftQuiet leftWellFormed found
    obtain ⟨rightCalls, rightRan⟩ := fails right rightQuiet rightWellFormed rightFound
    rw [leftRan, rightRan]
    exact ⟨rfl, twins.of_objects rfl rfl, Nat.add_comm _ _⟩
  · obtain ⟨leftCalls, -, -, leftRan⟩ :=
      run_pass_of_some leftQuiet leftWellFormed surroundings found
    obtain ⟨rightCalls, -, -, rightRan⟩ :=
      run_pass_of_some rightQuiet rightWellFormed surroundings rightFound
    have leftUnderway : Underway (left.reading leftCalls) parent ns name :=
      ⟨leftQuiet, leftWellFormed, leftStored, nsGiven, nameGiven⟩
    have rightUnderway : Underway (right.reading rightCalls) parent ns name :=
      ⟨rightQuiet, rightWellFormed, rightStored, nsGiven, nameGiven⟩
    have contains : builtKeys parent (stepsWith surroundings (right.classFor ns kind parent) kind
        parent) ⊆ childKeys surroundings parent := by
      rw [builtKeys_stepsWith]
      exact List.Subset.refl _
    obtain ⟨result, after, assigned⟩ := run_performSteps_twins owner leftUnderway
      rightUnderway (isStable_stepsWith _ _ _) contains (twins.of_objects rfl rfl)
    rw [leftRan, rightRan, owns, twins.classFor nsGiven builds]
    exact ⟨result, after, assigned⟩

/-- Running a program keeps a store quiet. -/
theorem Quiet.run {α : Type} {store : MemoryStore} (quiet : store.Quiet)
    (wellFormed : store.WellFormed) (program : Program α) : (store.run program).2.Quiet :=
  wellFormed.run_preserves Quiet
    (fun _ wellFormed quiet request => (failures_answer wellFormed request).trans quiet) program
    quiet

/-- Whether two documents of a place are the same, or are those of a child that was not there before,
under another uid in each. -/
def SameButUid (kind : Kind) (before left right : Option Json) : Prop :=
  left = right ∨
    before = none ∧ ∃ (childKind : ChildKind) (child : Child childKind) (uid other : String),
      kind = .child childKind ∧ left = some (child.withUid uid).encode ∧
        right = some (child.withUid other).encode

theorem SameButUid.symm {kind : Kind} {before left right : Option Json}
    (same : SameButUid kind before left right) : SameButUid kind before right left := by
  rcases same with same | ⟨absent, childKind, child, uid, other, isChild, here, there⟩
  · exact Or.inl same.symm
  · exact Or.inr ⟨absent, childKind, child, other, uid, isChild, there, here⟩

/-- In the places of a pass, twins that came from one store have the same documents but for the uids
of the children that are new. -/
theorem Twins.sameButUid {store : MemoryStore} {place key : Key}
    (twins : Twins place children left right) (leftWellFormed : left.WellFormed)
    (rightWellFormed : right.WellFormed) (leftKeeps : KeepsUids store left)
    (rightKeeps : KeepsUids store right)
    (member : key = place ∨ key ∈ children ∧ ∃ childKind, key.kind = .child childKind) :
    SameButUid key.kind (store.document? key) (left.document? key) (right.document? key) := by
  rcases member with rfl | ⟨member, childKind, isChild⟩
  · exact Or.inl twins.parent
  · obtain ⟨keyKind, childNs, childName⟩ := key
    cases isChild
    rcases twins.document?_child leftWellFormed rightWellFormed member with
      ⟨here, there⟩ | ⟨child, uid, other, here, there⟩
    · exact Or.inl (here.trans there.symm)
    · cases before : store.document? ⟨.child childKind, childNs, childName⟩ with
      | none => exact Or.inr ⟨rfl, childKind, child, uid, other, rfl, here, there⟩
      | some document =>
        -- A child that was there before has its uid in both.
        obtain ⟨later, found, sameUid⟩ := leftKeeps _ _ before
        obtain ⟨otherLater, otherFound, otherSameUid⟩ := rightKeeps _ _ before
        cases here.symm.trans found
        cases there.symm.trans otherFound
        have uids := sameUid.trans otherSameUid.symm
        rw [StoredDocument.uid_encode, StoredDocument.uid_encode] at uids
        have uids : uid = other := uids
        rw [here, there, uids]
        exact Or.inl rfl

section Two

variable {otherKind : ParentKind} {other : Object (.parent otherKind)} {otherNs otherName : String}
  {otherSurroundings : Surroundings} {store : MemoryStore}

/-- A pass does the same before and after a pass with other places. -/
theorem run_pass_after (quiet : store.Quiet) (wellFormed : store.WellFormed)
    (found : store.object? (.parent kind) ns name = some parent)
    (otherFound : store.object? (.parent otherKind) otherNs otherName = some other)
    (disjoint : ∀ key ∈ ownKeys surroundings parent ns name,
      key ∉ ownKeys otherSurroundings other otherNs otherName) :
    SameRun ⟨.parent kind, ns, name⟩ (childKeys surroundings parent) store
      (store.run (pass otherSurroundings otherKind otherNs otherName)).2
      (store.run (pass surroundings kind ns name))
      ((store.run (pass otherSurroundings otherKind otherNs otherName)).2.run
        (pass surroundings kind ns name)) := by
  refine run_pass_twins quiet wellFormed (quiet.run wellFormed _) (wellFormed.run _) found
    (.of_documents fun key read => (document?_run_pass quiet wellFormed otherFound ?_).symm)
  intro otherOwn
  rcases read with here | member | isPod | isClass
  · exact disjoint key (here ▸ List.mem_cons_self) otherOwn
  · exact disjoint key (List.mem_cons_of_mem _ member) otherOwn
  · rcases kind_of_mem_ownKeys otherOwn with isParent | ⟨childKind, isChild⟩
    · cases isPod.symm.trans isParent
    · cases isPod.symm.trans isChild
  · rcases kind_of_mem_ownKeys otherOwn with isParent | ⟨childKind, isChild⟩
    · cases isClass.symm.trans isParent
    · cases isClass.symm.trans isChild

/-- After a pass, one with other places still leaves every place alone but its own. -/
theorem document?_run_pass_after (quiet : store.Quiet) (wellFormed : store.WellFormed)
    (found : store.object? (.parent kind) ns name = some parent)
    (otherFound : store.object? (.parent otherKind) otherNs otherName = some other)
    (disjoint : ∀ key ∈ ownKeys surroundings parent ns name,
      key ∉ ownKeys otherSurroundings other otherNs otherName)
    {key : Key} (notOwn : key ∉ ownKeys otherSurroundings other otherNs otherName) :
    ((store.run (pass surroundings kind ns name)).2.run
        (pass otherSurroundings otherKind otherNs otherName)).2.document? key =
      (store.run (pass surroundings kind ns name)).2.document? key := by
  have after := wellFormed.run (pass surroundings kind ns name)
  have untouched := document?_run_pass quiet wellFormed found fun own =>
    disjoint _ own List.mem_cons_self
  have stored := untouched.trans ((object?_eq_some_iff wellFormed).mp otherFound)
  exact document?_run_pass (quiet.run wellFormed _) after ((object?_eq_some_iff after).mpr stored)
    notOwn

/-- The places of a pass hold the same, but for the uids of new children, whether a pass with other
places follows it or precedes it. -/
theorem sameButUid_of_mem_ownKeys (quiet : store.Quiet) (wellFormed : store.WellFormed)
    (found : store.object? (.parent kind) ns name = some parent)
    (otherFound : store.object? (.parent otherKind) otherNs otherName = some other)
    (disjoint : ∀ key ∈ ownKeys surroundings parent ns name,
      key ∉ ownKeys otherSurroundings other otherNs otherName)
    {key : Key} (own : key ∈ ownKeys surroundings parent ns name) :
    SameButUid key.kind (store.document? key)
      (((store.run (pass surroundings kind ns name)).2.run
        (pass otherSurroundings otherKind otherNs otherName)).2.document? key)
      (((store.run (pass otherSurroundings otherKind otherNs otherName)).2.run
        (pass surroundings kind ns name)).2.document? key) := by
  have otherAfter := wellFormed.run (pass otherSurroundings otherKind otherNs otherName)
  rw [document?_run_pass_after quiet wellFormed found otherFound disjoint (disjoint key own)]
  refine (run_pass_after quiet wellFormed found otherFound disjoint).twins.sameButUid
    (wellFormed.run _) (otherAfter.run _) (keepsUids_run wellFormed _)
    ((keepsUids_run wellFormed _).trans (keepsUids_run otherAfter _)) ?_
  exact (List.mem_cons.mp own).imp_right fun member =>
    ⟨member, exists_kind_of_mem_builtKeys member⟩

/-- Passes over two parents that have no child in one place have the same results in either order.
Then the same objects are there, but a child that one of the passes created may have another uid in
each order. -/
theorem run_pass_comm (reachable : store.Reachable) (quiet : store.Quiet)
    (found : store.object? (.parent kind) ns name = some parent)
    (otherFound : store.object? (.parent otherKind) otherNs otherName = some other)
    (apart : (⟨.parent kind, ns, name⟩ : Key) ≠ ⟨.parent otherKind, otherNs, otherName⟩)
    (disjoint : ∀ key ∈ childKeys surroundings parent, key ∉ childKeys otherSurroundings other) :
    ∃ result otherResult after otherAfter last otherLast,
      store.run (pass surroundings kind ns name) = (result, after) ∧
      after.run (pass otherSurroundings otherKind otherNs otherName) = (otherResult, last) ∧
      store.run (pass otherSurroundings otherKind otherNs otherName) = (otherResult, otherAfter) ∧
      otherAfter.run (pass surroundings kind ns name) = (result, otherLast) ∧
      last.assigned = otherLast.assigned ∧
      ∀ key, SameButUid key.kind (store.document? key) (last.document? key)
        (otherLast.document? key) := by
  have wellFormed := reachable.wellFormed
  have ownDisjoint := ownKeys_disjoint apart disjoint
  have otherDisjoint : ∀ key ∈ ownKeys otherSurroundings other otherNs otherName,
      key ∉ ownKeys surroundings parent ns name :=
    fun key otherOwn own => ownDisjoint key own otherOwn
  have sameRun := run_pass_after quiet wellFormed found otherFound ownDisjoint
  have otherSameRun := run_pass_after quiet wellFormed otherFound found otherDisjoint
  have documents : ∀ key, SameButUid key.kind (store.document? key)
      (((store.run (pass surroundings kind ns name)).2.run
        (pass otherSurroundings otherKind otherNs otherName)).2.document? key)
      (((store.run (pass otherSurroundings otherKind otherNs otherName)).2.run
        (pass surroundings kind ns name)).2.document? key) := by
    intro key
    by_cases own : key ∈ ownKeys surroundings parent ns name
    · exact sameButUid_of_mem_ownKeys quiet wellFormed found otherFound ownDisjoint own
    by_cases otherOwn : key ∈ ownKeys otherSurroundings other otherNs otherName
    · exact (sameButUid_of_mem_ownKeys quiet wellFormed otherFound found otherDisjoint otherOwn).symm
    · refine Or.inl ?_
      rw [document?_run_pass_after quiet wellFormed found otherFound ownDisjoint otherOwn,
        document?_run_pass_after quiet wellFormed otherFound found otherDisjoint own,
        document?_run_pass quiet wellFormed found own,
        document?_run_pass quiet wellFormed otherFound otherOwn]
  -- From here on it does not matter what the passes are.
  generalize pass surroundings kind ns name = first at *
  generalize pass otherSurroundings otherKind otherNs otherName = second at *
  have assigned : ((store.run first).2.run second).2.assigned =
      ((store.run second).2.run first).2.assigned := by
    have left := sameRun.assigned
    have right := otherSameRun.assigned
    omega
  exact ⟨(store.run first).1, (store.run second).1, (store.run first).2, (store.run second).2,
    ((store.run first).2.run second).2, ((store.run second).2.run first).2, rfl,
    Prod.ext otherSameRun.result.symm rfl, rfl, Prod.ext sameRun.result.symm rfl, assigned,
    documents⟩

end Two

end MemoryStore

section Sample

/-- A must-gather service. -/
def sampleGather : MustGatherService :=
  ⟨{ name := some "gather", ns := some "kube-system" },
    ({ spec := {
        mustGather := { name := "gather" }
        persistentVolumeClaim := { name := "archives" } } } :
      Observed MustGatherServiceSpec MustGatherServiceStatus)⟩

/-- A configuration in the namespace of that service. -/
def sampleConfig : MustGatherConfig :=
  ⟨{ name := some "config", ns := some "kube-system" }, ({} : MustGatherConfigSpec)⟩

/-- A store with both parents. -/
def neighbourStore : MemoryStore := (MemoryStore.insert {} sampleGather).insert sampleConfig

/-- A pass over the must-gather service. -/
def gatherPass : Program (List Change) :=
  pass sampleSurroundings .mustGatherService "kube-system" "gather"

/-- A pass over the configuration. -/
def configPass : Program (List Change) :=
  pass sampleSurroundings .mustGatherConfig "kube-system" "config"

/-- The passes over the two parents succeed in either order and leave the same but for uids. -/
theorem run_pass_comm_in_neighbourStore :
    ∃ changes configChanges after configAfter last configLast,
      neighbourStore.run gatherPass = (.ok changes, after) ∧
      after.run configPass = (.ok configChanges, last) ∧
      neighbourStore.run configPass = (.ok configChanges, configAfter) ∧
      configAfter.run gatherPass = (.ok changes, configLast) ∧
      ∀ key, MemoryStore.SameButUid key.kind (neighbourStore.document? key)
        (last.document? key) (configLast.document? key) := by
  have reachable : neighbourStore.Reachable := (MemoryStore.Reachable.empty.insert _).insert _
  have found : neighbourStore.object? (.parent .mustGatherService) "kube-system" "gather" =
      some (sampleGather.numbered "uid-1") :=
    (MemoryStore.object?_eq_some_iff reachable.wellFormed).mpr (by decide +kernel)
  have configFound : neighbourStore.object? (.parent .mustGatherConfig) "kube-system" "config" =
      some (sampleConfig.numbered "uid-2") :=
    (MemoryStore.object?_eq_some_iff reachable.wellFormed).mpr (by decide +kernel)
  have disjoint : ∀ key ∈ childKeys sampleSurroundings (sampleGather.numbered "uid-1"),
      key ∉ childKeys sampleSurroundings (sampleConfig.numbered "uid-2") :=
    childKeys_disjoint rfl rfl fun _ => by decide
  obtain ⟨changes, ranAfter, ran⟩ :=
    MemoryStore.exists_run_eq_ok neighbourStore gatherPass (by decide +kernel)
  obtain ⟨configChanges, configRanAfter, configRan⟩ :=
    MemoryStore.exists_run_eq_ok neighbourStore configPass (by decide +kernel)
  obtain ⟨result, configResult, after, configAfter, last, configLast, first, firstThen, second,
    secondThen, -, same⟩ :=
      MemoryStore.run_pass_comm reachable rfl found configFound (by decide) disjoint
  cases ran.symm.trans first
  cases configRan.symm.trans second
  exact ⟨changes, configChanges, _, _, last, configLast, ran, firstThen, configRan, secondThen, same⟩

end Sample

end Caretaker
