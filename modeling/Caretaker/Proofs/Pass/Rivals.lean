import Caretaker.Proofs.Pass.Refusal

/-!
# Health services in one namespace

Two health services in one namespace ask for one child in common, the service in front of their
caches, however different the names are that they give (`Rivals`).  The one that is reconciled first
gets it and never loses it: all its passes succeed, while every pass over the other one brings about
its cache and is then refused (`MemoryStore.visits_of_rivals`).  Apart from that service they do not
disturb each other: whatever is there belongs to the one that asks for it.
-/

namespace Caretaker

/-- Passes over the health services with the given names, one after the other: what became of each,
and the store that is left. -/
def MemoryStore.visits (surroundings : Surroundings) (ns : String) :
    List String → MemoryStore → List (String × Except Error (List Change)) × MemoryStore
  | [], store => ([], store)
  | name :: rest, store =>
    let ran := store.run (pass surroundings .healthService ns name)
    let later := visits surroundings ns rest ran.2
    ((name, ran.1) :: later.1, later.2)

/-- Whether a health service is stored under the names that it gives, requires no blank name and has
nothing in the places of its children. -/
structure IsNew (store : MemoryStore) (ns name : String) (parent : HealthService) : Prop where
  found : store.object? (.parent .healthService) ns name = some parent
  nsGiven : parent.metadata.ns = some ns
  nameGiven : parent.metadata.name = some name
  given : ∀ entry ∈ requiredNames .healthService parent, isBlankText entry.2 = false
  absent : ∀ place ∈ childNames .healthService parent,
    store.object? (.child place.1) ns place.2 = none

/-- Whether two health services in one namespace are new and have nothing in common: neither their
names and uids nor the names that they give to their children. -/
structure Rivals (surroundings : Surroundings) (store : MemoryStore)
    (ns firstName secondName : String) (first second : HealthService) : Prop where
  reachable : store.Reachable
  quiet : store.Quiet
  works : surroundings.Works
  firstNew : IsNew store ns firstName first
  secondNew : IsNew store ns secondName second
  names : firstName ≠ secondName
  uids : first.metadata.uid ≠ second.metadata.uid
  distinct : (givenNames first ++ givenNames second).Nodup

/-- How two health services stand, of which the first one is reconciled first: everything in the
places of the first one belongs to it, and of the other one there is at most its cache. -/
structure Standoff (owner other : OwnerReference) (ns firstName secondName : String)
    (first second : HealthService) (store : MemoryStore) : Prop where
  firstStored : ∃ parent, Underway store parent ns firstName ∧ SameRequest first parent
  secondStored : ∃ parent, Underway store parent ns secondName ∧ SameRequest second parent
  isOpen : ∀ place ∈ childNames .healthService first, store.IsOpenTo owner ns place
  cacheOpen : store.IsOpenTo other ns (cachePlace second)
  absent : ∀ place ∈ childNames .healthService second, place ≠ cachePlace second →
    place ∉ childNames .healthService first → store.object? (.child place.1) ns place.2 = none

namespace Rivals

variable {surroundings : Surroundings} {store : MemoryStore} {ns firstName secondName : String}
  {first second : HealthService} {owner other : OwnerReference}

theorem symm (rivals : Rivals surroundings store ns firstName secondName first second) :
    Rivals surroundings store ns secondName firstName second first where
  reachable := rivals.reachable
  quiet := rivals.quiet
  works := rivals.works
  firstNew := rivals.secondNew
  secondNew := rivals.firstNew
  names := rivals.names.symm
  uids := rivals.uids.symm
  distinct := List.perm_append_comm.nodup_iff.mp rivals.distinct

/-- The cache of the second one is in no place of the first one. -/
theorem cachePlace_not_mem
    (rivals : Rivals surroundings store ns firstName secondName first second) :
    cachePlace second ∉ childNames .healthService first := by
  refine cachePlace_not_mem_childNames fun member => ?_
  have apart := (List.nodup_append.mp rivals.distinct).2.2 _ member
  exact apart _ (by simp [givenNames, requiredNames]) rfl

end Rivals

/-- A new health service can own children. -/
theorem IsNew.exists_owner {store : MemoryStore} {ns name : String} {parent : HealthService}
    (isNew : IsNew store ns name parent) (wellFormed : store.WellFormed) :
    ∃ owner, parent.controllerReference = .ok owner := by
  have stored := MemoryStore.isStored_of_object? wellFormed isNew.found
  obtain ⟨uid, hasUid⟩ := Option.isSome_iff_exists.mp stored.uid
  rw [Object.controllerReference, isNew.nameGiven, hasUid]
  exact ⟨_, rfl⟩

theorem IsNew.underway {store : MemoryStore} {ns name : String} {parent : HealthService}
    (isNew : IsNew store ns name parent) (quiet : store.Quiet) (wellFormed : store.WellFormed) :
    Underway store parent ns name :=
  ⟨quiet, wellFormed, (MemoryStore.object?_eq_some_iff wellFormed).mp isNew.found, isNew.nsGiven,
    isNew.nameGiven⟩

/-- Two new health services stand as before the first pass. -/
theorem Rivals.standoff {surroundings : Surroundings} {store : MemoryStore}
    {ns firstName secondName : String} {first second : HealthService}
    (rivals : Rivals surroundings store ns firstName secondName first second)
    (owner other : OwnerReference) :
    Standoff owner other ns firstName secondName first second store where
  firstStored :=
    ⟨first, rivals.firstNew.underway rivals.quiet rivals.reachable.wellFormed, .refl first⟩
  secondStored :=
    ⟨second, rivals.secondNew.underway rivals.quiet rivals.reachable.wellFormed, .refl second⟩
  isOpen place member := MemoryStore.isOpenTo_of_none (rivals.firstNew.absent place member)
  cacheOpen := MemoryStore.isOpenTo_of_none
    (rivals.secondNew.absent _ (cachePlace_mem_childNames second))
  absent place member _ _ := rivals.secondNew.absent place member

namespace Standoff

variable {surroundings : Surroundings} {start store : MemoryStore}
  {ns firstName secondName : String} {first second : HealthService} {owner other : OwnerReference}

/-- A pass over the first one succeeds, brings about all its children, and leaves every other child
alone. -/
theorem exists_run_first
    (standoff : Standoff owner other ns firstName secondName first second store)
    (rivals : Rivals surroundings start ns firstName secondName first second)
    (owns : first.controllerReference = .ok owner) :
    ∃ changes after,
      store.run (pass surroundings .healthService ns firstName) = (.ok changes, after) ∧
      Standoff owner other ns firstName secondName first second after ∧
      (∀ place ∈ childNames .healthService first, after.HasHeld owner ns place) ∧
      ∀ place ∉ childNames .healthService first,
        after.object? (.child place.1) ns place.2 = store.object? (.child place.1) ns place.2 := by
  obtain ⟨parent, underway, same⟩ := standoff.firstStored
  obtain ⟨changes, last, after, ran, underwayAfter, sameAfter, held⟩ :=
    MemoryStore.exists_run_pass_of_open underway (same.controllerReference_eq.trans owns)
      rivals.works (requiredNames_congr same ▸ rivals.firstNew.given)
      (childNames_congr same ▸ standoff.isOpen)
  rw [childNames_congr same] at held
  have frame (key : Key) (notOwn : key ∉ ownKeys surroundings parent ns firstName) :
      after.document? key = store.document? key := by
    have untouched := MemoryStore.document?_run_pass underway.quiet underway.wellFormed
      underway.object? notOwn
    rwa [ran] at untouched
  have elsewhere : ∀ place ∉ childNames .healthService first,
      after.object? (.child place.1) ns place.2 = store.object? (.child place.1) ns place.2 :=
    fun place notChild => MemoryStore.object?_congr (frame _
      (not_mem_ownKeys_of_not_mem_childNames underway.nsGiven (childNames_congr same ▸ notChild)))
  refine ⟨changes, after, ran, ⟨⟨last, underwayAfter, same.trans sameAfter⟩, ?_, ?_, ?_, ?_⟩, held,
    elsewhere⟩
  · obtain ⟨otherParent, otherUnderway, otherSame⟩ := standoff.secondStored
    exact ⟨otherParent, otherUnderway.of_document? underwayAfter.quiet underwayAfter.wellFormed
      (frame _ (not_mem_ownKeys_of_parent rivals.names.symm)), otherSame⟩
  · exact fun place member => (held place member).isOpenTo
  · exact standoff.cacheOpen.of_object? (elsewhere _ rivals.cachePlace_not_mem)
  · exact fun place member notCache notFirst =>
      (elsewhere place notFirst).trans (standoff.absent place member notCache notFirst)

/-- Once the first one holds its children, a pass over the other one brings about the cache and is
then refused. -/
theorem exists_run_second
    (standoff : Standoff owner other ns firstName secondName first second store)
    (rivals : Rivals surroundings start ns firstName secondName first second)
    (owns : first.controllerReference = .ok owner)
    (otherOwns : second.controllerReference = .ok other)
    (held : ∀ place ∈ childNames .healthService first, store.HasHeld owner ns place) :
    ∃ after, store.run (pass surroundings .healthService ns secondName) =
        (.error (.foreignController "HealthService" firstName), after) ∧
      Standoff owner other ns firstName secondName first second after ∧
      (∀ place ∈ childNames .healthService first, after.HasHeld owner ns place) ∧
      after.HasHeld other ns (cachePlace second) := by
  obtain ⟨parent, underway, same⟩ := standoff.secondStored
  have ownerName : owner.name = firstName := Option.some.inj
    ((Object.name_of_controllerReference owns).symm.trans rivals.firstNew.nameGiven)
  have apart : owner.uid ≠ other.uid := by
    intro sameUid
    refine rivals.uids ?_
    rw [Object.uid_of_controllerReference owns, sameUid,
      Object.uid_of_controllerReference otherOwns]
  -- The service in front of the caches is a child of the first one.
  obtain ⟨live, found, isHeld⟩ := held _ (memcachedService_mem_childNames first)
  have refused := isHeld.owned.refused apart
  rw [Object.kind_of_controllerReference owns, ownerName] at refused
  have spec : HealthService.spec parent = HealthService.spec second := same.spec
  have given : isBlankText (HealthService.spec parent).memcached.name = false := by
    rw [spec]
    exact rivals.secondNew.given _ List.mem_cons_self
  obtain ⟨last, after, ran, underwayAfter, sameAfter, cacheHeld, frame⟩ :=
    MemoryStore.exists_run_pass_of_refused surroundings underway
      (same.controllerReference_eq.trans otherOwns) given (cachePlace_congr same ▸ standoff.cacheOpen)
      found refused
  rw [cachePlace_congr same] at cacheHeld frame
  have elsewhere (place : ChildKind × String) (notCache : place ≠ cachePlace second) :
      after.object? (.child place.1) ns place.2 = store.object? (.child place.1) ns place.2 := by
    refine MemoryStore.object?_congr (frame _ (by simp) fun here => notCache ?_)
    simp only [Key.mk.injEq, Kind.child.injEq, true_and] at here
    exact Prod.ext here.1 here.2
  have heldAfter : ∀ place ∈ childNames .healthService first, after.HasHeld owner ns place :=
    fun place member => (held place member).of_object?
      (elsewhere place fun here => rivals.cachePlace_not_mem (here ▸ member))
  refine ⟨after, ran, ⟨?_, ⟨last, underwayAfter, same.trans sameAfter⟩, ?_, cacheHeld.isOpenTo, ?_⟩,
    heldAfter, cacheHeld⟩
  · obtain ⟨firstParent, firstUnderway, firstSame⟩ := standoff.firstStored
    refine ⟨firstParent, firstUnderway.of_document? underwayAfter.quiet underwayAfter.wellFormed
      (frame _ (fun here => rivals.names ?_) (by simp)), firstSame⟩
    cases here
    rfl
  · exact fun place member => (heldAfter place member).isOpenTo
  · exact fun place member notCache notFirst =>
      (elsewhere place notCache).trans (standoff.absent place member notCache notFirst)

/-- Whatever passes follow once the first one holds its children, those over it succeed and those
over the other one are refused, and they stand as before. -/
theorem visits (standoff : Standoff owner other ns firstName secondName first second store)
    (rivals : Rivals surroundings start ns firstName secondName first second)
    (owns : first.controllerReference = .ok owner)
    (otherOwns : second.controllerReference = .ok other)
    (held : ∀ place ∈ childNames .healthService first, store.HasHeld owner ns place)
    {turns : List String} (each : ∀ name ∈ turns, name = firstName ∨ name = secondName) :
    ∃ results after, store.visits surroundings ns turns = (results, after) ∧
      results.map Prod.fst = turns ∧
      (∀ entry ∈ results, entry.1 = firstName ∧ (∃ changes, entry.2 = .ok changes) ∨
        entry.1 = secondName ∧ entry.2 = .error (.foreignController "HealthService" firstName)) ∧
      Standoff owner other ns firstName secondName first second after ∧
      (∀ place ∈ childNames .healthService first, after.HasHeld owner ns place) ∧
      (secondName ∈ turns ∨ store.HasHeld other ns (cachePlace second) →
        after.HasHeld other ns (cachePlace second)) := by
  induction turns generalizing store with
  | nil =>
    exact ⟨[], store, rfl, rfl, List.forall_mem_nil _, standoff, held,
      fun came => came.resolve_left List.not_mem_nil⟩
  | cons name rest ih =>
    obtain ⟨here, later⟩ := List.forall_mem_cons.mp each
    rcases here with rfl | rfl
    · obtain ⟨changes, between, ran, standoffBetween, heldBetween, elsewhere⟩ :=
        standoff.exists_run_first rivals owns
      obtain ⟨results, after, visited, names, outcomes, standoffAfter, heldAfter, cacheHeld⟩ :=
        ih standoffBetween heldBetween later
      refine ⟨(name, .ok changes) :: results, after, ?_, congrArg (name :: ·) names,
        List.forall_mem_cons.mpr ⟨Or.inl ⟨rfl, changes, rfl⟩, outcomes⟩, standoffAfter, heldAfter,
        fun came => cacheHeld ?_⟩
      · rw [MemoryStore.visits, ran, visited]
      · rcases came with member | cacheBefore
        · exact Or.inl ((List.mem_cons.mp member).resolve_left rivals.names.symm)
        · exact Or.inr (cacheBefore.of_object? (elsewhere _ rivals.cachePlace_not_mem))
    · obtain ⟨between, ran, standoffBetween, heldBetween, cacheBetween⟩ :=
        standoff.exists_run_second rivals owns otherOwns held
      obtain ⟨results, after, visited, names, outcomes, standoffAfter, heldAfter, cacheHeld⟩ :=
        ih standoffBetween heldBetween later
      refine ⟨(name, .error _) :: results, after, ?_, congrArg (name :: ·) names,
        List.forall_mem_cons.mpr ⟨Or.inr ⟨rfl, rfl⟩, outcomes⟩, standoffAfter, heldAfter,
        fun _ => cacheHeld (Or.inr cacheBetween)⟩
      rw [MemoryStore.visits, ran, visited]

end Standoff

/-- Of two new health services in one namespace, the one that is reconciled first has all its passes
succeed, whatever the order of the others, and is the only owner of all its children, among them the
service in front of the caches.  Every pass over the other one fails, because that service has
another controller.  It has at most its cache of its own, which it alone owns, and has it once it
was reconciled. -/
theorem MemoryStore.visits_of_rivals {surroundings : Surroundings} {store : MemoryStore}
    {ns firstName secondName : String} {first second : HealthService}
    (rivals : Rivals surroundings store ns firstName secondName first second) {turns : List String}
    (each : ∀ name ∈ turns, name = firstName ∨ name = secondName) :
    ∃ owner other results after, first.controllerReference = .ok owner ∧
      second.controllerReference = .ok other ∧
      store.visits surroundings ns (firstName :: turns) = (results, after) ∧
      results.map Prod.fst = firstName :: turns ∧
      (∀ entry ∈ results, entry.1 = firstName ∧ (∃ changes, entry.2 = .ok changes) ∨
        entry.1 = secondName ∧ entry.2 = .error (.foreignController "HealthService" firstName)) ∧
      (∀ place ∈ childNames .healthService first, ∃ child,
        after.object? (.child place.1) ns place.2 = some child ∧ child.IsOwnedBy owner) ∧
      (∀ place ∈ childNames .healthService second, place ∉ childNames .healthService first →
        ∀ child, after.object? (.child place.1) ns place.2 = some child →
          place = cachePlace second ∧ child.IsOwnedBy other) ∧
      (secondName ∈ turns →
        (after.object? (.child (cachePlace second).1) ns (cachePlace second).2).isSome) := by
  obtain ⟨owner, owns⟩ := rivals.firstNew.exists_owner rivals.reachable.wellFormed
  obtain ⟨other, otherOwns⟩ := rivals.secondNew.exists_owner rivals.reachable.wellFormed
  obtain ⟨changes, between, ran, standoff, held, -⟩ :=
    (rivals.standoff owner other).exists_run_first rivals owns
  obtain ⟨results, after, visited, names, outcomes, standoffAfter, heldAfter, cacheHeld⟩ :=
    standoff.visits rivals owns otherOwns held each
  refine ⟨owner, other, (firstName, .ok changes) :: results, after, owns, otherOwns, ?_,
    congrArg (firstName :: ·) names,
    List.forall_mem_cons.mpr ⟨Or.inl ⟨rfl, changes, rfl⟩, outcomes⟩, ?_, ?_, fun came => ?_⟩
  · rw [visits, ran, visited]
  · intro place member
    obtain ⟨child, found, isHeld⟩ := heldAfter place member
    exact ⟨child, found, isHeld.owned⟩
  · intro place member notFirst child found
    by_cases isCache : place = cachePlace second
    · cases isCache
      exact ⟨rfl, (standoffAfter.cacheOpen child found).owned⟩
    · cases (standoffAfter.absent place member isCache notFirst).symm.trans found
  · obtain ⟨child, found, -⟩ := cacheHeld (Or.inl came)
    exact Option.isSome_iff_exists.mpr ⟨child, found⟩

section Sample

/-- A health service that gives names of its own to its children. -/
def rivalParent (name : String) : HealthService :=
  ⟨{ name := some name, ns := some "kube-system" },
    ({ spec := {
      memcached := { name := name ++ "-cache" }
      healthService := { name := name ++ "-check", configmapName := name ++ "-names" } } } :
      Observed HealthServiceSpec HealthServiceStatus)⟩

/-- A store with two such health services. -/
def rivalStore : MemoryStore :=
  (MemoryStore.insert {} (rivalParent "left")).insert (rivalParent "right")

/-- The two health services are rivals. -/
theorem rivals_rivalStore : Rivals sampleSurroundings rivalStore "kube-system" "left" "right"
    ((rivalParent "left").numbered "uid-1") ((rivalParent "right").numbered "uid-2") := by
  have reachable : rivalStore.Reachable := (MemoryStore.Reachable.empty.insert _).insert _
  have found {name : String} {parent : HealthService}
      (stored : rivalStore.document? ⟨.parent .healthService, "kube-system", name⟩ =
        some parent.encode) :
      rivalStore.object? (.parent .healthService) "kube-system" name = some parent :=
    (MemoryStore.object?_eq_some_iff reachable.wellFormed).mpr stored
  have absent (parent : HealthService)
      (none : ∀ place ∈ childNames .healthService parent,
        rivalStore.document? ⟨.child place.1, "kube-system", place.2⟩ = none) :
      ∀ place ∈ childNames .healthService parent,
        rivalStore.object? (.child place.1) "kube-system" place.2 = Option.none :=
    fun place member =>
      (MemoryStore.object?_eq_none_iff reachable.wellFormed).mpr (none place member)
  refine ⟨reachable, rfl, ⟨_, rfl, List.forall_mem_nil _⟩, ?_, ?_, by decide, by decide,
    by decide +kernel⟩
  · exact ⟨found (by decide +kernel), rfl, rfl, by decide +kernel, absent _ (by decide +kernel)⟩
  · exact ⟨found (by decide +kernel), rfl, rfl, by decide +kernel, absent _ (by decide +kernel)⟩

/-- The right one is reconciled first and again at last, and the left one in between: the left one
alone is refused. -/
theorem visits_of_right_and_left :
    ∃ results after, rivalStore.visits sampleSurroundings "kube-system" ["right", "left", "right"] =
        (results, after) ∧
      results.map Prod.fst = ["right", "left", "right"] ∧
      ∀ entry ∈ results, entry.1 = "right" ∧ (∃ changes, entry.2 = .ok changes) ∨
        entry.1 = "left" ∧ entry.2 = .error (.foreignController "HealthService" "right") := by
  have each : ∀ name ∈ ["left", "right"], name = "right" ∨ name = "left" := by decide
  obtain ⟨-, -, results, after, -, -, visited, names, outcomes, -⟩ :=
    MemoryStore.visits_of_rivals rivals_rivalStore.symm each
  exact ⟨results, after, visited, names, outcomes⟩

/-- The two health services have no name in common, and still not both of their passes succeed. -/
theorem rivals_not_all_served :
    Rivals sampleSurroundings rivalStore "kube-system" "left" "right"
        ((rivalParent "left").numbered "uid-1") ((rivalParent "right").numbered "uid-2") ∧
      ¬ ∀ entry ∈ (rivalStore.visits sampleSurroundings "kube-system" ["left", "right"]).1,
        ∃ changes, entry.2 = .ok changes := by
  have rivals := rivals_rivalStore
  obtain ⟨owner, owns⟩ := rivals.firstNew.exists_owner rivals.reachable.wellFormed
  obtain ⟨other, otherOwns⟩ := rivals.secondNew.exists_owner rivals.reachable.wellFormed
  obtain ⟨changes, between, ran, standoff, held, -⟩ :=
    (rivals.standoff owner other).exists_run_first rivals owns
  obtain ⟨after, refused, -⟩ := standoff.exists_run_second rivals owns otherOwns held
  refine ⟨rivals, fun served => ?_⟩
  simp only [MemoryStore.visits, ran, refused] at served
  obtain ⟨changes, succeeded⟩ := served _ (List.mem_cons_of_mem _ (List.mem_singleton_self _))
  cases succeeded

end Sample

end Caretaker
