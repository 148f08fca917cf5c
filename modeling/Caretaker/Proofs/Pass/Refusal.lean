import Caretaker.Proofs.Pass.Possession

/-!
# Passes that are refused the service of the cache

Whatever names a health service gives, the service in front of its cache is always called the same
(`Build.memcachedServiceName`).  If another owner controls that service, a pass over the health
service brings about its cache and is then refused, and writes nothing else but the status
(`MemoryStore.exists_run_pass_of_refused`).
-/

namespace Caretaker

section Prefix

variable {kind : ParentKind} {owner : OwnerReference} {base parent last : Object (.parent kind)}
  {ns name : String} {first : List (Step kind)} {store after : MemoryStore} {changes : List Change}

/-- Steps fail if they begin with steps that are performed and the others then fail. -/
theorem Performed.run_append_of_error
    (performed : Performed owner base ns name first parent store changes last after)
    (before : Underway store parent ns name) (same : SameRequest base parent)
    (stable : ∀ step ∈ first, step.IsStable) {later : List (Step kind)} {error : Error}
    {final : MemoryStore}
    (failed : after.run (performSteps owner later last) = (.error error, final)) :
    store.run (performSteps owner (first ++ later) parent) = (.error error, final) := by
  induction performed with
  | nil => exact failed
  | child built nsGiven nameGiven result rest ih =>
    obtain ⟨here, stableRest⟩ := List.forall_mem_cons.mp stable
    have builtHere := (here base _ same).symm.trans built
    have restFailed := ih (before.leave nsGiven nameGiven result) same stableRest failed
    rw [List.cons_append, MemoryStore.run_performSteps_of_built before.quiet before.wellFormed
      builtHere nsGiven nameGiven, result]
    simp only [restFailed]
    rfl
  | @report list labels _ inHand _ between _ _ rest ih =>
    obtain ⟨here, stableRest⟩ := List.forall_mem_cons.mp stable
    have restFailed := ih (before.report list (labels base)) (same.trans (.reported list _ inHand))
      stableRest failed
    rw [List.cons_append, MemoryStore.run_performSteps_report before, ← here base inHand same]
    exact restFailed

end Prefix

/-- The place of the cache of a health service. -/
def cachePlace (parent : HealthService) : ChildKind × String :=
  ((HealthService.spec parent).memcached.workload.childKind,
    (HealthService.spec parent).memcached.name)

/-- The names that a health service gives to its children. -/
def givenNames (parent : HealthService) : List String :=
  (requiredNames .healthService parent).map Prod.snd

section Names

variable {parent other : HealthService}

theorem cachePlace_congr (same : SameRequest parent other) :
    cachePlace other = cachePlace parent := by
  have spec : HealthService.spec other = HealthService.spec parent := same.spec
  simp only [cachePlace, spec]

/-- Every health service asks for the service in front of its cache. -/
theorem memcachedService_mem_childNames (parent : HealthService) :
    (.service, Build.memcachedServiceName) ∈ childNames .healthService parent := by
  simp [childNames, Build.memcachedServiceName]

theorem cachePlace_mem_childNames (parent : HealthService) :
    cachePlace parent ∈ childNames .healthService parent := by
  simp [childNames, cachePlace]

/-- No service is in the place of a cache. -/
theorem service_ne_cachePlace (parent : HealthService) (ns name : String) :
    (⟨.child .service, ns, name⟩ : Key) ≠
      ⟨.child (cachePlace parent).1, ns, (cachePlace parent).2⟩ := by
  cases workload : (HealthService.spec parent).memcached.workload <;>
    simp [cachePlace, workload, MemcachedWorkload.childKind]

/-- A cache is in no place of a health service that does not give its name. -/
theorem cachePlace_not_mem_childNames
    (foreign : (HealthService.spec other).memcached.name ∉ givenNames parent) :
    cachePlace other ∉ childNames .healthService parent := by
  simp only [givenNames, requiredNames, List.map_cons, List.map_nil, List.mem_cons,
    List.not_mem_nil, or_false, not_or] at foreign
  obtain ⟨notCache, notCheck, -⟩ := foreign
  cases workload : (HealthService.spec other).memcached.workload <;>
    simp_all [cachePlace, childNames, MemcachedWorkload.childKind]

end Names

/-- A pass over a health service begins with its cache, a report of it and the service in front of
it. -/
theorem exists_stepsWith_eq_cache (surroundings : Surroundings) (defaultClass : String)
    (parent : HealthService) :
    ∃ build rest, stepsWith surroundings defaultClass .healthService parent =
        [.child (cachePlace parent).1 build, .report .memcachedNodes Build.memcachedLabels] ++
          .child .service Build.memcachedService :: rest ∧
      ∀ ns, parent.metadata.ns = some ns →
        Builds [("spec.memcached.name", (HealthService.spec parent).memcached.name)] (.ok none) ns
          (cachePlace parent).2 (build parent) := by
  simp only [stepsWith, cachePlace, healthServiceSteps]
  cases (HealthService.spec parent).memcached.workload with
  | deployment =>
    exact ⟨_, _, rfl, fun ns given => builds_memcachedDeployment given surroundings.images⟩
  | statefulSet =>
    exact ⟨_, _, rfl, fun ns given => builds_memcachedStatefulSet given surroundings.images⟩

section Cache

variable {store : MemoryStore} {parent : HealthService} {owner : OwnerReference}
  {ns name : String}

/-- A health service brings about its cache in a place that is open to it, and writes nothing else
but its status. -/
theorem exists_performed_cache {build : HealthService → Except Error (Child (cachePlace parent).1)}
    (owns : parent.controllerReference = .ok owner) (before : Underway store parent ns name)
    (builds : Builds [("spec.memcached.name", (HealthService.spec parent).memcached.name)]
      (.ok none) ns (cachePlace parent).2 (build parent))
    (given : isBlankText (HealthService.spec parent).memcached.name = false)
    (isOpen : store.IsOpenTo owner ns (cachePlace parent)) :
    ∃ changes last after, Performed owner parent ns name
        [.child (cachePlace parent).1 build, .report .memcachedNodes Build.memcachedLabels] parent
        store changes last after ∧
      after.HasHeld owner ns (cachePlace parent) ∧
      ∀ key : Key, key ≠ ⟨.parent .healthService, ns, name⟩ →
        key ≠ ⟨.child (cachePlace parent).1, ns, (cachePlace parent).2⟩ →
        after.document? key = store.document? key := by
  obtain ⟨cache, built, cacheNs, cacheName, takes⟩ := builds.exists_owned
    (List.forall_mem_singleton.mpr given) rfl (List.forall_mem_nil _) owner
  have ownable : ∀ step ∈ [Step.child (cachePlace parent).1 build,
      .report .memcachedNodes Build.memcachedLabels],
      step.IsOwnable owner parent ns [cachePlace parent] :=
    List.forall_mem_cons.mpr
      ⟨⟨cache, _, built, cacheNs, cacheName, List.mem_singleton_self _, takes⟩,
        List.forall_mem_singleton.mpr trivial⟩
  obtain ⟨changes, last, after, performed, openAfter⟩ := exists_performed owns before ownable
    (List.forall_mem_singleton.mpr isOpen)
  refine ⟨changes, last, after, performed, ?_, fun key notParent notCache => ?_⟩
  · exact performed.hasHeld before List.mem_cons_self built cacheNs cacheName
      (openAfter _ (List.mem_singleton_self _))
  · refine performed.document?_of_not_mem before
      (builtBy_child_eq_ok.mpr ⟨cache, [], built, rfl, rfl⟩) notParent fun member => notCache ?_
    rw [List.mem_singleton.mp member, SomeChild.key]
    exact Object.key_of_some cacheNs cacheName

end Cache

namespace MemoryStore

variable {store : MemoryStore} {owner : OwnerReference} {ns name : String}

/-- A child that is there and does not take the owner ends a pass. -/
theorem run_performSteps_of_refused {kind : ParentKind} {parent : Object (.parent kind)}
    {childKind : ChildKind} {build : Object (.parent kind) → Except Error (Child childKind)}
    {desired live : Child childKind} {childNs childName : String} {error : Error}
    (underway : Underway store parent ns name) (built : build parent = .ok desired)
    (nsGiven : desired.metadata.ns = some childNs)
    (nameGiven : desired.metadata.name = some childName)
    (isMutable : childKind.isCreateOnly = false)
    (found : store.object? (.child childKind) childNs childName = some live)
    (refused : live.attachOwner owner = .error error) (rest : List (Step kind)) :
    store.run (performSteps owner (.child childKind build :: rest) parent) =
      (.error error, store.called .get (.child childKind) childName) := by
  rw [run_performSteps_of_built underway.quiet underway.wellFormed built nsGiven nameGiven, found,
    converged_of_refused isMutable refused]

/-- If the service in front of the caches does not take a health service as its owner, a pass over
that health service fails after it has brought about the cache, and writes nothing else but the
status. -/
theorem exists_run_pass_of_refused {parent : HealthService} (surroundings : Surroundings)
    (underway : Underway store parent ns name) (owns : parent.controllerReference = .ok owner)
    (given : isBlankText (HealthService.spec parent).memcached.name = false)
    (isOpen : store.IsOpenTo owner ns (cachePlace parent)) {live : Child .service} {error : Error}
    (found : store.object? (.child .service) ns Build.memcachedServiceName = some live)
    (refused : live.attachOwner owner = .error error) :
    ∃ last after, store.run (pass surroundings .healthService ns name) = (.error error, after) ∧
      Underway after last ns name ∧ SameRequest parent last ∧
      after.HasHeld owner ns (cachePlace parent) ∧
      ∀ key : Key, key ≠ ⟨.parent .healthService, ns, name⟩ →
        key ≠ ⟨.child (cachePlace parent).1, ns, (cachePlace parent).2⟩ →
        after.document? key = store.document? key := by
  obtain ⟨calls, -, -, ran⟩ := run_pass_of_some underway.quiet underway.wellFormed surroundings
    underway.object?
  have before : Underway (store.reading calls) parent ns name :=
    underway.of_document? underway.quiet underway.wellFormed rfl
  obtain ⟨build, rest, split, builds⟩ := exists_stepsWith_eq_cache surroundings
    (store.classFor ns .healthService parent) parent
  have stable := isStable_stepsWith surroundings (store.classFor ns .healthService parent) parent
  rw [split] at stable
  obtain ⟨stableFirst, stableRest⟩ := List.forall_mem_append.mp stable
  obtain ⟨changes, last, after, performed, held, frame⟩ :=
    exists_performed_cache owns before (builds ns underway.nsGiven) given isOpen
  have underwayAfter := performed.underway before
  -- The service is built as it was for the parent that was read, and found as it was before.
  have sameBuilt : Build.memcachedService parent = Build.memcachedService last :=
    stableRest _ List.mem_cons_self parent last performed.sameRequest
  obtain ⟨service, built, serviceNs, serviceName, -⟩ :=
    (builds_memcachedService underway.nsGiven).exists_owned (List.forall_mem_singleton.mpr given)
      rfl (List.forall_mem_nil _) owner
  have foundAfter : after.object? (.child .service) ns Build.memcachedServiceName = some live :=
    (object?_congr (frame _ (by simp) (service_ne_cachePlace parent ns _))).trans found
  have failed := run_performSteps_of_refused underwayAfter (sameBuilt.symm.trans built) serviceNs
    serviceName rfl foundAfter refused rest
  rw [owns, split] at ran
  exact ⟨last, after.called .get (.child .service) Build.memcachedServiceName,
    ran.trans (performed.run_append_of_error before (.refl parent) stableFirst failed),
    underwayAfter.of_document? underwayAfter.quiet underwayAfter.wellFormed rfl,
    performed.sameRequest, held, frame⟩

end MemoryStore

end Caretaker
