import Caretaker.Proofs.Pass.Steps

/-!
# Runs of a pass

A pass over a quiet store that finds its parent asks for whatever its steps depend on, which changes
nothing (`MemoryStore.run_steps`), and then succeeds exactly if all of its steps can be performed
(`MemoryStore.run_pass_eq_ok`).
-/

namespace Caretaker

/-- The name of the claim of a must-gather service. -/
def claimOf (parent : MustGatherService) : String := parent.spec.persistentVolumeClaim.name

/-- Whether a must-gather service names no storage class: it gives none, or the empty text. -/
def NamesNoClass (parent : MustGatherService) : Prop :=
  parent.spec.persistentVolumeClaim.storageClassName = none ∨
    parent.spec.persistentVolumeClaim.storageClassName = some ""

/-- Whether a pass has to ask for a storage class: the parent names none, and the name of its claim
is not blank. -/
def NeedsClass (parent : MustGatherService) : Prop :=
  NamesNoClass parent ∧ ∃ char ∈ (claimOf parent).toList, isWhiteSpace char = false

section Class

variable {parent : MustGatherService} {name : String}

theorem filter_of_names
    (names : parent.spec.persistentVolumeClaim.storageClassName = some name) (proper : name ≠ "") :
    parent.spec.persistentVolumeClaim.storageClassName.filter (· ≠ "") = some name := by
  rw [names, Option.filter_some, if_pos (decide_eq_true proper)]

theorem filter_of_namesNoClass (unnamed : NamesNoClass parent) :
    parent.spec.persistentVolumeClaim.storageClassName.filter (· ≠ "") = none := by
  rcases unnamed with absent | empty
  · rw [absent, Option.filter_none]
  · rw [empty, Option.filter_some]
    rfl

theorem names_or_namesNoClass (parent : MustGatherService) :
    (∃ name, parent.spec.persistentVolumeClaim.storageClassName = some name ∧ name ≠ "") ∨
      NamesNoClass parent := by
  cases given : parent.spec.persistentVolumeClaim.storageClassName with
  | none => exact Or.inr (Or.inl given)
  | some name =>
    by_cases empty : name = ""
    · exact Or.inr (Or.inr (given.trans (congrArg some empty)))
    · exact Or.inl ⟨name, rfl, empty⟩

theorem not_namesNoClass
    (names : parent.spec.persistentVolumeClaim.storageClassName = some name) (proper : name ≠ "") :
    ¬NamesNoClass parent := by
  rintro (absent | empty)
  · cases names.symm.trans absent
  · exact proper (Option.some.inj (names.symm.trans empty))

theorem not_needsClass_of_blank (blank : isBlankText (claimOf parent) = true) :
    ¬NeedsClass parent := by
  rintro ⟨-, named⟩
  cases blank.symm.trans (isBlankText_eq_false_iff.mpr named)

end Class

/-- A class that is named is taken; if one is needed, a pass asks for the claim first, and then for
the classes. -/
theorem classForClaim_cases (parent : MustGatherService) (ns : String) :
    (∃ name, parent.spec.persistentVolumeClaim.storageClassName = some name ∧ name ≠ "" ∧
        classForClaim parent ns = .done (.ok name)) ∨
      (NamesNoClass parent ∧ isBlankText (claimOf parent) = true ∧
        classForClaim parent ns = .done (.ok "")) ∨
      NeedsClass parent ∧ ∃ next,
        classForClaim parent ns =
          .ask (.get (.child .persistentVolumeClaim) ns (claimOf parent)) next ∧
        (∀ claim, next (.ok claim) = .done (.ok "")) ∧
        ∀ error, next (.error error) =
          if error.isNotFound then
            .ask .listStorageClasses fun reply => .done (reply.map Build.defaultStorageClass)
          else .done (.error error) := by
  unfold classForClaim
  dsimp only
  rcases names_or_namesNoClass parent with ⟨name, names, proper⟩ | unnamed
  · rw [filter_of_names names proper]
    exact Or.inl ⟨name, names, proper, rfl⟩
  rw [filter_of_namesNoClass unnamed]
  dsimp only
  split
  · next blank => exact Or.inr (Or.inl ⟨unnamed, blank, rfl⟩)
  · next named =>
    have needs : NeedsClass parent :=
      ⟨unnamed, isBlankText_eq_false_iff.mp (eq_false_of_ne_true named)⟩
    refine Or.inr (Or.inr ⟨needs, _, rfl, fun _ => rfl, fun error => ?_⟩)
    show (if error.isNotFound then _ else _) = _
    split
    · exact congrArg (Program.ask _) (funext fun reply => by cases reply <;> rfl)
    · rfl

namespace MemoryStore

variable {kind : ParentKind}

/-- The store with more recorded calls. -/
def reading (store : MemoryStore) (calls : List Call) : MemoryStore :=
  { store with calls := store.calls ++ calls }

theorem called_reading (store : MemoryStore) (calls : List Call) (verb : Verb) (kind : Kind)
    (name : String) :
    (store.reading calls).called verb kind name =
      store.reading (calls ++ [⟨verb, kind, name⟩]) := by
  simp only [reading, called, List.append_assoc]

/-- The class for the claim of a must-gather service: the one that it names, else one of the store;
a claim that has no name or is there needs none. -/
def claimClass (store : MemoryStore) (ns : String) (parent : MustGatherService) : String :=
  let claim := parent.spec.persistentVolumeClaim
  match claim.storageClassName.filter (· ≠ "") with
  | some name => name
  | none =>
    if isBlankText claim.name ||
        (store.object? (.child .persistentVolumeClaim) ns claim.name).isSome then ""
    else Build.defaultStorageClass store.storageClasses

/-- The class that the steps of a pass are made for. -/
def classFor (store : MemoryStore) (ns : String) :
    (kind : ParentKind) → Object (.parent kind) → String
  | .mustGatherService, parent => store.claimClass ns parent
  | .healthService, _ | .mustGatherJob, _ | .mustGatherConfig, _ => ""

/-- The class for a claim depends on the claim and on the storage classes alone. -/
theorem Alike.classFor {left right : MemoryStore} (alike : Alike left right) (ns : String)
    (parent : Object (.parent kind)) : left.classFor ns kind parent = right.classFor ns kind parent := by
  cases kind with
  | mustGatherService =>
    have claims (name : String) : (left.object? (.child .persistentVolumeClaim) ns name).isSome =
        (right.object? (.child .persistentVolumeClaim) ns name).isSome := by
      have same := congrArg Option.isSome (alike.children .persistentVolumeClaim ns name)
      rwa [child?, child?, Option.isSome_map, Option.isSome_map] at same
    simp only [MemoryStore.classFor, claimClass, claims, alike.storageClasses]
  | healthService => rfl
  | mustGatherJob => rfl
  | mustGatherConfig => rfl

variable {store : MemoryStore}

theorem claimClass_of_names {parent : MustGatherService} {name : String}
    (names : parent.spec.persistentVolumeClaim.storageClassName = some name) (proper : name ≠ "")
    (ns : String) : store.claimClass ns parent = name := by
  rw [claimClass, filter_of_names names proper]

theorem claimClass_of_blank {parent : MustGatherService} (unnamed : NamesNoClass parent)
    (blank : isBlankText (claimOf parent) = true) (ns : String) :
    store.claimClass ns parent = "" := by
  have isBlank : isBlankText parent.spec.persistentVolumeClaim.name = true := blank
  rw [claimClass, filter_of_namesNoClass unnamed]
  simp only [isBlank, Bool.true_or, if_true]

theorem claimClass_of_needed {parent : MustGatherService} (needs : NeedsClass parent)
    (ns : String) : store.claimClass ns parent =
      if (store.object? (.child .persistentVolumeClaim) ns (claimOf parent)).isSome then ""
      else Build.defaultStorageClass store.storageClasses := by
  obtain ⟨unnamed, named⟩ := needs
  have given : isBlankText parent.spec.persistentVolumeClaim.name = false :=
    isBlankText_eq_false_iff.mpr named
  rw [claimClass, filter_of_namesNoClass unnamed]
  simp only [given, Bool.false_or]
  rfl

theorem run_classForClaim (quiet : store.Quiet) (wellFormed : store.WellFormed) (ns : String)
    (parent : MustGatherService) :
    ∃ calls, store.run (classForClaim parent ns) =
        (.ok (store.claimClass ns parent), store.reading calls) ∧
      ∀ call ∈ calls, call.verb.isWrite = false := by
  have running := quiet.fails .get (.child .persistentVolumeClaim)
  rcases classForClaim_cases parent ns with ⟨name, names, proper, ends⟩ |
    ⟨unnamed, blank, ends⟩ | ⟨needs, next, asks, found, missing⟩
  · refine ⟨[], ?_, nofun⟩
    rw [ends, claimClass_of_names names proper, reading, List.append_nil]
    rfl
  · refine ⟨[], ?_, nofun⟩
    rw [ends, claimClass_of_blank unnamed blank, reading, List.append_nil]
    rfl
  rw [asks, run, claimClass_of_needed needs]
  cases there : store.object? (.child .persistentVolumeClaim) ns (claimOf parent) with
  | some claim =>
    refine ⟨[⟨.get, .child .persistentVolumeClaim, claimOf parent⟩], ?_,
      List.forall_mem_singleton.mpr rfl⟩
    have ends : next (.ok claim) = .done (.ok "") := found claim
    rw [Program.run_ask_of (answer_get_of_found wellFormed running there), ends]
    rfl
  | none =>
    refine ⟨[⟨.get, .child .persistentVolumeClaim, claimOf parent⟩, ⟨.list, .storageClass, ""⟩],
      ?_, List.forall_mem_cons.mpr ⟨rfl, List.forall_mem_singleton.mpr rfl⟩⟩
    have wellFormedCalled : (store.called .get (.child .persistentVolumeClaim)
        (claimOf parent)).WellFormed := wellFormed
    have listed : (store.called .get (.child .persistentVolumeClaim) (claimOf parent)).answer
        .listStorageClasses = _ := listStorageClasses_of_quiet quiet wellFormedCalled
    rw [Program.run_ask_of (answer_get_of_absent wellFormed running there), missing,
      if_pos (by rfl), Program.run_ask_of listed]
    exact Prod.ext rfl (called_reading store [⟨.get, .child .persistentVolumeClaim, claimOf parent⟩]
      .list .storageClass "")

/-- What a pass depends on besides its parent is read without a write. -/
theorem run_steps (quiet : store.Quiet) (wellFormed : store.WellFormed)
    (surroundings : Surroundings) (ns : String) (parent : Object (.parent kind)) :
    ∃ calls, store.run (steps surroundings ns kind parent) =
        (.ok (stepsWith surroundings (store.classFor ns kind parent) kind parent),
          store.reading calls) ∧
      ∀ call ∈ calls, call.verb.isWrite = false := by
  have nothing : store.reading [] = store := by
    rw [reading, List.append_nil]
  cases kind with
  | mustGatherService =>
    obtain ⟨calls, ran, reads⟩ := run_classForClaim quiet wellFormed ns parent
    refine ⟨calls, ?_, reads⟩
    simp only [steps, run_bind, ran, run_pure]
    rfl
  | healthService => exact ⟨[], by rw [nothing]; rfl, nofun⟩
  | mustGatherJob => exact ⟨[], by rw [nothing]; rfl, nofun⟩
  | mustGatherConfig => exact ⟨[], by rw [nothing]; rfl, nofun⟩

theorem run_fetchParent (quiet : store.Quiet) (wellFormed : store.WellFormed)
    (kind : ParentKind) (ns name : String) :
    store.run (fetchParent kind ns name) =
      (.ok (store.object? (.parent kind) ns name), store.called .get (.parent kind) name) := by
  refine (run_bind store (Program.attempt _) _).trans ?_
  rw [run_attempt, answer, get_of_quiet quiet wellFormed]
  cases store.object? (.parent kind) ns name <;> rfl

/-- A pass whose parent is gone needs nothing. -/
theorem run_pass_of_none (quiet : store.Quiet) (wellFormed : store.WellFormed)
    (surroundings : Surroundings) {ns name : String}
    (gone : store.object? (.parent kind) ns name = none) :
    store.run (pass surroundings kind ns name) =
      (.ok [], store.called .get (.parent kind) name) := by
  rw [pass, run_bind, run_fetchParent quiet wellFormed, gone]
  rfl

end MemoryStore

/-- Whether a pass that finds its parent has come to its steps, for which the store has only answered
reads. -/
structure Began {kind : ParentKind} (surroundings : Surroundings) (store : MemoryStore)
    (parent : Object (.parent kind)) (owner : OwnerReference) (ns name : String)
    (between : MemoryStore) : Prop where
  underway : Underway store parent ns name
  owns : parent.controllerReference = .ok owner
  reads : ∃ calls, between = store.reading calls ∧ ∀ call ∈ calls, call.verb.isWrite = false
  ran : (store.called .get (.parent kind) name).run (steps surroundings ns kind parent) =
    (.ok (stepsWith surroundings (store.classFor ns kind parent) kind parent), between)

namespace Began

variable {kind : ParentKind} {surroundings : Surroundings} {store between : MemoryStore}
  {parent : Object (.parent kind)} {owner : OwnerReference} {ns name : String}

theorem alike (began : Began surroundings store parent owner ns name between) :
    MemoryStore.Alike store between := by
  obtain ⟨calls, rfl, -⟩ := began.reads
  exact .of_objects rfl rfl

theorem underway_between (began : Began surroundings store parent owner ns name between) :
    Underway between parent ns name := by
  obtain ⟨calls, rfl, -⟩ := began.reads
  obtain ⟨quiet, wellFormed, stored, nsGiven, nameGiven⟩ := began.underway
  exact ⟨quiet, wellFormed, stored, nsGiven, nameGiven⟩

end Began

namespace MemoryStore

variable {kind : ParentKind} {store after : MemoryStore} {parent : Object (.parent kind)}
  {owner : OwnerReference} {ns name : String} {changes : List Change}

/-- A pass that finds its parent performs its steps after some reads. -/
theorem run_pass_of_some (quiet : store.Quiet) (wellFormed : store.WellFormed)
    (surroundings : Surroundings) (found : store.object? (.parent kind) ns name = some parent) :
    ∃ calls, (∀ call ∈ calls, call.verb.isWrite = false) ∧
      (store.called .get (.parent kind) name).run (steps surroundings ns kind parent) =
        (.ok (stepsWith surroundings (store.classFor ns kind parent) kind parent),
          store.reading calls) ∧
      store.run (pass surroundings kind ns name) =
        match parent.controllerReference with
        | .error error => (.error error, store.called .get (.parent kind) name)
        | .ok owner => (store.reading calls).run (performSteps owner
            (stepsWith surroundings (store.classFor ns kind parent) kind parent) parent) := by
  have between : (store.called .get (.parent kind) name).WellFormed := wellFormed
  have quietBetween : (store.called .get (.parent kind) name).Quiet := quiet
  obtain ⟨calls, ran, reads⟩ := run_steps quietBetween between surroundings ns parent
  have same : (store.called .get (.parent kind) name).reading calls =
      store.reading (⟨.get, .parent kind, name⟩ :: calls) := by
    simp [reading, called]
  have sameClass : (store.called .get (.parent kind) name).classFor ns kind parent =
      store.classFor ns kind parent := Alike.classFor (.of_objects rfl rfl) ns parent
  rw [same, sameClass] at ran
  refine ⟨⟨.get, .parent kind, name⟩ :: calls, List.forall_mem_cons.mpr ⟨rfl, reads⟩, ran, ?_⟩
  rw [pass, run_bind, run_fetchParent quiet wellFormed, found]
  simp only [run_bind, run_ofExcept]
  cases parent.controllerReference with
  | error error => rfl
  | ok owner =>
    simp only
    rw [ran]

/-- A pass that succeeds finds a parent that gives its namespace and its name, or none at all. -/
theorem underway_of_run_pass (quiet : store.Quiet) (wellFormed : store.WellFormed)
    {surroundings : Surroundings} (found : store.object? (.parent kind) ns name = some parent)
    (ran : store.run (pass surroundings kind ns name) = (.ok changes, after)) :
    Underway store parent ns name ∧ ∃ owner, parent.controllerReference = .ok owner := by
  have stored := isStored_of_object? wellFormed found
  obtain ⟨calls, -, -, same⟩ := run_pass_of_some quiet wellFormed surroundings found
  rw [same] at ran
  cases owns : parent.controllerReference with
  | error error =>
    rw [owns] at ran
    cases ran
  | ok owner =>
    rw [owns] at ran
    obtain ⟨childKind, build, rest, first⟩ := exists_stepsWith_eq_child surroundings
      (store.classFor ns kind parent) parent
    simp only [first, performSteps, run_bind_eq_ok, run_ofExcept, Prod.mk.injEq] at ran
    obtain ⟨desired, -, ⟨built, -⟩, -⟩ := ran
    obtain ⟨nsGiven, nameGiven⟩ := stored.given owns first built
    exact ⟨⟨quiet, wellFormed, (object?_eq_some_iff wellFormed).mp found, nsGiven, nameGiven⟩,
      owner, rfl⟩

/-- A pass over a parent that gives its namespace and its name succeeds exactly if its steps can be
performed after some reads. -/
theorem run_pass_eq_ok (underway : Underway store parent ns name)
    (owns : parent.controllerReference = .ok owner) (surroundings : Surroundings) :
    ∃ between, Began surroundings store parent owner ns name between ∧
      ∀ changes after, store.run (pass surroundings kind ns name) = (.ok changes, after) ↔
        ∃ last, Performed owner parent ns name
          (stepsWith surroundings (store.classFor ns kind parent) kind parent) parent between
          changes last after := by
  obtain ⟨calls, reads, ran, same⟩ := run_pass_of_some underway.quiet underway.wellFormed
    surroundings underway.object?
  rw [owns] at same
  have began : Began surroundings store parent owner ns name (store.reading calls) :=
    ⟨underway, owns, ⟨calls, rfl, reads⟩, ran⟩
  refine ⟨store.reading calls, began, fun changes after => ?_⟩
  rw [same]
  exact run_performSteps_eq_ok began.underway_between (.refl parent)
    (isStable_stepsWith surroundings _ parent)

/-- A program that succeeds leaves a store. -/
theorem exists_run_eq_ok {α : Type} (store : MemoryStore) (program : Program α)
    (succeeds : (store.run program).1.isOk = true) :
    ∃ value after, store.run program = (.ok value, after) := by
  rcases ran : store.run program with ⟨_ | value, after⟩
  · rw [ran] at succeeds
    cases succeeds
  · exact ⟨value, after, rfl⟩

end MemoryStore

section Sample

/-- A health service whose cache and health check service have the given names. -/
def sampleParent (cache healthCheck : String) : HealthService :=
  ⟨{ name := some "sample", ns := some "kube-system" },
    ({ spec := {
      memcached := { name := cache }
      healthService := { name := healthCheck, configmapName := "names" } } } :
      Observed HealthServiceSpec HealthServiceStatus)⟩

/-- A store with that health service and a pod of its cache. -/
def sampleStore (cache healthCheck : String) : MemoryStore :=
  let parent := sampleParent cache healthCheck
  let pod : Pod :=
    ⟨{ name := some "cache-0", ns := some "kube-system",
        labels := some (Build.memcachedLabels parent) }, Document.of _ (.object [])⟩
  (MemoryStore.insert {} parent).insert pod

theorem reachable_sampleStore (cache healthCheck : String) :
    (sampleStore cache healthCheck).Reachable := (MemoryStore.Reachable.empty.insert _).insert _

/-- Surroundings with a configuration that has no data. -/
def sampleSurroundings : Surroundings := { template := .ok (.of .configMap {} (.object [])) }

/-- A pass over the health service of that store. -/
def samplePass : Program (List Change) :=
  pass sampleSurroundings .healthService "kube-system" "sample"

/-- The pass succeeds if the cache and the health check service have names of their own. -/
theorem exists_run_samplePass :
    ∃ changes after, (sampleStore "cache" "check").run samplePass = (.ok changes, after) :=
  MemoryStore.exists_run_eq_ok _ _ (by decide +kernel)

end Sample

end Caretaker
