import Caretaker.Proofs.Pass.Names

/-!
# When a pass fails

A child cannot be brought about if the object that would be written has another controller
(`Hindered`).  Performing steps never makes a child such an object (`Progress`), so the objects at
the start of a pass decide whether it fails, and why (`Obstacle`, `MemoryStore.run_pass_fails`).
-/

namespace Caretaker

section Child

variable {kind : ChildKind} {owner : OwnerReference} {desired : Child kind} {uid ns name : String}
  {live : Option (Child kind)} {error : Error}

/-- Whether the object that would be written for a child does not take the owner: the live one if it
may be updated, or the desired one if there is none. -/
def Hindered (owner : OwnerReference) (desired : Child kind) (live : Option (Child kind))
    (error : Error) : Prop :=
  match live with
  | none => desired.attachOwner owner = .error error
  | some live => kind.isCreateOnly = false ∧ live.attachOwner owner = .error error

/-- A text that is not empty is given if it is what stands for a text that may be absent. -/
theorem eq_some_of_getD {given : Option String} {text : String} (same : given.getD "" = text)
    (proper : text ≠ "") : given = some text := by
  cases given with
  | none => exact absurd same.symm proper
  | some other => exact congrArg some same

/-- A child that keeps the names of a live one under proper names can be written. -/
theorem Keeps.exists_forWriting {live child : Child kind} (keeps : Keeps live child)
    (stored : live.IsStored ns name) (nsGiven : ns ≠ "") (nameGiven : name ≠ "") :
    ∃ key, Key.forWriting child = .ok key := by
  have hasNs : child.metadata.ns = some ns := by
    rw [keeps.ns]
    exact eq_some_of_getD stored.ns nsGiven
  have hasName : child.metadata.name = some name := by
    rw [keeps.name]
    exact eq_some_of_getD stored.name nameGiven
  exact ⟨_, Key.forWriting_of_some hasNs hasName⟩

/-- Converging a child fails only if the child is hindered. -/
theorem hindered_of_converged (stored : ∀ child, live = some child → child.IsStored ns name)
    (proper : kind.isCreateOnly = false → ns ≠ "" ∧ name ≠ "")
    (failed : converged owner desired uid live = .error error) :
    Hindered owner desired live error := by
  cases live with
  | none =>
    rw [converged] at failed
    cases took : desired.attachOwner owner with
    | ok child =>
      rw [took] at failed
      cases failed
    | error reason =>
      rw [took] at failed
      cases failed
      exact took
  | some live =>
    rw [converged] at failed
    split at failed
    case isTrue => cases failed
    case isFalse isMutable =>
      have isMutable := eq_false_of_ne_true isMutable
      obtain ⟨nsGiven, nameGiven⟩ := proper isMutable
      refine ⟨isMutable, ?_⟩
      cases replaced : replacement owner live desired with
      | ok child =>
        obtain ⟨key, writable⟩ :=
          (keeps_of_replacement replaced).exists_forWriting (stored live rfl) nsGiven nameGiven
        simp only [replaced, writable, bind, Except.bind] at failed
        cases failed
      | error reason =>
        rw [replaced] at failed
        cases failed
        rw [replacement_eq] at replaced
        cases took : live.attachOwner owner with
        | ok owned =>
          rw [took] at replaced
          cases replaced
        | error other =>
          rw [took] at replaced
          cases replaced
          rfl

/-- A child that was converged was not hindered. -/
theorem not_hindered_of_converged {became : Converged kind}
    (result : converged owner desired uid live = .ok became) :
    ¬ Hindered owner desired live error := by
  intro hindered
  cases live with
  | none =>
    obtain ⟨child, took, -⟩ := converged_none_eq_ok.mp result
    cases took.symm.trans hindered
  | some live =>
    obtain ⟨isMutable, refused⟩ := hindered
    rcases converged_some_eq_ok.mp result with ⟨createOnly, -⟩ | ⟨-, child, replaced, -⟩
    · cases createOnly.symm.trans isMutable
    · obtain ⟨owned, took, -⟩ := replacement_eq_ok.mp replaced
      cases took.symm.trans refused

/-- What a child becomes takes the owner, unless it is left as it is. -/
theorem attachOwner_of_converged {became : Converged kind}
    (result : converged owner desired uid live = .ok became) :
    live = some became.object ∨ ∃ owned, became.object.attachOwner owner = .ok owned := by
  cases live with
  | none =>
    obtain ⟨child, took, rfl⟩ := converged_none_eq_ok.mp result
    refine Or.inr ⟨child.numbered uid, ?_⟩
    obtain ⟨references, attached, same⟩ :=
      Object.attachOwner_eq_ok.mp (Object.attachOwner_again took)
    exact Object.attachOwner_eq_ok.mpr ⟨references, attached, congrArg (·.numbered uid) same⟩
  | some live =>
    rcases converged_some_eq_ok.mp result with ⟨-, rfl⟩ | ⟨-, child, replaced, -, rfl⟩
    · exact Or.inl rfl
    · refine Or.inr ⟨child.bumped, ?_⟩
      rw [Object.bumped, Object.attachOwner_withVersion, attachOwner_replacement replaced]
      rfl

end Child

variable {kind : ParentKind}

/-- Whether every child is as it was at the start, or takes the owner. -/
def Progress (owner : OwnerReference) (start store : MemoryStore) : Prop :=
  ∀ (childKind : ChildKind) (ns name : String),
    store.object? (.child childKind) ns name = start.object? (.child childKind) ns name ∨
      ∃ live owned, store.object? (.child childKind) ns name = some live ∧
        live.attachOwner owner = .ok owned

namespace Progress

variable {owner : OwnerReference} {start store : MemoryStore} {childKind : ChildKind}
  {desired : Child childKind} {ns name : String}

theorem refl (owner : OwnerReference) (start : MemoryStore) : Progress owner start start :=
  fun _ _ _ => Or.inl rfl

theorem of_objects (progress : Progress owner start store) {after : MemoryStore}
    (same : ∀ (childKind : ChildKind) (ns name : String),
      after.object? (.child childKind) ns name = store.object? (.child childKind) ns name) :
    Progress owner start after := by
  intro childKind ns name
  rw [same]
  exact progress childKind ns name

/-- A child that was converged takes the owner, unless it is left as it is. -/
theorem leave (progress : Progress owner start store) {became : Converged childKind}
    (result : converged owner desired store.nextUid (store.object? (.child childKind) ns name) =
      .ok became) :
    Progress owner start (became.leave store ns name) := by
  intro otherKind otherNs otherName
  by_cases here : (⟨.child otherKind, otherNs, otherName⟩ : Key) = ⟨.child childKind, ns, name⟩
  · cases here
    have found : (became.leave store ns name).object? (.child childKind) ns name =
        some became.object := MemoryStore.object?_put_self _ _ _ _
    rcases attachOwner_of_converged result with unchanged | ⟨owned, took⟩
    · rw [found, ← unchanged]
      exact progress childKind ns name
    · exact Or.inr ⟨became.object, owned, found, took⟩
  · have same : (became.leave store ns name).object? (.child otherKind) otherNs otherName =
        store.object? (.child otherKind) otherNs otherName := MemoryStore.object?_put_of_ne _ _ here
    rw [same]
    exact progress otherKind otherNs otherName

/-- A child that is hindered was hindered at the start. -/
theorem hindered (progress : Progress owner start store) {error : Error}
    (hindered : Hindered owner desired (store.object? (.child childKind) ns name) error) :
    Hindered owner desired (start.object? (.child childKind) ns name) error := by
  rcases progress childKind ns name with same | ⟨live, owned, found, took⟩
  · exact same ▸ hindered
  · rw [found] at hindered
    cases took.symm.trans hindered.2

end Progress

theorem Underway.object?_report {store : MemoryStore} {parent : Object (.parent kind)}
    {ns name : String} (underway : Underway store parent ns name) (list : PodList kind)
    (labels : LabelMap) (childKind : ChildKind) (childNs childName : String) :
    (list.leave labels parent store ns name).object? (.child childKind) childNs childName =
      store.object? (.child childKind) childNs childName := by
  rw [MemoryStore.object?, MemoryStore.document?, underway.objects_leave]
  exact MemoryStore.object?_put_of_ne _ _ (by simp)

section Converge

variable {store after : MemoryStore} {parent : Object (.parent kind)} {ns name : String}
  {owner : OwnerReference} {childKind : ChildKind} {desired : Child childKind} {childName : String}

/-- Converging a child that is named properly fails only if the child is hindered. -/
theorem Underway.hindered_of_run_converge (underway : Underway store parent ns name)
    (nsGiven : desired.metadata.ns = some ns) (nameGiven : desired.metadata.name = some childName)
    (proper : childKind.isCreateOnly = false → ns ≠ "" ∧ childName ≠ "") {error : Error}
    (failed : store.run (converge owner desired) = (.error error, after)) :
    Hindered owner desired (store.object? (.child childKind) ns childName) error := by
  rw [MemoryStore.run_converge underway.quiet underway.wellFormed nsGiven nameGiven] at failed
  split at failed
  next result =>
    cases failed
    exact hindered_of_converged (fun _ => MemoryStore.isStored_of_object? underway.wellFormed)
      proper result
  next => cases failed

theorem Underway.converged_of_run_converge (underway : Underway store parent ns name)
    (nsGiven : desired.metadata.ns = some ns) (nameGiven : desired.metadata.name = some childName)
    {became : Converged childKind}
    (ran : store.run (converge owner desired) = (.ok became, after)) :
    converged owner desired store.nextUid (store.object? (.child childKind) ns childName) =
      .ok became ∧ became.leave store ns childName = after := by
  rw [MemoryStore.run_converge underway.quiet underway.wellFormed nsGiven nameGiven] at ran
  split at ran
  next => cases ran
  next result =>
    cases ran
    exact ⟨result, rfl⟩

end Converge

/-- A child whose builder fails, or which was hindered at the start, with the error that this
gives. -/
inductive Step.Hinders (owner : OwnerReference) (base : Object (.parent kind)) (start : MemoryStore)
    (ns : String) : Step kind → Error → Prop where
  | build {childKind : ChildKind} {build : Object (.parent kind) → Except Error (Child childKind)}
    {error : Error} (failed : build base = .error error) :
    Hinders owner base start ns (.child childKind build) error
  | child {childKind : ChildKind} {build : Object (.parent kind) → Except Error (Child childKind)}
    {desired : Child childKind} {childName : String} {error : Error}
    (built : build base = .ok desired) (nameGiven : desired.metadata.name = some childName)
    (hindered : Hindered owner desired (start.object? (.child childKind) ns childName) error) :
    Hinders owner base start ns (.child childKind build) error

/-- Performing steps fails only if a step fails for what was there at the start. -/
theorem MemoryStore.exists_hinders_of_run_performSteps {surroundings : Surroundings}
    {owner : OwnerReference} {base parent : Object (.parent kind)} {ns name : String}
    {steps : List (Step kind)} {start store after : MemoryStore} {error : Error} (nsGiven : ns ≠ "")
    (underway : Underway store parent ns name) (same : SameRequest base parent)
    (stable : ∀ step ∈ steps, step.IsStable) (fits : ∀ step ∈ steps, step.Fits surroundings base ns)
    (progress : Progress owner start store)
    (failed : store.run (performSteps owner steps parent) = (.error error, after)) :
    ∃ step ∈ steps, step.Hinders owner base start ns error := by
  induction steps generalizing store parent with
  | nil => cases failed
  | cons step rest ih =>
    obtain ⟨stableHere, stableRest⟩ := List.forall_mem_cons.mp stable
    obtain ⟨fitsHere, fitsRest⟩ := List.forall_mem_cons.mp fits
    cases step with
    | report list labels =>
      obtain ⟨wrote, ran⟩ := run_reportPods_eq underway list (labels parent)
      rw [performSteps, run_bind, ran] at failed
      obtain ⟨step, member, hinders⟩ := ih (underway.report list (labels parent))
        (same.trans (.reported list _ parent)) stableRest fitsRest
        (progress.of_objects fun _ _ _ => underway.object?_report list _ _ _ _) failed
      exact ⟨step, List.mem_cons_of_mem _ member, hinders⟩
    | child childKind build =>
      obtain ⟨required, childName, -, -, proper, builds⟩ := fitsHere
      have agrees : build base = build parent := stableHere base parent same
      rw [performSteps] at failed
      rcases run_bind_eq_error.mp failed with refused | ⟨desired, between, ready, failed⟩
      · rw [run_ofExcept, Prod.mk.injEq] at refused
        exact ⟨_, List.mem_cons_self, .build (agrees.trans refused.1)⟩
      rw [run_ofExcept, Prod.mk.injEq] at ready
      obtain ⟨built, rfl⟩ := ready
      replace built := agrees.trans built
      have hasNs := builds.ns desired built
      have hasName := builds.name desired built
      rcases run_bind_eq_error.mp failed with refused | ⟨became, between, ran, failed⟩
      · have hindered := underway.hindered_of_run_converge hasNs hasName
          (fun isMutable => ⟨nsGiven, builds.name_ne_empty built isMutable proper⟩) refused
        exact ⟨_, List.mem_cons_self, .child built hasName (progress.hindered hindered)⟩
      obtain ⟨result, rfl⟩ := underway.converged_of_run_converge hasNs hasName ran
      rcases run_bind_eq_error.mp failed with failed | ⟨_, _, _, reports⟩
      · obtain ⟨step, member, hinders⟩ := ih (underway.leave hasNs hasName result) same stableRest
          fitsRest (progress.leave result) failed
        exact ⟨step, List.mem_cons_of_mem _ member, hinders⟩
      · cases reports

/-- Steps cannot all be performed if every child that is wanted in some place is hindered. -/
theorem Performed.not_hindered {owner : OwnerReference} {base parent last : Object (.parent kind)}
    {ns name : String} {steps : List (Step kind)} {store after : MemoryStore}
    {changes : List Change}
    {children : List SomeChild}
    (performed : Performed owner base ns name steps parent store changes last after)
    (before : Underway store parent ns name) (built : builtBy base steps = .ok children)
    {childKind : ChildKind} {desired : Child childKind} {childNs childName : String}
    (wanted : ⟨childKind, desired⟩ ∈ children) (nsGiven : desired.metadata.ns = some childNs)
    (nameGiven : desired.metadata.name = some childName) :
    ¬ ∀ other : Child childKind, ⟨childKind, other⟩ ∈ children →
      ∃ error, Hindered owner other (store.object? (.child childKind) childNs childName) error := by
  intro hindered
  induction performed generalizing children with
  | nil =>
    cases built
    cases wanted
  | report _ ih =>
    refine ih (before.report _ _) built wanted fun other member => ?_
    rw [before.object?_report]
    exact hindered other member
  | @child stepKind build steps inHand _ between after first firstNs firstName became changes
      builtHere firstNsGiven firstNameGiven result _ ih =>
    obtain ⟨_, others, same, rest, rfl⟩ := builtBy_child_eq_ok.mp built
    cases builtHere.symm.trans same
    by_cases here : (⟨.child stepKind, firstNs, firstName⟩ : Key) =
        ⟨.child childKind, childNs, childName⟩
    · cases here
      obtain ⟨error, refused⟩ := hindered first List.mem_cons_self
      exact not_hindered_of_converged result refused
    · have elsewhere : (⟨childKind, desired⟩ : SomeChild) ≠ ⟨stepKind, first⟩ := by
        rintro ⟨⟩
        cases firstNsGiven.symm.trans nsGiven
        cases firstNameGiven.symm.trans nameGiven
        exact here rfl
      refine ih (before.leave firstNsGiven firstNameGiven result) rest
        ((List.mem_cons.mp wanted).resolve_left elsewhere) fun other member => ?_
      have untouched : (became.leave between firstNs firstName).object? (.child childKind) childNs
          childName = between.object? (.child childKind) childNs childName :=
        MemoryStore.object?_put_of_ne _ _ (Ne.symm here)
      rw [untouched]
      exact hindered other (List.mem_cons_of_mem _ member)

/-- Why a pass fails, with the error that it then gives. -/
inductive Obstacle (surroundings : Surroundings) (store : MemoryStore) (ns : String) :
    (kind : ParentKind) → Object (.parent kind) → Error → Prop where
  /-- A name that the pass requires is blank. -/
  | blankName {kind : ParentKind} {parent : Object (.parent kind)} {field name : String}
    (required : (field, name) ∈ requiredNames kind parent) (blank : isBlankText name = true) :
    Obstacle surroundings store ns kind parent (.missingField field)
  /-- There is no template for the configuration of a health service. -/
  | noTemplate {parent : HealthService} {error : Error}
    (failed : surroundings.template = .error error) :
    Obstacle surroundings store ns .healthService parent error
  /-- The configuration of a health service has to be created, but its template has a controller. -/
  | foreignTemplate {parent : HealthService} {template : Child .configMap} {uid : String}
    {reference : OwnerReference} (given : surroundings.template = .ok template)
    (absent : store.object? (.child .configMap) ns
      (HealthService.spec parent).healthService.configmapName = none)
    (owns : parent.metadata.uid = some uid) (foreign : template.IsForeign uid reference) :
    Obstacle surroundings store ns .healthService parent
      (.foreignController reference.kind reference.name)
  /-- A child that would be updated has another controller. -/
  | foreignChild {kind : ParentKind} {parent : Object (.parent kind)} {childKind : ChildKind}
    {name uid : String} {live : Child childKind} {reference : OwnerReference}
    (wanted : (childKind, name) ∈ childNames kind parent)
    (isMutable : childKind.isCreateOnly = false)
    (found : store.object? (.child childKind) ns name = some live)
    (owns : parent.metadata.uid = some uid) (foreign : live.IsForeign uid reference) :
    Obstacle surroundings store ns kind parent (.foreignController reference.kind reference.name)

/-- Only the template gives a child owners. -/
theorem Surroundings.owners_cases (surroundings : Surroundings) (kind : ParentKind)
    (childKind : ChildKind) :
    surroundings.owners kind childKind = .ok none ∨
      kind = .healthService ∧ childKind = .configMap ∧ surroundings.owners kind childKind =
        surroundings.template.map fun template => template.metadata.ownerReferences := by
  cases kind <;> cases childKind <;> simp [owners]

theorem configMap_mem_childNames (parent : HealthService) :
    (.configMap, (HealthService.spec parent).healthService.configmapName) ∈
      childNames .healthService parent := by
  simp [childNames]

/-- The configuration of a health service is its only config map. -/
theorem name_of_configMap {parent : HealthService} {name : String}
    (wanted : (.configMap, name) ∈ childNames .healthService parent) :
    name = (HealthService.spec parent).healthService.configmapName := by
  cases workload : (HealthService.spec parent).memcached.workload <;>
    simpa [childNames, workload, MemcachedWorkload.childKind] using wanted

namespace Obstacle

variable {surroundings : Surroundings} {store : MemoryStore} {parent : Object (.parent kind)}
  {owner : OwnerReference} {ns name : String} {error : Error}

/-- A builder that fails shows an obstacle. -/
theorem of_refused {childKind : ChildKind} {required : List (String × String)}
    {built : Except Error (Child childKind)} (isRequired : required ⊆ requiredNames kind parent)
    (builds : Builds required (surroundings.owners kind childKind) ns name built)
    (failed : built = .error error) : Obstacle surroundings store ns kind parent error := by
  rcases builds.refused error failed with ⟨entry, member, blank, rfl⟩ | noOwners
  · exact .blankName (isRequired member) blank
  · rcases surroundings.owners_cases kind childKind with none | ⟨rfl, rfl, same⟩
    · cases none.symm.trans noOwners
    · rw [same] at noOwners
      cases given : surroundings.template with
      | ok template =>
        rw [given] at noOwners
        cases noOwners
      | error reason =>
        rw [given] at noOwners
        cases noOwners
        exact .noTemplate given

/-- A child that is hindered shows an obstacle. -/
theorem of_hindered {childKind : ChildKind} {desired : Child childKind}
    (wanted : (childKind, name) ∈ childNames kind parent)
    (owners : surroundings.owners kind childKind = .ok desired.metadata.ownerReferences)
    (owns : parent.controllerReference = .ok owner)
    (hindered : Hindered owner desired (store.object? (.child childKind) ns name) error) :
    Obstacle surroundings store ns kind parent error := by
  have uid := Object.uid_of_controllerReference owns
  cases found : store.object? (.child childKind) ns name with
  | some live =>
    rw [found] at hindered
    obtain ⟨reference, foreign, rfl⟩ := Object.exists_isForeign_of_attachOwner hindered.2
    exact .foreignChild wanted hindered.1 found uid foreign
  | none =>
    rw [found] at hindered
    obtain ⟨reference, foreign, rfl⟩ := Object.exists_isForeign_of_attachOwner hindered
    rcases surroundings.owners_cases kind childKind with none | ⟨rfl, rfl, same⟩
    · have unowned := Except.ok.inj (none.symm.trans owners)
      have nothing := foreign.member
      rw [Object.ownerReferences, ← unowned] at nothing
      cases nothing
    · rw [same] at owners
      cases given : surroundings.template with
      | error reason =>
        rw [given] at owners
        cases owners
      | ok template =>
        rw [given] at owners
        have alike : template.ownerReferences = desired.ownerReferences :=
          congrArg (·.getD []) (Except.ok.inj owners)
        exact .foreignTemplate given (name_of_configMap wanted ▸ found) uid
          ⟨alike ▸ foreign.member, foreign.controls, foreign.foreign⟩

/-- A step of a pass that fails shows an obstacle. -/
theorem of_hinders (owns : parent.controllerReference = .ok owner) {step : Step kind}
    (fits : step.Fits surroundings parent ns) (hinders : step.Hinders owner parent store ns error) :
    Obstacle surroundings store ns kind parent error := by
  cases hinders with
  | build failed =>
    obtain ⟨required, name, isRequired, -, -, builds⟩ := fits
    exact of_refused isRequired builds failed
  | child built nameGiven hindered =>
    obtain ⟨required, _, -, wanted, -, builds⟩ := fits
    cases nameGiven.symm.trans (builds.name _ built)
    exact of_hindered wanted (builds.owners _ built) owns hindered

/-- The steps of a pass cannot be performed from children among which there is an obstacle. -/
theorem not_performed {start : MemoryStore}
    (obstacle : Obstacle surroundings start ns kind parent error)
    (same : ∀ (childKind : ChildKind) (childName : String),
      store.object? (.child childKind) ns childName = start.object? (.child childKind) ns childName)
    (owns : parent.controllerReference = .ok owner) (before : Underway store parent ns name)
    {defaultClass : String} {changes : List Change} {last : Object (.parent kind)}
    {after : MemoryStore} :
    ¬ Performed owner parent ns name (stepsWith surroundings defaultClass kind parent) parent store
      changes last after := by
  intro performed
  have uid := Object.uid_of_controllerReference owns
  obtain ⟨children, built⟩ := performed.exists_builtBy
  have fits := fits_stepsWith surroundings defaultClass before.nsGiven
  obtain ⟨given, named⟩ :=
    names_desiredChildren before.nsGiven ((builtBy_stepsWith _ _ _).symm.trans built)
  have owners := owners_builtBy fits built
  cases obstacle with
  | blankName required blank => cases blank.symm.trans (given _ required)
  | noTemplate failed =>
    obtain ⟨configMap, member, -⟩ := exists_child_of_names named (configMap_mem_childNames _)
    have known := (owners _ member).1
    simp only [Surroundings.owners, failed] at known
    cases known
  | @foreignTemplate _ template _ reference source absent owned foreign =>
    cases uid.symm.trans owned
    obtain ⟨configMap, member, hasName⟩ := exists_child_of_names named (configMap_mem_childNames _)
    refine performed.not_hindered before built member (owners _ member).2 hasName
      fun other isChild => ?_
    have known := (owners _ isChild).1
    simp only [Surroundings.owners, source] at known
    have alike : template.ownerReferences = other.ownerReferences :=
      congrArg (·.getD []) (Except.ok.inj known)
    have otherForeign : other.IsForeign owner.uid reference :=
      ⟨alike ▸ foreign.member, foreign.controls, foreign.foreign⟩
    obtain ⟨error, refused⟩ := otherForeign.exists_refused
    exact ⟨error, ((same _ _).trans absent) ▸ refused⟩
  | foreignChild wanted isMutable found owned foreign =>
    cases uid.symm.trans owned
    obtain ⟨desired, member, hasName⟩ := exists_child_of_names named wanted
    obtain ⟨error, refused⟩ := foreign.exists_refused
    exact performed.not_hindered before built member (owners _ member).2 hasName
      fun _ _ => ⟨error, ((same _ _).trans found) ▸ ⟨isMutable, refused⟩⟩

/-- Steps fail for a required name, for another controller or for the template. -/
theorem error_cases (obstacle : Obstacle surroundings store ns kind parent error) :
    (∃ field, error = .missingField field) ∨
      (∃ ownerKind ownerName, error = .foreignController ownerKind ownerName) ∨
      kind = .healthService ∧ surroundings.template = .error error := by
  cases obstacle with
  | blankName => exact Or.inl ⟨_, rfl⟩
  | noTemplate failed => exact Or.inr (Or.inr ⟨rfl, failed⟩)
  | foreignTemplate => exact Or.inr (Or.inl ⟨_, _, rfl⟩)
  | foreignChild => exact Or.inr (Or.inl ⟨_, _, rfl⟩)

end Obstacle

namespace MemoryStore

variable {store : MemoryStore} {parent : Object (.parent kind)} {ns name : String}

/-- A pass over a parent with a name and a namespace fails exactly if there is an obstacle to it at
the start, and then gives the error of an obstacle.  It never fails because a field cannot be
copied, an object cannot be read, or a child was there, changed or gone meanwhile. -/
theorem run_pass_fails (reachable : store.Reachable) (quiet : store.Quiet)
    (surroundings : Surroundings) (found : store.object? (.parent kind) ns name = some parent)
    (nsGiven : parent.metadata.ns = some ns) (nameGiven : parent.metadata.name = some name)
    (proper : ns ≠ "") :
    ((∃ error after, store.run (pass surroundings kind ns name) = (.error error, after)) ↔
        ∃ error, Obstacle surroundings store ns kind parent error) ∧
      ∀ error after, store.run (pass surroundings kind ns name) = (.error error, after) →
        Obstacle surroundings store ns kind parent error ∧
          ((∃ field, error = .missingField field) ∨
            (∃ ownerKind ownerName, error = .foreignController ownerKind ownerName) ∨
            kind = .healthService ∧ surroundings.template = .error error) := by
  have wellFormed := reachable.wellFormed
  have underway : Underway store parent ns name :=
    ⟨quiet, wellFormed, (object?_eq_some_iff wellFormed).mp found, nsGiven, nameGiven⟩
  obtain ⟨uid, hasUid⟩ := Option.isSome_iff_exists.mp (isStored_of_object? wellFormed found).uid
  obtain ⟨owner, owns⟩ : ∃ owner, parent.controllerReference = .ok owner := by
    rw [Object.controllerReference, nameGiven, hasUid]
    exact ⟨_, rfl⟩
  have fails (error : Error) (after : MemoryStore)
      (failed : store.run (pass surroundings kind ns name) = (.error error, after)) :
      Obstacle surroundings store ns kind parent error := by
    obtain ⟨calls, -, -, same⟩ := run_pass_of_some quiet wellFormed surroundings found
    rw [same, owns] at failed
    have between : Underway (store.reading calls) parent ns name :=
      ⟨quiet, wellFormed, underway.stored, nsGiven, nameGiven⟩
    have fits := fits_stepsWith surroundings (store.classFor ns kind parent) nsGiven
    have progress : Progress owner store (store.reading calls) := .refl owner store
    obtain ⟨step, member, hinders⟩ := exists_hinders_of_run_performSteps proper between
      (.refl parent) (isStable_stepsWith _ _ _) fits progress failed
    exact .of_hinders owns (fits step member) hinders
  refine ⟨⟨?_, ?_⟩, fun error after failed =>
    ⟨fails error after failed, (fails error after failed).error_cases⟩⟩
  · rintro ⟨error, after, failed⟩
    exact ⟨error, fails error after failed⟩
  rintro ⟨error, obstacle⟩
  rcases ran : store.run (pass surroundings kind ns name) with ⟨reason | changes, after⟩
  · exact ⟨reason, after, rfl⟩
  · obtain ⟨between, began, succeeds⟩ := run_pass_eq_ok underway owns surroundings
    obtain ⟨last, performed⟩ := (succeeds changes after).mp ran
    obtain ⟨calls, rfl, -⟩ := began.reads
    have same (childKind : ChildKind) (childName : String) :
        (store.reading calls).object? (.child childKind) ns childName =
          store.object? (.child childKind) ns childName := rfl
    exact absurd performed (obstacle.not_performed same owns began.underway_between)

/-- The pass over a health service whose health check service has a blank name. -/
theorem run_pass_fails_of_blank_name :
    ∃ error after, (sampleStore "cache" " ").run samplePass = (.error error, after) := by
  have blank : ((sampleStore "cache" " ").object? (.parent .healthService) "kube-system"
      "sample").any (fun parent => parent.metadata.ns = some "kube-system" &&
        parent.metadata.name = some "sample" &&
        isBlankText (HealthService.spec parent).healthService.name) = true := by
    decide +kernel
  obtain ⟨parent, found, blank⟩ := (Option.any_eq_true _ _).mp blank
  simp only [Bool.and_eq_true, decide_eq_true_eq] at blank
  obtain ⟨⟨nsGiven, nameGiven⟩, blank⟩ := blank
  obtain ⟨fails, -⟩ := run_pass_fails (reachable_sampleStore _ _) rfl sampleSurroundings found
    nsGiven nameGiven (by decide)
  exact fails.mpr ⟨_, .blankName (List.mem_cons_of_mem _ List.mem_cons_self) blank⟩

end MemoryStore

end Caretaker
