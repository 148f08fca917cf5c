import Caretaker.Proofs.Pass.Discipline

/-!
# Passes that share a store

Any number of passes run over one store, their requests in any order (`Cluster.step`).  A child that
has a controller keeps it, and only the passes of that controller change the child
(`Cluster.controllers_kept`): a pass decides on the child that it has read, and its update
is refused unless that child is still there.
-/

namespace Caretaker

/-- An update by a replacement of an earlier child that still has a controller is made for that
controller, and the child keeps it. -/
theorem MemoryStore.update_of_controlled {store : MemoryStore} {kind : ChildKind}
    {ns name uid : String} {owner : OwnerReference} {live desired sent reply child : Child kind}
    (isStored : live.IsStored ns name)
    (since : store.HasSince ⟨.child kind, ns, name⟩ live.encode)
    (isController : owner.isController = true)
    (replaced : replacement owner live desired = .ok sent)
    (answered : (store.update sent).1 = .ok reply)
    (found : store.document? ⟨.child kind, ns, name⟩ = some child.encode)
    (controlled : child.IsControlledBy uid) :
    uid = owner.uid ∧ ∃ last : Child kind,
      (store.update sent).2.document? ⟨.child kind, ns, name⟩ = some last.encode ∧
      ∀ other, last.IsControlledBy other ↔ child.IsControlledBy other := by
  obtain ⟨there, -, objects⟩ := update_of_since isStored since replaced answered
  cases Object.encode_injective (Option.some.inj (found.symm.trans there))
  obtain ⟨owned, took, -⟩ := replacement_eq_ok.mp replaced
  obtain rfl := controlled.eq_of_attachOwner took
  refine ⟨rfl, sent.bumped, ?_, fun other => ?_⟩
  · rw [document?, objects]
    exact (document?_put _ _ _ _ _).trans (if_pos rfl)
  · have only : sent.bumped.IsControlledBy other ↔ other = owner.uid :=
      Object.isControlledBy_iff_of_attachOwner isController (attachOwner_replacement replaced) other
    exact only.trans ⟨fun same => same ▸ controlled, fun held => held.eq_of_attachOwner took⟩

/-- A course does not go on after it has found a child that would be updated and has a controller,
but not the owner. -/
theorem Course.not_mem_of_controlled {kind : ParentKind} {ns name : String}
    {first parent : Object (.parent kind)} {owner : OwnerReference} {said : List Exchange}
    (course : Course ns name first owner said parent) {childKind : ChildKind}
    {childNs childName uid : String} {live : Child childKind}
    (isMutable : childKind.isCreateOnly = false) (controlled : live.IsControlledBy uid)
    (outside : ¬live.IsControlledBy owner.uid) :
    ⟨.get (.child childKind) childNs childName, .ok live⟩ ∉ said := by
  intro member
  obtain ⟨reference, foreign⟩ := controlled.exists_isForeign outside
  obtain ⟨error, refuses⟩ := foreign.exists_refused
  exact course.not_stops _ member error (.refused isMutable refuses)

/-- The place of a look-up and the metadata of what it found. -/
def Exchange.found? : Exchange → Option (Key × Metadata)
  | ⟨.get kind ns name, reply⟩ =>
    reply.toOption.map fun object => (⟨kind, ns, name⟩, object.metadata)
  | ⟨.list .., _⟩ | ⟨.listStorageClasses, _⟩ | ⟨.create .., _⟩ | ⟨.update .., _⟩
  | ⟨.updateStatus .., _⟩ => none

theorem Exchange.exists_found {exchange : Exchange} {kind : Kind} {ns name : String}
    {metadata : Metadata} (found : exchange.found? = some (⟨kind, ns, name⟩, metadata)) :
    ∃ object : Object kind,
      exchange = ⟨.get kind ns name, .ok object⟩ ∧ object.metadata = metadata := by
  obtain ⟨request, reply⟩ := exchange
  cases request with
  | get =>
    cases reply with
    | ok object =>
      cases found
      exact ⟨object, rfl, rfl⟩
    | error => cases found
  | list => cases found
  | listStorageClasses => cases found
  | create => cases found
  | update => cases found
  | updateStatus => cases found

/-- A pass to make. -/
structure Duty where
  surroundings : Surroundings
  kind : ParentKind
  ns : String
  name : String

/-- A worker with its pass, the exchanges that it had, and what is left of its program. -/
structure Worker where
  duty : Duty
  exchanges : List Exchange
  program : Program (List Change)

namespace Worker

/-- A worker that has not begun. -/
def start (duty : Duty) : Worker :=
  ⟨duty, [], pass duty.surroundings duty.kind duty.ns duty.name⟩

/-- A worker after the answer to its request. -/
def told (worker : Worker) (store : MemoryStore) (request : Request)
    (next : Except Error request.Answer → Program (List Change)) : Worker :=
  { worker with
    exchanges := worker.exchanges ++ [⟨request, (store.answer request).1⟩]
    program := next (store.answer request).1 }

/-- Whether a worker has read its parent, and that has the given uid. -/
def Serves (worker : Worker) (uid : String) : Prop :=
  ∃ (parent : Object (.parent worker.duty.kind)) (rest : List Exchange),
    worker.exchanges =
      ⟨.get (.parent worker.duty.kind) worker.duty.ns worker.duty.name, .ok parent⟩ :: rest ∧
    parent.metadata.uid = some uid

theorem Serves.unique {worker : Worker} {uid other : String} (serves : worker.Serves uid)
    (alsoServes : worker.Serves other) : uid = other := by
  obtain ⟨parent, rest, begins, given⟩ := serves
  obtain ⟨_, _, alsoBegins, alsoGiven⟩ := alsoServes
  cases begins.symm.trans alsoBegins
  exact Option.some.inj (given.symm.trans alsoGiven)

/-- Whether a worker has looked a child up and found it. -/
def Found (worker : Worker) {childKind : ChildKind} (ns name : String) (live : Child childKind) :
    Prop :=
  ⟨.get (.child childKind) ns name, .ok live⟩ ∈ worker.exchanges

end Worker

/-- A store and the workers that share it. -/
structure Cluster where
  store : MemoryStore
  workers : List Worker

namespace Cluster

/-- A store with workers that have not begun. -/
def start (store : MemoryStore) (duties : List Duty) : Cluster :=
  ⟨store, duties.map Worker.start⟩

/-- The cluster after a worker has made its next request, if it has any. -/
def step (cluster : Cluster) (index : Nat) : Cluster :=
  match cluster.workers[index]? with
  | none => cluster
  | some worker =>
    match worker.program with
    | .done _ => cluster
    | .ask request next =>
      { store := (cluster.store.answer request).2
        workers := cluster.workers.set index (worker.told cluster.store request next) }

/-- Whether steps lead from one cluster to another before any version is at the end of its word. -/
inductive Reaches (first : Cluster) : Cluster → Prop where
  | refl : Reaches first first
  | step {cluster : Cluster} (reaches : Reaches first cluster) (bounded : cluster.store.Bounded)
    (index : Nat) : Reaches first (cluster.step index)

/-- A step does nothing, or it is the next request of a worker. -/
theorem step_cases (cluster : Cluster) (index : Nat) :
    cluster.step index = cluster ∨ ∃ worker request next,
      cluster.workers[index]? = some worker ∧ worker.program = .ask request next ∧
      cluster.step index =
        { store := (cluster.store.answer request).2
          workers := cluster.workers.set index (worker.told cluster.store request next) } := by
  unfold step
  split
  · exact Or.inl rfl
  next worker there =>
  split
  · exact Or.inl rfl
  next request next asks => exact Or.inr ⟨worker, request, next, there, asks, rfl⟩

end Cluster

namespace Worker

/-- What a worker knows of the store at each point of its pass: every child that it has found is
still there or has a later version, and it does not lose sight of one. -/
structure Tracks (store : MemoryStore) (worker : Worker) : Prop where
  obeys : worker.program.Obeys Exchange.Faithful
    (Permitted worker.duty.surroundings worker.duty.kind worker.duty.ns worker.duty.name)
    (Concluded worker.duty.kind worker.duty.ns worker.duty.name) worker.exchanges
  since : ∀ {childKind : ChildKind} {ns name : String} {live : Child childKind},
    worker.Found ns name live →
      live.IsStored ns name ∧ store.HasSince ⟨.child childKind, ns, name⟩ live.encode
  kept : ∀ {before after : List Exchange} {childKind : ChildKind} {ns name : String}
    {live : Child childKind} {missing : Error},
    worker.exchanges = before ++ ⟨.get (.child childKind) ns name, .error missing⟩ :: after →
      ⟨.get (.child childKind) ns name, .ok live⟩ ∈ before → missing.isNotFound = false

namespace Tracks

variable {store : MemoryStore} {worker : Worker} {request : Request}
  {next : Except Error request.Answer → Program (List Change)}

theorem start (store : MemoryStore) (duty : Duty) : (Worker.start duty).Tracks store where
  obeys := obeys_pass _ _ _ _
  since found := nomatch found
  kept split := by simp [Worker.start] at split

theorem grows {after : MemoryStore} (tracks : worker.Tracks store)
    (grows : MemoryStore.Grows store after) : worker.Tracks after where
  obeys := tracks.obeys
  since found := (tracks.since found).imp id fun since => since.grows grows
  kept := tracks.kept

/-- A worker keeps track of the store with every request of its own. -/
theorem told (tracks : worker.Tracks store) (wellFormed : store.WellFormed)
    (bounded : store.Bounded) (asks : worker.program = .ask request next) :
    (worker.told store request next).Tracks (store.answer request).2 := by
  have grown := tracks.grows (MemoryStore.grows_answer wellFormed bounded request)
  have obeys := tracks.obeys
  rw [asks] at obeys
  refine ⟨obeys.2 _ (MemoryStore.faithful_answer wellFormed request), fun found => ?_,
    fun {before after childKind ns name live missing} split found => ?_⟩
  · rcases List.mem_append.mp found with earlier | last
    · exact grown.since earlier
    · obtain ⟨rfl, reply⟩ := Exchange.mk.inj (List.mem_singleton.mp last)
      have there := MemoryStore.document?_of_get wellFormed (eq_of_heq reply).symm
      refine ⟨MemoryStore.isStored_of_object? wellFormed
        ((MemoryStore.object?_eq_some_iff wellFormed).mpr there), ?_⟩
      rw [MemoryStore.answer, MemoryStore.get_eq]
      exact ⟨_, there, Or.inl rfl⟩
  · rcases List.eq_nil_or_concat after with rfl | ⟨others, final, rfl⟩
    · obtain ⟨rfl, last⟩ := List.append_inj' split rfl
      obtain ⟨rfl, reply⟩ := Exchange.mk.inj (List.singleton_inj.mp last)
      obtain ⟨-, later, there, -⟩ := tracks.since found
      exact MemoryStore.isNotFound_of_get wellFormed there (eq_of_heq reply)
    · rw [List.concat_eq_append, ← List.cons_append, ← List.append_assoc] at split
      exact tracks.kept (List.append_inj' split rfl).1 found

/-- A worker serves the parent that its course began with. -/
theorem serves_of_course {first parent : Object (.parent worker.duty.kind)} {owner : OwnerReference}
    {said later : List Exchange}
    (course : Course worker.duty.ns worker.duty.name first owner said parent)
    (split : worker.exchanges = said ++ later) : worker.Serves owner.uid := by
  obtain ⟨rest, rfl⟩ := course.begins
  exact ⟨first, rest ++ later, split, Object.uid_of_controllerReference course.owns⟩

/-- A request of a worker leaves a child that has a controller as it is, or the worker serves that
controller, and the child keeps it. -/
theorem effect (tracks : worker.Tracks store) (wellFormed : store.WellFormed)
    (asks : worker.program = .ask request next) {childKind : ChildKind} {ns name : String}
    {child : Child childKind}
    (found : store.document? ⟨.child childKind, ns, name⟩ = some child.encode) {uid : String}
    (controlled : child.IsControlledBy uid) :
    (store.answer request).2.document? ⟨.child childKind, ns, name⟩ = some child.encode ∨
      worker.Serves uid ∧ ∃ last : Child childKind,
        (store.answer request).2.document? ⟨.child childKind, ns, name⟩ = some last.encode ∧
        ∀ other, last.IsControlledBy other ↔ child.IsControlledBy other := by
  have obeys := tracks.obeys
  rw [asks] at obeys
  have permitted := obeys.1
  by_cases here : request.place? = some ⟨.child childKind, ns, name⟩
  case neg => exact Or.inl ((MemoryStore.document?_answer_of_ne wellFormed here).trans found)
  cases reply : (store.answer request).1 with
  | error error =>
    refine Or.inl ?_
    rw [MemoryStore.document?, MemoryStore.objects_of_refused wellFormed reply]
    exact found
  | ok stored =>
    generalize said : worker.exchanges = exchanges at permitted
    cases permitted with
    | fetch => cases here
    | read _ reads =>
      rw [Request.place?_of_read reads] at here
      cases here
    | create =>
      obtain ⟨free, -⟩ := MemoryStore.document?_of_create (Key.forWriting_of_toOption here) reply
      cases free.symm.trans found
    | @update first _ owner earlier liveKind _ live sent liveNs liveName course _ _ _ _ _
        replaced =>
      have known : worker.Found liveNs liveName live := by
        rw [Found, said]
        exact List.mem_append_right _ List.mem_cons_self
      obtain ⟨isStored, since⟩ := tracks.since known
      cases (keeps_of_replacement replaced).place isStored (Key.forWriting_of_toOption here)
      obtain ⟨rfl, kept⟩ := MemoryStore.update_of_controlled isStored since
        (Object.isController_of_controllerReference course.owns) replaced reply found controlled
      exact Or.inr ⟨serves_of_course course said, kept⟩
    | report =>
      obtain ⟨_, _, same, -⟩ := Key.exists_of_forWriting (Key.forWriting_of_toOption here)
      cases same

/-- A pass that finds a child that would be updated and has another controller fails for that. -/
theorem refused (tracks : worker.Tracks store) {childKind : ChildKind} {ns name : String}
    {live : Child childKind} (found : worker.Found ns name live)
    (isMutable : childKind.isCreateOnly = false) {served uid : String}
    (serves : worker.Serves served) (controlled : live.IsControlledBy uid)
    (outside : ¬live.IsControlledBy served) :
    ∃ ownerKind ownerName,
      worker.program = .done (.error (.foreignController ownerKind ownerName)) := by
  -- Whatever course the pass is on, it does not go on after it has found the child.
  have stops {first parent : Object (.parent worker.duty.kind)} {owner : OwnerReference}
      {said later : List Exchange}
      (course : Course worker.duty.ns worker.duty.name first owner said parent)
      (split : worker.exchanges = said ++ later) :
      ⟨.get (.child childKind) ns name, .ok live⟩ ∉ said := by
    intro member
    cases serves.unique (serves_of_course course split)
    exact course.not_mem_of_controlled isMutable controlled outside member
  have obeys := tracks.obeys
  cases rest : worker.program with
  | ask request next =>
    rw [rest] at obeys
    rcases obeys.1.exists_course with nothing | ⟨first, owner, parent, course⟩
    · rw [Found, nothing] at found
      cases found
    · exact absurd found (stops course (List.append_nil _).symm)
  | done result =>
    rw [rest] at obeys
    have concluded : Concluded worker.duty.kind worker.duty.ns worker.duty.name worker.exchanges
      result := obeys
    generalize said : worker.exchanges = exchanges at concluded
    rw [Found, said] at found
    cases concluded with
    | unread => cases congrArg Exchange.request (List.mem_singleton.mp found)
    | unowned => exact absurd found not_mem_fetched
    | finished course => exact absurd found (stops course (by rw [said, List.append_nil]))
    | failed fails =>
      cases fails with
      | alone course => exact absurd found (stops course (by rw [said, List.append_nil]))
      | stopped course reason =>
        rcases List.mem_append.mp found with earlier | last
        · exact absurd earlier (stops course said)
        · cases List.mem_singleton.mp last
          cases reason with
          | failed fails => cases fails
          | refused _ refuses =>
            obtain ⟨reference, -, rfl⟩ := Object.exists_isForeign_of_attachOwner refuses
            exact ⟨reference.kind, reference.name, rfl⟩

/-- A pass that finds a child of a kind that is only created reports it unchanged. -/
theorem unchanged (tracks : worker.Tracks store) {childKind : ChildKind} {ns name : String}
    {live : Child childKind} (found : worker.Found ns name live)
    (createOnly : childKind.isCreateOnly = true) {changes : List Change}
    (succeeded : worker.program = .done (.ok changes)) :
    ⟨.unchanged, childKind, name⟩ ∈ changes := by
  have obeys := tracks.obeys
  rw [succeeded] at obeys
  have concluded : Concluded worker.duty.kind worker.duty.ns worker.duty.name worker.exchanges
    (.ok changes) := obeys
  generalize said : worker.exchanges = exchanges at concluded
  generalize ended : (Except.ok changes : Except Error (List Change)) = result at concluded
  cases concluded with
  | unread =>
    rw [Found, said] at found
    cases congrArg Exchange.request (List.mem_singleton.mp found)
  | unowned => cases ended
  | failed => cases ended
  | @finished first parent owner before later _ course accounts again =>
    cases ended
    -- Every child that is found while the children are converged is accounted for by its name.
    have listed {other : Child childKind}
        (member : ⟨.get (.child childKind) ns name, .ok other⟩ ∈ later) :
        ⟨.unchanged, childKind, name⟩ ∈ changes := by
      have known : worker.Found ns name other := by
        rw [Found, said]
        exact List.mem_append_right _ member
      obtain ⟨isStored, -⟩ := tracks.since known
      have named := accounts childKind ns name other createOnly member
      rwa [isStored.name] at named
    have isFound := found
    rw [Found, said] at isFound
    rcases List.mem_append.mp isFound with earlier | converged
    · obtain ⟨reply, member⟩ := again childKind ns name _ earlier
      cases reply with
      | ok other => exact listed member
      | error missing =>
        -- The child was there before, so it can only be that the look-up failed.
        obtain ⟨front, back, rfl⟩ := List.append_of_mem member
        have kept := tracks.kept (said.trans (List.append_assoc _ _ _).symm)
          (List.mem_append_left _ earlier)
        have goesOn := course.not_stops _ (List.mem_append_right _ member) missing
        exact absurd (Exchange.stops_of_error fun _ => kept) goesOn
    · exact listed converged

end Tracks

end Worker

namespace Cluster

variable {cluster : Cluster}

/-- What holds of clusters whose workers began with them. -/
structure Sound (cluster : Cluster) : Prop where
  wellFormed : cluster.store.WellFormed
  tracks : ∀ worker ∈ cluster.workers, worker.Tracks cluster.store

theorem sound_start {store : MemoryStore} (wellFormed : store.WellFormed) (duties : List Duty) :
    (start store duties).Sound where
  wellFormed := wellFormed
  tracks worker member := by
    obtain ⟨duty, -, rfl⟩ := List.mem_map.mp member
    exact .start store duty

/-- Every step leaves a sound cluster sound. -/
theorem Sound.step (sound : cluster.Sound) (bounded : cluster.store.Bounded) (index : Nat) :
    (cluster.step index).Sound := by
  rcases cluster.step_cases index with same | ⟨worker, request, next, there, asks, same⟩
  · exact same.symm ▸ sound
  · have grows := MemoryStore.grows_answer sound.wellFormed bounded request
    have tracks := sound.tracks worker (List.mem_of_getElem? there)
    rw [same]
    refine ⟨sound.wellFormed.answer request, fun other member => ?_⟩
    rcases List.mem_or_eq_of_mem_set member with old | rfl
    · exact (sound.tracks other old).grows grows
    · exact tracks.told sound.wellFormed bounded asks

theorem Reaches.sound {first : Cluster} (reaches : first.Reaches cluster) (sound : first.Sound) :
    cluster.Sound := by
  induction reaches with
  | refl => exact sound
  | step _ bounded index ih => exact ih.step bounded index

/-- A step leaves a child that has controllers as it is, or it is one of a worker that serves one of
them, and the child keeps them. -/
theorem Sound.effect (sound : cluster.Sound) (index : Nat) {childKind : ChildKind}
    {ns name : String} {child : Child childKind}
    (found : cluster.store.object? (.child childKind) ns name = some child) {uid : String}
    (controlled : child.IsControlledBy uid) :
    ((cluster.step index).store.object? (.child childKind) ns name = some child ∨
        ∃ worker served, cluster.workers[index]? = some worker ∧ worker.Serves served ∧
          child.IsControlledBy served) ∧
      ∃ last : Child childKind,
        (cluster.step index).store.object? (.child childKind) ns name = some last ∧
        ∀ other, last.IsControlledBy other ↔ child.IsControlledBy other := by
  rcases cluster.step_cases index with same | ⟨worker, request, next, there, asks, same⟩
  · rw [same]
    exact ⟨Or.inl found, child, found, fun _ => Iff.rfl⟩
  · have tracks := sound.tracks worker (List.mem_of_getElem? there)
    have after := sound.wellFormed.answer request
    rw [same]
    rcases tracks.effect sound.wellFormed asks
        ((MemoryStore.object?_eq_some_iff sound.wellFormed).mp found) controlled with
      untouched | ⟨serves, last, wrote, keeps⟩
    · have still := (MemoryStore.object?_eq_some_iff after).mpr untouched
      exact ⟨Or.inl still, child, still, fun _ => Iff.rfl⟩
    · exact ⟨Or.inr ⟨worker, uid, there, serves, controlled⟩, last,
        (MemoryStore.object?_eq_some_iff after).mpr wrote, keeps⟩

/-- A child that has controllers keeps them. -/
theorem Reaches.exists_kept {between later : Cluster} (goesOn : between.Reaches later)
    (sound : between.Sound) {childKind : ChildKind} {ns name : String} {child : Child childKind}
    (found : between.store.object? (.child childKind) ns name = some child) {uid : String}
    (controlled : child.IsControlledBy uid) :
    ∃ last : Child childKind, later.store.object? (.child childKind) ns name = some last ∧
      ∀ other, last.IsControlledBy other ↔ child.IsControlledBy other := by
  induction goesOn with
  | refl => exact ⟨child, found, fun _ => Iff.rfl⟩
  | step reaches _ index ih =>
    obtain ⟨last, there, keeps⟩ := ih
    obtain ⟨-, final, after, keepsOn⟩ :=
      (reaches.sound sound).effect index there ((keeps uid).mpr controlled)
    exact ⟨final, after, fun other => (keepsOn other).trans (keeps other)⟩

/-- However passes take turns, a child that has controllers keeps them, and a step of a pass of any
other parent leaves the child as it is.  Such a pass fails if it finds the child and might update
it, and otherwise reports it unchanged. -/
theorem controllers_kept {store : MemoryStore} (reachable : store.Reachable) {duties : List Duty}
    {between later : Cluster} (reaches : (start store duties).Reaches between)
    (goesOn : between.Reaches later) :
    (∀ (childKind : ChildKind) (ns name : String) (child : Child childKind) (uid : String),
      between.store.object? (.child childKind) ns name = some child → child.IsControlledBy uid →
      ∃ last : Child childKind, later.store.object? (.child childKind) ns name = some last ∧
        (∀ other, last.IsControlledBy other ↔ child.IsControlledBy other) ∧
        ∀ (index : Nat) worker, later.workers[index]? = some worker →
          (∀ served, worker.Serves served → ¬child.IsControlledBy served) →
          (later.step index).store.object? (.child childKind) ns name = some last) ∧
    ∀ worker ∈ later.workers, ∀ (childKind : ChildKind) (ns name : String) (live : Child childKind)
      (served uid : String), worker.Found ns name live → worker.Serves served →
      live.IsControlledBy uid → ¬live.IsControlledBy served →
      (childKind.isCreateOnly = false → ∃ ownerKind ownerName,
        worker.program = .done (.error (.foreignController ownerKind ownerName))) ∧
      (childKind.isCreateOnly = true → ∀ changes, worker.program = .done (.ok changes) →
        ⟨.unchanged, childKind, name⟩ ∈ changes) := by
  have sound := reaches.sound (sound_start reachable.wellFormed duties)
  have laterSound := goesOn.sound sound
  refine ⟨fun childKind ns name child uid found controlled => ?_,
    fun worker member childKind ns name live served uid found serves controlled outside => ?_⟩
  · obtain ⟨last, there, keeps⟩ := goesOn.exists_kept sound found controlled
    refine ⟨last, there, keeps, fun index worker isWorker outside => ?_⟩
    rcases (laterSound.effect index there ((keeps uid).mpr controlled)).1 with
      untouched | ⟨other, served, isOther, serves, held⟩
    · exact untouched
    · cases isWorker.symm.trans isOther
      exact absurd ((keeps served).mp held) (outside served serves)
  · have tracks := laterSound.tracks worker member
    exact ⟨fun isMutable => tracks.refused found isMutable serves controlled outside,
      fun createOnly changes succeeded => tracks.unchanged found createOnly succeeded⟩

/-- Someone else who controls a child. -/
def sampleOther : OwnerReference := ⟨"v1", "Sample", "other", "other", some true, none⟩

/-- The sample store with a deployment of that owner under the name of the cache. -/
def contestedStore : MemoryStore :=
  (sampleStore "cache" "check").insert
    (⟨{ name := some "cache", ns := some "kube-system", ownerReferences := some [sampleOther] },
      Document.of _ (.object [])⟩ : Child .deployment)

/-- A pass over the sample parent of that store that has looked its parent and the deployment up. -/
def contested : Cluster :=
  let duty : Duty := ⟨sampleSurroundings, .healthService, "kube-system", "sample"⟩
  ((start contestedStore [duty]).step 0).step 0

/-- The pass fails, and the deployment keeps its owner. -/
theorem controllers_kept_of_two_owners :
    ∃ worker ∈ contested.workers,
      (∃ ownerKind ownerName,
        worker.program = .done (.error (.foreignController ownerKind ownerName))) ∧
      ∃ last : Child .deployment,
        contested.store.object? (.child .deployment) "kube-system" "cache" = some last ∧
        last.IsControlledBy "other" := by
  have reachable : contestedStore.Reachable := (reachable_sampleStore _ _).insert _
  have reaches : (start contestedStore
      [⟨sampleSurroundings, .healthService, "kube-system", "sample"⟩]).Reaches contested :=
    (Reaches.refl.step (by decide +kernel) 0).step (by decide +kernel) 0
  have isThere : (contestedStore.object? (.child .deployment) "kube-system" "cache").any
      (fun child => child.IsControlledBy "other") = true := by
    decide +kernel
  obtain ⟨child, found, controlled⟩ := (Option.any_eq_true _ _).mp isThere
  have looked : contested.workers.any (fun worker =>
      (worker.exchanges.head?.bind Exchange.found?).any (fun found =>
        found.1 = ⟨.parent worker.duty.kind, worker.duty.ns, worker.duty.name⟩ ∧
          found.2.uid = some "uid-1") &&
      worker.exchanges.any fun exchange => exchange.found?.any fun found =>
        found.1 = ⟨.child .deployment, "kube-system", "cache"⟩ ∧
          found.2.ownerReferences = some [sampleOther]) = true := by
    decide +kernel
  simp only [List.any_eq_true, Bool.and_eq_true, Option.any_eq_true, Option.bind_eq_some_iff,
    decide_eq_true_eq] at looked
  obtain ⟨worker, isWorker, ⟨⟨place, _⟩, ⟨first, isFirst, foundParent⟩, rfl, uid⟩, exchange, member,
    ⟨_, _⟩, foundChild, rfl, references⟩ := looked
  obtain ⟨parent, rfl, rfl⟩ := Exchange.exists_found foundParent
  obtain ⟨live, rfl, rfl⟩ := Exchange.exists_found foundChild
  obtain ⟨rest, begins⟩ := List.head?_eq_some_iff.mp isFirst
  replace references : live.metadata.ownerReferences = some [sampleOther] := references
  have isOther (uid : String) : live.IsControlledBy uid ↔ uid = "other" := by
    simp [Object.IsControlledBy, Object.ownerReferences, references, sampleOther,
      OwnerReference.isController, eq_comm]
  obtain ⟨keeps, fails⟩ := controllers_kept reachable .refl reaches
  obtain ⟨last, there, stays, -⟩ :=
    keeps .deployment _ _ child "other" found (of_decide_eq_true controlled)
  obtain ⟨refused, -⟩ := fails worker isWorker .deployment _ _ live "uid-1" "other" member
    ⟨parent, rest, begins, uid⟩ ((isOther _).mpr rfl) fun own =>
      absurd ((isOther _).mp own) (by decide)
  exact ⟨worker, isWorker, refused rfl, last, there, (stays _).mpr (of_decide_eq_true controlled)⟩

end Cluster

end Caretaker
