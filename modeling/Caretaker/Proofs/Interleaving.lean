import Caretaker.Proofs.Converge
import Caretaker.Proofs.Store.Grow

/-!
# Clients that share a store

Any number of clients converge children over one store, and others write to it as well
(`System.step`).  Every request is answered at once, but requests of different origins follow each
other in any order.  A client that has read a child holds an earlier document of its place
(`Client.Tracks`), and its update is refused unless that is still the last one.  So no update is lost
and no child is created twice (`System.no_lost_update`).
-/

namespace Caretaker

/-- A request and its answer. -/
structure Exchange where
  request : Request
  reply : Except Error request.Answer

/-- Whether an exchange created the object in a place. -/
def Exchange.creates (key : Key) : Exchange → Bool
  | ⟨.create _ object, .ok _⟩ =>
    match Key.forWriting object with
    | .ok place => place = key
    | .error _ => false
  | _ => false

/-- A child to converge. -/
structure Task where
  kind : ChildKind
  owner : OwnerReference
  desired : Child kind

/-- A client with its task, the exchanges that it had, and what is left of its program. -/
structure Client where
  task : Task
  exchanges : List Exchange
  program : Program (Converged task.kind)

namespace Client

/-- A client that has not begun. -/
def start (task : Task) : Client := ⟨task, [], converge task.owner task.desired⟩

/-- A client after the answer to its request. -/
def told (client : Client) (store : MemoryStore) (request : Request)
    (next : Except Error request.Answer → Program (Converged client.task.kind)) : Client :=
  { client with
    exchanges := client.exchanges ++ [⟨request, (store.answer request).1⟩]
    program := next (store.answer request).1 }

theorem program_told {client : Client} {store : MemoryStore} {request : Request}
    {next : Except Error request.Answer → Program (Converged client.task.kind)}
    {reply : Except Error request.Answer} (answered : (store.answer request).1 = reply) :
    (client.told store request next).program = next reply := congrArg next answered

/-- Whether a client reports that it created the child in a place. -/
def Created (client : Client) (key : Key) : Prop :=
  Key.forWriting client.task.desired = .ok key ∧
    ∃ became, client.program = .done (.ok became) ∧ became.outcome = .created

end Client

/-- A store and its clients; `history` has all exchanges, in their order. -/
structure System where
  store : MemoryStore
  clients : List Client
  history : List Exchange

/-- What may happen next. -/
inductive Move where
  /-- A client makes its next request, if it has any. -/
  | client (index : Nat)
  /-- Someone else makes a request. -/
  | other (request : Request)

namespace System

/-- A store with clients that have not begun. -/
def start (store : MemoryStore) (tasks : List Task) : System := ⟨store, tasks.map Client.start, []⟩

/-- The system after a move. -/
def step (system : System) : Move → System
  | .other request =>
    { system with
      store := (system.store.answer request).2
      history := system.history ++ [⟨request, (system.store.answer request).1⟩] }
  | .client index =>
    match system.clients[index]? with
    | none => system
    | some client =>
      match client.program with
      | .done _ => system
      | .ask request next =>
        { store := (system.store.answer request).2
          clients := system.clients.set index (client.told system.store request next)
          history := system.history ++ [⟨request, (system.store.answer request).1⟩] }

/-- Whether moves lead from one system to another before any version is at the end of its word. -/
inductive Reaches (first : System) : System → Prop where
  | refl : Reaches first first
  | step {system : System} (reaches : Reaches first system) (bounded : system.store.Bounded)
    (move : Move) : Reaches first (system.step move)

end System

/-- Attaching an owner leaves an object in its place. -/
theorem Key.forWriting_attachOwner {kind : Kind} {object owned : Object kind}
    {owner : OwnerReference} (took : object.attachOwner owner = .ok owned) :
    forWriting owned = forWriting object := by
  obtain ⟨references, -, rfl⟩ := Object.attachOwner_eq_ok.mp took
  rfl

/-- A replacement of an earlier object is stale unless that is still there. -/
theorem MemoryStore.HasSince.eq_of_not_stale {store : MemoryStore} {kind : ChildKind} {key : Key}
    {ns name : String} {live child : Child kind} {later : Json}
    (since : store.HasSince key live.encode) (found : store.document? key = some later)
    (stored : live.IsStored ns name) (keeps : Keeps live child)
    (fresh : ¬isStale child later = true) : later = live.encode := by
  obtain ⟨last, there, above⟩ := since
  cases found.symm.trans there
  obtain ⟨version, given⟩ := Option.isSome_iff_exists.mp stored.version
  have sameVersion : live.versionD = StoredDocument.version later := by
    rw [isStale, keeps.version, given] at fresh
    rw [Object.versionD, given, Option.getD_some]
    simpa using fresh
  apply above.resolve_right
  intro below
  rw [StoredDocument.number_encode, sameVersion] at below
  exact Nat.lt_irrefl _ below

/-- An update by a replacement of an earlier object succeeds only if that is still there. -/
theorem MemoryStore.update_of_since {store : MemoryStore} {kind : ChildKind} {ns name : String}
    {owner : OwnerReference} {live desired child reply : Child kind}
    (stored : live.IsStored ns name)
    (since : store.HasSince ⟨.child kind, ns, name⟩ live.encode)
    (replaced : replacement owner live desired = .ok child)
    (answered : (store.update child).1 = .ok reply) :
    store.document? ⟨.child kind, ns, name⟩ = some live.encode ∧ reply = child.bumped ∧
      (store.update child).2.objects = (store.put ns name child.bumped).objects := by
  have keeps := keeps_of_replacement replaced
  cases writable : Key.forWriting child with
  | error error =>
    rw [update_of_refused writable] at answered
    cases answered
  | ok key =>
    obtain rfl := keeps.place stored writable
    obtain ⟨later, found, -⟩ := id since
    rw [update_eq store writable, found] at answered ⊢
    split at answered
    · cases answered
    next running =>
    rw [if_neg running]
    dsimp only at answered ⊢
    split at answered
    · cases answered
    next fresh =>
    rw [if_neg fresh]
    cases since.eq_of_not_stale found stored keeps fresh
    rw [updated_of_alike keeps.status, keeps.sentAfter stored] at answered ⊢
    cases (read_encode child.bumped).symm.trans answered
    exact ⟨rfl, rfl, rfl⟩

namespace Client

/-- What a client knows of the store at each point of its program. -/
inductive Tracks (store : MemoryStore) (client : Client) : Prop where
  | ready (fresh : client.exchanges = [])
    (rest : client.program = converge client.task.owner client.task.desired)
  | found {ns name : String} {live : Child client.task.kind}
    (asked : client.exchanges = [⟨.get (.child client.task.kind) ns name, .ok live⟩])
    (rest : client.program = updateChild client.task.owner live client.task.desired)
    (stored : live.IsStored ns name)
    (since : store.HasSince ⟨.child client.task.kind, ns, name⟩ live.encode)
  | missing (rest : client.program = createChild client.task.owner client.task.desired)
  | ended (result : Except Error (Converged client.task.kind))
    (rest : client.program = .done result)
    (there : ∀ key, client.Created key → (store.document? key).isSome)

theorem tracks_start (store : MemoryStore) (task : Task) : (start task).Tracks store :=
  .ready rfl rfl

theorem Tracks.grows {store after : MemoryStore} {client : Client} (tracks : client.Tracks store)
    (grows : MemoryStore.Grows store after) : client.Tracks after := by
  cases tracks with
  | ready fresh rest => exact .ready fresh rest
  | found asked rest stored since => exact .found asked rest stored (since.grows grows)
  | missing rest => exact .missing rest
  | ended result rest there =>
    exact .ended result rest fun key created => grows.isSome (there key created)

/-- A client that did not create its child has nothing to know once it is over. -/
theorem Tracks.of_not_created {store : MemoryStore} {client : Client}
    {result : Except Error (Converged client.task.kind)} (rest : client.program = .done result)
    (notCreated : ∀ key, ¬client.Created key) :
    client.Tracks store ∧ ∀ key, ¬client.Created key :=
  ⟨.ended result rest fun key created => absurd created (notCreated key), notCreated⟩

theorem Tracks.of_error {store : MemoryStore} {client : Client} (error : Error)
    (rest : client.program = .done (.error error)) :
    client.Tracks store ∧ ∀ key, ¬client.Created key := by
  apply of_not_created rest
  intro key created
  obtain ⟨-, became, succeeded, -⟩ := created
  cases rest.symm.trans succeeded

theorem Tracks.of_updated {store : MemoryStore} {client : Client}
    (stored : Child client.task.kind) (rest : client.program = .done (.ok ⟨.updated, stored⟩)) :
    client.Tracks store ∧ ∀ key, ¬client.Created key := by
  apply of_not_created rest
  intro key created
  obtain ⟨-, became, succeeded, outcome⟩ := created
  cases rest.symm.trans succeeded
  cases outcome

theorem not_created_of_updateChild {client : Client} (live : Child client.task.kind)
    (rest : client.program = updateChild client.task.owner live client.task.desired) (key : Key) :
    ¬client.Created key := by
  rintro ⟨-, became, succeeded, outcome⟩
  replace succeeded := rest.symm.trans succeeded
  rcases updateChild_cases client.task.owner live client.task.desired with
    stays | ⟨error, fails⟩ | ⟨child, -, updates⟩
  · cases stays.symm.trans succeeded
    cases outcome
  · cases fails.symm.trans succeeded
  · cases updates.symm.trans succeeded

theorem not_created_of_createChild {client : Client}
    (rest : client.program = createChild client.task.owner client.task.desired) (key : Key) :
    ¬client.Created key := by
  rintro ⟨-, became, succeeded, -⟩
  replace succeeded := rest.symm.trans succeeded
  rcases createChild_cases client.task.owner client.task.desired with
    ⟨error, fails⟩ | ⟨child, -, creates⟩
  · cases fails.symm.trans succeeded
  · cases creates.symm.trans succeeded

theorem not_created_of_converge {client : Client}
    (rest : client.program = converge client.task.owner client.task.desired) (key : Key) :
    ¬client.Created key := by
  rintro ⟨-, became, succeeded, -⟩
  replace succeeded := rest.symm.trans succeeded
  rcases converge_cases client.task.owner client.task.desired with
    ⟨error, fails⟩ | ⟨ns, name, next, looks, -⟩
  · cases fails.symm.trans succeeded
  · cases looks.symm.trans succeeded

/-- The child that a client reports to have created is there. -/
theorem Tracks.isSome {store : MemoryStore} {client : Client} (tracks : client.Tracks store)
    {key : Key} (created : client.Created key) : (store.document? key).isSome := by
  cases tracks with
  | ready _ rest => exact absurd created (not_created_of_converge rest key)
  | found _ rest => exact absurd created (not_created_of_updateChild _ rest key)
  | missing rest => exact absurd created (not_created_of_createChild rest key)
  | ended _ _ there => exact there key created

/-- A client that has looked its child up knows what it found. -/
theorem told_get {store : MemoryStore} {client : Client} (wellFormed : store.WellFormed)
    (fresh : client.exchanges = []) {request : Request}
    {next : Except Error request.Answer → Program (Converged client.task.kind)}
    (asks : converge client.task.owner client.task.desired = .ask request next) :
    (client.told store request next).Tracks (store.answer request).2 ∧
      ∀ key, ¬(client.told store request next).Created key := by
  rcases converge_cases client.task.owner client.task.desired with
    ⟨error, fails⟩ | ⟨ns, name, rest, looks, found, missing⟩
  · cases fails.symm.trans asks
  cases looks.symm.trans asks
  cases reply : (store.answer (.get (.child client.task.kind) ns name)).1 with
  | ok live =>
    have there := MemoryStore.document?_of_get wellFormed reply
    have stored := MemoryStore.isStored_of_object? wellFormed
      ((MemoryStore.object?_eq_some_iff wellFormed).mpr there)
    have since : (store.answer (.get (.child client.task.kind) ns name)).2.HasSince
        ⟨.child client.task.kind, ns, name⟩ live.encode := by
      rw [MemoryStore.answer, MemoryStore.get_eq]
      exact ⟨live.encode, there, Or.inl rfl⟩
    have goesOn := (program_told reply).trans (found live)
    have asked : (client.told store _ rest).exchanges =
        [⟨.get (.child client.task.kind) ns name, .ok live⟩] := by
      rw [Client.told, fresh, reply]
      rfl
    exact ⟨.found asked goesOn stored since, not_created_of_updateChild live goesOn⟩
  | error error =>
    have goesOn := (program_told reply).trans (missing error)
    by_cases notFound : error.isNotFound = true
    · rw [if_pos notFound] at goesOn
      exact ⟨.missing goesOn, not_created_of_createChild goesOn⟩
    · rw [if_neg notFound] at goesOn
      exact Tracks.of_error error goesOn

/-- A client that has updated its child did not create it. -/
theorem told_update {store : MemoryStore} {client : Client} {live : Child client.task.kind}
    {request : Request}
    {next : Except Error request.Answer → Program (Converged client.task.kind)}
    (asks : updateChild client.task.owner live client.task.desired = .ask request next) :
    (client.told store request next).Tracks (store.answer request).2 ∧
      ∀ key, ¬(client.told store request next).Created key := by
  rcases updateChild_cases client.task.owner live client.task.desired with
    stays | ⟨error, fails⟩ | ⟨child, -, updates⟩
  · cases stays.symm.trans asks
  · cases fails.symm.trans asks
  cases updates.symm.trans asks
  cases reply : (store.answer (.update (.child client.task.kind) child)).1 with
  | error error => exact Tracks.of_error error (program_told reply)
  | ok stored => exact Tracks.of_updated stored (program_told reply)

/-- A client that has created its child found its place free. -/
theorem told_create {store : MemoryStore} {client : Client} {request : Request}
    {next : Except Error request.Answer → Program (Converged client.task.kind)}
    (asks : createChild client.task.owner client.task.desired = .ask request next) :
    (client.told store request next).Tracks (store.answer request).2 ∧
      ∀ key, (client.told store request next).Created key → store.document? key = none := by
  rcases createChild_cases client.task.owner client.task.desired with
    ⟨error, fails⟩ | ⟨child, owned, creates⟩
  · cases fails.symm.trans asks
  cases creates.symm.trans asks
  cases reply : (store.answer (.create (.child client.task.kind) child)).1 with
  | error error =>
    refine (Tracks.of_error error ?_).imp id fun nothing key created =>
      absurd created (nothing key)
    exact program_told reply
  | ok stored =>
    have free (key : Key) (writable : Key.forWriting client.task.desired = .ok key) :=
      MemoryStore.document?_of_create ((Key.forWriting_attachOwner owned).trans writable) reply
    exact ⟨.ended _ (program_told reply) fun key created => (free key created.1).2,
      fun key created => (free key created.1).1⟩

/-- A client keeps track of the store with every request of its own, and creates its child only if
the place of that is free. -/
theorem Tracks.told {store : MemoryStore} {client : Client} (tracks : client.Tracks store)
    (wellFormed : store.WellFormed) {request : Request}
    {next : Except Error request.Answer → Program (Converged client.task.kind)}
    (asks : client.program = .ask request next) :
    (client.told store request next).Tracks (store.answer request).2 ∧
      ∀ key, (client.told store request next).Created key → store.document? key = none := by
  cases tracks with
  | ready fresh rest =>
    obtain ⟨tracks, nothing⟩ := told_get wellFormed fresh (rest.symm.trans asks)
    exact ⟨tracks, fun key created => absurd created (nothing key)⟩
  | found asked rest =>
    obtain ⟨tracks, nothing⟩ := told_update (rest.symm.trans asks)
    exact ⟨tracks, fun key created => absurd created (nothing key)⟩
  | missing rest => exact told_create (rest.symm.trans asks)
  | ended _ rest => cases rest.symm.trans asks

/-- A client whose update succeeds has replaced the child that it had read, and nothing else. -/
theorem Tracks.of_update {store : MemoryStore} {client : Client} (tracks : client.Tracks store)
    {request : Request} {next : Except Error request.Answer → Program (Converged client.task.kind)}
    (asks : client.program = .ask request next) (updates : request.verb = .update)
    {reply : request.Answer} (answered : (store.answer request).1 = .ok reply) :
    ∃ ns name live child,
      client.exchanges = [⟨.get (.child client.task.kind) ns name, .ok live⟩] ∧
      store.document? ⟨.child client.task.kind, ns, name⟩ = some live.encode ∧
      replacement client.task.owner live client.task.desired = .ok child ∧
      (store.answer request).2.objects = (store.put ns name child.bumped).objects ∧
      (client.told store request next).program = .done (.ok ⟨.updated, child.bumped⟩) := by
  cases tracks with
  | ready _ rest =>
    rcases converge_cases client.task.owner client.task.desired with
      ⟨error, fails⟩ | ⟨ns, name, next, looks, -⟩
    · cases (rest.trans fails).symm.trans asks
    · cases (rest.trans looks).symm.trans asks
      cases updates
  | found asked rest stored since =>
    rcases updateChild_cases client.task.owner _ client.task.desired with
      stays | ⟨error, fails⟩ | ⟨child, replaced, sends⟩
    · cases (rest.trans stays).symm.trans asks
    · cases (rest.trans fails).symm.trans asks
    · cases (rest.trans sends).symm.trans asks
      obtain ⟨found, rfl, objects⟩ := MemoryStore.update_of_since stored since replaced answered
      exact ⟨_, _, _, child, asked, found, replaced, objects, program_told answered⟩
  | missing rest =>
    rcases createChild_cases client.task.owner client.task.desired with
      ⟨error, fails⟩ | ⟨child, -, creates⟩
    · cases (rest.trans fails).symm.trans asks
    · cases (rest.trans creates).symm.trans asks
      cases updates
  | ended _ rest => cases rest.symm.trans asks

/-- A client whose write is refused fails. -/
theorem Tracks.of_refused {store : MemoryStore} {client : Client} (tracks : client.Tracks store)
    {request : Request} {next : Except Error request.Answer → Program (Converged client.task.kind)}
    (asks : client.program = .ask request next) (writes : request.verb.isWrite = true)
    {error : Error} (refused : (store.answer request).1 = .error error) :
    (client.told store request next).program = .done (.error error) := by
  refine (program_told refused).trans ?_
  cases tracks with
  | ready _ rest =>
    rcases converge_cases client.task.owner client.task.desired with
      ⟨_, fails⟩ | ⟨ns, name, next, looks, -⟩
    · cases (rest.trans fails).symm.trans asks
    · cases (rest.trans looks).symm.trans asks
      cases writes
  | found asked rest =>
    rcases updateChild_cases client.task.owner _ client.task.desired with
      stays | ⟨_, fails⟩ | ⟨child, -, sends⟩
    · cases (rest.trans stays).symm.trans asks
    · cases (rest.trans fails).symm.trans asks
    · cases (rest.trans sends).symm.trans asks
      rfl
  | missing rest =>
    rcases createChild_cases client.task.owner client.task.desired with
      ⟨_, fails⟩ | ⟨child, -, creates⟩
    · cases (rest.trans fails).symm.trans asks
    · cases (rest.trans creates).symm.trans asks
      rfl
  | ended _ rest => cases rest.symm.trans asks

end Client

/-- An exchange that creates an object finds its place free. -/
theorem MemoryStore.free_of_creates {store : MemoryStore} {request : Request} {key : Key}
    (creates : Exchange.creates key ⟨request, (store.answer request).1⟩ = true) :
    store.document? key = none ∧ ((store.answer request).2.document? key).isSome := by
  cases request with
  | create kind object =>
    cases reply : (store.answer (.create kind object)).1 with
    | error error =>
      rw [reply] at creates
      cases creates
    | ok stored =>
      rw [reply] at creates
      cases writable : Key.forWriting object with
      | error error =>
        rw [Exchange.creates, writable] at creates
        cases creates
      | ok place =>
        rw [Exchange.creates, writable] at creates
        cases of_decide_eq_true creates
        exact document?_of_create writable reply
  | get => cases creates
  | list => cases creates
  | listStorageClasses => cases creates
  | update => cases creates
  | updateStatus => cases creates

namespace System

variable {system : System}

/-- Whether no two of the clients report that they created the child in one place. -/
def CreateApart (clients : List Client) : Prop :=
  ∀ key (first second : Nat) left right, clients[first]? = some left →
    clients[second]? = some right → left.Created key → right.Created key → first = second

/-- One client may go on unless it creates a child that another one has created. -/
theorem CreateApart.set {clients : List Client} (apart : CreateApart clients) (index : Nat)
    {client : Client}
    (free : ∀ key, client.Created key → ∀ other ∈ clients, ¬other.Created key) :
    CreateApart (clients.set index client) := by
  have goneOn {place : Nat} {other : Client}
      (there : (clients.set index client)[place]? = some other) :
      place = index ∧ other = client ∨ place ≠ index ∧ clients[place]? = some other := by
    by_cases here : index = place
    · rw [← here, List.getElem?_set_self'] at there
      obtain ⟨_, -, rfl⟩ := Option.map_eq_some_iff.mp there
      exact Or.inl ⟨here.symm, rfl⟩
    · rw [List.getElem?_set_ne here] at there
      exact Or.inr ⟨Ne.symm here, there⟩
  intro key first second left right leftAt rightAt leftCreated rightCreated
  rcases goneOn leftAt with ⟨isFirst, rfl⟩ | ⟨-, leftThere⟩
  · rcases goneOn rightAt with ⟨isSecond, -⟩ | ⟨-, rightThere⟩
    · exact isFirst.trans isSecond.symm
    · exact absurd rightCreated (free key leftCreated right (List.mem_of_getElem? rightThere))
  · rcases goneOn rightAt with ⟨-, rfl⟩ | ⟨-, rightThere⟩
    · exact absurd leftCreated (free key rightCreated left (List.mem_of_getElem? leftThere))
    · exact apart key first second left right leftThere rightThere leftCreated rightCreated

/-- What holds of systems whose clients began with them. -/
structure Sound (system : System) : Prop where
  wellFormed : system.store.WellFormed
  tracks : ∀ client ∈ system.clients, client.Tracks system.store
  created : ∀ key, ∀ exchange ∈ system.history, exchange.creates key = true →
    (system.store.document? key).isSome
  creations : ∀ key, system.history.countP (·.creates key) ≤ 1
  creators : CreateApart system.clients

theorem sound_start {store : MemoryStore} (wellFormed : store.WellFormed) (tasks : List Task) :
    (start store tasks).Sound where
  wellFormed := wellFormed
  tracks client member := by
    obtain ⟨task, -, rfl⟩ := List.mem_map.mp member
    exact Client.tracks_start store task
  created _ _ member := nomatch member
  creations _ := Nat.zero_le 1
  creators key first second left right leftAt _ leftCreated := by
    obtain ⟨task, -, rfl⟩ := List.mem_map.mp (List.mem_of_getElem? leftAt)
    exact absurd leftCreated (Client.not_created_of_converge rfl key)

/-- A system stays sound if its clients keep track of an exchange and no two of them report that
they created the child in one place. -/
theorem Sound.exchange (sound : system.Sound) (bounded : system.store.Bounded) (request : Request)
    {clients : List Client}
    (tracks : ∀ client ∈ clients, client.Tracks (system.store.answer request).2)
    (creators : CreateApart clients) :
    Sound ⟨(system.store.answer request).2, clients,
      system.history ++ [⟨request, (system.store.answer request).1⟩]⟩ where
  wellFormed := sound.wellFormed.answer request
  tracks := tracks
  created key exchange member creates := by
    rcases List.mem_append.mp member with earlier | last
    · exact (MemoryStore.grows_answer sound.wellFormed bounded request).isSome
        (sound.created key exchange earlier creates)
    · cases List.mem_singleton.mp last
      exact (MemoryStore.free_of_creates creates).2
  creations key := by
    rw [List.countP_append, List.countP_singleton]
    split
    case isTrue creates =>
      have none : system.history.countP (·.creates key) = 0 := by
        apply List.countP_eq_zero.mpr
        intro exchange member earlier
        have there := sound.created key exchange member earlier
        rw [(MemoryStore.free_of_creates creates).1] at there
        cases there
      exact Nat.le_of_eq (congrArg (· + 1) none)
    case isFalse => exact sound.creations key
  creators := creators

theorem step_client {index : Nat} {client : Client} {request : Request}
    {next : Except Error request.Answer → Program (Converged client.task.kind)}
    (there : system.clients[index]? = some client) (asks : client.program = .ask request next) :
    system.step (.client index) =
      { store := (system.store.answer request).2
        clients := system.clients.set index (client.told system.store request next)
        history := system.history ++ [⟨request, (system.store.answer request).1⟩] } := by
  simp only [step, there, asks]

/-- Every move leaves a sound system sound. -/
theorem Sound.step (sound : system.Sound) (bounded : system.store.Bounded) (move : Move) :
    (system.step move).Sound := by
  cases move with
  | other request =>
    have grows := MemoryStore.grows_answer sound.wellFormed bounded request
    exact sound.exchange bounded request
      (fun client member => (sound.tracks client member).grows grows) sound.creators
  | client index =>
    cases there : system.clients[index]? with
    | none => simpa only [System.step, there] using sound
    | some client =>
      cases asks : client.program with
      | done => simpa only [System.step, there, asks] using sound
      | ask request next =>
        have grows := MemoryStore.grows_answer sound.wellFormed bounded request
        obtain ⟨told, free⟩ :=
          (sound.tracks client (List.mem_of_getElem? there)).told sound.wellFormed asks
        rw [step_client there asks]
        refine sound.exchange bounded request (fun other member => ?_)
          (sound.creators.set index fun key created other member otherCreated => ?_)
        · rcases List.mem_or_eq_of_mem_set member with old | rfl
          · exact (sound.tracks other old).grows grows
          · exact told
        · -- What another client has created is there already, so this one cannot create it.
          have taken := (sound.tracks other member).isSome otherCreated
          rw [free key created] at taken
          cases taken

theorem Reaches.sound {first : System} (reaches : first.Reaches system) (sound : first.Sound) :
    system.Sound := by
  induction reaches with
  | refl => exact sound
  | step _ bounded move ih => exact ih.step bounded move

/-- However clients and others take turns, a client whose update succeeds replaces the very child
that it has read, by what it makes of that, and a client whose write is refused fails and changes no
object.  In each place one creation succeeds at most, and one client at most reports it. -/
theorem no_lost_update {store : MemoryStore} (reachable : store.Reachable) {tasks : List Task}
    (reaches : (start store tasks).Reaches system) :
    (∀ (index : Nat) client request next, system.clients[index]? = some client →
      client.program = .ask request next →
      (∀ reply, request.verb = .update → (system.store.answer request).1 = .ok reply →
        ∃ ns name live child,
          client.exchanges = [⟨.get (.child client.task.kind) ns name, .ok live⟩] ∧
          system.store.document? ⟨.child client.task.kind, ns, name⟩ = some live.encode ∧
          replacement client.task.owner live client.task.desired = .ok child ∧
          (system.step (.client index)).store.objects =
            (system.store.put ns name child.bumped).objects ∧
          (client.told system.store request next).program =
            .done (.ok ⟨.updated, child.bumped⟩)) ∧
      ∀ error, request.verb.isWrite = true → (system.store.answer request).1 = .error error →
        (client.told system.store request next).program = .done (.error error) ∧
          (system.step (.client index)).store.objects = system.store.objects) ∧
    (∀ key, system.history.countP (·.creates key) ≤ 1) ∧
    ∀ key (first second : Nat) left right, system.clients[first]? = some left →
      system.clients[second]? = some right → left.Created key → right.Created key →
        first = second := by
  have sound := reaches.sound (sound_start reachable.wellFormed tasks)
  refine ⟨fun index client request next there asks => ?_, sound.creations, sound.creators⟩
  have tracks := sound.tracks client (List.mem_of_getElem? there)
  rw [step_client there asks]
  constructor
  · intro reply updates answered
    exact tracks.of_update asks updates answered
  · intro error writes refused
    exact ⟨tracks.of_refused asks writes refused,
      MemoryStore.objects_of_refused sound.wellFormed refused⟩

/-- A service that is to have an owner. -/
def sampleTask : Task where
  kind := .service
  owner := ⟨"v1", "Sample", "sample", "uid-0", none, none⟩
  desired := ⟨{ name := some "cache", ns := some "kube-system" }, Document.of _ (.object [])⟩

/-- Two clients that have both read that service, and are about to update it. -/
def sampleSystem : System :=
  let system := start (MemoryStore.insert {} sampleTask.desired) [sampleTask, sampleTask]
  (system.step (.client 0)).step (.client 1)

/-- The first of two clients that have read a child updates that very child. -/
theorem no_lost_update_of_two_clients :
    ∃ client request next, sampleSystem.clients[0]? = some client ∧
      client.program = .ask request next ∧
      ∃ ns name, ∃ live child : Child client.task.kind,
        client.exchanges = [⟨.get (.child client.task.kind) ns name, .ok live⟩] ∧
        sampleSystem.store.document? ⟨.child client.task.kind, ns, name⟩ = some live.encode ∧
        (sampleSystem.step (.client 0)).store.objects =
          (sampleSystem.store.put ns name child.bumped).objects := by
  have bounded : (MemoryStore.insert {} sampleTask.desired).Bounded := by
    intro key document found
    rw [MemoryStore.document?, MemoryStore.insert, KeyMap.get?_insert] at found
    split at found
    · cases found
      decide +kernel
    · cases found
  have reaches : (start (MemoryStore.insert {} sampleTask.desired) [sampleTask, sampleTask]).Reaches
      sampleSystem := by
    refine (Reaches.refl.step bounded (.client 0)).step ?_ (.client 1)
    rw [step_client rfl rfl]
    show MemoryStore.Bounded (MemoryStore.get _ _ _ _).2
    rw [MemoryStore.get_eq]
    exact bounded
  have succeeds : (match sampleSystem.clients[0]? with
      | none => false
      | some client =>
        match client.program with
        | .done _ => false
        | .ask request _ =>
          request.verb = .update && (sampleSystem.store.answer request).1.isOk) = true := by
    decide +kernel
  split at succeeds
  · cases succeeds
  next client there =>
  split at succeeds
  · cases succeeds
  next request next asks =>
  obtain ⟨updates, succeeds⟩ := (Bool.and_eq_true _ _).mp succeeds
  cases answered : (sampleSystem.store.answer request).1 with
  | error error =>
    rw [answered] at succeeds
    cases succeeds
  | ok reply =>
    obtain ⟨ns, name, live, child, read, found, -, objects, -⟩ :=
      ((no_lost_update (.insert .empty _) reaches).1 0 client request next there asks).1 reply
        (of_decide_eq_true updates) answered
    exact ⟨client, request, next, there, asks, ns, name, live, child, read, found, objects⟩

end System

end Caretaker
