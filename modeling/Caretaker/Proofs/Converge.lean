import Caretaker.Proofs.Program
import Caretaker.Proofs.Replacement
import Caretaker.Proofs.Store.Object

/-!
# What converging a child does

Converging a child makes two requests at most: it looks the child up, and then it creates or updates
it (`converge_cases`).  On a quiet store, what becomes of a child depends on the child that is there
(`converged`), and the program stores exactly that (`MemoryStore.run_converge`).
-/

namespace Caretaker

variable {kind : ChildKind}

/-- A child that is not there is created unless it does not take the owner. -/
theorem createChild_cases (owner : OwnerReference) (desired : Child kind) :
    (∃ error, createChild owner desired = .done (.error error)) ∨
      ∃ child, desired.attachOwner owner = .ok child ∧
        createChild owner desired =
          .ask (.create (.child kind) child) fun reply => .done (reply.map (.mk .created)) := by
  rw [createChild]
  cases desired.attachOwner owner with
  | error error => exact Or.inl ⟨error, rfl⟩
  | ok child =>
    refine Or.inr ⟨child, rfl, ?_⟩
    exact congrArg (Program.ask _) (funext fun reply => by cases reply <;> rfl)

/-- A child that is there is updated unless its kind is only created or there is no replacement. -/
theorem updateChild_cases (owner : OwnerReference) (live desired : Child kind) :
    updateChild owner live desired = .done (.ok ⟨.unchanged, live⟩) ∨
      (∃ error, updateChild owner live desired = .done (.error error)) ∨
      ∃ child, replacement owner live desired = .ok child ∧
        updateChild owner live desired =
          .ask (.update (.child kind) child) fun reply => .done (reply.map (.mk .updated)) := by
  unfold updateChild
  split
  · exact Or.inl rfl
  · cases replacement owner live desired with
    | error error => exact Or.inr (Or.inl ⟨error, rfl⟩)
    | ok child =>
      refine Or.inr (Or.inr ⟨child, rfl, ?_⟩)
      exact congrArg (Program.ask _) (funext fun reply => by cases reply <;> rfl)

/-- A child is looked up in its place. -/
theorem converge_of_named (owner : OwnerReference) {desired : Child kind} {ns name : String}
    (nsGiven : desired.metadata.ns = some ns) (nameGiven : desired.metadata.name = some name) :
    ∃ next,
      converge owner desired = .ask (.get (.child kind) ns name) next ∧
      (∀ live, next (.ok live) = updateChild owner live desired) ∧
      ∀ error, next (.error error) =
        if error.isNotFound then createChild owner desired else Program.fail error := by
  rw [converge, Key.forWriting_of_some nsGiven nameGiven]
  exact ⟨_, rfl, fun _ => rfl, fun _ => rfl⟩

/-- A child is looked up in its place, if it has one. -/
theorem converge_cases (owner : OwnerReference) (desired : Child kind) :
    (∃ error, converge owner desired = .done (.error error)) ∨
      ∃ ns name next,
        converge owner desired = .ask (.get (.child kind) ns name) next ∧
        (∀ live, next (.ok live) = updateChild owner live desired) ∧
        ∀ error, next (.error error) =
          if error.isNotFound then createChild owner desired else Program.fail error := by
  cases named : Key.forWriting desired with
  | error error => exact Or.inl ⟨error, by rw [converge, named]; rfl⟩
  | ok key =>
    obtain ⟨ns, name, rfl, nsGiven, nameGiven⟩ := Key.exists_of_forWriting named
    exact Or.inr ⟨ns, name, converge_of_named owner nsGiven nameGiven⟩

/-- What becomes of the child that is there, if any; `uid` is the uid that a new child gets. -/
def converged (owner : OwnerReference) (desired : Child kind) (uid : String) :
    Option (Child kind) → Except Error (Converged kind)
  | none => (desired.attachOwner owner).map fun child => ⟨.created, child.numbered uid⟩
  | some live =>
    if kind.isCreateOnly then .ok ⟨.unchanged, live⟩
    else do
      let child ← replacement owner live desired
      let _ ← Key.forWriting child
      return ⟨.updated, child.bumped⟩

/-- The verbs of the calls that lead to an outcome. -/
def Outcome.verbs : Outcome → List Verb
  | created => [.get, .create]
  | updated => [.get, .update]
  | unchanged => [.get]

/-- The verb of the write that leads to an outcome, if there is one. -/
def Outcome.write? : Outcome → Option Verb
  | created => some .create
  | updated => some .update
  | unchanged => none

/-- The number of uids that an outcome takes. -/
def Outcome.assigns : Outcome → Nat
  | created => 1
  | updated | unchanged => 0

/-- The store after a child was converged under a namespace and a name. -/
def Converged.leave (converged : Converged kind) (store : MemoryStore) (ns name : String) :
    MemoryStore :=
  { store.put ns name converged.object with
    calls := store.calls ++ converged.outcome.verbs.map fun verb => ⟨verb, .child kind, name⟩
    assigned := store.assigned + converged.outcome.assigns }

/-- The members of the body of a child are those of its document. -/
theorem get?_encode_child (child : Child kind) {name : String} (notHead : name ∉ headNames) :
    child.encode.get? name = Json.reach [name] (some (Document.json child.body)) := by
  rw [child.get?_encode_body notHead, body_json, Json.reach_object, Json.reach_nil]
  rfl

/-- A merge keeps the status of the live object. -/
theorem status_merged (live desired : Child kind) :
    (merged live desired).encode.get? "status" = live.encode.get? "status" := by
  rw [get?_encode_child _ (by decide), get?_encode_child _ (by decide)]
  apply Document.get?_putAll_of_ne kind.admits_bodyFields live.body
  intro path member
  rw [kind.head_bodyFields path member]
  decide

/-- A replacement has everything of the live object that neither is mutable nor refers to owners. -/
structure Keeps (live child : Child kind) : Prop where
  ns : child.metadata.ns = live.metadata.ns
  name : child.metadata.name = live.metadata.name
  uid : child.metadata.uid = live.metadata.uid
  version : child.metadata.resourceVersion = live.metadata.resourceVersion
  status : child.encode.get? "status" = live.encode.get? "status"

theorem keeps_of_replacement {owner : OwnerReference} {live desired child : Child kind}
    (replaced : replacement owner live desired = .ok child) : Keeps live child := by
  obtain ⟨owned, took, rfl⟩ := replacement_eq_ok.mp replaced
  obtain ⟨references, -, rfl⟩ := Object.attachOwner_eq_ok.mp took
  refine ⟨rfl, rfl, rfl, rfl, ?_⟩
  rw [status_merged, get?_encode_child _ (by decide), get?_encode_child _ (by decide)]
  rfl

theorem converged_some_eq_ok {owner : OwnerReference} {desired live : Child kind} {uid : String}
    {after : Converged kind} :
    converged owner desired uid (some live) = .ok after ↔
      kind.isCreateOnly = true ∧ after = ⟨.unchanged, live⟩ ∨
        kind.isCreateOnly = false ∧ ∃ child, replacement owner live desired = .ok child ∧
          (∃ key, Key.forWriting child = .ok key) ∧ after = ⟨.updated, child.bumped⟩ := by
  rw [converged]
  cases kind.isCreateOnly with
  | true => simp [eq_comm]
  | false =>
    cases replacement owner live desired with
    | error error => simp [bind, Except.bind]
    | ok child =>
      cases writable : Key.forWriting child <;>
        simp [bind, Except.bind, pure, Except.pure, writable, eq_comm]

theorem converged_none_eq_ok {owner : OwnerReference} {desired : Child kind} {uid : String}
    {after : Converged kind} :
    converged owner desired uid none = .ok after ↔
      ∃ child, desired.attachOwner owner = .ok child ∧ after = ⟨.created, child.numbered uid⟩ := by
  unfold converged
  cases desired.attachOwner owner <;> simp [Except.map, eq_comm]

/-- A converged child belongs under its namespace and name. -/
theorem isStored_of_converged {owner : OwnerReference} {desired : Child kind} {uid ns name : String}
    {live : Option (Child kind)} {after : Converged kind}
    (nsGiven : desired.metadata.ns = some ns) (nameGiven : desired.metadata.name = some name)
    (stored : ∀ child, live = some child → child.IsStored ns name)
    (result : converged owner desired uid live = .ok after) : after.object.IsStored ns name := by
  cases live with
  | none =>
    obtain ⟨child, took, rfl⟩ := converged_none_eq_ok.mp result
    obtain ⟨references, -, rfl⟩ := Object.attachOwner_eq_ok.mp took
    exact ⟨congrArg (·.getD "") nsGiven, congrArg (·.getD "") nameGiven, rfl, rfl⟩
  | some live =>
    have isStored := stored live rfl
    rcases converged_some_eq_ok.mp result with ⟨-, rfl⟩ | ⟨-, child, replaced, -, rfl⟩
    · exact isStored
    · have keeps := keeps_of_replacement replaced
      exact ⟨(congrArg (·.getD "") keeps.ns).trans isStored.ns,
        (congrArg (·.getD "") keeps.name).trans isStored.name,
        (congrArg Option.isSome keeps.uid).trans isStored.uid, rfl⟩

/-- A converged child of a kind that is not only created gives its namespace and its name. -/
theorem given_of_converged {owner : OwnerReference} {desired : Child kind} {uid ns name : String}
    {live : Option (Child kind)} {after : Converged kind} (isMutable : kind.isCreateOnly = false)
    (nsGiven : desired.metadata.ns = some ns) (nameGiven : desired.metadata.name = some name)
    (stored : ∀ child, live = some child → child.IsStored ns name)
    (result : converged owner desired uid live = .ok after) :
    after.object.metadata.ns = some ns ∧ after.object.metadata.name = some name := by
  cases live with
  | none =>
    obtain ⟨child, took, rfl⟩ := converged_none_eq_ok.mp result
    obtain ⟨references, -, rfl⟩ := Object.attachOwner_eq_ok.mp took
    exact ⟨nsGiven, nameGiven⟩
  | some live =>
    rcases converged_some_eq_ok.mp result with
      ⟨createOnly, -⟩ | ⟨-, child, replaced, ⟨key, writable⟩, rfl⟩
    · rw [createOnly] at isMutable
      cases isMutable
    · have keeps := keeps_of_replacement replaced
      have isStored := stored live rfl
      obtain ⟨childNs, childName, -, ns, name⟩ := Key.exists_of_forWriting writable
      refine ⟨ns.trans ?_, name.trans ?_⟩
      · rw [← isStored.ns, Object.nsD, ← keeps.ns, ns, Option.getD_some]
      · rw [← isStored.name, Object.nameD, ← keeps.name, name, Option.getD_some]

/-- An update of a child that keeps what a replacement keeps only counts its version up. -/
theorem Keeps.sentAfter {live child : Child kind} {ns name : String} (keeps : Keeps live child)
    (stored : live.IsStored ns name) : MemoryStore.sentAfter child live = child.bumped := by
  have uid : child.withUid live.uidD = child := by
    have same : live.uidD = child.uidD := congrArg (·.getD "") keeps.uid.symm
    rw [same]
    exact Object.withUid_uidD (keeps.uid ▸ stored.uid)
  have version : live.versionD = child.versionD := congrArg (·.getD "") keeps.version.symm
  rw [MemoryStore.sentAfter, uid, version]
  rfl

/-- A child that keeps what a replacement keeps is written in the place of the live one. -/
theorem Keeps.place {live child : Child kind} {ns name : String} {key : Key}
    (keeps : Keeps live child) (stored : live.IsStored ns name)
    (writable : Key.forWriting child = .ok key) : key = ⟨.child kind, ns, name⟩ := by
  obtain ⟨childNs, childName, rfl, nsGiven, nameGiven⟩ := Key.exists_of_forWriting writable
  have sameNs : childNs = ns := by
    rw [← stored.ns, Object.nsD, ← keeps.ns, nsGiven, Option.getD_some]
  have sameName : childName = name := by
    rw [← stored.name, Object.nameD, ← keeps.name, nameGiven, Option.getD_some]
  rw [sameNs, sameName]

/-- A child that was read and replaced at once is not stale. -/
theorem Keeps.not_stale {live child : Child kind} {ns name : String} (keeps : Keeps live child)
    (stored : live.IsStored ns name) : MemoryStore.isStale child live.encode = false := by
  obtain ⟨version, given⟩ := Option.isSome_iff_exists.mp stored.version
  rw [MemoryStore.isStale, StoredDocument.version_encode, keeps.version, Object.versionD, given]
  simp

namespace MemoryStore

variable {store : MemoryStore} {owner : OwnerReference} {desired : Child kind} {ns name : String}

theorem run_createChild (nsGiven : desired.metadata.ns = some ns)
    (nameGiven : desired.metadata.name = some name)
    (absent : store.document? ⟨.child kind, ns, name⟩ = none) :
    store.run (createChild owner desired) =
      match desired.attachOwner owner with
      | .error error => (.error error, store)
      | .ok child =>
        if store.fails .create (.child kind) then
          (.error (.injected .create (.child kind) name), store.called .create (.child kind) name)
        else
          (.ok ⟨.created, child.numbered store.nextUid⟩,
            { (store.called .create (.child kind) name).put ns name
                (child.numbered store.nextUid) with
              assigned := store.assigned + 1 }) := by
  rw [createChild, run_bind, run_ofExcept]
  cases took : desired.attachOwner owner with
  | error error => rfl
  | ok child =>
    obtain ⟨references, -, rfl⟩ := Object.attachOwner_eq_ok.mp took
    have writable : Key.forWriting (desired.withOwners references) = .ok ⟨.child kind, ns, name⟩ :=
      Key.forWriting_of_some nsGiven nameGiven
    cases fails : store.fails .create (.child kind) with
    | true => simp only [run_bind, run_perform, answer_create_of_failing writable fails, if_true]
    | false =>
      simp only [run_bind, run_perform, answer_create_of_absent writable fails absent, run_pure]
      rfl

/-- The update of a live child with what replaces it only counts its version up, unless updates are
to fail. -/
theorem answer_update_of_keeps (wellFormed : store.WellFormed) {live child : Child kind}
    (found : store.object? (.child kind) ns name = some live) (keeps : Keeps live child)
    (writable : Key.forWriting child = .ok ⟨.child kind, ns, name⟩) :
    store.answer (.update (.child kind) child) =
      if store.fails .update (.child kind) then
        (.error (.injected .update (.child kind) name), store.called .update (.child kind) name)
      else
        (.ok child.bumped, (store.called .update (.child kind) name).put ns name child.bumped) := by
  have stored := isStored_of_object? wellFormed found
  refine (update_eq store writable).trans ?_
  simp only [(object?_eq_some_iff wellFormed).mp found, keeps.not_stale stored,
    updated_of_alike keeps.status, keeps.sentAfter stored, read_encode, Bool.false_eq_true,
    if_false]
  rfl

theorem run_updateChild (wellFormed : store.WellFormed) {live : Child kind}
    (found : store.object? (.child kind) ns name = some live) :
    store.run (updateChild owner live desired) =
      match converged owner desired store.nextUid (some live) with
      | .error error => (.error error, store)
      | .ok ⟨.updated, object⟩ =>
        if store.fails .update (.child kind) then
          (.error (.injected .update (.child kind) name), store.called .update (.child kind) name)
        else (.ok ⟨.updated, object⟩, (store.called .update (.child kind) name).put ns name object)
      | .ok other => (.ok other, store) := by
  rw [updateChild, converged]
  split
  case isTrue => rfl
  case isFalse =>
    rw [run_bind, run_ofExcept]
    cases replaced : replacement owner live desired with
    | error error => rfl
    | ok child =>
      have keeps := keeps_of_replacement replaced
      cases writable : Key.forWriting child with
      | error error =>
        simp only [run_bind, run_perform, answer, update_of_refused writable]
        simp only [bind, Except.bind, writable]
      | ok key =>
        obtain rfl := keeps.place (isStored_of_object? wellFormed found) writable
        simp only [run_bind, run_perform, answer_update_of_keeps wellFormed found keeps writable]
        simp only [bind, Except.bind, writable]
        cases store.fails .update (.child kind) <;> rfl

/-- A program that converges a child stores what becomes of it, unless one of its calls is to
fail. -/
theorem run_converge_eq (wellFormed : store.WellFormed)
    (nsGiven : desired.metadata.ns = some ns) (nameGiven : desired.metadata.name = some name) :
    store.run (converge owner desired) =
      if store.fails .get (.child kind) then
        (.error (.injected .get (.child kind) name), store.called .get (.child kind) name)
      else
        match converged owner desired store.nextUid (store.object? (.child kind) ns name) with
        | .error error => (.error error, store.called .get (.child kind) name)
        | .ok became =>
          match became.outcome.write?.filter (store.fails · (.child kind)) with
          | some verb =>
            (.error (.injected verb (.child kind) name),
              (store.called .get (.child kind) name).called verb (.child kind) name)
          | none => (.ok became, became.leave store ns name) := by
  obtain ⟨next, asks, onFound, onMissing⟩ := converge_of_named owner nsGiven nameGiven
  rw [asks, run]
  cases fails : store.fails .get (.child kind) with
  | true =>
    rw [Program.run_ask_of (answer_get_of_failing fails ns name), onMissing]
    rfl
  | false =>
    rw [if_neg Bool.false_ne_true]
    cases found : store.object? (.child kind) ns name with
    | none =>
      have absent : (store.called .get (.child kind) name).document? ⟨.child kind, ns, name⟩ =
          none := (object?_eq_none_iff wellFormed).mp found
      rw [Program.run_ask_of (answer_get_of_absent wellFormed fails found), onMissing,
        if_pos (by rfl)]
      refine (run_createChild nsGiven nameGiven absent).trans ?_
      rw [converged]
      cases desired.attachOwner owner with
      | error error => rfl
      | ok child =>
        have same : (store.called .get (.child kind) name).fails .create (.child kind) =
            store.fails .create (.child kind) := rfl
        simp only [same, Except.map, Outcome.write?, Option.filter_some]
        cases store.fails .create (.child kind) with
        | true => rfl
        | false => simp [Converged.leave, Outcome.verbs, Outcome.assigns, called, put, nextUid]
    | some live =>
      have wellFormedCalled : (store.called .get (.child kind) name).WellFormed := wellFormed
      have foundAfter : (store.called .get (.child kind) name).object? (.child kind) ns name =
          some live := found
      have uid : (store.called .get (.child kind) name).nextUid = store.nextUid := rfl
      have goesOn : next (.ok live) = updateChild owner live desired := onFound live
      rw [Program.run_ask_of (answer_get_of_found wellFormed fails found), goesOn]
      refine (run_updateChild wellFormedCalled foundAfter).trans ?_
      rw [uid]
      cases became : converged owner desired store.nextUid (some live) with
      | error error => rfl
      | ok after =>
        rcases converged_some_eq_ok.mp became with ⟨-, rfl⟩ | ⟨-, child, -, -, rfl⟩
        · simp only [Converged.leave, put_of_object? wellFormed found]
          rfl
        · have same : (store.called .get (.child kind) name).fails .update (.child kind) =
              store.fails .update (.child kind) := rfl
          simp only [same, Outcome.write?, Option.filter_some]
          cases store.fails .update (.child kind) with
          | true => rfl
          | false => simp [Converged.leave, Outcome.verbs, Outcome.assigns, called, put]

/-- On a quiet store, a program that converges a child stores what becomes of it. -/
theorem run_converge (quiet : store.Quiet) (wellFormed : store.WellFormed)
    (nsGiven : desired.metadata.ns = some ns) (nameGiven : desired.metadata.name = some name) :
    store.run (converge owner desired) =
      match converged owner desired store.nextUid (store.object? (.child kind) ns name) with
      | .error error => (.error error, store.called .get (.child kind) name)
      | .ok converged => (.ok converged, converged.leave store ns name) := by
  have noFailing (write? : Option Verb) : write?.filter (store.fails · (.child kind)) = none := by
    simp [quiet.fails]
  rw [run_converge_eq wellFormed nsGiven nameGiven, quiet.fails, if_neg Bool.false_ne_true]
  simp only [noFailing]

/-- Converging a child succeeds exactly if the desired object names its place, something becomes of
the child there, and neither the look-up nor the write that leads to it is to fail. -/
theorem run_converge_eq_ok_iff (wellFormed : store.WellFormed) {became : Converged kind}
    {after : MemoryStore} :
    store.run (converge owner desired) = (.ok became, after) ↔
      ∃ ns name, desired.metadata.ns = some ns ∧ desired.metadata.name = some name ∧
        store.fails .get (.child kind) = false ∧
        converged owner desired store.nextUid (store.object? (.child kind) ns name) = .ok became ∧
        became.outcome.write?.filter (store.fails · (.child kind)) = none ∧
        became.leave store ns name = after := by
  constructor
  · intro ran
    cases writable : Key.forWriting desired with
    | error error =>
      rw [converge, writable, run_bind, run_ofExcept] at ran
      cases ran
    | ok key =>
      obtain ⟨ns, name, rfl, nsGiven, nameGiven⟩ := Key.exists_of_forWriting writable
      rw [run_converge_eq wellFormed nsGiven nameGiven] at ran
      split at ran
      · cases ran
      next running =>
      split at ran
      · cases ran
      next result =>
      split at ran
      · cases ran
      next writes =>
      cases ran
      exact ⟨ns, name, nsGiven, nameGiven, eq_false_of_ne_true running, result, writes, rfl⟩
  · rintro ⟨ns, name, nsGiven, nameGiven, running, result, writes, rfl⟩
    rw [run_converge_eq wellFormed nsGiven nameGiven, running, if_neg Bool.false_ne_true, result]
    simp only [writes]

/-- On a quiet store, converging a child succeeds exactly if the desired object names its place and
something becomes of the child there. -/
theorem run_converge_eq_ok (quiet : store.Quiet) (wellFormed : store.WellFormed)
    {became : Converged kind} {after : MemoryStore} :
    store.run (converge owner desired) = (.ok became, after) ↔
      ∃ ns name, desired.metadata.ns = some ns ∧ desired.metadata.name = some name ∧
        converged owner desired store.nextUid (store.object? (.child kind) ns name) = .ok became ∧
        became.leave store ns name = after := by
  simp [run_converge_eq_ok_iff wellFormed, quiet.fails]

end MemoryStore

end Caretaker
