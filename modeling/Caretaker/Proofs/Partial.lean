import Caretaker.Proofs.Interruption
import Caretaker.Proofs.Store.Alike

/-!
# Partial runs

What holds of the stores that a program leaves after however many requests (`MemoryStore.Throughout`)
is shown part by part (`MemoryStore.Throughout.bind`).  Converging a child and reporting pods write
once at most, as the last thing that they do (`MemoryStore.WritesOnce`).
-/

namespace Caretaker

namespace MemoryStore

variable {α β : Type} {store after : MemoryStore} {sort other : MemoryStore → Prop}

/-- Stores with the same documents and the same number of uids. -/
structure SameContent (left right : MemoryStore) : Prop where
  objects : left.objects = right.objects
  assigned : left.assigned = right.assigned

theorem SameContent.refl (store : MemoryStore) : SameContent store store := ⟨rfl, rfl⟩

theorem SameContent.trans {left middle right : MemoryStore} (first : SameContent left middle)
    (second : SameContent middle right) : SameContent left right :=
  ⟨first.objects.trans second.objects, first.assigned.trans second.assigned⟩

theorem SameContent.alike {left right : MemoryStore} (same : SameContent left right) :
    Alike left right := .of_objects same.objects same.assigned

/-- Whether a program leaves stores of a sort after however many requests. -/
def Throughout (store : MemoryStore) (program : Program α) (sort : MemoryStore → Prop) : Prop :=
  ∀ count, sort (store.reached program count)

namespace Throughout

theorem mono {program : Program α} (holds : store.Throughout program sort)
    (implies : ∀ left, sort left → other left) : store.Throughout program other :=
  fun count => implies _ (holds count)

theorem done (result : Except Error α) (holds : sort store) :
    store.Throughout (.done result) sort := fun _ => holds

theorem ask {request : Request} {next : Except Error request.Answer → Program α}
    (holds : sort store)
    (later : (store.answer request).2.Throughout (next (store.answer request).1) sort) :
    store.Throughout (.ask request next) sort := by
  intro count
  cases count with
  | zero => exact holds
  | succ count => exact later count

/-- What holds throughout holds at the end. -/
theorem run {program : Program α} (holds : store.Throughout program sort) :
    sort (store.run program).2 := by
  induction program generalizing store with
  | done => exact holds 0
  | ask request next ih => exact ih _ fun count => holds (count + 1)

theorem bind {program : Program α} {next : α → Program β}
    (first : store.Throughout program sort)
    (second : ∀ value between, store.run program = (.ok value, between) →
      between.Throughout (next value) sort) : store.Throughout (program >>= next) sort := by
  induction program generalizing store with
  | done result =>
    cases result with
    | ok value => exact second value store rfl
    | error error => exact done _ (first 0)
  | ask request rest ih =>
    refine ask (first 0) (ih _ (fun count => first (count + 1)) fun value between ran => ?_)
    exact second value between ran

theorem map {program : Program α} (holds : store.Throughout program sort) (change : α → β) :
    store.Throughout (program >>= fun value => pure (change value)) sort := by
  refine holds.bind fun value between ran => done _ ?_
  have final := holds.run
  rwa [ran] at final

end Throughout

/-- Whether a program leaves the content of the store as it is or as it is in the end. -/
def WritesOnce (store : MemoryStore) (program : Program α) : Prop :=
  store.Throughout program fun left =>
    SameContent store left ∨ SameContent (store.run program).2 left

namespace WritesOnce

theorem done (result : Except Error α) : store.WritesOnce (.done result) :=
  Throughout.done result (Or.inl (SameContent.refl store))

/-- A program may read before it writes. -/
theorem ask_read {request : Request} {next : Except Error request.Answer → Program α}
    (reads : SameContent store (store.answer request).2)
    (later : (store.answer request).2.WritesOnce (next (store.answer request).1)) :
    store.WritesOnce (.ask request next) := by
  refine .ask (Or.inl (.refl store)) (later.mono fun left holds => ?_)
  exact holds.imp reads.trans id

/-- A program may end with a write. -/
theorem ask_last {request : Request} {next : Except Error request.Answer → Program α}
    (ends : ∀ answer, ∃ result, next answer = .done result) :
    store.WritesOnce (.ask request next) := by
  obtain ⟨result, same⟩ := ends (store.answer request).1
  have final : (store.run (.ask request next)).2 = (store.answer request).2 := by
    rw [run_ask, same]
    rfl
  refine .ask (Or.inl (.refl store)) ?_
  rw [same]
  refine .done result (Or.inr ?_)
  rw [final]
  exact .refl _

end WritesOnce

theorem sameContent_get (store : MemoryStore) (kind : Kind) (ns name : String) :
    SameContent store (store.answer (.get kind ns name)).2 := by
  rw [answer, get_eq]
  exact ⟨rfl, rfl⟩

theorem sameContent_list (store : MemoryStore) (kind : Kind) (ns : String) (labels : LabelMap) :
    SameContent store (store.answer (.list kind ns labels)).2 := by
  rw [answer, list_eq]
  exact ⟨rfl, rfl⟩

theorem sameContent_listStorageClasses (store : MemoryStore) :
    SameContent store (store.answer .listStorageClasses).2 := by
  rw [answer, listStorageClasses_eq]
  exact ⟨rfl, rfl⟩

theorem writesOnce_createChild (store : MemoryStore) {kind : ChildKind} (owner : OwnerReference)
    (desired : Child kind) : store.WritesOnce (createChild owner desired) := by
  rcases createChild_cases owner desired with ⟨error, fails⟩ | ⟨child, -, creates⟩
  · exact fails ▸ .done _
  · exact creates ▸ .ask_last fun _ => ⟨_, rfl⟩

theorem writesOnce_updateChild (store : MemoryStore) {kind : ChildKind} (owner : OwnerReference)
    (live desired : Child kind) : store.WritesOnce (updateChild owner live desired) := by
  rcases updateChild_cases owner live desired with stays | ⟨error, fails⟩ | ⟨child, -, updates⟩
  · exact stays ▸ .done _
  · exact fails ▸ .done _
  · exact updates ▸ .ask_last fun _ => ⟨_, rfl⟩

theorem writesOnce_converge (store : MemoryStore) {kind : ChildKind} (owner : OwnerReference)
    (desired : Child kind) : store.WritesOnce (converge owner desired) := by
  rcases converge_cases owner desired with ⟨error, fails⟩ | ⟨ns, name, next, asks, found, missing⟩
  · exact fails ▸ .done _
  · rw [asks]
    refine .ask_read (store.sameContent_get _ _ _) ?_
    cases (store.answer (.get (.child kind) ns name)).1 with
    | ok live =>
      rw [found]
      exact writesOnce_updateChild _ owner live desired
    | error error =>
      rw [missing]
      split
      · exact writesOnce_createChild _ owner desired
      · exact .done _

theorem writesOnce_reportPods (store : MemoryStore) {kind : ParentKind} (list : PodList kind)
    (labels : LabelMap) (parent : Object (.parent kind)) :
    store.WritesOnce (reportPods list labels parent) := by
  rw [reportPods]
  cases parent.metadata.ns with
  | none => exact .done _
  | some ns =>
    refine .ask_read (store.sameContent_list _ _ _) ?_
    cases (store.answer (.list .pod ns labels)).1 with
    | error error => exact .done _
    | ok pods =>
      change WritesOnce _ (if list.names parent = podNames pods then _ else _)
      split
      · exact .done _
      · exact .ask_last fun answer => by cases answer <;> exact ⟨_, rfl⟩

end MemoryStore

end Caretaker
