import Caretaker.Proofs.PodReport

/-!
# What a store lists

The chosen objects of a kind are listed under their places (`MemoryStore.Lists`): every such object
once, no other one, and in the order of the places.  That is how a store lists the objects of a
namespace that carry given labels (`MemoryStore.exists_lists_list`), and what a report names are such
pods (`MemoryStore.exists_listsPods`).
-/

namespace Caretaker

namespace Assoc

variable {κ α β : Type} [DecidableEq κ]

theorem get?_map_value (entries : List (κ × α)) (change : α → β) (key : κ) :
    get? (entries.map fun entry => (entry.1, change entry.2)) key =
      (get? entries key).map change := by
  induction entries with
  | nil => rfl
  | cons entry rest ih =>
    obtain ⟨k, value⟩ := entry
    rw [List.map_cons, get?_cons, get?_cons, ih]
    split <;> rfl

omit [DecidableEq κ] in
theorem sublist_keys_filterMap (entries : List (κ × α)) (decode : α → Option β) :
    ((entries.filterMap fun entry => (decode entry.2).map (entry.1, ·)).map Prod.fst).Sublist
      (entries.map Prod.fst) := by
  induction entries with
  | nil => exact .slnil
  | cons entry rest ih =>
    rw [List.filterMap_cons]
    cases decode entry.2 with
    | none => exact ih.cons _
    | some value => exact ih.cons_cons _

omit [DecidableEq κ] in
theorem values_filterMap (entries : List (κ × α)) (decode : α → Option β) :
    (entries.filterMap fun entry => (decode entry.2).map (entry.1, ·)).map Prod.snd =
      (entries.map Prod.snd).filterMap decode := by
  induction entries with
  | nil => rfl
  | cons entry rest ih =>
    rw [List.map_cons, List.filterMap_cons, List.filterMap_cons, ← ih]
    cases decode entry.2 <;> rfl

end Assoc

/-- Whether the labels of an object contain every given pair. -/
def Object.Carries {kind : Kind} (object : Object kind) (labels : LabelMap) : Prop :=
  ∀ name value, labels.get? name = some value →
    (object.metadata.labels.getD ∅).get? name = some value

/-- A label of an object is found in its document. -/
theorem Object.at?_label {kind : Kind} (object : Object kind) (name : String) :
    object.encode.at? ["metadata", "labels", name] =
      ((object.metadata.labels.getD ∅).get? name).map .text := by
  have inMetadata : object.encode.at? ["metadata", "labels", name] =
      object.metadata.encode.at? ["labels", name] := object.reach_metadata ["labels", name]
  have inLabels : object.metadata.encode.at? ["labels"] =
      object.metadata.labels.map .ofLabels := object.metadata.reach_labels
  rw [inMetadata, show ["labels", name] = ["labels"] ++ [name] from rfl, Json.at?_append, inLabels]
  cases object.metadata.labels with
  | none => rfl
  | some labels =>
    have found := Assoc.get?_map_value labels.entries Json.text name
    show (Assoc.get? _ name).bind some = (Assoc.get? labels.entries name).map Json.text
    rw [found, Option.bind_fun_some]

theorem StoredDocument.hasLabels_encode {kind : Kind} (object : Object kind) (labels : LabelMap) :
    hasLabels object.encode labels = true ↔ object.Carries labels := by
  have pair (name value : String) :
      object.encode.at? ["metadata", "labels", name] = some (.text value) ↔
        (object.metadata.labels.getD ∅).get? name = some value := by
    rw [object.at?_label]
    cases (object.metadata.labels.getD ∅).get? name <;> simp
  simp only [hasLabels, KeyMap.all, List.all_eq_true, decide_eq_true_eq, pair]
  constructor
  · intro all name value wanted
    exact all (name, value) (Assoc.mem_of_get? wanted)
  · rintro all ⟨name, value⟩ member
    exact all name value (Assoc.get?_of_mem labels.ascending.distinct member)

namespace MemoryStore

variable {store : MemoryStore}

/-- The documents of a kind whose place satisfies a test, under their places. -/
def entriesWhere (store : MemoryStore) (kind : Kind) (test : String → Json → Bool) : Objects :=
  store.objects.filter fun key document => key.kind = kind && test key.ns document

theorem mem_entriesWhere {kind : Kind} {test : String → Json → Bool} {key : Key}
    {document : Json} :
    (key, document) ∈ (store.entriesWhere kind test).entries ↔
      store.document? key = some document ∧ key.kind = kind ∧ test key.ns document = true := by
  have found : (key, document) ∈ (store.entriesWhere kind test).entries ↔
      (store.entriesWhere kind test).get? key = some document :=
    ⟨Assoc.get?_of_mem (store.entriesWhere kind test).ascending.distinct, Assoc.mem_of_get?⟩
  rw [found, entriesWhere, KeyMap.get?_filter, Option.filter_eq_some_iff]
  simp [document?]

/-- Whether entries are the chosen objects of a kind, each under its place, in the order of the
places. -/
structure Lists (store : MemoryStore) (kind : Kind) (chosen : String → Object kind → Prop)
    (entries : List (Key × Object kind)) : Prop where
  ascending : (entries.map Prod.fst).Pairwise (· < ·)
  exact : ∀ key object, (key, object) ∈ entries ↔
    key.kind = kind ∧ store.object? kind key.ns key.name = some object ∧ chosen key.ns object

/-- The documents that satisfy a test are those of the objects that it chooses. -/
theorem exists_lists (wellFormed : store.WellFormed) {kind : Kind} (test : String → Json → Bool)
    (chosen : String → Object kind → Prop)
    (chooses : ∀ ns object, test ns object.encode = true ↔ chosen ns object) :
    ∃ entries, store.Lists kind chosen entries ∧
      (store.documentsWhere kind test).filterMap (Object.decode? kind) = entries.map Prod.snd := by
  refine ⟨(store.entriesWhere kind test).entries.filterMap fun entry : Key × Json =>
    (Object.decode? kind entry.2).map (entry.1, ·), ⟨?_, fun key object => ?_⟩, ?_⟩
  · exact (store.entriesWhere kind test).ascending.sublist (Assoc.sublist_keys_filterMap _ _)
  · obtain ⟨keyKind, keyNs, keyName⟩ := key
    simp only [List.mem_filterMap, Prod.exists, mem_entriesWhere]
    constructor
    · rintro ⟨place, document, ⟨found, isKind, passes⟩, decodes⟩
      obtain ⟨listed, read, same⟩ := Option.map_eq_some_iff.mp decodes
      cases same
      cases isKind
      obtain ⟨stored, rfl, -⟩ := wellFormed.exists_object found
      cases (Object.decode?_encode stored).symm.trans read
      exact ⟨rfl, (object?_eq_some_iff wellFormed).mpr found, (chooses keyNs object).mp passes⟩
    · rintro ⟨isKind, found, passes⟩
      cases isKind
      refine ⟨_, object.encode, ⟨(object?_eq_some_iff wellFormed).mp found, rfl,
        (chooses keyNs object).mpr passes⟩, ?_⟩
      rw [Object.decode?_encode, Option.map_some]
  · exact (Assoc.values_filterMap _ _).symm

/-- A listing that does not fail gives the objects of the namespace that carry the labels. -/
theorem exists_lists_list (wellFormed : store.WellFormed) {kind : Kind}
    (running : store.fails .list kind = false) (ns : String) (labels : LabelMap) :
    ∃ entries, store.Lists kind (fun place object => place = ns ∧ object.Carries labels) entries ∧
      (store.list kind ns labels).1 = .ok (entries.map Prod.snd) := by
  obtain ⟨entries, lists, same⟩ := exists_lists wellFormed
    (fun place document => place = ns && StoredDocument.hasLabels document labels)
    (fun place (object : Object kind) => place = ns ∧ object.Carries labels)
    (fun place object => by
      rw [Bool.and_eq_true, decide_eq_true_iff, StoredDocument.hasLabels_encode])
  refine ⟨entries, lists, ?_⟩
  rw [list_eq, running, mapM_read fun _ member =>
    exists_object_of_mem_documentsWhere wellFormed member, same]
  rfl

/-- A listing of the storage classes that does not fail gives all of them. -/
theorem exists_lists_listStorageClasses (wellFormed : store.WellFormed)
    (running : store.fails .list .storageClass = false) :
    ∃ entries, store.Lists .storageClass (fun _ _ => True) entries ∧
      store.listStorageClasses.1 = .ok (entries.map Prod.snd) := by
  obtain ⟨entries, lists, same⟩ := exists_lists wellFormed (fun _ _ => true)
    (fun _ (_ : StorageClass) => True) (fun _ _ => by simp)
  refine ⟨entries, lists, ?_⟩
  rw [listStorageClasses_eq, running, mapM_read fun _ member =>
    exists_object_of_mem_documentsWhere wellFormed member, same]
  rfl

/-- The storage classes are listed in the order of their places, unless listings are to fail. -/
theorem answer_listStorageClasses_cases (wellFormed : store.WellFormed) :
    store.fails .list .storageClass = true ∧
        store.answer .listStorageClasses =
          (.error (.injected .list .storageClass ""), store.called .list .storageClass "") ∨
      ∃ entries, store.Lists .storageClass (fun _ _ => True) entries ∧
        store.answer .listStorageClasses =
          (.ok (entries.map Prod.snd), store.called .list .storageClass "") := by
  have left : store.listStorageClasses.2 = store.called .list .storageClass "" := by
    rw [listStorageClasses_eq]
  cases failing : store.fails .list .storageClass with
  | true =>
    refine Or.inl ⟨rfl, Prod.ext ?_ left⟩
    rw [answer, listStorageClasses_eq, failing]
    rfl
  | false =>
    obtain ⟨entries, lists, listed⟩ := exists_lists_listStorageClasses wellFormed failing
    exact Or.inr ⟨entries, lists, Prod.ext listed left⟩

/-- Whether entries are the pods of a namespace that carry the given labels, each under its place,
in the order of the places. -/
structure ListsPods (store : MemoryStore) (ns : String) (labels : LabelMap)
    (entries : List (Key × Pod)) : Prop where
  ascending : (entries.map Prod.fst).Pairwise (· < ·)
  exact : ∀ key pod, (key, pod) ∈ entries ↔
    key.kind = .pod ∧ key.ns = ns ∧ store.object? .pod ns key.name = some pod ∧ pod.Carries labels

/-- The pods that a report names are those that carry the labels. -/
theorem exists_listsPods (wellFormed : store.WellFormed) (ns : String) (labels : LabelMap) :
    ∃ entries, store.ListsPods ns labels entries ∧ store.pods ns labels = entries.map Prod.snd := by
  obtain ⟨entries, ⟨ascending, exact⟩, same⟩ := exists_lists wellFormed
    (fun place document => place = ns && StoredDocument.hasLabels document labels)
    (fun place (pod : Pod) => place = ns ∧ pod.Carries labels)
    (fun place pod => by
      rw [Bool.and_eq_true, decide_eq_true_iff, StoredDocument.hasLabels_encode])
  refine ⟨entries, ⟨ascending, fun key pod => (exact key pod).trans ?_⟩, same⟩
  constructor
  · rintro ⟨isPod, found, inNs, carries⟩
    exact ⟨isPod, inNs, inNs ▸ found, carries⟩
  · rintro ⟨isPod, inNs, found, carries⟩
    exact ⟨isPod, inNs ▸ found, inNs, carries⟩

end MemoryStore

end Caretaker
