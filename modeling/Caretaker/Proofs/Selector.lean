import Caretaker.Proofs.Api.Client
import Caretaker.Proofs.Store.Listing
import Caretaker.Text.Split

/-!
# Reading selectors

A selector is read by splitting it at its commas and each part at its first equals sign
(`Selector.pairs?`).  From the text of labels that keep clear of the separators this reads the
entries of the labels in the order of their names (`Selector.pairs?_text`).  So the objects that
meet what is read from the selector of a message are those that a store lists for the labels
(`Selector.text_means`).
-/

namespace Caretaker

namespace Selector

/-- Whether names and values keep clear of what separates them. -/
structure IsPlain (labels : LabelMap) : Prop where
  names : ∀ entry ∈ labels.entries, '=' ∉ entry.1.toList ∧ ',' ∉ entry.1.toList
  values : ∀ entry ∈ labels.entries, ',' ∉ entry.2.toList

/-- The pair that a part of a selector states: what stands before the first equals sign, and what
stands behind it. -/
def pair? (part : String) : Option (String × String) :=
  match part.toList.dropWhile (· ≠ '=') with
  | [] => none
  | _ :: value => some (String.ofList (part.toList.takeWhile (· ≠ '=')), String.ofList value)

/-- The pairs that a selector states; the empty selector states none. -/
def pairs? (selector : String) : Option (List (String × String)) :=
  if selector = "" then some [] else (splitText ',' selector).mapM pair?

/-- The part of a selector that states a pair. -/
def part (entry : String × String) : String := entry.1 ++ "=" ++ entry.2

theorem toList_part (entry : String × String) :
    (part entry).toList = entry.1.toList ++ '=' :: entry.2.toList := by
  rw [part, String.toList_append, String.toList_append, List.append_assoc]
  rfl

/-- A value may hold equals signs; a name may not. -/
theorem pair?_part {entry : String × String} (apart : '=' ∉ entry.1.toList) :
    pair? (part entry) = some entry := by
  have name : ∀ char ∈ entry.1.toList, decide (char ≠ '=') = true :=
    fun char member => decide_eq_true fun same => apart (same ▸ member)
  rw [pair?, toList_part, List.dropWhile_append_of_pos name, List.takeWhile_append_of_pos name]
  simp

variable {labels other : LabelMap}

/-- The parts of the text of labels are those of the entries. -/
theorem splitText_text (plain : IsPlain labels) (some : labels.entries ≠ []) :
    splitText ',' (text labels) = labels.entries.map part := by
  have joined : text labels = (String.singleton ',').intercalate (labels.entries.map part) := rfl
  rw [joined, splitText_intercalate (by simpa using some)]
  intro each member
  obtain ⟨entry, found, rfl⟩ := List.mem_map.mp member
  have name := (plain.names entry found).2
  have value := plain.values entry found
  simp [toList_part, name, value]

/-- Only labels without entries have the empty text. -/
theorem text_eq_empty_iff (plain : IsPlain labels) : text labels = "" ↔ labels.entries = [] := by
  constructor
  · intro empty
    refine List.eq_nil_iff_forall_not_mem.mpr fun entry found => ?_
    have parts := splitText_text plain (List.ne_nil_of_mem found)
    have blank : part entry ∈ splitText ',' "" := by
      rw [← empty, parts]
      exact List.mem_map_of_mem found
    have none : (part entry).toList = [] := by
      rw [List.mem_singleton.mp blank]
      rfl
    rw [toList_part] at none
    exact List.append_ne_nil_of_right_ne_nil _ (List.cons_ne_nil _ _) none
  · intro none
    rw [text, none]
    rfl

/-- What is read from the text of labels are the entries, in the order of their names. -/
theorem pairs?_text (plain : IsPlain labels) : pairs? (text labels) = some labels.entries := by
  by_cases empty : labels.entries = []
  · rw [pairs?, if_pos ((text_eq_empty_iff plain).mpr empty), empty]
  · rw [pairs?, if_neg fun blank => empty ((text_eq_empty_iff plain).mp blank),
      splitText_text plain empty]
    exact Json.mapM_map_some fun entry member => pair?_part (plain.names entry member).1

/-- Labels are determined by their text. -/
theorem eq_of_text_eq (plain : IsPlain labels) (otherPlain : IsPlain other)
    (same : text labels = text other) : labels = other := by
  have read := (pairs?_text plain).symm.trans (same ▸ pairs?_text otherPlain)
  cases labels
  cases other
  cases Option.some.inj read
  rfl

end Selector

/-- Whether the labels of an object are as the pairs of a selector require. -/
def Object.Meets {kind : Kind} (object : Object kind) (pairs : List (String × String)) : Prop :=
  ∀ pair ∈ pairs, (object.metadata.labels.getD ∅).get? pair.1 = some pair.2

/-- An object carries labels if it meets their entries. -/
theorem Object.meets_entries {kind : Kind} {object : Object kind} {labels : LabelMap} :
    object.Meets labels.entries ↔ object.Carries labels :=
  ⟨fun meets name value given => meets (name, value) (Assoc.mem_of_get? given),
    fun carries _ member =>
      carries _ _ (Assoc.get?_of_mem labels.ascending.distinct member)⟩

/-- The paths of a kind hold no number sign, at which the text of a target ends. -/
theorem Kind.not_mem_paths (kind : Kind) :
    '#' ∉ kind.groupPath.toList ∧ '#' ∉ kind.plural.toList := by
  cases kind with
  | parent kind => cases kind <;> decide
  | child kind => cases kind <;> decide
  | pod => decide
  | storageClass => decide

/-- The query of a target goes last unless the text of the target ends before it. -/
theorem Target.getLast?_query {text : String} {query : List (String × String)} {target : Target}
    (whole : '#' ∉ text.toList) (given : query ≠ []) (read : ofText? text query = some target) :
    target.query.getLast? = query.getLast? := by
  simp only [ofText?, if_neg whole] at read
  split at read
  · cases read
    rw [List.getLast?_append, List.getLast?_eq_some_getLast given, Option.some_or]
  · cases read

/-- The last pair of the query of a listing is the selector of its labels. -/
theorem Api.Client.getLast?_query_of_list {kind : Kind} {ns : String} {labels : LabelMap}
    {sent : Message} (inNs : '#' ∉ ns.toList)
    (sends : message (.list kind ns labels) = .ok sent) :
    sent.target.query.getLast? = some ("labelSelector", Selector.text labels) := by
  have whole : '#' ∉ (kind.collectionPath ns ++ "?").toList := by
    simp [Kind.collectionPath, kind.not_mem_paths, inNs]
  rw [message, send] at sends
  split at sends
  case h_1 target read =>
    cases sends
    exact Target.getLast?_query whole (List.cons_ne_nil _ _) read
  case h_2 => cases sends

namespace Selector

variable {labels : LabelMap}

/-- Whether a selector means what labels mean.  Its pairs are their entries, in the order of the
names, and it is the last pair of the query of a listing.  The objects that meet its pairs are those
that a store accepts and lists for the labels. -/
structure Means (selector : String) (labels : LabelMap) : Prop where
  read : pairs? selector = some labels.entries
  ascending : (labels.entries.map Prod.fst).Pairwise (· < ·)
  empty : selector = "" ↔ labels = ∅
  injective : ∀ other, IsPlain other → text other = selector → other = labels
  sent : ∀ kind ns sent, '#' ∉ ns.toList →
    Api.Client.message (.list kind ns labels) = .ok sent →
    sent.target.query.getLast? = some ("labelSelector", selector)
  accepts : ∀ store : MemoryStore, store.Reachable → ∀ key document,
    store.document? key = some document → ∃ object : Object key.kind, document = object.encode ∧
      ∀ pairs, pairs? selector = some pairs →
        (StoredDocument.hasLabels document labels = true ↔ object.Meets pairs)
  lists : ∀ store : MemoryStore, store.Reachable → ∀ kind ns, store.fails .list kind = false →
    ∀ pairs, pairs? selector = some pairs → ∃ entries,
      store.Lists kind (fun place object => place = ns ∧ object.Meets pairs) entries ∧
        (store.list kind ns labels).1 = .ok (entries.map Prod.snd)

theorem eq_empty_iff : labels.entries = [] ↔ labels = ∅ := by
  constructor
  · intro none
    cases labels
    cases none
    rfl
  · rintro rfl
    rfl

/-- The text of labels means what the labels mean. -/
theorem text_means (plain : IsPlain labels) : Means (text labels) labels := by
  have read := pairs?_text plain
  refine
    { read
      ascending := labels.ascending
      empty := (text_eq_empty_iff plain).trans eq_empty_iff
      injective := fun other otherPlain same => eq_of_text_eq otherPlain plain same
      sent := fun kind ns sent => Api.Client.getLast?_query_of_list
      accepts := ?_
      lists := ?_ }
  · intro store reachable key document found
    obtain ⟨object, rfl, -⟩ := reachable.wellFormed.exists_object found
    refine ⟨object, rfl, fun pairs states => ?_⟩
    cases read.symm.trans states
    exact (StoredDocument.hasLabels_encode object labels).trans Object.meets_entries.symm
  · intro store reachable kind ns running pairs states
    cases read.symm.trans states
    simp only [Object.meets_entries]
    exact MemoryStore.exists_lists_list reachable.wellFormed running ns labels

section Sample

/-- Labels with an empty value and a value that holds an equals sign. -/
def tieredLabels : LabelMap := .ofList [("tier", "a=b"), ("app", "")]

/-- A store with a pod that carries these labels. -/
def tieredStore : MemoryStore :=
  .insert {} (⟨{ name := some "p", ns := some "ns", labels := some tieredLabels },
    Document.of _ (.object [])⟩ : Pod)

/-- The pod meets what is read from the selector. -/
theorem text_means_of_tieredLabels :
    IsPlain tieredLabels ∧ text tieredLabels = "app=,tier=a=b" ∧
      pairs? (text tieredLabels) = some [("app", ""), ("tier", "a=b")] ∧
      (∀ sent, Api.Client.message (.list .pod "ns" tieredLabels) = .ok sent →
        sent.target.query.getLast? = some ("labelSelector", "app=,tier=a=b")) ∧
      ∃ document, tieredStore.document? ⟨.pod, "ns", "p"⟩ = some document ∧
        ∃ pod : Pod, document = pod.encode ∧ pod.Meets [("app", ""), ("tier", "a=b")] := by
  have plain : IsPlain tieredLabels := ⟨by decide, by decide⟩
  have means := text_means plain
  refine ⟨plain, by decide, means.read, fun sent => means.sent .pod "ns" sent (by decide), ?_⟩
  have stored : (tieredStore.document? ⟨.pod, "ns", "p"⟩).any
      (StoredDocument.hasLabels · tieredLabels) = true := by
    decide +kernel
  obtain ⟨document, found, accepted⟩ := (Option.any_eq_true _ _).mp stored
  obtain ⟨pod, encoded, meets⟩ := means.accepts tieredStore (.insert .empty _) _ _ found
  exact ⟨document, found, pod, encoded, (meets _ means.read).mp accepted⟩

end Sample

end Selector

end Caretaker
