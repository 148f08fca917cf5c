import Caretaker.Proofs.Merge.Total

/-!
# Laws of merging

Merging the same desired object again changes nothing (`merged_idem`).  Of two desired objects that
are merged one after the other only the second one counts, provided that the live object already has
the parents of what the first one writes (`merged_merged`).  An object has these parents once the
first one was merged onto it (`hosts_merged`), and later merges keep them (`Hosts.merged`).
-/

namespace Caretaker

open Json

variable {kind : ChildKind}

/-- Whether a live object has the parents of every mutable field that a desired one has. -/
def Hosts (live desired : Child kind) : Prop :=
  ∀ path ∈ kind.bodyFields, (desired.field path).isSome →
    Open path (some (Document.json live.body))

theorem field_merged (live desired : Child kind) {path : List String}
    (member : path ∈ kind.bodyFields) (given : (desired.field path).isSome) :
    Open path (some (Document.json (merged live desired).body)) :=
  Document.open_putAll_of_isSome kind.admits_bodyFields live.body member given

/-- What is merged onto an object finds its parents there the next time. -/
theorem hosts_merged (live desired : Child kind) : Hosts (merged live desired) desired :=
  fun _ member given => field_merged live desired member given

theorem Hosts.merged {live first : Child kind} (hosts : Hosts live first) (second : Child kind) :
    Hosts (merged live second) first :=
  fun path member given =>
    Document.open_putAll kind.admits_bodyFields member (hosts path member given)

theorem following_following (live first second : Metadata) :
    (live.following kind first).following kind second = live.following kind second := by
  simp only [Metadata.following]
  congr 1 <;> split <;> rfl

/-- Merging the same object again changes nothing. -/
theorem merged_idem (live desired : Child kind) :
    merged (merged live desired) desired = merged live desired := by
  simp only [merged, following_following,
    Document.putAll_idem kind.admits_bodyFields live.body]

/-- Only the last merged object counts. -/
theorem merged_merged {live first : Child kind} (hosts : Hosts live first)
    (second : Child kind) : merged (merged live first) second = merged live second := by
  simp only [merged, following_following, Document.putAll_putAll kind.admits_bodyFields hosts]

/-- Merging an object onto one with the same body, labels and annotations changes nothing. -/
theorem merged_of_alike {live desired : Child kind} (body : live.body = desired.body)
    (labels : live.metadata.labels = desired.metadata.labels)
    (annotations : live.metadata.annotations = desired.metadata.annotations) :
    merged live desired = live := by
  have metadata : live.metadata.following kind desired.metadata = live.metadata := by
    simp only [Metadata.following, ← labels, ← annotations, ite_self]
  have same : Document.putAll desired.field kind.bodyFields live.body = live.body := by
    apply Document.putAll_of_reach kind.admits_bodyFields
    intro path _
    rw [Child.field, ← body]
  rw [merged, metadata, same]

/-- Each of several objects that are merged in turn finds its parents in the result. -/
theorem hosts_foldl_merged {live desired : Child kind} {list : List (Child kind)}
    (hosts : Hosts live desired ∨ desired ∈ list) : Hosts (list.foldl merged live) desired := by
  induction list generalizing live with
  | nil => exact hosts.resolve_right List.not_mem_nil
  | cons head rest ih =>
    refine ih ?_
    rcases hosts with hosts | member
    · exact Or.inl (hosts.merged head)
    · rcases List.mem_cons.mp member with rfl | later
      · exact Or.inl (hosts_merged live desired)
      · exact Or.inr later

/-- Objects whose parents are there do not count if another one is merged after them. -/
theorem merged_foldl_merged {live : Child kind} {list : List (Child kind)}
    (hosts : ∀ desired ∈ list, Hosts live desired) (last : Child kind) :
    merged (list.foldl merged live) last = merged live last := by
  induction list generalizing live with
  | nil => rfl
  | cons head rest ih =>
    have headHosts := hosts head List.mem_cons_self
    have restHosts : ∀ desired ∈ rest, Hosts (merged live head) desired := fun desired member =>
      (hosts desired (List.mem_cons_of_mem _ member)).merged head
    rw [List.foldl_cons, ih restHosts, merged_merged headHosts]

/-- Merging several objects in turn once more changes nothing. -/
theorem foldl_merged_idem (live : Child kind) (list : List (Child kind)) :
    list.foldl merged (list.foldl merged live) = list.foldl merged live := by
  rcases List.eq_nil_or_concat list with rfl | ⟨init, last, rfl⟩
  · rfl
  · rw [List.concat_eq_append]
    have hosts : ∀ desired ∈ init, Hosts ((init ++ [last]).foldl merged live) desired :=
      fun desired member => hosts_foldl_merged (Or.inr (List.mem_append_left _ member))
    calc (init ++ [last]).foldl merged ((init ++ [last]).foldl merged live)
        = merged (init.foldl merged ((init ++ [last]).foldl merged live)) last := by
          rw [List.foldl_append, List.foldl_cons, List.foldl_nil]
      _ = merged ((init ++ [last]).foldl merged live) last := merged_foldl_merged hosts last
      _ = merged (merged (init.foldl merged live) last) last := by
          rw [List.foldl_append, List.foldl_cons, List.foldl_nil]
      _ = merged (init.foldl merged live) last := merged_idem _ _
      _ = (init ++ [last]).foldl merged live := by
          rw [List.foldl_append, List.foldl_cons, List.foldl_nil]

end Caretaker
