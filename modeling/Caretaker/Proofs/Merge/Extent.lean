import Caretaker.Proofs.Merge.Total
import Caretaker.Proofs.Shape.Made

/-!
# What a merge changes

A merge gives the mutable fields of the live object the values of the desired one and leaves the
rest of the live object alone (`merge_confined`).  Objects that a desired field needs and the live
object lacks are made, with the members that are always there, and the list of containers is never
missing from a pod specification.
-/

namespace Caretaker

open Json

/-- The place of the pod specification in a workload. -/
def podSpecField : List String := ["spec", "template", "spec"]

/-- The list of containers in a workload. -/
def containersField : List String := podSpecField ++ ["containers"]

namespace Shape

/-- Whether a shape is of some documents only. -/
def isProper : Shape → Bool
  | .any => false
  | _ => true

theorem not_normal_null {shape : Shape} (proper : shape.isProper = true) : ¬ shape.Normal .null := by
  cases shape <;> simp_all [isProper, Normal]

end Shape

namespace ChildKind

/-- Every mutable field is of some documents only. -/
theorem isProper_bodyFields (kind : ChildKind) :
    ∀ path ∈ kind.bodyFields, (kind.shape.at? path).all Shape.isProper = true := by
  cases kind <;> decide +kernel

/-- Of the mutable fields only the containers are always there. -/
theorem field?_bodyFields (kind : ChildKind) : ∀ path ∈ kind.bodyFields,
    ∃ field, kind.shape.field? path = some field ∧ Shape.fitField field none =
      if path = containersField then some (.array []) else none := by
  have each : ∀ path ∈ kind.bodyFields, ((kind.shape.field? path).any fun field =>
      decide (Shape.fitField field none =
        if path = containersField then some (.array []) else none)) = true := by
    cases kind <;> decide +kernel
  intro path member
  obtain ⟨field, found, same⟩ := (Option.any_eq_true _ _).mp (each path member)
  exact ⟨field, found, of_decide_eq_true same⟩

end ChildKind

variable {kind : ChildKind}

/-- A mutable field of the body has the value of the desired object after a merge. -/
theorem field_merged_of_some (live desired : Child kind) {path : List String} {value : Json}
    (member : path ∈ kind.bodyFields) (given : desired.field path = some value) :
    (merged live desired).field path = some value := by
  have admits := kind.admits_bodyFields
  obtain ⟨leaf, found⟩ := Option.isSome_iff_exists.mp (admits.found path member)
  have normal : leaf.Normal value := Shape.normal_of_reach admits.ordered found
    (Document.normalField_json admits.record desired.body) given
  have proper : leaf.isProper = true := by
    have each := kind.isProper_bodyFields path member
    rwa [found, Option.all_some] at each
  have notNull : value ≠ .null := by
    rintro rfl
    exact Shape.not_normal_null proper normal
  exact Document.reach_putAll_of_mem admits live.body member found given notNull normal

/-- A mutable field of the body that the desired object lacks is gone after a merge, unless it is
the list of containers of a pod specification. -/
theorem field_merged_of_none (live desired : Child kind) {path : List String}
    (member : path ∈ kind.bodyFields) (lacking : desired.field path = none) :
    (merged live desired).field path =
      if path = containersField ∧ ((merged live desired).field podSpecField).isSome then
        some (.array [])
      else none := by
  obtain ⟨field, found, filled⟩ := kind.field?_bodyFields path member
  have taken := Document.reach_putAll_of_taken kind.admits_bodyFields live.body member found lacking
  rw [filled] at taken
  refine taken.trans ?_
  by_cases containers : path = containersField
  · subst containers
    show ((merged live desired).field podSpecField).bind _ = _
    cases (merged live desired).field podSpecField <;> simp
  · rw [if_neg containers, if_neg fun both => containers both.1]
    exact Option.bind_fun_none _

/-- Children with the same metadata agree in the members that every object has. -/
theorem reach_encode_head {left right : Child kind} (same : left.metadata = right.metadata)
    {name : String} (head : name ∈ headNames) (rest : List String) :
    reach (name :: rest) (some left.encode) = reach (name :: rest) (some right.encode) := by
  obtain ⟨leftMembers, leftWritten⟩ := left.exists_written
  obtain ⟨rightMembers, rightWritten⟩ := right.exists_written
  rw [leftWritten.encoded, rightWritten.encoded, reach_object, reach_object]
  simp only [headNames, List.mem_cons, List.not_mem_nil, or_false] at head
  rcases head with rfl | rfl | rfl
  · rw [leftWritten.apiVersion, rightWritten.apiVersion]
  · rw [leftWritten.kindName, rightWritten.kindName]
  · rw [leftWritten.metadata, rightWritten.metadata, same]

/-- In the members that every object has a merge writes the mutable fields of the metadata. -/
theorem reach_merged_head (live desired : Child kind) {name : String} (head : name ∈ headNames)
    (rest : List String) :
    reach (name :: rest) (some (merged live desired).encode) =
      reach (name :: rest) (putAll (fun path => reach path (some desired.encode))
        kind.metadataFields (some live.encode)) := by
  let copied : Child kind :=
    { live with metadata := live.metadata.following kind desired.metadata }
  have same : (merged live desired).metadata = copied.metadata := rfl
  rw [putAll_metadataFields]
  exact reach_encode_head same head rest

namespace ChildKind

theorem head_metadataFields (kind : ChildKind) {path : List String}
    (member : path ∈ kind.metadataFields) : ∃ name, path = ["metadata", name] := by
  rcases kind.metadataFields_cases with none | one | both
  · rw [none] at member
    cases member
  · rw [one, List.mem_singleton] at member
    exact ⟨_, member⟩
  · rw [both, List.mem_cons, List.mem_singleton] at member
    rcases member with rfl | rfl
    · exact ⟨_, rfl⟩
    · exact ⟨_, rfl⟩

/-- The mutable fields of the metadata are those in the members that every object has. -/
theorem mem_bodyFields_of_not_head (kind : ChildKind) {name : String} {rest : List String}
    (member : name :: rest ∈ kind.mutableFields) (notHead : name ∉ headNames) :
    name :: rest ∈ kind.bodyFields := by
  rw [mutableFields_eq, List.mem_append] at member
  refine member.resolve_left fun inMetadata => notHead ?_
  obtain ⟨_, same⟩ := kind.head_metadataFields inMetadata
  cases same
  decide

end ChildKind

section Metadata

variable (live desired : Child kind)

theorem clear_metadataFields : ∀ path ∈ kind.metadataFields, Clear path (some live.encode) :=
  fun path member => clear_encode live path (List.mem_filter.mp member).1

theorem independent_metadataFields : kind.metadataFields.Pairwise Independent :=
  kind.independent_mutableFields.sublist List.filter_sublist

/-- The mutable fields of the metadata have the values of the desired object after a merge. -/
theorem reach_merged_of_metadata {path : List String} (member : path ∈ kind.metadataFields) :
    reach path (some (merged live desired).encode) = reach path (some desired.encode) := by
  obtain ⟨name, rfl⟩ := kind.head_metadataFields member
  rw [reach_merged_head live desired (by decide)]
  exact reach_putAll (clear_metadataFields live) independent_metadataFields member

/-- A merge makes no object in the members that every object has. -/
theorem not_makes_head {name : String} {place rest : List String} (head : name ∈ headNames)
    (makes : Makes desired.encode.at? kind.mutableFields (some live.encode) place) :
    ¬ place <+: name :: rest := by
  intro above
  obtain ⟨below, rfl, -⟩ := makes.exists_cons above
  obtain ⟨absent, field, member, ⟨tail, rfl⟩, apart, -⟩ := makes
  rw [ChildKind.mutableFields_eq, List.mem_append] at member
  rcases member with inMetadata | inBody
  · -- A proper part of a field of the metadata is the metadata, which is there.
    obtain ⟨last, same⟩ := kind.head_metadataFields inMetadata
    cases below with
    | nil =>
      cases same
      rw [Object.reach_metadata] at absent
      cases absent
    | cons next below =>
      simp only [List.cons_append, List.cons.injEq, List.append_eq_nil_iff] at same
      obtain ⟨-, -, rfl, rfl⟩ := same
      exact apart (List.append_nil _).symm
  · have isSpec := kind.head_bodyFields _ inBody
    cases isSpec
    exact absurd head (by decide)

end Metadata

/-- Besides the members that every object has a merge makes the objects that the fields of the body
need. -/
theorem makes_encode (live desired : Child kind) {name : String} {below : List String}
    (notHead : name ∉ headNames) :
    Makes desired.encode.at? kind.mutableFields (some live.encode) (name :: below) ↔
      Makes desired.field kind.bodyFields (some (Document.json live.body)) (name :: below) := by
  rw [Makes, Makes, reach_encode live notHead]
  refine and_congr_right fun _ => ⟨?_, ?_⟩
  · rintro ⟨field, member, ⟨tail, rfl⟩, apart, isSome⟩
    have inBody := kind.mem_bodyFields_of_not_head member notHead
    refine ⟨_, inBody, List.prefix_append _ _, apart, ?_⟩
    rwa [← reach_encode_body desired inBody]
  · rintro ⟨field, member, above, apart, isSome⟩
    refine ⟨field, (List.mem_filter.mp member).1, above, apart, ?_⟩
    rwa [← reach_encode_body desired member] at isSome

/-- A merge spares every place apart from the mutable fields. -/
theorem spares_merged (live desired : Child kind) {path : List String} (notRoot : path ≠ [])
    (independent : ∀ field ∈ kind.mutableFields, Independent field path) :
    kind.shape.Spares desired.encode.at? kind.mutableFields (some live.encode) path
      (some live.encode) (some (merged live desired).encode) := by
  obtain ⟨name, rest, rfl⟩ := List.exists_cons_of_ne_nil notRoot
  by_cases head : name ∈ headNames
  · refine Or.inr ⟨fun place makes => not_makes_head live desired head makes, ?_⟩
    rw [reach_merged_head live desired head]
    exact reach_putAll_of_independent (clear_metadataFields live) independent_metadataFields
      fun field member => independent field (List.mem_filter.mp member).1
  · have inBody : ∀ field ∈ kind.bodyFields, Independent field (name :: rest) :=
      fun field member => independent field (List.mem_filter.mp member).1
    have spares : kind.shape.Spares desired.field kind.bodyFields
        (some (Document.json live.body)) (name :: rest) (some (Document.json live.body))
        (some (Document.json (merged live desired).body)) :=
      Document.reach_putAll_of_independent kind.admits_bodyFields live.body inBody
    rw [Shape.Spares, reach_encode live head, reach_encode (merged live desired) head]
    rcases spares with ⟨place, tail, same, makes, reached⟩ | ⟨notMade, reached⟩
    · obtain ⟨below, rfl, -⟩ := makes.exists_cons ⟨tail, same.symm⟩
      exact Or.inl ⟨_, tail, same, (makes_encode live desired head).mpr makes, reached⟩
    · refine Or.inr ⟨fun place makes above => ?_, reached⟩
      obtain ⟨below, rfl, -⟩ := makes.exists_cons above
      exact notMade _ ((makes_encode live desired head).mp makes) above

/-- A kind without mutable fields is never changed. -/
theorem merged_of_no_fields (live desired : Child kind) (none : kind.mutableFields = []) :
    merged live desired = live := by
  have metadataFields : kind.metadataFields = [] := by
    rw [ChildKind.metadataFields, none, List.filter_nil]
  have follows (name : String) : kind.follows name = false := by
    rw [ChildKind.follows, metadataFields]
    rfl
  have metadata : live.metadata.following kind desired.metadata = live.metadata := by
    simp only [Metadata.following, follows, Bool.false_eq_true, if_false]
  have body : Document.putAll desired.field kind.bodyFields live.body = live.body := by
    refine Document.putAll_of_reach kind.admits_bodyFields fun path member => ?_
    rw [ChildKind.bodyFields, none] at member
    cases member
  rw [merged, metadata, body]

/-- A merge never fails.  Its result has each mutable field as the desired object has it, except
that a pod specification keeps a list of containers; every place apart from the mutable fields is as
it was in the live object, or lies in an object that was made for a mutable field and holds what is
always there; and a kind without mutable fields is left alone. -/
theorem merge_confined (live desired : Child kind) :
    ∃ result, merge live desired = .ok result ∧
      (∀ field ∈ kind.mutableFields, ∀ value, desired.encode.at? field = some value →
        result.encode.at? field = some value) ∧
      (∀ field ∈ kind.mutableFields, desired.encode.at? field = none →
        result.encode.at? field =
          if field = containersField ∧ (result.encode.at? podSpecField).isSome then
            some (.array [])
          else none) ∧
      (∀ path, (∀ field ∈ kind.mutableFields, Independent field path) →
        (∃ place rest, path = place ++ rest ∧
            Makes desired.encode.at? kind.mutableFields (some live.encode) place ∧
            result.encode.at? path = (kind.shape.made? place).bind (·.at? rest)) ∨
          (∀ place, Makes desired.encode.at? kind.mutableFields (some live.encode) place →
            ¬ place <+: path) ∧
            result.encode.at? path = live.encode.at? path) ∧
      (kind.mutableFields = [] → result = live) := by
  refine ⟨merged live desired, merge_eq live desired, ?given, ?lacking, ?apart,
    merged_of_no_fields live desired⟩
  case given =>
    intro field member value given
    rw [ChildKind.mutableFields_eq, List.mem_append] at member
    rcases member with inMetadata | inBody
    · exact (reach_merged_of_metadata live desired inMetadata).trans given
    · have own : desired.field field = some value :=
        (reach_encode_body desired inBody).symm.trans given
      exact (reach_encode_body _ inBody).trans (field_merged_of_some live desired inBody own)
  case lacking =>
    intro field member lacking
    rw [ChildKind.mutableFields_eq, List.mem_append] at member
    rcases member with inMetadata | inBody
    · obtain ⟨name, rfl⟩ := kind.head_metadataFields inMetadata
      have apart : ["metadata", name] ≠ containersField := by simp [containersField, podSpecField]
      rw [if_neg fun both => apart both.1]
      exact (reach_merged_of_metadata live desired inMetadata).trans lacking
    · have own : desired.field field = none := (reach_encode_body desired inBody).symm.trans lacking
      have podSpec : (merged live desired).encode.at? podSpecField =
          (merged live desired).field podSpecField := reach_encode _ (by decide) _
      rw [podSpec]
      exact (reach_encode_body _ inBody).trans (field_merged_of_none live desired inBody own)
  case apart =>
    intro path independent
    by_cases isRoot : path = []
    · -- Every mutable field meets the root, so there is none.
      subst isRoot
      have noFields : kind.mutableFields = [] := List.eq_nil_iff_forall_not_mem.mpr
        fun field member => (independent field member).2 List.nil_prefix
      refine Or.inr ⟨fun place makes => ?_, by rw [merged_of_no_fields live desired noFields]⟩
      obtain ⟨-, field, member, -⟩ := makes
      rw [noFields] at member
      cases member
    · exact spares_merged live desired isRoot independent

/-- A specification that is made for a stateful set holds a selector and a template. -/
example : ChildKind.statefulSet.shape.made? ["spec"] =
    some (.object [("selector", .object []), ("template", .object [])]) := rfl

section Sample

/-- A stateful set with a specification, or none. -/
def sampleSet (body : Json.Members) : Child .statefulSet :=
  ⟨{ name := some "db", ns := some "ns" }, Document.of _ (.object body)⟩

/-- The specification of a stateful set of three pods. -/
def threeReplicas : Json.Members := [("spec", .object [("replicas", .int 3)])]

/-- A set without a specification gets the number of replicas, and its name stays. -/
theorem merge_confined_of_three_replicas :
    ∃ result, merge (sampleSet []) (sampleSet threeReplicas) = .ok result ∧
      result.encode.at? ["spec", "replicas"] = some (.int 3) ∧
      result.encode.at? ["spec", "template", "spec", "volumes"] = none ∧
      result.encode.at? ["metadata", "name"] =
        (sampleSet []).encode.at? ["metadata", "name"] := by
  obtain ⟨result, same, given, lacking, apart, -⟩ :=
    merge_confined (sampleSet []) (sampleSet threeReplicas)
  have notHead : "spec" ∉ headNames := by decide
  refine ⟨result, same, ?_, ?_, ?_⟩
  · exact given _ (by decide) _ (by rw [at?_encode _ notHead]; rfl)
  · have absent := lacking ["spec", "template", "spec", "volumes"] (by decide)
      (by rw [at?_encode _ notHead]; rfl)
    rwa [if_neg fun both => absurd both.1 (by decide)] at absent
  · rcases apart ["metadata", "name"] (by decide) with ⟨place, rest, split, makes, -⟩ | ⟨-, kept⟩
    · exact absurd ⟨rest, split.symm⟩ (not_makes_head _ _ (by decide) makes)
    · exact kept

end Sample

end Caretaker
