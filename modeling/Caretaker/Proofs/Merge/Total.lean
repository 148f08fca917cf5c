import Caretaker.Proofs.Codec.Edit
import Caretaker.Proofs.Merge.Copy
import Caretaker.Proofs.Shape.PutAll

/-!
# What a merge gives

A merge never fails (`merge_eq`).  Its result (`merged`) is the live object with labels and
annotations of the desired one, as far as its kind lets them follow, and with the mutable fields of
the desired body written into the live body.
-/

namespace Caretaker

open Json

namespace ChildKind

/-- The mutable fields of the metadata of a kind. -/
def metadataFields (kind : ChildKind) : List (List String) :=
  kind.mutableFields.filter fun path => path.head? = some "metadata"

/-- The mutable fields of the body of a kind. -/
def bodyFields (kind : ChildKind) : List (List String) :=
  kind.mutableFields.filter fun path => path.head? ≠ some "metadata"

/-- Whether a member of the metadata of a kind follows the desired object. -/
def follows (kind : ChildKind) (name : String) : Bool :=
  kind.metadataFields.contains ["metadata", name]

theorem mutableFields_eq (kind : ChildKind) :
    kind.mutableFields = kind.metadataFields ++ kind.bodyFields := by
  cases kind <;> decide

theorem metadataFields_cases (kind : ChildKind) :
    kind.metadataFields = [] ∨ kind.metadataFields = [["metadata", "labels"]] ∨
      kind.metadataFields = [["metadata", "labels"], ["metadata", "annotations"]] := by
  cases kind <;> decide

theorem notRoot_mutableFields (kind : ChildKind) : ∀ path ∈ kind.mutableFields, path ≠ [] := by
  cases kind <;> decide

theorem independent_mutableFields (kind : ChildKind) :
    kind.mutableFields.Pairwise Independent := by
  cases kind <;> decide +kernel

/-- All mutable fields of a body are in its specification. -/
theorem head_bodyFields (kind : ChildKind) : ∀ path ∈ kind.bodyFields, path.head? = some "spec" := by
  cases kind <;> decide

theorem admits_bodyFields (kind : ChildKind) : kind.shape.Admits kind.bodyFields where
  ordered := Shape.isOrdered_child kind
  record := kind.isBody_shape.record
  found := by cases kind <;> decide +kernel
  notRoot path member := kind.notRoot_mutableFields path (List.mem_filter.mp member).1
  independent := kind.independent_mutableFields.sublist List.filter_sublist

end ChildKind

/-- Live metadata with the labels and annotations of the desired object, as far as they follow. -/
def Metadata.following (kind : ChildKind) (live desired : Metadata) : Metadata :=
  { live with
    labels := if kind.follows "labels" then desired.labels else live.labels
    annotations := if kind.follows "annotations" then desired.annotations else live.annotations }

variable {kind : ChildKind}

/-- What the body of a child has at a path. -/
def Child.field (child : Child kind) (path : List String) : Option Json :=
  reach path (some (Document.json child.body))

/-- The live object with the mutable fields of the desired one. -/
def merged (live desired : Child kind) : Child kind :=
  ⟨live.metadata.following kind desired.metadata,
    Document.putAll desired.field kind.bodyFields live.body⟩

theorem body_json (child : Child kind) :
    Document.json child.body = .object (Document.members child.body) :=
  (Document.normalMembers kind.isBody_shape child.body).1

/-- What the document of a child holds besides the members that every object has is its body. -/
theorem reach_encode (child : Child kind) {name : String} (notHead : name ∉ headNames)
    (rest : List String) :
    reach (name :: rest) (some child.encode) =
      reach (name :: rest) (some (Document.json child.body)) := by
  rw [Object.reach_body child notHead, body_json]
  rfl

theorem at?_encode (child : Child kind) {name : String} (notHead : name ∉ headNames)
    (rest : List String) :
    child.encode.at? (name :: rest) = (Document.json child.body).at? (name :: rest) :=
  reach_encode child notHead rest

theorem reach_encode_body (child : Child kind) {path : List String} (member : path ∈ kind.bodyFields) :
    reach path (some child.encode) = child.field path := by
  have head := kind.head_bodyFields path member
  obtain ⟨name, rest, rfl⟩ := List.exists_cons_of_ne_nil ((kind.admits_bodyFields).notRoot path member)
  cases head
  exact reach_encode child (by decide) rest

theorem clear_encode (child : Child kind) :
    ∀ path ∈ kind.mutableFields, Clear path (some child.encode) := by
  obtain ⟨members, written⟩ := child.exists_written
  intro path member
  rw [ChildKind.mutableFields_eq, List.mem_append] at member
  rw [written.encoded]
  rcases member with inMetadata | inBody
  · have shape : ∀ path ∈ kind.metadataFields, ∃ name, path = ["metadata", name] := by
      cases kind <;> simp [ChildKind.metadataFields, ChildKind.mutableFields,
        ChildKind.mutableTemplateFields]
    obtain ⟨name, rfl⟩ := shape path inMetadata
    obtain ⟨inner, same, sorted⟩ := child.metadata.isRecord_encode
    refine Or.inr ⟨members, rfl, written.ascending, Or.inr ⟨inner, ?_, sorted, trivial⟩⟩
    rw [written.metadata, same]
  · have head := kind.head_bodyFields path inBody
    have clear := Document.clear_json kind.admits_bodyFields child.body path inBody
    obtain ⟨name, rest, rfl⟩ :=
      List.exists_cons_of_ne_nil (kind.admits_bodyFields.notRoot path inBody)
    cases head
    rw [body_json] at clear
    rcases clear with (blank | blank) | ⟨_, same, _, clear⟩
    · cases blank
    · cases blank
    · cases same
      refine Or.inr ⟨members, rfl, written.ascending, ?_⟩
      rw [written.body "spec" (by decide)]
      exact clear

/-- Copying the mutable metadata of the desired object updates the metadata of the live one. -/
theorem putAll_metadataFields (live desired : Child kind) :
    putAll (fun path => reach path (some desired.encode)) kind.metadataFields
        (some live.encode) =
      some ({ live with
        metadata := live.metadata.following kind desired.metadata } : Child kind).encode := by
  have labels : reach ["metadata", "labels"] (some desired.encode) =
      desired.metadata.labels.map .ofLabels :=
    (desired.reach_metadata _).trans desired.metadata.reach_labels
  have annotations : reach ["metadata", "annotations"] (some desired.encode) =
      desired.metadata.annotations.map .ofLabels :=
    (desired.reach_metadata _).trans desired.metadata.reach_annotations
  have putLabels := live.put_metadata (live.metadata.put_labels desired.metadata.labels)
  rcases kind.metadataFields_cases with none | one | both
  · simp [none, Metadata.following, ChildKind.follows]
  · simp [one, Metadata.following, ChildKind.follows, putAll_cons, labels, putLabels]
  · let labelled : Child kind :=
      { live with metadata := { live.metadata with labels := desired.metadata.labels } }
    have putAnnotations := labelled.put_metadata
      (labelled.metadata.put_annotations desired.metadata.annotations)
    have follows : kind.follows "labels" = true ∧ kind.follows "annotations" = true := by
      simp [ChildKind.follows, both]
    rw [both, putAll_cons, labels, putLabels, putAll_cons, annotations, putAll_nil]
    simp only [Metadata.following, follows, if_true]
    exact putAnnotations

/-- The members that every object has are not among the mutable fields of a body. -/
theorem get?_putAll_bodyFields {desired : Child kind} {members after : Json.Members}
    (clear : ∀ path ∈ kind.bodyFields, Clear path (some (.object members)))
    (put : putAll desired.field kind.bodyFields (some (.object members)) = some (.object after))
    {name : String} (head : name ∈ headNames) :
    Assoc.get? after name = Assoc.get? members name := by
  have admits := kind.admits_bodyFields
  have apart : ∀ path ∈ kind.bodyFields, Independent path [name] := by
    intro path member
    obtain ⟨first, rest, rfl⟩ := List.exists_cons_of_ne_nil (admits.notRoot path member)
    have isSpec := kind.head_bodyFields _ member
    cases isSpec
    refine independent_cons.mpr (Or.inl ?_)
    rintro rfl
    exact absurd head (by decide)
  have kept : reach [name] (putAll desired.field kind.bodyFields (some (.object members))) =
      reach [name] (some (.object members)) :=
    reach_putAll_of_independent clear admits.independent apart
  rw [put] at kept
  simpa only [reach_object, reach_nil] using kept

/-- Read as a body, the object whose mutable fields were written is the body with these fields. -/
theorem decode?_putAll_body (live desired : Child kind) {members after : Json.Members}
    (read : Document.decode? kind.shape (.object members) = some live.body)
    (clear : ∀ path ∈ kind.bodyFields, Clear path (some (.object members)))
    (put : putAll desired.field kind.bodyFields (some (.object members)) = some (.object after)) :
    Document.decode? kind.shape (.object after) =
      some (Document.putAll desired.field kind.bodyFields live.body) := by
  have admits := kind.admits_bodyFields
  rw [Document.decode?] at read ⊢
  split at read
  case isFalse => cases read
  case isTrue accepted =>
  have afterAccepted : kind.shape.accepts (.object after) = true := by
    have both : Shape.AcceptsMember kind.shape
        (putAll desired.field kind.bodyFields (some (.object members))) :=
      admits.acceptsMember_putAll clear accepted fun path member leaf found =>
        Shape.acceptsMember_of_normal (Shape.isOrdered_of_at? admits.ordered found)
          fun value there => Shape.normal_of_reach admits.ordered found
            (Document.normalField_json admits.record desired.body) there
    rw [put] at both
    exact both
  have own : Shape.fitMember (.optional, kind.shape) (some (.object members)) =
      some (Document.json live.body) := by
    rw [Shape.fitMember_some (by simp), ← Option.some.inj read]
    rfl
  rw [if_pos afterAccepted]
  refine congrArg some (Document.ext_some (Eq.trans ?_ (Document.json_putAll admits _).symm))
  rw [← own, admits.fitMember_putAll clear, put, Shape.fitMember_some (by simp)]
  rfl

/-- Reading after the mutable fields of a body were written. -/
theorem decode?_putAll_bodyFields (live desired : Child kind) :
    ∃ document, putAll desired.field kind.bodyFields (some live.encode) = some document ∧
      Object.decode? (.child kind) document =
        some ⟨live.metadata, Document.putAll desired.field kind.bodyFields live.body⟩ := by
  obtain ⟨members, written⟩ := live.exists_written
  have clear : ∀ path ∈ kind.bodyFields, Clear path (some (.object members)) := by
    intro path member
    rw [← written.encoded]
    exact clear_encode live path (List.mem_filter.mp member).1
  obtain ⟨after, put⟩ :=
    exists_putAll_object desired.field kind.admits_bodyFields.notRoot members
  have heads (name : String) (head : name ∈ headNames) :
      Assoc.get? after name = Assoc.get? members name := get?_putAll_bodyFields clear put head
  have body := decode?_putAll_body live desired
    (Document.decode?_of_members kind.isBody_shape live.body written.body) clear put
  have notNull : live.metadata.encode ≠ .null := Json.record_ne_null _
  have metadata : Json.requiredField after "metadata" {} Metadata.decode? = some live.metadata :=
    Json.requiredField_of_get? ((heads _ (by decide)).trans written.metadata)
      (Metadata.decode?_encode _) notNull
  refine ⟨.object after, by rw [written.encoded, put], ?_⟩
  simp [Object.decode?, Object.decodeDocument?, Json.members?, Object.absentOrText,
    heads "apiVersion" (by decide), heads "kind" (by decide), written.apiVersion, written.kindName,
    metadata, body]

/-- A merge never fails. -/
theorem merge_eq (live desired : Child kind) : merge live desired = .ok (merged live desired) := by
  let updated : Child kind :=
    { live with metadata := live.metadata.following kind desired.metadata }
  obtain ⟨document, put, read⟩ := decode?_putAll_bodyFields updated desired
  have copied : kind.mutableFields.foldlM (FieldEdit.copied? desired.encode) live.encode =
      some document := by
    obtain ⟨members, written⟩ := live.exists_written
    have clear := clear_encode live
    rw [written.encoded] at clear ⊢
    rw [FieldEdit.foldlM_copied? desired.encode clear kind.independent_mutableFields
      kind.notRoot_mutableFields, ChildKind.mutableFields_eq, putAll_append, ← written.encoded,
      putAll_metadataFields,
      putAll_congr fun path member => reach_encode_body desired member]
    exact put
  rw [merge, copied]
  simp only [read]
  rfl

end Caretaker
