import Caretaker.Object
import Caretaker.Proofs.Codec.Metadata
import Caretaker.Proofs.Codec.Parent

/-!
# Objects are read back as they were written

The document of an object holds its API version, its kind, its metadata and the members of its body
(`Object.exists_written`), and every object is read back from it (`Object.decode?_encode`).  So an
object is determined by its document (`Object.encode_injective`).
-/

namespace Caretaker

namespace Observed

variable {Spec Status : Type}

theorem decode?_of_get? {readSpec : Json → Option Spec} {readStatus : Json → Option Status}
    {writeSpec : Spec → Json} {writeStatus : Status → Json} {members : Json.Members}
    {body : Observed Spec Status}
    (specBack : readSpec (writeSpec body.spec) = some body.spec)
    (statusBack : ∀ status, readStatus (writeStatus status) = some status)
    (notNull : ∀ status, writeStatus status ≠ .null)
    (spec : Assoc.get? members "spec" = some (writeSpec body.spec))
    (status : Assoc.get? members "status" = body.status.map writeStatus) :
    decode? readSpec readStatus members = some body := by
  have back : Json.optionalField members "status" readStatus = some body.status :=
    Json.optionalField_of_get? writeStatus status (fun each _ => statusBack each) notNull
  simp only [decode?, spec, back, Option.bind_eq_bind, Option.bind_some, specBack]
  rfl

theorem get?_encode_spec (writeSpec : Spec → Json) (writeStatus : Status → Json)
    (body : Observed Spec Status) :
    Assoc.get? (encode writeSpec writeStatus body) "spec" = some (writeSpec body.spec) := by
  unfold encode
  cases body.status <;> rfl

theorem get?_encode_status (writeSpec : Spec → Json) (writeStatus : Status → Json)
    (body : Observed Spec Status) :
    Assoc.get? (encode writeSpec writeStatus body) "status" = body.status.map writeStatus := by
  unfold encode
  cases body.status <;> simp [Assoc.get?_cons]

theorem get?_encode_other (writeSpec : Spec → Json) (writeStatus : Status → Json)
    (body : Observed Spec Status) {name : String} (notSpec : "spec" ≠ name)
    (notStatus : "status" ≠ name) :
    Assoc.get? (encode writeSpec writeStatus body) name = none := by
  unfold encode
  split <;> simp [Assoc.get?_cons, notSpec, notStatus]

theorem distinct_encode (writeSpec : Spec → Json) (writeStatus : Status → Json)
    (body : Observed Spec Status) : Assoc.Distinct (encode writeSpec writeStatus body) := by
  unfold encode
  split <;> simp [Assoc.Distinct]

end Observed

/-- The names of the members that every object has. -/
def headNames : List String := ["apiVersion", "kind", "metadata"]

/-- The shapes of the bodies of objects other than parents: records in order, none of whose fields
has the name of a member that every object has. -/
structure Shape.IsBody (shape : Shape) : Prop where
  record : shape = .record shape.fields
  ordered : shape.isOrdered = true
  head : ∀ name ∈ headNames, Assoc.get? shape.fields name = none

theorem ChildKind.isBody_shape (kind : ChildKind) : kind.shape.IsBody where
  record := by cases kind <;> rfl
  ordered := Shape.isOrdered_child kind
  head := by cases kind <;> decide

theorem Shape.isBody_pod : Shape.pod.IsBody := ⟨rfl, isOrdered_pod, by decide⟩

theorem Shape.isBody_storageClass : Shape.storageClass.IsBody :=
  ⟨rfl, by decide +kernel, by decide⟩

theorem Shape.IsBody.sorted {shape : Shape} (isBody : shape.IsBody) :
    Assoc.Ascending shape.fields := by
  have ordered := isBody.ordered
  rw [isBody.record, Shape.isOrdered] at ordered
  exact Shape.ascending_of_areOrdered ordered

namespace Document

variable {shape : Shape}

/-- The members of a body, looked up by name. -/
theorem normalMembers (isBody : shape.IsBody) (document : Document shape) :
    document.json = .object document.members ∧
      Shape.NormalMembers shape.fields document.members := by
  have record := isBody.record
  generalize shape.fields = fields at record
  subst record
  obtain ⟨members, same, read, normal⟩ := document.exists_members
  rw [read]
  exact ⟨same, normal⟩

theorem ascending_members (isBody : shape.IsBody) (document : Document shape) :
    Assoc.Ascending document.members :=
  (document.normalMembers isBody).2.ascending isBody.sorted

theorem get?_members_head (isBody : shape.IsBody) (document : Document shape) {name : String}
    (head : name ∈ headNames) : Assoc.get? document.members name = none := by
  have suits := (document.normalMembers isBody).2.field isBody.sorted name
  rwa [isBody.head name head] at suits

/-- A body is read from every object that holds its members. -/
theorem decode?_of_members (isBody : shape.IsBody) (document : Document shape)
    {members : Json.Members}
    (alike : ∀ name ∉ headNames, Assoc.get? members name = Assoc.get? document.members name) :
    decode? shape (.object members) = some document := by
  have own : decode? shape document.json = some document := document.decode?_json isBody.ordered
  rw [(document.normalMembers isBody).1] at own
  rw [← own]
  have fieldNames : ∀ field ∈ shape.fields,
      Assoc.get? members field.1 = Assoc.get? document.members field.1 := by
    intro field member
    apply alike field.1
    intro head
    have present := Assoc.get?_of_mem isBody.sorted.distinct member
    rw [isBody.head _ head] at present
    cases present
  have record := isBody.record
  generalize shape.fields = fields at record fieldNames
  clear own alike isBody
  revert document
  subst record
  exact fun _ fieldNames => decode?_congr fieldNames

end Document

namespace Kind

theorem distinct_encodeBody (kind : Kind) (body : kind.Body) :
    Assoc.Distinct (kind.encodeBody body) := by
  cases kind with
  | parent kind =>
    cases kind with
    | healthService => exact Observed.distinct_encode _ _ body
    | mustGatherService => exact Observed.distinct_encode _ _ body
    | mustGatherJob => simp [encodeBody, ParentKind.encodeBody, Assoc.Distinct]
    | mustGatherConfig => simp [encodeBody, ParentKind.encodeBody, Assoc.Distinct]
  | child kind => exact (Document.ascending_members kind.isBody_shape body).distinct
  | pod => exact (Document.ascending_members Shape.isBody_pod body).distinct
  | storageClass => exact (Document.ascending_members Shape.isBody_storageClass body).distinct

theorem get?_encodeBody_head (kind : Kind) (body : kind.Body) {name : String}
    (head : name ∈ headNames) : Assoc.get? (kind.encodeBody body) name = none := by
  cases kind with
  | parent kind =>
    have notSpec : "spec" ≠ name := by
      rintro rfl
      exact absurd head (by decide)
    have notStatus : "status" ≠ name := by
      rintro rfl
      exact absurd head (by decide)
    cases kind with
    | healthService => exact Observed.get?_encode_other _ _ body notSpec notStatus
    | mustGatherService => exact Observed.get?_encode_other _ _ body notSpec notStatus
    | mustGatherJob => exact Assoc.get?_cons_of_ne notSpec _ _
    | mustGatherConfig => exact Assoc.get?_cons_of_ne notSpec _ _
  | child kind => exact Document.get?_members_head kind.isBody_shape body head
  | pod => exact Document.get?_members_head Shape.isBody_pod body head
  | storageClass => exact Document.get?_members_head Shape.isBody_storageClass body head

end Kind

namespace Object

variable {kind : Kind}

/-- What the document of an object holds. -/
structure Written (object : Object kind) (members : Json.Members) : Prop where
  encoded : object.encode = .object members
  ascending : Assoc.Ascending members
  apiVersion : Assoc.get? members "apiVersion" = some (.text kind.apiVersion)
  kindName : Assoc.get? members "kind" = some (.text kind.name)
  metadata : Assoc.get? members "metadata" = some object.metadata.encode
  body : ∀ name ∉ headNames,
    Assoc.get? members name = Assoc.get? (kind.encodeBody object.body) name

theorem exists_written (object : Object kind) : ∃ members, object.Written members := by
  have distinct : Assoc.Distinct
      ([("apiVersion", Json.text kind.apiVersion), ("kind", .text kind.name),
        ("metadata", object.metadata.encode)] ++ kind.encodeBody object.body) := by
    have apart (name : String) (head : name ∈ headNames) :
        ∀ other ∈ kind.encodeBody object.body, other.1 ≠ name := by
      intro other member same
      have present := Assoc.isSome_get?_iff.mpr (List.mem_map_of_mem (f := Prod.fst) member)
      rw [same, kind.get?_encodeBody_head object.body head] at present
      cases present
    have body := kind.distinct_encodeBody object.body
    simp only [List.cons_append, List.nil_append, Assoc.distinct_cons, List.mem_cons]
    refine ⟨?_, ?_, ?_, body⟩
    · rintro other (rfl | rfl | member)
      · simp
      · simp
      · exact apart _ (by simp [headNames]) other member
    · rintro other (rfl | member)
      · simp
      · exact apart _ (by simp [headNames]) other member
    · exact apart _ (by simp [headNames])
  refine ⟨_, rfl, Assoc.ascending_ofList _, ?_, ?_, ?_, ?_⟩
  · rw [Assoc.get?_ofList distinct, List.cons_append, Assoc.get?_cons_self]
  · rw [Assoc.get?_ofList distinct]
    simp [Assoc.get?_cons]
  · rw [Assoc.get?_ofList distinct]
    simp [Assoc.get?_cons]
  · intro name notHead
    simp only [headNames, List.mem_cons, List.not_mem_nil, or_false, not_or] at notHead
    rw [Assoc.get?_ofList distinct]
    simp [Assoc.get?_cons, Ne.symm notHead.1, Ne.symm notHead.2.1, Ne.symm notHead.2.2]

theorem decodeDocument?_of_written {shape : Shape} (isBody : shape.IsBody) {object : Object kind}
    {members : Json.Members} (written : object.Written members) (document : Document shape)
    (body : ∀ name ∉ headNames, Assoc.get? members name = Assoc.get? document.members name) :
    decodeDocument? kind shape object.encode = some (object.metadata, document) := by
  have notNull : object.metadata.encode ≠ .null := Json.record_ne_null _
  have metadata : Json.requiredField members "metadata" {} Metadata.decode? =
      some object.metadata :=
    Json.requiredField_of_get? written.metadata (Metadata.decode?_encode _) notNull
  rw [written.encoded]
  simp [decodeDocument?, Json.members?, absentOrText, written.apiVersion, written.kindName,
    metadata, document.decode?_of_members isBody body]

/-- An object is read back from its document. -/
theorem decode?_encode (object : Object kind) : decode? kind object.encode = some object := by
  obtain ⟨members, written⟩ := object.exists_written
  have spec := written.body "spec" (by decide)
  have status := written.body "status" (by decide)
  cases kind with
  | child kind =>
    rw [decode?, decodeDocument?_of_written kind.isBody_shape written object.body written.body]
    rfl
  | pod =>
    rw [decode?, decodeDocument?_of_written Shape.isBody_pod written object.body written.body]
    rfl
  | storageClass =>
    rw [decode?, decodeDocument?_of_written Shape.isBody_storageClass written object.body
      written.body]
    rfl
  | parent kind =>
    suffices body : kind.decodeBody? members = some object.body by
      rw [decode?, written.encoded]
      simp only [decodeParent?, ParentKind.members?, Option.bind_eq_bind, Option.bind_some,
        written.metadata, Metadata.decode?_encode, body]
      rfl
    cases kind with
    | healthService =>
      exact Observed.decode?_of_get? (HealthServiceSpec.decode?_encode _)
        HealthServiceStatus.decode?_encode (fun _ => Json.record_ne_null _)
        (spec.trans (Observed.get?_encode_spec _ _ _))
        (status.trans (Observed.get?_encode_status _ _ _))
    | mustGatherService =>
      exact Observed.decode?_of_get? (MustGatherServiceSpec.decode?_encode _)
        MustGatherServiceStatus.decode?_encode (fun _ => Json.record_ne_null _)
        (spec.trans (Observed.get?_encode_spec _ _ _))
        (status.trans (Observed.get?_encode_status _ _ _))
    | mustGatherJob =>
      have found : Assoc.get? members "spec" = some (MustGatherJobSpec.encode object.body) := spec
      rw [ParentKind.decodeBody?, found]
      exact MustGatherJobSpec.decode?_encode object.body
    | mustGatherConfig =>
      have found : Assoc.get? members "spec" = some (MustGatherConfigSpec.encode object.body) :=
        spec
      rw [ParentKind.decodeBody?, found]
      exact MustGatherConfigSpec.decode?_encode object.body

theorem encode_injective {left right : Object kind} (same : left.encode = right.encode) :
    left = right := by
  have read := left.decode?_encode
  rw [same, right.decode?_encode] at read
  exact (Option.some.inj read).symm

end Object

end Caretaker
