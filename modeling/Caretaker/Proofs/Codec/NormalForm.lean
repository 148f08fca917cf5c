import Caretaker.Proofs.Codec.Object

/-!
# What parents are written as

Absent fields are left out of a document, so null stands nowhere in what a parent asks for or in its
status (`Object.nullFree_encodeBody`).  A normal form of a shape that does not admit every
document holds no null either (`Shape.nullFree_of_normal`).  Parents are read back from their
documents, and reading and writing a document of theirs again changes nothing
(`Object.parent_codec`).
-/

namespace Caretaker

namespace Json

/-- Null stands nowhere in a document. -/
inductive NullFree : Json → Prop where
  | bool (value : Bool) : NullFree (.bool value)
  | int (value : Int) : NullFree (.int value)
  | decimal (value : Decimal) : NullFree (.decimal value)
  | text (value : String) : NullFree (.text value)
  | array {items : List Json} (each : ∀ item ∈ items, NullFree item) : NullFree (.array items)
  | object {members : Members} (each : ∀ member ∈ members, NullFree member.2) :
    NullFree (.object members)

namespace NullFree

attribute [simp] bool int text

/-- A record without null in any field that has a value. -/
theorem record {fields : List (String × Option Json)}
    (each : ∀ field ∈ fields, ∀ value, field.2 = some value → NullFree value) :
    NullFree (Json.record fields) := by
  refine .object fun member present => ?_
  obtain ⟨field, isField, written⟩ := List.mem_filterMap.mp (Shape.mem_ofList present)
  obtain ⟨value, given, rfl⟩ := Option.map_eq_some_iff.mp written
  exact each field isField value given

@[simp]
theorem ofTexts (texts : List String) : NullFree (.ofTexts texts) := by
  refine .array fun item member => ?_
  obtain ⟨text, -, rfl⟩ := List.mem_map.mp member
  exact .text text

@[simp]
theorem ofLabels (labels : LabelMap) : NullFree (.ofLabels labels) := by
  refine .object fun member present => ?_
  obtain ⟨entry, -, rfl⟩ := List.mem_map.mp present
  exact .text entry.2

theorem textUnlessEmpty (text : String) (value : Json)
    (written : Json.textUnlessEmpty text = some value) : NullFree value := by
  unfold Json.textUnlessEmpty at written
  split at written
  · cases written
  · cases written
    exact .text text

theorem textsUnlessEmpty (texts : List String) (value : Json)
    (written : Json.textsUnlessEmpty texts = some value) : NullFree value := by
  unfold Json.textsUnlessEmpty at written
  split at written
  · cases written
  · cases written
    exact .ofTexts texts

end NullFree

end Json

namespace Shape

open Json

mutual

/-- Whether a shape admits arbitrary documents nowhere. -/
def isDefinite : Shape → Bool
  | .any => false
  | .list item => item.isDefinite
  | .map value => value.isDefinite
  | .record fields => areDefinite fields
  | _ => true

/-- Whether the fields of a record admit arbitrary documents nowhere. -/
def areDefinite : List (String × Presence × Shape) → Bool
  | [] => true
  | (_, _, shape) :: fields => shape.isDefinite && areDefinite fields

end

mutual

/-- Null stands nowhere in the normal forms of a definite shape. -/
theorem nullFree_of_normal : ∀ (shape : Shape) {document : Json}, shape.isDefinite = true →
    shape.Normal document → NullFree document
  | .any, _, definite, _ => nomatch definite
  | .text, _, _, ⟨_, same⟩ => same ▸ .text _
  | .constant _, _, _, same => same ▸ .text _
  | .base64, _, _, ⟨_, same, _⟩ => same ▸ .text _
  | .time, _, _, ⟨_, same⟩ => same ▸ .text _
  | .flag, _, _, ⟨_, same⟩ => same ▸ .bool _
  | .int32, _, _, ⟨_, same, _⟩ => same ▸ .int _
  | .int64, _, _, ⟨_, same, _⟩ => same ▸ .int _
  | .textOrInt32, _, _, .inl ⟨_, same⟩ => same ▸ .text _
  | .textOrInt32, _, _, .inr ⟨_, same, _⟩ => same ▸ .int _
  | .list item, _, definite, ⟨_, same, each⟩ => by
    rw [isDefinite] at definite
    exact same ▸ .array fun _ member => nullFree_of_normal item definite (each _ member)
  | .map value, _, definite, ⟨_, same, _, each⟩ => by
    rw [isDefinite] at definite
    exact same ▸ .object fun _ member => nullFree_of_normal value definite (each _ member)
  | .record fields, _, definite, ⟨_, same, normal⟩ => by
    rw [isDefinite] at definite
    exact same ▸ .object (nullFree_of_normalMembers fields definite normal)

/-- Null stands nowhere in the members of the normal forms of a definite record. -/
theorem nullFree_of_normalMembers : ∀ (fields : List (String × Presence × Shape))
    {members : Members}, areDefinite fields = true → NormalMembers fields members →
      ∀ member ∈ members, NullFree member.2
  | [], _, _, normal => by
    rw [NormalMembers] at normal
    exact normal ▸ List.forall_mem_nil _
  | (name, presence, shape) :: fields, _, definite, normal => by
    rw [areDefinite, Bool.and_eq_true] at definite
    rw [NormalMembers] at normal
    rcases normal with ⟨_, _, rfl, -, here, rest⟩ | ⟨-, rest⟩
    · exact List.forall_mem_cons.mpr ⟨nullFree_of_normal shape definite.1 here,
        nullFree_of_normalMembers fields definite.2 rest⟩
    · exact nullFree_of_normalMembers fields definite.2 rest

end

end Shape

namespace Document

open Json

variable {shape : Shape}

theorem nullFree_json (definite : shape.isDefinite = true) (document : Document shape) :
    NullFree document.json :=
  shape.nullFree_of_normal definite document.normal

theorem nullFree_encodeList (definite : shape.isDefinite = true)
    (documents : List (Document shape)) : NullFree (encodeList documents) := by
  refine .array fun item member => ?_
  obtain ⟨document, -, rfl⟩ := List.mem_map.mp member
  exact document.nullFree_json definite

end Document

section Specifications

open Json

@[simp]
theorem nullFree_tolerations (tolerations : List Toleration) :
    NullFree (Document.encodeList tolerations) :=
  Document.nullFree_encodeList (by decide) tolerations

@[simp]
theorem nullFree_securityContext (securityContext : SecurityContext) :
    NullFree securityContext.json :=
  securityContext.nullFree_json (by decide)

@[simp]
theorem nullFree_requirements (requirements : ResourceRequirements) : NullFree requirements.json :=
  requirements.nullFree_json (by decide)

@[simp]
theorem ImageSpec.nullFree_encode (image : ImageSpec) : NullFree image.encode := by
  apply NullFree.record
  simp

@[simp]
theorem ResourceSpec.nullFree_encode (spec : ResourceSpec) : NullFree spec.encode := by
  apply NullFree.record
  simpa using ⟨NullFree.textUnlessEmpty spec.cpu, NullFree.textUnlessEmpty spec.memory⟩

@[simp]
theorem Resources.nullFree_encode (resources : Resources) : NullFree resources.encode := by
  apply NullFree.record
  simp

@[simp]
theorem MemcachedSpec.nullFree_encode (spec : MemcachedSpec) : NullFree spec.encode := by
  apply NullFree.record
  simp

@[simp]
theorem HealthCheckSpec.nullFree_encode (spec : HealthCheckSpec) : NullFree spec.encode := by
  apply NullFree.record
  simp

theorem HealthServiceSpec.nullFree_encode (spec : HealthServiceSpec) : NullFree spec.encode := by
  apply NullFree.record
  simp

theorem HealthServiceStatus.nullFree_encode (status : HealthServiceStatus) :
    NullFree status.encode := by
  apply NullFree.record
  simpa using ⟨NullFree.textsUnlessEmpty status.healthCheckNodes,
    NullFree.textsUnlessEmpty status.memcachedNodes⟩

@[simp]
theorem MustGatherSpec.nullFree_encode (spec : MustGatherSpec) : NullFree spec.encode := by
  apply NullFree.record
  simp

@[simp]
theorem ClaimSpec.nullFree_encode (spec : ClaimSpec) : NullFree spec.encode := by
  apply NullFree.record
  simp

theorem MustGatherServiceSpec.nullFree_encode (spec : MustGatherServiceSpec) :
    NullFree spec.encode := by
  apply NullFree.record
  simp

theorem MustGatherServiceStatus.nullFree_encode (status : MustGatherServiceStatus) :
    NullFree status.encode := by
  apply NullFree.record
  simpa using NullFree.textsUnlessEmpty status.mustGatherServiceNodes

theorem MustGatherJobSpec.nullFree_encode (spec : MustGatherJobSpec) : NullFree spec.encode := by
  apply NullFree.record
  simp

theorem MustGatherConfigSpec.nullFree_encode (spec : MustGatherConfigSpec) :
    NullFree spec.encode := by
  apply NullFree.record
  simp

end Specifications

namespace Object

open Json

/-- What reading a document of a kind and writing it again gives. -/
def normalForm? (kind : Kind) (document : Json) : Option Json :=
  (decode? kind document).map encode

/-- What was read and written is its own normal form. -/
theorem bind_normalForm? (kind : Kind) (document : Json) :
    (normalForm? kind document).bind (normalForm? kind) = normalForm? kind document := by
  rw [normalForm?]
  cases decode? kind document with
  | none => rfl
  | some object =>
    show (decode? kind object.encode).map encode = some object.encode
    rw [object.decode?_encode]
    rfl

/-- Null stands nowhere in the members of a parent that say what it asks for and what its status
is. -/
theorem nullFree_encodeBody (kind : ParentKind) (body : kind.Body) {name : String} {value : Json}
    (found : Assoc.get? (kind.encodeBody body) name = some value) : NullFree value := by
  have observed {Spec Status : Type} {writeSpec : Spec → Json} {writeStatus : Status → Json}
      (body : Observed Spec Status) (spec : NullFree (writeSpec body.spec))
      (status : ∀ status, NullFree (writeStatus status)) :
      ∀ member ∈ Observed.encode writeSpec writeStatus body, NullFree member.2 := by
    unfold Observed.encode
    split
    · exact List.forall_mem_singleton.mpr spec
    · exact List.forall_mem_cons.mpr ⟨spec, List.forall_mem_singleton.mpr (status _)⟩
  have each : ∀ member ∈ kind.encodeBody body, NullFree member.2 := by
    cases kind with
    | healthService =>
      exact observed body (HealthServiceSpec.nullFree_encode _)
        HealthServiceStatus.nullFree_encode
    | mustGatherService =>
      exact observed body (MustGatherServiceSpec.nullFree_encode _)
        MustGatherServiceStatus.nullFree_encode
    | mustGatherJob =>
      exact List.forall_mem_singleton.mpr (MustGatherJobSpec.nullFree_encode body)
    | mustGatherConfig =>
      exact List.forall_mem_singleton.mpr (MustGatherConfigSpec.nullFree_encode body)
  exact each _ (Assoc.mem_of_get? found)

/-- A parent is read back from its document, which names its version and kind and has no null in
what the parent asks for or in its status; and whatever document describes a parent, reading and
writing it gives one that the same leaves as it is. -/
theorem parent_codec (kind : ParentKind) (object : Object (.parent kind)) :
    decode? (.parent kind) object.encode = some object ∧
      object.encode.get? "apiVersion" =
        some (.text (ParentKind.group ++ "/" ++ ParentKind.version)) ∧
      object.encode.get? "kind" = some (.text kind.name) ∧
      (∃ spec, object.encode.get? "spec" = some spec ∧ spec.NullFree) ∧
      (∀ status, object.encode.get? "status" = some status → status.NullFree) ∧
      ∀ document, (normalForm? (.parent kind) document).bind (normalForm? (.parent kind)) =
        normalForm? (.parent kind) document := by
  obtain ⟨members, written⟩ := object.exists_written
  have body (name : String) (notHead : name ∉ headNames) :
      object.encode.get? name = Assoc.get? (kind.encodeBody object.body) name := by
    rw [written.encoded]
    exact written.body name notHead
  have apiVersion : (Kind.parent kind).apiVersion = ParentKind.group ++ "/" ++ ParentKind.version :=
    if_neg (show ParentKind.group ≠ "" by decide)
  have spec : ∃ spec, Assoc.get? (kind.encodeBody object.body) "spec" = some spec := by
    cases kind with
    | healthService => exact ⟨_, Observed.get?_encode_spec _ _ _⟩
    | mustGatherService => exact ⟨_, Observed.get?_encode_spec _ _ _⟩
    | mustGatherJob => exact ⟨_, rfl⟩
    | mustGatherConfig => exact ⟨_, rfl⟩
  refine ⟨object.decode?_encode, ?_, ?_, ?_, fun status found => ?_, bind_normalForm? _⟩
  · rw [written.encoded, ← apiVersion]
    exact written.apiVersion
  · rw [written.encoded]
    exact written.kindName
  · obtain ⟨spec, found⟩ := spec
    exact ⟨spec, (body "spec" (by decide)).trans found, nullFree_encodeBody kind _ found⟩
  · exact nullFree_encodeBody kind object.body ((body "status" (by decide)).symm.trans found)

end Object

end Caretaker
