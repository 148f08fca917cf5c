import Caretaker.Proofs.Codec.Object
import Caretaker.Proofs.Json.Put

/-!
# Edits of documents are updates of objects

Writing a member into a record is writing the record with another value in that field
(`Json.put_record`).  So the edits that a store and a merge make in the metadata of a document are
updates of the metadata of the object that the document was written from
(`Object.put_metadata`).
-/

namespace Caretaker

namespace Json

/-- Two lists of fields that differ at most in the values of one name. -/
def AgreeOff (name : String) :
    List (String × Option Json) → List (String × Option Json) → Prop
  | [], [] => True
  | (k, value) :: rest, (l, other) :: others =>
    k = l ∧ (k ≠ name → value = other) ∧ AgreeOff name rest others
  | _, _ => False

theorem AgreeOff.get?_eq {name : String} {before after : List (String × Option Json)}
    (agree : AgreeOff name before after) {other : String} (apart : other ≠ name) :
    Assoc.get? after other = Assoc.get? before other := by
  induction before generalizing after with
  | nil =>
    cases after with
    | nil => rfl
    | cons => cases agree
  | cons field rest ih =>
    obtain ⟨k, value⟩ := field
    cases after with
    | nil => cases agree
    | cons field others =>
      obtain ⟨l, value'⟩ := field
      obtain ⟨rfl, same, agree⟩ := agree
      rw [Assoc.get?_cons, Assoc.get?_cons, ih agree]
      split
      case isTrue hit => rw [same (hit ▸ apart)]
      case isFalse => rfl

/-- Two records that differ in one field are written one from the other. -/
theorem put_record {document edited : Json} {before after : List (String × Option Json)}
    {name : String} {value : Option Json} (written : document = record before)
    (rewritten : edited = record after) (agree : AgreeOff name before after)
    (distinct : Assoc.Distinct before) (stillDistinct : Assoc.Distinct after)
    (there : Assoc.get? after name = some value) :
    put value [name] (some document) = some edited := by
  obtain ⟨old, oldSame, oldSorted, oldFound⟩ := exists_record written distinct
  obtain ⟨new, newSame, newSorted, newFound⟩ := exists_record rewritten stillDistinct
  rw [oldSame, newSame, put_object]
  refine congrArg (some ∘ Json.object)
    (Assoc.eq_of_get?_eq (Assoc.ascending_alter oldSorted _ _) newSorted fun query => ?_)
  rw [Assoc.get?_alter, newFound]
  split
  case isTrue same =>
    rw [same, there]
    rfl
  case isFalse apart => rw [oldFound, agree.get?_eq apart]

theorem reach_record {document : Json} {fields : List (String × Option Json)}
    (written : document = record fields) (distinct : Assoc.Distinct fields) (name : String) :
    reach [name] (some document) = (Assoc.get? fields name).join := by
  obtain ⟨members, same, -, found⟩ := exists_record written distinct
  rw [same, reach_object, reach_nil, found]

/-- Whether a document is an object with ascending members. -/
def IsRecord (document : Json) : Prop :=
  ∃ members, document = .object members ∧ Assoc.Ascending members

theorem isRecord_record (fields : List (String × Option Json)) : IsRecord (record fields) :=
  ⟨_, rfl, Assoc.ascending_ofList _⟩

end Json

namespace Metadata

open Json

theorem isRecord_encode (metadata : Metadata) : metadata.encode.IsRecord := isRecord_record _

theorem put_labels (metadata : Metadata) (labels : Option LabelMap) :
    put (labels.map .ofLabels) ["labels"] (some metadata.encode) =
      some ({ metadata with labels := labels } : Metadata).encode := by
  exact put_record (show metadata.encode = _ from rfl) (show Metadata.encode _ = _ from rfl)
    (by simp [AgreeOff]) (by simp [Assoc.Distinct]) (by simp [Assoc.Distinct]) (by simp [Assoc.get?_cons])

theorem put_annotations (metadata : Metadata) (annotations : Option LabelMap) :
    put (annotations.map .ofLabels) ["annotations"] (some metadata.encode) =
      some ({ metadata with annotations := annotations } : Metadata).encode := by
  exact put_record (show metadata.encode = _ from rfl) (show Metadata.encode _ = _ from rfl)
    (by simp [AgreeOff]) (by simp [Assoc.Distinct]) (by simp [Assoc.Distinct]) (by simp)

theorem put_uid (metadata : Metadata) (uid : String) :
    put (some (.text uid)) ["uid"] (some metadata.encode) =
      some ({ metadata with uid := some uid } : Metadata).encode := by
  exact put_record (show metadata.encode = _ from rfl) (show Metadata.encode _ = _ from rfl)
    (by simp [AgreeOff]) (by simp [Assoc.Distinct]) (by simp [Assoc.Distinct]) (by simp [Assoc.get?_cons])

theorem put_resourceVersion (metadata : Metadata) (version : String) :
    put (some (.text version)) ["resourceVersion"] (some metadata.encode) =
      some ({ metadata with resourceVersion := some version } : Metadata).encode := by
  exact put_record (show metadata.encode = _ from rfl) (show Metadata.encode _ = _ from rfl)
    (by simp [AgreeOff]) (by simp [Assoc.Distinct]) (by simp [Assoc.Distinct]) (by simp [Assoc.get?_cons])

theorem reach_labels (metadata : Metadata) :
    reach ["labels"] (some metadata.encode) = metadata.labels.map .ofLabels := by
  rw [reach_record (show metadata.encode = _ from rfl) (by simp [Assoc.Distinct])]
  simp [Assoc.get?_cons]

theorem reach_annotations (metadata : Metadata) :
    reach ["annotations"] (some metadata.encode) = metadata.annotations.map .ofLabels := by
  rw [reach_record (show metadata.encode = _ from rfl) (by simp [Assoc.Distinct])]
  simp

theorem reach_resourceVersion (metadata : Metadata) :
    reach ["resourceVersion"] (some metadata.encode) = metadata.resourceVersion.map .text := by
  rw [reach_record (show metadata.encode = _ from rfl) (by simp [Assoc.Distinct])]
  simp [Assoc.get?_cons]

theorem reach_uid (metadata : Metadata) :
    reach ["uid"] (some metadata.encode) = metadata.uid.map .text := by
  rw [reach_record (show metadata.encode = _ from rfl) (by simp [Assoc.Distinct])]
  simp [Assoc.get?_cons]

theorem reach_namespace (metadata : Metadata) :
    reach ["namespace"] (some metadata.encode) = metadata.ns.map .text := by
  rw [reach_record (show metadata.encode = _ from rfl) (by simp [Assoc.Distinct])]
  simp [Assoc.get?_cons]

theorem reach_name (metadata : Metadata) :
    reach ["name"] (some metadata.encode) = metadata.name.map .text := by
  rw [reach_record (show metadata.encode = _ from rfl) (by simp [Assoc.Distinct])]
  simp [Assoc.get?_cons]

end Metadata

namespace Object

open Json

variable {kind : Kind}

/-- Objects with the same body and metadata that is written one from the other are written one from
the other. -/
theorem put_metadata (object : Object kind) {metadata : Metadata} {value : Option Json}
    {rest : List String}
    (edited : put value rest (some object.metadata.encode) = some metadata.encode) :
    put value ("metadata" :: rest) (some object.encode) =
      some ({ object with metadata := metadata } : Object kind).encode := by
  obtain ⟨old, oldWritten⟩ := object.exists_written
  obtain ⟨new, newWritten⟩ := ({ object with metadata := metadata } : Object kind).exists_written
  rw [oldWritten.encoded, newWritten.encoded, put_object, oldWritten.metadata, edited]
  refine congrArg (some ∘ Json.object) (Assoc.eq_of_get?_eq
    (Assoc.ascending_alter oldWritten.ascending _ _) newWritten.ascending fun query => ?_)
  rw [Assoc.get?_alter]
  split
  case isTrue same => rw [same, newWritten.metadata]
  case isFalse apart =>
    by_cases head : query ∈ headNames
    · simp only [headNames, List.mem_cons, apart, List.not_mem_nil, or_false] at head
      rcases head with rfl | rfl
      · rw [oldWritten.apiVersion, newWritten.apiVersion]
      · rw [oldWritten.kindName, newWritten.kindName]
    · rw [oldWritten.body query head, newWritten.body query head]

theorem reach_metadata (object : Object kind) (rest : List String) :
    reach ("metadata" :: rest) (some object.encode) =
      reach rest (some object.metadata.encode) := by
  obtain ⟨members, written⟩ := object.exists_written
  rw [written.encoded, reach_object, written.metadata]

theorem reach_body (object : Object kind) {name : String} (notHead : name ∉ headNames)
    (rest : List String) :
    reach (name :: rest) (some object.encode) =
      reach rest (Assoc.get? (kind.encodeBody object.body) name) := by
  obtain ⟨members, written⟩ := object.exists_written
  rw [written.encoded, reach_object, written.body name notHead]

end Object

end Caretaker
