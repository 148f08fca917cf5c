import Caretaker.Proofs.Codec.Edit
import Caretaker.Proofs.Version

/-!
# What a store does to documents

On the documents of objects, the edits of a store are updates of the objects: it reads uid and
version (`StoredDocument.uid_encode`, `StoredDocument.version_encode`), writes them
(`StoredDocument.setMetadataText_uid`, `StoredDocument.bumpVersion_encode`), and gives one object
the status of another (`StoredDocument.exists_withStatusOf`).
-/

namespace Caretaker

open Json

namespace Object

variable {kind : Kind}

/-- Objects with the same metadata agree on the members that every object has. -/
theorem get?_encode_head {left right : Object kind} (same : left.metadata = right.metadata)
    {name : String} (head : name ∈ headNames) : left.encode.get? name = right.encode.get? name := by
  obtain ⟨members, written⟩ := left.exists_written
  obtain ⟨others, otherWritten⟩ := right.exists_written
  rw [written.encoded, otherWritten.encoded]
  simp only [headNames, List.mem_cons, List.not_mem_nil, or_false] at head
  rcases head with rfl | rfl | rfl
  · exact written.apiVersion.trans otherWritten.apiVersion.symm
  · exact written.kindName.trans otherWritten.kindName.symm
  · exact written.metadata.trans (same ▸ otherWritten.metadata.symm)

theorem get?_encode_body (object : Object kind) {name : String} (notHead : name ∉ headNames) :
    object.encode.get? name = Assoc.get? (kind.encodeBody object.body) name := by
  obtain ⟨members, written⟩ := object.exists_written
  rw [written.encoded]
  exact written.body name notHead

/-- A document is that of an object if its members are. -/
theorem eq_encode {object : Object kind} {members : Members} (sorted : Assoc.Ascending members)
    (alike : ∀ name, Assoc.get? members name = object.encode.get? name) :
    .object members = object.encode := by
  obtain ⟨own, written⟩ := object.exists_written
  rw [written.encoded] at alike ⊢
  exact congrArg _ (Assoc.eq_of_get?_eq sorted written.ascending alike)

end Object

theorem Shape.normal_of_members {shape : Shape} (record : shape = .record shape.fields)
    {members : Members} (normal : Shape.NormalMembers shape.fields members) :
    shape.Normal (.object members) := by
  rw [record, Shape.Normal]
  exact ⟨members, rfl, normal⟩

/-- A document with one member taken from another one of the same shape. -/
theorem Document.exists_withMemberOf {shape : Shape} (isBody : shape.IsBody)
    (document other : Document shape) (name : String) :
    ∃ edited : Document shape,
      edited.members = Assoc.alter document.members name (Assoc.get? other.members name) := by
  have ownNormal := (document.normalMembers isBody).2
  have otherNormal := (other.normalMembers isBody).2
  have sorted := isBody.sorted
  have normal : Shape.NormalMembers shape.fields
      (Assoc.alter document.members name (Assoc.get? other.members name)) := by
    refine (Shape.normalMembers_iff sorted).mpr
      ⟨Assoc.ascending_alter (ownNormal.ascending sorted) _ _, fun query => ?_⟩
    rw [Assoc.get?_alter]
    split
    case isTrue same => exact same ▸ otherNormal.field sorted name
    case isFalse => exact ownNormal.field sorted query
  exact ⟨⟨_, Shape.normal_of_members isBody.record normal⟩, rfl⟩

/-- The status that a body is written with, if any. -/
def Kind.status? {kind : Kind} (body : kind.Body) : Option Json :=
  Assoc.get? (kind.encodeBody body) "status"

/-- Whether a body is another one of the same kind with the given status, or without any. -/
structure Kind.TakesStatus {kind : Kind} (body rest : kind.Body) (status : Option Json) :
    Prop where
  status : status? body = status
  others : ∀ name, name ≠ "status" →
    Assoc.get? (kind.encodeBody body) name = Assoc.get? (kind.encodeBody rest) name

/-- A body with the status of another one of the same kind. -/
theorem Kind.exists_body_withStatusOf (kind : Kind) (body other : kind.Body) :
    ∃ edited : kind.Body, TakesStatus edited body (status? other) := by
  have ofDocuments {shape : Shape} (isBody : shape.IsBody) (document other : Document shape) :
      ∃ edited : Document shape,
        Assoc.get? edited.members "status" = Assoc.get? other.members "status" ∧
        ∀ name, name ≠ "status" →
          Assoc.get? edited.members name = Assoc.get? document.members name := by
    obtain ⟨edited, same⟩ := Document.exists_withMemberOf isBody document other "status"
    refine ⟨edited, ?_, fun name apart => ?_⟩
    · rw [same, Assoc.get?_alter, if_pos rfl]
    · rw [same, Assoc.get?_alter, if_neg apart]
  have ofObserved {Spec Status : Type} (writeSpec : Spec → Json) (writeStatus : Status → Json)
      (body other : Observed Spec Status) :
      ∃ edited : Observed Spec Status,
        Assoc.get? (Observed.encode writeSpec writeStatus edited) "status" =
          Assoc.get? (Observed.encode writeSpec writeStatus other) "status" ∧
        ∀ name, name ≠ "status" →
          Assoc.get? (Observed.encode writeSpec writeStatus edited) name =
            Assoc.get? (Observed.encode writeSpec writeStatus body) name := by
    refine ⟨{ body with status := other.status }, ?_, fun name apart => ?_⟩
    · rw [Observed.get?_encode_status, Observed.get?_encode_status]
    · by_cases same : name = "spec"
      · rw [same, Observed.get?_encode_spec, Observed.get?_encode_spec]
      · rw [Observed.get?_encode_other _ _ _ (Ne.symm same) (Ne.symm apart),
          Observed.get?_encode_other _ _ _ (Ne.symm same) (Ne.symm apart)]
  have ofEdited {edited : kind.Body}
      (suits : status? edited = status? other ∧ ∀ name, name ≠ "status" →
        Assoc.get? (kind.encodeBody edited) name = Assoc.get? (kind.encodeBody body) name) :
      ∃ edited : kind.Body, TakesStatus edited body (status? other) :=
    ⟨edited, suits.1, suits.2⟩
  cases kind with
  | parent kind =>
    cases kind with
    | healthService => exact (ofObserved _ _ body other).elim fun _ => ofEdited
    | mustGatherService => exact (ofObserved _ _ body other).elim fun _ => ofEdited
    -- The other parents have no status at all.
    | mustGatherJob => exact ⟨body, rfl, fun _ _ => rfl⟩
    | mustGatherConfig => exact ⟨body, rfl, fun _ _ => rfl⟩
  | child kind => exact (ofDocuments kind.isBody_shape body other).elim fun _ => ofEdited
  | pod => exact (ofDocuments Shape.isBody_pod body other).elim fun _ => ofEdited
  | storageClass => exact (ofDocuments Shape.isBody_storageClass body other).elim fun _ => ofEdited

/-- A body is determined by the members that it is written with. -/
theorem Kind.eq_of_members {kind : Kind} {left right : kind.Body}
    (alike : ∀ name, Assoc.get? (kind.encodeBody left) name =
      Assoc.get? (kind.encodeBody right) name) : left = right := by
  obtain ⟨own, written⟩ := (⟨{}, left⟩ : Object kind).exists_written
  have same : (⟨{}, left⟩ : Object kind).encode = (⟨{}, right⟩ : Object kind).encode := by
    rw [written.encoded]
    refine Object.eq_encode written.ascending fun name => ?_
    have here : Assoc.get? own name = (⟨{}, left⟩ : Object kind).encode.get? name := by
      rw [written.encoded]
      rfl
    rw [here]
    by_cases head : name ∈ headNames
    · exact Object.get?_encode_head
        (show (⟨{}, left⟩ : Object kind).metadata = (⟨{}, right⟩ : Object kind).metadata from rfl)
        head
    · rw [Object.get?_encode_body _ head, Object.get?_encode_body _ head]
      exact alike name
  exact congrArg Object.body (Object.encode_injective same)

/-- There is one body that takes a status. -/
theorem Kind.TakesStatus.unique {kind : Kind} {left right rest : kind.Body} {status : Option Json}
    (first : TakesStatus left rest status) (second : TakesStatus right rest status) :
    left = right := by
  refine Kind.eq_of_members fun name => ?_
  by_cases isStatus : name = "status"
  · rw [isStatus]
    exact first.status.trans second.status.symm
  · rw [first.others name isStatus, second.others name isStatus]

namespace StoredDocument

variable {kind : Kind}

theorem metadataField?_encode (object : Object kind) (name : String) :
    metadataField? object.encode name = reach [name] (some object.metadata.encode) :=
  object.reach_metadata [name]

theorem text?_map_text (value : Option String) : (value.map Json.text).bind Json.text? = value := by
  cases value <;> rfl

theorem uid_encode (object : Object kind) : uid object.encode = object.uidD := by
  rw [uid, metadataField?_encode, Metadata.reach_uid, text?_map_text]
  rfl

theorem version_encode (object : Object kind) : version object.encode = object.versionD := by
  rw [version, metadataField?_encode, Metadata.reach_resourceVersion, text?_map_text]
  rfl

/-- Setting a text in the metadata is a write. -/
theorem setMetadataText_encode (object : Object kind) (name value : String) :
    some (setMetadataText object.encode name value) =
      put (some (.text value)) ["metadata", name] (some object.encode) := by
  obtain ⟨members, written⟩ := object.exists_written
  obtain ⟨inner, same, -⟩ := object.metadata.isRecord_encode
  have metadata : (Json.object members).get? "metadata" = some (.object inner) := by
    rw [← same]
    exact written.metadata
  rw [setMetadataText, written.encoded, metadata, put_object, written.metadata, same]
  rfl

theorem setMetadataText_uid (object : Object kind) (uid : String) :
    setMetadataText object.encode "uid" uid = (object.withUid uid).encode := by
  have written := setMetadataText_encode object "uid" uid
  rw [object.put_metadata (object.metadata.put_uid uid)] at written
  exact Option.some.inj written

theorem setMetadataText_resourceVersion (object : Object kind) (version : String) :
    setMetadataText object.encode "resourceVersion" version =
      (object.withVersion (some version)).encode := by
  have written := setMetadataText_encode object "resourceVersion" version
  rw [object.put_metadata (object.metadata.put_resourceVersion version)] at written
  exact Option.some.inj written

theorem bumpVersion_encode (object : Object kind) :
    bumpVersion object.encode = object.bumped.encode := by
  rw [bumpVersion, version_encode, setMetadataText_resourceVersion]
  rfl

theorem isSome_metadataField?_uid (object : Object kind) :
    (metadataField? object.encode "uid").isSome = object.metadata.uid.isSome := by
  rw [metadataField?_encode, Metadata.reach_uid, Option.isSome_map]

theorem isSome_metadataField?_resourceVersion (object : Object kind) :
    (metadataField? object.encode "resourceVersion").isSome =
      object.metadata.resourceVersion.isSome := by
  rw [metadataField?_encode, Metadata.reach_resourceVersion, Option.isSome_map]

/-- Giving a document the status of another one is a write of one member. -/
theorem withStatusOf_object (members : Members) (other : Json) :
    withStatusOf (.object members) other =
      .object (Assoc.alter members "status" (other.get? "status")) := by
  unfold withStatusOf
  cases other.get? "status" <;> rfl

/-- The document of an object with the status of another one is that of an object. -/
theorem exists_withStatusOf (object other : Object kind) :
    ∃ body : kind.Body, Kind.TakesStatus body object.body (Kind.status? other.body) ∧
      withStatusOf object.encode other.encode =
        ({ object with body := body } : Object kind).encode := by
  obtain ⟨body, takes⟩ := kind.exists_body_withStatusOf object.body other.body
  obtain ⟨members, written⟩ := object.exists_written
  refine ⟨body, takes, ?_⟩
  rw [written.encoded, withStatusOf_object]
  apply Object.eq_encode (Assoc.ascending_alter written.ascending _ _)
  intro name
  have own (name : String) : Assoc.get? members name = object.encode.get? name := by
    rw [written.encoded]
    rfl
  rw [Assoc.get?_alter, other.get?_encode_body (by decide), own]
  by_cases head : name ∈ headNames
  · rw [if_neg fun same => absurd (same ▸ head) (by decide)]
    have sameMetadata : object.metadata = Object.metadata ⟨object.metadata, body⟩ := rfl
    exact object.get?_encode_head sameMetadata head
  · rw [Object.get?_encode_body _ head, Object.get?_encode_body _ head]
    split
    case isTrue isStatus =>
      rw [isStatus]
      exact takes.status.symm
    case isFalse apart => exact (takes.others name apart).symm

/-- A document that has the status of another one already keeps it. -/
theorem withStatusOf_of_alike (object : Object kind) {other : Json}
    (alike : object.encode.get? "status" = other.get? "status") :
    withStatusOf object.encode other = object.encode := by
  obtain ⟨members, written⟩ := object.exists_written
  rw [written.encoded] at alike ⊢
  rw [withStatusOf_object, ← alike]
  exact congrArg _ (Assoc.alter_get? written.ascending "status")

/-- The document that gets a uid and a version unless it has them. -/
theorem defaultMetadataText_encode (object : Object kind) (uid version : String) :
    ∃ stored : Object kind,
      defaultMetadataText (defaultMetadataText object.encode "uid" uid) "resourceVersion" version =
        stored.encode ∧
      stored.nsD = object.nsD ∧ stored.nameD = object.nameD ∧
      stored.metadata.uid = some (object.metadata.uid.getD uid) ∧
      stored.metadata.resourceVersion.isSome := by
  obtain ⟨named, written, ns, name, given⟩ : ∃ named : Object kind,
      defaultMetadataText object.encode "uid" uid = named.encode ∧ named.nsD = object.nsD ∧
        named.nameD = object.nameD ∧
        named.metadata.uid = some (object.metadata.uid.getD uid) := by
    rw [defaultMetadataText, isSome_metadataField?_uid]
    cases given : object.metadata.uid with
    | some own => exact ⟨object, rfl, rfl, rfl, given⟩
    | none => exact ⟨object.withUid uid, setMetadataText_uid object uid, rfl, rfl, rfl⟩
  rw [written, defaultMetadataText, isSome_metadataField?_resourceVersion]
  split
  case isTrue versioned => exact ⟨named, rfl, ns, name, given, versioned⟩
  case isFalse =>
    exact ⟨named.withVersion (some version), setMetadataText_resourceVersion named version, ns, name,
      given, rfl⟩

end StoredDocument

namespace MemoryStore

open StoredDocument

variable {kind : Kind}

/-- The sent object as an update keeps it, but for the status: with the uid of the stored one and the
version after it. -/
def sentAfter (sent stored : Object kind) : Object kind :=
  (sent.withUid stored.uidD).withVersion (some (nextVersion stored.versionD))

/-- What an update stores is the document of an object: of the sent one, but for the status. -/
theorem exists_updated (sent stored : Object kind) :
    ∃ body : kind.Body, Kind.TakesStatus body sent.body (Kind.status? stored.body) ∧
      updated sent.encode stored.encode =
        ({ sentAfter sent stored with body := body } : Object kind).encode := by
  obtain ⟨body, takes, written⟩ := exists_withStatusOf
    ((sent.withUid stored.uidD).withVersion (some stored.versionD)) stored
  refine ⟨body, takes, ?_⟩
  rw [updated, uid_encode, version_encode, setMetadataText_uid, setMetadataText_resourceVersion,
    written, bumpVersion_encode]
  rfl

/-- What an update stores if the sent object has the status of the stored one. -/
theorem updated_of_alike {sent stored : Object kind}
    (alike : sent.encode.get? "status" = stored.encode.get? "status") :
    updated sent.encode stored.encode = (sentAfter sent stored).encode := by
  have kept : ((sent.withUid stored.uidD).withVersion (some stored.versionD)).encode.get? "status" =
      stored.encode.get? "status" := by
    rw [← alike, Object.get?_encode_body _ (by decide), Object.get?_encode_body _ (by decide)]
    rfl
  rw [updated, uid_encode, version_encode, setMetadataText_uid, setMetadataText_resourceVersion,
    withStatusOf_of_alike _ kept, bumpVersion_encode]
  rfl

/-- What a status update stores is the document of an object: of the stored one, but for the status
if one is sent. -/
theorem exists_statusUpdated (sent stored : Object kind) :
    ∃ body : kind.Body, Kind.TakesStatus body stored.body
        ((Kind.status? sent.body).or (Kind.status? stored.body)) ∧
      statusUpdated sent.encode stored.encode =
        ({ stored.bumped with body := body } : Object kind).encode := by
  have own : sent.encode.get? "status" = Kind.status? sent.body :=
    sent.get?_encode_body (by decide)
  unfold statusUpdated
  cases given : sent.encode.get? "status" with
  | none =>
    rw [← own, given]
    exact ⟨stored.body, ⟨rfl, fun _ _ => rfl⟩, bumpVersion_encode stored⟩
  | some status =>
    obtain ⟨body, takes, written⟩ := exists_withStatusOf stored sent
    rw [withStatusOf, given] at written
    have set : stored.encode.set "status" status =
        ({ stored with body := body } : Object kind).encode := written
    rw [← own, given] at takes ⊢
    refine ⟨body, takes, ?_⟩
    show bumpVersion (stored.encode.set "status" status) = _
    rw [set, bumpVersion_encode]
    rfl

/-- What a status update stores if the sent object differs from the stored one in its status at
most. -/
theorem statusUpdated_of_alike {sent stored : Object kind} (metadata : sent.metadata = stored.metadata)
    (given : (sent.encode.get? "status").isSome)
    (others : ∀ name, name ≠ "status" → Assoc.get? (kind.encodeBody sent.body) name =
      Assoc.get? (kind.encodeBody stored.body) name) :
    statusUpdated sent.encode stored.encode = sent.bumped.encode := by
  obtain ⟨status, there⟩ := Option.isSome_iff_exists.mp given
  obtain ⟨members, written⟩ := stored.exists_written
  have same : stored.encode.set "status" status = sent.encode := by
    rw [written.encoded]
    apply Object.eq_encode (Assoc.ascending_insert written.ascending _ _)
    intro name
    rw [Assoc.get?_insert]
    split
    case isTrue same => rw [same, there]
    case isFalse apart =>
      have own : Assoc.get? members name = stored.encode.get? name := by
        rw [written.encoded]
        rfl
      rw [own]
      by_cases head : name ∈ headNames
      · exact Object.get?_encode_head metadata.symm head
      · rw [Object.get?_encode_body _ head, Object.get?_encode_body _ head, others name apart]
  rw [statusUpdated, there]
  show bumpVersion (stored.encode.set "status" status) = _
  rw [same, bumpVersion_encode]

end MemoryStore

end Caretaker
