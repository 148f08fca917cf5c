import Caretaker.Metadata
import Caretaker.Proofs.Json.Record
import Caretaker.Proofs.Shape.Order

/-!
# Metadata is read back as it was written

Each field of metadata, and of a reference to an owner, stands under its name in the document, so
both are read back from their documents (`Metadata.decode?_encode`).
-/

namespace Caretaker

namespace OwnerReference

theorem decode?_encode (reference : OwnerReference) : decode? reference.encode = some reference := by
  obtain ⟨members, same, -, found⟩ :=
    Json.exists_record (show reference.encode = _ from rfl) (by simp [Assoc.Distinct])
  have text (name : String) (value : String)
      (at? : Assoc.get? members name = some (.text value)) :
      Json.requiredField members name "" Json.text? = some value :=
    Json.requiredField_of_get? at? rfl (by simp)
  have flag (name : String) (value : Option Bool)
      (at? : Assoc.get? members name = value.map .bool) :
      Json.optionalField members name Json.bool? = some value :=
    Json.optionalField_of_get? .bool at? (fun _ _ => rfl) (by simp)
  rw [same]
  simp only [decode?, Json.members?, Option.bind_eq_bind, Option.bind_some]
  rw [text "apiVersion" reference.apiVersion (by simp [found]),
    text "kind" reference.kind (by simp [found, Assoc.get?_cons]),
    text "name" reference.name (by simp [found, Assoc.get?_cons]),
    text "uid" reference.uid (by simp [found, Assoc.get?_cons]),
    flag "controller" reference.controller (by simp [found, Assoc.get?_cons]),
    flag "blockOwnerDeletion" reference.blockOwnerDeletion (by simp [found, Assoc.get?_cons])]
  rfl

end OwnerReference

namespace Metadata

theorem decode?_encode (metadata : Metadata) : decode? metadata.encode = some metadata := by
  obtain ⟨members, same, -, found⟩ :=
    Json.exists_record (show metadata.encode = _ from rfl) (by simp [Assoc.Distinct])
  have text (name : String) (value : Option String)
      (at? : Assoc.get? members name = value.map .text) :
      Json.optionalField members name Json.text? = some value :=
    Json.optionalField_of_get? .text at? (fun _ _ => rfl) (by simp)
  have integer (name : String) (value : Option Int64)
      (at? : Assoc.get? members name = value.map fun each => .int each.toInt) :
      Json.optionalField members name Json.int64? = some value :=
    Json.optionalField_of_get? (fun each => .int each.toInt) at? (fun _ _ => Json.int64?_int _)
      (by simp)
  have instant (name : String) (value : Option Instant)
      (at? : Assoc.get? members name = value.map .ofInstant) :
      Json.optionalField members name Json.instant? = some value :=
    Json.optionalField_of_get? .ofInstant at? (fun _ _ => Json.instant?_ofInstant _)
      (by simp [Json.ofInstant])
  have labels (name : String) (value : Option LabelMap)
      (at? : Assoc.get? members name = value.map .ofLabels) :
      Json.optionalField members name Json.labels? = some value :=
    Json.optionalField_of_get? .ofLabels at? (fun _ _ => Json.labels?_ofLabels _)
      (by simp [Json.ofLabels])
  have finalizers : Json.optionalField members "finalizers" Json.texts? =
      some metadata.finalizers :=
    Json.optionalField_of_get? .ofTexts (by simp [found, Assoc.get?_cons])
      (fun _ _ => Json.texts?_ofTexts _) (by simp [Json.ofTexts])
  have owners : Json.optionalField members "ownerReferences"
      (Json.listOf OwnerReference.decode?) = some metadata.ownerReferences :=
    Json.optionalField_of_get? (fun references => .array (references.map OwnerReference.encode))
      (by simp [found, Assoc.get?_cons])
      (fun _ _ => Json.listOf_array fun each _ => each.decode?_encode) (by simp)
  have managed : Json.optionalField members "managedFields"
      (Json.listOf (Document.decode? Shape.managedFields)) = some metadata.managedFields :=
    Json.optionalField_of_get? (fun entries => .array (entries.map (·.json)))
      (by simp [found, Assoc.get?_cons])
      (fun _ _ => Json.listOf_array fun each _ => each.decode?_json Shape.isOrdered_managedFields)
      (by simp)
  rw [same]
  refine (Json.bind_of_read rfl _).trans ?_
  refine (Json.bind_of_read (text "name" metadata.name ?_) _).trans ?_
  · simp [found, Assoc.get?_cons]
  refine (Json.bind_of_read (text "generateName" metadata.generateName ?_) _).trans ?_
  · simp [found, Assoc.get?_cons]
  refine (Json.bind_of_read (text "namespace" metadata.ns ?_) _).trans ?_
  · simp [found, Assoc.get?_cons]
  refine (Json.bind_of_read (text "uid" metadata.uid ?_) _).trans ?_
  · simp [found, Assoc.get?_cons]
  refine (Json.bind_of_read (text "resourceVersion" metadata.resourceVersion ?_) _).trans ?_
  · simp [found, Assoc.get?_cons]
  refine (Json.bind_of_read (integer "generation" metadata.generation ?_) _).trans ?_
  · simp [found, Assoc.get?_cons]
  refine (Json.bind_of_read (instant "creationTimestamp" metadata.creationTimestamp ?_) _).trans ?_
  · simp [found, Assoc.get?_cons]
  refine (Json.bind_of_read (instant "deletionTimestamp" metadata.deletionTimestamp ?_) _).trans ?_
  · simp [found, Assoc.get?_cons]
  refine (Json.bind_of_read (integer "deletionGracePeriodSeconds"
    metadata.deletionGracePeriodSeconds ?_) _).trans ?_
  · simp [found, Assoc.get?_cons]
  refine (Json.bind_of_read (labels "labels" metadata.labels ?_) _).trans ?_
  · simp [found, Assoc.get?_cons]
  refine (Json.bind_of_read (labels "annotations" metadata.annotations ?_) _).trans ?_
  · simp [found]
  refine (Json.bind_of_read finalizers _).trans ?_
  refine (Json.bind_of_read owners _).trans ?_
  refine (Json.bind_of_read managed _).trans ?_
  refine (Json.bind_of_read (text "selfLink" metadata.selfLink ?_) _).trans ?_
  · simp [found, Assoc.get?_cons]
  rfl

end Metadata

end Caretaker
