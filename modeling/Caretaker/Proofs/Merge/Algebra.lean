import Caretaker.Proofs.Merge.Extent
import Caretaker.Proofs.Merge.Laws

/-!
# The algebra of merging

An object merged with itself stays as it is, a second merge of the same desired object changes
nothing, and of two desired objects only the last one counts if the live object has the parents of
all mutable fields (`merge_laws`).  Without these parents the first merge leaves the ones it made.
Some parents are always there: `hasParents_iff` lists the others for each kind.
-/

namespace Caretaker

open Json

/-- Whether an object is at a place of a document. -/
def Json.HasObject (document : Json) (path : List String) : Prop :=
  ∃ members, document.at? path = some (.object members)

/-- Where the parent of a place is an object, the path leads through objects. -/
theorem Json.open_of_hasObject {document : Json} {path : List String}
    (clear : Clear path (some document)) (parent : document.HasObject path.dropLast) :
    Open path (some document) := by
  induction path generalizing document with
  | nil => trivial
  | cons name rest ih =>
    cases rest with
    | nil =>
      obtain ⟨members, same⟩ := parent
      cases same
      rcases clear with (blank | blank) | ⟨_, same, sorted, -⟩
      · cases blank
      · cases blank
      · cases same
        exact ⟨members, rfl, sorted, trivial⟩
    | cons next rest =>
      obtain ⟨inner, same⟩ := parent
      rcases clear with (blank | blank) | ⟨members, same', sorted, clear⟩
      · cases blank
      · cases blank
        cases same
      · cases same'
        rw [List.dropLast_cons_cons, at?] at same
        obtain ⟨child, found, below⟩ := Option.bind_eq_some_iff.mp same
        have childOf : Assoc.get? members name = some child := found
        rw [childOf] at clear
        refine ⟨members, rfl, sorted, ?_⟩
        rw [childOf]
        exact ih clear ⟨inner, below⟩

/-- An object holds the objects that its shape requires. -/
theorem Document.hasObject_of_required {shape : Shape} {fields inner : Shape.Fields}
    {path : List String} {name : String} (ordered : shape.isOrdered = true)
    (record : shape = .record shape.fields) (document : Document shape)
    (found : shape.at? path = some (.record fields))
    (named : Assoc.get? fields name = some (.required, .record inner))
    (holder : document.json.HasObject path) : document.json.HasObject (path ++ [name]) := by
  obtain ⟨members, there⟩ := holder
  have normal : (Shape.record fields).Normal (.object members) :=
    Shape.normal_of_reach ordered found (document.normalField_json record) there
  obtain ⟨_, same, membersNormal⟩ := normal
  cases same
  have fieldsOrdered := Shape.isOrdered_of_at? ordered found
  rw [Shape.isOrdered] at fieldsOrdered
  have suits := membersNormal.field (Shape.ascending_of_areOrdered fieldsOrdered) name
  have below : document.json.at? (path ++ [name]) = Assoc.get? members name := by
    rw [at?_append, there]
    exact reach_nil _
  rw [HasObject, below]
  rw [named] at suits
  cases held : Assoc.get? members name with
  | none =>
    rw [held] at suits
    cases suits
  | some value =>
    rw [held] at suits
    obtain ⟨members, rfl, -⟩ := suits.2
    exact ⟨members, rfl⟩

namespace ChildKind

/-- The objects that mutable fields of a kind lie in and that may be missing. -/
def parents : ChildKind → List (List String)
  | deployment | statefulSet =>
    [["spec"], ["spec", "template", "metadata"], ["spec", "template", "spec"]]
  | service | ingress => [["spec"]]
  | configMap | persistentVolumeClaim | job => []

theorem exists_field_of_parent (kind : ChildKind) :
    ∀ parent ∈ kind.parents, ∃ field ∈ kind.mutableFields, field.dropLast = parent := by
  cases kind <;> decide

/-- A mutable field lies in the metadata, in a required object or in one that may be missing. -/
theorem dropLast_mutableFields (kind : ChildKind) : ∀ field ∈ kind.mutableFields,
    field.dropLast = ["metadata"] ∨ field.dropLast ∈ kind.parents ∨
      kind = .deployment ∧ field.dropLast = ["spec", "selector"] := by
  cases kind <;> decide

end ChildKind

variable {kind : ChildKind}

/-- Whether an object has the parent of every mutable field of its kind. -/
def HasParents (live : Child kind) : Prop :=
  ∀ field ∈ kind.mutableFields, live.encode.HasObject field.dropLast

/-- A deployment with a specification has a selector. -/
theorem hasObject_selector (live : Child .deployment) (spec : live.encode.HasObject ["spec"]) :
    live.encode.HasObject ["spec", "selector"] := by
  have notHead : "spec" ∉ headNames := by decide
  rw [HasObject, at?_encode live notHead] at spec ⊢
  exact Document.hasObject_of_required (Shape.isOrdered_child .deployment)
    (ChildKind.isBody_shape .deployment).record live.body rfl rfl spec

/-- The parents that an object must have are those that may be missing. -/
theorem hasParents_iff (live : Child kind) :
    HasParents live ↔ ∀ parent ∈ kind.parents, live.encode.HasObject parent := by
  constructor
  · intro parents parent member
    obtain ⟨field, fieldMember, rfl⟩ := kind.exists_field_of_parent parent member
    exact parents field fieldMember
  · intro parents field member
    rcases kind.dropLast_mutableFields field member with metadata | mayMiss | ⟨rfl, selector⟩
    · rw [metadata]
      obtain ⟨members, same, -⟩ := live.metadata.isRecord_encode
      refine ⟨members, (Object.reach_metadata live []).trans ?_⟩
      rw [reach_nil, same]
    · exact parents _ mayMiss
    · rw [selector]
      exact hasObject_selector live (parents _ List.mem_cons_self)

/-- An object with all parents has those of any desired object. -/
theorem HasParents.hosts {live : Child kind} (parents : HasParents live) (desired : Child kind) :
    Hosts live desired := by
  intro path member _
  have clear := Document.clear_json kind.admits_bodyFields live.body path member
  have parent := parents path (List.mem_filter.mp member).1
  have isSpec := kind.head_bodyFields path member
  obtain ⟨name, rest, rfl⟩ :=
    List.exists_cons_of_ne_nil (kind.admits_bodyFields.notRoot path member)
  cases isSpec
  refine open_of_hasObject clear ?_
  cases rest with
  | nil => exact ⟨_, congrArg some (body_json live)⟩
  | cons next rest =>
    rw [List.dropLast_cons_cons, HasObject, at?_encode live (by decide)] at parent
    exact parent

/-- Merging an object with itself changes nothing, merging is idempotent, and the last desired
object wins where the live one has the parents of all mutable fields. -/
theorem merge_laws (live desired : Child kind) :
    merge live live = .ok live ∧
      (∃ once, merge live desired = .ok once ∧ merge once desired = .ok once) ∧
      (HasParents live → ∀ later, ∃ once last, merge live desired = .ok once ∧
        merge once later = .ok last ∧ merge live later = .ok last) := by
  refine ⟨?_, ⟨_, merge_eq live desired, ?_⟩, fun parents later =>
    ⟨_, _, merge_eq live desired, merge_eq _ later, ?_⟩⟩
  · rw [merge_eq, merged_of_alike rfl rfl rfl]
  · rw [merge_eq, merged_idem]
  · rw [merge_eq, merged_merged (parents.hosts desired)]

section Sample

/-- A service of a type. -/
def typedService (serviceType : String) : Child .service :=
  ⟨{ name := some "cache", ns := some "ns" },
    Document.of _ (.object [("spec", .object [("type", .text serviceType)])])⟩

/-- A service with a specification has the parents of all mutable fields, and the last type wins. -/
theorem merge_laws_of_types :
    HasParents (typedService "ClusterIP") ∧
      ∃ once last, merge (typedService "ClusterIP") (typedService "NodePort") = .ok once ∧
        merge once (typedService "LoadBalancer") = .ok last ∧
        merge (typedService "ClusterIP") (typedService "LoadBalancer") = .ok last := by
  have parents : HasParents (typedService "ClusterIP") := by
    refine (hasParents_iff _).mpr fun parent member => ?_
    rw [List.mem_singleton.mp member, HasObject, at?_encode _ (by decide)]
    exact ⟨_, rfl⟩
  exact ⟨parents, (merge_laws _ _).2.2 parents _⟩

end Sample

end Caretaker
