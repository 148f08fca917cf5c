import Caretaker.PodReport
import Caretaker.Proofs.Program
import Caretaker.Proofs.Store.Object

/-!
# What reporting pods does

On a quiet store, a report gives the parent the names of the pods that carry the labels, and stores
it with its version counted up (`MemoryStore.run_reportPods_of_ne`), unless the parent has these
names already (`MemoryStore.run_reportPods_of_names`).
-/

namespace Caretaker

namespace MemoryStore

variable {store : MemoryStore}

/-- The pods of a namespace that carry the given labels. -/
def pods (store : MemoryStore) (ns : String) (labels : LabelMap) : List Pod :=
  (store.documentsWhere .pod fun placeNs document =>
    placeNs = ns && StoredDocument.hasLabels document labels).filterMap (Object.decode? .pod)

/-- The storage classes of a store. -/
def storageClasses (store : MemoryStore) : List StorageClass :=
  (store.documentsWhere .storageClass fun _ _ => true).filterMap (Object.decode? .storageClass)

theorem mapM_read {kind : Kind} {documents : List Json}
    (all : ∀ document ∈ documents, ∃ object : Object kind, document = object.encode) :
    documents.mapM (read kind) = .ok (documents.filterMap (Object.decode? kind)) := by
  induction documents with
  | nil => rfl
  | cons document rest ih =>
    obtain ⟨object, rfl⟩ := all document List.mem_cons_self
    rw [List.mapM_cons, read_encode, ih fun other member => all other (List.mem_cons_of_mem _ member),
      List.filterMap_cons, Object.decode?_encode]
    rfl

/-- Every listed document is that of an object. -/
theorem exists_object_of_mem_documentsWhere (wellFormed : store.WellFormed) {kind : Kind}
    {test : String → Json → Bool} {document : Json}
    (member : document ∈ store.documentsWhere kind test) :
    ∃ object : Object kind, document = object.encode := by
  obtain ⟨⟨key, value⟩, entry, rfl⟩ := List.mem_map.mp member
  obtain ⟨inside, passes⟩ := List.mem_filter.mp entry
  have sameKind : key.kind = kind := by
    simp only [Bool.and_eq_true, decide_eq_true_eq] at passes
    exact passes.1
  have found : store.document? key = some value :=
    Assoc.get?_of_mem store.objects.ascending.distinct inside
  obtain ⟨object, same, -⟩ := wellFormed key value found
  subst sameKind
  exact ⟨object, same⟩

theorem list_pods (wellFormed : store.WellFormed) (ns : String) (labels : LabelMap) :
    store.list .pod ns labels =
      (if store.fails .list .pod then .error (.injected .list .pod "")
        else .ok (store.pods ns labels), store.called .list .pod "") := by
  rw [list_eq, mapM_read fun _ member => exists_object_of_mem_documentsWhere wellFormed member]
  rfl

theorem listStorageClasses_of_quiet (quiet : store.Quiet) (wellFormed : store.WellFormed) :
    store.listStorageClasses =
      (.ok store.storageClasses, store.called .list .storageClass "") := by
  rw [listStorageClasses_eq, quiet.fails, mapM_read fun _ member =>
    exists_object_of_mem_documentsWhere wellFormed member]
  rfl

/-- What is listed of a kind depends on the documents of that kind alone. -/
theorem documentsWhere_congr {other : MemoryStore} {kind : Kind}
    (alike : ∀ key, key.kind = kind → store.document? key = other.document? key)
    (test : String → Json → Bool) :
    store.documentsWhere kind test = other.documentsWhere kind test := by
  refine congrArg KeyMap.values (KeyMap.ext_get? fun key => ?_)
  rw [KeyMap.get?_filter, KeyMap.get?_filter]
  by_cases same : key.kind = kind
  · exact congrArg _ (alike key same)
  · have none (value : Option Json) :
        value.filter (fun document => decide (key.kind = kind) && test key.ns document) = none := by
      cases value <;> simp [same]
    rw [none, none]

end MemoryStore

/-- What is observed is written with its status, and else as its specification says. -/
theorem Observed.get?_encode_withStatus {Spec Status : Type} (writeSpec : Spec → Json)
    (writeStatus : Status → Json) (body : Observed Spec Status) (status : Status) :
    Assoc.get? (encode writeSpec writeStatus ⟨body.spec, some status⟩) "status" =
        some (writeStatus status) ∧
      ∀ name, name ≠ "status" →
        Assoc.get? (encode writeSpec writeStatus ⟨body.spec, some status⟩) name =
          Assoc.get? (encode writeSpec writeStatus body) name := by
  refine ⟨get?_encode_status .., fun name apart => ?_⟩
  by_cases isSpec : name = "spec"
  · rw [isSpec, get?_encode_spec, get?_encode_spec]
  · rw [get?_encode_other _ _ _ (Ne.symm isSpec) (Ne.symm apart),
      get?_encode_other _ _ _ (Ne.symm isSpec) (Ne.symm apart)]

theorem HealthService.takesStatus_withStatus (service : HealthService)
    (status : HealthServiceStatus) :
    Kind.TakesStatus (withStatus service status).body service.body (some status.encode) := by
  obtain ⟨here, others⟩ := Observed.get?_encode_withStatus HealthServiceSpec.encode
    HealthServiceStatus.encode service.body status
  exact ⟨here, others⟩

theorem MustGatherService.takesStatus_withStatus (service : MustGatherService)
    (status : MustGatherServiceStatus) :
    Kind.TakesStatus (withStatus service status).body service.body (some status.encode) := by
  obtain ⟨here, others⟩ := Observed.get?_encode_withStatus MustGatherServiceSpec.encode
    MustGatherServiceStatus.encode service.body status
  exact ⟨here, others⟩

namespace PodList

variable {kind : ParentKind}

/-- The parent after a report of the given names. -/
def reported (list : PodList kind) (names : List String) (parent : Object (.parent kind)) :
    Object (.parent kind) :=
  if list.names parent = names then parent else (list.withNames parent names).bumped

@[simp]
theorem metadata_withNames (list : PodList kind) (parent : Object (.parent kind))
    (names : List String) : (list.withNames parent names).metadata = parent.metadata := by
  cases list <;> rfl

@[simp]
theorem names_withVersion (list : PodList kind) (parent : Object (.parent kind))
    (version : Option String) : list.names (parent.withVersion version) = list.names parent := by
  cases list <;> rfl

@[simp]
theorem names_withNames (list : PodList kind) (parent : Object (.parent kind))
    (names : List String) : list.names (list.withNames parent names) = names := by
  cases list <;> rfl

theorem names_withNames_of_ne {list other : PodList kind} (apart : list ≠ other)
    (parent : Object (.parent kind)) (names : List String) :
    list.names (other.withNames parent names) = list.names parent := by
  cases list <;> cases other <;> first | exact absurd rfl apart | rfl

@[simp]
theorem names_reported (list : PodList kind) (names : List String)
    (parent : Object (.parent kind)) : list.names (list.reported names parent) = names := by
  unfold reported
  split
  case isTrue same => exact same
  case isFalse => rw [Object.bumped, names_withVersion, names_withNames]

theorem names_reported_of_ne {list other : PodList kind} (apart : list ≠ other)
    (names : List String) (parent : Object (.parent kind)) :
    list.names (other.reported names parent) = list.names parent := by
  unfold reported
  split
  · rfl
  · rw [Object.bumped, names_withVersion, names_withNames_of_ne apart]

/-- The document of a parent with other names has a status, and else what the parent has. -/
theorem encode_withNames (list : PodList kind) (parent : Object (.parent kind))
    (names : List String) :
    ((list.withNames parent names).encode.get? "status").isSome ∧
      ∀ name, name ≠ "status" →
        Assoc.get? ((Kind.parent kind).encodeBody (list.withNames parent names).body) name =
          Assoc.get? ((Kind.parent kind).encodeBody parent.body) name := by
  rw [Object.get?_encode_body _ (by decide)]
  cases list with
  | memcachedNodes | healthCheckNodes =>
    exact ⟨rfl, (HealthService.takesStatus_withStatus parent _).others⟩
  | mustGatherServiceNodes =>
    exact ⟨rfl, (MustGatherService.takesStatus_withStatus parent _).others⟩

end PodList

/-- Whether a parent is the one that a quiet store holds under a namespace and a name, both of which
it gives itself. -/
structure Underway {kind : ParentKind} (store : MemoryStore) (parent : Object (.parent kind))
    (ns name : String) : Prop where
  quiet : store.Quiet
  wellFormed : store.WellFormed
  stored : store.document? ⟨.parent kind, ns, name⟩ = some parent.encode
  nsGiven : parent.metadata.ns = some ns
  nameGiven : parent.metadata.name = some name

/-- A parent is still there after what left its place alone. -/
theorem Underway.of_document? {kind : ParentKind} {store after : MemoryStore}
    {parent : Object (.parent kind)} {ns name : String} (underway : Underway store parent ns name)
    (quiet : after.Quiet) (wellFormed : after.WellFormed)
    (same : after.document? ⟨.parent kind, ns, name⟩ = store.document? ⟨.parent kind, ns, name⟩) :
    Underway after parent ns name :=
  ⟨quiet, wellFormed, same.trans underway.stored, underway.nsGiven, underway.nameGiven⟩

namespace MemoryStore

variable {kind : ParentKind} {store : MemoryStore} {parent : Object (.parent kind)}
  {ns name : String}

/-- A report lists the pods of the namespace that its parent names, and writes the names of the pods
if the parent has others. -/
theorem run_reportPods (wellFormed : store.WellFormed) (nsGiven : parent.metadata.ns = some ns)
    (list : PodList kind) (labels : LabelMap) :
    store.run (reportPods list labels parent) =
      if store.fails .list .pod then (.error (.injected .list .pod ""), store.called .list .pod "")
      else if list.names parent = podNames (store.pods ns labels) then
        (.ok ⟨false, parent⟩, store.called .list .pod "")
      else
        let answer := (store.called .list .pod "").updateStatus
          (list.withNames parent (podNames (store.pods ns labels)))
        (answer.1.map (.mk true), answer.2) := by
  rw [reportPods, nsGiven]
  refine (run_bind store (Program.perform (.list .pod ns labels)) _).trans ?_
  rw [run_perform, answer, list_pods wellFormed]
  cases store.fails .list .pod with
  | true => rfl
  | false =>
    simp only [Bool.false_eq_true, if_false]
    split
    case isTrue => rfl
    case isFalse =>
      refine (run_bind _ (Program.perform (.updateStatus (.parent kind) _)) _).trans ?_
      rw [run_perform, answer]
      rcases MemoryStore.updateStatus _ _ with ⟨_ | _, _⟩ <;> rfl

/-- A report of the names that a parent has already only lists the pods. -/
theorem run_reportPods_of_names (underway : Underway store parent ns name) {list : PodList kind}
    {labels : LabelMap} (same : list.names parent = podNames (store.pods ns labels)) :
    store.run (reportPods list labels parent) =
      (.ok ⟨false, parent⟩, store.called .list .pod "") := by
  rw [run_reportPods underway.wellFormed underway.nsGiven, underway.quiet.fails,
    if_neg Bool.false_ne_true, if_pos same]

/-- A report of other names stores the parent with them. -/
theorem run_reportPods_of_ne (underway : Underway store parent ns name) {list : PodList kind}
    {labels : LabelMap} (apart : list.names parent ≠ podNames (store.pods ns labels)) :
    store.run (reportPods list labels parent) =
      (.ok ⟨true, list.reported (podNames (store.pods ns labels)) parent⟩,
        ((store.called .list .pod "").called .updateStatus (.parent kind) name).put ns name
          (list.reported (podNames (store.pods ns labels)) parent)) := by
  have writable : Key.forWriting (list.withNames parent (podNames (store.pods ns labels))) =
      .ok ⟨.parent kind, ns, name⟩ := by
    refine Key.forWriting_of_some ?_ ?_
    · rw [PodList.metadata_withNames, underway.nsGiven]
    · rw [PodList.metadata_withNames, underway.nameGiven]
  have stored : (store.called .list .pod "").document? ⟨.parent kind, ns, name⟩ =
      some parent.encode := underway.stored
  have quiet : (store.called .list .pod "").Quiet := underway.quiet
  obtain ⟨given, others⟩ := list.encode_withNames parent (podNames (store.pods ns labels))
  have answered := updateStatus_eq (store.called .list .pod "") writable
  simp only [quiet.fails, stored, Bool.false_eq_true, if_false,
    statusUpdated_of_alike (PodList.metadata_withNames _ _ _) given others, read_encode] at answered
  rw [run_reportPods underway.wellFormed underway.nsGiven, underway.quiet.fails,
    if_neg Bool.false_ne_true, if_neg apart, answered, PodList.reported, if_neg apart]
  rfl

end MemoryStore

end Caretaker
