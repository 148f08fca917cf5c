import Caretaker.Parent.HealthService
import Caretaker.Parent.MustGather
import Caretaker.Proofs.Json.Record
import Caretaker.Proofs.Shape.Order

/-!
# What parents ask for is read back as it was written

Every specification and every status is read back from its document: an absent optional field stays
absent, and a text or a list that is left out because it is empty is the default of its field.
-/

namespace Caretaker

namespace Json

theorem record_ne_null (fields : List (String × Option Json)) : record fields ≠ .null := by
  simp [record, ofMembers]

theorem recordMembers?_object (fields : List String) (members : Members) :
    recordMembers? fields (.object members) = some members := rfl

theorem optionalText {members : Members} {name : String} {value : Option String}
    (found : Assoc.get? members name = value.map .text) :
    optionalField members name text? = some value :=
  optionalField_of_get? .text found (fun _ _ => rfl) (by simp)

theorem optionalTexts {members : Members} {name : String} {value : Option (List String)}
    (found : Assoc.get? members name = value.map .ofTexts) :
    optionalField members name texts? = some value :=
  optionalField_of_get? .ofTexts found (fun _ _ => texts?_ofTexts _) (by simp [ofTexts])

theorem optionalLabels {members : Members} {name : String} {value : Option LabelMap}
    (found : Assoc.get? members name = value.map .ofLabels) :
    optionalField members name labels? = some value :=
  optionalField_of_get? .ofLabels found (fun _ _ => labels?_ofLabels _) (by simp [ofLabels])

theorem defaultText {members : Members} {name value : String} (default : String)
    (found : Assoc.get? members name = some (.text value)) :
    defaultField members name default text? = some value :=
  defaultField_of_get? found rfl

theorem defaultTextUnlessEmpty {members : Members} {name value : String}
    (found : Assoc.get? members name = textUnlessEmpty value) :
    defaultField members name "" text? = some value := by
  simp only [textUnlessEmpty] at found
  split at found
  case isTrue empty => rw [defaultField_of_absent found, empty]
  case isFalse => exact defaultField_of_get? found rfl

theorem defaultTextsUnlessEmpty {members : Members} {name : String} {values : List String}
    (found : Assoc.get? members name = textsUnlessEmpty values) :
    defaultField members name [] texts? = some values := by
  simp only [textsUnlessEmpty] at found
  split at found
  case isTrue empty => rw [defaultField_of_absent found, List.isEmpty_iff.mp empty]
  case isFalse => exact defaultField_of_get? found (texts?_ofTexts values)

theorem defaultInt32 {members : Members} {name : String} {value : Int32} (default : Int32)
    (found : Assoc.get? members name = some (.int value.toInt)) :
    defaultField members name default int32? = some value :=
  defaultField_of_get? found (int32?_int value)

theorem defaultFlag {members : Members} {name : String} {value : Bool} (default : Bool)
    (found : Assoc.get? members name = some (.bool value)) :
    defaultField members name default bool? = some value :=
  defaultField_of_get? found rfl

end Json

namespace Document

variable {shape : Shape}

theorem json_ne_null {fields : Shape.Fields} (document : Document (.record fields)) :
    document.json ≠ .null := by
  obtain ⟨members, same, -⟩ := document.normal
  rw [same]
  intro null
  cases null

theorem decodeList?_encodeList (ordered : shape.isOrdered = true)
    (documents : List (Document shape)) :
    decodeList? shape (encodeList documents) = some documents :=
  Json.listOf_array fun each _ => each.decode?_json ordered

end Document

theorem optionalTolerations {members : Json.Members} {name : String}
    {value : Option (List Toleration)}
    (found : Assoc.get? members name = value.map Document.encodeList) :
    Json.optionalField members name (Document.decodeList? Shape.toleration) = some value :=
  Json.optionalField_of_get? Document.encodeList found
    (fun _ _ => Document.decodeList?_encodeList Shape.isOrdered_toleration _)
    (by simp [Document.encodeList])

theorem optionalSecurityContext {members : Json.Members} {name : String}
    {value : Option SecurityContext} (found : Assoc.get? members name = value.map (·.json)) :
    Json.optionalField members name (Document.decode? Shape.securityContext) = some value :=
  Json.optionalField_of_get? (·.json) found
    (fun each _ => each.decode?_json Shape.isOrdered_securityContext) Document.json_ne_null

theorem optionalRequirements {members : Json.Members} {name : String}
    {value : Option ResourceRequirements} (found : Assoc.get? members name = value.map (·.json)) :
    Json.optionalField members name (Document.decode? Shape.resourceRequirements) = some value :=
  Json.optionalField_of_get? (·.json) found
    (fun each _ => each.decode?_json Shape.isOrdered_resourceRequirements) Document.json_ne_null

namespace ImageSpec

theorem decode?_encode (image : ImageSpec) : decode? image.encode = some image := by
  obtain ⟨members, same, -, found⟩ :=
    Json.exists_record (show image.encode = _ from rfl) (by simp [Assoc.Distinct])
  have repository := found "repository"
  have tag := found "tag"
  have pullPolicy := found "pullPolicy"
  simp [Assoc.get?_cons] at repository tag pullPolicy
  rw [same]
  refine (Json.bind_of_read (Json.recordMembers?_object _ members) _).trans ?_
  refine (Json.bind_of_read (Json.defaultText "" repository) _).trans ?_
  refine (Json.bind_of_read (Json.defaultText "" tag) _).trans ?_
  refine (Json.bind_of_read (Json.optionalText pullPolicy) _).trans ?_
  rfl

end ImageSpec

namespace ResourceSpec

theorem decode?_encode (spec : ResourceSpec) : decode? spec.encode = some spec := by
  obtain ⟨members, same, -, found⟩ :=
    Json.exists_record (show spec.encode = _ from rfl) (by simp [Assoc.Distinct])
  have cpu := found "cpu"
  have memory := found "memory"
  simp [Assoc.get?_cons] at cpu memory
  rw [same]
  refine (Json.bind_of_read (Json.recordMembers?_object _ members) _).trans ?_
  refine (Json.bind_of_read (Json.defaultTextUnlessEmpty cpu) _).trans ?_
  refine (Json.bind_of_read (Json.defaultTextUnlessEmpty memory) _).trans ?_
  rfl

end ResourceSpec

namespace Resources

theorem decode?_encode (resources : Resources) : decode? resources.encode = some resources := by
  obtain ⟨members, same, -, found⟩ :=
    Json.exists_record (show resources.encode = _ from rfl) (by simp [Assoc.Distinct])
  have requests := found "requests"
  have limits := found "limits"
  simp [Assoc.get?_cons] at requests limits
  rw [same]
  refine (Json.bind_of_read (Json.recordMembers?_object _ members) _).trans ?_
  refine (Json.bind_of_read
    (Json.defaultField_of_get? requests (ResourceSpec.decode?_encode _)) _).trans ?_
  refine (Json.bind_of_read
    (Json.defaultField_of_get? limits (ResourceSpec.decode?_encode _)) _).trans ?_
  rfl

end Resources

namespace MemcachedWorkload

theorem decode?_text_name (workload : MemcachedWorkload) :
    decode? (.text workload.name) = some workload := by
  cases workload <;> decide

end MemcachedWorkload

namespace MemcachedSpec

theorem decode?_encode (spec : MemcachedSpec) : decode? spec.encode = some spec := by
  obtain ⟨members, same, -, found⟩ :=
    Json.exists_record (show spec.encode = _ from rfl) (by simp [Assoc.Distinct])
  have name := found "name"
  have image := found "image"
  have workload := found "workload"
  have replicaCount := found "replicaCount"
  have account := found "serviceAccountName"
  have nodeSelector := found "nodeSelector"
  have tolerations := found "tolerations"
  have securityContext := found "securityContext"
  have command := found "command"
  have resources := found "resources"
  simp [Assoc.get?_cons] at name image workload replicaCount account nodeSelector tolerations
  simp [Assoc.get?_cons] at securityContext command resources
  rw [same]
  refine (Json.bind_of_read (Json.recordMembers?_object _ members) _).trans ?_
  refine (Json.bind_of_read (Json.defaultText "" name) _).trans ?_
  refine (Json.bind_of_read
    (Json.defaultField_of_get? image (ImageSpec.decode?_encode _)) _).trans ?_
  refine (Json.bind_of_read
    (Json.defaultField_of_get? workload (MemcachedWorkload.decode?_text_name _)) _).trans ?_
  refine (Json.bind_of_read (Json.defaultInt32 0 replicaCount) _).trans ?_
  refine (Json.bind_of_read (Json.optionalText account) _).trans ?_
  refine (Json.bind_of_read (Json.optionalLabels nodeSelector) _).trans ?_
  refine (Json.bind_of_read (optionalTolerations tolerations) _).trans ?_
  refine (Json.bind_of_read (optionalSecurityContext securityContext) _).trans ?_
  refine (Json.bind_of_read (Json.optionalTexts command) _).trans ?_
  refine (Json.bind_of_read
    (Json.defaultField_of_get? resources (Resources.decode?_encode _)) _).trans ?_
  rfl

end MemcachedSpec

namespace HealthCheckSpec

theorem decode?_encode (spec : HealthCheckSpec) : decode? spec.encode = some spec := by
  obtain ⟨members, same, -, found⟩ :=
    Json.exists_record (show spec.encode = _ from rfl) (by simp [Assoc.Distinct])
  have name := found "name"
  have image := found "image"
  have configmapName := found "configmapName"
  have cloudpakNameSetting := found "cloudpakNameSetting"
  have serviceNameSetting := found "serviceNameSetting"
  have dependsSetting := found "dependsSetting"
  have replicaCount := found "replicaCount"
  have account := found "serviceAccountName"
  have nodeSelector := found "nodeSelector"
  have tolerations := found "tolerations"
  have securityContext := found "securityContext"
  have hostNetwork := found "hostNetwork"
  have resources := found "resources"
  simp [Assoc.get?_cons] at name image configmapName cloudpakNameSetting serviceNameSetting
  simp [Assoc.get?_cons] at dependsSetting replicaCount account nodeSelector tolerations
  simp [Assoc.get?_cons] at securityContext hostNetwork resources
  rw [same]
  refine (Json.bind_of_read (Json.recordMembers?_object _ members) _).trans ?_
  refine (Json.bind_of_read (Json.defaultText "" name) _).trans ?_
  refine (Json.bind_of_read
    (Json.defaultField_of_get? image (ImageSpec.decode?_encode _)) _).trans ?_
  refine (Json.bind_of_read (Json.defaultText "" configmapName) _).trans ?_
  refine (Json.bind_of_read (Json.defaultText "" cloudpakNameSetting) _).trans ?_
  refine (Json.bind_of_read (Json.defaultText "" serviceNameSetting) _).trans ?_
  refine (Json.bind_of_read (Json.defaultText "" dependsSetting) _).trans ?_
  refine (Json.bind_of_read (Json.defaultInt32 0 replicaCount) _).trans ?_
  refine (Json.bind_of_read (Json.optionalText account) _).trans ?_
  refine (Json.bind_of_read (Json.optionalLabels nodeSelector) _).trans ?_
  refine (Json.bind_of_read (optionalTolerations tolerations) _).trans ?_
  refine (Json.bind_of_read (optionalSecurityContext securityContext) _).trans ?_
  refine (Json.bind_of_read (Json.defaultFlag false hostNetwork) _).trans ?_
  refine (Json.bind_of_read
    (Json.defaultField_of_get? resources (Resources.decode?_encode _)) _).trans ?_
  rfl

end HealthCheckSpec

namespace HealthServiceSpec

theorem decode?_encode (spec : HealthServiceSpec) : decode? spec.encode = some spec := by
  obtain ⟨members, same, -, found⟩ :=
    Json.exists_record (show spec.encode = _ from rfl) (by simp [Assoc.Distinct])
  have memcached := found "memcached"
  have healthService := found "healthService"
  simp [Assoc.get?_cons] at memcached healthService
  rw [same]
  refine (Json.bind_of_read (Json.recordMembers?_object _ members) _).trans ?_
  refine (Json.bind_of_read
    (Json.defaultField_of_get? memcached (MemcachedSpec.decode?_encode _)) _).trans ?_
  refine (Json.bind_of_read
    (Json.defaultField_of_get? healthService (HealthCheckSpec.decode?_encode _)) _).trans ?_
  rfl

end HealthServiceSpec

namespace HealthServiceStatus

theorem decode?_encode (status : HealthServiceStatus) : decode? status.encode = some status := by
  obtain ⟨members, same, -, found⟩ :=
    Json.exists_record (show status.encode = _ from rfl) (by simp [Assoc.Distinct])
  have memcachedNodes := found "memcachedNodes"
  have healthCheckNodes := found "healthCheckNodes"
  simp [Assoc.get?_cons] at memcachedNodes healthCheckNodes
  rw [same]
  refine (Json.bind_of_read (Json.recordMembers?_object _ members) _).trans ?_
  refine (Json.bind_of_read (Json.defaultTextsUnlessEmpty memcachedNodes) _).trans ?_
  refine (Json.bind_of_read (Json.defaultTextsUnlessEmpty healthCheckNodes) _).trans ?_
  rfl

end HealthServiceStatus

namespace MustGatherSpec

theorem decode?_encode (spec : MustGatherSpec) : decode? spec.encode = some spec := by
  obtain ⟨members, same, -, found⟩ :=
    Json.exists_record (show spec.encode = _ from rfl) (by simp [Assoc.Distinct])
  have name := found "name"
  have image := found "image"
  have account := found "serviceAccountName"
  have replicas := found "replicas"
  have nodeSelector := found "nodeSelector"
  have tolerations := found "tolerations"
  have securityContext := found "securityContext"
  have command := found "command"
  have resources := found "resources"
  have hostNetwork := found "hostNetwork"
  simp [Assoc.get?_cons] at name image account replicas nodeSelector tolerations securityContext
  simp [Assoc.get?_cons] at command resources hostNetwork
  rw [same]
  refine (Json.bind_of_read (Json.recordMembers?_object _ members) _).trans ?_
  refine (Json.bind_of_read (Json.defaultText "" name) _).trans ?_
  refine (Json.bind_of_read
    (Json.defaultField_of_get? image (ImageSpec.decode?_encode _)) _).trans ?_
  refine (Json.bind_of_read (Json.optionalText account) _).trans ?_
  refine (Json.bind_of_read (Json.defaultInt32 0 replicas) _).trans ?_
  refine (Json.bind_of_read (Json.optionalLabels nodeSelector) _).trans ?_
  refine (Json.bind_of_read (optionalTolerations tolerations) _).trans ?_
  refine (Json.bind_of_read (optionalSecurityContext securityContext) _).trans ?_
  refine (Json.bind_of_read (Json.optionalTexts command) _).trans ?_
  refine (Json.bind_of_read
    (Json.defaultField_of_get? resources (Resources.decode?_encode _)) _).trans ?_
  refine (Json.bind_of_read (Json.defaultFlag false hostNetwork) _).trans ?_
  rfl

end MustGatherSpec

namespace ClaimSpec

theorem decode?_encode (spec : ClaimSpec) : decode? spec.encode = some spec := by
  obtain ⟨members, same, -, found⟩ :=
    Json.exists_record (show spec.encode = _ from rfl) (by simp [Assoc.Distinct])
  have name := found "name"
  have resources := found "resources"
  have storageClassName := found "storageClassName"
  simp [Assoc.get?_cons] at name resources storageClassName
  rw [same]
  refine (Json.bind_of_read (Json.recordMembers?_object _ members) _).trans ?_
  refine (Json.bind_of_read (Json.defaultText "" name) _).trans ?_
  refine (Json.bind_of_read (optionalRequirements resources) _).trans ?_
  refine (Json.bind_of_read (Json.optionalText storageClassName) _).trans ?_
  rfl

end ClaimSpec

namespace MustGatherServiceSpec

theorem decode?_encode (spec : MustGatherServiceSpec) : decode? spec.encode = some spec := by
  obtain ⟨members, same, -, found⟩ :=
    Json.exists_record (show spec.encode = _ from rfl) (by simp [Assoc.Distinct])
  have mustGather := found "mustGather"
  have claim := found "persistentVolumeClaim"
  simp [Assoc.get?_cons] at mustGather claim
  rw [same]
  refine (Json.bind_of_read (Json.recordMembers?_object _ members) _).trans ?_
  refine (Json.bind_of_read
    (Json.defaultField_of_get? mustGather (MustGatherSpec.decode?_encode _)) _).trans ?_
  refine (Json.bind_of_read
    (Json.defaultField_of_get? claim (ClaimSpec.decode?_encode _)) _).trans ?_
  rfl

end MustGatherServiceSpec

namespace MustGatherServiceStatus

theorem decode?_encode (status : MustGatherServiceStatus) :
    decode? status.encode = some status := by
  obtain ⟨members, same, -, found⟩ :=
    Json.exists_record (show status.encode = _ from rfl) (by simp [Assoc.Distinct])
  have nodes := found "mustGatherServiceNodes"
  simp at nodes
  rw [same]
  refine (Json.bind_of_read (Json.recordMembers?_object _ members) _).trans ?_
  refine (Json.bind_of_read (Json.defaultTextsUnlessEmpty nodes) _).trans ?_
  rfl

end MustGatherServiceStatus

namespace MustGatherJobSpec

theorem decode?_encode (spec : MustGatherJobSpec) : decode? spec.encode = some spec := by
  obtain ⟨members, same, -, found⟩ :=
    Json.exists_record (show spec.encode = _ from rfl) (by simp [Assoc.Distinct])
  have image := found "image"
  have account := found "serviceAccountName"
  have command := found "mustGatherCommand"
  have configName := found "mustGatherConfigName"
  simp [Assoc.get?_cons] at image account command configName
  rw [same]
  refine (Json.bind_of_read (Json.recordMembers?_object _ members) _).trans ?_
  refine (Json.bind_of_read
    (Json.defaultField_of_get? image (ImageSpec.decode?_encode _)) _).trans ?_
  refine (Json.bind_of_read (Json.optionalText account) _).trans ?_
  refine (Json.bind_of_read (Json.optionalText command) _).trans ?_
  refine (Json.bind_of_read (Json.optionalText configName) _).trans ?_
  rfl

end MustGatherJobSpec

namespace MustGatherConfigSpec

theorem decode?_encode (spec : MustGatherConfigSpec) : decode? spec.encode = some spec := by
  obtain ⟨members, same, -, found⟩ :=
    Json.exists_record (show spec.encode = _ from rfl) (by simp [Assoc.Distinct])
  have gatherConfig := found "gatherConfig"
  simp at gatherConfig
  rw [same]
  refine (Json.bind_of_read (Json.recordMembers?_object _ members) _).trans ?_
  refine (Json.bind_of_read (Json.defaultText "" gatherConfig) _).trans ?_
  rfl

end MustGatherConfigSpec

end Caretaker
