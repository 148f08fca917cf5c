import Caretaker.Proofs.Build.Coherence
import Caretaker.Proofs.Convergence
import Caretaker.Proofs.Pass.Kinds
import Caretaker.Proofs.Pass.StorageClass

/-!
# How a pass provides storage

A pass over a must-gather service seeks a class for its claim, converges the claim, and goes on with
children of other kinds; it stops at the first of these that fails (`MemoryStore.Gathers`).  What it
has to do with storage classes is read off the exchanges in which it does so
(`MemoryStore.Provisions`), over every reachable store and whichever calls are to fail
(`MemoryStore.pass_provisions`).
-/

namespace Caretaker

namespace MemoryStore

variable {store : MemoryStore} {parent : MustGatherService}

/-- The exchanges in which a claim is converged, what comes of them, and the claim that is there
afterwards. -/
inductive Brings (store : MemoryStore) (owner : OwnerReference)
    (desired : Child .persistentVolumeClaim) (ns name : String) :
    List Exchange → Except Error (Converged .persistentVolumeClaim) → Prop where
  /-- The look-up fails. -/
  | unread (failing : store.fails .get (.child .persistentVolumeClaim) = true) :
    Brings store owner desired ns name
      [⟨.get (.child .persistentVolumeClaim) ns name,
        .error (.injected .get (.child .persistentVolumeClaim) name)⟩]
      (.error (.injected .get (.child .persistentVolumeClaim) name))
  /-- The claim is there already. -/
  | present {claim : Child .persistentVolumeClaim}
    (found : store.object? (.child .persistentVolumeClaim) ns name = some claim) :
    Brings store owner desired ns name
      [⟨.get (.child .persistentVolumeClaim) ns name, .ok claim⟩] (.ok ⟨.unchanged, claim⟩)
  /-- The claim does not take the owner. -/
  | refused {error : Error}
    (absent : store.object? (.child .persistentVolumeClaim) ns name = none) :
    Brings store owner desired ns name
      [⟨.get (.child .persistentVolumeClaim) ns name,
        .error (.notFound (.child .persistentVolumeClaim) ns name)⟩] (.error error)
  /-- The claim cannot be created. -/
  | uncreated {child : Child .persistentVolumeClaim}
    (absent : store.object? (.child .persistentVolumeClaim) ns name = none)
    (took : desired.attachOwner owner = .ok child) :
    Brings store owner desired ns name
      [⟨.get (.child .persistentVolumeClaim) ns name,
        .error (.notFound (.child .persistentVolumeClaim) ns name)⟩,
        ⟨.create (.child .persistentVolumeClaim) child,
          .error (.injected .create (.child .persistentVolumeClaim) name)⟩]
      (.error (.injected .create (.child .persistentVolumeClaim) name))
  /-- The claim is created. -/
  | created {child : Child .persistentVolumeClaim}
    (absent : store.object? (.child .persistentVolumeClaim) ns name = none)
    (took : desired.attachOwner owner = .ok child) :
    Brings store owner desired ns name
      [⟨.get (.child .persistentVolumeClaim) ns name,
        .error (.notFound (.child .persistentVolumeClaim) ns name)⟩,
        ⟨.create (.child .persistentVolumeClaim) child, .ok (child.numbered store.nextUid)⟩]
      (.ok ⟨.created, child.numbered store.nextUid⟩)

namespace Brings

variable {owner : OwnerReference} {desired : Child .persistentVolumeClaim} {ns name : String}
  {brought : List Exchange} {result : Except Error (Converged .persistentVolumeClaim)}

theorem kind_eq (brings : Brings store owner desired ns name brought result) :
    ∀ exchange ∈ brought, exchange.request.kind = .child .persistentVolumeClaim := by
  cases brings <;> simp [Request.kind]

/-- A look-up that fails is what converging the claim ends with, and nothing is written then. -/
theorem failed (brings : Brings store owner desired ns name brought result) {exchange : Exchange}
    (member : exchange ∈ brought) (reads : exchange.request.verb.isWrite = false) {error : Error}
    (failure : exchange.failure? = some error) :
    result = .error error ∧ ∀ other ∈ brought, other.request.verb.isWrite = false := by
  cases brings with
  | unread =>
    cases List.mem_singleton.mp member
    cases failure
    exact ⟨rfl, List.forall_mem_singleton.mpr reads⟩
  | present =>
    cases List.mem_singleton.mp member
    cases failure
  | refused =>
    cases List.mem_singleton.mp member
    cases failure
  | uncreated | created =>
    rcases List.mem_cons.mp member with rfl | member
    · cases failure
    · cases List.mem_singleton.mp member
      cases reads

/-- A claim that is not found is not there. -/
theorem absent (brings : Brings store owner desired ns name brought result) {error : Error}
    (isNotFound : error.isNotFound = true)
    (member : ⟨.get (.child .persistentVolumeClaim) ns name, .error error⟩ ∈ brought) :
    store.object? (.child .persistentVolumeClaim) ns name = none := by
  cases brings with
  | unread =>
    cases List.mem_singleton.mp member
    cases isNotFound
  | present => cases List.mem_singleton.mp member
  | refused absent | uncreated absent | created absent => exact absent

/-- The claim is created from the desired one, if it is not there. -/
theorem created_of_mem (brings : Brings store owner desired ns name brought result)
    {child : Child .persistentVolumeClaim} {reply : Except Error (Child .persistentVolumeClaim)}
    (member : ⟨.create (.child .persistentVolumeClaim) child, reply⟩ ∈ brought) :
    store.object? (.child .persistentVolumeClaim) ns name = none ∧
      desired.attachOwner owner = .ok child ∧
      ∀ stored, reply = .ok stored →
        stored = child.numbered store.nextUid ∧ result = .ok ⟨.created, stored⟩ := by
  cases brings with
  | unread | present | refused => cases List.mem_singleton.mp member
  | uncreated absent took =>
    rcases List.mem_cons.mp member with same | member
    · cases same
    · cases List.mem_singleton.mp member
      refine ⟨absent, took, fun stored same => ?_⟩
      cases same
  | created absent took =>
    rcases List.mem_cons.mp member with same | member
    · cases same
    · cases List.mem_singleton.mp member
      refine ⟨absent, took, fun stored same => ?_⟩
      cases same
      exact ⟨rfl, rfl⟩

end Brings

theorem brings_converge (wellFormed : store.WellFormed) (calls : List Call)
    (owner : OwnerReference) {desired : Child .persistentVolumeClaim} {ns name : String}
    (nsGiven : desired.metadata.ns = some ns) (nameGiven : desired.metadata.name = some name) :
    Brings store owner desired ns name ((converge owner desired).log answer (store.reading calls))
      ((store.reading calls).run (converge owner desired)).1 := by
  have wellFormedRead : (store.reading calls).WellFormed := wellFormed
  obtain ⟨next, asks, found, missing⟩ := converge_of_named owner nsGiven nameGiven
  rw [asks, run]
  cases fails : store.fails .get (.child .persistentVolumeClaim) with
  | true =>
    have failing : (store.reading calls).fails .get _ = true := fails
    have read := answer_get_of_failing failing ns name
    rw [Program.log_ask_of read, Program.run_ask_of read, missing]
    exact .unread fails
  | false =>
    cases there : store.object? (.child .persistentVolumeClaim) ns name with
    | some claim =>
      have read := answer_get_of_found wellFormedRead fails there
      have stays : next (.ok claim) = .done (.ok ⟨.unchanged, claim⟩) := found claim
      rw [Program.log_ask_of read, Program.run_ask_of read, stays]
      exact .present there
    | none =>
      have read := answer_get_of_absent wellFormedRead fails there
      rw [Program.log_ask_of read, Program.run_ask_of read, missing, if_pos (by rfl)]
      rcases createChild_cases owner desired with ⟨error, ends⟩ | ⟨child, took, creates⟩
      · rw [ends]
        exact .refused there
      · have named : Key.forWriting child = .ok ⟨.child .persistentVolumeClaim, ns, name⟩ := by
          obtain ⟨references, -, rfl⟩ := Object.attachOwner_eq_ok.mp took
          exact Key.forWriting_of_some nsGiven nameGiven
        rw [creates]
        cases refuses : store.fails .create (.child .persistentVolumeClaim) with
        | true =>
          have answered : ((store.reading calls).called .get (.child .persistentVolumeClaim)
            name).answer _ = _ := answer_create_of_failing named refuses
          rw [Program.log_ask_of answered, Program.run_ask_of answered]
          exact .uncreated there took
        | false =>
          have answered : ((store.reading calls).called .get (.child .persistentVolumeClaim)
            name).answer _ = _ :=
              answer_create_of_absent named refuses ((object?_eq_none_iff wellFormed).mp there)
          rw [Program.log_ask_of answered, Program.run_ask_of answered]
          exact .created there took

end MemoryStore

section Claim

variable {parent : MustGatherService}

namespace Build

/-- Where a claim holds its storage class. -/
def classField : List String := ["spec", "storageClassName"]

/-- A claim has the class that its parent names, else the given one. -/
theorem class_mustGatherClaim {defaultClass : String} {desired : Child .persistentVolumeClaim}
    (built : mustGatherClaim parent defaultClass = .ok desired) :
    desired.encode.at? classField = some (.text
      ((parent.spec.persistentVolumeClaim.storageClassName.filter (· ≠ "")).getD defaultClass)) := by
  obtain ⟨-, ns, -, rfl⟩ := named_eq_ok.mp built
  have shape : ChildKind.persistentVolumeClaim.shape.at? classField = some .text := rfl
  rw [classField, at?_childOf _ (by decide) shape rfl (by nofun)]
  rfl

/-- A claim is built under the namespace of its parent. -/
theorem placed_mustGatherClaim {defaultClass ns : String} {desired : Child .persistentVolumeClaim}
    (built : mustGatherClaim parent defaultClass = .ok desired) (stored : parent.nsD = ns) :
    desired.metadata.ns = some ns ∧ desired.metadata.name = some (claimOf parent) := by
  obtain ⟨-, parentNs, given, rfl⟩ := named_eq_ok.mp built
  rw [Object.nsD, given] at stored
  exact ⟨congrArg some stored, rfl⟩

end Build

theorem at?_classField_of_body {left right : Child .persistentVolumeClaim}
    (same : left.body = right.body) :
    left.encode.at? Build.classField = right.encode.at? Build.classField := by
  rw [Build.classField, at?_encode _ (by decide), at?_encode _ (by decide), same]

end Claim

/-- Whether objects of a kind are about storage. -/
def Kind.IsStorage (kind : Kind) : Prop :=
  kind = .child .persistentVolumeClaim ∨ kind = .storageClass

theorem asks_afterClaim (owner : OwnerReference) (surroundings : Surroundings)
    (defaultClass : String) (parent : MustGatherService) :
    (performSteps owner (mustGatherServiceSteps surroundings defaultClass).tail parent).Asks
      (¬·.IsStorage) := by
  have elsewhere : ∀ kind ∈ [Kind.child .deployment, .pod, .parent .mustGatherService,
      .child .service, .child .ingress],
      ¬(kind = .child .persistentVolumeClaim ∨ kind = .storageClass) := by
    decide
  exact (asks_performSteps owner _ parent).mono elsewhere

namespace MemoryStore

variable {store : MemoryStore} {parent : MustGatherService}

/-- The exchanges of a pass over a must-gather service that has been read, what comes of them, and
the store afterwards. -/
inductive Gathers (store : MemoryStore) (owner : OwnerReference) (parent : MustGatherService)
    (ns : String) : List Exchange → Except Error (List Change) → MemoryStore → Prop where
  /-- No class is found. -/
  | unsought {sought : List Exchange} {error : Error} {after : MemoryStore}
    (seeks : Seeks store parent ns sought (.error error)) (same : after.objects = store.objects) :
    Gathers store owner parent ns sought (.error error) after
  /-- The claim cannot be built. -/
  | unbuilt {sought : List Exchange} {defaultClass : String} {error : Error} {after : MemoryStore}
    (seeks : Seeks store parent ns sought (.ok defaultClass))
    (same : after.objects = store.objects) :
    Gathers store owner parent ns sought (.error error) after
  /-- The claim cannot be converged. -/
  | stopped {sought brought : List Exchange} {defaultClass : String}
    {desired : Child .persistentVolumeClaim} {error : Error} {after : MemoryStore}
    (seeks : Seeks store parent ns sought (.ok defaultClass))
    (built : Build.mustGatherClaim parent defaultClass = .ok desired)
    (brings : Brings store owner desired ns (claimOf parent) brought (.error error))
    (same : after.objects = store.objects) :
    Gathers store owner parent ns (sought ++ brought) (.error error) after
  /-- The claim is converged, and the other children after it. -/
  | performed {sought brought rest : List Exchange} {defaultClass : String}
    {desired : Child .persistentVolumeClaim} {became : Converged .persistentVolumeClaim}
    {result : Except Error (List Change)} {after : MemoryStore}
    (seeks : Seeks store parent ns sought (.ok defaultClass))
    (built : Build.mustGatherClaim parent defaultClass = .ok desired)
    (brings : Brings store owner desired ns (claimOf parent) brought (.ok became))
    (others : ∀ exchange ∈ rest, ¬exchange.request.kind.IsStorage)
    (stored : after.object? (.child .persistentVolumeClaim) ns (claimOf parent) =
      some became.object) :
    Gathers store owner parent ns (sought ++ (brought ++ rest)) result after

/-- The steps of a must-gather service begin with its claim, and go on with other kinds. -/
theorem gathers_performSteps (wellFormed : store.WellFormed) (calls : List Call)
    (surroundings : Surroundings) (owner : OwnerReference) {ns defaultClass : String}
    (stored : parent.nsD = ns) {sought : List Exchange}
    (seeks : Seeks store parent ns sought (.ok defaultClass)) :
    let program := performSteps owner (mustGatherServiceSteps surroundings defaultClass) parent
    Gathers store owner parent ns (sought ++ program.log answer (store.reading calls))
      ((store.reading calls).run program).1 ((store.reading calls).run program).2 := by
  intro program
  have wellFormedRead : (store.reading calls).WellFormed := wellFormed
  cases built : Build.mustGatherClaim parent defaultClass with
  | error error =>
    have ends : program = .done (.error error) := by
      show (Program.ofExcept (Build.mustGatherClaim parent defaultClass) >>= _) = _
      rw [built]
      rfl
    rw [ends, Program.log_done, List.append_nil]
    exact .unbuilt seeks rfl
  | ok desired =>
    have parts : program = converge owner desired >>= fun converged =>
        performSteps owner (mustGatherServiceSteps surroundings defaultClass).tail parent >>=
          fun changes => pure (converged.change :: changes) := by
      show (Program.ofExcept (Build.mustGatherClaim parent defaultClass) >>= _) = _
      rw [built]
      rfl
    obtain ⟨nsGiven, nameGiven⟩ := Build.placed_mustGatherClaim built stored
    have brings := brings_converge wellFormed calls owner nsGiven nameGiven
    cases ran : (store.reading calls).run (converge owner desired) with
    | mk outcome after =>
      rw [ran] at brings
      rw [parts]
      cases outcome with
      | error error =>
        have kept := objects_of_run_converge_eq_error wellFormedRead (congrArg Prod.fst ran)
        rw [ran] at kept
        rw [Program.log_bind_of_error ran, run_bind, ran]
        exact .stopped seeks built brings kept
      | ok became =>
        have wellFormedAfter : after.WellFormed := by
          have kept := wellFormedRead.run (converge owner desired)
          rwa [ran] at kept
        have there : after.object? (.child .persistentVolumeClaim) ns (claimOf parent) =
            some became.object := by
          obtain ⟨_, _, nsSame, nameSame, -, -, -, rfl⟩ :=
            (run_converge_eq_ok_iff wellFormedRead).mp ran
          cases nsGiven.symm.trans nsSame
          cases nameGiven.symm.trans nameSame
          exact object?_put_self ..
        have asks : (performSteps owner (mustGatherServiceSteps surroundings defaultClass).tail
            parent >>= fun changes => pure (became.change :: changes)).Asks
              (¬·.IsStorage) :=
          (asks_afterClaim owner surroundings defaultClass parent).bind fun changes =>
            (trivial : (pure (became.change :: changes) : Program _).Asks _)
        rw [Program.log_bind_of_ok ran, run_bind, ran]
        refine .performed seeks built brings (asks.log answer after) ?_
        rw [← there]
        exact object?_congr (asks.document?_run wellFormedAfter fun about => about (Or.inl rfl))

theorem gathers_steps (wellFormed : store.WellFormed) (calls : List Call)
    (surroundings : Surroundings) (owner : OwnerReference) {ns : String}
    (stored : parent.nsD = ns) :
    let program := steps surroundings ns .mustGatherService parent >>= fun steps =>
      performSteps owner steps parent
    Gathers store owner parent ns (program.log answer (store.reading calls))
      ((store.reading calls).run program).1 ((store.reading calls).run program).2 := by
  intro program
  have parts : program = classForClaim parent ns >>= fun defaultClass =>
      performSteps owner (mustGatherServiceSteps surroundings defaultClass) parent :=
    Program.bind_assoc ..
  obtain ⟨seeks, more, left⟩ := seeks_classForClaim wellFormed calls parent ns
  rw [parts]
  cases sought : (store.reading calls).run (classForClaim parent ns) with
  | mk outcome between =>
    rw [sought] at seeks left
    obtain rfl : between = store.reading more := left
    cases outcome with
    | error error =>
      rw [Program.log_bind_of_error sought, run_bind, sought]
      exact .unsought seeks rfl
    | ok defaultClass =>
      rw [Program.log_bind_of_ok sought, run_bind, sought]
      exact gathers_performSteps wellFormed more surroundings owner stored seeks

/-- What a pass over a must-gather service has to do with storage classes: a claim is created with
the one class that is for it; the classes are listed exactly if the parent needs one and its claim was
not found; and if the claim cannot be read or the classes cannot be listed, the pass ends with that
error, has made no request to write, and has changed no object. -/
structure Provisions (store : MemoryStore) (ns name : String) (said : List Exchange)
    (result : Except Error (List Change)) (after : MemoryStore) : Prop where
  created : ∀ (child : Child .persistentVolumeClaim)
      (reply : Except Error (Child .persistentVolumeClaim)),
    ⟨.create (.child .persistentVolumeClaim) child, reply⟩ ∈ said →
      ∃ parent storageClass, store.object? (.parent .mustGatherService) ns name = some parent ∧
        (∀ other, ClaimClass store parent other ↔ other = storageClass) ∧
        child.encode.at? Build.classField = some (.text storageClass) ∧
        ∀ stored, reply = .ok stored →
          stored.encode.at? Build.classField = some (.text storageClass) ∧
            after.object? (.child .persistentVolumeClaim) ns (claimOf parent) = some stored
  listed : .listStorageClasses ∈ said.map Exchange.request ↔
    ∃ (parent : MustGatherService) (error : Error),
      store.object? (.parent .mustGatherService) ns name = some parent ∧ NeedsClass parent ∧
        error.isNotFound = true ∧
        ⟨.get (.child .persistentVolumeClaim) ns (claimOf parent), .error error⟩ ∈ said
  failed : ∀ exchange ∈ said, exchange.request.verb.isWrite = false →
    exchange.request.kind.IsStorage → ∀ error, exchange.failure? = some error →
      result = .error error ∧ after.objects = store.objects ∧
        ∀ other ∈ said, other.request.verb.isWrite = false

section Gathers

variable {owner : OwnerReference} {ns name defaultClass : String} {sought brought : List Exchange}
  {desired : Child .persistentVolumeClaim}

/-- A claim that is created has the one class that is for it. -/
theorem Brings.claimClass {result : Except Error (Converged .persistentVolumeClaim)}
    (brings : Brings store owner desired ns (claimOf parent) brought result)
    (seeks : Seeks store parent ns sought (.ok defaultClass))
    (built : Build.mustGatherClaim parent defaultClass = .ok desired)
    {child : Child .persistentVolumeClaim} {reply : Except Error (Child .persistentVolumeClaim)}
    (member : ⟨.create (.child .persistentVolumeClaim) child, reply⟩ ∈ brought) :
    ∃ storageClass, (∀ other, ClaimClass store parent other ↔ other = storageClass) ∧
      child.encode.at? Build.classField = some (.text storageClass) ∧
      ∀ stored, reply = .ok stored →
        stored.encode.at? Build.classField = some (.text storageClass) ∧
          result = .ok ⟨.created, stored⟩ := by
  obtain ⟨absent, took, replied⟩ := brings.created_of_mem member
  obtain ⟨references, -, rfl⟩ := Object.attachOwner_eq_ok.mp took
  obtain ⟨named, -⟩ := Build.named_eq_ok.mp built
  have given := Build.class_mustGatherClaim built
  have owned : (desired.withOwners references).encode.at? Build.classField =
      desired.encode.at? Build.classField := at?_classField_of_body rfl
  refine ⟨_, (seeks.isClaimClass named absent).iff_eq, owned.trans given, fun stored same => ?_⟩
  obtain ⟨rfl, became⟩ := replied stored same
  have numbered : ((desired.withOwners references).numbered store.nextUid).encode.at?
      Build.classField = desired.encode.at? Build.classField := at?_classField_of_body rfl
  exact ⟨numbered.trans given, became⟩

/-- If the later exchanges list no classes, the classes are listed exactly if one is needed and the
claim was not found. -/
theorem Seeks.listed_append_iff {result : Except Error String} {later : List Exchange}
    (seeks : Seeks store parent ns sought result)
    (found : store.object? (.parent .mustGatherService) ns name = some parent)
    (silent : ∀ exchange ∈ later, exchange.request ≠ .listStorageClasses)
    (missing : NeedsClass parent → ∀ error : Error, error.isNotFound = true →
      ⟨.get (.child .persistentVolumeClaim) ns (claimOf parent), .error error⟩ ∈ later →
        .listStorageClasses ∈ sought.map Exchange.request) :
    .listStorageClasses ∈ (sought ++ later).map Exchange.request ↔
      ∃ (parent : MustGatherService) (error : Error),
        store.object? (.parent .mustGatherService) ns name = some parent ∧ NeedsClass parent ∧
          error.isNotFound = true ∧
          ⟨.get (.child .persistentVolumeClaim) ns (claimOf parent), .error error⟩ ∈
            sought ++ later := by
  rw [List.map_append, List.mem_append]
  constructor
  · rintro (listed | listed)
    · obtain ⟨needs, error, isNotFound, member⟩ := seeks.listed_iff.mp listed
      exact ⟨parent, error, found, needs, isNotFound, List.mem_append_left _ member⟩
    · obtain ⟨exchange, member, same⟩ := List.mem_map.mp listed
      exact absurd same (silent exchange member)
  · rintro ⟨other, error, otherFound, needs, isNotFound, member⟩
    cases found.symm.trans otherFound
    rcases List.mem_append.mp member with member | member
    · exact Or.inl (seeks.listed_iff.mpr ⟨needs, error, isNotFound, member⟩)
    · exact Or.inl (missing needs error isNotFound member)

theorem Seeks.listed_iff_missing {result : Except Error String}
    (seeks : Seeks store parent ns sought result)
    (found : store.object? (.parent .mustGatherService) ns name = some parent) :
    .listStorageClasses ∈ sought.map Exchange.request ↔
      ∃ (parent : MustGatherService) (error : Error),
        store.object? (.parent .mustGatherService) ns name = some parent ∧ NeedsClass parent ∧
          error.isNotFound = true ∧
          ⟨.get (.child .persistentVolumeClaim) ns (claimOf parent), .error error⟩ ∈ sought := by
  have listed := seeks.listed_append_iff found (List.forall_mem_nil _)
    fun _ _ _ member => absurd member List.not_mem_nil
  rwa [List.append_nil] at listed

theorem Gathers.provisions {said : List Exchange} {result : Except Error (List Change)}
    {after : MemoryStore} (gathers : Gathers store owner parent ns said result after)
    (found : store.object? (.parent .mustGatherService) ns name = some parent) :
    Provisions store ns name said result after := by
  cases gathers with
  | unsought seeks same =>
    refine ⟨fun child reply member => ?created, ?listed,
      fun exchange member _ _ error failure => ⟨?ended, same, seeks.reads⟩⟩
    case created => cases seeks.reads _ member
    case listed => exact seeks.listed_iff_missing found
    case ended =>
      cases seeks.failed member failure
      rfl
  | unbuilt seeks same =>
    refine ⟨fun child reply member => ?created, ?listed,
      fun exchange member _ _ error failure => nomatch seeks.failed member failure⟩
    case created => cases seeks.reads _ member
    case listed => exact seeks.listed_iff_missing found
  | stopped seeks built brings same =>
    refine ⟨fun child reply member => ?created, ?listed,
      fun exchange member reads _ error failure => ?failed⟩
    case created =>
      rcases List.mem_append.mp member with sought | brought
      · cases seeks.reads _ sought
      · obtain ⟨storageClass, isClass, given, replied⟩ := brings.claimClass seeks built brought
        refine ⟨parent, storageClass, found, isClass, given, fun stored same => ?_⟩
        cases (replied stored same).2
    case listed =>
      refine seeks.listed_append_iff found (fun exchange member same => ?_)
        fun needs error isNotFound member =>
          seeks.listed_of_absent needs (brings.absent isNotFound member)
      cases same ▸ brings.kind_eq exchange member
    case failed =>
      rcases List.mem_append.mp member with sought | brought
      · cases seeks.failed sought failure
      · obtain ⟨ended, read⟩ := brings.failed brought reads failure
        cases ended
        exact ⟨rfl, same, List.forall_mem_append.mpr ⟨seeks.reads, read⟩⟩
  | performed seeks built brings others stored =>
    refine ⟨fun child reply member => ?created, ?listed,
      fun exchange member reads isStorage error failure => ?failed⟩
    case created =>
      rcases List.mem_append.mp member with sought | later
      · cases seeks.reads _ sought
      rcases List.mem_append.mp later with brought | rest
      · obtain ⟨storageClass, isClass, given, replied⟩ := brings.claimClass seeks built brought
        refine ⟨parent, storageClass, found, isClass, given, fun created same => ?_⟩
        obtain ⟨held, became⟩ := replied created same
        cases became
        exact ⟨held, stored⟩
      · exact absurd (Or.inl rfl) (others _ rest)
    case listed =>
      refine seeks.listed_append_iff found (fun exchange member same => ?_)
        fun needs error isNotFound member => ?_
      · rcases List.mem_append.mp member with brought | rest
        · cases same ▸ brings.kind_eq exchange brought
        · exact absurd (Or.inr (congrArg Request.kind same)) (others exchange rest)
      · rcases List.mem_append.mp member with brought | rest
        · exact seeks.listed_of_absent needs (brings.absent isNotFound brought)
        · exact absurd (Or.inl rfl) (others _ rest)
    case failed =>
      rcases List.mem_append.mp member with sought | later
      · cases seeks.failed sought failure
      rcases List.mem_append.mp later with brought | rest
      · cases (brings.failed brought reads failure).1
      · exact absurd isStorage (others exchange rest)

end Gathers

variable {ns name : String} {said : List Exchange} {result : Except Error (List Change)}
  {after : MemoryStore}

theorem Provisions.nil : Provisions store ns name [] result after :=
  ⟨fun _ _ member => (nomatch member), by simp, fun _ member => (nomatch member)⟩

/-- A read of other kinds has nothing to do with storage classes. -/
theorem Provisions.cons (provisions : Provisions store ns name said result after)
    {exchange : Exchange} (reads : exchange.request.verb.isWrite = false)
    (elsewhere : ¬exchange.request.kind.IsStorage) :
    Provisions store ns name (exchange :: said) result after := by
  refine ⟨fun child stored member => ?created, ⟨fun listed => ?listed, ?missing⟩,
    fun other member read isStorage error failure => ?failed⟩
  case created =>
    rcases List.mem_cons.mp member with rfl | member
    · exact absurd (Or.inl rfl) elsewhere
    · exact provisions.created child stored member
  case listed =>
    rcases List.mem_cons.mp listed with same | listed
    · exact absurd (Or.inr (congrArg Request.kind same.symm)) elsewhere
    · obtain ⟨parent, error, found, needs, isNotFound, member⟩ := provisions.listed.mp listed
      exact ⟨parent, error, found, needs, isNotFound, List.mem_cons_of_mem _ member⟩
  case missing =>
    rintro ⟨parent, error, found, needs, isNotFound, member⟩
    rcases List.mem_cons.mp member with rfl | member
    · exact absurd (Or.inl rfl) elsewhere
    · exact List.mem_cons_of_mem _
        (provisions.listed.mpr ⟨parent, error, found, needs, isNotFound, member⟩)
  case failed =>
    rcases List.mem_cons.mp member with rfl | member
    · exact absurd isStorage elsewhere
    · obtain ⟨ended, same, allRead⟩ := provisions.failed other member read isStorage error failure
      exact ⟨ended, same, List.forall_mem_cons.mpr ⟨reads, allRead⟩⟩

end MemoryStore

/-- A pass looks its parent up, and goes on with its steps if it is there. -/
theorem pass_cases (surroundings : Surroundings) (kind : ParentKind) (ns name : String) :
    ∃ next, pass surroundings kind ns name = .ask (.get (.parent kind) ns name) next ∧
      (∀ parent, next (.ok parent) = do
        let owner ← Program.ofExcept parent.controllerReference
        let steps ← steps surroundings ns kind parent
        performSteps owner steps parent) ∧
      ∀ error, next (.error error) =
        .done (if error.isNotFound then .ok [] else .error error) := by
  refine ⟨_, rfl, fun parent => rfl, fun error => ?_⟩
  show (if error.isNotFound then pure none else Program.fail error) >>= _ = _
  split <;> rfl

namespace MemoryStore

variable {store : MemoryStore}

/-- A pass over a must-gather service creates its claim with the class that is for it, lists the
classes exactly if it has to, and ends with the error of a look-up of the claim or of a listing of
the classes, without a write. -/
theorem pass_provisions (reachable : store.Reachable) (surroundings : Surroundings)
    (ns name : String) :
    Provisions store ns name ((pass surroundings .mustGatherService ns name).log answer store)
      (store.run (pass surroundings .mustGatherService ns name)).1
      (store.run (pass surroundings .mustGatherService ns name)).2 := by
  have wellFormed := reachable.wellFormed
  have elsewhere : ¬(Kind.parent .mustGatherService).IsStorage := by
    rintro (isClaim | isClass)
    · cases isClaim
    · cases isClass
  obtain ⟨next, asks, found, missing⟩ := pass_cases surroundings .mustGatherService ns name
  rw [asks, run]
  cases fails : store.fails .get (.parent .mustGatherService) with
  | true =>
    have read := answer_get_of_failing fails ns name
    rw [Program.log_ask_of read, Program.run_ask_of read, missing]
    exact Provisions.nil.cons rfl elsewhere
  | false =>
    cases there : store.object? (.parent .mustGatherService) ns name with
    | none =>
      have read := answer_get_of_absent wellFormed fails there
      rw [Program.log_ask_of read, Program.run_ask_of read, missing]
      exact Provisions.nil.cons rfl elsewhere
    | some parent =>
      have read := answer_get_of_found wellFormed fails there
      have goesOn := found parent
      rw [Program.log_ask_of read, Program.run_ask_of read, goesOn]
      cases owns : parent.controllerReference with
      | error error => exact Provisions.nil.cons rfl elsewhere
      | ok owner =>
        have stored := isStored_of_object? wellFormed there
        exact ((gathers_steps wellFormed [⟨.get, .parent .mustGatherService, name⟩] surroundings
          owner stored.ns).provisions there).cons rfl elsewhere

end MemoryStore

section Sample

/-- A storage class with a provisioner, annotated as the default of the cluster or not. -/
def sampleClass (name provisioner : String) (isDefault : Bool) : StorageClass :=
  ⟨{ name := some name,
      annotations :=
        if isDefault then some ((∅ : LabelMap).insert Build.defaultClassAnnotation "true")
        else none },
    Document.of _ (.object [("provisioner", .text provisioner)])⟩

/-- A must-gather service that names a class. -/
def namingGather : MustGatherService :=
  ⟨{ name := some "keeper", ns := some "kube-system" },
    ({ spec := {
        mustGather := { name := "keeper" }
        persistentVolumeClaim := { name := "kept", storageClassName := some "slow" } } } :
      Observed MustGatherServiceSpec MustGatherServiceStatus)⟩

/-- A store with a must-gather service that names no class and one that names the class `slow`, a
default class that provides no storage, and two usable ones, the second of which is annotated as the
default. -/
def classStore : MemoryStore :=
  ((((MemoryStore.insert {} sampleGather).insert namingGather).insert
    (sampleClass "local" Build.noProvisioner true)).insert
      (sampleClass "slow" "csi" false)).insert (sampleClass "standard" "csi" true)

/-- What is asked and replied in a pass over a must-gather service of that store. -/
def classLog (name : String) : List Exchange :=
  (pass sampleSurroundings .mustGatherService "kube-system" name).log MemoryStore.answer classStore

/-- Whether an exchange asks for a claim of a class to be created. -/
def Exchange.createsClaim (storageClass : String) : Exchange → Bool
  | ⟨.create (.child .persistentVolumeClaim) child, _⟩ =>
    child.encode.at? Build.classField = some (.text storageClass)
  | _ => false

/-- Whether an exchange lists the classes. -/
def Exchange.listsClasses : Exchange → Bool
  | ⟨.listStorageClasses, _⟩ => true
  | _ => false

theorem Exchange.exists_of_createsClaim {storageClass : String} {exchange : Exchange}
    (creates : exchange.createsClaim storageClass = true) :
    ∃ child reply, exchange = ⟨.create (.child .persistentVolumeClaim) child, reply⟩ ∧
      child.encode.at? Build.classField = some (.text storageClass) := by
  unfold createsClaim at creates
  split at creates
  · next child reply => exact ⟨child, reply, rfl, of_decide_eq_true creates⟩
  · cases creates

theorem Exchange.request_of_listsClasses {exchange : Exchange}
    (lists : exchange.listsClasses = true) : exchange.request = .listStorageClasses := by
  unfold listsClasses at lists
  split at lists
  · rfl
  · cases lists

/-- Whether a pass over a must-gather service creates its claim with a class, which is the one that
is for it. -/
def CreatesWith (name storageClass : String) : Prop :=
  ∃ parent child reply,
    classStore.object? (.parent .mustGatherService) "kube-system" name = some parent ∧
      ⟨.create (.child .persistentVolumeClaim) child, reply⟩ ∈ classLog name ∧
      (∀ other, ClaimClass classStore parent other ↔ other = storageClass) ∧
      child.encode.at? Build.classField = some (.text storageClass)

/-- The claim of the service that names no class is created with the usable class that is annotated
as the default, after a listing.  The claim of the other one is created with the class that it
names, without a listing. -/
theorem pass_takes_usable_default_unless_named :
    CreatesWith "gather" "standard" ∧ CreatesWith "keeper" "slow" ∧
      .listStorageClasses ∈ (classLog "gather").map Exchange.request ∧
      .listStorageClasses ∉ (classLog "keeper").map Exchange.request := by
  have reachable : classStore.Reachable :=
    .insert (.insert (.insert (.insert (.insert .empty _) _) _) _) _
  have provisions (name : String) :=
    MemoryStore.pass_provisions reachable sampleSurroundings "kube-system" name
  have created (name storageClass : String)
      (creates : (classLog name).any (Exchange.createsClaim storageClass) = true) :
      CreatesWith name storageClass := by
    obtain ⟨exchange, member, isCreated⟩ := List.any_eq_true.mp creates
    obtain ⟨child, reply, rfl, hasClass⟩ := Exchange.exists_of_createsClaim isCreated
    obtain ⟨parent, other, found, isClass, given, -⟩ := (provisions name).created child reply member
    cases given.symm.trans hasClass
    exact ⟨parent, child, reply, found, member, isClass, hasClass⟩
  refine ⟨created _ _ (by decide +kernel), created _ _ (by decide +kernel), ?_, fun listed => ?_⟩
  · have lists : (classLog "gather").any Exchange.listsClasses = true := by decide +kernel
    obtain ⟨exchange, member, isListing⟩ := List.any_eq_true.mp lists
    exact List.mem_map.mpr ⟨exchange, member, Exchange.request_of_listsClasses isListing⟩
  · obtain ⟨parent, -, found, needs, -⟩ := (provisions "keeper").listed.mp listed
    have named : (classStore.object? (.parent .mustGatherService) "kube-system" "keeper").map
        (fun parent => (MustGatherService.spec parent).persistentVolumeClaim.storageClassName) =
          some (some "slow") := by
      decide +kernel
    rw [found, Option.map_some, Option.some.injEq] at named
    exact not_namesNoClass named (by decide) needs.1

end Sample

end Caretaker
