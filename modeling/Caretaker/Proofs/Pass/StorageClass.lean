import Caretaker.Proofs.Obedience
import Caretaker.Proofs.Pass.Run
import Caretaker.Proofs.Store.Listing

/-!
# The storage class of a claim

The claim of a must-gather service has the class that its parent names, else the first usable class
of the store that is annotated as the default, else the first usable one, else none
(`ClaimClass`); there is one such class at most (`ClaimClass.unique`), and a listing of the store
picks it (`claimClass_of_lists`).  A pass takes the class that the parent names.  It asks for one
only if the parent names none and the claim has a name: it looks the claim up, and lists the classes
if there is none (`MemoryStore.Seeks`).
-/

namespace Caretaker

namespace MemoryStore

/-- Whether a storage class is the first one, in the order of the places, that a store holds and
that passes a test. -/
structure IsFirstClass (store : MemoryStore) (test : StorageClass → Bool) (key : Key)
    (storageClass : StorageClass) : Prop where
  kind : key.kind = .storageClass
  found : store.object? .storageClass key.ns key.name = some storageClass
  passes : test storageClass = true
  least : ∀ (other : Key) (otherClass : StorageClass), other.kind = .storageClass →
    store.object? .storageClass other.ns other.name = some otherClass →
      test otherClass = true → key ≤ other

/-- Whether no storage class that a store holds passes a test. -/
def HasNoClass (store : MemoryStore) (test : StorageClass → Bool) : Prop :=
  ∀ (ns name : String) (storageClass : StorageClass),
    store.object? .storageClass ns name = some storageClass → test storageClass = false

variable {store : MemoryStore} {entries : List (Key × StorageClass)}

/-- The first listed class that passes a test. -/
theorem Lists.isFirstClass (lists : store.Lists .storageClass (fun _ _ => True) entries)
    {test : StorageClass → Bool} {storageClass : StorageClass}
    (found : (entries.map Prod.snd).find? test = some storageClass) :
    ∃ key, store.IsFirstClass test key storageClass := by
  rw [List.find?_map] at found
  obtain ⟨⟨key, _⟩, first, rfl⟩ := Option.map_eq_some_iff.mp found
  obtain ⟨passes, before, after, split, skipped⟩ := List.find?_eq_some_iff_append.mp first
  obtain ⟨isClass, there, -⟩ := (lists.exact key _).mp (List.mem_of_find?_eq_some first)
  refine ⟨key, isClass, there, passes, ?_⟩
  intro other otherClass otherIsClass otherFound otherPasses
  have listed : (other, otherClass) ∈ entries :=
    (lists.exact other otherClass).mpr ⟨otherIsClass, otherFound, trivial⟩
  have ascending := lists.ascending
  rw [split, List.map_append, List.pairwise_append] at ascending
  rw [split] at listed
  -- What stands before the first one does not pass, and what stands behind it has a greater place.
  rcases List.mem_append.mp listed with earlier | later
  · have fails := skipped _ earlier
    simp [otherPasses] at fails
  · rcases List.mem_cons.mp later with same | behind
    · cases same
      exact Std.le_refl _
    · have less := (List.pairwise_cons.mp ascending.2.1).1 other (List.mem_map_of_mem behind)
      exact Std.le_of_lt less

theorem IsFirstClass.unique {test : StorageClass → Bool} {key otherKey : Key}
    {storageClass otherClass : StorageClass} (first : store.IsFirstClass test key storageClass)
    (other : store.IsFirstClass test otherKey otherClass) : storageClass = otherClass := by
  obtain rfl : key = otherKey := Std.le_antisymm
    (first.least _ _ other.kind other.found other.passes)
    (other.least _ _ first.kind first.found first.passes)
  exact Option.some.inj (first.found.symm.trans other.found)

theorem HasNoClass.not_isFirstClass {test : StorageClass → Bool} {key : Key}
    {storageClass : StorageClass} (none : store.HasNoClass test) :
    ¬store.IsFirstClass test key storageClass := by
  intro first
  exact Bool.false_ne_true ((none _ _ _ first.found).symm.trans first.passes)

theorem Lists.hasNoClass (lists : store.Lists .storageClass (fun _ _ => True) entries)
    {test : StorageClass → Bool} (none : (entries.map Prod.snd).find? test = none) :
    store.HasNoClass test := by
  intro ns name storageClass found
  have listed := (lists.exact ⟨.storageClass, ns, name⟩ storageClass).mpr ⟨rfl, found, trivial⟩
  exact eq_false_of_ne_true
    (List.find?_eq_none.mp none storageClass (List.mem_map_of_mem listed))

end MemoryStore

/-- Whether a storage class provides storage: its provisioner is not the one that provides none. -/
def isUsable (storageClass : StorageClass) : Bool :=
  (Document.json storageClass.body).get? "provisioner" ≠ some (.text "kubernetes.io/no-provisioner")

/-- Whether a storage class is usable and annotated as the default of the cluster. -/
def isUsableDefault (storageClass : StorageClass) : Bool :=
  isUsable storageClass && storageClass.metadata.annotations.any fun annotations =>
    annotations.get? "storageclass.kubernetes.io/is-default-class" = some "true"

theorem provisioner_ne_eq_isUsable (storageClass : StorageClass) :
    decide (Build.provisioner storageClass ≠ Build.noProvisioner) = isUsable storageClass := by
  refine decide_eq_decide.mpr (not_congr ?_)
  rw [Build.provisioner, Build.noProvisioner]
  cases (Document.json storageClass.body).get? "provisioner" with
  | none => simp
  | some value => cases value <;> simp [Json.text?]

theorem isDefaultClass_eq (storageClass : StorageClass) :
    Build.isDefaultClass storageClass = storageClass.metadata.annotations.any fun annotations =>
      annotations.get? "storageclass.kubernetes.io/is-default-class" = some "true" := by
  rw [Build.isDefaultClass, Build.defaultClassAnnotation]
  cases storageClass.metadata.annotations with
  | none => simp [KeyMap.get?_empty]
  | some annotations => rfl

/-- The storage class for the claim of a must-gather service: the one that it names; else, of the
usable classes of the store in the order of their places, the first that is annotated as the default
of the cluster, else the first one, else none. -/
inductive ClaimClass (store : MemoryStore) (parent : MustGatherService) : String → Prop where
  | named {name : String}
    (names : parent.spec.persistentVolumeClaim.storageClassName = some name) (proper : name ≠ "") :
    ClaimClass store parent name
  | default {key : Key} {storageClass : StorageClass} (unnamed : NamesNoClass parent)
    (first : store.IsFirstClass isUsableDefault key storageClass) :
    ClaimClass store parent storageClass.metadata.nameAny
  | first {key : Key} {storageClass : StorageClass} (unnamed : NamesNoClass parent)
    (noDefault : store.HasNoClass isUsableDefault)
    (first : store.IsFirstClass isUsable key storageClass) :
    ClaimClass store parent storageClass.metadata.nameAny
  | none (unnamed : NamesNoClass parent) (unusable : store.HasNoClass isUsable) :
    ClaimClass store parent ""

variable {store : MemoryStore} {parent : MustGatherService}

theorem MemoryStore.HasNoClass.isUsableDefault (unusable : store.HasNoClass isUsable) :
    store.HasNoClass Caretaker.isUsableDefault := by
  intro ns name storageClass found
  rw [Caretaker.isUsableDefault, unusable ns name storageClass found, Bool.false_and]

/-- A claim has one class at most. -/
theorem ClaimClass.unique {left right : String} (isLeft : ClaimClass store parent left)
    (isRight : ClaimClass store parent right) : left = right := by
  cases isLeft with
  | named names proper =>
    have named := not_namesNoClass names proper
    cases isRight with
    | named otherNames => exact Option.some.inj (names.symm.trans otherNames)
    | default unnamed | first unnamed | none unnamed => exact absurd unnamed named
  | default unnamed first =>
    cases isRight with
    | named names proper => exact absurd unnamed (not_namesNoClass names proper)
    | default _ other => rw [first.unique other]
    | first _ noDefault => exact absurd first noDefault.not_isFirstClass
    | none _ unusable => exact absurd first unusable.isUsableDefault.not_isFirstClass
  | first unnamed noDefault first =>
    cases isRight with
    | named names proper => exact absurd unnamed (not_namesNoClass names proper)
    | default _ other => exact absurd other noDefault.not_isFirstClass
    | first _ _ other => rw [first.unique other]
    | none _ unusable => exact absurd first unusable.not_isFirstClass
  | none unnamed unusable =>
    cases isRight with
    | named names proper => exact absurd unnamed (not_namesNoClass names proper)
    | default _ other => exact absurd other unusable.isUsableDefault.not_isFirstClass
    | first _ _ other => exact absurd other unusable.not_isFirstClass
    | none => rfl

theorem ClaimClass.iff_eq {storageClass : String} (isClass : ClaimClass store parent storageClass)
    (other : String) : ClaimClass store parent other ↔ other = storageClass :=
  ⟨fun isOther => isOther.unique isClass, fun same => same ▸ isClass⟩

/-- The class that is picked from a listing is the one for a claim that names none. -/
theorem claimClass_of_lists {entries : List (Key × StorageClass)}
    (lists : store.Lists .storageClass (fun _ _ => True) entries) (unnamed : NamesNoClass parent) :
    ClaimClass store parent (Build.defaultStorageClass (entries.map Prod.snd)) := by
  have default : ((entries.map Prod.snd).filter isUsable).find? Build.isDefaultClass =
      (entries.map Prod.snd).find? isUsableDefault := by
    rw [List.find?_filter]
    exact congrArg (List.find? · _) (funext fun _ => by simp [isUsableDefault, isDefaultClass_eq])
  have first : ((entries.map Prod.snd).filter isUsable).head? =
      (entries.map Prod.snd).find? isUsable := List.head?_filter
  have usable : (fun storageClass => decide (Build.provisioner storageClass ≠
      Build.noProvisioner)) = isUsable := funext provisioner_ne_eq_isUsable
  rw [Build.defaultStorageClass, usable, default, first]
  cases marked : (entries.map Prod.snd).find? isUsableDefault with
  | some storageClass =>
    obtain ⟨key, isFirst⟩ := lists.isFirstClass marked
    exact .default unnamed isFirst
  | none =>
    cases usable : (entries.map Prod.snd).find? isUsable with
    | some storageClass =>
      obtain ⟨key, isFirst⟩ := lists.isFirstClass usable
      exact .first unnamed (lists.hasNoClass marked) isFirst
    | none => exact .none unnamed (lists.hasNoClass usable)

namespace MemoryStore

/-- The exchanges in which the class for a claim is sought, and what comes of them. -/
inductive Seeks (store : MemoryStore) (parent : MustGatherService) (ns : String) :
    List Exchange → Except Error String → Prop where
  /-- The parent names a class. -/
  | named {name : String}
    (names : parent.spec.persistentVolumeClaim.storageClassName = some name) (proper : name ≠ "") :
    Seeks store parent ns [] (.ok name)
  /-- The claim has no name. -/
  | nameless (unnamed : NamesNoClass parent) (blank : isBlankText (claimOf parent) = true) :
    Seeks store parent ns [] (.ok "")
  /-- The look-up of the claim fails. -/
  | unread (needs : NeedsClass parent)
    (failing : store.fails .get (.child .persistentVolumeClaim) = true) :
    Seeks store parent ns
      [⟨.get (.child .persistentVolumeClaim) ns (claimOf parent),
        .error (.injected .get (.child .persistentVolumeClaim) (claimOf parent))⟩]
      (.error (.injected .get (.child .persistentVolumeClaim) (claimOf parent)))
  /-- The claim is there already. -/
  | present {claim : Child .persistentVolumeClaim} (needs : NeedsClass parent)
    (running : store.fails .get (.child .persistentVolumeClaim) = false)
    (found : store.object? (.child .persistentVolumeClaim) ns (claimOf parent) = some claim) :
    Seeks store parent ns
      [⟨.get (.child .persistentVolumeClaim) ns (claimOf parent), .ok claim⟩] (.ok "")
  /-- The storage classes cannot be listed. -/
  | unlisted (needs : NeedsClass parent)
    (absent : store.object? (.child .persistentVolumeClaim) ns (claimOf parent) = none)
    (failing : store.fails .list .storageClass = true) :
    Seeks store parent ns
      [⟨.get (.child .persistentVolumeClaim) ns (claimOf parent),
        .error (.notFound (.child .persistentVolumeClaim) ns (claimOf parent))⟩,
        ⟨.listStorageClasses, .error (.injected .list .storageClass "")⟩]
      (.error (.injected .list .storageClass ""))
  /-- The class is picked from a listing. -/
  | listed {entries : List (Key × StorageClass)} (needs : NeedsClass parent)
    (absent : store.object? (.child .persistentVolumeClaim) ns (claimOf parent) = none)
    (lists : store.Lists .storageClass (fun _ _ => True) entries) :
    Seeks store parent ns
      [⟨.get (.child .persistentVolumeClaim) ns (claimOf parent),
        .error (.notFound (.child .persistentVolumeClaim) ns (claimOf parent))⟩,
        ⟨.listStorageClasses, .ok (entries.map Prod.snd)⟩]
      (.ok (Build.defaultStorageClass (entries.map Prod.snd)))

theorem seeks_classForClaim (wellFormed : store.WellFormed) (calls : List Call)
    (parent : MustGatherService) (ns : String) :
    Seeks store parent ns ((classForClaim parent ns).log answer (store.reading calls))
        ((store.reading calls).run (classForClaim parent ns)).1 ∧
      ∃ more, ((store.reading calls).run (classForClaim parent ns)).2 = store.reading more := by
  have readingWellFormed (calls : List Call) : (store.reading calls).WellFormed := wellFormed
  rcases classForClaim_cases parent ns with ⟨name, names, proper, ends⟩ |
    ⟨unnamed, blank, ends⟩ | ⟨needs, next, asks, found, missing⟩
  · rw [ends]
    exact ⟨.named names proper, calls, rfl⟩
  · rw [ends]
    exact ⟨.nameless unnamed blank, calls, rfl⟩
  rw [asks, run]
  cases fails : store.fails .get (.child .persistentVolumeClaim) with
  | true =>
    have failing : (store.reading calls).fails .get _ = true := fails
    have read := answer_get_of_failing failing ns (claimOf parent)
    rw [called_reading] at read
    rw [Program.log_ask_of read, Program.run_ask_of read, missing]
    exact ⟨.unread needs fails, _, rfl⟩
  | false =>
    cases there : store.object? (.child .persistentVolumeClaim) ns (claimOf parent) with
    | some claim =>
      have read := answer_get_of_found (readingWellFormed calls) fails there
      have ends : next (.ok claim) = .done (.ok "") := found claim
      rw [called_reading] at read
      rw [Program.log_ask_of read, Program.run_ask_of read, ends]
      exact ⟨.present needs fails there, _, rfl⟩
    | none =>
      have read := answer_get_of_absent (readingWellFormed calls) fails there
      rw [called_reading] at read
      rw [Program.log_ask_of read, Program.run_ask_of read, missing, if_pos (by rfl)]
      rcases answer_listStorageClasses_cases (readingWellFormed _) with
        ⟨failing, listed⟩ | ⟨entries, lists, listed⟩
      · rw [called_reading] at listed
        rw [Program.log_ask_of listed, Program.run_ask_of listed]
        exact ⟨.unlisted needs there failing, _, rfl⟩
      · rw [called_reading] at listed
        rw [Program.log_ask_of listed, Program.run_ask_of listed]
        exact ⟨.listed needs there ⟨lists.ascending, lists.exact⟩, _, rfl⟩

namespace Seeks

variable {ns : String} {sought : List Exchange} {result : Except Error String}

theorem reads (seeks : Seeks store parent ns sought result) :
    ∀ exchange ∈ sought, exchange.request.verb.isWrite = false := by
  cases seeks <;> simp [Request.verb, Verb.isWrite]

/-- A look-up or a listing that fails is what the search ends with. -/
theorem failed (seeks : Seeks store parent ns sought result) {exchange : Exchange}
    (member : exchange ∈ sought) {error : Error} (failure : exchange.failure? = some error) :
    result = .error error := by
  cases seeks with
  | named | nameless => cases member
  | unread =>
    cases List.mem_singleton.mp member
    cases failure
    rfl
  | present =>
    cases List.mem_singleton.mp member
    cases failure
  | unlisted =>
    rcases List.mem_cons.mp member with rfl | member
    · cases failure
    · cases List.mem_singleton.mp member
      cases failure
      rfl
  | listed =>
    rcases List.mem_cons.mp member with rfl | member
    · cases failure
    · cases List.mem_singleton.mp member
      cases failure

/-- The classes are listed exactly if a class is needed and the claim was not found. -/
theorem listed_iff (seeks : Seeks store parent ns sought result) :
    .listStorageClasses ∈ sought.map Exchange.request ↔
      NeedsClass parent ∧ ∃ error : Error, error.isNotFound = true ∧
        ⟨.get (.child .persistentVolumeClaim) ns (claimOf parent), .error error⟩ ∈ sought := by
  cases seeks with
  | named names proper => simp [NeedsClass, not_namesNoClass names proper]
  | nameless _ blank => simp [not_needsClass_of_blank blank]
  | unread => simp [Error.isNotFound]
  | present => simp
  | unlisted needs => simp [needs, Error.isNotFound]
  | listed needs => simp [needs, Error.isNotFound]

/-- A claim that has a name and is not there gets the class that is found for it. -/
theorem isClaimClass {defaultClass : String}
    (seeks : Seeks store parent ns sought (.ok defaultClass))
    (named : isBlankText (claimOf parent) = false)
    (absent : store.object? (.child .persistentVolumeClaim) ns (claimOf parent) = none) :
    ClaimClass store parent
      ((parent.spec.persistentVolumeClaim.storageClassName.filter (· ≠ "")).getD defaultClass) := by
  cases seeks with
  | named names proper =>
    rw [filter_of_names names proper]
    exact .named names proper
  | nameless _ blank => cases blank.symm.trans named
  | present _ _ found => cases absent.symm.trans found
  | listed needs _ lists =>
    rw [filter_of_namesNoClass needs.1]
    exact claimClass_of_lists lists needs.1

theorem listed_of_absent {defaultClass : String}
    (seeks : Seeks store parent ns sought (.ok defaultClass)) (needs : NeedsClass parent)
    (absent : store.object? (.child .persistentVolumeClaim) ns (claimOf parent) = none) :
    .listStorageClasses ∈ sought.map Exchange.request := by
  cases seeks with
  | named names proper => exact absurd needs.1 (not_namesNoClass names proper)
  | nameless _ blank => exact absurd needs (not_needsClass_of_blank blank)
  | present _ _ found => cases absent.symm.trans found
  | listed => simp

end Seeks

end MemoryStore

end Caretaker
