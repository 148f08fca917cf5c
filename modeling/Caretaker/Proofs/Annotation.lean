import Caretaker.Build.Part
import Caretaker.Proofs.Converge
import Caretaker.Proofs.Store.Writing

/-!
# What becomes of annotations

A merge keeps the annotations of the live object, except on an ingress: there the annotations are
one mutable field, which is replaced as a whole.  An annotation that the desired object does not
have therefore survives a merge on every other kind and is lost on an ingress, and so it is for the
object that converging an existing child stores, on a store where any calls may fail
(`annotations_survive_unless_ingress`).
-/

namespace Caretaker

/-- The annotation under a key. -/
def Metadata.annotation? (metadata : Metadata) (key : String) : Option String :=
  metadata.annotations.bind (·.get? key)

/-- Only the annotations of an ingress are mutable. -/
theorem ChildKind.follows_annotations (kind : ChildKind) :
    kind.follows "annotations" = decide (kind = .ingress) := by
  cases kind <;> decide

variable {kind : ChildKind} {live desired : Child kind}

/-- An annotation that is not desired is kept by a merge, unless the object is an ingress. -/
theorem annotation?_merged_of_foreign {key : String}
    (foreign : desired.metadata.annotation? key = none) :
    (merged live desired).metadata.annotation? key =
      if kind = .ingress then none else live.metadata.annotation? key := by
  have followed : (merged live desired).metadata.annotations =
      if kind.follows "annotations" then desired.metadata.annotations
      else live.metadata.annotations := rfl
  rw [Metadata.annotation?, followed, kind.follows_annotations]
  by_cases isIngress : kind = .ingress
  · rw [if_pos (decide_eq_true isIngress), if_pos isIngress]
    exact foreign
  · rw [if_neg (by simpa using isIngress), if_neg isIngress]
    rfl

/-- Kinds that are only created leave their annotations alone. -/
theorem ChildKind.ne_ingress_of_isCreateOnly (createOnly : kind.isCreateOnly = true) :
    kind ≠ .ingress := by
  rintro rfl
  cases createOnly

namespace MemoryStore

variable {store after : MemoryStore} {owner : OwnerReference} {ns name : String}
  {became : Converged kind}

/-- An update of a child that succeeds leaves the child alone if its kind is only created, and else
stores its replacement with uid, version and status of its own. -/
theorem run_updateChild_eq_ok (wellFormed : store.WellFormed)
    (found : store.object? (.child kind) ns name = some live)
    (ran : store.run (updateChild owner live desired) = (.ok became, after)) :
    after.object? (.child kind) ns name = some became.object ∧
      (kind.isCreateOnly = true ∧ became.object = live ∨
        kind.isCreateOnly = false ∧ ∃ child, replacement owner live desired = .ok child ∧
          became.object.metadata = (sentAfter child live).metadata) := by
  unfold updateChild at ran
  split at ran
  case isTrue createOnly =>
    cases ran
    exact ⟨found, Or.inl ⟨createOnly, rfl⟩⟩
  case isFalse isMutable =>
    obtain ⟨child, _, computed, updates⟩ := run_bind_eq_ok.mp ran
    rw [run_ofExcept] at computed
    obtain ⟨replaced, rfl⟩ := Prod.mk.inj computed
    obtain ⟨reply, _, answered, ends⟩ := run_bind_eq_ok.mp updates
    cases ends
    have wrote : store.write .update child = (.ok reply, after) := answered
    obtain ⟨childNs, childName, nsGiven, nameGiven, accepted, left⟩ :=
      accepted_of_write wellFormed (congrArg Prod.fst wrote)
    -- The replacement is written in the place of the live object.
    have place : (⟨.child kind, childNs, childName⟩ : Key) = ⟨.child kind, ns, name⟩ :=
      (keeps_of_replacement replaced).place (isStored_of_object? wellFormed found)
        (Key.forWriting_of_some nsGiven nameGiven)
    cases place
    have stored : after.document? ⟨.child kind, ns, name⟩ = some (Object.encode reply) := by
      rw [show after = _ from (congrArg Prod.snd wrote).symm, left]
      exact document?_accepting_self
    refine ⟨?_, Or.inr ⟨eq_false_of_ne_true isMutable, child, replaced, ?_⟩⟩
    · rw [object?, stored, Option.bind_some]
      exact Object.decode?_encode _
    · cases accepted with
      | update there =>
        cases Object.encode_injective (Option.some.inj
          (there.symm.trans ((object?_eq_some_iff wellFormed).mp found)))
        rfl

/-- Converging a child that is there looks it up and goes on with it. -/
theorem run_converge_of_found (wellFormed : store.WellFormed)
    (nsGiven : desired.metadata.ns = some ns) (nameGiven : desired.metadata.name = some name)
    (found : store.object? (.child kind) ns name = some live)
    (ran : store.run (converge owner desired) = (.ok became, after)) :
    (store.called .get (.child kind) name).run (updateChild owner live desired) =
      (.ok became, after) := by
  rw [converge, Key.forWriting_of_some nsGiven nameGiven, run_bind, run_ofExcept] at ran
  simp only [run_bind, run_attempt, answer] at ran
  have left : (store.get (.child kind) ns name).2 = store.called .get (.child kind) name := by
    rw [get_eq]
  cases fails : store.fails .get (.child kind) with
  | true =>
    rw [get_eq, fails] at ran
    cases ran
  | false =>
    have read := get_of_running wellFormed fails ns name
    rw [found] at read
    rw [read, left] at ran
    exact ran

end MemoryStore

/-- An annotation of the live object that is not desired survives a merge, and is in the object that
a successful converge stores, exactly if the object is not an ingress. -/
theorem annotations_survive_unless_ingress (live desired : Child kind) :
    (∃ result, merge live desired = .ok result ∧
      ∀ key value, live.metadata.annotation? key = some value →
        desired.metadata.annotation? key = none →
        result.metadata.annotation? key = if kind = .ingress then none else some value) ∧
      ∀ (store after : MemoryStore) (owner : OwnerReference) (ns name : String)
        (became : Converged kind), store.Reachable →
        desired.metadata.ns = some ns → desired.metadata.name = some name →
        store.object? (.child kind) ns name = some live →
        store.run (converge owner desired) = (.ok became, after) →
        after.object? (.child kind) ns name = some became.object ∧
          ∀ key value, live.metadata.annotation? key = some value →
            desired.metadata.annotation? key = none →
            became.object.metadata.annotation? key =
              if kind = .ingress then none else some value := by
  refine ⟨⟨_, merge_eq live desired, ?merge⟩, ?converge⟩
  case merge =>
    intro key value there foreign
    rw [annotation?_merged_of_foreign foreign, there]
  case converge =>
    intro store after owner ns name became reachable nsGiven nameGiven found ran
    have updates :=
      MemoryStore.run_converge_of_found reachable.wellFormed nsGiven nameGiven found ran
    have calledWellFormed : (store.called .get (.child kind) name).WellFormed :=
      reachable.wellFormed
    obtain ⟨stored, which⟩ := MemoryStore.run_updateChild_eq_ok calledWellFormed found updates
    refine ⟨stored, fun key value there foreign => ?_⟩
    rcases which with ⟨createOnly, same⟩ | ⟨-, child, replaced, same⟩
    · rw [if_neg (ChildKind.ne_ingress_of_isCreateOnly createOnly), same, there]
    · obtain ⟨owned, took, rfl⟩ := replacement_eq_ok.mp replaced
      obtain ⟨references, -, rfl⟩ := Object.attachOwner_eq_ok.mp took
      rw [same, ← there]
      exact annotation?_merged_of_foreign foreign

section Sample

/-- A child with annotations. -/
def sampleAnnotated (kind : ChildKind) (annotations : Option LabelMap) : Child kind :=
  ⟨{ name := some "sample", ns := some "ns", annotations := annotations },
    Document.of _ (.object [])⟩

/-- An annotation of someone else. -/
def foreignAnnotations : LabelMap := .ofList [("team", "ops")]

/-- A store with a service that someone else annotated. -/
def annotatedStore : MemoryStore :=
  .insert {} (sampleAnnotated .service (some foreignAnnotations))

/-- Converging the service keeps the annotation. -/
theorem annotations_survive_on_service :
    ∃ became after,
      annotatedStore.run (converge default (sampleAnnotated .service none)) = (.ok became, after) ∧
        after.object? (.child .service) "ns" "sample" = some became.object ∧
        became.object.metadata.annotation? "team" = some "ops" := by
  have reachable : annotatedStore.Reachable := .insert .empty _
  have isThere : (annotatedStore.object? (.child .service) "ns" "sample").any (fun live =>
      live.metadata.annotation? "team" = some "ops") = true := by
    decide +kernel
  obtain ⟨live, found, annotated⟩ := (Option.any_eq_true _ _).mp isThere
  have succeeds : (annotatedStore.run
      (converge default (sampleAnnotated .service none))).1.toOption.isSome = true := by
    decide +kernel
  cases ran : annotatedStore.run (converge default (sampleAnnotated .service none)) with
  | mk result after =>
    cases result with
    | error error =>
      rw [ran] at succeeds
      cases succeeds
    | ok became =>
      obtain ⟨stored, kept⟩ := (annotations_survive_unless_ingress live _).2 _ after default
        "ns" "sample" became reachable rfl rfl found ran
      refine ⟨became, after, rfl, stored, ?_⟩
      exact (kept "team" "ops" (of_decide_eq_true annotated) rfl).trans (if_neg nofun)

/-- Merging the annotations of a route drops the annotation of someone else. -/
theorem foreign_annotation_lost :
    (sampleAnnotated .ingress (some foreignAnnotations)).metadata.annotation? "team" = some "ops" ∧
      (sampleAnnotated .ingress (some Build.routeAnnotations)).metadata.annotation? "team" = none ∧
      ∃ result, merge (sampleAnnotated .ingress (some foreignAnnotations))
          (sampleAnnotated .ingress (some Build.routeAnnotations)) = .ok result ∧
        result.metadata.annotation? "team" = none := by
  have foreign : (sampleAnnotated .ingress
      (some Build.routeAnnotations)).metadata.annotation? "team" = none := by
    decide +kernel
  exact ⟨by decide +kernel, foreign, _, merge_eq _ _, annotation?_merged_of_foreign foreign⟩

end Sample

end Caretaker
