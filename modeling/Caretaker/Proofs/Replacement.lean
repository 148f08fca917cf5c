import Caretaker.Converge
import Caretaker.Proofs.Merge.Laws
import Caretaker.Proofs.Ownership
import Caretaker.Proofs.Version

/-!
# Replacing a child again and again

The replacement of a live child is the desired one merged onto the live one after that took the
owner (`replacement_eq`); whether it fails depends on the owners of the live child alone.
Replacing a child by several desired ones in turn, and then by the same ones again, gives the same
child both times (`foldlM_replacement_again`).  The version of a child plays no part in any of this
(`replacement_withVersion`).
-/

namespace Caretaker

namespace Object

variable {kind : Kind}

theorem attachOwner_withVersion (object : Object kind) (owner : OwnerReference)
    (version : Option String) :
    (object.withVersion version).attachOwner owner =
      (object.attachOwner owner).map (·.withVersion version) := by
  rw [attachOwner_eq, attachOwner_eq]
  show (attachReference object.ownerReferences owner).map _ = _
  cases attachReference object.ownerReferences owner <;> rfl

end Object

variable {kind : ChildKind} {owner : OwnerReference}

theorem attachOwner_merged (owner : OwnerReference) (live desired : Child kind) :
    (merged live desired).attachOwner owner =
      (live.attachOwner owner).map fun owned => merged owned desired := by
  rw [Object.attachOwner_eq, Object.attachOwner_eq]
  show (attachReference live.ownerReferences owner).map _ = _
  cases attachReference live.ownerReferences owner <;> rfl

/-- The replacement of a live child fails only if the live child does not take the owner. -/
theorem replacement_eq (owner : OwnerReference) (live desired : Child kind) :
    replacement owner live desired =
      (live.attachOwner owner).map fun owned => merged owned desired := by
  rw [← attachOwner_merged, replacement, merge_eq]
  rfl

theorem replacement_eq_ok {live desired child : Child kind} :
    replacement owner live desired = .ok child ↔
      ∃ owned, live.attachOwner owner = .ok owned ∧ merged owned desired = child := by
  rw [replacement_eq]
  cases live.attachOwner owner with
  | error error => simp [Except.map]
  | ok owned => simp [Except.map]

/-- A replacement took the owner. -/
theorem attachOwner_replacement {live desired child : Child kind}
    (replaced : replacement owner live desired = .ok child) :
    child.attachOwner owner = .ok child := by
  obtain ⟨owned, took, rfl⟩ := replacement_eq_ok.mp replaced
  rw [attachOwner_merged, Object.attachOwner_again took]
  rfl

theorem replacement_withVersion (owner : OwnerReference) (live desired : Child kind)
    (version : Option String) :
    replacement owner (live.withVersion version) desired =
      (replacement owner live desired).map (·.withVersion version) := by
  rw [replacement_eq, replacement_eq, Object.attachOwner_withVersion]
  cases live.attachOwner owner <;> rfl

/-- Merging keeps a child owned. -/
theorem attachOwner_foldl_merged {live : Child kind} (owned : live.attachOwner owner = .ok live)
    (list : List (Child kind)) :
    (list.foldl merged live).attachOwner owner = .ok (list.foldl merged live) := by
  induction list generalizing live with
  | nil => exact owned
  | cons head rest ih =>
    refine ih ?_
    rw [attachOwner_merged, owned]
    rfl

/-- A child that took the owner is replaced without failure. -/
theorem foldlM_replacement_of_owned {live : Child kind} (owned : live.attachOwner owner = .ok live)
    (list : List (Child kind)) :
    list.foldlM (replacement owner) live = .ok (list.foldl merged live) := by
  induction list generalizing live with
  | nil => rfl
  | cons head rest ih =>
    have first : replacement owner live head = .ok (merged live head) :=
      replacement_eq_ok.mpr ⟨live, owned, rfl⟩
    rw [List.foldlM_cons, first]
    exact ih (attachOwner_replacement first)

/-- Replacing a child by the same desired children once more changes nothing. -/
theorem foldlM_replacement_again {live last : Child kind} {list : List (Child kind)}
    (replaced : list.foldlM (replacement owner) live = .ok last) :
    list.foldlM (replacement owner) last = .ok last := by
  cases list with
  | nil => rfl
  | cons head rest =>
    -- The live child takes the owner once; from there on everything is merging.
    obtain ⟨owned, took⟩ : ∃ owned, live.attachOwner owner = .ok owned := by
      rw [List.foldlM_cons, replacement_eq] at replaced
      cases took : live.attachOwner owner with
      | error error =>
        rw [took] at replaced
        cases replaced
      | ok owned => exact ⟨owned, rfl⟩
    have settled := Object.attachOwner_again took
    have fromOwned : (head :: rest).foldlM (replacement owner) owned = .ok last := by
      rw [List.foldlM_cons, replacement_eq, took] at replaced
      rw [List.foldlM_cons, replacement_eq, settled]
      exact replaced
    rw [foldlM_replacement_of_owned settled] at fromOwned
    cases fromOwned
    rw [foldlM_replacement_of_owned (attachOwner_foldl_merged settled _), foldl_merged_idem]

end Caretaker
