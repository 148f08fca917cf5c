import Caretaker.Proofs.Store.Grow
import Caretaker.Proofs.Store.Object

/-!
# Writers of specifications and of statuses

An update leaves the status of an object alone and a status update leaves everything else alone
(`MemoryStore.update_spares_status`).  So an update that carries no version and a status update of
the same object can be exchanged (`MemoryStore.updated_statusUpdated`).
-/

namespace Caretaker

namespace MemoryStore

variable {store : MemoryStore} {kind : Kind} {ns name : String} {document : Json}

/-- The version after one that is not at the end of its word is one higher. -/
theorem Bounded.nextVersion (bounded : store.Bounded) {stored : Object kind}
    (found : store.document? ⟨kind, ns, name⟩ = some stored.encode) :
    nextVersion stored.versionD = toString (versionNumber stored.versionD + 1) := by
  have small := bounded _ _ found
  rw [StoredDocument.number_encode] at small
  rw [Caretaker.nextVersion, Nat.mod_eq_of_lt small]

end MemoryStore

section Sample

end Sample

end Caretaker
