import Caretaker.Controller.Run
import Caretaker.Definition.Manifest
import Caretaker.Store.Memory
import Caretaker.Template
import Caretaker.Proofs.Entries
import Caretaker.Proofs.Shape.Normal
import Caretaker.Proofs.Shape.Order
import Caretaker.Proofs.Codec.Metadata
import Caretaker.Proofs.Codec.Parent
import Caretaker.Proofs.Codec.Object
import Caretaker.Proofs.Json.Put
import Caretaker.Proofs.Shape.Put
import Caretaker.Proofs.Json.PutAll
import Caretaker.Proofs.Merge.Copy
import Caretaker.Proofs.Merge.Field
import Caretaker.Proofs.Codec.Edit
import Caretaker.Proofs.Shape.PutAll
import Caretaker.Proofs.Merge.Total
import Caretaker.Proofs.Merge.Laws
import Caretaker.Proofs.Ownership
import Caretaker.Proofs.Replacement
import Caretaker.Proofs.Store.Document
import Caretaker.Proofs.Store.WellFormed
import Caretaker.Proofs.Store.Writing
import Caretaker.Proofs.Store.Writers
import Caretaker.Proofs.Converge
import Caretaker.Proofs.PodReport
import Caretaker.Proofs.Pass.Request
import Caretaker.Proofs.Store.Alike
import Caretaker.Proofs.Pass.Performed
import Caretaker.Proofs.Pass.Frame
import Caretaker.Proofs.Pass.History
import Caretaker.Proofs.Pass.Settled
import Caretaker.Proofs.Pass.Steps
import Caretaker.Proofs.Pass.Again
import Caretaker.Proofs.Pass.Effect
import Caretaker.Proofs.Interruption
import Caretaker.Proofs.Partial
import Caretaker.Proofs.Pass.Retry
import Caretaker.Proofs.Interleaving
import Caretaker.Proofs.Obedience
import Caretaker.Proofs.Pass.Status
import Caretaker.Proofs.Pass.Failure
import Caretaker.Proofs.Pass.Course
import Caretaker.Proofs.Pass.Obey
import Caretaker.Proofs.Pass.Discipline
import Caretaker.Proofs.Pass.Contention
import Caretaker.Proofs.Ledger
import Caretaker.Proofs.Pass.Independence
import Caretaker.Proofs.Codec.NormalForm
import Caretaker.Proofs.Api.Client
import Caretaker.Proofs.Pass.Missing
import Caretaker.Proofs.Controller.Announcement
import Caretaker.Proofs.Pass.Possession
import Caretaker.Proofs.Pass.Refusal
import Caretaker.Proofs.Pass.Rivals
import Caretaker.Proofs.Shape.Made
import Caretaker.Proofs.Merge.Extent
import Caretaker.Proofs.Merge.Algebra
import Caretaker.Proofs.Annotation
import Caretaker.Proofs.Shape.Fit
import Caretaker.Proofs.Build.Coherence
import Caretaker.Proofs.Attachment
import Caretaker.Proofs.Convergence
import Caretaker.Proofs.Report
import Caretaker.Proofs.Pass.Kinds
import Caretaker.Proofs.Pass.StorageClass
import Caretaker.Proofs.Pass.Provision
import Caretaker.Proofs.Quantity
import Caretaker.Proofs.Selector
import Caretaker.Proofs.Build.Gather
