import Caretaker.Parent.Operand
import Caretaker.Quantity

/-!
# Allotments

The processing time and memory of a container.  Each of the four amounts is the one its parent
writes, if that is a quantity, and its own default otherwise.
-/

namespace Caretaker

/-- What a container is promised and what it is limited to. -/
structure Allotment where
  requestCpu : Quantity
  requestMemory : Quantity
  limitCpu : Quantity
  limitMemory : Quantity
  deriving DecidableEq, Repr

namespace Allotment

/-- The allotment of a container whose parent asks for nothing. -/
def default : Allotment where
  requestCpu := "50m"
  requestMemory := "64Mi"
  limitCpu := "500m"
  limitMemory := "512Mi"

/-- The allotment that a parent asks for. -/
def ofResources (resources : Resources) : Allotment where
  requestCpu := Quantity.parseD resources.requests.cpu default.requestCpu
  requestMemory := Quantity.parseD resources.requests.memory default.requestMemory
  limitCpu := Quantity.parseD resources.limits.cpu default.limitCpu
  limitMemory := Quantity.parseD resources.limits.memory default.limitMemory

/-- The form of an allotment in a container. -/
def requirements (allotment : Allotment) : ResourceRequirements :=
  Document.of Shape.resourceRequirements (.object [
    ("limits", .object [
      ("cpu", .text allotment.limitCpu), ("memory", .text allotment.limitMemory)]),
    ("requests", .object [
      ("cpu", .text allotment.requestCpu), ("memory", .text allotment.requestMemory)])])

end Allotment

end Caretaker
