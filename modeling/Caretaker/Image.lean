import Caretaker.Parent.Operand
import Caretaker.Text.Blank

/-!
# Images of operands

An operand runs the image that its parent names in full, else the one that the environment gives,
else the latest one of the default registry.
-/

namespace Caretaker

/-- The programs that parents run. -/
inductive Operand where
  | healthService
  | memcached
  | mustGatherService
  | mustGather
  deriving DecidableEq, Repr

namespace Operand

/-- The name of an operand's image in the default registry. -/
def imageName : Operand → String
  | healthService => "system-healthcheck-service"
  | memcached => "icp-memcached"
  | mustGatherService => "must-gather-service"
  | mustGather => "must-gather"

/-- The environment variable that names an operand's image. -/
def variableName : Operand → String
  | healthService => "OPERAND_HEALTHCHECK_IMAGE"
  | memcached => "OPERAND_MEMCACHED_IMAGE"
  | mustGatherService => "OPERAND_MUSTGATHER_SERVICE_IMAGE"
  | mustGather => "MUST_GATHER_IMAGE"

end Operand

/-- The images that the environment gives. -/
structure OperandImages where
  healthService : Option String := none
  memcached : Option String := none
  mustGatherService : Option String := none
  mustGather : Option String := none
  deriving DecidableEq, Inhabited

namespace OperandImages

/-- The images that the variables of an environment name; a blank variable names none. -/
def ofEnvironment (environment : LabelMap) : OperandImages :=
  let image (operand : Operand) : Option String :=
    (environment.get? operand.variableName).filter fun value => !isBlankText value
  { healthService := image .healthService
    memcached := image .memcached
    mustGatherService := image .mustGatherService
    mustGather := image .mustGather }

/-- The image that the environment gives for an operand. -/
def get? (images : OperandImages) : Operand → Option String
  | .healthService => images.healthService
  | .memcached => images.memcached
  | .mustGatherService => images.mustGatherService
  | .mustGather => images.mustGather

end OperandImages

/-- The registry of images that nobody names. -/
def defaultRegistry : String := "quay.io/opencloudio"

/-- The tag of images that nobody names. -/
def defaultTag : String := "latest"

namespace ImageSpec

/-- The image to run: the one that the parent names in full, a digest after an at sign and any other
tag after a colon; else the one that the environment gives; else the default one. -/
def reference (image : ImageSpec) (name : String) (given : Option String) : String :=
  if image.repository ≠ "" ∧ image.tag ≠ "" then
    if "sha256:".isPrefixOf image.tag then image.repository ++ "@" ++ image.tag
    else image.repository ++ ":" ++ image.tag
  else given.getD (defaultRegistry ++ "/" ++ name ++ ":" ++ defaultTag)

/-- The image to run for an operand. -/
def operandReference (image : ImageSpec) (operand : Operand) (images : OperandImages) : String :=
  image.reference operand.imageName (images.get? operand)

end ImageSpec

end Caretaker
