import Caretaker.Error
import Caretaker.Object
import Caretaker.Yaml.Parser

/-!
# The template of the health check configuration

The template is a config map that is given, or one in YAML, read from the text of a file
(`Template.Source`).  A config map in YAML may leave its kind out, and an empty file is one without
data.
-/

namespace Caretaker

namespace Template

/-- The shape of a config map with its metadata. -/
def shape : Shape := .record [
  Shape.optional "binaryData" (.map .base64),
  Shape.optional "data" Shape.texts,
  Shape.optional "immutable" .flag,
  Shape.optional "metadata" Shape.metadata]

/-- Whether every entry of a name has the given text. -/
def saysOnly (entries : List (String × Yaml)) (name value : String) : Bool :=
  entries.all fun entry => entry.1 ≠ name || entry.2.text? = some value

/-- The config map that a YAML document holds. -/
def ofYaml? : Yaml → Option (Child .configMap)
  | .mapping entries => do
    let kind : Kind := .child .configMap
    if saysOnly entries "apiVersion" kind.apiVersion && saysOnly entries "kind" kind.name then
      Object.decode? kind (← Yaml.resolve? shape (.mapping entries))
    else none
  | .plain "" => Object.decode? (.child .configMap) (.object [])
  | _ => none

/-- The template in the text of a file, if there is a file. -/
def read (file : Option String) : Except Error (Child .configMap) :=
  match file with
  | none => .error .missingTemplate
  | some text =>
    match (Yaml.parse text).bind ofYaml? with
    | some template => .ok template
    | none => .error .template

/-- Where the template comes from. -/
inductive Source where
  /-- From the text of a file, if there is one. -/
  | file (text : Option String)
  /-- From memory. -/
  | given (template : Child .configMap)

/-- The template of a source. -/
def Source.template : Source → Except Error (Child .configMap)
  | file text => read text
  | given template => .ok template

end Template

end Caretaker
