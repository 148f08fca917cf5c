import Caretaker.Api.Target
import Caretaker.Json.Parser
import Caretaker.Json.Printer

/-!
# Messages of the API

What goes to an API server and what comes back: a message has a method, a target and perhaps a
document, a reply has a status and a body.
-/

namespace Caretaker

namespace Api

/-- What a message asks a server to do. -/
inductive Method where
  | get
  | post
  | put
  | patch
  deriving DecidableEq, Repr

/-- The name of a method. -/
def Method.name : Method → String
  | get => "GET"
  | post => "POST"
  | put => "PUT"
  | patch => "PATCH"

/-- A message to a server. -/
structure Message where
  method : Method
  target : Target
  body : Option Json := none

namespace Message

/-- The path of a message. -/
def path (message : Message) : String := message.target.path

/-- Method and path of a message. -/
def line (message : Message) : String := message.method.name ++ " " ++ message.path

end Message

/-- What a reply carries. -/
inductive Content where
  /-- A document. -/
  | document (value : Json)
  /-- A text, which may or may not be that of a document. -/
  | text (value : String)

namespace Content

/-- The document that a reply carries. -/
def document? : Content → Option Json
  | document value => some value
  | text value => Json.parse value

/-- The text of what a reply carries. -/
def toText : Content → String
  | document value => Json.render value
  | text value => value

end Content

/-- A reply of a server. -/
structure Reply where
  status : Nat := 200
  content : Content

/-- Whether a status says that the request was refused. -/
def Reply.isRefusal (reply : Reply) : Bool := 400 ≤ reply.status && reply.status < 600

end Api

end Caretaker
