import Caretaker.Api.Message
import Caretaker.Selector
import Caretaker.Store.Key
import Caretaker.Store.Program
import Caretaker.Text.Quoted

/-!
# A client of the API

A client turns a request of a program into a message (`Client.message`) and a reply into the answer
to the request (`Client.read`).  A refused look-up says that nothing is there if and only if the
code in its body is 404; every other refusal is an error with the code, the reason and the message
of the body.  Where no reply comes, the request times out.
-/

namespace Caretaker

namespace Kind

/-- The path of the collections of a kind's group and version. -/
def groupPath (kind : Kind) : String :=
  if kind.group = "" then "/api/" ++ kind.version
  else "/apis/" ++ kind.group ++ "/" ++ kind.version

/-- The path of the objects of a kind in a namespace. -/
def collectionPath (kind : Kind) (ns : String) : String :=
  kind.groupPath ++ "/namespaces/" ++ ns ++ "/" ++ kind.plural

/-- The path of the objects of a kind in the cluster. -/
def clusterPath (kind : Kind) : String := kind.groupPath ++ "/" ++ kind.plural

/-- The path of an object. -/
def objectPath (kind : Kind) (ns name : String) : String :=
  kind.collectionPath ns ++ "/" ++ name

end Kind

namespace Refusal

/-- Read what a server says about a request that it refuses. -/
def decode? (document : Json) : Option Refusal := do
  let members ← document.recordMembers? ["status", "message", "reason", "code"]
  let _ ← (Assoc.get? members "status").bind Json.text?
  let message ← Json.defaultField members "message" "" Json.text?
  let reason ← Json.defaultField members "reason" "" Json.text?
  let code ← (Assoc.get? members "code").bind Json.int?
  if isNat16 code then return ⟨code.toNat, reason, message⟩ else none

/-- What a reply says about a request that it refuses; a body that cannot be read is quoted. -/
def ofReply (reply : Api.Reply) : Refusal :=
  match reply.content.document?.bind decode? with
  | some refusal => refusal
  | none => ⟨reply.status, "Failed to parse error data", quotedText reply.content.toText⟩

end Refusal

namespace Api

/-- The shape of what the list of a collection says about itself. -/
def listMetadata : Shape := .record [
  Shape.optional "continue" .text,
  Shape.optional "remainingItemCount" .int64,
  Shape.optional "resourceVersion" .text,
  Shape.optional "selfLink" .text]

/-- Read the objects of a collection; null stands for none. -/
def decodeList? (kind : Kind) (document : Json) : Option (List (Object kind)) := do
  let members ← document.members?
  let _ ← Json.defaultField members "metadata" .null fun metadata =>
    if metadata.members?.isSome && listMetadata.accepts metadata then some metadata else none
  match ← Assoc.get? members "items" with
  | .null => return []
  | items => items.listOf (Object.decode? kind)

namespace Client

/-- A message with the given path, which must be the text of a target. -/
def send (method : Method) (path : String) (query : List (String × String) := [])
    (body : Option Json := none) : Except Error Message :=
  match Target.ofText? path query with
  | some target => .ok ⟨method, target, body⟩
  | none => .error .unreadable

/-- The path of an object that a request names, which must not be empty. -/
def namedPath (kind : Kind) (ns name : String) : Except Error String :=
  if name = "" then .error .unreadable else .ok (kind.objectPath ns name)

/-- The message that a request is sent as. -/
def message : Request → Except Error Message
  | .get kind ns name => do send .get (← namedPath kind ns name)
  | .list kind ns labels =>
    send .get (kind.collectionPath ns ++ "?") [("labelSelector", Selector.text labels)]
  | .listStorageClasses => send .get (Kind.storageClass.clusterPath ++ "?")
  | .create kind object => do
    let key ← Key.forWriting object
    send .post (kind.collectionPath key.ns ++ "?") [] (some object.encode)
  | .update kind object => do
    let key ← Key.forWriting object
    send .put ((← namedPath kind key.ns key.name) ++ "?") [] (some object.encode)
  | .updateStatus kind object => do
    let key ← Key.forWriting object
    send .put ((← namedPath kind key.ns key.name) ++ "/status?") [] (some object.encode)

/-- How a request that gets no reply is named. -/
def subject : Request → String
  | .get kind ns name => "get " ++ kind.name ++ " " ++ ns ++ "/" ++ name
  | .list kind ns _ => "list " ++ kind.name ++ " in " ++ ns
  | .listStorageClasses => "list " ++ Kind.storageClass.name
  | .create kind object => "create " ++ kind.name ++ " " ++ object.nsD ++ "/" ++ object.nameD
  | .update kind object => "update " ++ kind.name ++ " " ++ object.nsD ++ "/" ++ object.nameD
  | .updateStatus kind object =>
    "update " ++ kind.name ++ " " ++ object.nsD ++ "/" ++ object.nameD ++ " status"

/-- Read the answer to a request out of the document of a reply. -/
def decodeAnswer? : (request : Request) → Json → Option request.Answer
  | .get kind _ _, document => Object.decode? kind document
  | .list kind _ _, document => decodeList? kind document
  | .listStorageClasses, document => decodeList? .storageClass document
  | .create kind _, document => Object.decode? kind document
  | .update kind _, document => Object.decode? kind document
  | .updateStatus kind _, document => Object.decode? kind document

/-- The error that a refused request ends with. -/
def refused (request : Request) (refusal : Refusal) : Error :=
  match request with
  | .get kind ns name => if refusal.code = 404 then .notFound kind ns name else .refused refusal
  | _ => .refused refusal

/-- The answer to a request; no reply means that it timed out. -/
def read (request : Request) (reply : Option Reply) : Except Error request.Answer :=
  match reply with
  | none => .error (.timeout (subject request))
  | some reply =>
    if reply.isRefusal then .error (refused request (Refusal.ofReply reply))
    else
      match reply.content.document?.bind (decodeAnswer? request) with
      | some answer => .ok answer
      | none => .error .unreadable

end Client

end Api

end Caretaker
