import Caretaker.Api.Client
import Caretaker.Json.MergePatch
import Caretaker.Json.Path

/-!
# An API server with a script

The server keeps documents under their paths and follows a script: the first rule of the script that
fits a message decides its reply.  A message that no rule fits is served from the documents: a
created object is stored below its collection, a replaced one in its place, and a patch is merged
into the document in its place.  The server logs every message before it replies.
-/

namespace Caretaker

namespace Api

/-- How a rule replies. -/
inductive Action where
  /-- Never. -/
  | hang
  /-- With a status and a body. -/
  | reply (reply : Reply)

/-- A rule of a script: how messages of a method on a path are replied to, and how often. -/
structure Rule where
  method : String
  path : String
  /-- How often the rule still applies; without a number it always does. -/
  times : Option Nat := none
  action : Action

/-- The path under which a rule fits every message about events. -/
def eventsPath : String := "events"

/-- The start of the paths of events. -/
def eventsRoot : String := "/apis/events.k8s.io/v1/namespaces/"

/-- Whether a message is about events. -/
def Message.isAboutEvents (message : Message) : Bool := eventsRoot.isPrefixOf message.path

namespace Rule

/-- Whether a rule fits a message. -/
def fits (rule : Rule) (message : Message) : Bool :=
  rule.method = message.method.name && rule.times ≠ some 0 &&
    (rule.path = message.path || (rule.path = eventsPath && message.isAboutEvents))

/-- The rule after it was applied. -/
def spend (rule : Rule) : Rule := { rule with times := rule.times.map (· - 1) }

end Rule

/-- The rule of a script that fits a message, and the script after it was applied. -/
def applyScript (message : Message) : List Rule → Option (Action × List Rule)
  | [] => none
  | rule :: rest =>
    if rule.fits message then some (rule.action, rule.spend :: rest)
    else (applyScript message rest).map fun applied => (applied.1, rule :: applied.2)

/-- The document with which a server refuses a request. -/
def statusDocument (code : Nat) (reason message : String) : Json := .ofMembers [
  ("apiVersion", .text "v1"),
  ("kind", .text "Status"),
  ("metadata", .object []),
  ("status", .text "Failure"),
  ("code", .int code),
  ("reason", .text reason),
  ("message", .text message)]

/-- A server. -/
structure Server where
  objects : KeyMap String Json := ∅
  script : List Rule := []
  log : List Message := []

namespace Server

/-- The path without a last segment that names the status. -/
def withoutStatus (path : String) : String :=
  if "/status".toList.isSuffixOf path.toList then
    String.ofList (path.toList.take (path.length - "/status".length))
  else path

/-- The name in a document. -/
def documentName (document : Json) : String :=
  ((document.at? ["metadata", "name"]).bind Json.text?).getD ""

/-- Reply to a message from the documents alone. -/
def serve (server : Server) (message : Message) : Reply × Server :=
  let body := message.body.getD .null
  match message.method with
  | .get =>
    match server.objects.get? message.path with
    | some document => (⟨200, .document document⟩, server)
    | none => (⟨404, .document (statusDocument 404 "NotFound" "not found")⟩, server)
  | .post =>
    let path := message.path ++ "/" ++ documentName body
    (⟨201, .document body⟩, { server with objects := server.objects.insert path body })
  | .put =>
    let path := withoutStatus message.path
    (⟨200, .document body⟩, { server with objects := server.objects.insert path body })
  | .patch =>
    let current := (server.objects.get? message.path).getD .null
    let document := current.mergePatch body
    (⟨200, .document document⟩,
      { server with objects := server.objects.insert message.path document })

/-- Log a message and reply to it; no reply ever comes if the script says so. -/
def reply (server : Server) (message : Message) : Option Reply × Server :=
  let server := { server with log := server.log ++ [message] }
  match applyScript message server.script with
  | some (.hang, script) => (none, { server with script := script })
  | some (.reply reply, script) => (some reply, { server with script := script })
  | none =>
    let (reply, server) := server.serve message
    (some reply, server)

/-- Answer a request of a program; a request that cannot be sent never reaches the server. -/
def answer (server : Server) (request : Request) : Except Error request.Answer × Server :=
  match Client.message request with
  | .error error => (.error error, server)
  | .ok message =>
    let (reply, server) := server.reply message
    (Client.read request reply, server)

/-- Run a program over a server. -/
def run {α : Type} (server : Server) (program : Program α) : Except Error α × Server :=
  program.run answer server

end Server

end Api

end Caretaker
