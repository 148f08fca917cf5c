import Caretaker.Api.Server
import Caretaker.Controller.Announcement

/-!
# Recording events

Announcements become events that an API server keeps.  The first announcement of a topic creates an
event, and each later one counts that event up and leaves its note as it is.  An event that the
server refuses counts as never told.
-/

namespace Caretaker

/-- Who an event is about. -/
structure Subject where
  kind : ParentKind
  metadata : Metadata

namespace Subject

/-- The namespace that the events of a subject live in. -/
def ns (subject : Subject) : String := subject.metadata.ns.getD "default"

/-- The members that refer to a subject, absent ones null. -/
def document (subject : Subject) : Json := .ofMembers [
  ("apiVersion", .text (Kind.parent subject.kind).apiVersion),
  ("kind", .text subject.kind.name),
  ("name", .ofOption (subject.metadata.name.map .text)),
  ("namespace", .ofOption (subject.metadata.ns.map .text)),
  ("uid", .ofOption (subject.metadata.uid.map .text))]

end Subject

/-- An event as it is sent: the announcement of its topic that came first, and how often the topic
was announced, unless this is the first time. -/
structure Event where
  announcement : Announcement
  count : Option Nat
  reporter : String
  subject : Subject

namespace Event

/-- The document of an event. -/
def document (event : Event) : Json := .record [
  ("action", some (.text event.announcement.topic.action)),
  ("note", some (.text event.announcement.note)),
  ("reason", some (.text event.announcement.topic.reason)),
  ("regarding", some event.subject.document),
  ("reportingController", some (.text event.reporter)),
  ("series", event.count.map fun count => .object [("count", .int count)]),
  ("type", some (.text event.announcement.topic.tone.name))]

/-- The message that an event is sent in. -/
def message (event : Event) : Api.Message :=
  let collection := Api.eventsRoot ++ event.subject.ns ++ "/events"
  match event.count with
  | none => ⟨.post, ⟨collection, []⟩, some event.document⟩
  | some _ =>
    ⟨.patch, ⟨collection ++ "/" ++ event.subject.metadata.nameAny, []⟩, some event.document⟩

/-- Whether a document may be that of an event. -/
def isEvent (document : Json) : Bool :=
  match document.members? with
  | none => false
  | some members =>
    Object.absentOrText members "apiVersion" "events.k8s.io/v1" &&
      Object.absentOrText members "kind" "Event"

/-- Whether a server took an event. -/
def isTaken (reply : Api.Reply) : Bool :=
  !reply.isRefusal && (reply.content.document?.any isEvent)

end Event

/-- The topics that were told: the first announcement of each and how often it was made. -/
abbrev Recorder := List (Topic × String × Nat)

namespace Recorder

/-- The note and the count of a topic. -/
def told? (recorder : Recorder) (topic : Topic) : Option (String × Nat) :=
  Assoc.get? recorder topic

/-- The event that tells an announcement. -/
def event (recorder : Recorder) (reporter : String) (subject : Subject)
    (announcement : Announcement) : Event :=
  match recorder.told? announcement.topic with
  | none => ⟨announcement, none, reporter, subject⟩
  | some (note, count) => ⟨⟨announcement.topic, note⟩, some (count + 1), reporter, subject⟩

/-- The topics after an event was taken. -/
def record (recorder : Recorder) (event : Event) : Recorder :=
  let topic := event.announcement.topic
  (topic, event.announcement.note, event.count.getD 1) :: Assoc.erase recorder topic

end Recorder

end Caretaker
