import Caretaker.Controller.Diagnostics
import Caretaker.Controller.Recorder
import Caretaker.Pass

/-!
# Running a controller

A controller makes a pass over its parent, counts it and announces its outcome.  A pass that failed
is made again some time after it ended; one that succeeded is not.  Time passes only while a request
waits for a reply that does not come, and between passes.
-/

namespace Caretaker

/-- The name under which the controller of a kind reports. -/
def ParentKind.reporter : ParentKind → String
  | .healthService => "healthservice-controller"
  | .mustGatherService => "mustgatherservice-controller"
  | .mustGatherJob => "mustgatherjob-controller"
  | .mustGatherConfig => "mustgatherconfig-controller"

/-- How long a controller waits and runs, in seconds. -/
structure Timing where
  /-- How long a request may take. -/
  timeout : Nat := 30
  /-- How long after its end a failed pass is made again. -/
  requeue : Nat := 60
  /-- How long the controller runs. -/
  seconds : Nat := 20

/-- What a run shows: the messages of its passes and the events. -/
inductive Trace where
  | message (message : Api.Message)
  | event (event : Event)

/-- A controller at work. -/
structure Controller where
  server : Api.Server
  recorder : Recorder := []
  diagnostics : Diagnostics := ∅
  trace : List Trace := []

namespace Controller

/-- Make one pass; its messages are shown. -/
def makePass (controller : Controller) (program : Program (List Change)) :
    Except Error (List Change) × Controller :=
  let (outcome, server) := { controller.server with log := [] }.run program
  (outcome, { controller with
    server := server
    trace := controller.trace ++ server.log.map .message })

/-- Tell announcements one after the other, until a reply does not come.  The flag says whether
every reply came. -/
def announce (reporter : String) (subject : Subject) (controller : Controller) :
    List Announcement → Bool × Controller
  | [] => (true, controller)
  | announcement :: rest =>
    let event := controller.recorder.event reporter subject announcement
    let (reply, server) := controller.server.reply event.message
    let controller := { controller with
      server := server
      trace := controller.trace ++ [.event event] }
    match reply with
    | none => (false, controller)
    | some reply =>
      if Event.isTaken reply then
        announce reporter subject { controller with recorder := controller.recorder.record event }
          rest
      else announce reporter subject controller rest

/-- How long a pass takes: it waits for at most one reply that does not come. -/
def duration (timing : Timing) : Except Error (List Change) → Nat
  | .error (.timeout _) => timing.timeout
  | _ => 0

/-- Count a pass and announce its outcome.  The flag says whether every reply came. -/
def conclude (controller : Controller) (kind : ParentKind) (metadata : Metadata)
    (outcome : Except Error (List Change)) : Bool × Controller :=
  let diagnostics := controller.diagnostics.record kind.reporter (outcome matches .ok _)
  announce kind.reporter ⟨kind, metadata⟩ { controller with diagnostics := diagnostics }
    (Announcement.ofPass outcome)

/-- Make passes from a point in time until one succeeds or the time is over.  A pass that would end
after that time is neither counted nor announced. -/
def runFrom (timing : Timing) (surroundings : Surroundings) (kind : ParentKind)
    (metadata : Metadata) (ns : String) (start : Nat) (controller : Controller) : Controller :=
  if start < timing.seconds then
    let (outcome, controller) :=
      controller.makePass (pass surroundings kind ns metadata.nameAny)
    let taken := duration timing outcome
    if start + taken < timing.seconds then
      let (finished, controller) := controller.conclude kind metadata outcome
      match finished, outcome with
      | true, .error _ =>
        runFrom timing surroundings kind metadata ns (start + max 1 (taken + timing.requeue))
          controller
      | _, _ => controller
    else controller
  else controller
termination_by timing.seconds - start

/-- Run the controller of a kind for a parent with the given metadata.  Nothing is done for a parent
without a namespace. -/
def run (timing : Timing) (surroundings : Surroundings) (kind : ParentKind) (metadata : Metadata)
    (controller : Controller) : Controller :=
  match metadata.ns with
  | none => controller
  | some ns => runFrom timing surroundings kind metadata ns 0 controller

end Controller

end Caretaker
