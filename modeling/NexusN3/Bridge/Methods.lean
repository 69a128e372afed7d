import NexusN3.Lib.Dict
import NexusN3.Lib.Machine
import NexusN3.Lib.Text
import NexusN3.Lib.Value
import NexusN3.Messaging.Messages

/-!
# Direct methods from the cloud

A direct method becomes a command for the local gateway, and the events of the gateway are what
it can be answered with. The thread that handles the method waits for them on a queue of size one,
which the thread of local events finds in `_pending_method_replies`. The key there is an id that
the bridge makes for every method; the command keeps an id of its own when its payload has one.

* **`handleMethodRequest`** — a method up to the first call that another thread can come between.
* **`Handling.turn`** — the rest of it, step by step.
* **`captureMethodReply`** — an event on its way into a queue.
* **`step`** — any number of methods and the thread of local events, in any order.
-/

namespace NexusN3.Bridge.Methods

open Lib
open Messaging (evtServerReady evtSystemInitialized evtError evtUsbStatus evtDeviceInfo
  evtControlCenterMessage evtRobotStatus)

/-! ## The tables -/

def safeReadMethods : List String :=
  [Messaging.Command.isServerReady, .getDeviceInfo, .checkBattery, .getUsbStatus].map
    Messaging.Command.text

def methodNameToCommand : List (String × Messaging.Command) :=
  let named := fun c : Messaging.Command => (c.text, c)
  [named .isServerReady, named .getDeviceInfo,
    (evtControlCenterMessage, .forwardControlCenterMessage), named .initSystem,
    named .discoverSensors, named .discoverSensorsForSubjects, named .connectToAll,
    named .connectSubjects, named .identifySensor, named .startStreamForAll,
    named .startStreamForSubjects, named .stopStreamForAll, named .stopStreamForSubjects,
    named .disconnectAll, named .disconnectSubjects, named .checkBattery, named .usbMount,
    named .usbSafeUnmount, named .getUsbStatus, named .robotMotion, named .robotStop]

/-- `METHOD_REPLY_EVENTS.get(command_type)`; no events for a command that is not there. -/
def methodReplyEvents : Messaging.Command → List String
  | .isServerReady => [evtServerReady]
  | .getDeviceInfo => [evtDeviceInfo]
  | .getUsbStatus => [evtUsbStatus]
  | .initSystem => [evtSystemInitialized]
  | .discoverSensors => ["sensors_discovered"]
  | .discoverSensorsForSubjects => ["sensors_discovered_for_subject"]
  | .connectSubjects => ["sensor_connected"]
  | .identifySensor => ["sensor_identified"]
  | .startStreamForSubjects => ["stream_started"]
  | .stopStreamForSubjects => ["stream_stopped"]
  | .disconnectSubjects => ["sensor_disconnected"]
  | .robotMotion => [evtRobotStatus]
  | .robotStop => [evtRobotStatus]
  | _ => []

/-- Its method waits for a reply. -/
def awaitsReply (c : Messaging.Command) : Bool := !(methodReplyEvents c).isEmpty

def neiaTargetAliases : List String :=
  ["control_center", "neia", "neia_api", "neia.control_center", "neia-api.control_center"]

/-! ## Responses -/

structure Response where
  status : Nat
  payload : Fields

def buildMethodResponsePayload (status : Nat) (message correlationId : String) (extra : Fields) :
    Fields :=
  let payload : Fields := [("status", .num (.int status)), ("message", .str message)]
  let payload :=
    if correlationId = "" then payload
    else Value.setField "correlation_id" (.str correlationId) payload
  extra.foldl (fun payload f => Value.setField f.1 f.2 payload) payload

def response (status : Nat) (message correlationId : String) (extra : Fields) : Response :=
  ⟨status, buildMethodResponsePayload status message correlationId extra⟩

/-- The response to a command that has got no reply. -/
def acceptedResponse (c : Messaging.Command) (correlationId : String) : Response :=
  let message :=
    if c = .forwardControlCenterMessage then "Control Center message accepted by bridge"
    else "Command accepted by bridge"
  response 202 message correlationId [("command_type", .str c.text)]

def replyResponse (c : Messaging.Command) (correlationId : String) (reply : Fields) : Response :=
  let extra : Fields :=
    [("command_type", .str c.text), ("event_type", Value.get reply "type"),
      ("payload", Value.get reply "payload")]
  if (Value.get reply "type").isText evtError then
    response 500 "Command failed" correlationId extra
  else response 200 "Command completed" correlationId extra

/-- What a method answers once it has waited. -/
def methodResponse (c : Messaging.Command) (correlationId : String) : Option Fields → Response
  | some reply => replyResponse c correlationId reply
  | none => acceptedResponse c correlationId

/-! ## A method up to its command -/

structure CloudMethod where
  name : String
  payload : Value

/-- The method that a request stands for: its payload is `request.payload or {}`. -/
def CloudMethod.ofRequest (name : String) (payload : Value) : CloudMethod :=
  ⟨name, payload.orElse (.obj [])⟩

/-- What the bridge goes by when it gates a method. -/
structure Policy where
  remoteControlEnabled : Bool
  controlMode : String
  deviceLockState : String

def methodAllowed (policy : Policy) (method : CloudMethod) : Bool :=
  policy.remoteControlEnabled || safeReadMethods.contains method.name

def isNeiaTargetedMessage (message : Fields) : Bool :=
  let targeted := fun v : Value =>
    v.asText.any fun text => neiaTargetAliases.contains (strip text).toLower
  (["target", "consumer", "bridge"].any fun key => targeted (Value.get message key)) ||
    ["targets", "consumers"].any fun key =>
      match Value.get message key with
      | .arr items => items.any targeted
      | _ => false

/-- A command for the local gateway. Its payload is told by the assignments that make it. -/
structure LocalCommand where
  type : Messaging.Command
  payload : List (Value × Value)

/-- `command["payload"]["correlation_id"]`: the last assignment counts. -/
def LocalCommand.correlationId (command : LocalCommand) : Value :=
  ((command.payload.reverse.find? fun f => f.1.isText "correlation_id").map Prod.snd).getD .null

/-- Where a method gets before another thread can come between. -/
inductive Opening where
  | respond (response : Response)
  | publish (command : LocalCommand)
  | raises

def handleControlCenterForward (correlationId : String) (method : CloudMethod) : Opening :=
  match method.payload.asDict with
  | none => .raises
  | some message =>
    if !isNeiaTargetedMessage message then
      .respond (response 400 "Control Center message is not targeted for NEIA" correlationId [])
    else
      .publish ⟨.forwardControlCenterMessage,
        [(.str "message", .obj message), (.str "correlation_id", .str correlationId)]⟩

def handleMethodRequest (policy : Policy) (correlationId : String) (method : CloudMethod) :
    Opening :=
  match methodNameToCommand.lookup method.name with
  | none => .respond (response 404 ("Unknown method '" ++ method.name ++ "'") correlationId [])
  | some type =>
    if !methodAllowed policy method then
      .respond (response 403 "Method blocked by bridge control policy" correlationId
        [("control_mode", .str policy.controlMode),
          ("device_lock_state", .str policy.deviceLockState)])
    else if method.name = evtControlCenterMessage then
      handleControlCenterForward correlationId method
    else
      match method.payload.asUpdates with
      -- `dict(method.payload)` raises
      | none => .raises
      | some items =>
        -- `setdefault`
        if items.any fun f => f.1.isText "correlation_id" then .publish ⟨type, items⟩
        else .publish ⟨type, items ++ [(.str "correlation_id", .str correlationId)]⟩

/-! ## A method that waits -/

/-- An event that is put on a queue; `inTime` when it came before the deadline of the method. -/
structure Capture where
  event : Fields
  inTime : Bool

inductive Stage where
  /-- the waiter is registered, the command is not sent -/
  | publishing
  /-- at the top of the loop of `_wait_for_method_reply` -/
  | waiting
  /-- in `waiter.get` -/
  | getting
  /-- the loop has returned, the waiter is still registered -/
  | ending (reply : Option Fields)
  /-- the loop has raised, the waiter is still registered -/
  | failing
  /-- the response is to be sent -/
  | answering (response : Response)
  | done
  | raised

/-- The queue of the method is read no more. -/
def Stage.readerGone : Stage → Bool
  | .publishing | .waiting | .getting => false
  | _ => true

/-- A method that is being handled. What has come since it began is kept for the record: `heard`
is all of it, `inTime` what came before the deadline. -/
structure Handling where
  command : Option LocalCommand
  stage : Stage
  /-- its waiter is in `_pending_method_replies` -/
  registered : Bool := false
  queue : Option Capture := none
  expired : Bool := false
  responses : List Response := []
  heard : List Fields := []
  inTime : List Fields := []

/-- The steps of the thread that handles a method, and of its clock. -/
inductive Turn where
  | published (sent : Bool)
  | expire
  | check
  | get
  | giveUp
  | unregister
  | respond (sent : Bool)
  deriving DecidableEq

/-- The event has a type that the method takes for its answer. -/
def isReply (c : Messaging.Command) (event : Fields) : Bool :=
  let type := Value.get event "type"
  type.isText evtError || (methodReplyEvents c).any fun t => type.isText t

/-- The loop with an event that `waiter.get` has returned. -/
def examine (c : Messaging.Command) (event : Fields) : Stage :=
  let type := Value.get event "type"
  if type.isText evtError then .ending (some event)
  -- `in expected_events` needs a hash
  else if !type.hashable then .failing
  else if (methodReplyEvents c).any fun t => type.isText t then .ending (some event)
  else .waiting

namespace Handling

def begin (policy : Policy) (correlationId : String) (method : CloudMethod) : Handling :=
  match handleMethodRequest policy correlationId method with
  | .respond response => { command := none, stage := .answering response }
  | .publish command =>
    { command := some command, stage := .publishing, registered := awaitsReply command.type }
  | .raises => { command := none, stage := .raised }

def turn (correlationId : String) (r : Handling) : Turn → Option Handling
  | .published sent =>
    match r.stage, r.command with
    | .publishing, some command =>
      if !sent then some { r with stage := .raised }
      else if r.registered then some { r with stage := .waiting }
      else some { r with stage := .answering (acceptedResponse command.type correlationId) }
    | _, _ => none
  | .expire =>
    match r.stage with
    | .waiting | .getting => some { r with expired := true }
    | _ => none
  | .check =>
    match r.stage with
    | .waiting => some { r with stage := if r.expired then .ending none else .getting }
    | _ => none
  | .get =>
    match r.stage, r.queue, r.command with
    | .getting, some capture, some command =>
      some { r with queue := none, stage := examine command.type capture.event }
    | _, _, _ => none
  | .giveUp =>
    match r.stage, r.queue with
    | .getting, none => if r.expired then some { r with stage := .ending none } else none
    | _, _ => none
  | .unregister =>
    match r.stage, r.command with
    | .ending reply, some command =>
      some { r with
        registered := false
        stage := .answering (methodResponse command.type correlationId reply) }
    | .failing, _ => some { r with registered := false, stage := .raised }
    | _, _ => none
  | .respond sent =>
    match r.stage with
    | .answering response =>
      if sent then some { r with stage := .done, responses := r.responses ++ [response] }
      else some { r with stage := .raised }
    | _ => none

def hear (event : Fields) (r : Handling) : Handling :=
  { r with
    heard := r.heard ++ [event]
    inTime := if r.expired then r.inTime else r.inTime ++ [event] }

end Handling

/-! ## The thread of local events -/

inductive Listener where
  | idle
  /-- `_capture_method_reply` has looked the waiter up and is to put the event on it -/
  | holding (capture : Capture) (correlationId : String)
  /-- the rest of `_handle_local_event` -/
  | handling
  /-- the event loop has ended -/
  | dead

structure Service where
  policy : Policy
  listener : Listener := .idle
  requests : Dict String Handling := Dict.empty

/-- `event.get("payload", {}) or {}`. -/
def payloadOf (event : Fields) : Value :=
  (Value.getD event "payload" (.obj [])).orElse (.obj [])

/-- The id that an event carries. -/
def correlationOf (event : Fields) : Value :=
  (payloadOf event).asDict.elim .null fun payload => Value.get payload "correlation_id"

namespace Service

def captureMethodReply (s : Service) (event : Fields) : Listener :=
  let correlationId := correlationOf event
  if !correlationId.truthy then .handling
  else if !correlationId.hashable then .dead
  else
    match correlationId with
    | .str id =>
      match s.requests.get? id with
      | some r => if r.registered then .holding ⟨event, !r.expired⟩ id else .handling
      | none => .handling
    | _ => .handling

/-- The start of `_handle_local_event`. -/
def handleLocalEvent (s : Service) (event : Fields) : Service :=
  if !(Value.get event "type").truthy then s
  else { s with listener := s.captureMethodReply event }

def hear (event : Fields) (s : Service) : Service :=
  { s with requests := s.requests.mapValues (Handling.hear event) }

/-- An event comes from the gateway: a loop that has ended takes it no more. -/
def arrive (s : Service) (event : Value) : Option Service :=
  match s.listener, event.asDict with
  | .idle, some fields => some ((s.hear fields).handleLocalEvent fields)
  -- `event.get` raises
  | .idle, none => some { s with listener := .dead }
  | .dead, some fields => some (s.hear fields)
  | .dead, none => some s
  | _, _ => none

/-- `waiter.put(event)`, when the queue is not full. -/
def put (s : Service) : Option Service :=
  match s.listener with
  | .holding capture id =>
    match s.requests.get? id with
    | some r =>
      match r.queue with
      | none =>
        some { s with
          listener := .handling
          requests := s.requests.set id { r with queue := some capture } }
      | some _ => none
    | none => none
  | _ => none

/-- The thread of local events is in a put that nothing can end. -/
def stalled (s : Service) : Bool :=
  match s.listener with
  | .holding _ id =>
    (s.requests.get? id).any fun r => r.queue.isSome && r.stage.readerGone
  | _ => false

end Service

/-! ## The system -/

inductive Action where
  | policy (policy : Policy)
  /-- a direct method comes in, under a new id -/
  | request (correlationId : String) (name : String) (payload : Value)
  | turn (correlationId : String) (turn : Turn)
  | arrive (event : Value)
  | put
  /-- the rest of `_handle_local_event` ends -/
  | handled (raised : Bool)
  /-- reading from the gateway raises, or the client is closed -/
  | loopEnds

def step : Machine Service Action
  | s, .policy policy => some { s with policy }
  | s, .request id name payload =>
    if id = "" ∨ (s.requests.get? id).isSome then none
    else
      some { s with
        requests := s.requests.set id (.begin s.policy id (.ofRequest name payload)) }
  | s, .turn id turn =>
    match s.requests.get? id with
    | some r => (r.turn id turn).map fun r => { s with requests := s.requests.set id r }
    | none => none
  | s, .arrive event => s.arrive event
  | s, .put => s.put
  | s, .handled raised =>
    match s.listener with
    | .handling => some { s with listener := if raised then .dead else .idle }
    | _ => none
  | s, .loopEnds =>
    match s.listener with
    | .idle => some { s with listener := .dead }
    | _ => none

end NexusN3.Bridge.Methods
