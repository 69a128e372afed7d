import NexusN3.Lib.Dict
import NexusN3.Lib.Json
import NexusN3.Lib.Machine
import NexusN3.Lib.Text
import Mathlib.Data.Finset.Basic
import Mathlib.Data.List.Dedup
import Mathlib.Data.List.Sort
import Mathlib.Data.String.Basic

/-!
# Connect All

`SubjectConnectionSequence`: the subjects are discovered and connected one after another, one
step at a time, and a step ends with the reply that carries its token. A timeout ends the
sequence but not the step.

* **`Sequence`** — the fields of the source, with a log of what was emitted and dispatched,
  in order. The log also notes when a pending step is let go.
* **`configure`, `start`, `expired`, `onEvent`** — the four operations under the lock. An
  exception in the middle of one keeps what was done before it.
* **`Sequence.step`** — the machine of all four.

What the operations take from outside is `Env`: fresh uuids, and whether a dispatch raises.
`str` of a value that is no text and the upper-casing of texts are parameters.
-/

namespace NexusN3.Connection

open Lib

/-! ## Data -/

structure Subject where
  subjectId : String
  nodeId : String
  locations : List (Option String)
  deriving DecidableEq

inductive Operation where
  | discovering
  | connecting
  deriving DecidableEq

structure Pending where
  token : String
  subject : Subject
  operation : Operation
  deriving DecidableEq

inductive Phase where
  | discovering
  | connecting
  | subjectConnected
  | completed
  | failed
  deriving DecidableEq

def Operation.phase : Operation → Phase
  | discovering => .discovering
  | connecting => .connecting

/-- What a failure adds to its progress event. -/
structure Failure where
  operation : Option Operation
  message : Json
  selectedAddresses : List String

/-- The payload of `EVT_SUBJECT_CONNECTION_PROGRESS`. -/
structure Progress where
  correlationId : Json
  connectionSequenceId : Option String
  subjectId : Option String
  nodeId : Option String
  phase : Phase
  operationCorrelationId : Option String
  completedSubjectIds : List String
  skipped : Bool
  failure : Option Failure

/-- A discover or connect command. The addresses are those excluded, or those selected. -/
structure StepCommand where
  nodeId : String
  operation : Operation
  token : String
  sequenceId : Option String
  subjectId : String
  addresses : List String

inductive Entry where
  | progress (p : Progress)
  /-- The answer to a start while busy; it carries no sequence id. -/
  | busy (correlationId : Json) (subjectId : Option String) (nodeId : Option String)
  | dispatched (c : StepCommand)
  | identify (nodeId subjectId correlationId : String) (sequenceId : Option String)
      (sequenceCorrelationId : Json)
  | identifyError (correlationId : Json) (subjectId nodeId message : String)
  /-- The pending step with this token is let go. -/
  | released (token : String)

structure Sequence where
  subjects : List Subject := []
  selected : Dict String (List String) := .empty
  completed : Finset String := ∅
  discovered : Finset String := ∅
  active : Bool := false
  pending : Option Pending := none
  timer : Option String := none
  correlationId : Json := .null
  sequenceId : Option String := none
  index : Nat := 0
  log : List Entry := []

/-- What an operation draws and meets: uuids, and the exception of each dispatch if it raises. -/
structure Env where
  token : String
  sequenceId : String
  correlationId : String
  identifyId : String
  stepRaises : Option String := none
  identifyRaises : Option String := none

/-! ## Messages -/

def evtSensorsDiscovered : String := "sensors_discovered"
def evtSensorConnected : String := "sensor_connected"
def evtSensorDisconnected : String := "sensor_disconnected"
def evtSensorCleanupComplete : String := "sensor_cleanup_complete"
def evtSensorCleanupStarted : String := "sensor_cleanup_started"
def evtError : String := "error"

def timedOutMessage : String :=
  "Timed out waiting for operation completion; wait for its result or Reset before retrying"

/-- `sorted({..})`. -/
def sortedSet (l : List String) : List String := l.dedup.insertionSort (· ≤ ·)

namespace Sequence

/-! ## Small operations -/

def busy (s : Sequence) : Bool := s.active || s.pending.isSome

def note (s : Sequence) (e : Entry) : Sequence := { s with log := s.log ++ [e] }

def cancelTimer (s : Sequence) : Sequence := { s with timer := none }

/-- `self.pending = None`. -/
def letGo (s : Sequence) : Sequence :=
  match s.pending with
  | some p => { s with pending := none }.note (.released p.token)
  | none => s

/-- `exclusions`, for one subject. -/
def exclusions (s : Sequence) (sid : String) : List String :=
  sortedSet ((s.selected.entries.filter fun e => e.1 ≠ sid).flatMap Prod.snd)

def completedIds (s : Sequence) : List String :=
  (s.subjects.map Subject.subjectId).filter (· ∈ s.completed)

/-- `_progress`. -/
def progress (s : Sequence) (phase : Phase) (subject : Option Subject) (skipped : Bool)
    (failure : Option Failure) : Sequence :=
  s.note (.progress
    { correlationId := s.correlationId
      connectionSequenceId := s.sequenceId
      subjectId := subject.map Subject.subjectId
      nodeId := subject.map Subject.nodeId
      phase
      operationCorrelationId := s.pending.map Pending.token
      completedSubjectIds := s.completedIds
      skipped
      failure })

/-- `_fail`; subject and operation are the pending ones where none is given. -/
def fail (s : Sequence) (message : Json) (subject : Option Subject)
    (operation : Option Operation) : Sequence :=
  let s := s.cancelTimer
  let subject := subject.or (s.pending.map Pending.subject)
  { s with active := false }.progress .failed subject false (some
    { operation := operation.or (s.pending.map Pending.operation)
      message
      selectedAddresses :=
        (subject.bind fun subject => s.selected.get? subject.subjectId).getD [] })

/-- `_fail` of the pending step, if the sequence is running. -/
def failIfActive (s : Sequence) (message : Json) : Sequence :=
  if s.active then s.fail message none none else s

/-! ## Steps -/

/-- `_step`. Connecting reads the selected addresses, which must be there. -/
def beginStep (s : Sequence) (env : Env) (subject : Subject) (operation : Operation) : Sequence :=
  let s := { s with pending := some ⟨env.token, subject, operation⟩ }
  let s := s.progress operation.phase (some subject) false none
  let addresses :=
    match operation with
    | .discovering => some (s.exclusions subject.subjectId)
    | .connecting => s.selected.get? subject.subjectId
  match addresses with
  -- a `KeyError`: the step stays pending, with no timer running
  | none => s
  | some addresses =>
    let s := { s with timer := some env.token }
    let s := s.note (.dispatched
      { nodeId := subject.nodeId
        operation
        token := env.token
        sequenceId := s.sequenceId
        subjectId := subject.subjectId
        addresses })
    match env.stepRaises with
    | none => s
    | some exc => (s.fail (.str exc) none none).letGo

/-- `_next_subject`, from the subjects at `index` and behind it. -/
def nextSubject (s : Sequence) (env : Env) : List Subject → Sequence
  | [] => { s with active := false }.progress .completed s.subjects.getLast? false none
  | subject :: rest =>
    if subject.subjectId ∈ s.completed then
      -- connected by an earlier sequence: told again, not connected again
      let s := s.progress .subjectConnected (some subject) true none
      nextSubject { s with index := s.index + 1 } env rest
    else
      s.beginStep env subject
        (if subject.subjectId ∈ s.discovered then .connecting else .discovering)

/-! ## Configuring, starting, expiring -/

def configure (s : Sequence) (subjects : List Subject) : Sequence :=
  let s := s.cancelTimer.letGo
  { s with
    subjects
    selected := .empty
    completed := ∅
    discovered := ∅
    active := false
    sequenceId := none }

def start (s : Sequence) (env : Env) (correlationId : Json) : Sequence :=
  if s.busy then
    s.note (.busy correlationId (s.pending.map fun p => p.subject.subjectId)
      (s.pending.map fun p => p.subject.nodeId))
  -- `ValueError`, with nothing written
  else if s.subjects = [] then s
  else
    let s := { s with
      correlationId := if correlationId.truthy then correlationId else .str env.correlationId
      sequenceId := some env.sequenceId
      active := true
      index := 0 }
    s.nextSubject env (s.subjects.drop s.index)

/-- `_expired`. -/
def expired (s : Sequence) (token : String) : Sequence :=
  match s.pending with
  | some p =>
    if p.token = token ∧ s.active = true then s.fail (.str timedOutMessage) none none else s
  | none => s

/-! ## Events -/

/-- Reset takes back what is known of a subject. -/
def retire (s : Sequence) (sid : String) : Sequence :=
  { s with
    selected := s.selected.restrict fun k => k ≠ sid
    completed := s.completed.erase sid
    discovered := s.discovered.erase sid }

/-- `EVT_SENSOR_CLEANUP_COMPLETE` of a completed Reset of `node`. -/
def onReset (s : Sequence) (node : Json) : Sequence :=
  let s := s.subjects.foldl
    (fun s subject => if node.isText subject.nodeId then s.retire subject.subjectId else s) s
  match s.pending with
  | some p =>
    if node.isText p.subject.nodeId then
      (s.failIfActive (.str "Connect All interrupted by Reset")).letGo
    else s
  | none => s

/-- `EVT_SENSOR_DISCONNECTED`, over the items of `selected`. -/
def loseSensors (lost : List String) : Sequence → List (String × List String) → Sequence
  | s, [] => s
  | s, (sid, addresses) :: rest =>
    if addresses.any (· ∈ lost) then
      let wasComplete := decide (sid ∈ s.completed)
      let s := { s with completed := s.completed.erase sid }
      if s.active && wasComplete then
        match s.subjects.find? fun subject => subject.subjectId = sid with
        | some subject =>
          loseSensors lost (s.fail (.str "Previously connected subject lost a sensor")
            (some subject) (some .connecting)) rest
        -- `next(..)` finds nobody and raises: the items behind stay as they are
        | none => s
      else loseSensors lost s rest
    else loseSensors lost s rest

section Payloads

variable (str : Json → String) (upper : String → String)

/-- `str(address or "").strip().upper()`. -/
def normalized (address : Json) : String :=
  upper (strip (if address.truthy then
    match address with
    | .str text => text
    | value => str value
  else ""))

/-- `[normalized(a) for a in value]`. -/
def normalizedAll (value : Json) : Option (List String) :=
  value.iter.map fun items => items.map (normalized str upper)

/-- A discovery outside of a sequence: its subjects are to be connected anew. The flag is
false when an exception ends the loop. -/
def forgetDiscoveries : Sequence → List Json → Sequence × Bool
  | s, [] => (s, true)
  | s, result :: rest =>
    match result.asDict with
    | none => (s, false)
    | some fields =>
      let sid := Json.get fields "subject_id"
      match s.subjects.find? fun subject => sid.isText subject.subjectId with
      | none => forgetDiscoveries s rest
      | some subject =>
        let s := { s with
          completed := s.completed.erase subject.subjectId
          discovered := s.discovered.erase subject.subjectId }
        match normalizedAll str upper (Json.getD fields "discovered_sensors" (.arr [])) with
        | none => (s, false)
        | some addresses =>
          forgetDiscoveries { s with selected := s.selected.set subject.subjectId addresses } rest

/-- `value == self.sequence_id`. -/
def sameSequence (value : Json) : Option String → Bool
  | some id => value.isText id
  | none =>
    match value with
    | .null => true
    | _ => false

/-- The event kind that answers an operation. -/
def Operation.expected : Operation → String
  | .discovering => evtSensorsDiscovered
  | .connecting => evtSensorConnected

/-- The pending step, if the event is a reply to it. -/
def repliedStep (s : Sequence) (event payload : List (String × Json)) : Option Pending :=
  s.pending.filter fun p =>
    let kind := Json.get event "type"
    (Json.get payload "correlation_id").isText p.token
      && sameSequence (Json.get payload "connection_sequence_id") s.sequenceId
      && (Json.getD payload "node_id" (Json.get event "node_id")).isText p.subject.nodeId
      && (kind.isText evtError || kind.isText (Operation.expected p.operation))

/-- The results of the subject; `none` when one of the results is no dictionary. -/
def resultsOf (payload : List (String × Json)) (sid : String) :
    Option (List (List (String × Json))) :=
  ((Json.getD payload "subjects" (.arr [])).iter.bind fun items => items.mapM Json.asDict).map
    fun results => results.filter fun r => (Json.get r "subject_id").isText sid

/-- The discovered addresses of the first result, or no address. -/
def discoveredAddresses (results : List (List (String × Json))) : Option (List String) :=
  match results with
  | [] => some []
  | result :: _ => normalizedAll str upper (Json.getD result "discovered_sensors" (.arr []))

/-- The connected sensors of the first result. -/
def connectedSensors (results : List (List (String × Json))) :
    Option (List (List (String × Json))) :=
  match results with
  | [] => some []
  | result :: _ =>
    (Json.getD result "connected_sensors" (.arr [])).iter.bind fun items => items.mapM Json.asDict

def addressOf (sensor : List (String × Json)) : String :=
  normalized str upper (Json.get sensor "address")

/-- The address and the location of a sensor, as a key of a `Counter`: a number or a truth
value is no location of the configuration, a list or a dictionary is no key. -/
def placeOf (sensor : List (String × Json)) : Option (String × Option (Option String)) :=
  match Json.get sensor "location" with
  | .null => some (addressOf str upper sensor, some none)
  | .str location => some (addressOf str upper sensor, some (some location))
  | .bool _ => some (addressOf str upper sensor, none)
  | .num _ => some (addressOf str upper sensor, none)
  | .arr _ => none
  | .obj _ => none

/-- The selected addresses of a subject with the locations at the same positions. -/
def selectedPlaces (s : Sequence) (subject : Subject) : List (String × Option (Option String)) :=
  (((s.selected.get? subject.subjectId).getD []).zip subject.locations).map
    fun place => (place.1, some place.2)

def isConnected (sensor : List (String × Json)) : Bool :=
  (Json.get sensor "status").isText "CONNECTED" && (Json.get sensor "setup_complete").isTrue

/-- A reply that is not what the step needs. -/
def reject (s : Sequence) (message : String) : Sequence := (s.failIfActive (.str message)).letGo

/-- The discovered addresses are those the subject needs, and nobody else's. -/
def discoveryValid (s : Sequence) (p : Pending) (complete : Bool) (addresses : List String) :
    Bool :=
  complete && decide (addresses.length = p.subject.locations.length)
    && addresses.all (fun a => decide (a ≠ "")) && decide addresses.Nodup
    && addresses.all fun a => decide (a ∉ s.exclusions p.subject.subjectId)

/-- What is tested of a connection before the locations are looked at. -/
def connectionShape (s : Sequence) (p : Pending) (complete : Bool)
    (sensors : List (List (String × Json))) : Bool :=
  let addresses := sensors.map (addressOf str upper)
  let selected := (s.selected.get? p.subject.subjectId).getD []
  complete && decide (addresses.length = p.subject.locations.length) && decide addresses.Nodup
    && decide (addresses.toFinset = selected.toFinset)

def onDiscovered (s : Sequence) (env : Env) (p : Pending) (complete : Bool)
    (addresses : List String) : Sequence :=
  if s.discoveryValid p complete addresses then
    let sid := p.subject.subjectId
    let s := { s with
      selected := s.selected.set sid addresses
      discovered := insert sid s.discovered }.letGo
    -- a late reply is kept, but nothing follows it
    if s.active then s.beginStep env p.subject .connecting else s
  else s.reject "Incomplete discovery or duplicate sensor addresses"

/-- Tell of the connected subject and identify its sensors. Nothing waits for the answer. -/
def identifySubject (s : Sequence) (env : Env) (subject : Subject) : Sequence :=
  let s := s.progress .subjectConnected (some subject) false none
  let s := s.note (.identify subject.nodeId subject.subjectId env.identifyId s.sequenceId
    s.correlationId)
  match env.identifyRaises with
  | none => s
  | some exc => s.note (.identifyError s.correlationId subject.subjectId subject.nodeId exc)

/-- The subject is connected: identify it, and go on. -/
def subjectDone (s : Sequence) (env : Env) (subject : Subject) : Sequence :=
  let s := { s with completed := insert subject.subjectId s.completed }.letGo
  if s.active then
    let s := s.identifySubject env subject
    let s := { s with index := s.index + 1 }
    s.nextSubject env (s.subjects.drop s.index)
  else s

def onConnected (s : Sequence) (env : Env) (p : Pending) (complete : Bool)
    (sensors : List (List (String × Json))) : Sequence :=
  if s.connectionShape str upper p complete sensors then
    match sensors.mapM (placeOf str upper) with
    -- an unhashable location raises inside `Counter`
    | none => s
    | some places =>
      if places.Perm (s.selectedPlaces p.subject) ∧ sensors.all isConnected = true then
        s.subjectDone env p.subject
      else s.reject "Incomplete connection or sensor setup"
  else s.reject "Incomplete connection or sensor setup"

/-- Partial selections are kept too. -/
def keepSelected (s : Sequence) (p : Pending) (reported : List String) : Sequence :=
  if reported ≠ [] ∧ p.operation = .discovering then
    { s with selected := s.selected.set p.subject.subjectId reported }
  else s

/-- The reply to the pending step `p`. -/
def onReply (s : Sequence) (env : Env) (p : Pending) (isError : Bool)
    (payload : List (String × Json)) : Sequence :=
  let s := s.cancelTimer
  match normalizedAll str upper (Json.getD payload "selected_addresses" (.arr [])) with
  | none => s
  | some reported =>
    -- the timer is off from here on, also when the rest raises
    let s := s.keepSelected p reported
    if isError then
      (s.failIfActive (Json.getD payload "message" (.str "Subject operation failed"))).letGo
    else
      match resultsOf payload p.subject.subjectId with
      | none => s
      | some results =>
        let complete :=
          decide (results.length = 1) && (Json.get payload "operation_complete").isTrue
        match p.operation with
        | .discovering =>
          match discoveredAddresses str upper results with
          | none => s
          | some addresses => s.onDiscovered env p complete addresses
        | .connecting =>
          match connectedSensors results with
          | none => s
          | some sensors => s.onConnected str upper env p complete sensors

/-- A discovery that no sequence has asked for. -/
def isLegacyDiscovery (event payload : List (String × Json)) : Bool :=
  (Json.get event "type").isText evtSensorsDiscovered
    && !(Json.get payload "connection_sequence_id").truthy

def forgetLegacy (s : Sequence) (event payload : List (String × Json)) : Sequence × Bool :=
  if isLegacyDiscovery event payload then
    match (Json.getD payload "subjects" (.arr [])).iter with
    | none => (s, false)
    | some results => forgetDiscoveries str upper s results
  else (s, true)

/-- An event whose payload is a dictionary. -/
def onPayload (s : Sequence) (env : Env) (event payload : List (String × Json)) : Sequence :=
  let kind := Json.get event "type"
  if kind.isText evtSensorCleanupStarted then
    s.failIfActive (.str "Connect All interrupted by sensor cleanup")
  else if kind.isText evtSensorCleanupComplete then
    if (Json.get payload "recover_session").truthy
        && (Json.get payload "core_ready_for_configuration").isTrue then
      s.onReset (Json.getD payload "node_id" (Json.get event "node_id"))
    else s
  else if kind.isText evtSensorDisconnected then
    match normalizedAll str upper (Json.getD payload "disconnected_sensors" (.arr [])) with
    | none => s
    | some lost => loseSensors lost s s.selected.entries
  else
    let forgotten := s.forgetLegacy str upper event payload
    let s := forgotten.1
    -- the same event may also answer the pending step
    if forgotten.2 then
      match s.repliedStep event payload with
      | none => s
      | some p => s.onReply str upper env p (kind.isText evtError) payload
    else s

def onEvent (s : Sequence) (env : Env) (event : Json) : Sequence :=
  match event.asDict with
  | none => s
  | some event =>
    match (Json.get event "payload").asDict with
    | none => s
    | some payload => s.onPayload str upper env event payload

/-! ## The machine -/

inductive Action where
  | configure (subjects : List Subject)
  | start (env : Env) (correlationId : Json)
  | expired (token : String)
  | event (env : Env) (event : Json)

/-- The sequence ids an entry carries. -/
def Entry.sequenceId? : Entry → Option String
  | .progress p => p.connectionSequenceId
  | .dispatched c => c.sequenceId
  | _ => none

/-- What is known of a uuid just drawn. -/
def freshId (s : Sequence) (id : String) : Bool :=
  decide (id ≠ "") && s.log.all fun e => decide (Entry.sequenceId? e ≠ some id)

/-- One operation. A start that draws a sequence id draws a fresh one. -/
def step : Machine Sequence Action := fun s a =>
  match a with
  | .configure subjects => some (s.configure subjects)
  | .start env correlationId =>
    if s.busy || s.freshId env.sequenceId then some (s.start env correlationId) else none
  | .expired token => some (s.expired token)
  | .event env event => some (s.onEvent str upper env event)

end Payloads

end Sequence

end NexusN3.Connection
