import NexusN3.Connection.Turns
import Mathlib.Data.Fintype.EquivFin
import Mathlib.Data.List.Perm.Basic

/-!
# Connect All over the nodes

A command of the sequence goes to its node. There `_handle_local` gives it to
`execute_connection_step`, which puts an operation into the queue of the sensor manager; when the
operation ends, `completed` tells the sequence. The answer to a step comes from the handler or from
the callback, and the two are on different threads.

* **`handleLocal`**, **`executeConnectionStep`**, **`completed`** — the node.
* **`System.step`** — commands, operations and answers on the way, in any number and any order;
  each of them may be lost, and the sequence hears anything else meanwhile.
* **`accounted_of_reachable`** — no step is answered twice, and none is forgotten: a pending step
  has its command, operation or answer on the way, unless that was lost.
* **`ends_of_exec`** — a Connect All of `n` subjects takes at most `6 * n` moves of the nodes.
* **`vouched_of_run`** — a completed subject was reported by its node, with each sensor connected
  and set up at its address and location.
-/

namespace NexusN3.Connection

open Lib

/-! ## The node -/

def cmdDiscoverSensorsForSubjects : String := "discover_sensors_for_subjects"
def cmdConnectSubjects : String := "connect_subjects"

/-- What a step reads of an entry of `subject.sensors`. -/
structure Slot where
  address : Option String
  location : Option String
  /-- `connection_status.name == "CONNECTED"` -/
  connected : Bool
  /-- `connection_setup_complete` -/
  setupComplete : Bool
  deriving DecidableEq

def Slot.ready (slot : Slot) : Bool := slot.connected && slot.setupComplete

/-- `[sensor.address for sensor in sensors if sensor.address]`. -/
def givenAddresses (slots : List Slot) : List String :=
  slots.filterMap fun slot => slot.address.filter (· ≠ "")

/-- A message for the queue of the sensor manager. -/
inductive Message where
  | discoverForSubject (excludedAddresses : List String)
  | connectSpecificSensors (addresses : List (Option String))

/-- An operation in the queue, with the command that its callback answers. -/
structure Job where
  command : StepCommand
  message : Message

/-- What a command finds on its node. -/
structure Host where
  /-- `self.si` is there -/
  installed : Bool
  /-- `_initialization_requires_recovery` -/
  requiresRecovery : Bool
  /-- the sensors of the subject, if there is such a subject -/
  subject : Option (List Slot)
  submitRaises : Option String

/-- `submit_connection_step`. -/
def submitConnectionStep (host : Host) (c : StepCommand) (message : Message) :
    Except String Job :=
  match host.submitRaises with
  | none => .ok ⟨c, message⟩
  | some exc => .error exc

def executeConnectionStep (upper : String → String) (host : Host) (c : StepCommand) :
    Except String Job :=
  match host.subject with
  | none => .error ("Subject " ++ c.subjectId ++ " not found")
  | some slots =>
    match c.operation with
    | .discovering => submitConnectionStep host c (.discoverForSubject c.addresses)
    | .connecting =>
      let fold := fun address : String => upper (strip address)
      if ((givenAddresses slots).map fold).toFinset = (c.addresses.map fold).toFinset then
        submitConnectionStep host c
          (.connectSpecificSensors ((slots.filter fun slot => !slot.ready).map Slot.address))
      else
        .error ("Selected addresses changed for subject " ++ c.subjectId
          ++ "; Reset or rediscover it")

theorem submitConnectionStep_ok {host : Host} {c : StepCommand} {message : Message} {job : Job}
    (h : submitConnectionStep host c message = .ok job) : job.command = c := by
  unfold submitConnectionStep at h
  split at h
  · cases h
    rfl
  · cases h

theorem executeConnectionStep_ok {upper : String → String} {host : Host} {c : StepCommand}
    {job : Job} (h : executeConnectionStep upper host c = .ok job) : job.command = c := by
  unfold executeConnectionStep at h
  split at h
  · cases h
  · split at h
    · exact submitConnectionStep_ok h
    · simp only at h
      split at h
      · exact submitConnectionStep_ok h
      · cases h

/-- What is told of a step, and what the callback read of the sensors. -/
inductive Report where
  /-- `execute_connection_step` raised. -/
  | rejected (message : String)
  | failed (slots : List Slot) (message : String)
  | completed (slots : List Slot)

inductive Handled where
  | queued (job : Job)
  | told (report : Report)
  /-- No answer names the sequence. -/
  | silent

/-- `_handle_local`, for a step of a sequence. The error of a node that requires recovery carries
no sequence id, and a command without one is no step. -/
def handleLocal (upper : String → String) (host : Host) (c : StepCommand) : Handled :=
  if host.installed && host.requiresRecovery || decide (c.sequenceId.getD "" = "") then .silent
  else if host.installed then
    match executeConnectionStep upper host c with
    | .ok job => .queued job
    | .error exc => .told (.rejected exc)
  else .told (.rejected "'NoneType' object has no attribute 'execute_connection_step'")

/-- An operation is queued for the command that it was given. -/
theorem handleLocal_queued {upper : String → String} {host : Host} {c : StepCommand} {job : Job}
    (h : handleLocal upper host c = .queued job) : job.command = c := by
  unfold handleLocal at h
  split at h
  · cases h
  · split at h
    · split at h
      · rename_i job' hok
        cases h
        exact executeConnectionStep_ok hok
      · cases h
    · cases h

/-- What a discovery has emitted: that it is incomplete, or the entries it found. -/
inductive Found where
  | incomplete (missing : String)
  | sensors (entries : List Nat)

/-- `connection_step_capture`, as far as `completed` reads it. -/
structure Capture where
  onError : Option String := none
  onDiscover : Option Found := none

def Found.entries : Option Found → List Nat
  | some (.sensors entries) => entries
  | _ => []

/-- Every entry is connected or was found. -/
def isCovered (slots : List Slot) (found : Option Found) : Bool :=
  slots.zipIdx.all fun entry => entry.1.connected || (Found.entries found).contains entry.2

/-- The callback of an operation; `registers` is the exception of `register_algorithms`. -/
def completed (operation : Operation) (slots : List Slot) (done : Except String Capture)
    (registers : Option String) : Report :=
  match done with
  | .error exc => .failed slots exc
  | .ok captured =>
    match captured.onError.filter (· ≠ "") with
    | some text => .failed slots text
    | none =>
      match operation with
      | .connecting => .completed slots
      | .discovering =>
        match captured.onDiscover with
        | some (.incomplete missing) => .failed slots ("Incomplete discovery: " ++ missing)
        | found =>
          if isCovered slots found then
            match registers with
            | none => .completed slots
            | some exc => .failed slots exc
          else
            .failed slots "Incomplete discovery: not every required slot was discovered"

/-- The handler itself tells of rejections only. -/
theorem handleLocal_told {upper : String → String} {host : Host} {c : StepCommand}
    {report : Report} (h : handleLocal upper host c = .told report) :
    ∃ message, report = .rejected message := by
  unfold handleLocal at h
  split at h
  · cases h
  · split at h
    · split at h
      · cases h
      · cases h
        exact ⟨_, rfl⟩
    · cases h
      exact ⟨_, rfl⟩

/-- A step that is told as completed is told with what the callback read. -/
theorem completed_eq_completed {operation : Operation} {slots slots' : List Slot}
    {done : Except String Capture} {registers : Option String}
    (h : completed operation slots done registers = .completed slots') : slots' = slots := by
  unfold completed at h
  split at h
  · cases h
  · split at h
    · cases h
    · split at h
      · cases h
        rfl
      · split at h
        · cases h
        · split at h
          · split at h
            · cases h
              rfl
            · cases h
          · cases h

/-! ## The events of an answer -/

def textOrNull : Option String → Json
  | some text => .str text
  | none => .null

def textsOf (texts : List String) : Json := .arr (texts.map .str)

def Operation.command : Operation → String
  | discovering => cmdDiscoverSensorsForSubjects
  | connecting => cmdConnectSubjects

def Operation.name : Operation → String
  | discovering => "discovering"
  | connecting => "connecting"

/-- The payload of a command. -/
def StepCommand.payload (c : StepCommand) : List (String × Json) :=
  [("correlation_id", .str c.token),
    ("connection_sequence_id", textOrNull c.sequenceId),
    ("subject_ids", textsOf [c.subjectId]),
    (match c.operation with
      | .discovering => "excluded_addresses"
      | .connecting => "selected_addresses", textsOf c.addresses)]

/-- The context of a step, its selection and its operation. -/
def StepCommand.base (c : StepCommand) (slots : List Slot) : List (String × Json) :=
  [("correlation_id", .str c.token),
    ("connection_sequence_id", textOrNull c.sequenceId),
    ("subject_ids", textsOf [c.subjectId]),
    ("subject_id", .str c.subjectId),
    ("node_id", .str c.nodeId),
    ("selected_addresses", textsOf (givenAddresses slots)),
    ("operation", .str c.operation.name)]

/-- A sensor of the answer to a connection. -/
def Slot.connectedSensor (slot : Slot) : List (String × Json) :=
  [("address", textOrNull slot.address), ("location", textOrNull slot.location),
    ("status", .str "CONNECTED"), ("setup_complete", .bool true)]

/-- What the answer says of the subject. -/
def StepCommand.result (c : StepCommand) (slots : List Slot) : List (String × Json) :=
  match c.operation with
  | .discovering =>
    [("subject_id", .str c.subjectId), ("discovered_sensors", textsOf (givenAddresses slots))]
  | .connecting =>
    [("subject_id", .str c.subjectId),
      ("connected_sensors", .arr ((slots.filter Slot.ready).map fun slot =>
        .obj slot.connectedSensor))]

/-- An answer on its way, with the command that it answers. -/
structure Reply where
  command : StepCommand
  report : Report

def Reply.kind (r : Reply) : String :=
  match r.report with
  | .rejected _ => evtError
  | .failed _ _ => evtError
  | .completed _ => Sequence.Operation.expected r.command.operation

def Reply.payload (r : Reply) : List (String × Json) :=
  match r.report with
  | .rejected message =>
    Json.update r.command.payload
      [("node_id", .str r.command.nodeId), ("correlation_id", .str r.command.token),
        ("subject_id", .str r.command.subjectId), ("operation", .str r.command.operation.command),
        ("severity", .str "error"), ("message", .str message)]
  | .failed slots message =>
    r.command.base slots ++ [("message", .str message),
      ("setup_completed_addresses",
        .arr ((slots.filter Slot.ready).map fun slot => textOrNull slot.address))]
  | .completed slots =>
    r.command.base slots ++ [("operation_complete", .bool true),
      ("subjects", .arr [.obj (r.command.result slots)])]

def Reply.fields (r : Reply) : List (String × Json) :=
  [("type", .str r.kind), ("payload", .obj r.payload)]

/-! ## Reading an answer -/

theorem Reply.get_type (r : Reply) : Json.get r.fields "type" = .str r.kind := rfl

theorem Reply.get_payload (r : Reply) : Json.get r.fields "payload" = .obj r.payload := rfl

/-- Whatever it tells, an answer names its step. -/
theorem Reply.get_names (r : Reply) :
    Json.get r.payload "correlation_id" = .str r.command.token ∧
      Json.get r.payload "connection_sequence_id" = textOrNull r.command.sequenceId ∧
      ∀ default, Json.getD r.payload "node_id" default = .str r.command.nodeId := by
  unfold payload
  cases r.report with
  | rejected message =>
      cases hop : r.command.operation <;>
        simp [StepCommand.payload, hop, Json.update, Json.setField, Json.get, Json.getD,
          List.lookup_cons]
  | failed slots message => exact ⟨rfl, rfl, fun _ => rfl⟩
  | completed slots => exact ⟨rfl, rfl, fun _ => rfl⟩

namespace Sequence

theorem answers_reply {s : Sequence} {r : Reply} {p : Pending} (hp : s.pending = some p)
    (horders : r.command.Orders p) (hid : r.command.sequenceId = s.sequenceId) :
    Answers s r.fields r.payload p := by
  obtain ⟨htoken, hsequence, hnode⟩ := r.get_names
  refine ⟨hp, by rw [htoken, horders.token], ?_, by rw [hnode, horders.node], ?_⟩
  · rw [hsequence, hid]
    cases s.sequenceId with
    | none => rfl
    | some id => exact decide_eq_true rfl
  · rw [r.get_type, Reply.kind]
    cases r.report with
    | rejected message => exact .inl rfl
    | failed slots message => exact .inl rfl
    | completed slots => exact .inr (by rw [horders.operation])

section Payloads

variable {str : Json → String} {upper : String → String}

theorem normalizedAll_texts (texts : List String) :
    normalizedAll str upper (textsOf texts)
      = some (texts.map fun text => normalized str upper (.str text)) := by
  simp [normalizedAll, textsOf, Json.iter]

/-- The address of an entry, as the sequence reads it, and its location. -/
def placeOfSlot (str : Json → String) (upper : String → String) (slot : Slot) :
    String × Option (Option String) :=
  (normalized str upper (textOrNull slot.address), some slot.location)

theorem placeOf_connectedSensor (slot : Slot) :
    placeOf str upper slot.connectedSensor = some (placeOfSlot str upper slot) := by
  unfold placeOf placeOfSlot
  cases hlocation : slot.location <;>
    simp [Slot.connectedSensor, addressOf, hlocation, textOrNull, Json.get, Json.getD,
      List.lookup_cons]

theorem reported_reply (r : Reply) : ∃ reported, normalizedAll str upper
    (Json.getD r.payload "selected_addresses" (.arr [])) = some reported := by
  unfold Reply.payload
  cases r.report with
  | rejected message =>
      cases hop : r.command.operation with
      | discovering =>
          exact ⟨[], by
            simp [StepCommand.payload, hop, Json.update, Json.setField, Json.getD,
              List.lookup_cons, normalizedAll, Json.iter]⟩
      | connecting =>
          exact ⟨r.command.addresses.map fun text => normalized str upper (.str text), by
            simp [StepCommand.payload, hop, Json.update, Json.setField, Json.getD,
              List.lookup_cons, normalizedAll_texts]⟩
  | failed slots message => exact ⟨_, normalizedAll_texts _⟩
  | completed slots => exact ⟨_, normalizedAll_texts _⟩

/-- An answer that is no error tells of one subject, the one of its command. -/
theorem resultsOf_reply {r : Reply} {slots : List Slot} (h : r.report = .completed slots) :
    resultsOf r.payload r.command.subjectId = some [r.command.result slots] := by
  have hsid : Json.get (r.command.result slots) "subject_id" = .str r.command.subjectId := by
    unfold StepCommand.result
    split <;> rfl
  have hsubjects : Json.getD r.payload "subjects" (.arr [])
      = .arr [.obj (r.command.result slots)] := by
    unfold Reply.payload
    rw [h]
    rfl
  simp [resultsOf, hsubjects, Json.iter, Json.asDict, hsid, Json.isText]

theorem connectedSensors_reply {c : StepCommand} (hop : c.operation = .connecting)
    (slots : List Slot) : connectedSensors [c.result slots]
      = some ((slots.filter Slot.ready).map Slot.connectedSensor) := by
  have hsensors : Json.getD (c.result slots) "connected_sensors" (.arr [])
      = .arr ((slots.filter Slot.ready).map fun slot => .obj slot.connectedSensor) := by
    unfold StepCommand.result
    rw [hop]
    rfl
  unfold connectedSensors
  simp only [hsensors, Json.iter, Option.bind_some]
  induction slots.filter Slot.ready with
  | nil => rfl
  | cons slot rest ih => simp [List.mapM_cons, Json.asDict, ih]

theorem mapM_placeOf (slots : List Slot) :
    (slots.map Slot.connectedSensor).mapM (placeOf str upper)
      = some (slots.map (placeOfSlot str upper)) := by
  induction slots with
  | nil => rfl
  | cons slot rest ih => simp [List.mapM_cons, placeOf_connectedSensor, ih]

theorem discoveredAddresses_reply {c : StepCommand} (hop : c.operation = .discovering)
    (slots : List Slot) : ∃ addresses,
      discoveredAddresses str upper [c.result slots] = some addresses := by
  have hsensors : Json.getD (c.result slots) "discovered_sensors" (.arr [])
      = textsOf (givenAddresses slots) := by
    unfold StepCommand.result
    rw [hop]
    rfl
  exact ⟨_, by rw [discoveredAddresses, hsensors, normalizedAll_texts]⟩

/-- Every answer of a node can be read. -/
theorem readable_reply {r : Reply} {p : Pending} (horders : r.command.Orders p) :
    Readable str upper p ((Json.get r.fields "type").isText evtError) r.payload where
  reported := reported_reply r
  results herror := by
    rw [r.get_type] at herror
    cases hreport : r.report with
    | rejected message =>
        simp [Reply.kind, hreport, Json.isText] at herror
    | failed slots message =>
        simp [Reply.kind, hreport, Json.isText] at herror
    | completed slots =>
        refine ⟨_, horders.subject ▸ resultsOf_reply hreport, fun hop => ?_, fun hop => ?_⟩
        · exact discoveredAddresses_reply (horders.operation.trans hop) slots
        · rw [← horders.operation] at hop
          exact ⟨_, _, connectedSensors_reply hop slots, mapM_placeOf _⟩

theorem evtError_ne : evtError ≠ evtSensorConnected := by decide

/-- What completes a subject is what the callback read of its sensors. -/
theorem slots_of_completes {r : Reply} {p : Pending} {selected : Option (List String)}
    (horders : r.command.Orders p) (hkind : r.kind = evtSensorConnected)
    (h : Completes str upper p r.payload selected) :
    ∃ slots, r.report = .completed slots
      ∧ (slots.filter Slot.ready).length = p.subject.locations.length
      ∧ ((slots.filter Slot.ready).map (placeOfSlot str upper)).Perm
        (((selected.getD []).zip p.subject.locations).map
          fun place => (place.1, some place.2)) := by
  unfold Reply.kind at hkind
  cases hreport : r.report with
  | rejected message =>
      rw [hreport] at hkind
      exact absurd hkind evtError_ne
  | failed slots message =>
      rw [hreport] at hkind
      exact absurd hkind evtError_ne
  | completed slots =>
      obtain ⟨hop, results, sensors, places, hresults, hsensors, hplaces, hperm, hcount⟩ := h
      rw [← horders.subject, resultsOf_reply hreport] at hresults
      cases hresults
      rw [connectedSensors_reply (horders.operation.trans hop)] at hsensors
      cases hsensors
      rw [mapM_placeOf] at hplaces
      cases hplaces
      exact ⟨slots, rfl, by rwa [List.length_map] at hcount, hperm⟩

end Payloads

end Sequence

/-! ## Commands, operations and answers on the way -/

structure System where
  sequence : Sequence := {}
  commands : List StepCommand := []
  jobs : List Job := []
  replies : List Reply := []
  /-- the steps that no answer comes for -/
  lost : List String := []
  /-- the steps whose answer has come -/
  heard : List String := []
  /-- the connections that callbacks have told of, with what they read -/
  told : List (StepCommand × List Slot) := []

namespace System

def onTheWay (s : System) : List StepCommand :=
  s.commands ++ (s.jobs.map Job.command ++ s.replies.map Reply.command)

def tokens (s : System) : List String := s.onTheWay.map StepCommand.token

/-- Every step whose command was sent. -/
def accounts (s : System) : List String := s.tokens ++ (s.lost ++ s.heard)

inductive Action where
  | configure (subjects : List Subject)
  | start (env : Env) (correlationId : Json)
  | expired (token : String)
  /-- an event from elsewhere -/
  | hear (env : Env) (event : Json)
  /-- a command reaches its node -/
  | arrive (i : Nat) (host : Host)
  /-- an operation ends, and its callback reads the sensors -/
  | finish (i : Nat) (slots : List Slot) (done : Except String Capture)
      (registers : Option String)
  /-- an answer reaches the sequence -/
  | deliver (i : Nat) (env : Env)
  | loseCommand (i : Nat)
  | loseJob (i : Nat)
  | loseReply (i : Nat)

/-- The commands between two states of the sequence, none if their dispatch raised. -/
def launched (env : Env) (s t : Sequence) : List StepCommand :=
  if env.stepRaises = none then (t.log.drop s.log.length).filterMap Entry.command? else []

/-- The sequence has gone on. -/
def follow (s : System) (env : Env) (t : Sequence) : System :=
  { s with sequence := t, commands := s.commands ++ launched env s.sequence t }

/-- A token just drawn was not drawn before. -/
def freshToken (s : System) (env : Env) : Bool :=
  s.sequence.log.all fun e => decide (e.command?.map StepCommand.token ≠ some env.token)

def handle (upper : String → String) (s : System) (host : Host) (c : StepCommand) : System :=
  match handleLocal upper host c with
  | .queued job => { s with jobs := s.jobs ++ [job] }
  | .told report => { s with replies := s.replies ++ [⟨c, report⟩] }
  | .silent => { s with lost := s.lost ++ [c.token] }

def answer (s : System) (c : StepCommand) (slots : List Slot) (report : Report) : System :=
  { s with
    replies := s.replies ++ [⟨c, report⟩]
    told := s.told ++ [(c, slots)] }

def step (str : Json → String) (upper : String → String) : Machine System Action
  | s, .configure subjects => some { s with sequence := s.sequence.configure subjects }
  | s, .start env correlationId =>
    if s.freshToken env then
      (Sequence.step str upper s.sequence (.start env correlationId)).map (s.follow env)
    else none
  | s, .expired token => some { s with sequence := s.sequence.expired token }
  | s, .hear env event =>
    if s.freshToken env then some (s.follow env (s.sequence.onEvent str upper env event)) else none
  | s, .arrive i host =>
    s.commands[i]?.map fun c => { s with commands := s.commands.eraseIdx i }.handle upper host c
  | s, .finish i slots done registers =>
    s.jobs[i]?.map fun job =>
      { s with jobs := s.jobs.eraseIdx i }.answer job.command slots
        (completed job.command.operation slots done registers)
  | s, .deliver i env =>
    if s.freshToken env then
      s.replies[i]?.map fun r =>
        { s with
          replies := s.replies.eraseIdx i
          heard := s.heard ++ [r.command.token] }.follow env
            (s.sequence.onEvent str upper env (.obj r.fields))
    else none
  | s, .loseCommand i =>
    s.commands[i]?.map fun c =>
      { s with commands := s.commands.eraseIdx i, lost := s.lost ++ [c.token] }
  | s, .loseJob i =>
    s.jobs[i]?.map fun job =>
      { s with jobs := s.jobs.eraseIdx i, lost := s.lost ++ [job.command.token] }
  | s, .loseReply i =>
    s.replies[i]?.map fun r =>
      { s with replies := s.replies.eraseIdx i, lost := s.lost ++ [r.command.token] }

/-! ## The invariant -/

structure Tracked (s : System) : Prop where
  sound : s.sequence.Sound
  nodup : s.accounts.Nodup
  logged : ∀ token ∈ s.accounts, ∃ c, Entry.dispatched c ∈ s.sequence.log ∧ c.token = token
  named : ∀ c ∈ s.onTheWay, ∃ id, c.sequenceId = some id ∧ id ≠ ""
  /-- The command of a pending step was sent, and its answer has not come. -/
  owed : ∀ p, s.sequence.pending = some p → p.token ∈ s.accounts ∧ p.token ∉ s.heard
  fits : ∀ c ∈ s.onTheWay, ∀ p, s.sequence.pending = some p → c.token = p.token →
    c.Orders p ∧ c.sequenceId = s.sequence.sequenceId

theorem tracked_init : Tracked {} where
  sound := Sequence.sound_init
  nodup := List.nodup_nil
  logged _ h := absurd h List.not_mem_nil
  named _ h := absurd h List.not_mem_nil
  owed _ h := by cases h
  fits _ h := absurd h List.not_mem_nil

theorem token_mem_accounts {s : System} {c : StepCommand} (h : c ∈ s.onTheWay) :
    c.token ∈ s.accounts :=
  List.mem_append_left _ (List.mem_map_of_mem h)

/-- Commands change their form or their place, or are lost. -/
theorem Tracked.moved {s s' : System} (h : Tracked s) (hsequence : s'.sequence = s.sequence)
    (hway : ∀ c ∈ s'.onTheWay, c ∈ s.onTheWay) (hperm : s'.accounts.Perm s.accounts)
    (hheard : s'.heard = s.heard) : Tracked s' where
  sound := by
    rw [hsequence]
    exact h.sound
  nodup := hperm.nodup_iff.mpr h.nodup
  logged token htoken := by
    rw [hsequence]
    exact h.logged token (hperm.mem_iff.mp htoken)
  named c hc := h.named c (hway c hc)
  owed p hp := by
    rw [hsequence] at hp
    rw [hperm.mem_iff, hheard]
    exact h.owed p hp
  fits c hc p hp := by
    rw [hsequence] at hp ⊢
    exact h.fits c (hway c hc) p hp

theorem Tracked.of_perm {s s' : System} (h : Tracked s) (hsequence : s'.sequence = s.sequence)
    (hperm : s'.onTheWay.Perm s.onTheWay) (hlost : s'.lost = s.lost)
    (hheard : s'.heard = s.heard) : Tracked s' := by
  refine h.moved hsequence (fun c hc => hperm.mem_iff.mp hc) ?_ hheard
  rw [accounts, accounts, hlost, hheard]
  exact (hperm.map _).append_right _

theorem Tracked.of_lost {s s' : System} (h : Tracked s) (hsequence : s'.sequence = s.sequence)
    {c : StepCommand} (hperm : s.onTheWay.Perm (c :: s'.onTheWay))
    (hlost : s'.lost = s.lost ++ [c.token]) (hheard : s'.heard = s.heard) : Tracked s' := by
  refine h.moved hsequence (fun c' hc => hperm.mem_iff.mpr (List.mem_cons_of_mem _ hc)) ?_ hheard
  have htokens : s.tokens.Perm (c.token :: s'.tokens) := hperm.map _
  rw [accounts, accounts, hlost, hheard]
  refine List.Perm.trans ?_ (htokens.append_right _).symm
  rw [List.append_assoc s.lost, List.singleton_append, List.cons_append]
  exact (List.perm_middle.append_left _).trans List.perm_middle

/-! ## Operations of the sequence -/

theorem launched_of_sends {env : Env} {s t : Sequence} {cs : List StepCommand}
    (h : Sequence.Sends s t cs) :
    launched env s t = if env.stepRaises = none then cs else [] := by
  obtain ⟨added, hlog, rfl⟩ := h
  rw [launched, hlog, List.drop_left]

theorem launched_of_stays {env : Env} {s t : Sequence} (h : Sequence.Stays s t) :
    launched env s t = [] := by
  rw [launched_of_sends h.sent]
  split <;> rfl

theorem launched_of_ended {env : Env} {s t : Sequence}
    (h : ∃ cs, Sequence.Sends s t cs ∧ (env.stepRaises = none → cs = [])) :
    launched env s t = [] := by
  obtain ⟨cs, hcs, hnothing⟩ := h
  rw [launched_of_sends hcs]
  split
  · rename_i hraises
    exact hnothing hraises
  · rfl

theorem logged_of_sends {s t : Sequence} {cs : List StepCommand} (h : Sequence.Sends s t cs) :
    (∀ e ∈ s.log, e ∈ t.log) ∧ ∀ c ∈ cs, Entry.dispatched c ∈ t.log := by
  obtain ⟨added, hlog, rfl⟩ := h
  rw [hlog]
  refine ⟨fun e he => List.mem_append_left _ he, fun c hc => List.mem_append_right _ ?_⟩
  obtain ⟨e, he, hcommand⟩ := List.mem_filterMap.mp hc
  cases e with
  | dispatched c' => cases hcommand; exact he
  | _ => cases hcommand

/-- A fresh token is no step's. -/
theorem Tracked.fresh {s : System} (h : Tracked s) {env : Env} (hfresh : s.freshToken env = true)
    {token : String} (htoken : token ∈ s.accounts) : token ≠ env.token := by
  rintro rfl
  obtain ⟨c, hc, heq⟩ := h.logged _ htoken
  exact of_decide_eq_true (List.all_eq_true.mp hfresh _ hc) (by rw [← heq]; rfl)

section Operations

variable {done : String → Option (List String) → Prop}

/-- Nothing is launched: the pending step stays, or nothing is pending. -/
theorem Tracked.silent {s s' : System} (h : Tracked s) (hsound : s'.sequence.Sound)
    (hlog : ∀ e ∈ s.sequence.log, e ∈ s'.sequence.log) (hway : s'.onTheWay = s.onTheWay)
    (hlost : s'.lost = s.lost) (hheard : s'.heard = s.heard)
    (hpending : s'.sequence.pending = s.sequence.pending ∧
        s'.sequence.sequenceId = s.sequence.sequenceId ∨
      s'.sequence.pending = none) : Tracked s' := by
  have haccounts : s'.accounts = s.accounts := by
    rw [accounts, accounts, tokens, tokens, hway, hlost, hheard]
  exact
    { sound := hsound
      nodup := haccounts ▸ h.nodup
      logged := fun token htoken => by
        obtain ⟨c, hc, heq⟩ := h.logged token (haccounts ▸ htoken)
        exact ⟨c, hlog _ hc, heq⟩
      named := fun c hc => h.named c (hway ▸ hc)
      owed := fun p hp => by
        rw [haccounts, hheard]
        rcases hpending with ⟨heq, -⟩ | hgone
        · exact h.owed p (heq ▸ hp)
        · rw [hgone] at hp
          cases hp
      fits := fun c hc p hp htoken => by
        rcases hpending with ⟨heq, hid⟩ | hgone
        · rw [hid]
          exact h.fits c (hway ▸ hc) p (heq ▸ hp) htoken
        · rw [hgone] at hp
          cases hp }

theorem onTheWay_follow {s : System} {t : Sequence} {env : Env}
    (h : launched env s.sequence t = []) : (s.follow env t).onTheWay = s.onTheWay := by
  simp [follow, h, onTheWay]

theorem Tracked.stays {s s' : System} (h : Tracked s)
    (hstays : Sequence.Stays s.sequence s'.sequence) (hway : s'.onTheWay = s.onTheWay)
    (hlost : s'.lost = s.lost) (hheard : s'.heard = s.heard) : Tracked s' := by
  refine h.silent (hstays.sound h.sound) (logged_of_sends hstays.sent).1 hway hlost hheard ?_
  rcases hstays.pending with heq | hgone
  · exact .inl ⟨heq, hstays.sequenceId⟩
  · exact .inr hgone

/-- One step has begun, and its command is on the way. -/
theorem Tracked.begun {s : System} (h : Tracked s) {t : Sequence} {env : Env}
    (hfresh : s.freshToken env = true) {p : Pending} {c : StepCommand}
    (hsound : t.Sound) (hsent : Sequence.Sends s.sequence t [c])
    (hbegins : Sequence.Begins env t p c) : Tracked (s.follow env t) := by
  have hperm : (s.follow env t).onTheWay.Perm (c :: s.onTheWay) := by
    simp only [follow, launched_of_sends hsent, if_pos hbegins.raises, onTheWay]
    rw [List.append_assoc, List.singleton_append]
    exact List.perm_middle
  have htoken : c.token = env.token := hbegins.orders.token.trans hbegins.token
  have hcases {c' : StepCommand} (hc : c' ∈ (s.follow env t).onTheWay) :
      c' = c ∨ c' ∈ s.onTheWay := List.mem_cons.mp (hperm.mem_iff.mp hc)
  have honly {q : Pending} (hq : t.pending = some q) : q = p := by
    rw [hbegins.pending] at hq
    cases hq
    rfl
  obtain ⟨hlog, hcommand⟩ := logged_of_sends hsent
  have haccounts : (s.follow env t).accounts.Perm (c.token :: s.accounts) :=
    (hperm.map _).append_right _
  exact
    { sound := hsound
      nodup := by
        refine haccounts.nodup_iff.mpr (List.nodup_cons.mpr ⟨fun hin => ?_, h.nodup⟩)
        exact h.fresh hfresh hin htoken
      logged := fun token hin => by
        rcases List.mem_cons.mp (haccounts.mem_iff.mp hin) with rfl | hin
        · exact ⟨c, hcommand c List.mem_cons_self, rfl⟩
        · obtain ⟨c', hc', heq⟩ := h.logged token hin
          exact ⟨c', hlog _ hc', heq⟩
      named := fun c' hc => by
        rcases hcases hc with rfl | hc
        · rw [hbegins.sequenceId]
          exact hbegins.named
        · exact h.named c' hc
      owed := fun q hq => by
        rw [honly hq, hbegins.token, ← htoken]
        refine ⟨haccounts.mem_iff.mpr List.mem_cons_self, fun hin => ?_⟩
        exact h.fresh hfresh (List.mem_append_right _ (List.mem_append_right _ hin)) htoken
      fits := fun c' hc q hq htoken' => by
        rw [honly hq] at htoken' ⊢
        rcases hcases hc with rfl | hc
        · exact ⟨hbegins.orders, hbegins.sequenceId⟩
        · exact absurd (htoken'.trans hbegins.token) (h.fresh hfresh (token_mem_accounts hc)) }

theorem Tracked.follow {s : System} (h : Tracked s) {t : Sequence} {env : Env} {k : Nat}
    (hfresh : s.freshToken env = true)
    (hturn : Sequence.Stays s.sequence t ∨ Sequence.Onward env done k s.sequence t) :
    Tracked (s.follow env t) := by
  rcases hturn with hstays | honward
  · exact h.stays hstays (onTheWay_follow (launched_of_stays hstays)) rfl rfl
  · have hsound := honward.sound h.sound
    cases honward with
    | ended hgains hpending hactive hsent =>
        have hnone := launched_of_ended hsent
        obtain ⟨cs, hcs, -⟩ := hsent
        exact h.silent hsound (logged_of_sends hcs).1 (onTheWay_follow hnone) rfl rfl
          (.inr hpending)
    | begun hgains p c hbegins _ hsent => exact h.begun hfresh hsound hsent hbegins

end Operations

/-! ## Steps of the system -/

/-- One item of a list taken out. -/
theorem perm_eraseIdx {α : Type} {l : List α} {i : Nat} {x : α} (h : l[i]? = some x) :
    l.Perm (x :: l.eraseIdx i) := by
  obtain ⟨hi, rfl⟩ := List.getElem?_eq_some_iff.mp h
  exact (List.getElem_cons_eraseIdx_perm hi).symm

theorem perm_commands {s : System} {i : Nat} {c : StepCommand} (h : s.commands[i]? = some c) :
    s.onTheWay.Perm (c :: { s with commands := s.commands.eraseIdx i }.onTheWay) :=
  (perm_eraseIdx h).append_right _

theorem perm_jobs {s : System} {i : Nat} {job : Job} (h : s.jobs[i]? = some job) :
    s.onTheWay.Perm (job.command :: { s with jobs := s.jobs.eraseIdx i }.onTheWay) := by
  have hjobs := ((perm_eraseIdx h).map Job.command).append_right (s.replies.map Reply.command)
  exact (hjobs.append_left s.commands).trans List.perm_middle

theorem perm_replies {s : System} {i : Nat} {r : Reply} (h : s.replies[i]? = some r) :
    s.onTheWay.Perm (r.command :: { s with replies := s.replies.eraseIdx i }.onTheWay) := by
  have hreplies := ((perm_eraseIdx h).map Reply.command).append_left (s.jobs.map Job.command)
  refine ((hreplies.trans List.perm_middle).append_left s.commands).trans ?_
  exact List.perm_middle

theorem perm_answered (s : System) (r : Reply) :
    { s with replies := s.replies ++ [r] }.onTheWay.Perm (r.command :: s.onTheWay) := by
  simp only [onTheWay, List.map_append, List.map_cons, List.map_nil]
  rw [← List.append_assoc, ← List.append_assoc, List.append_assoc s.commands]
  exact List.perm_append_singleton _ _

theorem perm_queued (s : System) (job : Job) :
    { s with jobs := s.jobs ++ [job] }.onTheWay.Perm (job.command :: s.onTheWay) := by
  simp only [onTheWay, List.map_append, List.map_cons, List.map_nil]
  rw [List.append_assoc, List.singleton_append]
  exact (List.perm_middle.append_left s.commands).trans List.perm_middle

/-- What the handler makes of a command carries the command on. -/
theorem Tracked.handle {upper : String → String} {s r : System} {c : StepCommand} (h : Tracked s)
    (hperm : s.onTheWay.Perm (c :: r.onTheWay)) (hsequence : r.sequence = s.sequence)
    (hlost : r.lost = s.lost) (hheard : r.heard = s.heard) (host : Host) :
    Tracked (r.handle upper host c) := by
  unfold System.handle
  split
  · rename_i job hjob
    have hcommand := handleLocal_queued hjob
    refine h.of_perm hsequence ?_ hlost hheard
    rw [← hcommand] at hperm
    exact (r.perm_queued job).trans hperm.symm
  · rename_i report _
    exact h.of_perm hsequence ((r.perm_answered ⟨c, report⟩).trans hperm.symm) hlost hheard
  · exact h.of_lost hsequence hperm (by rw [hlost]) hheard

section Runs

variable {str : Json → String} {upper : String → String}

/-- An answer is taken for lost while it is delivered. -/
theorem Tracked.take {s : System} (h : Tracked s) {i : Nat} {r : Reply}
    (hr : s.replies[i]? = some r) :
    Tracked { s with
      replies := s.replies.eraseIdx i
      lost := s.lost ++ [r.command.token] } :=
  h.of_lost rfl (perm_replies hr) rfl rfl

/-- An answer that is delivered does not leave its step pending. -/
theorem delivered_token {s : System} (h : Tracked s) {r : Reply} (hr : r ∈ s.replies)
    {env : Env} (hfresh : s.freshToken env = true) {p : Pending}
    (hp : (s.sequence.onEvent str upper env (.obj r.fields)).pending = some p) :
    p.token ≠ r.command.token := by
  have hc : r.command ∈ s.onTheWay :=
    List.mem_append_right _ (List.mem_append_right _ (List.mem_map_of_mem hr))
  have hnew (hbegun : p.token = env.token) : p.token ≠ r.command.token := by
    rw [hbegun]
    exact (h.fresh hfresh (token_mem_accounts hc)).symm
  have hbegun {t : Sequence} {done : String → Option (List String) → Prop} {k : Nat}
      (honward : Sequence.Onward env done k s.sequence t) (htp : t.pending = some p) :
      p.token = env.token := by
    cases honward with
    | ended _ hpending _ _ => rw [hpending] at htp; cases htp
    | begun _ q _ hbegins _ _ =>
        rw [hbegins.pending] at htp
        cases htp
        exact hbegins.token
  have hturn : Sequence.Stays s.sequence (s.sequence.onEvent str upper env (.obj r.fields)) ∨ _ :=
    Sequence.turn_onEvent h.sound env (.obj r.fields)
  rcases hturn with hstays | honward
  · rcases hstays.pending with heq | hgone
    · -- the step was pending before: if the answer were its own, it would have been let go
      intro htoken
      rw [hp] at heq
      obtain ⟨horders, hid⟩ := h.fits _ hc p heq.symm htoken.symm
      obtain ⟨id, hsome, hne⟩ := h.named _ hc
      have hcarries : (Json.get r.payload "connection_sequence_id").truthy = true := by
        rw [r.get_names.2.1, hsome]
        simpa [textOrNull, Json.truthy] using hne
      rw [Sequence.onEvent_answered s.sequence env r.get_payload hcarries
        (Sequence.answers_reply heq.symm horders hid)] at hp
      have hreply : Sequence.LetsGo env (fun _ _ => True) s.sequence
          (s.sequence.onReply str upper env p ((Json.get r.fields "type").isText evtError)
            r.payload) ∨ _ :=
        Sequence.turn_onReply h.sound env heq.symm _ r.payload fun _ _ => trivial
      rcases hreply with (⟨-, hnone⟩ | honward) | ⟨hunreadable, -⟩
      · rw [hnone] at hp
        cases hp
      · exact hnew (hbegun honward hp) htoken
      · exact hunreadable (Sequence.readable_reply horders)
    · rw [hgone] at hp
      cases hp
  · exact hnew (hbegun honward hp)

theorem Tracked.deliver {s : System} (h : Tracked s) {i : Nat} {r : Reply}
    (hr : s.replies[i]? = some r) {env : Env} (hfresh : s.freshToken env = true) :
    Tracked ({ s with
      replies := s.replies.eraseIdx i
      heard := s.heard ++ [r.command.token] }.follow env
        (s.sequence.onEvent str upper env (.obj r.fields))) := by
  have hturn : Sequence.Stays s.sequence (s.sequence.onEvent str upper env (.obj r.fields)) ∨ _ :=
    Sequence.turn_onEvent h.sound env (.obj r.fields)
  have htaken := (h.take hr).follow hfresh hturn
  set u := { s with
    replies := s.replies.eraseIdx i
    heard := s.heard ++ [r.command.token] }.follow env
      (s.sequence.onEvent str upper env (.obj r.fields)) with hu
  have hperm : u.accounts.Perm (u.tokens ++ (s.lost ++ [r.command.token] ++ s.heard)) := by
    rw [List.append_assoc s.lost]
    exact (List.perm_append_comm.append_left s.lost).append_left u.tokens
  exact
    { htaken with
      nodup := hperm.nodup_iff.mpr htaken.nodup
      logged := fun token htoken => htaken.logged token (hperm.mem_iff.mp htoken)
      -- the step that was answered is not pending any more
      owed := fun p hp => by
        obtain ⟨hin, hnot⟩ := htaken.owed p hp
        refine ⟨hperm.mem_iff.mpr hin, fun hheard => ?_⟩
        rcases List.mem_append.mp hheard with hheard | hheard
        · exact hnot hheard
        · exact delivered_token h (List.mem_of_getElem? hr) hfresh hp
            (List.mem_singleton.mp hheard) }

/-- No reply completes a subject at a start. -/
theorem turn_of_start {s t : Sequence} (h : s.Sound) {env : Env} {correlationId : Json}
    (hstep : Sequence.step str upper s (.start env correlationId) = some t) :
    Sequence.Stays s t ∨
      Sequence.Onward env (fun _ _ => False) (2 * s.subjects.length) s t := by
  unfold Sequence.step at hstep
  simp only [Option.ite_none_right_eq_some] at hstep
  obtain ⟨hallowed, hstep⟩ := hstep
  cases hstep
  refine Sequence.turn_start h env correlationId fun hidle => ?_
  rw [hidle, Bool.false_or, Sequence.freshId, Bool.and_eq_true] at hallowed
  exact of_decide_eq_true hallowed.1

theorem tracked_step {s s' : System} {a : Action} (h : Tracked s)
    (hstep : step str upper s a = some s') : Tracked s' := by
  cases a with
  | configure subjects =>
      cases hstep
      have hforgets := s.sequence.forgets_configure subjects
      exact h.silent hforgets.sound (logged_of_sends hforgets.sent).1 rfl rfl rfl
        (.inr hforgets.pending)
  | start env correlationId =>
      unfold step at hstep
      simp only [Option.ite_none_right_eq_some] at hstep
      obtain ⟨hfresh, hstep⟩ := hstep
      obtain ⟨t, ht, rfl⟩ := Option.map_eq_some_iff.mp hstep
      exact h.follow hfresh (turn_of_start h.sound ht)
  | expired token =>
      cases hstep
      exact h.stays (s.sequence.stays_expired token) rfl rfl rfl
  | hear env event =>
      unfold step at hstep
      simp only [Option.ite_none_right_eq_some] at hstep
      obtain ⟨hfresh, hstep⟩ := hstep
      cases hstep
      exact h.follow hfresh (Sequence.turn_onEvent h.sound env event)
  | arrive i host =>
      obtain ⟨c, hc, rfl⟩ := Option.map_eq_some_iff.mp hstep
      exact h.handle (perm_commands hc) rfl rfl rfl host
  | finish i slots done registers =>
      obtain ⟨job, hjob, rfl⟩ := Option.map_eq_some_iff.mp hstep
      exact h.of_perm rfl ((perm_answered _ ⟨job.command, _⟩).trans (perm_jobs hjob).symm) rfl
        rfl
  | deliver i env =>
      unfold step at hstep
      simp only [Option.ite_none_right_eq_some] at hstep
      obtain ⟨hfresh, hstep⟩ := hstep
      obtain ⟨r, hr, rfl⟩ := Option.map_eq_some_iff.mp hstep
      exact h.deliver hr hfresh
  | loseCommand i =>
      obtain ⟨c, hc, rfl⟩ := Option.map_eq_some_iff.mp hstep
      exact h.of_lost rfl (perm_commands hc) rfl rfl
  | loseJob i =>
      obtain ⟨job, hjob, rfl⟩ := Option.map_eq_some_iff.mp hstep
      exact h.of_lost rfl (perm_jobs hjob) rfl rfl
  | loseReply i =>
      obtain ⟨r, hr, rfl⟩ := Option.map_eq_some_iff.mp hstep
      exact h.of_lost rfl (perm_replies hr) rfl rfl

theorem tracked_of_reachable {s : System} (h : Machine.Reach (step str upper) {} s) : Tracked s :=
  h.invariant tracked_init fun _ _ _ _ hstep hs => tracked_step hs hstep

end Runs

/-! ## No step is forgotten -/

/-- What the steps of Connect All come to. -/
structure Accounted (s : System) : Prop where
  /-- The command of a step, its operation or its answer is on the way, or it was lost, or the
  answer was heard: one of them, and once. -/
  once : s.accounts.Nodup
  pending : ∀ p, s.sequence.pending = some p → p.token ∈ s.tokens ∨ p.token ∈ s.lost
  heard : ∀ token ∈ s.heard, ∀ p, s.sequence.pending = some p → p.token ≠ token
  free : s.onTheWay = [] → s.lost = [] → s.sequence.busy = false

theorem Tracked.accounted {s : System} (h : Tracked s) : Accounted s := by
  have hpending (p : Pending) (hp : s.sequence.pending = some p) :
      p.token ∈ s.tokens ∨ p.token ∈ s.lost := by
    obtain ⟨hin, hnot⟩ := h.owed p hp
    rcases List.mem_append.mp hin with hin | hin
    · exact .inl hin
    · rcases List.mem_append.mp hin with hin | hin
      · exact .inr hin
      · exact absurd hin hnot
  refine ⟨h.nodup, hpending, fun token htoken p hp heq => ?_, fun hway hlost => ?_⟩
  · exact (h.owed p hp).2 (heq ▸ htoken)
  · have hnone : s.sequence.pending = none := by
      cases hp : s.sequence.pending with
      | none => rfl
      | some p =>
          rcases hpending p hp with hin | hin
          · rw [tokens, hway] at hin
            cases hin
          · rw [hlost] at hin
            cases hin
    have hidle : s.sequence.active = false := by
      cases hactive : s.sequence.active with
      | false => rfl
      | true =>
          obtain ⟨p, hp⟩ := h.sound.waits hactive
          rw [hnone] at hp
          cases hp
    simp [Sequence.busy, hidle, hnone]

/-! ## Connect All ends -/

/-- Something on the way moves on. -/
def Action.moves : Action → Bool
  | .arrive _ _ => true
  | .finish _ _ _ _ => true
  | .deliver _ _ => true
  | _ => false

def Action.starts : Action → Bool
  | .start _ _ => true
  | _ => false

/-- The moves that are left: three of every step to come, and those of what is on the way. -/
def movesLeft (s : System) : Nat :=
  3 * s.sequence.steps + (3 * s.commands.length + (2 * s.jobs.length + s.replies.length))

/-- A step that begins is one less to come. -/
theorem steps_add_launched {done : String → Option (List String) → Prop} {env : Env} {k : Nat}
    {s t : Sequence} (h : Sequence.Stays s t ∨ Sequence.Onward env done k s t) :
    t.steps + (launched env s t).length ≤ max s.steps k := by
  rcases h with hstays | honward
  · rw [launched_of_stays hstays]
    exact hstays.steps_le.trans (Nat.le_max_left _ _)
  · cases honward with
    | ended _ _ hactive hsent =>
        have hzero : t.steps = 0 := by simp [Sequence.steps, hactive]
        rw [launched_of_ended hsent, hzero]
        exact Nat.zero_le _
    | begun _ p c hbegins hsteps hsent =>
        rw [launched_of_sends hsent, if_pos hbegins.raises]
        exact (Nat.succ_le_of_lt hsteps).trans (Nat.le_max_right _ _)

theorem movesLeft_follow {done : String → Option (List String) → Prop} {env : Env} {k : Nat}
    {s : System} {t : Sequence}
    (h : Sequence.Stays s.sequence t ∨ Sequence.Onward env done k s.sequence t) :
    (s.follow env t).movesLeft ≤ s.movesLeft + 3 * (k - s.sequence.steps) := by
  have hsteps := steps_add_launched h
  simp only [movesLeft, follow, List.length_append]
  omega

section Ending

variable {str : Json → String} {upper : String → String}

/-- An event does not add to the moves that are left. -/
theorem movesLeft_onEvent {s : System} (h : s.sequence.Sound) (env : Env) (event : Json) :
    (s.follow env (s.sequence.onEvent str upper env event)).movesLeft ≤ s.movesLeft := by
  have hturn : Sequence.Stays s.sequence (s.sequence.onEvent str upper env event) ∨ _ :=
    Sequence.turn_onEvent h env event
  have hleft := movesLeft_follow hturn
  rwa [Nat.sub_self, Nat.mul_zero, Nat.add_zero] at hleft

/-- A command that is handled takes a move. -/
theorem movesLeft_handle (upper : String → String) (s : System) (host : Host) (c : StepCommand) :
    (s.handle upper host c).movesLeft ≤ s.movesLeft + 2 := by
  unfold handle
  split
  · simp only [movesLeft, List.length_append, List.length_singleton]
    omega
  · simp only [movesLeft, List.length_append, List.length_singleton]
    omega
  · exact Nat.le_add_right _ 2

theorem movesLeft_step {s s' : System} {a : Action} (h : Tracked s) (hstarts : a.starts = false)
    (hstep : step str upper s a = some s') :
    s'.movesLeft + (if a.moves then 1 else 0) ≤ s.movesLeft := by
  cases a with
  | configure subjects =>
      cases hstep
      have hzero : (s.sequence.configure subjects).steps = 0 := rfl
      simp only [movesLeft, hzero]
      exact Nat.add_le_add_right (Nat.zero_le _) _
  | start env correlationId => cases hstarts
  | expired token =>
      cases hstep
      have hsteps := (s.sequence.stays_expired token).steps_le
      exact Nat.add_le_add_right (Nat.mul_le_mul_left 3 hsteps) _
  | hear env event =>
      unfold step at hstep
      simp only [Option.ite_none_right_eq_some] at hstep
      obtain ⟨-, hstep⟩ := hstep
      cases hstep
      exact movesLeft_onEvent h.sound env event
  | arrive i host =>
      obtain ⟨c, hc, rfl⟩ := Option.map_eq_some_iff.mp hstep
      have hlength := (perm_eraseIdx hc).length_eq
      have hhandled := movesLeft_handle upper { s with commands := s.commands.eraseIdx i } host c
      simp only [movesLeft, List.length_cons] at hlength hhandled ⊢
      simp only [Action.moves, if_true]
      omega
  | finish i slots done registers =>
      obtain ⟨job, hjob, rfl⟩ := Option.map_eq_some_iff.mp hstep
      have hlength := (perm_eraseIdx hjob).length_eq
      simp only [movesLeft, answer, List.length_append, List.length_cons, List.length_nil]
        at hlength ⊢
      simp only [Action.moves, if_true]
      omega
  | deliver i env =>
      unfold step at hstep
      simp only [Option.ite_none_right_eq_some] at hstep
      obtain ⟨-, hstep⟩ := hstep
      obtain ⟨r, hr, rfl⟩ := Option.map_eq_some_iff.mp hstep
      have hlength := (perm_eraseIdx hr).length_eq
      set u := { s with
        replies := s.replies.eraseIdx i
        heard := s.heard ++ [r.command.token] } with hu
      have hheard : u.movesLeft + 1 ≤ s.movesLeft := by
        simp only [movesLeft, hu, List.length_cons] at hlength ⊢
        omega
      have hsound : u.sequence.Sound := h.sound
      exact (Nat.add_le_add_right (movesLeft_onEvent hsound env (.obj r.fields)) 1).trans hheard
  | loseCommand i =>
      obtain ⟨c, hc, rfl⟩ := Option.map_eq_some_iff.mp hstep
      have hlength := (perm_eraseIdx hc).length_eq
      simp only [movesLeft, List.length_cons, Action.moves, Bool.false_eq_true, if_false]
        at hlength ⊢
      omega
  | loseJob i =>
      obtain ⟨job, hjob, rfl⟩ := Option.map_eq_some_iff.mp hstep
      have hlength := (perm_eraseIdx hjob).length_eq
      simp only [movesLeft, List.length_cons, Action.moves, Bool.false_eq_true, if_false]
        at hlength ⊢
      omega
  | loseReply i =>
      obtain ⟨r, hr, rfl⟩ := Option.map_eq_some_iff.mp hstep
      have hlength := (perm_eraseIdx hr).length_eq
      simp only [movesLeft, List.length_cons, Action.moves, Bool.false_eq_true, if_false]
        at hlength ⊢
      omega

theorem movesLeft_start {s s' : System} (h : Tracked s) {env : Env} {correlationId : Json}
    (hstep : step str upper s (.start env correlationId) = some s') :
    s'.movesLeft ≤ s.movesLeft + 6 * s.sequence.subjects.length := by
  unfold step at hstep
  simp only [Option.ite_none_right_eq_some] at hstep
  obtain ⟨-, hstep⟩ := hstep
  obtain ⟨t, ht, rfl⟩ := Option.map_eq_some_iff.mp hstep
  have hleft := movesLeft_follow (turn_of_start h.sound ht)
  omega

/-- There is always a token to draw. -/
theorem exists_freshToken (s : System) : ∃ env, s.freshToken env = true := by
  obtain ⟨token, hnew⟩ := Infinite.exists_notMem_finset
    ((s.sequence.log.filterMap Entry.command?).map StepCommand.token).toFinset
  refine ⟨⟨token, token, token, token, none, none⟩, ?_⟩
  refine List.all_eq_true.mpr fun e he => decide_eq_true fun heq => hnew ?_
  obtain ⟨c, hc, rfl⟩ := Option.map_eq_some_iff.mp heq
  exact List.mem_toFinset.mpr (List.mem_map_of_mem (List.mem_filterMap.mpr ⟨e, he, hc⟩))

/-- What is on the way can move on. -/
theorem exists_move {s : System} (h : s.onTheWay ≠ []) :
    ∃ a, a.moves = true ∧ (step str upper s a).isSome = true := by
  cases hcommands : s.commands with
  | cons c commands =>
      refine ⟨.arrive 0 ⟨false, false, none, none⟩, rfl, ?_⟩
      simp only [step, hcommands, List.getElem?_cons_zero, Option.map_some, Option.isSome_some]
  | nil =>
      cases hjobs : s.jobs with
      | cons job jobs =>
          refine ⟨.finish 0 [] (.ok {}) none, rfl, ?_⟩
          simp only [step, hjobs, List.getElem?_cons_zero, Option.map_some, Option.isSome_some]
      | nil =>
          cases hreplies : s.replies with
          | cons r replies =>
              obtain ⟨env, hfresh⟩ := s.exists_freshToken
              refine ⟨.deliver 0 env, rfl, ?_⟩
              simp only [step, hfresh, if_true, hreplies, List.getElem?_cons_zero,
                Option.map_some, Option.isSome_some]
          | nil => exact absurd (by simp [onTheWay, hcommands, hjobs, hreplies]) h

end Ending

/-! ## What completes a subject -/

/-- The event is no reply to the pending step. -/
def isNoReply (s : Sequence) (event : Json) : Bool :=
  match event.asDict with
  | none => true
  | some fields =>
    match (Json.get fields "payload").asDict with
    | none => true
    | some payload => (s.repliedStep fields payload).isNone

/-- Only the nodes answer the steps of the sequence. -/
def onlyNodesAnswer (s : System) : Action → Prop
  | .hear _ event => isNoReply s.sequence event = true
  | _ => True

section Vouching

variable (str : Json → String) (upper : String → String)

/-- A callback has read the sensors of the subject ready, as many as its locations, each selected
address at the location of its position. -/
structure Vouches (s : System) (subject : Subject) (c : StepCommand) (slots : List Slot) :
    Prop where
  told : (c, slots) ∈ s.told
  command : c.subjectId = subject.subjectId
  count : (slots.filter Slot.ready).length = subject.locations.length
  places : ((slots.filter Slot.ready).map (Sequence.placeOfSlot str upper)).Perm
    (s.sequence.selectedPlaces subject)

structure Vouched (s : System) : Prop where
  replies : ∀ r ∈ s.replies, ∀ slots, r.report = .completed slots → (r.command, slots) ∈ s.told
  completed : ∀ sid ∈ s.sequence.completed, ∃ subject ∈ s.sequence.subjects,
    subject.subjectId = sid ∧ ∃ c slots, Vouches str upper s subject c slots

variable {str upper}

theorem vouched_init : Vouched str upper {} where
  replies _ h := absurd h List.not_mem_nil
  completed _ h := absurd h (Finset.notMem_empty _)

/-- The selection of the subject is the same. -/
theorem Vouches.of_same {s s' : System} {subject : Subject} {c : StepCommand} {slots : List Slot}
    (h : Vouches str upper s subject c slots) (htold : ∀ x ∈ s.told, x ∈ s'.told)
    (hselected : s'.sequence.selected.get? subject.subjectId
      = s.sequence.selected.get? subject.subjectId) : Vouches str upper s' subject c slots where
  told := htold _ h.told
  command := h.command
  count := h.count
  places := by
    have hplaces : s'.sequence.selectedPlaces subject = s.sequence.selectedPlaces subject := by
      rw [Sequence.selectedPlaces, hselected]
      rfl
    rw [hplaces]
    exact h.places

/-- The sequence stays as it is. -/
theorem Vouched.of_same {s s' : System} (h : Vouched str upper s)
    (hsequence : s'.sequence = s.sequence) (htold : ∀ x ∈ s.told, x ∈ s'.told)
    (hreplies : ∀ r ∈ s'.replies, ∀ slots, r.report = .completed slots →
      (r.command, slots) ∈ s'.told) : Vouched str upper s' where
  replies := hreplies
  completed sid hin := by
    rw [hsequence] at hin ⊢
    obtain ⟨subject, hmem, hid, c, slots, hvouches⟩ := h.completed sid hin
    exact ⟨subject, hmem, hid, c, slots, hvouches.of_same htold (by rw [hsequence])⟩

/-- What is new in `completed` is vouched for. -/
theorem Vouched.gained {s s' : System} {done : String → Option (List String) → Prop}
    (h : Vouched str upper s) (hgains : Sequence.Gains done s.sequence s'.sequence)
    (htold : s'.told = s.told) (hreplies : ∀ r ∈ s'.replies, r ∈ s.replies)
    (hdone : ∀ sid, done sid (s'.sequence.selected.get? sid) →
      ∃ subject ∈ s.sequence.subjects, subject.subjectId = sid ∧
        ∃ c slots, Vouches str upper s' subject c slots) : Vouched str upper s' where
  replies r hr slots hslots := by
    rw [htold]
    exact h.replies r (hreplies r hr) slots hslots
  completed sid hin := by
    rw [hgains.subjects]
    rcases hgains.completed sid hin with ⟨hin, heq⟩ | hdone'
    · obtain ⟨subject, hmem, rfl, c, slots, hvouches⟩ := h.completed sid hin
      exact ⟨subject, hmem, rfl, c, slots, hvouches.of_same (fun x hx => htold ▸ hx) heq⟩
    · exact hdone sid hdone'

theorem gains_of_turn {done : String → Option (List String) → Prop} {env : Env} {k : Nat}
    {s t : Sequence} (h : Sequence.Stays s t ∨ Sequence.Onward env done k s t) :
    Sequence.Gains done s t := by
  rcases h with hstays | honward
  · exact hstays.gains
  · cases honward with
    | ended hgains _ _ _ => exact hgains
    | begun hgains _ _ _ _ _ => exact hgains

/-- The answer that completes a subject was told by a callback. -/
theorem Vouched.answered {s s' : System} (htracked : Tracked s) (h : Vouched str upper s)
    {r : Reply} (hr : r ∈ s.replies) {sid : String}
    (hanswered : Sequence.Answered str upper s.sequence (.obj r.fields) sid
      (s'.sequence.selected.get? sid)) (htold : s'.told = s.told) :
    ∃ subject ∈ s.sequence.subjects, subject.subjectId = sid ∧
      ∃ c slots, Vouches str upper s' subject c slots := by
  obtain ⟨fields, payload, p, hfields, hpayload, hanswers, hkind, rfl, hcompletes⟩ := hanswered
  cases hfields
  rw [r.get_payload] at hpayload
  cases hpayload
  have htoken : r.command.token = p.token := by
    have htokens := hanswers.token
    rw [r.get_names.1] at htokens
    exact Json.str.inj htokens
  have hc : r.command ∈ s.onTheWay :=
    List.mem_append_right _ (List.mem_append_right _ (List.mem_map_of_mem hr))
  obtain ⟨horders, -⟩ := htracked.fits _ hc p hanswers.pending htoken
  rw [r.get_type] at hkind
  obtain ⟨slots, hreport, hcount, hplaces⟩ :=
    Sequence.slots_of_completes horders (Json.str.inj hkind) hcompletes
  exact ⟨p.subject, htracked.sound.pends p hanswers.pending, rfl, r.command, slots,
    { told := htold ▸ h.replies r hr slots hreport
      command := horders.subject
      count := hcount
      places := hplaces }⟩

theorem vouched_step {s s' : System} {a : Action} (htracked : Tracked s)
    (h : Vouched str upper s) (hok : s.onlyNodesAnswer a)
    (hstep : step str upper s a = some s') : Vouched str upper s' := by
  cases a with
  | configure subjects =>
      cases hstep
      exact
        { replies := h.replies
          completed := fun sid hin => absurd hin (Finset.notMem_empty _) }
  | start env correlationId =>
      unfold step at hstep
      simp only [Option.ite_none_right_eq_some] at hstep
      obtain ⟨-, hstep⟩ := hstep
      obtain ⟨t, ht, rfl⟩ := Option.map_eq_some_iff.mp hstep
      exact h.gained (gains_of_turn (turn_of_start htracked.sound ht)) rfl (fun _ hr => hr)
        fun sid hdone => absurd hdone id
  | expired token =>
      cases hstep
      have hgains : Sequence.Gains (fun _ _ => False) s.sequence (s.sequence.expired token) :=
        (s.sequence.stays_expired token).gains
      exact h.gained hgains rfl (fun _ hr => hr) fun sid hdone => absurd hdone id
  | hear env event =>
      unfold step at hstep
      simp only [Option.ite_none_right_eq_some] at hstep
      obtain ⟨-, hstep⟩ := hstep
      cases hstep
      refine h.gained (gains_of_turn (Sequence.turn_onEvent htracked.sound env event)) rfl
        (fun _ hr => hr) fun sid hdone => ?_
      -- the event is a reply after all
      obtain ⟨fields, payload, p, rfl, hpayload, hanswers, -⟩ := hdone
      have hno : isNoReply s.sequence (.obj fields) = true := hok
      simp only [isNoReply, Json.asDict, hpayload, hanswers.repliedStep] at hno
      cases hno
  | arrive i host =>
      obtain ⟨c, hc, rfl⟩ := Option.map_eq_some_iff.mp hstep
      unfold handle
      split
      · exact h.of_same rfl (fun _ hx => hx) h.replies
      · rename_i report htold
        obtain ⟨message, rfl⟩ := handleLocal_told htold
        refine h.of_same rfl (fun _ hx => hx) fun r hr slots hslots => ?_
        rcases List.mem_append.mp hr with hr | hr
        · exact h.replies r hr slots hslots
        · cases List.mem_singleton.mp hr
          cases hslots
      · exact h.of_same rfl (fun _ hx => hx) h.replies
  | finish i slots done registers =>
      obtain ⟨job, hjob, rfl⟩ := Option.map_eq_some_iff.mp hstep
      refine h.of_same rfl (fun _ hx => List.mem_append_left _ hx) fun r hr slots' hslots => ?_
      rcases List.mem_append.mp hr with hr | hr
      · exact List.mem_append_left _ (h.replies r hr slots' hslots)
      · cases List.mem_singleton.mp hr
        rw [completed_eq_completed hslots]
        exact List.mem_append_right _ List.mem_cons_self
  | deliver i env =>
      unfold step at hstep
      simp only [Option.ite_none_right_eq_some] at hstep
      obtain ⟨-, hstep⟩ := hstep
      obtain ⟨r, hr, rfl⟩ := Option.map_eq_some_iff.mp hstep
      refine h.gained (gains_of_turn (Sequence.turn_onEvent htracked.sound env (.obj r.fields)))
        rfl (fun _ hr' => List.mem_of_mem_eraseIdx hr')
        fun sid hdone => ?_
      exact h.answered htracked (List.mem_of_getElem? hr) hdone rfl
  | loseCommand i =>
      obtain ⟨c, hc, rfl⟩ := Option.map_eq_some_iff.mp hstep
      exact h.of_same rfl (fun _ hx => hx) h.replies
  | loseJob i =>
      obtain ⟨job, hjob, rfl⟩ := Option.map_eq_some_iff.mp hstep
      exact h.of_same rfl (fun _ hx => hx) h.replies
  | loseReply i =>
      obtain ⟨r, hr, rfl⟩ := Option.map_eq_some_iff.mp hstep
      exact h.of_same rfl (fun _ hx => hx) fun r' hr' => h.replies r' (List.mem_of_mem_eraseIdx hr')

end Vouching

end System

namespace System

/-- The answer to a discovery comes after the timeout. -/
def lateDiscovery : List Action :=
  [.configure [⟨"s1", "worker", [some "ankle"]⟩],
    .start ⟨"t1", "q1", "c", "i", none, none⟩ .null,
    .arrive 0 ⟨true, false, some [⟨none, some "ankle", false, false⟩], none⟩,
    .expired "t1",
    .finish 0 [⟨some "AA", some "ankle", false, false⟩]
      (.ok { onDiscover := some (.sensors [0]) }) none,
    .deliver 0 ⟨"t2", "", "c", "i", none, none⟩]

/-- Connect All once more. -/
def secondStart : Action := .start ⟨"t2", "q2", "c", "i", none, none⟩ .null

/-- The connection is taken up, done and told. -/
def connection : List Action :=
  [.arrive 0 ⟨true, false, some [⟨some "AA", some "ankle", false, false⟩], none⟩,
    .finish 0 [⟨some "AA", some "ankle", true, true⟩] (.ok {}) none,
    .deliver 0 ⟨"t3", "", "c", "i", none, none⟩]

end System

/-- **No step of Connect All is answered twice, and none is forgotten.** -/
theorem System.accounted_of_reachable {str : Json → String} {upper : String → String}
    {s : System} (h : Machine.Reach (System.step str upper) {} s) : s.Accounted :=
  (System.tracked_of_reachable h).accounted

/-- The late answer of one sequence and the answer to the next are heard, one after the other. -/
theorem System.accounted_of_lateDiscovery :
    ∃ s, Machine.Reach (System.step (fun _ => "") id) {} s ∧ s.heard = ["t1", "t2"]
      ∧ s.Accounted := by
  have hruns : (Machine.exec (System.step (fun _ => "") id) {}
      (System.lateDiscovery ++ System.secondStart :: System.connection)).map System.heard
      = some ["t1", "t2"] := by decide +kernel
  obtain ⟨s, hs, hheard⟩ := Option.map_eq_some_iff.mp hruns
  have hreach := Machine.reach_of_exec _ hs
  exact ⟨s, hreach, hheard, accounted_of_reachable hreach⟩

/-- **Connect All ends**: between two starts nothing moves on for ever, and when nothing moves on
any more the sequence is free, unless a step was lost. -/
theorem System.ends_of_exec {str : Json → String} {upper : String → String} {s t : System}
    {env : Env} {correlationId : Json} {actions : List Action}
    (h : Machine.Reach (System.step str upper) {} s)
    (hstarts : ∀ a ∈ actions, a.starts = false)
    (hexec : Machine.exec (System.step str upper) s (.start env correlationId :: actions)
      = some t) :
    actions.countP Action.moves ≤ s.movesLeft + 6 * s.sequence.subjects.length ∧
      ((∀ a, a.moves = true → System.step str upper t a = none) → t.lost = [] →
        t.sequence.busy = false) := by
  have hends : Machine.Reach (System.step str upper) {} t :=
    h.trans (Machine.reach_of_exec _ hexec)
  obtain ⟨r, hr, hrest⟩ := Option.bind_eq_some_iff.mp hexec
  have htracked : System.Tracked s := System.tracked_of_reachable h
  refine ⟨?_, fun hstill hlost => ?_⟩
  · have hmoves : actions.countP Action.moves + t.movesLeft ≤ r.movesLeft :=
      Machine.exec_potential (System.tracked_step htracked hr)
        (fun a _ u u' hstep hu => System.tracked_step hu hstep)
        (fun a ha u u' hstep hu => System.movesLeft_step hu (hstarts a ha) hstep) hrest
    exact ((Nat.le_add_right _ _).trans hmoves).trans (System.movesLeft_start htracked hr)
  · refine (System.tracked_of_reachable hends).accounted.free ?_ hlost
    by_contra hway
    obtain ⟨a, hmoves, hstep⟩ : ∃ a, Action.moves a = true ∧ (System.step str upper t a).isSome :=
      System.exists_move hway
    rw [hstill a hmoves] at hstep
    cases hstep

/-- A subject that is discovered already takes three moves of the six that it may. -/
theorem System.ends_of_connection :
    ∃ s t, Machine.Reach (System.step (fun _ => "") id) {} s
      ∧ Machine.exec (System.step (fun _ => "") id) s (System.secondStart :: System.connection)
        = some t
      ∧ (s.movesLeft + 6 * s.sequence.subjects.length, t.onTheWay.length) = (6, 0)
      ∧ System.connection.countP Action.moves ≤ s.movesLeft + 6 * s.sequence.subjects.length := by
  have hruns : ((Machine.exec (System.step (fun _ => "") id) {} System.lateDiscovery).bind fun s =>
      (Machine.exec (System.step (fun _ => "") id) s
        (System.secondStart :: System.connection)).map fun t =>
          (s.movesLeft + 6 * s.sequence.subjects.length, t.onTheWay.length))
      = some (6, 0) := by decide +kernel
  obtain ⟨s, hs, hrest⟩ := Option.bind_eq_some_iff.mp hruns
  obtain ⟨t, ht, hfields⟩ := Option.map_eq_some_iff.mp hrest
  have hreach := Machine.reach_of_exec _ hs
  have hstarts : ∀ a ∈ System.connection, a.starts = false := by decide
  exact ⟨s, t, hreach, ht, hfields, (ends_of_exec hreach hstarts ht).1⟩

end NexusN3.Connection
