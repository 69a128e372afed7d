import NexusN3.Master.Registry
import NexusN3.Master.OfficialStart

/-!
# The master node

`dispatch_command` and the three bookkeeping components behind it: the registry with the
initialization in progress and the recovery after a failed one, the drain barrier
(`DrainDesk`) and the official-start barrier (`OfficialDesk`). `Master.step` runs

* **commands** from a client, each admitted or refused in one piece;
* **the dispatch of an INIT**, which goes on after its admission: it may raise, and it ends;
* **what comes back**: node replies, cleanup reports, the 90 s timer, drain
  acknowledgements, startup events, in any order and any number of times.

`InitHistory` records what was heard and influences nothing.
-/

namespace NexusN3

open Lib

/-! ## Initialization records -/

inductive InitEvent where
  | nodeInitialized
  | nodeInitializationFailed
  deriving DecidableEq

/-- The payload of a node's initialization reply. `subjectIds` is `none` when the key is
missing or no list of texts. -/
structure InitReply where
  initializationId : Option String
  correlationId : Option String
  configurationState : Option String := none
  subjectIds : Option (List String) := none
  message : Option String := none
  deriving DecidableEq

structure InitRecord where
  correlationId : String
  initializationId : String
  previousAssignments : Dict String NodeId
  requestedAssignments : Dict String NodeId
  expected : Finset NodeId
  plan : Plan
  replies : Dict NodeId InitReply := .empty
  deriving DecidableEq

/-- The ids a node was asked to install. -/
def InitRecord.plannedIds (r : InitRecord) (node : NodeId) : List String :=
  ((r.plan.get? node).getD []).map SubjectConf.id

/-- The node installed what it was asked to, and nothing else. -/
def InitRecord.installed (r : InitRecord) (node : NodeId) (event : InitEvent) (p : InitReply) : Bool :=
  decide (event ≠ .nodeInitializationFailed) && decide (p.configurationState = some "installed")
    && p.subjectIds.any fun ids => decide (ids.Perm (r.plannedIds node))

inductive InitFailure where
  -- "Initialization failed on ...: ..."
  | node (node : NodeId) (message : String)
  -- "System initialization timed out"
  | timedOut
  -- "System initialization dispatch failed: ..."
  | dispatch (error : String)
  deriving DecidableEq

structure InitRecovery where
  previousAssignments : Dict String NodeId
  requestedAssignments : Dict String NodeId
  participants : Finset NodeId
  initializationId : String
  nodeResults : Dict NodeId InitReply
  cleanupId : Option String := none
  cleanupNodes : Finset NodeId := ∅
  deriving DecidableEq

/-- The payload of `EVT_SENSOR_CLEANUP_COMPLETE`. -/
structure CleanupReport where
  correlationId : Option String
  nodeId : Option NodeId
  coreReadyForConfiguration : Bool
  deriving DecidableEq

/-- Why `_begin_initialization` rejects an INIT before it has a record. -/
inductive InitRejection where
  -- "Cannot reconfigure while subjects are acquiring or draining"
  | acquiring
  -- the local handler is missing or its Core refuses
  | localHandler (error : String)
  | planning (error : PlanError)
  -- "Previously assigned node ... is unavailable; recover it before reconfiguration"
  | unavailable (nodes : List NodeId)
  deriving DecidableEq

structure InitResult where
  correlationId : String
  initializationId : String
  expectedNodes : Finset NodeId
  nodeResults : Dict NodeId InitReply
  deriving DecidableEq

def InitRecord.result (r : InitRecord) : InitResult :=
  { correlationId := r.correlationId, initializationId := r.initializationId
    expectedNodes := r.expected, nodeResults := r.replies }

inductive MasterEvent where
  | dispatchError (message : String) (correlationId : Option String)
  | initRejected (rejection : InitRejection) (correlationId : String)
  | systemInitialized (result : InitResult) (subjectIds : List String)
  | initializationFailed (result : InitResult) (failure : InitFailure) (missing : Finset NodeId)
  | cleanupStarted (correlationId : Option String) (expected : Finset NodeId)
  deriving DecidableEq

/-- The id of the initialization an event ends. -/
def MasterEvent.ends : MasterEvent → Option String
  | .systemInitialized result _ => some result.initializationId
  | .initializationFailed result _ _ => some result.initializationId
  | _ => none

/-! ## Commands -/

/-- The payload of both starts. -/
structure StartCommand where
  subjectIds : Option (List String) := none
  sessionTimestamp : Option String := none
  startSessionId : Option String := none
  tag : Option String := none
  tags : Dict String (Option String) := .empty
  deriving DecidableEq

/-- The ids a start names; an absent list and an empty one are the same to the master. -/
def StartCommand.ids (p : StartCommand) : List String := p.subjectIds.getD []

structure StopCommand where
  subjectIds : List String := []
  stopSessionId : Option String := none
  deriving DecidableEq

/-- A start on its way to a participant, by the method its Core runs it with. -/
structure StartMessage where
  target : NodeId
  specific : Bool
  payload : StartPayload
  deriving DecidableEq

inductive Command where
  | discoverSensors
  | discoverSensorsForSubjects (subjectIds : List String)
  | connectToAll
  | connectSubjects (subjectIds : List String)
  | startStreamForAll (payload : StartCommand)
  | startStreamForSubjects (payload : StartCommand)
  | startOfficialStream (startSessionId : Option String)
  | stopStreamForAll (payload : StopCommand)
  | stopStreamForSubjects (payload : StopCommand)
  -- `none` stands for a `subjects` that is no list
  | initSystem (subjects : Option (List SubjectConf))
  | disconnectAll (recoverSession : Bool)
  | disconnectSubjects (subjectIds : List String)
  deriving DecidableEq

/-- The correlation id of a command, and what the surroundings contribute to its dispatch:
the clock, the ids `uuid4` gives, a refusal of the connect sequence, and the first error of
the local handler's own checks. -/
structure DispatchEnv where
  correlationId : Option String := none
  clock : String := ""
  uuid : String := ""
  initializationId : String := ""
  connectBusy : Bool := false
  localError : Option String := none
  deriving DecidableEq

/-- The commands an unsettled initialization refuses. -/
def Command.needsOwnership : Command → Bool
  | .discoverSensors | .discoverSensorsForSubjects _ | .connectToAll | .connectSubjects _ => true
  | .startStreamForAll _ | .startStreamForSubjects _ => true
  | _ => false

/-- The commands a busy connect sequence refuses. -/
def Command.needsConnectIdle : Command → Bool
  | .discoverSensors | .discoverSensorsForSubjects _ | .connectToAll | .connectSubjects _ => true
  | .initSystem _ => true
  | _ => false

/-! ## The node -/

/-- What was heard so far. `failed` holds the participants of the last initialization that
failed, `resets` the Reset ids sent out since then and `reports` who has reported ready for
which of them. -/
structure InitHistory where
  begun : List String := []
  heard : List (NodeId × InitEvent × InitReply) := []
  failed : Option (Finset NodeId) := none
  resets : List String := []
  reports : List (NodeId × String) := []
  deriving DecidableEq

structure Master where
  registry : Registry := {}
  pending : Option InitRecord := none
  recovery : Option InitRecovery := none
  -- `_initialization_dispatching`, with the record whose dispatch it is
  dispatching : Option String := none
  desk : DrainDesk := {}
  official : OfficialDesk := {}
  -- the starts and commits sent so far
  starts : List StartMessage := []
  commits : List CommitMessage := []
  emitted : List MasterEvent := []
  history : InitHistory := {}

namespace Master

def emit (w : Master) (e : MasterEvent) : Master := { w with emitted := w.emitted ++ [e] }

/-- `_emit_dispatch_error`, which is how every command is refused. -/
def refuse (w : Master) (message : String) (env : DispatchEnv) : Master :=
  w.emit (.dispatchError message (truthy env.correlationId))

def note (w : Master) (f : InitHistory → InitHistory) : Master := { w with history := f w.history }

/-! ### Initialization -/

/-- The failing half of `_finish_initialization`: ownership is given up, and the participants
are kept for the Reset. -/
def failInitialization (w : Master) (r : InitRecord) (failure : InitFailure) : Master :=
  { w with
    pending := none
    recovery := some
      { previousAssignments := r.previousAssignments, requestedAssignments := r.requestedAssignments
        participants := r.expected, initializationId := r.initializationId, nodeResults := r.replies }
    registry := w.registry.replaceSubjects .empty
    emitted := w.emitted ++ [.initializationFailed r.result failure
      (r.expected \ r.replies.keySet)]
    history := { w.history with failed := some r.expected, resets := [], reports := [] } }

/-- The other half: the requested map becomes the live one. -/
def completeInitialization (w : Master) (r : InitRecord) : Master :=
  { w with
    pending := none
    registry := w.registry.replaceSubjects r.requestedAssignments
    emitted := w.emitted ++ [.systemInitialized r.result r.requestedAssignments.keys] }

/-- A failure that was decided for a record elsewhere: it counts only while that record is
still the pending one. -/
def failPending (w : Master) (initializationId : String) (failure : InitFailure) : Master :=
  match w.pending with
  | none => w
  | some r => if r.initializationId = initializationId then w.failInitialization r failure else w

/-- The reply is an answer to the pending initialization, the first of its node. -/
def answersPending (r : InitRecord) (node : NodeId) (p : InitReply) : Bool :=
  decide (p.initializationId = some r.initializationId) && decide (p.correlationId = some r.correlationId)
    && decide (node ∈ r.expected) && (r.replies.get? node).isNone

/-- `_record_initialization_reply`. -/
def recordInitializationReply (w : Master) (node : NodeId) (event : InitEvent) (p : InitReply) : Master :=
  match w.pending with
  | none => w
  | some record =>
    if answersPending record node p then
      let r := { record with replies := record.replies.set node p }
      if r.installed node event p then
        if r.expected ⊆ r.replies.keySet then w.completeInitialization r
        else { w with pending := some r }
      else w.failInitialization r (.node node (p.message.getD "configuration mismatch"))
    else w

/-- `_record_initialization_recovery`. -/
def recordInitializationRecovery (w : Master) (p : CleanupReport) : Master :=
  match w.recovery, p.nodeId with
  | some rec, some node =>
    if (truthy rec.cleanupId).isSome ∧ p.correlationId = rec.cleanupId ∧ node ∈ rec.participants
        ∧ p.coreReadyForConfiguration = true then
      let nodes := insert node rec.cleanupNodes
      if rec.participants ⊆ nodes then
        { w with registry := w.registry.replaceSubjects .empty, recovery := none }
      else { w with recovery := some { rec with cleanupNodes := nodes } }
    else w
  | _, _ => w

/-- The checks of `_begin_initialization` inside its `try`, and the record's contents. -/
def validateInitialization (lower : String → String) (w : Master)
    (subjects : Option (List SubjectConf)) (env : DispatchEnv) :
    Except InitRejection (Plan × Dict String NodeId × Dict String NodeId × List NodeId) := do
  if w.desk.book.active ≠ ∅ then throw .acquiring
  if let some e := env.localError then throw (.localHandler e)
  let plan ← (planSubjectAssignments lower w.registry subjects).mapError .planning
  let previous := w.registry.subjects
  let requested := plan.assignments
  let required := previous.values ++ requested.values ++ [masterId]
  match required.filter fun n => decide (n ≠ masterId) && !w.registry.hasIdentity n with
  | [] => return (plan.withNodes required, previous, requested, required)
  | unavailable => throw (.unavailable unavailable)

/-- `_begin_initialization` up to the end of its locked section. An id is given out once. -/
def beginInitialization (lower : String → String) (w : Master)
    (subjects : Option (List SubjectConf)) (env : DispatchEnv) : Option Master :=
  let correlationId := (truthy env.correlationId).getD env.uuid
  if w.pending.isSome || w.recovery.isSome || w.dispatching.isSome then
    some (w.emit (.dispatchError "Initialization is pending or requires Reset before another attempt"
      (truthy (some correlationId))))
  else
    match w.validateInitialization lower subjects env with
    | .error rejection => some (w.emit (.initRejected rejection correlationId))
    | .ok (plan, previous, requested, required) =>
      if env.initializationId ∈ w.history.begun then none
      else some
        { w with
          pending := some
            { correlationId := correlationId, initializationId := env.initializationId
              previousAssignments := previous, requestedAssignments := requested
              expected := required.toFinset, plan := plan }
          dispatching := some env.initializationId
          history := { w.history with begun := w.history.begun ++ [env.initializationId] } }

/-! ### Reset -/

/-- The nodes a Reset is sent to: the owners of its subjects, or the master. -/
def resetNodes (w : Master) (requested : Option (List String)) : Finset NodeId :=
  let owners := (w.registry.subjects.entries.filter fun e =>
    requested.all fun ids => decide (e.1 ∈ ids)).map Prod.snd
  if owners = [] then {masterId} else owners.toFinset

/-- `CMD_DISCONNECT_ALL`: a Reset that is to recover the session starts a new count of the
participants. -/
def disconnectAll (w : Master) (recoverSession : Bool) (env : DispatchEnv) : Master :=
  match w.recovery with
  | none => w.emit (.cleanupStarted env.correlationId (w.resetNodes none))
  | some rec =>
    let expected := w.resetNodes none ∪ rec.participants
    if recoverSession then
      let cleanupId := (truthy env.correlationId).getD env.uuid
      ({ w with
          recovery := some { rec with cleanupId := some cleanupId, cleanupNodes := ∅ }
          history := { w.history with resets := w.history.resets ++ [cleanupId] } }).emit
        (.cleanupStarted (some cleanupId) expected)
    else w.emit (.cleanupStarted env.correlationId expected)

/-! ### Starts and stops -/

/-- The subjects a command is about: the ids it names, or all that are registered. -/
def targets (w : Master) (subjectIds : List String) : List String :=
  if subjectIds = [] then w.registry.subjects.keys else subjectIds

/-- The nodes of those subjects. -/
def targetNodes (w : Master) (subjectIds : List String) : List NodeId :=
  if subjectIds = [] then w.registry.subjects.values else subjectIds.map w.registry.nodeOf

def startSessionIdOf (p : StartCommand) (env : DispatchEnv) : String :=
  (truthy p.startSessionId).getD env.uuid

def sessionTimestampOf (p : StartCommand) (env : DispatchEnv) : String :=
  (truthy p.sessionTimestamp).getD env.clock

/-- The starts sent to the nodes, each with the ids that are its own if the command names
any. -/
def startMessages (w : Master) (specific : Bool) (p : StartCommand) (env : DispatchEnv) :
    List StartMessage :=
  (w.targetNodes p.ids).dedup.map fun node =>
    { target := node
      specific := specific
      payload :=
        { sessionTimestamp := some (some (sessionTimestampOf p env))
          officialStartMode := .coordinated
          startSessionId := some (startSessionIdOf p env)
          tag := p.tag
          tags := p.tags
          subjectIds := if p.ids = [] then p.subjectIds
            else some (p.ids.filter fun s => decide (w.registry.nodeOf s = node)) } }

/-- The START branch of the general dispatch. Nothing here asks whether an id is registered. -/
def dispatchStart (w : Master) (specific : Bool) (p : StartCommand) (env : DispatchEnv) : Master :=
  { w with
    desk := w.desk.setBook (w.desk.book.activate (w.targets p.ids))
    official := w.official.createOfficialStartRecord (startSessionIdOf p env) (sessionTimestampOf p env)
      (w.targets p.ids) (w.targetNodes p.ids)
    starts := w.starts ++ w.startMessages specific p env }

/-- The STOP branch. -/
def dispatchStop (w : Master) (p : StopCommand) (env : DispatchEnv) : Master :=
  { w with
    desk := w.desk.setBook (w.desk.book.createDrainRecord ((truthy p.stopSessionId).getD env.uuid)
      (if p.subjectIds = [] then "all" else "subjects") (w.targets p.subjectIds)
      (w.targetNodes p.subjectIds)) }

/-- The order of the node ids, for `sort`. -/
local instance : IsTrans NodeId (· ≤ ·) := ⟨fun _ _ _ => le_trans⟩

local instance : Std.Antisymm fun a b : NodeId => a ≤ b := ⟨fun _ _ => le_antisymm⟩

def dispatchCommit (w : Master) (startSessionId : Option String) (env : DispatchEnv) : Master :=
  match w.official.dispatchCommit startSessionId with
  | .error .unknownStart => w.refuse "Unknown or stale distributed start session" env
  | .error (.notReady missing) =>
    w.refuse ("Distributed stream is not ready for official acquisition; waiting for "
      ++ pyList missing.sort) env
  | .ok (official, commits) => { w with official := official, commits := w.commits ++ commits }

/-! ### The step -/

def unsettled (w : Master) : Bool := w.pending.isSome || w.recovery.isSome

def resetBlocked (w : Master) : Bool := w.pending.isSome || w.dispatching.isSome

/-- `dispatch_command`. -/
def dispatchCommand (lower : String → String) (w : Master) (cmd : Command) (env : DispatchEnv) :
    Option Master :=
  if w.unsettled && cmd.needsOwnership then
    some (w.refuse
      "Initialization is pending or requires Reset; configuration ownership is not authoritative" env)
  else if env.connectBusy && cmd.needsConnectIdle then
    some (w.refuse "Connect All is still in progress; wait for completion or Reset" env)
  else
    match cmd with
    | .disconnectAll recoverSession =>
      if w.resetBlocked then
        some (w.refuse "Wait for initialization to finish or time out before Reset" env)
      else some (w.disconnectAll recoverSession env)
    | .disconnectSubjects subjectIds =>
      if w.resetBlocked then
        some (w.refuse "Wait for initialization to finish or time out before Reset" env)
      else some (w.emit (.cleanupStarted env.correlationId (w.resetNodes (some subjectIds))))
    | .initSystem subjects => w.beginInitialization lower subjects env
    | .startStreamForAll p => some (w.dispatchStart false p env)
    | .startStreamForSubjects p => some (w.dispatchStart true p env)
    | .startOfficialStream startSessionId => some (w.dispatchCommit startSessionId env)
    | .stopStreamForAll p => some (w.dispatchStop p env)
    | .stopStreamForSubjects p => some (w.dispatchStop p env)
    -- forwarded to the nodes; nothing of the master's own changes
    | .discoverSensors | .discoverSensorsForSubjects _ | .connectToAll | .connectSubjects _ => some w

end Master

inductive MasterAction where
  | dispatch (cmd : Command) (env : DispatchEnv)
  | dispatchRaises (error : String)
  | dispatchEnds
  | expire (initializationId : String)
  | reply (node : NodeId) (event : InitEvent) (payload : InitReply)
  | cleanupComplete (payload : CleanupReport)
  | registerNode (node : NodeId) (entry : NodeEntry)
  | drainAck (node : NodeId) (event : DrainEvent) (callbackRegistered : Bool)
  | drainAdvance (i : Nat) (callbackError : Option String)
  | officialEvent (node : NodeId) (event : CoreEvent)
  deriving DecidableEq

namespace Master

/-- What the history notes of a cleanup report. -/
def noteReport (p : CleanupReport) (h : InitHistory) : InitHistory :=
  { h with reports :=
    match p.nodeId, p.correlationId, p.coreReadyForConfiguration with
    | some node, some id, true => h.reports ++ [(node, id)]
    | _, _, _ => h.reports }

def step (lower : String → String) (w : Master) : MasterAction → Option Master
  | .dispatch cmd env => w.dispatchCommand lower cmd env
  | .dispatchRaises error => w.dispatching.map fun id => w.failPending id (.dispatch error)
  | .dispatchEnds => w.dispatching.map fun _ => { w with dispatching := none }
  -- a timer may fire late: it then finds another record, or none
  | .expire id => if id ∈ w.history.begun then some (w.failPending id .timedOut) else none
  | .reply node event p =>
    some ((w.note fun h => { h with heard := h.heard ++ [(node, event, p)] }).recordInitializationReply
      node event p)
  | .cleanupComplete p =>
    some ((w.note (noteReport p)).recordInitializationRecovery p)
  | .registerNode node entry => some { w with registry := w.registry.registerNode node entry }
  | .drainAck node ev callback => some { w with desk := w.desk.ack node ev callback }
  | .drainAdvance i e => (w.desk.step (.advance i e)).map fun desk => { w with desk := desk }
  | .officialEvent node ev =>
    some { w with official := w.official.recordOfficialStartEvent node ev }

/-- The node as its constructor leaves it: itself registered, nothing configured. -/
def boot (entry : NodeEntry) : Master :=
  { registry := Registry.registerNode {} masterId { entry with role := .master } }

def Reachable (lower : String → String) (entry : NodeEntry) (w : Master) : Prop :=
  Machine.Reach (step lower) (boot entry) w

end Master

end NexusN3
