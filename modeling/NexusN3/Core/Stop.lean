import NexusN3.Core.Official

/-!
# `_stop_stream_impl` and the stop callback

The shared stop of `stop_stream` and `stop_stream_for_subjects`, cut at the places where
another thread can run: the entry, the command to the sensors, the collected result, the
flush, the marking of the subjects, the closing of the session and the two halves of the
`finally` block. `stopStages` lists them in order; `stopTrace` is the list of states a
stop passes through.

A stop that leaves another subject streaming is told apart once, at its entry
(`otherSubjectsActive`): only a stop that leaves none touches the phase and the gate token.
-/

namespace NexusN3

open Lib

/-- One call of `_stop_stream_impl`: the subject objects it was given, their ids, and the
part of the stop context it reads. -/
structure StopRequest where
  idxs : List Nat
  generation : Nat
  subjectIds : List String
  specific : Bool
  stopSessionId : Option String := none
  deriving DecidableEq

/-- What waiting for the physical stop gives: nothing to wait for, one result for each
sensor, or an exception of the future. -/
inductive PhysicalStop where
  | nothing
  | results (results : List StopResult)
  | raised (kind message : String)
  deriving DecidableEq

structure StopEnv where
  physical : PhysicalStop
  -- the sections before which the sensor layer delivers an `_on_stream_stopped`
  callbacks : List Nat := []
  rawWriteFailures : List String := []
  deriving DecidableEq

/-- The payload of a `stream_drained` event. -/
structure DrainPayload where
  stopSessionId : Option String
  specific : Bool
  subjectIds : List String
  status : String
  drained : Bool
  allLocalStreamsStopped : Bool
  sessionTimestamp : Option String
  reason : Option String
  deriving DecidableEq

def StopResult.unresolved (r : StopResult) : Bool := decide (r.status ≠ "stopped")

/-- `stop_error`: the exception of the future, or the unresolved results joined into one. -/
def PhysicalStop.error : PhysicalStop → Option (String × String)
  | .nothing => none
  | .raised kind message => some (kind, message)
  | .results rs =>
    match rs.filter StopResult.unresolved with
    | [] => none
    | bad => some ("RuntimeError",
        "; ".intercalate (bad.map fun r => r.address ++ ": " ++ r.error.getD r.status))

/-- `stop_results`: a raising future counts every address as unconfirmed. -/
def PhysicalStop.stopResults (addresses : List String) : PhysicalStop → List StopResult
  | .nothing => []
  | .results rs => rs
  | .raised _ message => addresses.map fun a => ⟨a, "unconfirmed", some message⟩

namespace Core

/-! ## Archiving -/

/-- `_finalize_session_archive`: at most once for a session. -/
def finalizeSessionArchive (c : Core) : Core :=
  if c.sessionTimestamp.getD "" = "" then c
  else if c.archivedSessionTimestamp = c.sessionTimestamp then c
  else
    { c with
      archives := c.archives ++ [c.sessionTimestamp]
      archivedSessionTimestamp := c.sessionTimestamp }

/-! ## The callback of the sensor layer -/

/-- `_cleanup_failed_startup_session`. -/
def cleanupFailedStartupSession (c : Core) : Core :=
  let c := { c with
    subjects := c.subjects.map fun s =>
      if s.subjectId ∈ c.startupSubjectIds then (s.closeOutputs).setStreaming false else s }
  if c.hasActiveStreams then c else c.finalizeSessionArchive

/-- The locked section of `_on_stream_stopped` finds a retry to schedule. -/
def retryDue (c : Core) : Bool :=
  decide (c.streamPhase = .retryingStartup) && c.startupRetryPending && !c.startupManualStop

/-- `_on_stream_stopped`. The retry it may schedule is a thread of its own, started by the
caller of this function when `retryDue` holds. -/
def onStreamStopped (c : Core) : Core :=
  let c := if c.retryDue then c
    else match c.streamPhase with
      | .startupFailed => c.cleanupFailedStartupSession
      | .officialStreaming => c
      | _ => c.setPhase .idle
  { c with activeSubjectIds := none }

/-- The subjects `_on_stream_started` reports on: those of the active command, or all. -/
def subjectsToProcess (c : Core) : List Subject :=
  match c.activeSubjectIds with
  | some ids => c.subjects.filter fun s => s.subjectId ∈ ids
  | none => c.subjects

/-- `_on_stream_started` up to the start of the gate thread. With no subject to report on,
its log line reads an unbound name and raises before anything is changed. -/
def onStreamStarted (c : Core) : Core :=
  if c.subjectsToProcess = [] then c
  else
    let c := if c.startupAddresses = [] then c else c.setPhase .warmingUp
    { c with activeSubjectIds := none }

/-- The token of the gate thread `_on_stream_started` starts. -/
def gateStarted (c : Core) : Option Nat :=
  if c.subjectsToProcess = [] ∨ c.startupAddresses = [] then none else some c.startupGateToken

/-! ## The sections of a stop -/

def otherSubjectsActive (c : Core) (subjectIds : List String) : Bool :=
  c.subjects.any fun s => s.isStreaming && decide (s.subjectId ∉ subjectIds)

/-- The phase and the token at the entry of a stop that leaves no subject streaming. -/
def stopGate (c : Core) : Core :=
  { c with
    startupManualStop := true
    startupRetryPending := false
    streamPhase := match c.streamPhase with
      | .idle => .idle
      | .startupFailed => .startupFailed
      | _ => .stopping
    startupGateToken := c.startupGateToken + 1 }

def stopEnter (c : Core) (r : StopRequest) : Core :=
  let other := c.otherSubjectsActive r.subjectIds
  let c := { c with
    streamStopFinalizationPending := true
    stoppingSubjectIds := c.stoppingSubjectIds ∪ r.subjectIds.toFinset }
  if other then c else c.stopGate

def stopIssue (c : Core) (r : StopRequest) : Core :=
  if r.specific then { c with activeSubjectIds := some r.subjectIds } else c

/-- Change the subject objects the stop was given, if they are still the Core's. -/
def updateStopped (c : Core) (r : StopRequest) (f : Subject → Subject) : Core :=
  if r.generation = c.subjectsGeneration then
    { c with subjects := updateAt r.idxs f c.subjects }
  else c

/-- An exception of the future quarantines the sensors with a pending measurement. -/
def quarantine (s : Subject) : Subject :=
  { s with sensors := s.sensors.map fun e =>
      if e.measurementCleanupPending then { e with physicalStopQuarantined := true } else e }

def stopCollect (c : Core) (r : StopRequest) (physical : PhysicalStop) : Core :=
  match physical with
  | .raised _ _ => c.updateStopped r quarantine
  | _ => c

/-- The blocks `_flush_pending_samples` hands to the writer for one subject. -/
def pendingBlocks (s : Subject) : List RawBlock :=
  s.sensors.filterMap fun e =>
    match e.rawData, e.binding with
    | [], _ => none
    | _, none => none
    | pending, some b => some ⟨e.address, b, pending⟩

def flushSubject (s : Subject) : Subject :=
  { s with sensors := s.sensors.map fun e => { e with rawData := [] } }

/-- `_flush_pending_samples`. -/
def stopFlush (c : Core) (r : StopRequest) : Core :=
  let blocks := if r.generation = c.subjectsGeneration then
      r.idxs.flatMap fun i => (c.subjects[i]?.map pendingBlocks).getD []
    else []
  { c.updateStopped r flushSubject with rawBlocks := c.rawBlocks ++ blocks }

def stopMark (c : Core) (r : StopRequest) : Core :=
  c.updateStopped r fun s => s.closeOutputs.setStreaming false

/-- The physical results kept for the session, restarted when the session changed. -/
def recordStopResults (c : Core) (results : List StopResult) : Core :=
  let kept := if c.stopResultsTimestamp = some c.sessionTimestamp then c.physicalStopResults
    else .empty
  { c with
    stopResultsTimestamp := some c.sessionTimestamp
    physicalStopResults := results.foldl (fun d x => d.set x.address x) kept }

/-- The error the drain reports: this stop's own, or an earlier unresolved one once the last
stream is down. -/
def stopErrorOf (c : Core) (physical : PhysicalStop) : Option (String × String) :=
  match physical.error with
  | some e => some e
  | none =>
    if !c.hasActiveStreams && c.physicalStopResults.values.any StopResult.unresolved then
      some ("RuntimeError", "Earlier subject physical STOP remains unconfirmed")
    else none

def stopReason (err : Option (String × String)) (rawWriteFailures : List String) : Option String :=
  let reasons := (err.toList.map fun e =>
      "physical sensor stop failed: " ++ e.1 ++ ": " ++ e.2)
    ++ (if rawWriteFailures.isEmpty then []
      else ["raw write failures recorded for subject(s): " ++ ", ".intercalate rawWriteFailures])
  if reasons.isEmpty then none else some ("; ".intercalate reasons)

/-- The `stream_drained` payload of a stop that came through. -/
def drainPayload (c : Core) (r : StopRequest) (env : StopEnv) : DrainPayload :=
  let err := c.stopErrorOf env.physical
  { stopSessionId := r.stopSessionId
    specific := r.specific
    subjectIds := r.subjectIds
    status := if err.isSome || !env.rawWriteFailures.isEmpty then "error" else "ok"
    drained := true
    allLocalStreamsStopped := !c.hasActiveStreams
    sessionTimestamp := c.sessionTimestamp
    reason := stopReason err env.rawWriteFailures }

/-- From the recorded results to the drain emission: the session is archived here only when
no stream is left and no master will do it. -/
def stopClose (c : Core) (r : StopRequest) (env : StopEnv) : Core :=
  let addresses := if r.generation = c.subjectsGeneration then c.addressesAt r.idxs else []
  let c := c.recordStopResults (env.physical.stopResults addresses)
  let c := if c.hasActiveStreams || (r.stopSessionId.getD "" ≠ "") then c
    else c.finalizeSessionArchive
  { c with streamStopFinalizationPending := false }

theorem finalizeSessionArchive_subjects (c : Core) :
    c.finalizeSessionArchive.subjects = c.subjects := by
  unfold finalizeSessionArchive
  split
  · rfl
  · split <;> rfl

theorem stopClose_subjects (c : Core) (r : StopRequest) (env : StopEnv) :
    (c.stopClose r env).subjects = c.subjects := by
  simp only [stopClose, apply_ite Core.subjects, finalizeSessionArchive_subjects, ite_self]
  rfl

/-- The first half of the `finally` block. -/
def stopRelease (c : Core) (r : StopRequest) : Core :=
  { c with
    streamStopFinalizationPending := false
    stoppingSubjectIds := c.stoppingSubjectIds \ r.subjectIds.toFinset
    activeSubjectIds := none }

/-- The addresses of the subjects still streaming, in order. -/
def streamingAddresses (c : Core) : List String :=
  (c.subjects.filter Subject.isStreaming).flatMap Subject.addresses

/-- `SensorManager.update_acquisition_scope`. -/
def updateAcquisitionScope (c : Core) (addresses : List String) : Core :=
  { c with acquisitionScope := addresses }

/-- The second half: the gateways' scope, and the gate state when nothing streams. -/
def stopFinish (c : Core) : Core :=
  let narrowed := c.updateAcquisitionScope c.streamingAddresses
  if c.hasActiveStreams then narrowed else narrowed.clearStartupGateState

theorem stopFinish_of_active {c : Core} (h : c.hasActiveStreams = true) :
    c.stopFinish = c.updateAcquisitionScope c.streamingAddresses := by
  simp [stopFinish, h]

theorem stopFinish_of_quiet {c : Core} (h : c.hasActiveStreams = false) :
    c.stopFinish = (c.updateAcquisitionScope c.streamingAddresses).clearStartupGateState := by
  simp [stopFinish, h]

/-- The `except` branch, entered from any section of the body. -/
def stopAbort (c : Core) : Core := { c with streamStopFinalizationPending := false }

/-! ## A whole stop -/

/-- Section number `k`, with the callback that arrives before it, if one does. -/
def deliver (env : StopEnv) (k : Nat) (section_ : Core → Core) : List (Core → Core) :=
  if k ∈ env.callbacks then [onStreamStopped, section_] else [section_]

/-- The sections of a stop that no exception of its own interrupts, callbacks included. -/
def stopStages (r : StopRequest) (env : StopEnv) : List (Core → Core) :=
  (fun c => c.stopEnter r)
    :: (deliver env 1 (fun c => c.stopIssue r)
      ++ deliver env 2 (fun c => c.stopCollect r env.physical)
      ++ deliver env 3 (fun c => c.stopFlush r)
      ++ deliver env 4 (fun c => c.stopMark r)
      ++ deliver env 5 (fun c => c.stopClose r env)
      ++ deliver env 6 (fun c => c.stopRelease r)
      ++ deliver env 7 stopFinish)

/-- The states after each section. -/
def stopTrace (c : Core) : List (Core → Core) → List Core
  | [] => []
  | f :: fs => f c :: stopTrace (f c) fs

/-- `_stop_stream_impl`, run to its end. -/
def stopStreamImpl (c : Core) (r : StopRequest) (env : StopEnv) : Core :=
  (stopStages r env).foldl (fun c f => f c) c

/-- The request `stop_stream` makes: every subject. -/
def stopAllRequest (c : Core) (stopSessionId : Option String) : StopRequest :=
  { idxs := List.range c.subjects.length, generation := c.subjectsGeneration
    subjectIds := c.subjectIds, specific := false, stopSessionId := stopSessionId }

/-- The request `stop_stream_for_subjects` makes, if its ids resolve. -/
def stopSubjectsRequest (c : Core) (subjectIds : List String) (stopSessionId : Option String) :
    Except String StopRequest :=
  match c.getSubjectsByIds subjectIds with
  | .error missing => .error ("Subject(s) not found: " ++ pyList missing)
  | .ok idxs => .ok
    { idxs := idxs, generation := c.subjectsGeneration, subjectIds := c.idsAt idxs
      specific := true, stopSessionId := stopSessionId }

/-- An accepted request names the ids at the positions it resolved. -/
theorem stopSubjectsRequest_eq_ok {c : Core} {ids : List String} {stopSessionId : Option String}
    {r : StopRequest} (h : c.stopSubjectsRequest ids stopSessionId = .ok r) :
    c.getSubjectsByIds ids = .ok r.idxs ∧ r.subjectIds = c.idsAt r.idxs
      ∧ r.generation = c.subjectsGeneration := by
  unfold stopSubjectsRequest at h
  split at h
  · cases h
  · rename_i hidxs
    cases h
    exact ⟨hidxs, rfl, rfl⟩

end Core

end NexusN3
