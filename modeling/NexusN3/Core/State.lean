import NexusN3.Lib.Dict
import NexusN3.Core.StartupGate
import Mathlib.Data.Finset.SDiff

/-!
# The Core's data model

The fields of `nexus_n3/core/core.py`'s `Core` that its acquisition lifecycle reads or
writes, with the parts of `Subject`, `SubjectGraph`, the file manager and the sensor
manager they touch. Two conventions carry the translation:

* A `Subject` object is named by its *position* in `Core.subjects`: the commands
  resolve an id to the first subject that carries it and then mutate that object, so
  two subjects with one id stay apart. `subjectsGeneration` is the identity of the
  list object itself, which `init_core` and a finished Reset replace.
* A section of the source under one lock, and a straight run of assignments between
  two of them, is one Lean function `Core → Core`. The interleaving of such sections
  is `NexusN3.Core.World`'s business, not this module's.
-/

namespace NexusN3

open Lib

/-! ## Subjects and sensors -/

/-- The values `Core.stream_phase` takes. -/
inductive StreamPhase where
  | idle
  | starting
  | warmingUp
  | preparingOfficial
  | readyForOfficial
  | activatingOfficial
  | officialStreaming
  | retryingStartup
  | startupFailed
  | stopping
  deriving DecidableEq

/-- The text the source holds for a phase. -/
def StreamPhase.text : StreamPhase → String
  | .idle => "idle"
  | .starting => "starting"
  | .warmingUp => "warming_up"
  | .preparingOfficial => "preparing_official"
  | .readyForOfficial => "ready_for_official"
  | .activatingOfficial => "activating_official"
  | .officialStreaming => "official_streaming"
  | .retryingStartup => "retrying_startup"
  | .startupFailed => "startup_failed"
  | .stopping => "stopping"

/-- `_official_start_mode`: the code only ever asks whether it is `"coordinated"`, so
every other value is one constructor. -/
inductive OfficialStartMode where
  | localGate
  | coordinated
  deriving DecidableEq

-- What `FileManager.start_stream` writes into an entry's `meta`: the output paths are a
-- function of these three and of the entry's own location and address.
structure FileBinding where
  session : Option String
  subjectId : String
  tag : Option String
  deriving DecidableEq

/-- One element of `Subject.sensors`: the sensor object with its metadata. -/
structure SensorEntry where
  address : Option String
  location : Option String := none
  samplingRate : Option ℚ := none
  blockSize : Nat := 300
  rawData : List Sample := []
  binding : Option FileBinding := none
  measurementCleanupPending : Bool := false
  physicalStopQuarantined : Bool := false
  deriving DecidableEq

/-- `if entry["sensor"].address`: neither absent nor empty. -/
def SensorEntry.liveAddress (e : SensorEntry) : Option String :=
  e.address.filter (· ≠ "")

structure Subject where
  subjectId : String
  sensors : List SensorEntry
  isStreaming : Bool := false
  deriving DecidableEq

namespace Subject

def addresses (s : Subject) : List String := s.sensors.filterMap SensorEntry.liveAddress

def hasAddress (s : Subject) (address : Option String) : Bool :=
  s.sensors.any fun e => decide (e.address = address)

/-- What a start does to each subject it covers before the sensors run. -/
def rewind (s : Subject) : Subject :=
  { s with isStreaming := false, sensors := s.sensors.map fun e => { e with rawData := [] } }

/-- `FileManager.start_stream`: bind every entry to the session's files. -/
def openOutputs (session tag : Option String) (s : Subject) : Subject :=
  { s with sensors := s.sensors.map fun e => { e with binding := some ⟨session, s.subjectId, tag⟩ } }

/-- `FileManager.stop_stream`: forget the output paths. -/
def closeOutputs (s : Subject) : Subject :=
  { s with sensors := s.sensors.map fun e => { e with binding := none } }

def setStreaming (b : Bool) (s : Subject) : Subject := { s with isStreaming := b }

@[simp] theorem rewind_subjectId (s : Subject) : s.rewind.subjectId = s.subjectId := rfl
@[simp] theorem rewind_isStreaming (s : Subject) : s.rewind.isStreaming = false := rfl
@[simp] theorem openOutputs_subjectId (ts tag : Option String) (s : Subject) :
    (s.openOutputs ts tag).subjectId = s.subjectId := rfl
@[simp] theorem openOutputs_isStreaming (ts tag : Option String) (s : Subject) :
    (s.openOutputs ts tag).isStreaming = s.isStreaming := rfl
@[simp] theorem closeOutputs_isStreaming (s : Subject) :
    s.closeOutputs.isStreaming = s.isStreaming := rfl
@[simp] theorem setStreaming_isStreaming (b : Bool) (s : Subject) :
    (s.setStreaming b).isStreaming = b := rfl

end Subject

/-- A block handed to the background writer: `FileManager.enqueue_block`. -/
structure RawBlock where
  address : Option String
  binding : FileBinding
  samples : List Sample
  deriving DecidableEq

/-! ## Updating the subjects at given positions -/

/-- Apply `f` to the subjects at the positions `idxs`. -/
def updateAt (idxs : List Nat) (f : Subject → Subject) (subs : List Subject) : List Subject :=
  subs.mapIdx fun i s => if i ∈ idxs then f s else s

@[simp] theorem updateAt_length (idxs : List Nat) (f : Subject → Subject) (subs : List Subject) :
    (updateAt idxs f subs).length = subs.length := by
  simp [updateAt]

theorem updateAt_getElem? (idxs : List Nat) (f : Subject → Subject) (subs : List Subject)
    (i : Nat) : (updateAt idxs f subs)[i]? = subs[i]?.map fun s => if i ∈ idxs then f s else s := by
  simp [updateAt]

/-- A subject of the updated list comes from one of the old list, changed or not. -/
theorem mem_updateAt {idxs : List Nat} {f : Subject → Subject} {subs : List Subject}
    {t : Subject} (h : t ∈ updateAt idxs f subs) :
    ∃ i s, subs[i]? = some s ∧ t = if i ∈ idxs then f s else s := by
  obtain ⟨i, hi⟩ := List.mem_iff_getElem?.mp h
  rw [updateAt_getElem?] at hi
  obtain ⟨s, hs, rfl⟩ := Option.map_eq_some_iff.mp hi
  exact ⟨i, s, hs, rfl⟩

/-- An update over every position is a map. -/
theorem updateAt_range (f : Subject → Subject) (subs : List Subject) :
    updateAt (List.range subs.length) f subs = subs.map f := by
  apply List.ext_getElem?
  intro i
  rw [updateAt_getElem?, List.getElem?_map]
  cases hs : subs[i]? with
  | none => rfl
  | some s =>
    have hi : i < subs.length := (List.getElem?_eq_some_iff.mp hs).1
    simp [hi]

/-! ## The Core -/

structure StopResult where
  address : String
  status : String
  error : Option String := none
  deriving DecidableEq

structure Core where
  subjects : List Subject := []
  subjectsGeneration : Nat := 0
  activeSubjectIds : Option (List String) := none
  sessionTimestamp : Option String := none
  archivedSessionTimestamp : Option String := none
  streamPhase : StreamPhase := .idle
  policy : StartupPolicy := {}
  startupAttempt : Nat := 0
  startupSubjectIds : List String := []
  startupAddresses : List String := []
  startupStatsByAddress : Dict String StartupGateSensorStats := .empty
  startupRetryPending : Bool := false
  startupManualStop : Bool := false
  startupGateToken : Nat := 0
  pendingStreamTags : Dict String (Option String) := .empty
  startupLastFailureReason : Option String := none
  streamStopFinalizationPending : Bool := false
  stoppingSubjectIds : Finset String := ∅
  officialStreamOrigin : Option Nat := none
  officialStartMode : OfficialStartMode := .localGate
  startSessionId : Option String := none
  officialCommitReceived : Bool := false
  officialOutputsActive : Bool := false
  preparedSubjectIds : Finset String := ∅
  recoveryInProgress : Bool := false
  initializationRequiresRecovery : Bool := false
  stopResultsTimestamp : Option (Option String) := none
  physicalStopResults : Dict String StopResult := .empty
  -- the file manager's queue of blocks and its finished archives
  rawBlocks : List RawBlock := []
  archives : List (Option String) := []
  -- the sensor manager's routing switch and the gateways' acquisition scope
  routingEnabled : Bool := false
  acquisitionScope : List String := []
  deriving DecidableEq

namespace Core

/-- Assign `stream_phase`. -/
def setPhase (c : Core) (phase : StreamPhase) : Core := { c with streamPhase := phase }

@[simp] theorem setPhase_streamPhase (c : Core) (ph : StreamPhase) :
    (c.setPhase ph).streamPhase = ph := rfl

@[simp] theorem setPhase_self (c : Core) : c.setPhase c.streamPhase = c := rfl

/-- `has_active_streams`. -/
def hasActiveStreams (c : Core) : Bool := c.subjects.any Subject.isStreaming

theorem hasActiveStreams_eq_false_iff {c : Core} :
    c.hasActiveStreams = false ↔ ∀ s ∈ c.subjects, s.isStreaming = false := by
  simp [hasActiveStreams]

/-! ### Lookups of the subject graph -/

/-- `find_subject_by_id`, as a position. -/
def findSubjectById (c : Core) (subjectId : String) : Option Nat :=
  c.subjects.findIdx? fun s => s.subjectId = subjectId

/-- `find_subject_by_address`, as a position. -/
def findSubjectByAddress (c : Core) (address : Option String) : Option Nat :=
  c.subjects.findIdx? fun s => s.hasAddress address

/-- `_get_subjects_by_ids`: every id resolved, or the list of those that are not. -/
def getSubjectsByIds (c : Core) (subjectIds : List String) : Except (List String) (List Nat) :=
  match subjectIds.filter fun sid => (c.findSubjectById sid).isNone with
  | [] => .ok (subjectIds.filterMap c.findSubjectById)
  | missing => .error missing

/-- The ids of the subjects at the given positions. -/
def idsAt (c : Core) (idxs : List Nat) : List String :=
  idxs.filterMap fun i => c.subjects[i]?.map Subject.subjectId

/-- The live addresses of the subjects at the given positions, in order. -/
def addressesAt (c : Core) (idxs : List Nat) : List String :=
  idxs.flatMap fun i => (c.subjects[i]?.map Subject.addresses).getD []

def subjectIds (c : Core) : List String := c.subjects.map Subject.subjectId

/-- `_location_for_address` and `_expected_rate_for_address`: the first entry with it. -/
def entryForAddress (c : Core) (address : String) : Option SensorEntry :=
  (c.subjects.flatMap Subject.sensors).find? fun e => e.address = some address

/-! ### The guards of the public methods -/

def ensureRecoveryIdle (c : Core) : Except String Unit :=
  if c.recoveryInProgress then
    .error "Core recovery is still in progress; wait for Reset completion"
  else .ok ()

def ensureDisconnectAllowed (c : Core) : Except String Unit :=
  if c.streamStopFinalizationPending then
    .error "Cannot disconnect sensors while stream finalization is still in progress"
  else .ok ()

/-! ### Arming and clearing the startup gate -/

/-- `_reset_startup_gate_state`. -/
def resetStartupGateState (c : Core) (subjectIds addresses : List String) (now : ℚ) : Core :=
  { c with
    startupGateToken := c.startupGateToken + 1
    startupAttempt := 1
    streamPhase := .starting
    startupSubjectIds := subjectIds
    startupAddresses := addresses
    startupRetryPending := false
    startupManualStop := false
    startupLastFailureReason := none
    startupStatsByAddress := Dict.ofList <| addresses.map fun a =>
      (a, { address := a
            location := (c.entryForAddress a).bind SensorEntry.location
            expectedRateHz := (c.entryForAddress a).bind fun e => configuredRate e.samplingRate
            streamStartCommandTime := some now }) }

/-- `_clear_startup_gate_state`; every caller passes the phase `"idle"`. -/
def clearStartupGateState (c : Core) : Core :=
  { c with
    startupGateToken := c.startupGateToken + 1
    streamPhase := .idle
    startupSubjectIds := []
    startupAddresses := []
    startupRetryPending := false
    startupManualStop := false
    startupLastFailureReason := none
    startupStatsByAddress := .empty
    startupAttempt := 0
    pendingStreamTags := .empty
    officialStartMode := .localGate
    startSessionId := none
    officialCommitReceived := false
    officialOutputsActive := false
    preparedSubjectIds := ∅
    officialStreamOrigin := none }

section ClearLemmas

variable (c : Core)

@[simp] theorem clear_streamPhase : c.clearStartupGateState.streamPhase = .idle := rfl
@[simp] theorem clear_subjects : c.clearStartupGateState.subjects = c.subjects := rfl
@[simp] theorem clear_token :
    c.clearStartupGateState.startupGateToken = c.startupGateToken + 1 := rfl
@[simp] theorem clear_addresses : c.clearStartupGateState.startupAddresses = [] := rfl
@[simp] theorem clear_mode : c.clearStartupGateState.officialStartMode = .localGate := rfl
@[simp] theorem clear_commit : c.clearStartupGateState.officialCommitReceived = false := rfl
@[simp] theorem clear_outputs : c.clearStartupGateState.officialOutputsActive = false := rfl
@[simp] theorem clear_hasActiveStreams :
    c.clearStartupGateState.hasActiveStreams = c.hasActiveStreams := rfl

end ClearLemmas

/-- The verdict of the gate: there is an address, and every tracked one is stable. -/
def startupStable (c : Core) : Bool :=
  !c.startupAddresses.isEmpty && c.startupAddresses.all fun a =>
    (c.startupStatsByAddress.get? a).all c.policy.isSensorStartupStable

/-! ### Sample admission -/

/-- The locked verdict of `_on_data`: official outputs are open. -/
def officialStreaming (c : Core) : Bool :=
  decide (c.streamPhase = .officialStreaming) && c.officialOutputsActive
    && (decide (c.officialStartMode ≠ .coordinated) || c.officialCommitReceived)

/-- A subject whose samples `_on_data` keeps once the locked verdict is positive. -/
def subjectAdmits (c : Core) (s : Subject) : Bool :=
  s.isStreaming && decide (s.subjectId ∉ c.stoppingSubjectIds)

/-- `_on_data` hands a sample of this address to `Subject.ingest_sample`. -/
def admits (c : Core) (address : Option String) : Bool :=
  c.officialStreaming && (match c.findSubjectByAddress address with
    | none => false
    | some i => c.subjects[i]?.any c.subjectAdmits)

/-- The phases in which `_on_data` feeds the startup statistics. -/
def recordsStartupStats (c : Core) : Bool :=
  match c.streamPhase with
  | .starting | .warmingUp | .retryingStartup => true
  | _ => false

/-- `Subject.ingest_sample` on the entry the address names: append, then hand every full
block to the writer. The block size is positive, so the blocks are the chunks of the buffer. -/
def ingestInto (e : SensorEntry) (sample : Sample) : SensorEntry × List (List Sample) :=
  let buffer := e.rawData ++ [sample]
  let full := buffer.length / e.blockSize
  ({ e with rawData := buffer.drop (full * e.blockSize) },
    (List.range full).map fun k => (buffer.drop (k * e.blockSize)).take e.blockSize)

/-- Update the first entry of a subject that carries the address. -/
def ingestSample (c : Core) (i : Nat) (sample : Sample) : Core :=
  match c.subjects[i]?.bind fun s => s.sensors.findIdx? fun e => decide (e.address = sample.address) with
  | none => c
  | some j =>
    let blocks := ((c.subjects[i]?.bind fun s => s.sensors[j]?).map fun e =>
      match e.binding with
      | none => []
      | some b => (ingestInto e sample).2.map fun block => (⟨e.address, b, block⟩ : RawBlock)).getD []
    { c with
      subjects := updateAt [i] (fun s =>
        { s with sensors := s.sensors.modify j fun e => (ingestInto e sample).1 }) c.subjects
      rawBlocks := c.rawBlocks ++ blocks }

/-- The startup statistics of a sample that arrives while a startup is observed. -/
def recordStartupSample (c : Core) (sample : Sample) (now : ℚ) : Core :=
  match sample.address with
  | none => c
  | some a => match c.startupStatsByAddress.get? a with
    | none => c
    | some stats =>
      if c.recordsStartupStats && sample.samplingRate.isSome then
        { c with startupStatsByAddress :=
            c.startupStatsByAddress.set a (stats.recordSample sample now) }
      else c

/-- `_on_data`. -/
def onData (c : Core) (sample : Sample) (now : ℚ) : Core :=
  let c := c.recordStartupSample sample now
  if c.admits sample.address then
    match c.findSubjectByAddress sample.address with
    | some i => c.ingestSample i sample
    | none => c
  else c

end Core

end NexusN3
