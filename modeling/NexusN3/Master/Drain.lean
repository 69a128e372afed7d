import NexusN3.Lib.Machine
import NexusN3.Lib.Dict
import Mathlib.Data.Finset.SDiff
import Mathlib.Data.List.Dedup

/-!
# The master's drain barrier

`_create_drain_record`, `_record_drain_ack` and `_emit_aggregate_drain` of
`nexus_n3/distributed/master_node.py`. A STOP opens a record with the nodes it expects; each
`stream_drained` of a node is stored as that node's latest acknowledgement, and the first
one that completes the record takes the drained subjects out of the active set.

`_record_drain_ack` is three locked sections around a callback that can raise: the
acknowledgement itself (`drainAck`), and `finishDrain` or `failDrain` after the callback.
`DrainDesk` runs any number of such calls in any order, over any number of records that
share the active set. The aggregates and callbacks it issues are logged with the record as
the acknowledgement that caused them left it.
-/

namespace NexusN3

open Lib

/-- A node id. -/
abbrev NodeId := String

/-- `MasterNode.node_id`. -/
def masterId : NodeId := "master"

/-- The payload of a `stream_drained` event; an absent key is its default. -/
structure DrainEvent where
  stopSessionId : Option String
  status : String := "ok"
  reason : Option String := none
  subjectIds : List String := []
  sessionTimestamp : Option String := none
  drained : Bool := true
  deriving DecidableEq

structure DrainAck where
  status : String
  reason : Option String
  subjectIds : List String
  sessionTimestamp : Option String
  drained : Bool
  deriving DecidableEq

def DrainEvent.ack (ev : DrainEvent) : DrainAck :=
  { status := ev.status, reason := ev.reason, subjectIds := ev.subjectIds
    sessionTimestamp := ev.sessionTimestamp, drained := ev.drained }

structure DrainRecord where
  scope : String
  subjectIds : List String
  expectedNodes : Finset NodeId
  acks : Dict NodeId DrainAck := .empty
  finalizing : Bool := false
  finalized : Bool := false
  deriving DecidableEq

/-- `drain_result`. -/
structure DrainResult where
  stopSessionId : String
  status : String
  reason : Option String
  sessionTimestamp : Option String
  acks : Dict NodeId DrainAck
  deriving DecidableEq

/-- Python's truth of an optional text. -/
def truthy (value : Option String) : Option String := value.filter (· ≠ "")

namespace DrainRecord

def recordAck (r : DrainRecord) (node : NodeId) (ack : DrainAck) : DrainRecord :=
  { r with acks := r.acks.set node ack }

/-- Every expected node has an acknowledgement. -/
def allExpectedAcked (r : DrainRecord) : Bool :=
  decide (∀ n ∈ r.expectedNodes, (r.acks.get? n).isSome = true)

/-- The latest acknowledgement of every expected node that has one says it drained. -/
def allExpectedDrained (r : DrainRecord) : Bool :=
  decide (∀ n ∈ r.expectedNodes, (r.acks.get? n).all DrainAck.drained = true)

def shouldFinalize (r : DrainRecord) : Bool :=
  r.allExpectedAcked && r.allExpectedDrained && !r.finalizing && !r.finalized

/-- The union of what the stored acknowledgements claim, whichever node sent them. -/
def drainedSubjects (r : DrainRecord) : Finset String :=
  (r.acks.values.flatMap DrainAck.subjectIds).toFinset

def aggregateStatus (r : DrainRecord) : String :=
  if r.acks.values.any fun a => decide (a.status ≠ "ok") then "error" else "ok"

def aggregateReason (r : DrainRecord) : Option String :=
  match r.acks.values.filterMap fun a => truthy a.reason with
  | [] => none
  | reasons => some ("; ".intercalate reasons)

/-- The one session timestamp the acknowledgements agree on. -/
def aggregateTimestamp (r : DrainRecord) : Option String :=
  match (r.acks.values.filterMap fun a => truthy a.sessionTimestamp).dedup with
  | [ts] => some ts
  | _ => none

def result (r : DrainRecord) (stopSessionId : String) : DrainResult :=
  { stopSessionId := stopSessionId, status := r.aggregateStatus, reason := r.aggregateReason
    sessionTimestamp := r.aggregateTimestamp, acks := r.acks }

theorem mem_drainedSubjects (r : DrainRecord) {s : String} :
    s ∈ r.drainedSubjects ↔ ∃ n a, r.acks.get? n = some a ∧ s ∈ a.subjectIds := by
  simp only [drainedSubjects, List.mem_toFinset, List.mem_flatMap, Dict.mem_values_iff,
    Dict.get?_eq_some_iff]
  constructor
  · rintro ⟨a, ⟨n, hn⟩, hs⟩
    exact ⟨n, a, hn, hs⟩
  · rintro ⟨n, a, hn, hs⟩
    exact ⟨a, ⟨n, hn⟩, hs⟩

/-- Every expected node has an acknowledgement, and its latest one says it drained. -/
def Complete (r : DrainRecord) : Prop :=
  ∀ n ∈ r.expectedNodes, ∃ a, r.acks.get? n = some a ∧ a.drained = true

theorem shouldFinalize_iff (r : DrainRecord) :
    r.shouldFinalize = true ↔ r.Complete ∧ r.finalizing = false ∧ r.finalized = false := by
  have hcomplete : (r.allExpectedAcked && r.allExpectedDrained) = true ↔ r.Complete := by
    simp only [allExpectedAcked, allExpectedDrained, Bool.and_eq_true, decide_eq_true_eq]
    constructor
    · rintro ⟨hacked, hdrained⟩ n hn
      obtain ⟨a, ha⟩ := Option.isSome_iff_exists.mp (hacked n hn)
      have hd := hdrained n hn
      rw [ha] at hd
      exact ⟨a, ha, hd⟩
    · intro h
      refine ⟨?_, ?_⟩
      · intro n hn
        obtain ⟨a, ha, -⟩ := h n hn
        rw [ha]
        rfl
      · intro n hn
        obtain ⟨a, ha, hd⟩ := h n hn
        rw [ha]
        exact hd
  simp only [shouldFinalize, Bool.and_eq_true, Bool.not_eq_true'] at *
  rw [hcomplete, and_assoc]

end DrainRecord

/-- `_drain_tracking` and `_active_stream_subjects`. -/
structure DrainBook where
  tracking : Dict String DrainRecord := .empty
  active : Finset String := ∅
  deriving DecidableEq

/-- What the locked section of `_record_drain_ack` decides. -/
inductive AckOutcome where
  | ignored
  | recorded
  | finalize (record : DrainRecord) (result : DrainResult) (allStreamsDrained : Bool)
  deriving DecidableEq

namespace DrainBook

def putRecord (b : DrainBook) (stopSessionId : String) (r : DrainRecord) : DrainBook :=
  { b with tracking := b.tracking.set stopSessionId r }

/-- `_create_drain_record`. -/
def createDrainRecord (b : DrainBook) (stopSessionId scope : String) (subjectIds : List String)
    (expectedNodes : List NodeId) : DrainBook :=
  b.putRecord stopSessionId
    { scope := scope, subjectIds := subjectIds, expectedNodes := expectedNodes.toFinset }

/-- `_active_stream_subjects.update`. -/
def activate (b : DrainBook) (subjectIds : List String) : DrainBook :=
  { b with active := b.active ∪ subjectIds.toFinset }

/-- A record that completes: its subjects leave the active set, and it is finalized at once
unless it was the last. -/
def completeDrain (b : DrainBook) (stopSessionId : String) (r : DrainRecord) :
    DrainBook × AckOutcome :=
  let active := b.active \ r.drainedSubjects
  let all := decide (active = ∅)
  let done := { r with finalizing := all, finalized := !all }
  ({ b.putRecord stopSessionId done with active := active },
    .finalize done (done.result stopSessionId) all)

/-- The first locked section of `_record_drain_ack`. -/
def drainAck (b : DrainBook) (node : NodeId) (ev : DrainEvent) : DrainBook × AckOutcome :=
  match truthy ev.stopSessionId with
  | none => (b, .ignored)
  | some sid =>
    match b.tracking.get? sid with
    | none => (b, .ignored)
    | some record =>
      let r := record.recordAck node ev.ack
      if r.shouldFinalize then b.completeDrain sid r else (b.putRecord sid r, .recorded)

/-- The locked section after a callback that returned, or with none registered. -/
def finishDrain (b : DrainBook) (stopSessionId : String) : DrainBook :=
  match b.tracking.get? stopSessionId with
  | none => b
  | some r => b.putRecord stopSessionId { r with finalizing := false, finalized := true }

/-- The locked section after a callback that raised. -/
def failDrain (b : DrainBook) (stopSessionId : String) : DrainBook :=
  match b.tracking.get? stopSessionId with
  | none => b
  | some r => b.putRecord stopSessionId { r with finalizing := false }

end DrainBook

/-! ## Calls in flight -/

inductive FinalizationStage where
  | callback
  | finish
  | fail (error : String)
  | report
  | reportFailure (error : String)
  | done
  deriving DecidableEq

/-- A call of `_record_drain_ack` past its first section. `atAck` is the record as that
section left it. -/
structure Finalization where
  result : DrainResult
  allStreamsDrained : Bool
  atAck : DrainRecord
  stage : FinalizationStage
  deriving DecidableEq

def Finalization.stopSessionId (f : Finalization) : String := f.result.stopSessionId

inductive IssueKind where
  | callback
  | aggregate
  | failureReport
  deriving DecidableEq

/-- What the barrier made known: a callback it called, or an aggregate it emitted. -/
structure Issue where
  kind : IssueKind
  result : DrainResult
  scope : String
  subjectIds : List String
  expectedNodes : Finset NodeId
  allStreamsDrained : Bool
  atAck : DrainRecord
  deriving DecidableEq

def Issue.stopSessionId (x : Issue) : String := x.result.stopSessionId

structure DrainDesk where
  book : DrainBook := {}
  inFlight : List Finalization := []
  issued : List Issue := []

inductive DrainAction where
  | create (stopSessionId scope : String) (subjectIds : List String) (expectedNodes : List NodeId)
  | start (subjectIds : List String)
  -- whether a callback is registered is read when the record has completed
  | ack (node : NodeId) (event : DrainEvent) (callbackRegistered : Bool)
  | advance (i : Nat) (callbackError : Option String)
  deriving DecidableEq

/-- Call the callback, or emit an aggregate: the payload of `_emit_aggregate_drain`. -/
def Finalization.issue (f : Finalization) (kind : IssueKind) (result : DrainResult) : Issue :=
  { kind := kind, result := result, scope := f.atAck.scope, subjectIds := f.atAck.subjectIds
    expectedNodes := f.atAck.expectedNodes, allStreamsDrained := f.allStreamsDrained
    atAck := f.atAck }

def Finalization.at (f : Finalization) (stage : FinalizationStage) : Finalization :=
  { f with stage := stage }

/-- The call that goes on after a record completed. -/
def finalizationOf (record : DrainRecord) (result : DrainResult) (all callbackRegistered : Bool) :
    Finalization :=
  { result := result, allStreamsDrained := all, atAck := record
    stage := if !all then .report else if callbackRegistered then .callback else .finish }

namespace DrainDesk

def setCall (d : DrainDesk) (i : Nat) (f : Finalization) : DrainDesk :=
  { d with inFlight := d.inFlight.set i f }

def setBook (d : DrainDesk) (b : DrainBook) : DrainDesk := { d with book := b }

@[simp] theorem setBook_inFlight (d : DrainDesk) (b : DrainBook) :
    (d.setBook b).inFlight = d.inFlight := rfl

@[simp] theorem setBook_issued (d : DrainDesk) (b : DrainBook) :
    (d.setBook b).issued = d.issued := rfl

def log (d : DrainDesk) (x : Issue) : DrainDesk := { d with issued := d.issued ++ [x] }

/-- A completed record starts its finalization; the callback is called right away. -/
def launch (d : DrainDesk) (f : Finalization) : DrainDesk :=
  let d := { d with inFlight := d.inFlight ++ [f] }
  if f.stage = .callback then d.log (f.issue .callback f.result) else d

def ack (d : DrainDesk) (node : NodeId) (ev : DrainEvent) (callbackRegistered : Bool) : DrainDesk :=
  match d.book.drainAck node ev with
  | (b, .finalize record result all) =>
    (d.setBook b).launch (finalizationOf record result all callbackRegistered)
  | (b, _) => d.setBook b

/-- The next section of a call in flight. -/
def advanceCall (d : DrainDesk) (i : Nat) (f : Finalization) (callbackError : Option String) :
    Option DrainDesk :=
  match f.stage with
  | .callback =>
    match callbackError with
    | none => some (d.setCall i (f.at .finish))
    | some e => some (d.setCall i (f.at (.fail e)))
  | .finish => some ((d.setBook (d.book.finishDrain f.stopSessionId)).setCall i (f.at .report))
  | .fail e =>
    some ((d.setBook (d.book.failDrain f.stopSessionId)).setCall i (f.at (.reportFailure e)))
  | .report => some ((d.setCall i (f.at .done)).log (f.issue .aggregate f.result))
  | .reportFailure e =>
    some ((d.setCall i (f.at .done)).log
      (f.issue .failureReport { f.result with status := "error", reason := some e }))
  | .done => none

def step (d : DrainDesk) : DrainAction → Option DrainDesk
  | .create sid scope subjectIds expected =>
    some (d.setBook (d.book.createDrainRecord sid scope subjectIds expected))
  | .start subjectIds => some (d.setBook (d.book.activate subjectIds))
  | .ack node ev callbackRegistered => some (d.ack node ev callbackRegistered)
  | .advance i callbackError => d.inFlight[i]?.bind fun f => d.advanceCall i f callbackError

end DrainDesk

end NexusN3
