import NexusN3.Core.World
import NexusN3.Master.Drain
import Mathlib.Data.Finset.Sort
import Mathlib.Data.String.Basic

/-!
# The master's official-start barrier

`_create_official_start_record`, `_record_official_start_event` and the part of
`dispatch_command` that commits an official start. There is one record at a time: a new
START replaces the tracking whole, so everything that still refers to the old start finds
nothing. A record counts the participants that reported READY with its own timestamp, and
the commit goes out only when all of them have.
-/

namespace NexusN3

open Lib

structure OfficialRecord where
  sessionTimestamp : String
  subjectIds : List String
  expectedNodes : Finset NodeId
  readyNodes : Finset NodeId := ∅
  officialNodes : Finset NodeId := ∅
  readyAnnounced : Bool := false
  commitDispatched : Bool := false
  deriving DecidableEq

/-- The payload of `EVT_DISTRIBUTED_READY_FOR_OFFICIAL`. -/
structure ReadyAnnouncement where
  startSessionId : String
  sessionTimestamp : String
  subjectIds : List String
  expectedNodes : Finset NodeId
  readyNodes : Finset NodeId
  deriving DecidableEq

/-- `_official_start_tracking`, and the announcements made so far. -/
structure OfficialDesk where
  tracking : Dict String OfficialRecord := .empty
  announced : List ReadyAnnouncement := []
  deriving DecidableEq

inductive CommitRefusal where
  -- "Unknown or stale distributed start session"
  | unknownStart
  -- "Distributed stream is not ready for official acquisition; waiting for ..."
  | notReady (missing : Finset NodeId)
  deriving DecidableEq

/-- A commit on its way to a participant. -/
structure CommitMessage where
  target : NodeId
  payload : Core.CommitPayload
  deriving DecidableEq

namespace OfficialRecord

/-- The event names a participant and carries the record's timestamp, compared as text. -/
def concerns (r : OfficialRecord) (node : NodeId) (ev : CoreEvent) : Bool :=
  decide (node ∈ r.expectedNodes) && decide (Core.pyStr ev.sessionTimestamp = r.sessionTimestamp)

def addReady (r : OfficialRecord) (node : NodeId) : OfficialRecord :=
  { r with readyNodes := insert node r.readyNodes }

/-- The READY that completes the record, the first time. -/
def announces (r : OfficialRecord) : Bool :=
  decide (r.readyNodes = r.expectedNodes) && !r.readyAnnounced

def announcement (r : OfficialRecord) (startSessionId : String) : ReadyAnnouncement :=
  { startSessionId := startSessionId, sessionTimestamp := r.sessionTimestamp
    subjectIds := r.subjectIds, expectedNodes := r.expectedNodes, readyNodes := r.readyNodes }

end OfficialRecord

/-- The order commits go out in: the remote participants, then the master itself. -/
def commitOrder (expected : Finset NodeId) : List NodeId :=
  (expected.erase masterId).sort ++ if masterId ∈ expected then [masterId] else []

namespace OfficialDesk

/-- `_create_official_start_record`. -/
def createOfficialStartRecord (d : OfficialDesk) (startSessionId sessionTimestamp : String)
    (subjectIds : List String) (expectedNodes : List NodeId) : OfficialDesk :=
  { d with
    tracking := Dict.single startSessionId
      { sessionTimestamp := sessionTimestamp, subjectIds := subjectIds
        expectedNodes := expectedNodes.toFinset } }

def putRecord (d : OfficialDesk) (startSessionId : String) (r : OfficialRecord) : OfficialDesk :=
  { d with tracking := d.tracking.set startSessionId r }

/-- A READY of a participant. -/
def recordReady (d : OfficialDesk) (startSessionId : String) (record : OfficialRecord) (node : NodeId) :
    OfficialDesk :=
  let r := record.addReady node
  if r.announces then
    { d.putRecord startSessionId { r with readyAnnounced := true } with
      announced := d.announced ++ [r.announcement startSessionId] }
  else d.putRecord startSessionId r

/-- `_record_official_start_event`. -/
def recordOfficialStartEvent (d : OfficialDesk) (node : NodeId) (ev : CoreEvent) : OfficialDesk :=
  if node = "" then d
  else match truthy ev.startSessionId with
    | none => d
    | some startSessionId =>
      match d.tracking.get? startSessionId with
      | none => d
      | some record =>
        if record.concerns node ev then
          match ev.kind with
          | .readyForOfficial => d.recordReady startSessionId record node
          | .officialStarted =>
            d.putRecord startSessionId { record with officialNodes := insert node record.officialNodes }
        else d

/-- The part of `dispatch_command` for `CMD_START_OFFICIAL_STREAM`: what it marks, and the
commits it sends. -/
def dispatchCommit (d : OfficialDesk) (startSessionId : Option String) :
    Except CommitRefusal (OfficialDesk × List CommitMessage) :=
  match startSessionId with
  | none => .error .unknownStart
  | some sid =>
    match d.tracking.get? sid with
    | none => .error .unknownStart
    | some record =>
      if record.readyNodes = record.expectedNodes then
        .ok (d.putRecord sid { record with commitDispatched := true },
          (commitOrder record.expectedNodes).map fun node =>
            { target := node
              payload := { startSessionId := some sid
                           sessionTimestamp := some record.sessionTimestamp } })
      else .error (.notReady (record.expectedNodes \ record.readyNodes))

/-! ## What an event can change, and what a commit asks for -/

@[simp] theorem putRecord_announced (d : OfficialDesk) (sid : String) (r : OfficialRecord) :
    (d.putRecord sid r).announced = d.announced := rfl

/-- An event is dropped, or it is about a participant of the record it names. -/
theorem recordOfficialStartEvent_cases (d : OfficialDesk) (node : NodeId) (ev : CoreEvent) :
    d.recordOfficialStartEvent node ev = d
      ∨ ∃ sid record, ev.startSessionId = some sid ∧ d.tracking.get? sid = some record
        ∧ node ∈ record.expectedNodes ∧ Core.pyStr ev.sessionTimestamp = record.sessionTimestamp
        ∧ ((ev.kind = .readyForOfficial
            ∧ d.recordOfficialStartEvent node ev = d.recordReady sid record node)
          ∨ d.recordOfficialStartEvent node ev = d.putRecord sid
              { record with officialNodes := insert node record.officialNodes }) := by
  unfold recordOfficialStartEvent
  split
  · exact .inl rfl
  · split
    · exact .inl rfl
    · rename_i sid hsid
      split
      · exact .inl rfl
      · rename_i record hrecord
        split
        · rename_i hconcerns
          simp only [OfficialRecord.concerns, Bool.and_eq_true, decide_eq_true_eq] at hconcerns
          refine .inr ⟨sid, record, (Option.filter_eq_some_iff.mp hsid).1, hrecord, hconcerns.1,
            hconcerns.2, ?_⟩
          split
          · rename_i hkind
            exact .inl ⟨hkind, rfl⟩
          · exact .inr rfl
        · exact .inl rfl

/-- A commit goes out for the record of its id, once every participant is ready. -/
theorem dispatchCommit_eq_ok {d d' : OfficialDesk} {sid : Option String} {commits : List CommitMessage}
    (h : d.dispatchCommit sid = .ok (d', commits)) :
    ∃ s record, d.tracking.get? s = some record ∧ record.readyNodes = record.expectedNodes
      ∧ d' = d.putRecord s { record with commitDispatched := true }
      ∧ ∀ m ∈ commits, m.payload.startSessionId = some s := by
  unfold dispatchCommit at h
  split at h
  · cases h
  · rename_i s
    split at h
    · cases h
    · rename_i record hrecord
      split at h
      · rename_i hready
        cases h
        refine ⟨s, record, hrecord, hready, rfl, ?_⟩
        intro m hm
        obtain ⟨node, -, rfl⟩ := List.mem_map.mp hm
        rfl
      · cases h

end OfficialDesk

end NexusN3
