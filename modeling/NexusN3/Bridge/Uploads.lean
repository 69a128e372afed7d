import NexusN3.Lib.Dict
import NexusN3.Lib.Json
import NexusN3.Lib.Path
import NexusN3.Lib.Text
import NexusN3.Lib.Unwinding
import Mathlib.Algebra.Order.Ring.Unbundled.Rat

/-!
# The pending uploads of the cloud bridge

A local event is sent to the cloud as telemetry first and looked at afterwards. A finished
recording is queued for upload in the second half, under the path of its archive; the main loop
tries the queued paths again and again and forgets one when an upload of it succeeds.

* **`finishedRecording`** — the events that a recording's end shows in, with the archive's path
  and name.
* **`Remembers`** — what one step owes: a finished recording in hand stays in hand or is queued,
  and a queued path leaves with a successful upload only.
* **`keepsRecording`** — the condition on one step.
* **`remembers_along_iff`** — a run remembers everything exactly when its steps meet it.
-/

namespace NexusN3.Bridge

open Lib

/-! ## The names of blobs -/

structure Config where
  deviceId : String
  customerId : Option String
  siteId : Option String
  site : Option String
  uploadRetryInterval : Int := 5

def allowedInSegment (c : Char) : Bool :=
  c.isAlphanum || c = '.' || c = '_' || c = '-'

/-- `re.sub(r"[^A-Za-z0-9._-]+", "-", text)`; `inRun` inside a run already replaced. -/
def replaceRuns : Bool → List Char → List Char
  | _, [] => []
  | inRun, c :: cs =>
    if allowedInSegment c then c :: replaceRuns false cs
    else if inRun then replaceRuns true cs
    else '-' :: replaceRuns true cs

/-- `text.strip("-._")`. -/
def stripMarks (cs : List Char) : List Char :=
  let mark := fun c : Char => c = '-' || c = '.' || c = '_'
  ((cs.dropWhile mark).reverse.dropWhile mark).reverse

def sanitizeBlobSegment (value : Option String) (fallback : String) : String :=
  let raw := strip (value.getD "")
  if raw = "" then fallback
  else
    let cleaned := String.ofList (stripMarks (replaceRuns false raw.toList))
    if cleaned = "" then fallback else cleaned

def buildSessionBlobName (archiveName : String) (customerId siteId deviceId : Option String) :
    String :=
  "/".intercalate
    [sanitizeBlobSegment customerId "unknown-customer",
      sanitizeBlobSegment siteId "unknown-site",
      sanitizeBlobSegment deviceId "unknown-device",
      Path.name archiveName]

/-! ## The bridge -/

structure PendingUpload where
  archivePath : String
  archiveName : String
  blobName : String
  payload : List (String × Json)
  attempts : Nat := 0
  nextAttemptAt : Rat := 0

/-- A queue of size one on which a direct method waits for its reply; `registered` until the
method has returned. -/
structure Waiter where
  registered : Bool
  full : Bool
  deriving DecidableEq

/-- Where the thread of local events stands in `_handle_local_event`. -/
inductive Listener where
  | idle
  /-- `waiter.put(event)` found the queue full -/
  | putting (event : Json) (correlationId : String)
  | sending (event : Json)
  /-- an exception left the event loop -/
  | dead

/-- Where the main loop stands in `_process_pending_uploads`. -/
inductive Uploader where
  | idle
  | attempting (path : String) (rest : List String) (now : Rat)
  | unmounting (path : String) (rest : List String) (now : Rat)

structure AzureBridgeService where
  config : Config
  running : Bool := true
  connected : Bool := true
  reconnectRequested : Bool := false
  pendingMethodReplies : Dict String Waiter := Dict.empty
  pendingUploads : Dict String PendingUpload := Dict.empty
  listener : Listener := .idle
  uploader : Uploader := .idle

/-- How one attempt of `_attempt_pending_upload` ends. -/
inductive UploadOutcome where
  /-- `archive.is_file()` is false, or raises -/
  | missing
  | checkRaised
  | raised
  | failed (statusCode : Nat)
  | succeeded
  deriving DecidableEq

inductive Action where
  | event (event : Json)
  /-- the blocked `waiter.put` goes through -/
  | replyPut
  /-- the telemetry of the event in hand is sent or raises; how the state file and the reported
  properties fare afterwards -/
  | telemetry (sent saved published : Bool)
  /-- a direct method registers its waiter, takes a reply, and returns -/
  | request (correlationId : String)
  | replyGet (correlationId : String)
  | replyEnd (correlationId : String)
  | connection (up : Bool)
  | reconnected (up : Bool)
  | tick (now : Rat)
  | upload (outcome : UploadOutcome) (published : Bool)
  | unmount (sent : Bool)
  | stop

namespace AzureBridgeService

/-- `str(value)`; `repr` is the text of a value that is none. -/
def textOf (repr : Json → String) : Json → String
  | .str s => s
  | v => repr v

/-- A list or a dictionary is no key: looking it up raises. -/
def hashable : Json → Bool
  | .arr _ => false
  | .obj _ => false
  | _ => true

/-- `event.get("payload", {}) or {}`. -/
def payloadOf (fields : List (String × Json)) : Json :=
  let payload := Json.getD fields "payload" (.obj [])
  if payload.truthy then payload else .obj []

/-- The rest of `_handle_local_event` up to the telemetry. -/
def afterCapture (s : AzureBridgeService) (event : Json) (fields : List (String × Json)) :
    AzureBridgeService :=
  let eventType := Json.get fields "type"
  if !hashable eventType then { s with listener := .dead }
  else if eventType.isText "control_center_message" then { s with listener := .idle }
  else { s with listener := .sending event }

/-- The start of `_handle_local_event`, with `_capture_method_reply`. -/
def receive (s : AzureBridgeService) (event : Json) : AzureBridgeService :=
  match event.asDict with
  | none => { s with listener := .dead }
  | some fields =>
    if !(Json.get fields "type").truthy then s
    else
      match (payloadOf fields).asDict with
      | none => s.afterCapture event fields
      | some payload =>
        let correlationId := Json.get payload "correlation_id"
        if !correlationId.truthy then s.afterCapture event fields
        else if !hashable correlationId then { s with listener := .dead }
        else
          match correlationId with
          | .str id =>
            match s.pendingMethodReplies.get? id with
            | some ⟨true, false⟩ =>
              let s := { s with
                pendingMethodReplies := s.pendingMethodReplies.set id ⟨true, true⟩ }
              s.afterCapture event fields
            | some ⟨true, true⟩ => { s with listener := .putting event id }
            | _ => s.afterCapture event fields
          | _ => s.afterCapture event fields

def requestReconnect (s : AzureBridgeService) : AzureBridgeService :=
  { s with reconnectRequested := true }

def publishReportedProperties (s : AzureBridgeService) (published : Bool) : AzureBridgeService :=
  if published then s else s.requestReconnect

def queuePendingUpload (s : AzureBridgeService) (payload : List (String × Json))
    (archivePath archiveName blobName : String) : AzureBridgeService :=
  match s.pendingUploads.get? archivePath with
  | some existing =>
    { s with
      pendingUploads := s.pendingUploads.set archivePath
        { existing with
          payload := payload
          archiveName := archiveName
          blobName := blobName
          nextAttemptAt := min existing.nextAttemptAt 0 } }
  | none =>
    { s with
      pendingUploads := s.pendingUploads.set archivePath
        { archivePath := archivePath
          archiveName := archiveName
          blobName := blobName
          payload := payload } }

def handleStreamDrained (repr : Json → String) (s : AzureBridgeService)
    (payload : List (String × Json)) : AzureBridgeService :=
  if !(Json.get payload "status").isText "ok" then s
  else if !(Json.get payload "all_local_streams_stopped").truthy then s
  else
    let archivePath := Json.get payload "session_archive_path"
    let archiveName := Json.get payload "session_archive_name"
    if !archivePath.truthy || !archiveName.truthy then s
    else
      match archiveName with
      | .str name =>
        let siteId := if s.config.siteId.getD "" ≠ "" then s.config.siteId else s.config.site
        s.queuePendingUpload payload (textOf repr archivePath) name
          (buildSessionBlobName name s.config.customerId siteId (some s.config.deviceId))
      -- `Path(archive_name)` raises
      | _ => { s with listener := .dead }

/-- The rest of `_handle_local_event` after the telemetry is sent. -/
def finishEvent (repr : Json → String) (s : AzureBridgeService) (fields : List (String × Json))
    (saved published : Bool) : AzureBridgeService :=
  let eventType := Json.get fields "type"
  let s := { s with listener := .idle }
  if eventType.isText "server_ready" then
    match (payloadOf fields).asDict with
    | none => { s with listener := .dead }
    | some _ => s.publishReportedProperties published
  else if eventType.isText "stream_drained" then
    match (payloadOf fields).asDict with
    | none => { s with listener := .dead }
    | some payload => s.handleStreamDrained repr payload
  else if eventType.isText "error" then
    if saved then s.publishReportedProperties published else { s with listener := .dead }
  else s

/-- `_schedule_upload_retry`: a path that is queued no more is let be. -/
def scheduleUploadRetry (s : AzureBridgeService) (path : String) (now : Rat) : AzureBridgeService :=
  match s.pendingUploads.get? path with
  | none => s
  | some tracked =>
    { s with
      pendingUploads := s.pendingUploads.set path
        { tracked with
          attempts := tracked.attempts + 1
          nextAttemptAt := now + s.config.uploadRetryInterval } }

/-- Go on with the uploads of the tick. -/
def nextUpload (s : AzureBridgeService) (now : Rat) : List String → AzureBridgeService
  | [] => { s with uploader := .idle }
  | path :: rest => { s with uploader := .attempting path rest now }

/-- The paths that are due at a tick. -/
def due (s : AzureBridgeService) (now : Rat) : List String :=
  (s.pendingUploads.entries.filter fun e => decide (e.2.nextAttemptAt ≤ now)).map Prod.fst

/-- `_attempt_pending_upload`, up to the request to unmount the disk. -/
def attemptPendingUpload (s : AzureBridgeService) (path : String) (rest : List String) (now : Rat)
    (outcome : UploadOutcome) (published : Bool) : AzureBridgeService :=
  match outcome with
  | .missing => (s.scheduleUploadRetry path now).nextUpload now rest
  -- the check stands outside the `try`: the exception ends the main loop, and the service with it
  | .checkRaised => { s with running := false, uploader := .idle }
  | .raised => (s.requestReconnect.scheduleUploadRetry path now).nextUpload now rest
  | .failed statusCode =>
    let s := s.scheduleUploadRetry path now
    (if 500 ≤ statusCode then s.requestReconnect else s).nextUpload now rest
  | .succeeded =>
    let s := { s with pendingUploads := s.pendingUploads.restrict fun p => decide (p ≠ path) }
    { s.publishReportedProperties published with uploader := .unmounting path rest now }

/-- The queue on which the event in hand is to be put is full, and the method that read it has
returned: the put never ends. -/
def stuck (s : AzureBridgeService) : Bool :=
  match s.listener with
  | .putting _ id => decide (s.pendingMethodReplies.get? id = some ⟨false, true⟩)
  | _ => false

/-- No event is received any more. -/
def deaf (s : AzureBridgeService) : Bool :=
  !s.running || s.stuck || (match s.listener with | .dead => true | _ => false)

def step (repr : Json → String) : Machine AzureBridgeService Action
  | s, .event event =>
    if s.deaf then some s
    else
      match s.listener with
      | .idle => some (s.receive event)
      | _ => none
  | s, .replyPut =>
    match s.listener with
    | .putting event id =>
      match event.asDict, s.pendingMethodReplies.get? id with
      | some fields, some ⟨registered, false⟩ =>
        let s := { s with
          pendingMethodReplies := s.pendingMethodReplies.set id ⟨registered, true⟩ }
        some (s.afterCapture event fields)
      | _, _ => none
    | _ => none
  | s, .telemetry sent saved published =>
    match s.listener with
    | .sending event =>
      match event.asDict with
      | some fields =>
        if sent then some (s.finishEvent repr fields saved published)
        else some { s.requestReconnect with listener := .idle }
      | none => none
    | _ => none
  | s, .request id =>
    match s.pendingMethodReplies.get? id with
    | none =>
      some { s with pendingMethodReplies := s.pendingMethodReplies.set id ⟨true, false⟩ }
    | some _ => none
  | s, .replyGet id =>
    if s.pendingMethodReplies.get? id = some ⟨true, true⟩ then
      some { s with pendingMethodReplies := s.pendingMethodReplies.set id ⟨true, false⟩ }
    else none
  | s, .replyEnd id =>
    match s.pendingMethodReplies.get? id with
    | some ⟨true, full⟩ =>
      some { s with pendingMethodReplies := s.pendingMethodReplies.set id ⟨false, full⟩ }
    | _ => none
  | s, .connection up => some { s with connected := up }
  | s, .reconnected up => some { s with connected := up, reconnectRequested := !up }
  | s, .tick now =>
    match s.uploader with
    | .idle =>
      if !s.running then none
      else if !s.connected then some s
      else some (s.nextUpload now (s.due now))
    | _ => none
  | s, .upload outcome published =>
    match s.uploader with
    | .attempting path rest now => some (s.attemptPendingUpload path rest now outcome published)
    | _ => none
  | s, .unmount sent =>
    match s.uploader with
    | .unmounting path rest now =>
      let s := if sent then s else s.requestReconnect.scheduleUploadRetry path now
      some (s.nextUpload now rest)
    | _ => none
  | s, .stop => some { s with running := false }

/-! ## What a step owes -/

/-- A stream-drained event of a finished recording: the path and the name of its archive. -/
def finishedRecording (event : Json) : Option (Json × Json) := do
  let fields ← event.asDict
  guard ((Json.get fields "type").isText "stream_drained")
  let payload ← (payloadOf fields).asDict
  guard ((Json.get payload "status").isText "ok")
  guard (Json.get payload "all_local_streams_stopped").truthy
  let archivePath := Json.get payload "session_archive_path"
  let archiveName := Json.get payload "session_archive_name"
  guard (archivePath.truthy && archiveName.truthy)
  return (archivePath, archiveName)

/-- The event being handled, as long as its handling can go on. -/
def inHand (s : AzureBridgeService) : Option Json :=
  match s.listener with
  | .putting event _ => if s.stuck then none else some event
  | .sending event => some event
  | _ => none

/-- What one step owes. -/
structure Remembers (repr : Json → String) (s : AzureBridgeService) (a : Action)
    (s' : AzureBridgeService) : Prop where
  /-- a finished recording that arrives or is in hand stays in hand or is queued -/
  held : ∀ event path name, finishedRecording event = some (path, name) →
    (a = .event event ∨ s.inHand = some event) →
    s'.inHand = some event ∨ textOf repr path ∈ s'.pendingUploads.keys
  /-- a queued path leaves with a successful upload of it -/
  kept : ∀ path ∈ s.pendingUploads.keys, path ∉ s'.pendingUploads.keys →
    ∃ rest now published,
      s.uploader = .attempting path rest now ∧ a = .upload .succeeded published

/-- The correlation id of the event can be looked up. -/
def readable (event : Json) : Bool :=
  match event.asDict with
  | none => false
  | some fields =>
    match (payloadOf fields).asDict with
    | none => true
    | some payload =>
      let correlationId := Json.get payload "correlation_id"
      !correlationId.truthy || hashable correlationId

def isStr : Json → Bool
  | .str _ => true
  | _ => false

/-- What a step must not do to the finished recording `event`: it arrives at a bridge that listens,
its correlation id can be looked up, the method that its reply is put for does not return with the
put blocked, its telemetry is sent and its archive's name is a text. -/
def handles (s : AzureBridgeService) (a : Action) (event name : Json) : Prop :=
  match a with
  | .event e => e = event → s.inHand ≠ some event → s.deaf = false ∧ readable event = true
  | .telemetry sent _ _ => s.listener = .sending event → sent = true ∧ isStr name = true
  | .replyEnd id => s.listener = .putting event id →
    s.pendingMethodReplies.get? id ≠ some ⟨true, true⟩
  | _ => True

/-- The condition on one step that can be taken, about each finished recording whose path is not
queued already. -/
def keepsRecording (repr : Json → String) (s : AzureBridgeService) (a : Action) : Prop :=
  (step repr s a).isSome = true → ∀ event path name,
    finishedRecording event = some (path, name) → textOf repr path ∉ s.pendingUploads.keys →
    s.handles a event name

/-! ## Handling a finished recording -/

section Handle

variable {repr : Json → String} {s s' : AzureBridgeService} {event path name : Json}
  {fields : List (String × Json)}

/-- What the event of a finished recording looks like. -/
structure IsRecording (event : Json) (fields payload : List (String × Json)) (path name : Json) :
    Prop where
  fields_eq : event.asDict = some fields
  drained : Json.get fields "type" = .str "stream_drained"
  payload_eq : (payloadOf fields).asDict = some payload
  status : Json.get payload "status" = .str "ok"
  stopped : (Json.get payload "all_local_streams_stopped").truthy = true
  path_eq : Json.get payload "session_archive_path" = path
  name_eq : Json.get payload "session_archive_name" = name
  path_truthy : path.truthy = true
  name_truthy : name.truthy = true

theorem isRecording_of_finishedRecording (h : finishedRecording event = some (path, name)) :
    ∃ fields payload, IsRecording event fields payload path name := by
  unfold finishedRecording at h
  obtain ⟨fields, hfields, h⟩ := Option.bind_eq_some_iff.mp h
  obtain ⟨_, htype, h⟩ := Option.bind_eq_some_iff.mp h
  obtain ⟨payload, hpayload, h⟩ := Option.bind_eq_some_iff.mp h
  obtain ⟨_, hstatus, h⟩ := Option.bind_eq_some_iff.mp h
  obtain ⟨_, hstopped, h⟩ := Option.bind_eq_some_iff.mp h
  obtain ⟨_, htruthy, h⟩ := Option.bind_eq_some_iff.mp h
  obtain ⟨hpath, hname⟩ := Prod.mk.inj (Option.some.inj h)
  simp only [Option.guard_eq_some', Bool.and_eq_true, hpath, hname]
    at htype hstatus hstopped htruthy
  exact ⟨fields, payload, hfields, Json.isText_iff.mp htype, hpayload, Json.isText_iff.mp hstatus,
    hstopped, hpath, hname, htruthy.1, htruthy.2⟩

/-- Past the reply, the event of a finished recording goes to its telemetry. -/
theorem afterCapture_recording {payload : List (String × Json)}
    (h : IsRecording event fields payload path name) :
    s.afterCapture event fields = { s with listener := .sending event } := by
  unfold afterCapture
  simp only [h.drained, hashable, Json.isText]
  rfl

theorem inHand_of_sending (h : s.listener = .sending event) : s.inHand = some event := by
  simp [inHand, h]

/-- A finished recording that arrives at an idle bridge is in hand if its correlation id can be
looked up, else the listener dies over it. -/
theorem receive_recording (h : finishedRecording event = some (path, name)) :
    (s.receive event).pendingUploads = s.pendingUploads ∧
      if readable event then (s.receive event).inHand = some event
      else (s.receive event).listener = .dead := by
  obtain ⟨fields, payload, hrec⟩ := isRecording_of_finishedRecording h
  have htype : (Json.get fields "type").truthy = true := by rw [hrec.drained]; rfl
  have hsending (t : AzureBridgeService) : (t.afterCapture event fields).inHand = some event := by
    rw [afterCapture_recording hrec]
    rfl
  have hkept (t : AzureBridgeService) :
      (t.afterCapture event fields).pendingUploads = t.pendingUploads := by
    rw [afterCapture_recording hrec]
  unfold receive readable
  simp only [hrec.fields_eq, htype, hrec.payload_eq, Bool.not_true, Bool.false_eq_true, if_false]
  cases hcorr : (Json.get payload "correlation_id").truthy with
  | false => simp [hsending, hkept]
  | true =>
    cases hhash : hashable (Json.get payload "correlation_id") with
    | false => simp
    | true =>
      simp only [Bool.not_true, Bool.false_eq_true, if_false, Bool.false_or, if_true]
      split
      · -- the id is a text: the waiter decides whether the put blocks
        split
        · exact ⟨hkept _, hsending _⟩
        · rename_i hfull
          refine ⟨rfl, ?_⟩
          simp [inHand, stuck, hfull]
        · exact ⟨hkept _, hsending _⟩
      · exact ⟨hkept _, hsending _⟩

theorem mem_keys_queuePendingUpload {payload : List (String × Json)}
    {archivePath archiveName blobName p : String} :
    p ∈ (s.queuePendingUpload payload archivePath archiveName blobName).pendingUploads.keys ↔
      p = archivePath ∨ p ∈ s.pendingUploads.keys := by
  unfold queuePendingUpload
  split <;> exact Dict.mem_keys_set

/-- Once its telemetry is sent, a finished recording is queued if its archive's name is a text,
else the listener dies over it. -/
theorem finishEvent_recording (repr : Json → String) (s : AzureBridgeService)
    (h : finishedRecording event = some (path, name))
    (hfields : event.asDict = some fields) (saved published : Bool) :
    if isStr name then
      ∀ p, p ∈ (s.finishEvent repr fields saved published).pendingUploads.keys ↔
        p = textOf repr path ∨ p ∈ s.pendingUploads.keys
    else
      (s.finishEvent repr fields saved published).listener = .dead ∧
        (s.finishEvent repr fields saved published).pendingUploads = s.pendingUploads := by
  obtain ⟨fields', payload, hrec⟩ := isRecording_of_finishedRecording h
  obtain rfl : fields' = fields := Option.some.inj (hrec.fields_eq.symm.trans hfields)
  have hfinish : s.finishEvent repr fields' saved published =
      ({ s with listener := .idle } : AzureBridgeService).handleStreamDrained repr payload := by
    unfold finishEvent
    simp only [hrec.drained, hrec.payload_eq, Json.isText]
    rfl
  rw [hfinish]
  unfold handleStreamDrained
  simp only [hrec.status, hrec.stopped, hrec.path_eq, hrec.name_eq, hrec.path_truthy,
    hrec.name_truthy, Json.isText, decide_true, Bool.not_true, Bool.false_eq_true, if_false,
    Bool.or_self]
  cases name with
  | str n => exact fun p => mem_keys_queuePendingUpload
  | _ => exact ⟨rfl, rfl⟩

end Handle

/-! ## What the rest leaves alone -/

section Frame

variable {repr : Json → String} {s s' : AzureBridgeService}

/-- The listener and the waiters are as before, and no queued path is gone. -/
structure Quiet (s s' : AzureBridgeService) : Prop where
  listener : s'.listener = s.listener
  waiters : s'.pendingMethodReplies = s.pendingMethodReplies
  queued : ∀ p ∈ s.pendingUploads.keys, p ∈ s'.pendingUploads.keys

theorem Quiet.trans {r : AzureBridgeService} (h1 : Quiet s r) (h2 : Quiet r s') : Quiet s s' :=
  ⟨h2.listener.trans h1.listener, h2.waiters.trans h1.waiters,
    fun p hp => h2.queued p (h1.queued p hp)⟩

/-- Only fields that no listener reads are written. -/
theorem Quiet.of_eq (hl : s'.listener = s.listener)
    (hw : s'.pendingMethodReplies = s.pendingMethodReplies)
    (hp : s'.pendingUploads = s.pendingUploads) : Quiet s s' :=
  ⟨hl, hw, fun p h => by rw [hp]; exact h⟩

theorem Quiet.inHand (h : Quiet s s') : s'.inHand = s.inHand := by
  unfold AzureBridgeService.inHand stuck
  rw [h.listener, h.waiters]

theorem quiet_requestReconnect : Quiet s s.requestReconnect := .of_eq rfl rfl rfl

theorem quiet_publishReportedProperties (published : Bool) :
    Quiet s (s.publishReportedProperties published) := by
  unfold publishReportedProperties
  split <;> exact .of_eq rfl rfl rfl

theorem quiet_nextUpload (now : Rat) (rest : List String) : Quiet s (s.nextUpload now rest) := by
  cases rest <;> exact .of_eq rfl rfl rfl

theorem quiet_scheduleUploadRetry (path : String) (now : Rat) :
    Quiet s (s.scheduleUploadRetry path now) := by
  unfold scheduleUploadRetry
  split
  · exact .of_eq rfl rfl rfl
  · exact ⟨rfl, rfl, fun p hp => Dict.mem_keys_set.mpr (Or.inr hp)⟩

/-- Every attempt that does not report success leaves the queue as it is. -/
theorem quiet_attemptPendingUpload {path : String} {rest : List String} {now : Rat}
    {outcome : UploadOutcome} (hfailed : outcome ≠ .succeeded) (published : Bool) :
    Quiet s (s.attemptPendingUpload path rest now outcome published) := by
  cases outcome with
  | missing => exact (quiet_scheduleUploadRetry path now).trans (quiet_nextUpload now rest)
  | checkRaised => exact .of_eq rfl rfl rfl
  | raised =>
    exact (quiet_requestReconnect.trans (quiet_scheduleUploadRetry path now)).trans
      (quiet_nextUpload now rest)
  | failed statusCode =>
    refine Quiet.trans ?_ (quiet_nextUpload now rest)
    split
    · exact (quiet_scheduleUploadRetry path now).trans quiet_requestReconnect
    · exact quiet_scheduleUploadRetry path now
  | succeeded => exact absurd rfl hfailed

/-- A successful upload takes its own path out of the queue. -/
theorem attemptPendingUpload_succeeded (path : String) (rest : List String) (now : Rat)
    (published : Bool) :
    (s.attemptPendingUpload path rest now .succeeded published).inHand = s.inHand ∧
      ∀ p ∈ s.pendingUploads.keys, p ≠ path →
        p ∈ (s.attemptPendingUpload path rest now .succeeded published).pendingUploads.keys := by
  have hpublish := quiet_publishReportedProperties (s := { s with
    pendingUploads := s.pendingUploads.restrict fun p => decide (p ≠ path) }) published
  constructor
  · exact hpublish.inHand
  · intro p hp hne
    apply hpublish.queued
    obtain ⟨e, he, rfl⟩ := List.mem_map.mp hp
    exact List.mem_map.mpr ⟨e, Dict.mem_restrict_entries.mpr ⟨he, decide_eq_true hne⟩, rfl⟩

theorem afterCapture_pendingUploads (event : Json) (fields : List (String × Json)) :
    (s.afterCapture event fields).pendingUploads = s.pendingUploads := by
  unfold afterCapture
  simp only
  split
  · rfl
  · split <;> rfl

theorem receive_pendingUploads (event : Json) :
    (s.receive event).pendingUploads = s.pendingUploads := by
  unfold receive
  split
  · rfl
  · split
    · rfl
    · split
      · exact afterCapture_pendingUploads _ _
      · simp only
        split
        · exact afterCapture_pendingUploads _ _
        · split
          · rfl
          · split
            · split
              · exact afterCapture_pendingUploads _ _
              · rfl
              · exact afterCapture_pendingUploads _ _
            · exact afterCapture_pendingUploads _ _

theorem handleStreamDrained_queued (payload : List (String × Json)) {p : String}
    (hp : p ∈ s.pendingUploads.keys) :
    p ∈ (s.handleStreamDrained repr payload).pendingUploads.keys := by
  unfold handleStreamDrained
  split
  · exact hp
  · split
    · exact hp
    · simp only
      split
      · exact hp
      · split
        · exact mem_keys_queuePendingUpload.mpr (Or.inr hp)
        · exact hp

theorem finishEvent_queued (fields : List (String × Json)) (saved published : Bool) {p : String}
    (hp : p ∈ s.pendingUploads.keys) :
    p ∈ (s.finishEvent repr fields saved published).pendingUploads.keys := by
  unfold finishEvent
  simp only
  split
  · split
    · exact hp
    · exact (quiet_publishReportedProperties published).queued p hp
  · split
    · split
      · exact hp
      · exact handleStreamDrained_queued _ hp
    · split
      · split
        · exact (quiet_publishReportedProperties published).queued p hp
        · exact hp
      · exact hp

end Frame

/-! ## One step -/

section Step

variable {repr : Json → String} {s s' : AzureBridgeService}

/-- A queued path leaves with a successful upload of it, whatever the step. -/
theorem kept_step {a : Action} (hstep : step repr s a = some s') :
    ∀ path ∈ s.pendingUploads.keys, path ∉ s'.pendingUploads.keys → ∃ rest now published,
      s.uploader = .attempting path rest now ∧ a = .upload .succeeded published := by
  intro path hpath hgone
  cases a with
  | event event =>
    simp only [step] at hstep
    split at hstep
    · cases hstep
      exact absurd hpath hgone
    · split at hstep <;> cases hstep
      rw [receive_pendingUploads] at hgone
      exact absurd hpath hgone
  | replyPut =>
    simp only [step] at hstep
    split at hstep
    · split at hstep <;> cases hstep
      rw [afterCapture_pendingUploads] at hgone
      exact absurd hpath hgone
    · cases hstep
  | telemetry sent saved published =>
    simp only [step] at hstep
    split at hstep
    · split at hstep
      · split at hstep <;> cases hstep
        · exact absurd (finishEvent_queued _ _ _ hpath) hgone
        · exact absurd hpath hgone
      · cases hstep
    · cases hstep
  | request id =>
    simp only [step] at hstep
    split at hstep <;> cases hstep
    exact absurd hpath hgone
  | replyGet id =>
    simp only [step] at hstep
    split at hstep <;> cases hstep
    exact absurd hpath hgone
  | replyEnd id =>
    simp only [step] at hstep
    split at hstep <;> cases hstep
    exact absurd hpath hgone
  | connection up =>
    cases hstep
    exact absurd hpath hgone
  | reconnected up =>
    cases hstep
    exact absurd hpath hgone
  | tick now =>
    simp only [step] at hstep
    split at hstep
    · split at hstep
      · cases hstep
      · split at hstep <;> cases hstep
        · exact absurd hpath hgone
        · exact absurd ((quiet_nextUpload _ _).queued _ hpath) hgone
    · cases hstep
  | upload outcome published =>
    simp only [step] at hstep
    split at hstep <;> cases hstep
    rename_i tried rest now hup
    by_cases hsucceeded : outcome = .succeeded
    · subst hsucceeded
      by_cases hne : path = tried
      · subst hne
        exact ⟨rest, now, published, hup, rfl⟩
      · exact absurd ((attemptPendingUpload_succeeded tried rest now published).2 path hpath hne)
          hgone
    · exact absurd ((quiet_attemptPendingUpload hsucceeded published).queued path hpath) hgone
  | unmount sent =>
    simp only [step] at hstep
    split at hstep <;> cases hstep
    refine absurd ?_ hgone
    apply (quiet_nextUpload _ _).queued
    split
    · exact hpath
    · exact (quiet_scheduleUploadRetry _ _).queued path hpath
  | stop =>
    cases hstep
    exact absurd hpath hgone

/-- What is in hand is the event being sent, or one whose put can still go through. -/
theorem inHand_eq_some_iff {event : Json} :
    s.inHand = some event ↔ s.listener = .sending event ∨
      ∃ id, s.listener = .putting event id ∧
        s.pendingMethodReplies.get? id ≠ some ⟨false, true⟩ := by
  unfold inHand stuck
  split
  · simp_all [and_comm]
  · simp_all
  · simp_all

/-- Writing a waiter that is registered, or has room, takes no event out of hand. -/
theorem inHand_set_waiter {event : Json} (h : s.inHand = some event) (id : String) {w : Waiter}
    (hw : w ≠ ⟨false, true⟩) :
    ({ s with pendingMethodReplies := s.pendingMethodReplies.set id w } :
      AzureBridgeService).inHand = some event := by
  rw [inHand_eq_some_iff] at h ⊢
  rcases h with hsending | ⟨id', hputting, hwaiter⟩
  · exact Or.inl hsending
  · refine Or.inr ⟨id', hputting, ?_⟩
    show (s.pendingMethodReplies.set id w).get? id' ≠ _
    rw [Dict.get?_set]
    split
    · exact fun heq => hw (Option.some.inj heq)
    · exact hwaiter

/-- The first debt of `Remembers`, for one event. -/
def Holds (repr : Json → String) (s s' : AzureBridgeService) (a : Action) (event path : Json) :
    Prop :=
  (a = .event event ∨ s.inHand = some event) →
    s'.inHand = some event ∨ textOf repr path ∈ s'.pendingUploads.keys

theorem holds_of_inHand {a : Action} {event path : Json} (hne : ∀ e, a ≠ .event e)
    (hkept : s.inHand = some event → s'.inHand = some event) : Holds repr s s' a event path := by
  rintro (heq | hhand)
  · exact absurd heq (hne event)
  · exact Or.inl (hkept hhand)

theorem holds_event_iff {e event path name : Json} (h : finishedRecording event = some (path, name))
    (hstep : step repr s (.event e) = some s') :
    Holds repr s s' (.event e) event path ↔
      (textOf repr path ∉ s.pendingUploads.keys → s.handles (.event e) event name) := by
  simp only [step] at hstep
  split at hstep
  · -- nothing is received: the bridge stays as it is
    rename_i hdeaf
    cases hstep
    constructor
    · intro hholds hpath heq hhand
      rcases hholds (Or.inl (heq ▸ rfl)) with hheld | hqueued
      · exact absurd hheld hhand
      · exact absurd hqueued hpath
    · rintro hok (heq | hhand)
      · by_contra hlost
        obtain ⟨hhand, hpath⟩ := not_or.mp hlost
        have hlistens := (hok hpath (Action.event.inj heq) hhand).1
        rw [hdeaf] at hlistens
        cases hlistens
      · exact Or.inl hhand
  · rename_i hdeaf
    split at hstep
    · rename_i hidle
      cases hstep
      have hempty : s.inHand = none := by simp [inHand, hidle]
      constructor
      · rintro hholds hpath rfl -
        refine ⟨by simpa using hdeaf, ?_⟩
        obtain ⟨hpending, hreceived⟩ := receive_recording (s := s) h
        by_contra hread
        rw [if_neg hread] at hreceived
        rcases hholds (Or.inl rfl) with hheld | hqueued
        · simp [inHand, hreceived] at hheld
        · rw [hpending] at hqueued
          exact hpath hqueued
      · rintro hok (heq | hhand)
        · obtain rfl := Action.event.inj heq
          obtain ⟨hpending, hreceived⟩ := receive_recording (s := s) h
          rw [hpending]
          by_cases hpath : textOf repr path ∈ s.pendingUploads.keys
          · exact Or.inr hpath
          · rw [if_pos (hok hpath rfl (by simp [hempty])).2] at hreceived
            exact Or.inl hreceived
        · rw [hempty] at hhand
          cases hhand
    · cases hstep

theorem holds_replyPut {event path name : Json} (h : finishedRecording event = some (path, name))
    (hstep : step repr s .replyPut = some s') : Holds repr s s' .replyPut event path := by
  apply holds_of_inHand (fun e => by simp)
  intro hhand
  simp only [step] at hstep
  split at hstep
  · rename_i e id hputting
    split at hstep <;> cases hstep
    rename_i fields registered hfields hwaiter
    obtain rfl : e = event := by
      rcases inHand_eq_some_iff.mp hhand with hsending | ⟨id', hputting', -⟩
      · rw [hputting] at hsending
        cases hsending
      · rw [hputting] at hputting'
        cases hputting'
        rfl
    obtain ⟨fields', payload, hrec⟩ := isRecording_of_finishedRecording h
    obtain rfl : fields' = fields := Option.some.inj (hrec.fields_eq.symm.trans hfields)
    rw [afterCapture_recording hrec]
    rfl
  · cases hstep

theorem holds_telemetry_iff {sent saved published : Bool} {event path name : Json}
    (h : finishedRecording event = some (path, name))
    (hstep : step repr s (.telemetry sent saved published) = some s') :
    Holds repr s s' (.telemetry sent saved published) event path ↔
      (textOf repr path ∉ s.pendingUploads.keys →
        s.handles (.telemetry sent saved published) event name) := by
  simp only [step] at hstep
  split at hstep
  · rename_i e hsending
    split at hstep
    · rename_i fields hfields
      -- only the event being sent is in hand
      have hsent (hhand : s.inHand = some event) : e = event := by
        rcases inHand_eq_some_iff.mp hhand with hs | ⟨id, hp, -⟩
        · rw [hsending] at hs
          cases hs
          rfl
        · rw [hsending] at hp
          cases hp
      split at hstep
      · rename_i htrue
        cases hstep
        constructor
        · intro hholds hpath hlistener
          obtain rfl : e = event := by
            rw [hsending] at hlistener
            cases hlistener
            rfl
          refine ⟨htrue, ?_⟩
          have hfinish := finishEvent_recording repr s h hfields saved published
          by_contra hname
          rw [if_neg hname] at hfinish
          rcases hholds (Or.inr (inHand_of_sending hsending)) with hheld | hqueued
          · simp [inHand, hfinish.1] at hheld
          · rw [hfinish.2] at hqueued
            exact hpath hqueued
        · rintro hok (heq | hhand)
          · cases heq
          · obtain rfl := hsent hhand
            right
            by_cases hpath : textOf repr path ∈ s.pendingUploads.keys
            · exact finishEvent_queued _ _ _ hpath
            · have hfinish :=
                finishEvent_recording repr s h hfields saved published
              rw [if_pos (hok hpath hsending).2] at hfinish
              exact (hfinish _).mpr (Or.inl rfl)
      · rename_i hfalse
        cases hstep
        constructor
        · intro hholds hpath hlistener
          obtain rfl : e = event := by
            rw [hsending] at hlistener
            cases hlistener
            rfl
          rcases hholds (Or.inr (inHand_of_sending hsending)) with hheld | hqueued
          · cases hheld
          · exact absurd hqueued hpath
        · rintro hok (heq | hhand)
          · cases heq
          · obtain rfl := hsent hhand
            right
            by_contra hpath
            exact hfalse (hok hpath hsending).1
    · cases hstep
  · cases hstep

theorem holds_replyEnd_iff {id : String} {event path name : Json}
    (hstep : step repr s (.replyEnd id) = some s') :
    Holds repr s s' (.replyEnd id) event path ↔
      (textOf repr path ∉ s.pendingUploads.keys → s.handles (.replyEnd id) event name) := by
  simp only [step] at hstep
  split at hstep <;> cases hstep
  rename_i full hwaiter
  unfold handles
  simp only [hwaiter]
  constructor
  · intro hholds hpath hputting hfull
    obtain rfl : full = true := by simpa using hfull
    have hhand : s.inHand = some event :=
      inHand_eq_some_iff.mpr (Or.inr ⟨id, hputting, by simp [hwaiter]⟩)
    rcases hholds (Or.inr hhand) with hheld | hqueued
    · simp [inHand, stuck, hputting] at hheld
    · exact hpath hqueued
  · rintro hok (heq | hhand)
    · cases heq
    · by_cases hpath : textOf repr path ∈ s.pendingUploads.keys
      · exact Or.inr hpath
      left
      rcases inHand_eq_some_iff.mp hhand with hsending | ⟨id', hputting, hroom⟩
      · exact inHand_eq_some_iff.mpr (Or.inl hsending)
      · refine inHand_eq_some_iff.mpr (Or.inr ⟨id', hputting, ?_⟩)
        show (s.pendingMethodReplies.set id ⟨false, full⟩).get? id' ≠ _
        rw [Dict.get?_set]
        split
        · rename_i hid
          subst hid
          have hnotfull := hok hpath hputting
          cases full with
          | true => exact absurd rfl hnotfull
          | false => simp
        · exact hroom

/-- One step that can be taken pays its first debt exactly when it meets the condition. -/
theorem holds_step_iff {a : Action} (hstep : step repr s a = some s') {event path name : Json}
    (h : finishedRecording event = some (path, name)) :
    Holds repr s s' a event path ↔
      (textOf repr path ∉ s.pendingUploads.keys → s.handles a event name) := by
  cases a with
  | event e => exact holds_event_iff h hstep
  | telemetry sent saved published => exact holds_telemetry_iff h hstep
  | replyEnd id => exact holds_replyEnd_iff hstep
  | replyPut => exact iff_of_true (holds_replyPut h hstep) fun _ => trivial
  | request id =>
    simp only [step] at hstep
    split at hstep <;> cases hstep
    refine iff_of_true (holds_of_inHand (fun e => by simp) fun hhand => ?_) fun _ => trivial
    exact inHand_set_waiter hhand id (by simp)
  | replyGet id =>
    simp only [step] at hstep
    split at hstep <;> cases hstep
    refine iff_of_true (holds_of_inHand (fun e => by simp) fun hhand => ?_) fun _ => trivial
    exact inHand_set_waiter hhand id (by simp)
  | connection up =>
    cases hstep
    exact iff_of_true (holds_of_inHand (fun e => by simp) id) fun _ => trivial
  | reconnected up =>
    cases hstep
    exact iff_of_true (holds_of_inHand (fun e => by simp) id) fun _ => trivial
  | tick now =>
    simp only [step] at hstep
    split at hstep
    · split at hstep
      · cases hstep
      · split at hstep <;> cases hstep
        · exact iff_of_true (holds_of_inHand (fun e => by simp) id) fun _ => trivial
        · refine iff_of_true (holds_of_inHand (fun e => by simp) fun hhand => ?_) fun _ => trivial
          rw [(quiet_nextUpload _ _).inHand, hhand]
    · cases hstep
  | upload outcome published =>
    simp only [step] at hstep
    split at hstep <;> cases hstep
    refine iff_of_true (holds_of_inHand (fun e => by simp) fun hhand => ?_) fun _ => trivial
    by_cases hsucceeded : outcome = .succeeded
    · subst hsucceeded
      rw [(attemptPendingUpload_succeeded _ _ _ _).1, hhand]
    · rw [(quiet_attemptPendingUpload hsucceeded _).inHand, hhand]
  | unmount sent =>
    simp only [step] at hstep
    split at hstep <;> cases hstep
    refine iff_of_true (holds_of_inHand (fun e => by simp) fun hhand => ?_) fun _ => trivial
    rw [(quiet_nextUpload _ _).inHand]
    split
    · exact hhand
    · rw [(quiet_scheduleUploadRetry _ _).inHand]
      exact hhand
  | stop =>
    cases hstep
    exact iff_of_true (holds_of_inHand (fun e => by simp) id) fun _ => trivial

/-- A step pays its debts exactly when it meets the condition. -/
theorem remembers_iff (repr : Json → String) (s : AzureBridgeService) (a : Action) :
    (∀ s', step repr s a = some s' → Remembers repr s a s') ↔ keepsRecording repr s a := by
  constructor
  · intro hall henabled event path name hrec
    obtain ⟨s', hstep⟩ := Option.isSome_iff_exists.mp henabled
    exact (holds_step_iff hstep hrec).mp ((hall s' hstep).held event path name hrec)
  · intro hok s' hstep
    refine ⟨?_, kept_step hstep⟩
    intro event path name hrec
    exact (holds_step_iff hstep hrec).mpr (hok (by rw [hstep]; rfl) event path name hrec)

end Step

/-! ## Every run -/

/-- Every step of a run of the bridge pays its debts exactly when every step meets the
condition. -/
theorem remembers_along_iff (repr : Json → String) (config : Config) (actions : List Action) :
    Machine.Along (step repr) (fun s a => ∀ s', step repr s a = some s' → Remembers repr s a s')
        { config := config } actions
      ↔ Machine.Along (step repr) (keepsRecording repr) { config := config } actions :=
  Machine.Along.congr fun s a => remembers_iff repr s a

/-- **Kept until uploaded.** In a run whose steps meet the condition, a finished recording that is
in hand or queued is so at the end, or an upload of its path has reported success on the way. -/
theorem kept_until_uploaded {repr : Json → String} {s t : AzureBridgeService}
    {event path name : Json} {actions : List Action}
    (hrec : finishedRecording event = some (path, name))
    (hheld : s.inHand = some event ∨ textOf repr path ∈ s.pendingUploads.keys)
    (halong : Machine.Along (step repr) (keepsRecording repr) s actions)
    (hexec : Machine.exec (step repr) s actions = some t) :
    t.inHand = some event ∨ textOf repr path ∈ t.pendingUploads.keys ∨
      ∃ k r rest now published, Machine.exec (step repr) s (actions.take k) = some r ∧
        r.uploader = .attempting (textOf repr path) rest now ∧
        actions[k]? = some (.upload .succeeded published) := by
  induction actions generalizing s with
  | nil =>
    cases hexec
    exact hheld.imp_right Or.inl
  | cons a actions ih =>
    obtain ⟨s', hstep, hrest⟩ := Option.bind_eq_some_iff.mp hexec
    have hremembers := (remembers_iff repr s a).mpr halong.1 s' hstep
    have hnext : (s'.inHand = some event ∨ textOf repr path ∈ s'.pendingUploads.keys) ∨
        ∃ rest now published, s.uploader = .attempting (textOf repr path) rest now ∧
          a = .upload .succeeded published := by
      rcases hheld with hhand | hqueued
      · exact Or.inl (hremembers.held event path name hrec (Or.inr hhand))
      · by_cases hgone : textOf repr path ∈ s'.pendingUploads.keys
        · exact Or.inl (Or.inr hgone)
        · exact Or.inr (hremembers.kept _ hqueued hgone)
    rcases hnext with hheld' | ⟨rest, now, published, hup, rfl⟩
    · refine (ih hheld' (halong.2 s' hstep) hrest).imp_right (Or.imp_right ?_)
      rintro ⟨k, r, rest, now, published, hr, hup, hk⟩
      refine ⟨k + 1, r, rest, now, published, ?_, hup, hk⟩
      rw [List.take_succ_cons, Machine.exec_cons, hstep]
      exact hr
    · exact Or.inr (Or.inr ⟨0, s, rest, now, published, rfl, hup, rfl⟩)

/-- The session archive of a recording that ended well. -/
def drained : Json :=
  .obj [("type", .str "stream_drained"),
    ("payload", .obj [("status", .str "ok"), ("all_local_streams_stopped", .bool true),
      ("session_archive_path", .str "/data/session.zip"),
      ("session_archive_name", .str "session.zip")])]

/-- The cloud is not reached when the event arrives: the recording is queued nowhere. -/
theorem drained_forgotten :
    ¬ Machine.Along (step fun _ => "")
      (fun s a => ∀ s', step (fun _ => "") s a = some s' → Remembers (fun _ => "") s a s')
      { config := ⟨"neia-1", none, none, none, 5⟩ }
      [.event drained, .telemetry false true true] := by
  intro halong
  have hreceived := halong.2 _ rfl
  have hremembers := hreceived.1 _ rfl
  rcases hremembers.held drained (.str "/data/session.zip") (.str "session.zip") rfl
    (Or.inr rfl) with hheld | hqueued
  · cases hheld
  · cases hqueued

end AzureBridgeService

end NexusN3.Bridge
