import NexusN3.Lib.Machine
import NexusN3.Lib.TaskQueue
import NexusN3.Lib.Value
import NexusN3.Storage.Inside
import Mathlib.Logic.Function.Basic

/-!
# Session diagnostics

`FileManager` keeps one summary of the session that is under way and a file with its events. Any
number of threads report to it; one more works off a queue, for the callers that must not wait for
the disk. A report is two sections under the lock: `start_session_diagnostics`, which may bring the
session's state back, and its own. `finish_session_diagnostics` waits for the queue and seals the
session.

* **`State.step`** — the reports cut where another thread may come in, with disk operations that
  raise at any point.
* **`Fenced`** — nothing is written for a sealed session, and what was queued before the seal has
  been handled.
* **`Mirrors`** — the lists of a summary, also of one in its file, are the events written since its
  state was made.
-/

namespace NexusN3.Storage.SessionDiagnostics

open Lib

set_option linter.unusedSectionVars false

abbrev Place := List String

/-! ## The summary -/

mutual

/-- `_merge_summary(target, updates)`. -/
def mergeSummary (target : Fields) : Fields → Fields
  | [] => target
  | (key, value) :: updates =>
    mergeSummary (Value.setField key (mergeValue (target.lookup key) value) target) updates

/-- What the merge puts under a key that holds `old`. -/
def mergeValue (old : Option Value) : Value → Value
  | .obj updates =>
    match old with
    | some (.obj target) => .obj (mergeSummary target updates)
    | _ => .obj updates
  | value => value

end

/-- A line of the events file. -/
structure Record where
  timestamp : String
  type : String
  payload : Fields

def Record.json (r : Record) : Value :=
  .obj [("timestamp", .str r.timestamp), ("type", .str r.type), ("payload", .obj r.payload)]

/-- A text that may be `None`. -/
def textOrNull (text : Option String) : Value := (text.map Value.str).getD .null

/-- `summary.setdefault(key, []).append(record)`; what is no list has no `append`. -/
def pushRecord (key : String) (r : Record) (summary : Fields) : Option Fields :=
  match summary.lookup key with
  | none => some (Value.setField key (.arr [r.json]) summary)
  | some (.arr items) => some (Value.setField key (.arr (items ++ [r.json])) summary)
  | some _ => none

/-- `event_type.startswith("stream_")`. -/
def Record.isStream (r : Record) : Bool := "stream_".toList.isPrefixOf r.type.toList

/-- What `append_session_diagnostics_event` notes of a record that it has written, and whether that
raises. -/
def noteRecord (r : Record) (summary : Fields) : Fields × Bool :=
  let seen := Value.setField "last_updated_at" (.str r.timestamp) summary
  let (noted, pushed) :=
    if r.isStream then
      let status := Value.getD r.payload "phase" (Value.get seen "status")
      let phased := Value.setField "status" status seen
      (phased, pushRecord "lifecycle_events" r phased)
    else if r.type = "sensor_diagnostics" then
      (seen, (pushRecord "gateway_diagnostics" r seen).map
        (Value.setField "latest_gateway_diagnostics" (.obj r.payload)))
    else if r.type = "error" then (seen, pushRecord "errors" r seen)
    else (seen, some seen)
  match pushed with
  | some summary => (summary, false)
  | none => (noted, true)

/-! ## The state -/

/-- `_session_diagnostics_state`, when it is not empty. -/
structure Artifact where
  session : String
  summaryPath : Place
  eventsPath : Place
  summary : Fields
  /-- how much had been done on the disk when the state was made -/
  since : Nat

inductive Effect where
  | mkdir (dir : Place)
  /-- a record appended to the events file -/
  | event (path : Place) (r : Record)
  /-- an operation that raised, with any part of its text in the file -/
  | torn (path : Place)
  /-- the summary of a state, written to its file -/
  | summary (a : Artifact)

/-- What was done on the disk, for which session, and the sessions sealed by then. -/
structure Write where
  session : String
  effect : Effect
  sealed : List String

/-- What a method does after `start_session_diagnostics(session_index)`. -/
inductive Call where
  | start (metadata : Fields)
  | append (type : String) (payload : Fields)
  | update (updates : Fields)
  | finalize (status : String) (reason : Option String) (updates : Fields)

/-- The dictionary that the call merges into the summary. -/
def Call.merged : Call → Fields
  | .start metadata => metadata
  | .append _ _ => []
  | .update updates => updates
  | .finalize _ _ updates => updates

/-- Where a thread stands. -/
inductive Phase where
  | idle
  /-- before the section of `start_session_diagnostics` -/
  | opening (session : Option String) (c : Call)
  /-- before the method's own section -/
  | closing (session : Option String) (c : Call)
  /-- `finish_session_diagnostics` waits for the queue; how many events were queued when it came -/
  | joining (session : String) (queued : Nat)
  | sealing (session : String) (queued : Nat)

/-- How the disk answers within one section. -/
structure Disk where
  mkdir : Bool
  /-- the session's directory or the summary is there -/
  present : Bool
  /-- the events file takes the record -/
  append : Bool
  /-- the summary is written -/
  write : Bool
  /-- `str(session_dir.resolve())` -/
  resolved : String

structure State (Thread : Type) where
  files : FileManager
  nodeId : String
  state : Option Artifact
  /-- `_finalized_diagnostics_sessions` -/
  finalized : List String
  queue : TaskQueue (String × String × Fields)
  /-- `none` is the writer thread -/
  phase : Option Thread → Phase
  disk : List Write
  /-- how many events have been queued, and how many of them the writer is done with -/
  queued : Nat
  handled : Nat

inductive Action (Thread : Type) where
  | setSessionLabel (label : Option String)
  | setBasePath (path : Place)
  | enqueue (session : Option String) (type : String) (payload : Fields)
  | call (t : Thread) (session : Option String) (c : Call)
  /-- the section of `start_session_diagnostics` -/
  | opened (t : Option Thread) (now : String) (d : Disk)
  | closed (t : Option Thread) (now : String) (d : Disk)
  | get
  | finish (t : Thread) (session : Option String)
  /-- `self._session_diagnostics_queue.join()` returns -/
  | joined (t : Thread)
  | sealed (t : Thread)

namespace State

variable {Thread : Type} [DecidableEq Thread]

def put (s : State Thread) (t : Option Thread) (phase : Phase) : State Thread :=
  { s with phase := Function.update s.phase t phase }

/-- An effect on the disk, on the way of a report for `session`. -/
def write (s : State Thread) (session : String) (e : Effect) : State Thread :=
  { s with disk := s.disk ++ [⟨session, e, s.finalized⟩] }

/-- The summary of the current state, changed. -/
def setSummary (s : State Thread) (a : Artifact) (summary : Fields) : State Thread :=
  { s with state := some { a with summary := summary } }

/-- `_write_session_diagnostics_summary_locked`, and whether it raises. -/
def writeSummary (s : State Thread) (d : Disk) : State Thread × Bool :=
  match s.state with
  | none => (s, false)
  | some a =>
    if !d.present then (s, false)
    else if d.write then (s.write a.session (.summary a), false)
    else (s.write a.session (.torn a.summaryPath), true)

/-- The summary of a state made anew. -/
def newSummary (s : State Thread) (ts now resolved : String) : Fields :=
  [("site", .str s.files.site), ("node_id", .str s.nodeId),
    ("session_label", textOrNull s.files.sessionName),
    ("session_name", textOrNull s.files.sessionName),
    ("session_timestamp", .str ts), ("session_dir", .str resolved),
    ("status", .str "starting"), ("started_at", .str now), ("last_updated_at", .str now),
    ("lifecycle_events", .arr []), ("gateway_diagnostics", .arr []), ("errors", .arr [])]

/-- The state for `ts`: the one there is, or one made anew. -/
def artifactFor (s : State Thread) (ts : String) (dir : Place) (now : String) (d : Disk) :
    Artifact :=
  let made : Artifact :=
    { session := ts
      summaryPath := Path.join dir "session_diagnostics.json"
      eventsPath := Path.join dir "session_diagnostics.jsonl"
      summary := s.newSummary ts now d.resolved
      since := s.disk.length }
  match s.state with
  | none => made
  | some a => if a.session = ts then a else made

/-- `start_session_diagnostics`, and whether it raises. -/
def startSection (s : State Thread) (session : Option String) (metadata : Fields) (now : String)
    (d : Disk) : State Thread × Bool :=
  match session.filter (· ≠ "") with
  | none => (s, false)
  | some ts =>
    match s.files.diagnosticsDir s.nodeId ts with
    | none => (s, false)
    | some dir =>
      if ts ∈ s.finalized then (s, false)
      else if !d.mkdir then (s, true)
      else
        let s := s.write ts (.mkdir dir)
        let a := s.artifactFor ts dir now d
        let merged := mergeSummary a.summary metadata
        (s.setSummary a (Value.setField "last_updated_at" (.str now) merged)).writeSummary d

/-- `str(session_index)`. -/
def sessionText (session : Option String) : String := session.getD "None"

/-- The section of the method itself, and whether it raises. -/
def ownSection (s : State Thread) (session : Option String) (c : Call) (now : String) (d : Disk) :
    State Thread × Bool :=
  match s.state with
  | none => (s, false)
  | some a =>
    -- another session's state, or a sealed one
    if a.session ≠ sessionText session then (s, false)
    else
      match c with
      | .start _ => (s, false)
      | .append type payload =>
        if !d.append then (s.write a.session (.torn a.eventsPath), true)
        else
          let r : Record := ⟨now, type, payload⟩
          let (summary, raised) := noteRecord r a.summary
          let s := (s.write a.session (.event a.eventsPath r)).setSummary a summary
          if raised then (s, true) else s.writeSummary d
      | .update updates =>
        let merged := mergeSummary a.summary updates
        (s.setSummary a (Value.setField "last_updated_at" (.str now) merged)).writeSummary d
      | .finalize status reason updates =>
        let stamped := Value.setField "last_updated_at" (.str now)
          (Value.setField "finalized_at" (.str now)
            (Value.setField "status" (.str status) a.summary))
        let reasoned :=
          match reason.filter (· ≠ "") with
          | none => stamped
          | some reason => Value.setField "reason" (.str reason) stamped
        (s.setSummary a (mergeSummary reasoned updates)).writeSummary d

/-- The thread's call ends. The writer reports its event done, whether it raised or not. -/
def leave (s : State Thread) (t : Option Thread) : State Thread :=
  match t with
  | some _ => s.put t .idle
  | none => { s.put t .idle with queue := s.queue.taskDone, handled := s.handled + 1 }

/-- `finish_session_diagnostics`, after the wait. -/
def sealSection (s : State Thread) (session : String) : State Thread :=
  { s with
    finalized := session :: s.finalized
    state := s.state.filter fun a => decide (a.session ≠ session) }

def step : Machine (State Thread) (Action Thread)
  | s, .setSessionLabel label => some { s with files := s.files.setSessionLabel label }
  | s, .setBasePath path => some { s with files := { s.files with baseRoot := path } }
  | s, .enqueue session type payload =>
    match session.filter (· ≠ "") with
    | none => some s
    | some ts =>
      some { s with queue := s.queue.put (ts, type, payload), queued := s.queued + 1 }
  | s, .call t session c =>
    match s.phase (some t) with
    | .idle => some (s.put (some t) (.opening session c))
    | _ => none
  | s, .opened t now d =>
    match s.phase t with
    | .opening session c =>
      let metadata := match c with | .start metadata => metadata | _ => []
      let (s', raised) := s.startSection session metadata now d
      match c, raised with
      | .start _, _ => some (s'.leave t)
      | _, true => some (s'.leave t)
      | _, false => some (s'.put t (.closing session c))
    | _ => none
  | s, .closed t now d =>
    match s.phase t with
    | .closing session c => some ((s.ownSection session c now d).1.leave t)
    | _ => none
  | s, .get =>
    match s.phase none with
    | .idle =>
      match s.queue.get with
      | none => none
      | some queue =>
        match queue.taken with
        | none => none
        | some (session, type, payload) =>
          some ({ s with queue := queue }.put none
            (.opening (some session) (.append type payload)))
    | _ => none
  | s, .finish t session =>
    match s.phase (some t), session.filter (· ≠ "") with
    | .idle, some ts => some (s.put (some t) (.joining ts s.queued))
    | .idle, none => some s
    | _, _ => none
  | s, .joined t =>
    match s.phase (some t) with
    | .joining ts queued =>
      if s.queue.unfinished = 0 then some (s.put (some t) (.sealing ts queued)) else none
    | _ => none
  | s, .sealed t =>
    match s.phase (some t) with
    | .sealing ts _ => some ((s.sealSection ts).put (some t) .idle)
    | _ => none

/-- `FileManager(site, base_dir, node_id)`, as far as diagnostics go. -/
def init (files : FileManager) (nodeId : String) : State Thread where
  files := files
  nodeId := nodeId
  state := none
  finalized := []
  queue := .empty
  phase := fun _ => .idle
  disk := []
  queued := 0
  handled := 0

/-! ## What a section does -/

/-- What one section does on the way of a report for `session`. -/
structure Section (session : String) (s s' : State Thread) : Prop where
  disk : ∃ new, s'.disk = s.disk ++ new ∧ ∀ w ∈ new, w.session = session ∧ w.sealed = s.finalized
  state : s'.state = s.state ∨ ∃ a, s'.state = some a ∧ a.session = session
  finalized : s'.finalized = s.finalized
  queue : s'.queue = s.queue
  phase : s'.phase = s.phase
  queued : s'.queued = s.queued
  handled : s'.handled = s.handled

theorem Section.refl (session : String) (s : State Thread) : Section session s s :=
  ⟨⟨[], by simp, by simp⟩, .inl rfl, rfl, rfl, rfl, rfl, rfl⟩

/-- Two parts of one section. -/
theorem Section.trans {session : String} {s r t : State Thread} (h1 : Section session s r)
    (h2 : Section session r t) : Section session s t := by
  obtain ⟨new1, hdisk1, hnew1⟩ := h1.disk
  obtain ⟨new2, hdisk2, hnew2⟩ := h2.disk
  refine ⟨⟨new1 ++ new2, ?_, ?_⟩, ?_, h2.finalized.trans h1.finalized,
    h2.queue.trans h1.queue, h2.phase.trans h1.phase, h2.queued.trans h1.queued,
    h2.handled.trans h1.handled⟩
  · rw [hdisk2, hdisk1, List.append_assoc]
  · intro w hw
    rcases List.mem_append.mp hw with hold | hnew
    · exact hnew1 w hold
    · rw [← h1.finalized]
      exact hnew2 w hnew
  · rcases h2.state with heq | hset
    · rw [heq]
      exact h1.state
    · exact .inr hset

theorem section_write (session : String) (s : State Thread) (e : Effect) :
    Section session s (s.write session e) :=
  ⟨⟨[_], rfl, by simp⟩, .inl rfl, rfl, rfl, rfl, rfl, rfl⟩

theorem section_setSummary {session : String} (s : State Thread) {a : Artifact} (summary : Fields)
    (ha : a.session = session) : Section session s (s.setSummary a summary) :=
  ⟨⟨[], by simp [setSummary], by simp⟩, .inr ⟨_, rfl, ha⟩, rfl, rfl, rfl, rfl, rfl⟩

/-- The summary is written for the session whose state it is. -/
theorem section_writeSummary {session : String} (s : State Thread) (d : Disk)
    (hstate : ∀ a, s.state = some a → a.session = session) :
    Section session s (s.writeSummary d).1 := by
  unfold writeSummary
  split
  · exact .refl session s
  · rename_i a ha
    split
    · exact .refl session s
    · rw [← hstate a ha]
      split
      · exact section_write a.session s _
      · exact section_write a.session s _

/-- A changed summary, written. -/
theorem section_setSummary_writeSummary {session : String} (s : State Thread) {a : Artifact}
    (summary : Fields) (d : Disk) (ha : a.session = session) :
    Section session s ((s.setSummary a summary).writeSummary d).1 := by
  apply (section_setSummary s summary ha).trans
  apply section_writeSummary
  intro b hb
  cases hb
  exact ha

theorem session_artifactFor (s : State Thread) (ts : String) (dir : Place) (now : String)
    (d : Disk) : (s.artifactFor ts dir now d).session = ts := by
  unfold artifactFor
  dsimp only
  split
  · rfl
  · split
    · assumption
    · rfl

/-- `start_session_diagnostics` works for a session that is not sealed, or does nothing. -/
theorem startSection_cases (s : State Thread) (session : Option String) (metadata : Fields)
    (now : String) (d : Disk) :
    (s.startSection session metadata now d).1 = s ∨
      ∃ ts, ts ∉ s.finalized ∧ Section ts s (s.startSection session metadata now d).1 := by
  unfold startSection
  split
  · exact .inl rfl
  · rename_i ts _
    split
    · exact .inl rfl
    · rename_i dir _
      split
      · exact .inl rfl
      · rename_i hopen
        split
        · exact .inl rfl
        · right
          refine ⟨ts, hopen, ?_⟩
          exact (section_write ts s (.mkdir dir)).trans
            (section_setSummary_writeSummary _ _ d (session_artifactFor _ ts dir now d))

/-- A method's own section works for the session whose state it finds, or does nothing. -/
theorem ownSection_cases (s : State Thread) (session : Option String) (c : Call) (now : String)
    (d : Disk) :
    (s.ownSection session c now d).1 = s ∨
      ∃ a, s.state = some a ∧ Section a.session s (s.ownSection session c now d).1 := by
  unfold ownSection
  split
  · exact .inl rfl
  · rename_i a ha
    split
    · exact .inl rfl
    · right
      refine ⟨a, ha, ?_⟩
      cases c with
      | start metadata => exact .refl a.session s
      | append type payload =>
        dsimp only
        split
        · exact section_write a.session s _
        · have hnoted (summary : Fields) : Section a.session s
              ((s.write a.session (.event a.eventsPath ⟨now, type, payload⟩)).setSummary a
                summary) :=
            (section_write a.session s _).trans (section_setSummary _ summary rfl)
          split
          · exact hnoted _
          · exact (section_write a.session s _).trans
              (section_setSummary_writeSummary _ _ d rfl)
      | update updates => exact section_setSummary_writeSummary s _ d rfl
      | finalize status reason updates => exact section_setSummary_writeSummary s _ d rfl

/-! ## Nothing for a sealed session -/

/-- What is promised of the seal. -/
structure Fenced (s : State Thread) : Prop where
  /-- nothing is done for a session that is sealed -/
  quiet : ∀ w ∈ s.disk, w.session ∉ w.sealed
  /-- the state of a sealed session is gone -/
  detached : ∀ a, s.state = some a → a.session ∉ s.finalized
  /-- the seal comes after the writer has handled what was queued when the session was finished -/
  waited : ∀ t ts n, s.phase (some t) = .sealing ts n → n ≤ s.handled

/-- What every step keeps. -/
structure Kept (s : State Thread) : Prop extends Fenced s where
  counted : s.handled + s.queue.unfinished = s.queued
  joining : ∀ t ts n, s.phase (some t) = .joining ts n → n ≤ s.queued
  working : s.phase none ≠ .idle → s.queue.taken.isSome = true

/-- A phase in which the thread neither waits for the queue nor seals. -/
def Phase.reports : Phase → Bool
  | .joining _ _ => false
  | .sealing _ _ => false
  | _ => true

theorem Kept.put {s : State Thread} (h : Kept s) (t : Option Thread) {phase : Phase}
    (hreports : Phase.reports phase = true)
    (hworking : t = none → phase ≠ .idle → s.queue.taken.isSome = true) :
    Kept (s.put t phase) := by
  refine ⟨⟨h.quiet, h.detached, ?_⟩, h.counted, ?_, ?_⟩
  · intro u ts n hu
    simp only [State.put, Function.update_apply] at hu
    split at hu
    · subst hu
      cases hreports
    · exact h.waited u ts n hu
  · intro u ts n hu
    simp only [State.put, Function.update_apply] at hu
    split at hu
    · subst hu
      cases hreports
    · exact h.joining u ts n hu
  · intro hbusy
    simp only [State.put, Function.update_apply] at hbusy
    split at hbusy
    · rename_i ht
      exact hworking ht.symm hbusy
    · exact h.working hbusy

theorem Kept.of_section {s s' : State Thread} {ts : String} (h : Kept s) (hopen : ts ∉ s.finalized)
    (hsection : Section ts s s') : Kept s' := by
  refine ⟨⟨?_, ?_, ?_⟩, ?_, ?_, ?_⟩
  · obtain ⟨new, hdisk, hnew⟩ := hsection.disk
    intro w hw
    rw [hdisk] at hw
    rcases List.mem_append.mp hw with hold | hadded
    · exact h.quiet w hold
    · obtain ⟨hsession, hsealed⟩ := hnew w hadded
      rw [hsession, hsealed]
      exact hopen
  · intro a ha
    rw [hsection.finalized]
    rcases hsection.state with heq | ⟨b, hb, hsession⟩
    · exact h.detached a (heq ▸ ha)
    · rw [hb] at ha
      cases ha
      rw [hsession]
      exact hopen
  · rw [hsection.phase, hsection.handled]
    exact h.waited
  · rw [hsection.handled, hsection.queue, hsection.queued]
    exact h.counted
  · rw [hsection.phase, hsection.queued]
    exact h.joining
  · rw [hsection.phase, hsection.queue]
    exact h.working

theorem Kept.startSection {s : State Thread} (h : Kept s) (session : Option String)
    (metadata : Fields) (now : String) (d : Disk) :
    Kept (s.startSection session metadata now d).1 := by
  rcases startSection_cases s session metadata now d with heq | ⟨ts, hopen, hsection⟩
  · rw [heq]
    exact h
  · exact h.of_section hopen hsection

theorem Kept.ownSection {s : State Thread} (h : Kept s) (session : Option String) (c : Call)
    (now : String) (d : Disk) : Kept (s.ownSection session c now d).1 := by
  rcases ownSection_cases s session c now d with heq | ⟨a, ha, hsection⟩
  · rw [heq]
    exact h
  · exact h.of_section (h.detached a ha) hsection

/-- The end of a call. The writer's event is one that it has taken. -/
theorem Kept.leave {s : State Thread} (h : Kept s) {t : Option Thread}
    (hbusy : s.phase t ≠ .idle) : Kept (s.leave t) := by
  cases t with
  | some t => exact h.put (some t) rfl (by simp)
  | none =>
    have htaken := h.working hbusy
    have hidle : Kept (s.put none .idle) := h.put none rfl (by simp)
    have hdone := TaskQueue.unfinished_taskDone htaken
    refine ⟨⟨hidle.quiet, hidle.detached, ?_⟩, ?_, hidle.joining, ?_⟩
    · intro u ts n hu
      exact (hidle.waited u ts n hu).trans (Nat.le_succ _)
    · have hcounted := h.counted
      show s.handled + 1 + s.queue.taskDone.unfinished = s.queued
      omega
    · intro hbusy
      simp [State.leave, State.put] at hbusy

/-- How a section leaves the phases: as they were. -/
theorem phase_startSection (s : State Thread) (session : Option String) (metadata : Fields)
    (now : String) (d : Disk) : (s.startSection session metadata now d).1.phase = s.phase := by
  rcases startSection_cases s session metadata now d with heq | ⟨ts, -, hsection⟩
  · rw [heq]
  · exact hsection.phase

theorem phase_ownSection (s : State Thread) (session : Option String) (c : Call) (now : String)
    (d : Disk) : (s.ownSection session c now d).1.phase = s.phase := by
  rcases ownSection_cases s session c now d with heq | ⟨a, -, hsection⟩
  · rw [heq]
  · exact hsection.phase

/-- The queue is empty for the thread that its join lets go. -/
theorem Kept.joined {s : State Thread} (h : Kept s) {t : Thread} {ts : String} {n : Nat}
    (ht : s.phase (some t) = .joining ts n) (hempty : s.queue.unfinished = 0) :
    Kept (s.put (some t) (.sealing ts n)) := by
  refine ⟨⟨h.quiet, h.detached, ?_⟩, h.counted, ?_, ?_⟩
  · intro u ts' n' hu
    simp only [State.put, Function.update_apply] at hu
    split at hu
    · cases hu
      have hqueued := h.joining t ts n ht
      have hcounted := h.counted
      show n ≤ s.handled
      omega
    · exact h.waited u ts' n' hu
  · intro u ts' n' hu
    simp only [State.put, Function.update_apply] at hu
    split at hu
    · cases hu
    · exact h.joining u ts' n' hu
  · intro hbusy
    exact h.working (by simpa [State.put, Function.update_apply] using hbusy)

theorem Kept.sealSection {s : State Thread} (h : Kept s) (ts : String) :
    Kept (s.sealSection ts) := by
  refine ⟨⟨h.quiet, ?_, h.waited⟩, h.counted, h.joining, h.working⟩
  intro a ha
  obtain ⟨ha, hne⟩ := Option.filter_eq_some_iff.mp ha
  intro hmem
  rcases List.mem_cons.mp hmem with heq | hold
  · simp [heq] at hne
  · exact h.detached a ha hold

theorem kept_init (files : FileManager) (nodeId : String) :
    Kept (init files nodeId : State Thread) := by
  refine ⟨⟨?_, ?_, ?_⟩, rfl, ?_, ?_⟩
  · exact fun w hw => (List.not_mem_nil hw).elim
  · intro a ha
    cases ha
  · intro t ts n ht
    cases ht
  · intro t ts n ht
    cases ht
  · exact fun hbusy => absurd rfl hbusy

theorem kept_step {s s' : State Thread} {a : Action Thread} (hstep : step s a = some s')
    (h : Kept s) : Kept s' := by
  cases a with
  | setSessionLabel label | setBasePath path =>
    cases hstep
    exact ⟨⟨h.quiet, h.detached, h.waited⟩, h.counted, h.joining, h.working⟩
  | enqueue session type payload =>
    simp only [step] at hstep
    split at hstep <;> cases hstep
    · exact h
    · refine ⟨⟨h.quiet, h.detached, h.waited⟩, ?_, ?_, h.working⟩
      · show s.handled + (s.queue.unfinished + 1) = s.queued + 1
        have hcounted := h.counted
        omega
      · exact fun t ts n ht => (h.joining t ts n ht).trans (Nat.le_succ _)
  | call t session c =>
    simp only [step] at hstep
    split at hstep <;> cases hstep
    exact h.put (some t) rfl (by simp)
  | opened t now d =>
    simp only [step] at hstep
    split at hstep
    · rename_i session c hphase
      have hbusy : s.phase t ≠ .idle := by rw [hphase]; simp
      have hleave (metadata : Fields) :
          Kept ((s.startSection session metadata now d).1.leave t) := by
        apply (h.startSection session metadata now d).leave
        rw [phase_startSection]
        exact hbusy
      split at hstep <;> cases hstep
      · exact hleave _
      · exact hleave _
      · -- the method goes on to its own section
        refine (h.startSection session _ now d).put t rfl ?_
        rintro rfl -
        apply (h.startSection session _ now d).working
        rw [phase_startSection]
        exact hbusy
    · cases hstep
  | closed t now d =>
    simp only [step] at hstep
    split at hstep <;> cases hstep
    rename_i session c hphase
    apply (h.ownSection session c now d).leave
    rw [phase_ownSection, hphase]
    simp
  | get =>
    simp only [step] at hstep
    split at hstep
    · split at hstep
      · cases hstep
      · rename_i queue hget
        split at hstep <;> cases hstep
        rename_i session type payload htaken
        obtain ⟨hunfinished, hsome⟩ := TaskQueue.unfinished_get hget
        have htook : Kept { s with queue := queue } := by
          refine ⟨⟨h.quiet, h.detached, h.waited⟩, ?_, h.joining, fun _ => hsome⟩
          rw [← h.counted, ← hunfinished]
        exact htook.put none rfl (fun _ _ => hsome)
    · cases hstep
  | finish t session =>
    simp only [step] at hstep
    split at hstep <;> cases hstep
    · rename_i ts hphase hts
      refine ⟨⟨h.quiet, h.detached, ?_⟩, h.counted, ?_, ?_⟩
      · intro u ts' n hu
        simp only [State.put, Function.update_apply] at hu
        split at hu
        · cases hu
        · exact h.waited u ts' n hu
      · intro u ts' n hu
        simp only [State.put, Function.update_apply] at hu
        split at hu
        · cases hu
          exact Nat.le_refl _
        · exact h.joining u ts' n hu
      · intro hbusy
        exact h.working (by simpa [State.put, Function.update_apply] using hbusy)
    · exact h
  | joined t =>
    simp only [step] at hstep
    split at hstep
    · rename_i ts n hphase
      split at hstep <;> cases hstep
      rename_i hempty
      exact h.joined hphase hempty
    · cases hstep
  | sealed t =>
    simp only [step] at hstep
    split at hstep <;> cases hstep
    exact (h.sealSection _).put (some t) rfl (by simp)

theorem kept_of_reach {s : State Thread} {files : FileManager} {nodeId : String}
    (hrun : Machine.Reach step (init files nodeId) s) : Kept s :=
  hrun.invariant (kept_init files nodeId) fun _ _ _ _ hstep => kept_step hstep

/-- **Sealed sessions stay sealed.** Whatever threads report, and whatever operation of the disk
raises, nothing is done for a session that `finish_session_diagnostics` has sealed, and a seal
waits for the events queued before it. -/
theorem reports_fenced {s : State Thread} {files : FileManager} {nodeId : String}
    (hrun : Machine.Reach step (init files nodeId) s) : Fenced s :=
  (kept_of_reach hrun).toFenced

/-- A thread's event is late: the session was finished while the thread was between its two
sections. -/
def lateReport : List (Action Bool) :=
  let d : Disk := ⟨true, true, true, true, "/data/s"⟩
  [.enqueue (some "7") "stream_started" [], .get, .opened none "a" d, .closed none "b" d,
    .call true (some "7") (.append "error" []), .opened (some true) "c" d,
    .finish false (some "7"), .joined false, .sealed false, .closed (some true) "d" d]

theorem reports_fenced_lateReport : ∃ s : State Bool,
    Machine.exec step (init (.new none []) "node") lateReport = some s ∧ Fenced s :=
  ⟨_, rfl, reports_fenced (Machine.reach_of_exec lateReport rfl)⟩

end State

/-! ## The lists and the events file -/

/-- The records that a stretch of the disk's history has put into the events file. -/
def records (ws : List Write) : List Record :=
  ws.filterMap fun w => match w.effect with | .event _ r => some r | _ => none

@[simp] theorem records_append (ws ws' : List Write) :
    records (ws ++ ws') = records ws ++ records ws' :=
  List.filterMap_append

/-- The lists that the summary keeps. -/
inductive Shelf where
  | lifecycle
  | gateway
  | errors
deriving DecidableEq

def Shelf.key : Shelf → String
  | lifecycle => "lifecycle_events"
  | gateway => "gateway_diagnostics"
  | errors => "errors"

/-- The records that go into the list. -/
def Shelf.holds : Shelf → Record → Bool
  | lifecycle, r => r.isStream
  | gateway, r => decide (r.type = "sensor_diagnostics")
  | errors, r => decide (r.type = "error")

theorem Shelf.key_injective : Function.Injective Shelf.key := by
  intro shelf other
  cases shelf <;> cases other <;> decide

/-- A record goes into one list at most. -/
theorem Shelf.holds_unique {shelf other : Shelf} {r : Record} (hshelf : shelf.holds r = true)
    (hother : other.holds r = true) : shelf = other := by
  have hgateway : r.type = "sensor_diagnostics" → r.isStream = false := by
    intro htype
    rw [Record.isStream, htype]
    decide
  have herrors : r.type = "error" → r.isStream = false := by
    intro htype
    rw [Record.isStream, htype]
    decide
  cases shelf <;> cases other <;> simp_all [Shelf.holds]

/-- The keys under which `append_session_diagnostics_event` keeps what it has written. The last one
shares its dictionary with a record, so a merge into it would change the record too. -/
def ownKeys : List String :=
  ["lifecycle_events", "gateway_diagnostics", "errors", "latest_gateway_diagnostics"]

theorem Shelf.key_mem (shelf : Shelf) : shelf.key ∈ ownKeys := by
  cases shelf <;> decide

/-- The call merges nothing under those keys. -/
def Call.plain (c : Call) : Bool := ownKeys.all fun key => (c.merged.lookup key).isNone

/-- What the thread is to merge. -/
def Phase.plain : Phase → Bool
  | .opening _ c => c.plain
  | .closing _ c => c.plain
  | _ => true

def Action.plain {Thread : Type} : Action Thread → Bool
  | .call _ _ c => c.plain
  | _ => true

/-- The summary's lists are the records, each in the list of its type. -/
def Mirrored (rs : List Record) (summary : Fields) : Prop :=
  ∀ shelf : Shelf, summary.lookup shelf.key = some (.arr ((rs.filter shelf.holds).map Record.json))

theorem Mirrored.setField {rs : List Record} {summary : Fields} (h : Mirrored rs summary)
    {key : String} (value : Value) (hkey : ∀ shelf : Shelf, key ≠ shelf.key) :
    Mirrored rs (Value.setField key value summary) := by
  intro shelf
  rw [Value.lookup_setField, if_neg (hkey shelf)]
  exact h shelf

/-- A merge leaves a key that it does not name. Induction on what is merged. -/
theorem lookup_mergeSummary {key : String} {target updates : Fields}
    (hkey : updates.lookup key = none) :
    (mergeSummary target updates).lookup key = target.lookup key := by
  induction updates generalizing target with
  | nil => rw [mergeSummary]
  | cons update updates ih =>
    obtain ⟨k, value⟩ := update
    rw [List.lookup_cons] at hkey
    split at hkey
    · cases hkey
    · rename_i hne
      rw [mergeSummary, ih hkey, Value.lookup_setField, if_neg]
      intro heq
      simp [heq] at hne

theorem Mirrored.mergeSummary {rs : List Record} {summary : Fields} (h : Mirrored rs summary)
    {c : Call} (hplain : c.plain = true) : Mirrored rs (mergeSummary summary c.merged) := by
  intro shelf
  have hkey := List.all_eq_true.mp hplain shelf.key shelf.key_mem
  rw [lookup_mergeSummary (Option.isNone_iff_eq_none.mp hkey)]
  exact h shelf

/-- A record put into its list. -/
theorem Mirrored.push {rs : List Record} {summary : Fields} (h : Mirrored rs summary)
    {shelf : Shelf} {r : Record} (hholds : shelf.holds r = true) :
    ∃ summary', pushRecord shelf.key r summary = some summary' ∧ Mirrored (rs ++ [r]) summary' := by
  refine ⟨_, by rw [pushRecord, h shelf], ?_⟩
  intro other
  rw [Value.lookup_setField, List.filter_append]
  by_cases hother : shelf = other
  · subst hother
    simp [hholds]
  · have hnot : other.holds r = false := by
      by_contra hyes
      exact hother (Shelf.holds_unique hholds (by simpa using hyes))
    rw [if_neg (Shelf.key_injective.ne hother), h other]
    simp [hnot]

/-- A record of no list. -/
theorem Mirrored.skip {rs : List Record} {summary : Fields} (h : Mirrored rs summary) {r : Record}
    (hnone : ∀ shelf : Shelf, shelf.holds r = false) : Mirrored (rs ++ [r]) summary := by
  intro shelf
  rw [List.filter_append, h shelf]
  simp [hnone shelf]

/-- **A record is noted where it belongs**, and without a raise. -/
theorem Mirrored.noteRecord {rs : List Record} {summary : Fields} (h : Mirrored rs summary)
    (r : Record) :
    (noteRecord r summary).2 = false ∧ Mirrored (rs ++ [r]) (noteRecord r summary).1 := by
  have hseen : Mirrored rs (Value.setField "last_updated_at" (.str r.timestamp) summary) := by
    apply h.setField
    intro shelf
    cases shelf <;> decide
  unfold SessionDiagnostics.noteRecord
  dsimp only
  by_cases hstream : r.isStream = true
  · have hphased : Mirrored rs (Value.setField "status" (Value.getD r.payload "phase" (Value.get
        (Value.setField "last_updated_at" (.str r.timestamp) summary) "status"))
        (Value.setField "last_updated_at" (.str r.timestamp) summary)) := by
      apply hseen.setField
      intro shelf
      cases shelf <;> decide
    have hholds : Shelf.lifecycle.holds r = true := hstream
    obtain ⟨summary', hpush, hmirrored⟩ := hphased.push hholds
    rw [Shelf.key] at hpush
    simp only [if_pos hstream, hpush]
    exact ⟨trivial, hmirrored⟩
  · simp only [if_neg hstream]
    by_cases hgateway : r.type = "sensor_diagnostics"
    · have hholds : Shelf.gateway.holds r = true := decide_eq_true hgateway
      obtain ⟨summary', hpush, hmirrored⟩ := hseen.push hholds
      rw [Shelf.key] at hpush
      simp only [if_pos hgateway, hpush, Option.map_some]
      refine ⟨trivial, hmirrored.setField _ ?_⟩
      intro shelf
      cases shelf <;> decide
    · simp only [if_neg hgateway]
      by_cases herror : r.type = "error"
      · have hholds : Shelf.errors.holds r = true := decide_eq_true herror
        obtain ⟨summary', hpush, hmirrored⟩ := hseen.push hholds
        rw [Shelf.key] at hpush
        simp only [if_pos herror, hpush]
        exact ⟨trivial, hmirrored⟩
      · simp only [if_neg herror]
        refine ⟨trivial, hseen.skip ?_⟩
        intro shelf
        cases shelf with
        | lifecycle => simpa [Shelf.holds] using hstream
        | gateway => simpa [Shelf.holds] using hgateway
        | errors => simpa [Shelf.holds] using herror

/-- The artifact is true to what `ws` has put into its events file since it was made. -/
structure Artifact.Faithful (a : Artifact) (ws : List Write) : Prop where
  since : a.since ≤ ws.length
  /-- all of it is the artifact's session's -/
  own : ∀ w ∈ ws.drop a.since, w.session = a.session
  path : ∀ w ∈ ws.drop a.since, ∀ path r, w.effect = .event path r → path = a.eventsPath
  mirrored : Mirrored (records (ws.drop a.since)) a.summary

namespace Artifact

variable {a : Artifact} {ws : List Write}

theorem Faithful.setSummary (h : a.Faithful ws) {summary : Fields}
    (hmirrored : Mirrored (records (ws.drop a.since)) a.summary →
      Mirrored (records (ws.drop a.since)) summary) :
    Faithful { a with summary := summary } ws :=
  ⟨h.since, h.own, h.path, hmirrored h.mirrored⟩

/-- An effect that is no record. -/
theorem Faithful.snoc (h : a.Faithful ws) {w : Write} (hown : w.session = a.session)
    (hevent : ∀ path r, w.effect ≠ .event path r) : a.Faithful (ws ++ [w]) := by
  have hdrop : (ws ++ [w]).drop a.since = ws.drop a.since ++ [w] :=
    List.drop_append_of_le_length h.since
  refine ⟨?_, ?_, ?_, ?_⟩
  · rw [List.length_append]
    exact h.since.trans (Nat.le_add_right _ _)
  · rw [hdrop]
    intro v hv
    rcases List.mem_append.mp hv with hold | hnew
    · exact h.own v hold
    · rw [List.mem_singleton.mp hnew]
      exact hown
  · rw [hdrop]
    intro v hv path r heffect
    rcases List.mem_append.mp hv with hold | hnew
    · exact h.path v hold path r heffect
    · rw [List.mem_singleton.mp hnew] at heffect
      exact absurd heffect (hevent path r)
  · have hnone : records [w] = [] := by
      cases heffect : w.effect with
      | event path r => exact absurd heffect (hevent path r)
      | mkdir dir | torn path | summary b => simp [records, heffect]
    rw [hdrop, records_append, hnone, List.append_nil]
    exact h.mirrored

/-- A record, noted in the summary. -/
theorem Faithful.event (h : a.Faithful ws) (r : Record) (sealed : List String) {summary : Fields}
    (hnoted : Mirrored (records (ws.drop a.since) ++ [r]) summary) :
    Faithful { a with summary := summary }
      (ws ++ [⟨a.session, .event a.eventsPath r, sealed⟩]) := by
  have hdrop : (ws ++ [(⟨a.session, .event a.eventsPath r, sealed⟩ : Write)]).drop a.since =
      ws.drop a.since ++ [⟨a.session, .event a.eventsPath r, sealed⟩] :=
    List.drop_append_of_le_length h.since
  refine ⟨?_, ?_, ?_, ?_⟩
  · rw [List.length_append]
    exact h.since.trans (Nat.le_add_right _ _)
  · intro v hv
    rw [show List.drop _ _ = _ from hdrop] at hv
    rcases List.mem_append.mp hv with hold | hnew
    · exact h.own v hold
    · rw [List.mem_singleton.mp hnew]
  · intro v hv path r' heffect
    rw [show List.drop _ _ = _ from hdrop] at hv
    rcases List.mem_append.mp hv with hold | hnew
    · exact h.path v hold path r' heffect
    · rw [List.mem_singleton.mp hnew] at heffect
      cases heffect
      rfl
  · show Mirrored (records (List.drop a.since _)) summary
    rw [hdrop, records_append]
    exact hnoted

end Artifact

/-- Every summary was true to the events file when it was written to its own. -/
def Written (ws : List Write) : Prop :=
  ∀ (n : Nat) (w : Write) (a : Artifact), ws[n]? = some w → w.effect = .summary a →
    a.Faithful (ws.take n)

theorem Written.snoc {ws : List Write} {w : Write} (h : Written ws)
    (hw : ∀ a, w.effect = .summary a → a.Faithful ws) : Written (ws ++ [w]) := by
  intro n v a hv heffect
  rcases Nat.lt_or_ge n ws.length with hn | hn
  · rw [List.getElem?_append_left hn] at hv
    rw [List.take_append_of_le_length hn.le]
    exact h n v a hv heffect
  · have hlast : n = ws.length := by
      have hlt := (List.getElem?_eq_some_iff.mp hv).1
      simp only [List.length_append, List.length_singleton] at hlt
      omega
    subst hlast
    rw [List.getElem?_concat_length] at hv
    cases hv
    rw [List.take_left]
    exact hw a heffect

namespace State

variable {Thread : Type} [DecidableEq Thread]

/-- The state's summary, and every summary in its file, is true to the events file. -/
structure Mirrors (s : State Thread) : Prop where
  current : ∀ a, s.state = some a → a.Faithful s.disk
  written : Written s.disk

/-- The state holds a summary that is true. -/
theorem mirrors_setSummary {s : State Thread} {a : Artifact} {summary : Fields}
    (hwritten : Written s.disk)
    (hfaithful : Artifact.Faithful { a with summary := summary } s.disk) :
    Mirrors (s.setSummary a summary) := by
  refine ⟨?_, hwritten⟩
  intro b hb
  cases hb
  exact hfaithful

theorem Mirrors.writeSummary {s : State Thread} (h : Mirrors s) (d : Disk) :
    Mirrors (s.writeSummary d).1 := by
  unfold State.writeSummary
  split
  · exact h
  · rename_i a ha
    have hfaithful := h.current a ha
    have hkeep (e : Effect) (hevent : ∀ path r, e ≠ .event path r)
        (hsummary : ∀ b, e = .summary b → b.Faithful s.disk) : Mirrors (s.write a.session e) := by
      refine ⟨?_, h.written.snoc hsummary⟩
      intro b hb
      rw [show s.state = some b from hb] at ha
      cases ha
      exact hfaithful.snoc rfl hevent
    split
    · exact h
    · split
      · apply hkeep
        · intro path r heq
          cases heq
        · intro b heq
          cases heq
          exact hfaithful
      · apply hkeep
        · intro path r heq
          cases heq
        · intro b heq
          cases heq

/-- The summary of a state made anew has nothing in its lists. -/
theorem mirrored_newSummary (s : State Thread) (ts now resolved : String) :
    Mirrored [] (s.newSummary ts now resolved) := by
  intro shelf
  cases shelf <;> rfl

/-- The state that `start_session_diagnostics` goes on with, made anew or not. -/
theorem faithful_artifactFor {s : State Thread} (h : Mirrors s) (ts : String) (dir : Place)
    (now : String) (d : Disk) :
    (artifactFor (s.write ts (.mkdir dir)) ts dir now d).Faithful
      (s.write ts (.mkdir dir)).disk := by
  have hmade : Artifact.Faithful
      { session := ts
        summaryPath := Path.join dir "session_diagnostics.json"
        eventsPath := Path.join dir "session_diagnostics.jsonl"
        summary := (s.write ts (.mkdir dir)).newSummary ts now d.resolved
        since := (s.write ts (.mkdir dir)).disk.length } (s.write ts (.mkdir dir)).disk := by
    refine ⟨Nat.le_refl _, ?_, ?_, ?_⟩
    · simp
    · simp
    · simp only [List.drop_length]
      exact mirrored_newSummary _ ts now d.resolved
  unfold artifactFor
  dsimp only
  split
  · exact hmade
  · rename_i a ha
    split
    · rename_i hsession
      apply (h.current a ha).snoc hsession.symm
      intro path r heq
      cases heq
    · exact hmade

theorem Mirrors.startSection {s : State Thread} (h : Mirrors s) (session : Option String)
    {c : Call} (hplain : c.plain = true) (now : String) (d : Disk) :
    Mirrors (s.startSection session c.merged now d).1 := by
  unfold State.startSection
  split
  · exact h
  · rename_i ts _
    split
    · exact h
    · rename_i dir _
      split
      · exact h
      · split
        · exact h
        · apply Mirrors.writeSummary
          apply mirrors_setSummary
          · apply h.written.snoc
            intro a heq
            cases heq
          · apply (faithful_artifactFor h ts dir now d).setSummary
            intro hmirrored
            apply (hmirrored.mergeSummary hplain).setField
            intro shelf
            cases shelf <;> decide

theorem Mirrors.ownSection {s : State Thread} (h : Mirrors s) (session : Option String) {c : Call}
    (hplain : c.plain = true) (now : String) (d : Disk) :
    Mirrors (s.ownSection session c now d).1 := by
  unfold State.ownSection
  split
  · exact h
  · rename_i a ha
    have hfaithful := h.current a ha
    split
    · exact h
    · cases c with
      | start metadata => exact h
      | append type payload =>
        dsimp only
        split
        · refine ⟨?_, ?_⟩
          · intro b hb
            rw [show s.state = some b from hb] at ha
            cases ha
            apply hfaithful.snoc rfl
            intro path r heq
            cases heq
          · apply h.written.snoc
            intro b heq
            cases heq
        · obtain ⟨hraised, hnoted⟩ := hfaithful.mirrored.noteRecord ⟨now, type, payload⟩
          rw [if_neg (by simp [hraised])]
          apply Mirrors.writeSummary
          apply mirrors_setSummary
          · apply h.written.snoc
            intro b heq
            cases heq
          · exact hfaithful.event _ s.finalized hnoted
      | update updates =>
        apply Mirrors.writeSummary
        apply mirrors_setSummary h.written
        apply hfaithful.setSummary
        intro hmirrored
        apply (hmirrored.mergeSummary hplain).setField
        intro shelf
        cases shelf <;> decide
      | finalize status reason updates =>
        apply Mirrors.writeSummary
        apply mirrors_setSummary h.written
        apply hfaithful.setSummary
        intro hmirrored
        have hother (key : String) (hkey : key ∉ ownKeys) : ∀ shelf : Shelf, key ≠ shelf.key := by
          rintro shelf rfl
          exact hkey shelf.key_mem
        refine Mirrored.mergeSummary ?_ hplain
        have hstamped := ((hmirrored.setField (.str status) (hother "status" (by decide))).setField
          (.str now) (hother "finalized_at" (by decide))).setField (.str now)
          (hother "last_updated_at" (by decide))
        split
        · exact hstamped
        · exact hstamped.setField _ (hother "reason" (by decide))

/-- What the step keeps. -/
structure Mirroring (s : State Thread) : Prop where
  mirrors : Mirrors s
  plain : ∀ t, (s.phase t).plain = true

theorem Mirroring.put {s : State Thread} (h : Mirroring s) (t : Option Thread) {phase : Phase}
    (hphase : phase.plain = true) : Mirroring (s.put t phase) := by
  refine ⟨⟨h.mirrors.current, h.mirrors.written⟩, ?_⟩
  intro u
  simp only [State.put, Function.update_apply]
  split
  · exact hphase
  · exact h.plain u

theorem Mirroring.leave {s : State Thread} (h : Mirroring s) (t : Option Thread) :
    Mirroring (s.leave t) := by
  cases t with
  | some t => exact h.put (some t) rfl
  | none =>
    have hidle : Mirroring (s.put none .idle) := h.put none rfl
    exact ⟨⟨hidle.mirrors.current, hidle.mirrors.written⟩, hidle.plain⟩

theorem Mirroring.startSection {s : State Thread} (h : Mirroring s) (session : Option String)
    {c : Call} (hplain : c.plain = true) (now : String) (d : Disk) :
    Mirroring (s.startSection session c.merged now d).1 := by
  refine ⟨h.mirrors.startSection session hplain now d, ?_⟩
  rw [phase_startSection]
  exact h.plain

theorem mirroring_step {s s' : State Thread} {a : Action Thread} (hok : a.plain = true)
    (hstep : step s a = some s') (h : Mirroring s) : Mirroring s' := by
  cases a with
  | setSessionLabel label | setBasePath path =>
    cases hstep
    exact ⟨⟨h.mirrors.current, h.mirrors.written⟩, h.plain⟩
  | enqueue session type payload =>
    simp only [step] at hstep
    split at hstep <;> cases hstep
    · exact h
    · exact ⟨⟨h.mirrors.current, h.mirrors.written⟩, h.plain⟩
  | call t session c =>
    simp only [step] at hstep
    split at hstep <;> cases hstep
    exact h.put (some t) hok
  | opened t now d =>
    simp only [step] at hstep
    split at hstep
    · rename_i session c hphase
      have hplain : c.plain = true := by
        have hopening := h.plain t
        rw [hphase] at hopening
        exact hopening
      have hbare := h.startSection session (show Call.plain (.append "" []) = true from rfl) now d
      split at hstep <;> cases hstep
      · exact (h.startSection session hplain now d).leave t
      · apply Mirroring.leave
        split
        · exact h.startSection session hplain now d
        · exact hbare
      · refine Mirroring.put ?_ t (show Phase.plain (.closing session _) = true from hplain)
        split
        · exact h.startSection session hplain now d
        · exact hbare
    · cases hstep
  | closed t now d =>
    simp only [step] at hstep
    split at hstep <;> cases hstep
    rename_i session c hphase
    have hplain : c.plain = true := by
      have hclosing := h.plain t
      rw [hphase] at hclosing
      exact hclosing
    apply Mirroring.leave
    refine ⟨h.mirrors.ownSection session hplain now d, ?_⟩
    rw [phase_ownSection]
    exact h.plain
  | get =>
    simp only [step] at hstep
    split at hstep
    · split at hstep
      · cases hstep
      · rename_i queue _
        split at hstep <;> cases hstep
        have htook : Mirroring { s with queue := queue } :=
          ⟨⟨h.mirrors.current, h.mirrors.written⟩, h.plain⟩
        exact htook.put none rfl
    · cases hstep
  | finish t session =>
    simp only [step] at hstep
    split at hstep <;> cases hstep
    · exact h.put (some t) rfl
    · exact h
  | joined t =>
    simp only [step] at hstep
    split at hstep
    · split at hstep <;> cases hstep
      exact h.put (some t) rfl
    · cases hstep
  | sealed t =>
    simp only [step] at hstep
    split at hstep <;> cases hstep
    rename_i ts _ _
    have hsealed : Mirroring (s.sealSection ts) := by
      refine ⟨⟨?_, h.mirrors.written⟩, h.plain⟩
      intro a ha
      exact h.mirrors.current a (Option.filter_eq_some_iff.mp ha).1
    exact hsealed.put (some t) rfl

/-- **The summary mirrors the events file.** Whatever threads report, and whatever operation of the
disk raises: while nobody merges under the keys that the diagnostics keep themselves, every summary
that is written has in its lists the events that the session's file has had since the state was
made, each in the list of its type and in the file's order. -/
theorem summary_mirrors {s : State Thread} {files : FileManager} {nodeId : String}
    (hrun : Machine.Run step (fun _ a => a.plain = true) (init files nodeId) s) : Mirrors s := by
  have hinit : Mirroring (init files nodeId : State Thread) := by
    refine ⟨⟨?_, ?_⟩, fun _ => rfl⟩
    · intro a ha
      cases ha
    · intro n w a hw
      cases hw
  exact (hrun.invariant hinit fun _ _ _ hok hstep => mirroring_step hok hstep).mirrors

theorem summary_mirrors_lateReport : ∃ s : State Bool,
    Machine.execOk step (fun _ a => a.plain = true) (init (.new none []) "node") lateReport =
      some s ∧ Mirrors s :=
  ⟨_, rfl, summary_mirrors (.of_execOk lateReport rfl)⟩

end State

end NexusN3.Storage.SessionDiagnostics
