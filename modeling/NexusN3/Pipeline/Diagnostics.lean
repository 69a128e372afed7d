import NexusN3.Lib.Unwinding
import NexusN3.Lib.Dict
import NexusN3.Lib.Path
import NexusN3.Lib.TaskQueue

/-!
# Pipeline diagnostics

Producers, a snapshot thread, a writer thread and the stop path share one queue of records and one
output path. Every method first looks whether diagnostics are enabled and only then takes the lock,
so a call is a step that enters it, a step under the lock, and for some a wait.

* **`Diagnostics.step`** — the methods cut where another thread may come in, and the writer.
* **`Kept`** — what every step keeps, failed writes and disabled calls included.
* **`Sound`** — ended sessions are detached and drained, what was written went where it belonged,
  and the writer still serves the joins.
* **`keepsSound`** — the condition on one step.
* **`sound_iff`** — an interleaving is sound all along exactly when every step meets it.
-/

namespace NexusN3.Pipeline

open Lib

/-- A resolved path, as the names from the root. -/
abbrev Place := List String

structure SessionMeta where
  site : Option String
  nodeId : String
  sessionLabel : Option String
  sessionTimestamp : Option String
  /-- `session_dir`, resolved -/
  sessionDir : Place
  deriving DecidableEq

/-- `session_path / f"\x7bnode_id\x7d-diagnostics" / "pipeline_debug.ndjson"`. -/
def SessionMeta.outputPath (m : SessionMeta) : Place :=
  Path.join m.sessionDir (m.nodeId ++ "-diagnostics") ++ ["pipeline_debug.ndjson"]

/-- The keyword arguments of `record_event`. -/
inductive Payload (Value : Type) where
  | fields (fields : List (String × Value))
  /-- `**self._session_meta` -/
  | sessionMeta (m : Option SessionMeta)

inductive Record (Value : Type) where
  | event (type : String) (sessionMeta : Option SessionMeta) (payload : Payload Value)
  | snapshot (sessionMeta : Option SessionMeta) (address : String)
      (sensorMeta : Dict String Value) (counters : Dict String Int) (rawQueueDepth : Int)

/-- An item of `_records`, with the output path that was current when it was put. -/
structure Entry (Value : Type) where
  path : Place
  record : Record Value
  current : Option Place

/-- A line appended to a file, with the sessions that had ended by then. -/
structure Line (Value : Type) where
  entry : Entry Value
  ended : List Place

inductive Call (Value : Type) where
  | startSession (m : SessionMeta)
  | registerSensor (address : Option String) (metadata : List (String × Option Value))
  | increment (address : Option String) (counter : String) (amount : Int)
      (metadata : List (String × Option Value))
  | setQueueDepth (depth : Int)
  | recordEvent (type : String) (payload : Payload Value)
  | flush
  | finishSession
  | enqueueSnapshots

/-- Where a thread stands. -/
inductive Phase (Value : Type) where
  | idle
  /-- the call has seen diagnostics enabled -/
  | entered (c : Call Value)
  /-- `start_session` is about to make the directory -/
  | making
  /-- the wait for the queue, and the session that this call ends -/
  | joining (ends : Option Place)

/-- The session is named again, so the call no longer ends it. -/
def Phase.forget {Value : Type} (p : Place) : Phase Value → Phase Value
  | .joining ends => .joining (if ends = some p then none else ends)
  | phase => phase

structure Diagnostics (Thread Value : Type) where
  enabled : Bool
  records : TaskQueue (Entry Value)
  outputPath : Option Place
  sessionKey : Option Place
  sessionMeta : Option SessionMeta
  sensorMeta : Dict String (Dict String Value)
  counters : Dict String (Dict String Int)
  queueDepth : Int
  /-- the writer thread has not died of an exception -/
  writerAlive : Bool
  phase : Thread → Phase Value
  written : List (Line Value)
  /-- the output paths of the sessions that have ended and were not named since -/
  ended : List Place

inductive Action (Thread Value : Type) where
  | setEnabled (enabled : Bool)
  /-- a method is called and looks whether diagnostics are enabled -/
  | call (t : Thread) (c : Call Value)
  /-- its section under the lock -/
  | locked (t : Thread)
  /-- `output_path.parent.mkdir` of `start_session` returns, or raises -/
  | mkdir (t : Thread) (made : Bool)
  /-- `self._records.join()` returns -/
  | joined (t : Thread)
  /-- the writer's `self._records.get()` returns -/
  | get
  /-- the writer appends the record it has, or raises in the attempt -/
  | write (ok : Bool)

namespace Diagnostics

set_option linter.unusedSectionVars false

variable {Thread Value : Type} [DecidableEq Thread]

def put (s : Diagnostics Thread Value) (t : Thread) (phase : Phase Value) :
    Diagnostics Thread Value :=
  { s with phase := Function.update s.phase t phase }

/-- `start_session` names a session: it has not ended any more. -/
def name (s : Diagnostics Thread Value) (p : Place) : Diagnostics Thread Value :=
  { s with
    ended := s.ended.filter fun q => decide (q ≠ p)
    phase := fun t => (s.phase t).forget p }

/-- `self._records.put((output_path, record))` for each record. -/
def enqueue (s : Diagnostics Thread Value) (p : Place) (records : List (Record Value)) :
    Diagnostics Thread Value :=
  { s with records := s.records.putAll (records.map fun r => ⟨p, r, s.outputPath⟩) }

/-- The fields both `start_session` and `finish_session` start over. -/
def clear (s : Diagnostics Thread Value) : Diagnostics Thread Value :=
  { s with sensorMeta := .empty, counters := .empty, queueDepth := 0 }

/-- `meta[key] = value` for each value that is not None. -/
def noteMeta (s : Diagnostics Thread Value) (address : String)
    (metadata : List (String × Option Value)) : Diagnostics Thread Value :=
  let sensor := (s.sensorMeta.get? address).getD .empty
  let noted := metadata.foldl
    (fun sensor e => match e.2 with | some value => sensor.set e.1 value | none => sensor) sensor
  { s with sensorMeta := s.sensorMeta.set address noted }

/-- `self._counters[address][counter] += amount`. -/
def count (s : Diagnostics Thread Value) (address counter : String) (amount : Int) :
    Diagnostics Thread Value :=
  let counters := (s.counters.get? address).getD .empty
  let value := (counters.get? counter).getD 0 + amount
  { s with counters := s.counters.set address (counters.set counter value) }

/-- The records of `_enqueue_snapshots`, one for each address with counters. -/
def snapshots (s : Diagnostics Thread Value) : List (Record Value) :=
  s.counters.entries.map fun e =>
    .snapshot s.sessionMeta e.1 ((s.sensorMeta.get? e.1).getD .empty) e.2 s.queueDepth

/-- An address that `if not address: return` lets through. -/
def given : Option String → Option String
  | none => none
  | some address => if address = "" then none else some address

/-- The locked section of a call, by the thread that entered it. -/
def lockedSection (s : Diagnostics Thread Value) (t : Thread) :
    Call Value → Diagnostics Thread Value
  | .startSession m =>
    let p := m.outputPath
    if s.sessionKey = some p then (s.name p).put t .idle
    else
      { ((s.name p).clear).put t .making with
        outputPath := some p
        sessionKey := some p
        sessionMeta := some m }
  | .registerSensor address metadata =>
    match given address with
    | none => s.put t .idle
    | some address => (s.noteMeta address metadata).put t .idle
  | .increment address counter amount metadata =>
    match given address with
    | none => s.put t .idle
    | some address => ((s.noteMeta address metadata).count address counter amount).put t .idle
  | .setQueueDepth depth => { s.put t .idle with queueDepth := max depth 0 }
  | .recordEvent type payload =>
    match s.outputPath with
    | none => s.put t .idle
    | some p => (s.enqueue p [.event type s.sessionMeta payload]).put t .idle
  | .flush => s.put t (.joining none)
  | .finishSession =>
    { (s.clear).put t (.joining s.outputPath) with
      outputPath := none
      sessionKey := none
      sessionMeta := none }
  | .enqueueSnapshots =>
    match s.outputPath with
    | none => s.put t .idle
    | some p => (s.enqueue p s.snapshots).put t .idle

/-- What a call does when it finds diagnostics disabled: it returns. -/
def skip (s : Diagnostics Thread Value) : Call Value → Diagnostics Thread Value
  -- the session ends all the same
  | .finishSession => { s with ended := s.outputPath.toList ++ s.ended }
  | .startSession m => s.name m.outputPath
  | _ => s

/-- What a call does when it finds them enabled. -/
def enter (s : Diagnostics Thread Value) (t : Thread) : Call Value → Diagnostics Thread Value
  | .startSession m => (s.name m.outputPath).put t (.entered (.startSession m))
  | c => s.put t (.entered c)

def step : Machine (Diagnostics Thread Value) (Action Thread Value)
  | s, .setEnabled enabled => some { s with enabled := enabled }
  | s, .call t c =>
    match s.phase t with
    | .idle => some (if s.enabled then s.enter t c else s.skip c)
    | _ => none
  | s, .locked t =>
    match s.phase t with
    | .entered c => some (s.lockedSection t c)
    | _ => none
  | s, .mkdir t made =>
    match s.phase t with
    | .making =>
      -- `record_event("session_start", **self._session_meta)` looks again
      if made ∧ s.enabled then
        some (s.put t (.entered (.recordEvent "session_start" (.sessionMeta s.sessionMeta))))
      else some (s.put t .idle)
    | _ => none
  | s, .joined t =>
    match s.phase t with
    | .joining ends =>
      if s.records.unfinished = 0 then
        some { s.put t .idle with ended := ends.toList ++ s.ended }
      else none
    | _ => none
  | s, .get =>
    if s.writerAlive then s.records.get.map fun records => { s with records := records } else none
  | s, .write ok =>
    match s.records.taken with
    | none => none
    | some entry =>
      if ok then
        some { s with
          records := s.records.taskDone
          written := s.written ++ [⟨entry, s.ended⟩] }
      -- `finally` reports the item done, and the exception ends the thread
      else some { s with records := s.records.taskDone, writerAlive := false }

/-- `PipelineDiagnostics()`, with both threads started. -/
def init : Diagnostics Thread Value where
  enabled := false
  records := .empty
  outputPath := none
  sessionKey := none
  sessionMeta := none
  sensorMeta := .empty
  counters := .empty
  queueDepth := 0
  writerAlive := true
  phase := fun _ => .idle
  written := []
  ended := []

/-! ## What is promised -/

/-- The promise, the joins apart. -/
structure Core (s : Diagnostics Thread Value) : Prop where
  /-- an ended session is detached -/
  detached : ∀ p ∈ s.ended, s.outputPath ≠ some p
  /-- and no record for it is left -/
  drained : ∀ p ∈ s.ended, ∀ entry ∈ s.records.inFlight, entry.path ≠ p
  /-- a record went to the path that was current when it was put -/
  attributed : ∀ line ∈ s.written, line.entry.current = some line.entry.path
  /-- no record went to a session that had ended -/
  quiet : ∀ line ∈ s.written, line.entry.path ∉ line.ended
  /-- the writer takes later records -/
  alive : s.writerAlive = true

structure Sound (s : Diagnostics Thread Value) : Prop extends Core s where
  /-- the writer alone brings every waiting join to its end -/
  joins : ∀ t ends, s.phase t = .joining ends →
    ∃ turns : List (Action Thread Value), (∀ a ∈ turns, a = .get ∨ a = .write true) ∧
      (Machine.exec step s (turns ++ [.joined t])).isSome = true

/-- The condition on one step that can be taken: no write fails, and no session is finished while
diagnostics are disabled and its path is attached. -/
def keepsSound (s : Diagnostics Thread Value) (a : Action Thread Value) : Prop :=
  (step s a).isSome = true →
    match a with
    | .write ok => ok = true
    | .call _ .finishSession => s.enabled = true ∨ s.outputPath = none
    | _ => True

/-- What every step keeps: a record in flight is for the path that was current when it was put,
and the session a waiting call ends is detached. -/
structure Kept (s : Diagnostics Thread Value) : Prop where
  current : ∀ entry ∈ s.records.inFlight, entry.current = some entry.path
  closing : ∀ t p, s.phase t = .joining (some p) → s.outputPath ≠ some p

/-! ## What every step keeps -/

theorem forget_eq_joining {phase : Phase Value} {p q : Place}
    (h : phase.forget p = .joining (some q)) : phase = .joining (some q) ∧ q ≠ p := by
  cases phase with
  | joining ends =>
    simp only [Phase.forget, Phase.joining.injEq] at h
    split at h
    · cases h
    · rename_i hne
      subst h
      exact ⟨rfl, fun hqp => hne (congrArg some hqp)⟩
  | _ => cases h

/-- The other fields may change. -/
theorem Kept.fields {s s' : Diagnostics Thread Value} (h : s.Kept)
    (hrecords : s'.records = s.records) (hpath : s'.outputPath = s.outputPath)
    (hphase : s'.phase = s.phase) : s'.Kept :=
  ⟨by rw [hrecords]; exact h.current, by rw [hpath, hphase]; exact h.closing⟩

/-- A move of one thread to a phase that ends no session. -/
theorem Kept.put {s : Diagnostics Thread Value} (h : s.Kept) (t : Thread) {c : Phase Value}
    (hphase : ∀ p, c ≠ .joining (some p)) : (s.put t c).Kept := by
  refine ⟨h.current, ?_⟩
  intro u p hu
  simp only [Diagnostics.put, Function.update_apply] at hu
  split at hu
  · exact absurd hu (hphase p)
  · exact h.closing u p hu

theorem Kept.name {s : Diagnostics Thread Value} (h : s.Kept) (p : Place) : (s.name p).Kept :=
  ⟨h.current, fun t q ht => h.closing t q (forget_eq_joining ht).1⟩

theorem inFlight_enqueue {s : Diagnostics Thread Value} {p : Place} {records : List (Record Value)}
    {entry : Entry Value} (h : entry ∈ (s.enqueue p records).records.inFlight) :
    entry ∈ s.records.inFlight ∨ entry.path = p ∧ entry.current = s.outputPath := by
  unfold enqueue at h
  rw [TaskQueue.inFlight_putAll, List.mem_append] at h
  rcases h with hold | hnew
  · exact .inl hold
  · obtain ⟨r, -, rfl⟩ := List.mem_map.mp hnew
    exact .inr ⟨rfl, rfl⟩

theorem Kept.enqueue {s : Diagnostics Thread Value} (h : s.Kept) {p : Place}
    (hp : s.outputPath = some p) (records : List (Record Value)) : (s.enqueue p records).Kept := by
  refine ⟨?_, h.closing⟩
  intro entry hentry
  rcases inFlight_enqueue hentry with hold | ⟨hpath, hcurrent⟩
  · exact h.current entry hold
  · rw [hcurrent, hp, hpath]

theorem Kept.lockedSection {s : Diagnostics Thread Value} (h : s.Kept) (t : Thread)
    (c : Call Value) : (s.lockedSection t c).Kept := by
  cases c with
  | startSession m =>
    simp only [Diagnostics.lockedSection]
    split
    · exact (h.name _).put t (by simp)
    · refine ⟨h.current, ?_⟩
      intro u q hu
      -- the calls that were ending this very session have forgotten it
      simp only [Diagnostics.put, Function.update_apply] at hu
      split at hu
      · cases hu
      · exact fun hq => (forget_eq_joining hu).2 (Option.some.inj hq).symm
  | registerSensor address metadata =>
    simp only [Diagnostics.lockedSection]
    split
    · exact h.put t (by simp)
    · rename_i address _
      have hnoted : (s.noteMeta address metadata).Kept := h.fields rfl rfl rfl
      exact hnoted.put t (by simp)
  | increment address counter amount metadata =>
    simp only [Diagnostics.lockedSection]
    split
    · exact h.put t (by simp)
    · rename_i address _
      have hcounted : ((s.noteMeta address metadata).count address counter amount).Kept :=
        h.fields rfl rfl rfl
      exact hcounted.put t (by simp)
  | setQueueDepth depth => exact ⟨h.current, (h.put t (c := .idle) (by simp)).closing⟩
  | recordEvent type payload =>
    simp only [Diagnostics.lockedSection]
    split
    · exact h.put t (by simp)
    · rename_i hp
      exact (h.enqueue hp _).put t (by simp)
  | flush => exact h.put t (by simp)
  | finishSession => exact ⟨h.current, fun u p _ hp => by cases hp⟩
  | enqueueSnapshots =>
    simp only [Diagnostics.lockedSection]
    split
    · exact h.put t (by simp)
    · rename_i hp
      exact (h.enqueue hp _).put t (by simp)

theorem Kept.skip {s : Diagnostics Thread Value} (h : s.Kept) (c : Call Value) :
    (s.skip c).Kept := by
  cases c with
  | startSession m => exact h.name _
  | finishSession => exact ⟨h.current, h.closing⟩
  | _ => exact h

theorem Kept.enter {s : Diagnostics Thread Value} (h : s.Kept) (t : Thread) (c : Call Value) :
    (s.enter t c).Kept := by
  cases c with
  | startSession m => exact (h.name _).put t (by simp)
  | _ => exact h.put t (by simp)

theorem kept_init : (init : Diagnostics Thread Value).Kept := by
  constructor
  · exact fun entry hentry => (List.not_mem_nil hentry).elim
  · exact fun t p _ hpath => by cases hpath

theorem kept_step {s s' : Diagnostics Thread Value} {a : Action Thread Value}
    (hstep : step s a = some s') (h : s.Kept) : s'.Kept := by
  cases a with
  | setEnabled enabled =>
    cases hstep
    exact ⟨h.current, h.closing⟩
  | call t c =>
    simp only [step] at hstep
    split at hstep <;> cases hstep
    split
    · exact h.enter t c
    · exact h.skip c
  | locked t =>
    simp only [step] at hstep
    split at hstep <;> cases hstep
    exact h.lockedSection t _
  | mkdir t made =>
    simp only [step] at hstep
    split at hstep
    · split at hstep <;> cases hstep <;> exact h.put t (by simp)
    · cases hstep
  | joined t =>
    simp only [step] at hstep
    split at hstep
    · split at hstep <;> cases hstep
      exact ⟨h.current, (h.put t (c := .idle) (by simp)).closing⟩
    · cases hstep
  | get =>
    simp only [step] at hstep
    split at hstep
    · obtain ⟨records, hget, rfl⟩ := Option.map_eq_some_iff.mp hstep
      refine ⟨?_, h.closing⟩
      intro entry hentry
      apply h.current
      rw [← TaskQueue.inFlight_get hget]
      exact hentry
    · cases hstep
  | write ok =>
    simp only [step] at hstep
    split at hstep
    · cases hstep
    · split at hstep <;> cases hstep <;>
        exact ⟨fun entry hentry => h.current entry (TaskQueue.mem_inFlight_of_taskDone hentry),
          h.closing⟩

/-! ## The writer and the joins -/

/-- An alive writer takes the next record and writes it. -/
theorem writer_turn {s : Diagnostics Thread Value} (halive : s.writerAlive = true) {n : Nat}
    (hn : s.records.unfinished = n + 1) :
    ∃ turns s', (∀ a ∈ turns, a = .get ∨ a = .write true) ∧ Machine.exec step s turns = some s' ∧
      s'.records.unfinished = n ∧ s'.writerAlive = true ∧ s'.phase = s.phase := by
  -- a record that has been taken is written
  have hwrite (r : Diagnostics Thread Value) (halive : r.writerAlive = true)
      (hn : r.records.unfinished = n + 1) (htaken : r.records.taken.isSome = true) :
      ∃ r', step r (.write true) = some r' ∧
        r'.records.unfinished = n ∧ r'.writerAlive = true ∧ r'.phase = r.phase := by
    obtain ⟨entry, hentry⟩ := Option.isSome_iff_exists.mp htaken
    have hstep : step r (.write true) = some { r with
        records := r.records.taskDone
        written := r.written ++ [⟨entry, r.ended⟩] } := by
      simp only [step, hentry, if_true]
    refine ⟨_, hstep, ?_, halive, rfl⟩
    exact Nat.succ.inj ((TaskQueue.unfinished_taskDone htaken).trans hn)
  by_cases htaken : s.records.taken.isSome = true
  · obtain ⟨s', hs', hrest⟩ := hwrite s halive hn htaken
    exact ⟨[.write true], s', by simp, by simp [hs'], hrest⟩
  · have hidle : s.records.taken = none := by simpa using htaken
    have hget := TaskQueue.get_isSome hidle (by rw [hn]; exact Nat.succ_pos n)
    obtain ⟨records, hrecords⟩ := Option.isSome_iff_exists.mp hget
    obtain ⟨hunfinished, hsome⟩ := TaskQueue.unfinished_get hrecords
    obtain ⟨s', hs', hrest⟩ :=
      hwrite { s with records := records } halive (hunfinished.trans hn) hsome
    have hfirst : step s .get = some { s with records := records } := by
      simp only [step, halive, if_true, hrecords, Option.map_some]
    exact ⟨[.get, .write true], s', by simp, by simp [hfirst, hs'], hrest⟩

/-- The writer works the queue off. Induction on what is unfinished. -/
theorem writer_drains {s : Diagnostics Thread Value} (halive : s.writerAlive = true) :
    ∃ turns s', (∀ a ∈ turns, a = .get ∨ a = .write true) ∧ Machine.exec step s turns = some s' ∧
      s'.records.unfinished = 0 ∧ s'.phase = s.phase := by
  generalize hn : s.records.unfinished = n
  induction n generalizing s with
  | zero => exact ⟨[], s, by simp, rfl, hn, rfl⟩
  | succ n ih =>
    obtain ⟨turn, r, hturn, hr, hrn, hralive, hrphase⟩ := writer_turn halive hn
    obtain ⟨turns, s', hturns, hs', hzero, hphase⟩ := ih hralive hrn
    refine ⟨turn ++ turns, s', ?_, ?_, hzero, hphase.trans hrphase⟩
    · intro a ha
      exact (List.mem_append.mp ha).elim (hturn a) (hturns a)
    · rw [Machine.exec_append, hr]
      exact hs'

theorem Core.sound {s : Diagnostics Thread Value} (h : s.Core) : s.Sound := by
  refine ⟨h, ?_⟩
  intro t ends ht
  obtain ⟨turns, s', hturns, hs', hzero, hphase⟩ := writer_drains h.alive
  refine ⟨turns, hturns, ?_⟩
  have hjoined : (step s' (.joined t)).isSome = true := by
    simp [step, hphase, ht, hzero]
  rw [Machine.exec_append, hs', Option.bind_some, Machine.exec_cons]
  simpa using hjoined

theorem sound_iff_core {s : Diagnostics Thread Value} : s.Sound ↔ s.Core :=
  ⟨fun h => h.toCore, Core.sound⟩

/-! ## The promise, step by step -/

/-- A step that writes nothing keeps the promise if what has ended stays detached and drained. -/
theorem Core.frame {s s' : Diagnostics Thread Value} (h : s.Core)
    (hdetached : ∀ p ∈ s'.ended, s'.outputPath ≠ some p)
    (hdrained : ∀ p ∈ s'.ended, ∀ entry ∈ s'.records.inFlight, entry.path ≠ p)
    (hwritten : s'.written = s.written) (halive : s'.writerAlive = s.writerAlive) : s'.Core :=
  ⟨hdetached, hdrained, by rw [hwritten]; exact h.attributed, by rw [hwritten]; exact h.quiet,
    halive.trans h.alive⟩

theorem Core.put {s : Diagnostics Thread Value} (h : s.Core) (t : Thread) (phase : Phase Value) :
    (s.put t phase).Core :=
  h.frame h.detached h.drained rfl rfl

theorem Core.name {s : Diagnostics Thread Value} (h : s.Core) (p : Place) : (s.name p).Core := by
  have hsub (q : Place) (hq : q ∈ (s.name p).ended) : q ∈ s.ended := (List.mem_filter.mp hq).1
  exact h.frame (fun q hq => h.detached q (hsub q hq)) (fun q hq => h.drained q (hsub q hq)) rfl rfl

theorem Core.enqueue {s : Diagnostics Thread Value} (h : s.Core) {p : Place}
    (hp : s.outputPath = some p) (records : List (Record Value)) : (s.enqueue p records).Core := by
  refine h.frame h.detached ?_ rfl rfl
  intro q hq entry hentry
  rcases inFlight_enqueue hentry with hold | ⟨hpath, -⟩
  · exact h.drained q hq entry hold
  · rw [hpath]
    exact fun hpq => h.detached q hq (hp.trans (congrArg some hpq))

theorem Core.lockedSection {s : Diagnostics Thread Value} (h : s.Core) (t : Thread)
    (c : Call Value) : (s.lockedSection t c).Core := by
  cases c with
  | startSession m =>
    simp only [Diagnostics.lockedSection]
    split
    · exact (h.name _).put t _
    · refine h.frame ?_ (h.name m.outputPath).drained rfl rfl
      -- the session that is attached has just been named
      intro q hq hpath
      have hne : q ≠ m.outputPath := by simpa using (List.mem_filter.mp hq).2
      exact hne (Option.some.inj hpath).symm
  | registerSensor address metadata =>
    simp only [Diagnostics.lockedSection]
    split
    · exact h.put t _
    · exact h.frame h.detached h.drained rfl rfl
  | increment address counter amount metadata =>
    simp only [Diagnostics.lockedSection]
    split
    · exact h.put t _
    · exact h.frame h.detached h.drained rfl rfl
  | setQueueDepth depth => exact h.frame h.detached h.drained rfl rfl
  | recordEvent type payload =>
    simp only [Diagnostics.lockedSection]
    split
    · exact h.put t _
    · rename_i hp
      exact (h.enqueue hp _).put t _
  | flush => exact h.put t _
  | finishSession => exact h.frame (fun p _ hp => by cases hp) h.drained rfl rfl
  | enqueueSnapshots =>
    simp only [Diagnostics.lockedSection]
    split
    · exact h.put t _
    · rename_i hp
      exact (h.enqueue hp _).put t _

theorem Core.enter {s : Diagnostics Thread Value} (h : s.Core) (t : Thread) (c : Call Value) :
    (s.enter t c).Core := by
  cases c with
  | startSession m => exact (h.name _).put t _
  | _ => exact h.put t _

/-- A call that finds diagnostics disabled keeps the promise unless it ends a session whose path
is attached. -/
theorem core_skip_iff {s : Diagnostics Thread Value} (h : s.Core) (c : Call Value) :
    (s.skip c).Core ↔ ∀ p, c = .finishSession → s.outputPath ≠ some p := by
  cases c with
  | finishSession =>
    constructor
    · intro hcore p _ hp
      exact hcore.detached p (by simp [Diagnostics.skip, hp]) hp
    · intro hnone
      have hended : (s.skip .finishSession).ended = s.ended := by
        cases hpath : s.outputPath with
        | none => simp [Diagnostics.skip, hpath]
        | some p => exact absurd hpath (hnone p rfl)
      exact h.frame (by rw [hended]; exact h.detached) (by rw [hended]; exact h.drained) rfl rfl
  | startSession m => exact iff_of_true (h.name _) fun p hc => by cases hc
  | _ => exact iff_of_true h fun p hc => by cases hc

/-- The end of a join ends the session of its call, which is detached and drained. -/
theorem Core.joined {s : Diagnostics Thread Value} (h : s.Core) (hkept : s.Kept) {t : Thread}
    {ends : Option Place} (ht : s.phase t = .joining ends) (hzero : s.records.unfinished = 0) :
    ({ s.put t .idle with ended := ends.toList ++ s.ended } : Diagnostics Thread Value).Core := by
  have hempty : s.records.inFlight = [] := TaskQueue.joined_iff.mp hzero
  refine h.frame ?_ ?_ rfl rfl
  · intro p hp
    rcases List.mem_append.mp hp with hnew | hold
    · rw [Option.mem_toList.mp hnew] at ht
      exact hkept.closing t p ht
    · exact h.detached p hold
  · intro p _ entry hentry
    change entry ∈ s.records.inFlight at hentry
    rw [hempty] at hentry
    cases hentry

/-- A record that is written is for a session that has not ended. -/
theorem Core.write {s : Diagnostics Thread Value} (h : s.Core) (hkept : s.Kept)
    {entry : Entry Value} (htaken : s.records.taken = some entry) :
    ({ s with
        records := s.records.taskDone
        written := s.written ++ [⟨entry, s.ended⟩] } : Diagnostics Thread Value).Core := by
  have hmem := TaskQueue.mem_inFlight_taken htaken
  refine ⟨h.detached, ?_, ?_, ?_, h.alive⟩
  · exact fun p hp e he => h.drained p hp e (TaskQueue.mem_inFlight_of_taskDone he)
  · intro line hline
    rcases List.mem_append.mp hline with hold | hnew
    · exact h.attributed line hold
    · rw [List.mem_singleton.mp hnew]
      exact hkept.current entry hmem
  · intro line hline
    rcases List.mem_append.mp hline with hold | hnew
    · exact h.quiet line hold
    · rw [List.mem_singleton.mp hnew]
      exact fun hended => h.drained entry.path hended entry hmem rfl

/-- A step from a state that keeps the promise leads to one exactly when it meets the condition. -/
theorem core_step_iff {s s' : Diagnostics Thread Value} {a : Action Thread Value}
    (hstep : step s a = some s') (hkept : s.Kept) (h : s.Core) : s'.Core ↔ s.keepsSound a := by
  have henabled : (step s a).isSome = true := by rw [hstep]; rfl
  unfold keepsSound
  rw [imp_iff_right henabled]
  cases a with
  | setEnabled enabled =>
    cases hstep
    exact iff_of_true (h.frame h.detached h.drained rfl rfl) trivial
  | call t c =>
    simp only [step] at hstep
    split at hstep <;> cases hstep
    by_cases hon : s.enabled = true
    · rw [if_pos hon]
      refine iff_of_true (h.enter t c) ?_
      cases c with
      | finishSession => exact .inl hon
      | _ => trivial
    · rw [if_neg hon, core_skip_iff h]
      cases c with
      | finishSession => simp [hon, Option.eq_none_iff_forall_ne_some]
      | _ => simp
  | locked t =>
    simp only [step] at hstep
    split at hstep <;> cases hstep
    exact iff_of_true (h.lockedSection t _) trivial
  | mkdir t made =>
    simp only [step] at hstep
    split at hstep
    · split at hstep <;> cases hstep <;> exact iff_of_true (h.put t _) trivial
    · cases hstep
  | joined t =>
    simp only [step] at hstep
    split at hstep
    · rename_i ht
      split at hstep <;> cases hstep
      rename_i hzero
      exact iff_of_true (h.joined hkept ht hzero) trivial
    · cases hstep
  | get =>
    simp only [step] at hstep
    split at hstep
    · obtain ⟨records, hget, rfl⟩ := Option.map_eq_some_iff.mp hstep
      refine iff_of_true (h.frame h.detached ?_ rfl rfl) trivial
      intro p hp entry hentry
      change entry ∈ records.inFlight at hentry
      rw [TaskQueue.inFlight_get hget] at hentry
      exact h.drained p hp entry hentry
    · cases hstep
  | write ok =>
    simp only [step] at hstep
    split at hstep
    · cases hstep
    · rename_i htaken
      cases ok with
      | true =>
        cases hstep
        exact iff_of_true (h.write hkept htaken) rfl
      | false =>
        cases hstep
        -- the thread has died
        exact iff_of_false (fun hcore => by cases hcore.alive) (by simp)

/-! ## Every interleaving -/

/-- Diagnostics are sound after every step of an interleaving exactly when every step meets the
condition. -/
theorem sound_iff (actions : List (Action Thread Value)) :
    (∀ k s, Machine.exec step (init : Diagnostics Thread Value) (actions.take k) = some s →
        s.Sound)
      ↔ Machine.Along step keepsSound (init : Diagnostics Thread Value) actions := by
  apply Machine.always_iff_along_of_step (J := Kept) kept_init
  · exact fun s a s' hs hstep => kept_step hstep hs
  · exact fun s a hstep henabled => by simp [hstep] at henabled
  · intro s a s' hs hsound hstep
    rw [← core_step_iff hstep hs hsound.toCore, ← sound_iff_core]
  · refine Core.sound ⟨?_, ?_, ?_, ?_, rfl⟩
    · exact fun p hp => by cases hp
    · exact fun p hp => by cases hp
    · exact fun line hline => by cases hline
    · exact fun line hline => by cases hline

/-- A record whose payload cannot be written as JSON. -/
def unwritable : List (Action Nat Unit) :=
  [.setEnabled true, .call 0 (.startSession ⟨none, "master", none, none, []⟩), .locked 0,
    .mkdir 0 true, .locked 0, .get, .write true,
    .call 0 (.recordEvent "late" (.fields [("value", ())])), .locked 0, .get, .write false]

theorem writer_dies :
    ¬ ∀ k s, Machine.exec step (init : Diagnostics Nat Unit) (unwritable.take k) = some s →
      s.Sound := by
  intro hall
  have hend : (Machine.exec step (init : Diagnostics Nat Unit) unwritable).map
      Diagnostics.writerAlive = some false := by decide +kernel
  obtain ⟨s, hs, hdead⟩ := Option.map_eq_some_iff.mp hend
  have halive : s.writerAlive = true := (hall 11 s hs).alive
  rw [hdead] at halive
  cases halive

end Diagnostics

end NexusN3.Pipeline
