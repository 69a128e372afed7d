import NexusN3.Lib.Machine
import NexusN3.Core.Configure

/-!
# One Core and its threads

The methods of the other modules are cut into sections; here the sections of any number of
calls run in any order on one Core. A call in flight is a `Thread`, named by its position in
`World.threads` and replaced by `done` when it ends. `Thread.advance` runs its next section,
and `World.step` is the whole machine:

* **commands**: both starts, the commit, both stops, `init_core`, `reset_session`. A command
  the Core refuses leaves the world as it is;
* **the sensor layer**: `_on_stream_started`, `_on_stream_stopped` and `_on_data`, at any
  time, late or repeated;
* **sections**: `advance`, the closing of a gate's window, an exception inside a stop.

Two fields record what happened and influence nothing: `stopReturned`, from the return of a
full stop to the next accepted start, and `acquiring`, from an accepted start to the
completion of a full stop or the failure of the startup. `emitted` is the history of the
startup events a coordinator reads.
-/

namespace NexusN3

open Lib

inductive StartupEvent where
  | readyForOfficial
  | officialStarted
  deriving DecidableEq

/-- What a coordinator reads of a startup event. The start id comes from the status payload,
the session timestamp from the event context at the emission. -/
structure CoreEvent where
  kind : StartupEvent
  startSessionId : Option String
  sessionTimestamp : Option String
  deriving DecidableEq

/-- The next section of a stop. In the `finally` block it is kept whether the body raised. -/
inductive StopStage where
  | issue
  | collect
  | flush
  | mark
  | close
  | release (raised : Bool)
  | finish (raised : Bool)
  deriving DecidableEq

/-- A call in flight, by the section it runs next. -/
inductive Thread where
  | startAccepted (payload : StartPayload) (specific : Bool)
  | startWritten (idxs : List Nat)
  | gate (token : Nat)
  | gatePreparing (token : Nat)
  | gatePrepared (token : Nat) (failure : Option String)
  | gateReady (startSessionId : Option String)
  | retry (token : Nat)
  -- the commit reads no token after its first section; the model keeps the one it began with
  | commit (token : Nat)
  | commitFailed (token : Nat)
  | commitActivated (token : Nat)
  | commitReporting (token : Nat) (startSessionId : Option String)
  | commitFinishing (token : Nat)
  | stop (request : StopRequest) (env : StopEnv) (full : Bool) (stage : StopStage)
  | done

/-- What the surroundings contribute to one section. -/
structure SectionEnv where
  clock : String := ""
  now : ℚ := 0
  activation : ActivationEnv := {}

/-- One section of `_stop_stream_impl` past its entry, and the section after it. -/
def StopStage.advance (c : Core) (r : StopRequest) (env : StopEnv) :
    StopStage → Core × Option StopStage
  | .issue => (c.stopIssue r, some .collect)
  | .collect => (c.stopCollect r env.physical, some .flush)
  | .flush => (c.stopFlush r, some .mark)
  | .mark => (c.stopMark r, some .close)
  | .close => (c.stopClose r env, some (.release false))
  | .release raised => (c.stopRelease r, some (.finish raised))
  | .finish _ => (c.stopFinish, none)

/-- The sections of the `try` body, where an exception leads to the `except` branch. -/
def StopStage.inBody : StopStage → Bool
  | .release _ | .finish _ => false
  | _ => true

/-- Run the next section of a call: the Core after it, what the call does next, and the
event it emits. -/
def Thread.advance (c : Core) (env : SectionEnv) : Thread → Option (Core × Thread × List CoreEvent)
  | .startAccepted p false =>
    let c' := c.startAllWrites p env.clock
    some (c', .startWritten (List.range c'.subjects.length), [])
  | .startAccepted p true =>
    match c.startSubjectsWrites p env.clock with
    | (c', .error _) => some (c', .done, [])
    | (c', .ok idxs) => some (c', .startWritten idxs, [])
  | .startWritten idxs => some (c.startArm idxs env.now, .done, [])
  | .gate token =>
    match c.gateDecide token env.activation with
    -- the wait between two looks at the statistics
    | (c', .unstable) => some (c', .gate token, [])
    | (c', .prepare) => some (c', .gatePreparing token, [])
    | (c', .official) =>
      some (c', .done, [⟨.officialStarted, c.startSessionId, c.sessionTimestamp⟩])
    | (c', .stale) => some (c', .done, [])
    -- the exception ends the gate thread; what was activated so far stays
    | (c', .raised _) => some (c', .done, [])
  | .gatePreparing token =>
    match c.prepareOfficialPersistence env.activation.outputFailure with
    | (c', .ok ()) => some (c', .gatePrepared token none, [])
    | (c', .error e) => some (c', .gatePrepared token (some e), [])
  | .gatePrepared token (some e) => some (c.gatePrepareFailed token e, .done, [])
  | .gatePrepared token none =>
    match c.gateReady token with
    | none => some (c, .done, [])
    | some c' => some (c', .gateReady c.startSessionId, [])
  | .gateReady sid => some (c, .done, [⟨.readyForOfficial, sid, c.sessionTimestamp⟩])
  | .retry token => some (c.retryStartup token env.now, .done, [])
  -- the activation of a commit runs with nothing held; its second locked section comes last
  | .commit token =>
    match c.activateOfficialStreaming env.activation with
    | (c', .ok ()) => some (c', .commitActivated token, [])
    | (c', .error _) => some (c', .commitFailed token, [])
  | .commitFailed _ => some (c.commitRollback, .done, [])
  | .commitActivated token => some (c, .commitReporting token c.startSessionId, [])
  | .commitReporting token sid =>
    some (c, .commitFinishing token, [⟨.officialStarted, sid, c.sessionTimestamp⟩])
  | .commitFinishing _ => some (c.openOfficial, .done, [])
  | .stop r env full stage =>
    match stage.advance c r env with
    | (c', some next) => some (c', .stop r env full next, [])
    | (c', none) => some (c', .done, [])
  | .done => none

def Thread.isFullStop : Thread → Bool
  | .stop _ _ true _ => true
  | _ => false

theorem Thread.isFullStop_iff {t : Thread} :
    t.isFullStop = true ↔ ∃ r env stage, t = .stop r env true stage := by
  constructor
  · intro h
    cases t with
    | stop r env full stage =>
      cases full with
      | false => cases h
      | true => exact ⟨r, env, stage, rfl⟩
    | _ => cases h
  · rintro ⟨r, env, stage, rfl⟩
    rfl

structure World where
  core : Core := {}
  threads : List Thread := []
  emitted : List CoreEvent := []
  stopReturned : Bool := false
  acquiring : Bool := false

inductive Action where
  | startStream (payload : StartPayload)
  | startStreamForSubjects (payload : StartPayload)
  | startOfficialStream (payload : Core.CommitPayload)
  | stopStream (stopSessionId : Option String) (env : StopEnv)
  | stopStreamForSubjects (subjectIds : List String) (stopSessionId : Option String) (env : StopEnv)
  | initCore (outcome : Installation)
  | resetSession (refusal : Option String)
  | resetFinished (report : Option Bool)
  | onStreamStarted
  | onStreamStopped
  | onData (sample : Sample) (now : ℚ)
  | advance (i : Nat) (env : SectionEnv)
  | gateTimeout (i : Nat)
  | stopRaise (i : Nat)

/-- The stop was given every subject of the Core. -/
def StopRequest.covers (r : StopRequest) (c : Core) : Bool :=
  (List.range c.subjects.length).all fun i => decide (i ∈ r.idxs)

namespace World

/-- Put a new Core state in place. A startup that failed ends the acquisition. -/
def setCore (w : World) (c : Core) : World :=
  { w with core := c, acquiring := w.acquiring && decide (c.streamPhase ≠ .startupFailed) }

def spawn (w : World) (ts : List Thread) : World := { w with threads := w.threads ++ ts }

def setThread (w : World) (i : Nat) (t : Thread) : World := { w with threads := w.threads.set i t }

def emit (w : World) (events : List CoreEvent) : World := { w with emitted := w.emitted ++ events }

/-- The locked admission of a start, and the call it leaves in flight. -/
def acceptStart (w : World) (p : StartPayload) (specific : Bool) : World :=
  match w.core.startAccept with
  | .error _ => w
  | .ok c =>
    { (w.setCore c).spawn [.startAccepted p specific] with stopReturned := false, acquiring := true }

def beginStop (w : World) (r : StopRequest) (env : StopEnv) : World :=
  (w.setCore (w.core.stopEnter r)).spawn [.stop r env (r.covers w.core) .issue]

/-- A full stop completes with the section that ends its finalization and reports the drain,
and it has returned after the last one. -/
def noteStop (w : World) : Thread → World
  | .stop _ _ true .close => { w with acquiring := false }
  | .stop _ _ true (.finish false) => { w with stopReturned := true }
  | _ => w

def step (w : World) : Action → Option World
  | .startStream p => some (w.acceptStart p false)
  | .startStreamForSubjects p => some (w.acceptStart p true)
  | .startOfficialStream p =>
    match w.core.commitBegin p with
    | .begin c => some ((w.setCore c).spawn [.commit w.core.startupGateToken])
    | .alreadyOfficial =>
      some (w.emit [⟨.officialStarted, w.core.startSessionId, w.core.sessionTimestamp⟩])
    | .alreadyActivating => some w
    | .refused _ => some w
  | .stopStream sid env => some (w.beginStop (w.core.stopAllRequest sid) env)
  -- an unknown id raises before the stop has begun
  | .stopStreamForSubjects ids sid env =>
    match w.core.stopSubjectsRequest ids sid with
    | .ok r => some (w.beginStop r env)
    | .error _ => some w
  | .initCore outcome => some (w.setCore (w.core.initCore outcome).1)
  | .resetSession refusal => some (w.setCore (w.core.resetSession refusal).1)
  | .resetFinished report =>
    if w.core.recoveryInProgress then some (w.setCore (w.core.resetFinished report)) else none
  | .onStreamStarted =>
    some ((w.setCore w.core.onStreamStarted).spawn (w.core.gateStarted.map Thread.gate).toList)
  | .onStreamStopped =>
    some ((w.setCore w.core.onStreamStopped).spawn
      (if w.core.retryDue then [.retry w.core.startupGateToken] else []))
  | .onData sample now => some (w.setCore (w.core.onData sample now))
  | .advance i env =>
    match w.threads[i]? with
    | none => none
    | some t =>
      match t.advance w.core env with
      | none => none
      | some (c, t', events) => some ((((w.setCore c).setThread i t').emit events).noteStop t)
  | .gateTimeout i =>
    match w.threads[i]? with
    | some (.gate token) => some ((w.setCore (w.core.gateTimeout token)).setThread i .done)
    | _ => none
  -- only the body of the `try`: the `finally` sections do not raise
  | .stopRaise i =>
    match w.threads[i]? with
    | some (.stop r env full stage) =>
      if stage.inBody then
        some ((w.setCore w.core.stopAbort).setThread i (.stop r env full (.release true)))
      else none
    | _ => none

/-! ### A section and its note -/

/-- What a section leaves: the call's continuation in its place, and a note when it ended a
full stop. -/
theorem step_advance {w w' : World} {i : Nat} {env : SectionEnv}
    (h : w.step (.advance i env) = some w') : ∃ t c t' events, w.threads[i]? = some t
      ∧ t.advance w.core env = some (c, t', events)
      ∧ w' = ((((w.setCore c).setThread i t').emit events).noteStop t) := by
  unfold step at h
  dsimp only at h
  split at h
  · cases h
  · rename_i t ht
    split at h
    · cases h
    · rename_i c t' events hadv
      cases h
      exact ⟨t, c, t', events, ht, hadv, rfl⟩

theorem noteStop_of_not_stop {w : World} {t : Thread}
    (h : ∀ r env full stage, t ≠ .stop r env full stage) : w.noteStop t = w := by
  cases t <;> first | rfl | exact absurd rfl (h _ _ _ _)

/-- The note moves nothing but the two histories. -/
@[simp] theorem noteStop_core (w : World) (t : Thread) : (w.noteStop t).core = w.core := by
  unfold noteStop
  split <;> rfl

@[simp] theorem noteStop_threads (w : World) (t : Thread) : (w.noteStop t).threads = w.threads := by
  unfold noteStop
  split <;> rfl

@[simp] theorem noteStop_emitted (w : World) (t : Thread) : (w.noteStop t).emitted = w.emitted := by
  unfold noteStop
  split <;> rfl

theorem acceptStart_of_admitted {w : World} (h : w.core.StartAdmitted) (p : StartPayload)
    (specific : Bool) : w.acceptStart p specific =
      { (w.setCore (w.core.setPhase .starting)).spawn [.startAccepted p specific] with
        stopReturned := false, acquiring := true } := by
  rw [acceptStart, Core.startAccept_of_admitted h]

/-- There is no section to run at a place that is empty, or whose call has ended. -/
theorem step_advance_idle {w : World} {i : Nat} (env : SectionEnv)
    (h : w.threads[i]? = none ∨ w.threads[i]? = some .done) : w.step (.advance i env) = none := by
  unfold step
  rcases h with h | h
  · simp only [h]
  · simp only [h]
    rfl

/-- A section that can run is a step, and the call goes on at its place. -/
theorem step_of_advance {w : World} {i : Nat} {t t' : Thread} (env : SectionEnv) {c : Core}
    {events : List CoreEvent} (ht : w.threads[i]? = some t)
    (hadvance : t.advance w.core env = some (c, t', events)) :
    ∃ w', w.step (.advance i env) = some w' ∧ w'.core = c ∧ w'.threads = w.threads.set i t' := by
  refine ⟨(((w.setCore c).setThread i t').emit events).noteStop t, ?_, ?_, ?_⟩
  · unfold step
    simp only [ht, hadvance]
  · rw [noteStop_core]
    rfl
  · rw [noteStop_threads]
    rfl

/-- A full stop is in flight, between its entry and its return. -/
def FullStopInFlight (w : World) : Prop := ∃ r env stage, Thread.stop r env true stage ∈ w.threads

theorem fullStopInFlight_iff (w : World) :
    w.threads.any Thread.isFullStop = true ↔ w.FullStopInFlight := by
  rw [List.any_eq_true]
  constructor
  · rintro ⟨t, ht, hfull⟩
    obtain ⟨r, env, stage, rfl⟩ := Thread.isFullStop_iff.mp hfull
    exact ⟨r, env, stage, ht⟩
  · rintro ⟨r, env, stage, ht⟩
    exact ⟨_, ht, rfl⟩

instance (w : World) : Decidable w.FullStopInFlight :=
  decidable_of_iff _ (fullStopInFlight_iff w)

end World

/-- The states one Core can get into, from a Core that is being configured. -/
def World.Reachable (policy : StartupPolicy) (w : World) : Prop :=
  Machine.Reach World.step { core := { policy := policy } } w

/-! ## A session of one subject

The runs this development evaluates share their beginning: one subject with one sensor of
1 Hz is configured and started, its start command runs as thread 0, the sensor reports and
the gate thread 1 has three samples to judge. -/

def oneSubject : List SubjectConfig :=
  [{ subjectId := "s1", sensors := [{ address := some "AA", samplingRate := some 1 }] }]

def secondSample (second : Nat) : Action :=
  .onData ⟨some "AA", some (1000000 * second), some 1⟩ second

def warmedUp (p : StartPayload) : List Action :=
  [.initCore (.installed oneSubject), .startStream p, .advance 0 {}, .advance 0 {},
    .onStreamStarted, secondSample 0, secondSample 1, secondSample 2]

def coordinatedStart : StartPayload :=
  { sessionTimestamp := some (some "20260910_120000"), officialStartMode := .coordinated
    startSessionId := some "start-1" }

/-- The sections of thread `i`, `n` of them. -/
def sectionsOf (i n : Nat) : List Action := List.replicate n (.advance i {})

end NexusN3
