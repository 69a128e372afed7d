import NexusN3.Lib.Unwinding

/-!
# The dead-man stop of a robot

`_last_motion_ts` is both the time of the last command and the flag that arms the watchdog. The
command thread writes it after each send; the safety loop reads it, sends STOP and clears it. The
two threads take no lock, so a step of one may fall between any two of the other.

* **`Guarded`** — what the watchdog promises in one state.
* **`Pending`** — a safety stop that is about to be sent has found the watchdog armed. Every step
  keeps it.
* **`keepsGuard`** — the condition on one step: what may not happen while the robot moves.
* **`guarded_iff`** — the promise holds all along a run exactly when every step meets it.
-/

namespace NexusN3.Robot

open Lib

inductive MotionAction where
  | FWD
  | BWD
  | LEFT
  | RIGHT
  | STOP
  deriving DecidableEq

structure MotionCommand where
  action : MotionAction
  speed : Rat
  robotId : Option String := none
  source : Option String := none
  deriving DecidableEq

/-- `MotionCommand.stop`. -/
def MotionCommand.stop (robotId : Option String := none) (source : Option String := none) :
    MotionCommand where
  action := .STOP
  speed := 0
  robotId := robotId
  source := source

/-- Where the command thread stands in `handle_motion`. -/
inductive CommandThread where
  | idle
  | sending (cmd : MotionCommand)
  | marking
  deriving DecidableEq

/-- Where the safety loop stands in `tick`. -/
inductive SafetyLoop where
  | idle
  | sending
  | marking
  | clearing
  deriving DecidableEq

/-- The adapter, its transport and the two threads. Times are in nanoseconds. -/
structure Adapter where
  robotId : String
  stopOnDisconnectMs : Int
  /-- `_last_motion_ts`; 0 is the cleared timestamp -/
  lastMotionTs : Nat := 0
  /-- what `time.monotonic()` reads -/
  now : Nat
  /-- the last command written to the transport -/
  lastWritten : Option MotionCommand := none
  commandThread : CommandThread := .idle
  safetyLoop : SafetyLoop := .idle
  deriving DecidableEq

inductive Action where
  | advance (ns : Nat)
  /-- `handle_motion(cmd)` is called by the command thread -/
  | handleMotion (cmd : MotionCommand)
  /-- `stop()` is called by the command thread -/
  | stop
  /-- its `transport.send` returns, or raises -/
  | commandSend (sent : Bool)
  | commandMark
  /-- `tick()` is called by the safety loop and makes its check -/
  | tick
  | tickSend (sent : Bool)
  | tickMark
  | tickClear
  deriving DecidableEq

namespace Adapter

/-- `_mark_motion`. -/
def markMotion (s : Adapter) : Adapter :=
  { s with lastMotionTs := s.now }

/-- The check of `tick`: whether it goes on to stop the robot. -/
def stopDue (s : Adapter) : Bool :=
  if s.stopOnDisconnectMs ≤ 0 then false
  else if s.lastMotionTs = 0 then false
  else decide (s.stopOnDisconnectMs * 1000000 ≤ (s.now : Int) - s.lastMotionTs)

def step : Machine Adapter Action
  | s, .advance ns => some { s with now := s.now + ns }
  | s, .handleMotion cmd =>
    match s.commandThread with
    | .idle => some { s with commandThread := .sending cmd }
    | _ => none
  | s, .stop =>
    match s.commandThread with
    | .idle => some { s with commandThread := .sending (.stop s.robotId) }
    | _ => none
  | s, .commandSend sent =>
    match s.commandThread with
    | .sending cmd =>
      if sent then some { s with lastWritten := some cmd, commandThread := .marking }
      -- the exception leaves `handle_motion` before the mark
      else some { s with commandThread := .idle }
    | _ => none
  | s, .commandMark =>
    match s.commandThread with
    | .marking => some { s.markMotion with commandThread := .idle }
    | _ => none
  | s, .tick =>
    match s.safetyLoop with
    | .idle => some (if s.stopDue then { s with safetyLoop := .sending } else s)
    | _ => none
  | s, .tickSend sent =>
    match s.safetyLoop with
    | .sending =>
      if sent then some { s with lastWritten := some (.stop s.robotId), safetyLoop := .marking }
      -- the exception leaves `tick` before the timestamp is cleared
      else some { s with safetyLoop := .idle }
    | _ => none
  | s, .tickMark =>
    match s.safetyLoop with
    | .marking => some { s.markMotion with safetyLoop := .clearing }
    | _ => none
  | s, .tickClear =>
    match s.safetyLoop with
    | .clearing => some { s with lastMotionTs := 0, safetyLoop := .idle }
    | _ => none

/-- The last command written moves the robot. -/
def moving (s : Adapter) : Bool :=
  s.lastWritten.any fun cmd => decide (cmd.action ≠ .STOP)

/-- No call is in progress. -/
def quiet (s : Adapter) : Bool :=
  decide (s.commandThread = .idle ∧ s.safetyLoop = .idle)

/-- What the watchdog promises. -/
structure Guarded (s : Adapter) : Prop where
  /-- a moving robot is watched -/
  armed : s.moving = true → s.quiet = true → s.lastMotionTs ≠ 0
  /-- a tick beyond the timeout stops it -/
  stops : s.moving = true → s.quiet = true → ∀ ns,
    s.stopOnDisconnectMs * 1000000 ≤ ((s.now + ns : Nat) : Int) - s.lastMotionTs →
    (Machine.exec step s [.advance ns, .tick, .tickSend true]).map Adapter.lastWritten
      = some (some (.stop s.robotId))
  /-- a tick whose STOP could not be sent leaves the watchdog armed -/
  stays : ∀ s', step s (.tickSend false) = some s' → s'.lastMotionTs ≠ 0

/-- The condition on one step that can be taken. The timestamp is not cleared under a moving
robot whose command thread is idle; and with the timestamp cleared under it, a command whose send
fails is not the last call in progress. -/
def keepsGuard (s : Adapter) (a : Action) : Prop :=
  (step s a).isSome = true → s.moving = true →
    match a with
    | .tickClear => s.commandThread ≠ .idle
    | .commandSend false => s.safetyLoop = .idle → s.lastMotionTs ≠ 0
    | _ => True

instance (s : Adapter) (a : Action) : Decidable (s.keepsGuard a) :=
  have : Decidable (match a with
      | .tickClear => s.commandThread ≠ .idle
      | .commandSend false => s.safetyLoop = .idle → s.lastMotionTs ≠ 0
      | _ => True) := by
    split <;> infer_instance
  inferInstanceAs (Decidable (_ → _ → _))

/-! ## What every step keeps -/

/-- The timeout is on, the clock is running, and a safety stop about to be sent has found the
watchdog armed. -/
structure Pending (s : Adapter) : Prop where
  timeout : 0 < s.stopOnDisconnectMs
  clock : 0 < s.now
  due : s.safetyLoop = .sending → s.lastMotionTs ≠ 0

theorem lastMotionTs_of_stopDue {s : Adapter} (h : s.stopDue = true) : s.lastMotionTs ≠ 0 := by
  unfold stopDue at h
  split at h
  · cases h
  · split at h
    · cases h
    · assumption

theorem pending_step {s s' : Adapter} {a : Action} (hstep : step s a = some s')
    (h : s.Pending) : s'.Pending := by
  obtain ⟨htimeout, hclock, hdue⟩ := h
  cases a with
  | advance ns =>
    cases hstep
    exact ⟨htimeout, Nat.add_pos_left hclock ns, hdue⟩
  | handleMotion cmd =>
    simp only [step] at hstep
    split at hstep <;> cases hstep
    exact ⟨htimeout, hclock, hdue⟩
  | stop =>
    simp only [step] at hstep
    split at hstep <;> cases hstep
    exact ⟨htimeout, hclock, hdue⟩
  | commandSend sent =>
    simp only [step] at hstep
    split at hstep
    · cases sent <;> cases hstep <;> exact ⟨htimeout, hclock, hdue⟩
    · cases hstep
  | commandMark =>
    simp only [step] at hstep
    split at hstep <;> cases hstep
    -- the mark arms the watchdog, whatever the safety loop is at
    exact ⟨htimeout, hclock, fun _ => Nat.pos_iff_ne_zero.mp hclock⟩
  | tick =>
    simp only [step] at hstep
    split at hstep <;> cases hstep
    split
    · rename_i hstop
      exact ⟨htimeout, hclock, fun _ => lastMotionTs_of_stopDue hstop⟩
    · exact ⟨htimeout, hclock, hdue⟩
  | tickSend sent =>
    simp only [step] at hstep
    split at hstep
    · cases sent <;> cases hstep <;> exact ⟨htimeout, hclock, fun h => by cases h⟩
    · cases hstep
  | tickMark =>
    simp only [step] at hstep
    split at hstep <;> cases hstep
    exact ⟨htimeout, hclock, fun h => by cases h⟩
  | tickClear =>
    simp only [step] at hstep
    split at hstep <;> cases hstep
    exact ⟨htimeout, hclock, fun h => by cases h⟩

/-! ## The promise -/

/-- A robot at rest between calls is watched if it moves. -/
def Armed (s : Adapter) : Prop :=
  s.moving = true → s.quiet = true → s.lastMotionTs ≠ 0

theorem quiet_iff {s : Adapter} :
    s.quiet = true ↔ s.commandThread = .idle ∧ s.safetyLoop = .idle := by
  simp [quiet]

theorem step_tick {s : Adapter} (hloop : s.safetyLoop = .idle) (hdue : s.stopDue = true) :
    step s .tick = some { s with safetyLoop := .sending } := by
  simp only [step, hloop, hdue, if_true]

/-- An armed watchdog stops the robot at the first tick beyond the timeout. -/
theorem exec_stops {s : Adapter} (htimeout : 0 < s.stopOnDisconnectMs) (hquiet : s.quiet = true)
    (harmed : s.lastMotionTs ≠ 0) {ns : Nat}
    (hns : s.stopOnDisconnectMs * 1000000 ≤ ((s.now + ns : Nat) : Int) - s.lastMotionTs) :
    (Machine.exec step s [.advance ns, .tick, .tickSend true]).map Adapter.lastWritten
      = some (some (.stop s.robotId)) := by
  have hloop : s.safetyLoop = .idle := (quiet_iff.mp hquiet).2
  have hdue : ({ s with now := s.now + ns } : Adapter).stopDue = true := by
    unfold stopDue
    rw [if_neg (Int.not_le.mpr htimeout), if_neg harmed]
    exact decide_eq_true hns
  have htick := step_tick (s := { s with now := s.now + ns }) hloop hdue
  rw [Machine.exec_cons]
  show ((step { s with now := s.now + ns } .tick).bind _).map _ = _
  rw [htick]
  rfl

theorem Pending.guarded_step_iff {s : Adapter} (h : s.Pending) : s.Guarded ↔ s.Armed := by
  constructor
  · exact fun hguarded => hguarded.armed
  · intro harmed
    refine ⟨harmed, ?_, ?_⟩
    · exact fun hmoving hquiet ns hns => exec_stops h.timeout hquiet (harmed hmoving hquiet) hns
    · intro s' hs'
      simp only [step] at hs'
      split at hs'
      · rename_i hloop
        cases hs'
        exact h.due hloop
      · cases hs'

/-- From an armed state a step leads to an armed state exactly when it keeps the guard. -/
theorem armed_step_iff {s s' : Adapter} {a : Action} (h : s.Pending) (harmed : s.Armed)
    (hstep : step s a = some s') : s'.Armed ↔ s.keepsGuard a := by
  have henabled : (step s a).isSome = true := by rw [hstep]; rfl
  unfold keepsGuard
  rw [imp_iff_right henabled]
  cases a with
  | advance ns =>
    cases hstep
    exact iff_of_true harmed fun _ => trivial
  | handleMotion cmd =>
    simp only [step] at hstep
    split at hstep <;> cases hstep
    exact iff_of_true (fun _ hquiet => by simp [quiet_iff] at hquiet) fun _ => trivial
  | stop =>
    simp only [step] at hstep
    split at hstep <;> cases hstep
    exact iff_of_true (fun _ hquiet => by simp [quiet_iff] at hquiet) fun _ => trivial
  | commandSend sent =>
    simp only [step] at hstep
    split at hstep
    · cases sent with
      | true =>
        cases hstep
        exact iff_of_true (fun _ hquiet => by simp [quiet_iff] at hquiet) fun _ => trivial
      | false =>
        cases hstep
        -- the command thread is idle again: the rest is up to the safety loop
        simp [Armed, quiet_iff, moving]
    · cases hstep
  | commandMark =>
    simp only [step] at hstep
    split at hstep <;> cases hstep
    exact iff_of_true (fun _ _ => Nat.pos_iff_ne_zero.mp h.clock) fun _ => trivial
  | tick =>
    simp only [step] at hstep
    split at hstep <;> cases hstep
    refine iff_of_true ?_ fun _ => trivial
    split
    · exact fun _ hquiet => by simp [quiet_iff] at hquiet
    · exact harmed
  | tickSend sent =>
    simp only [step] at hstep
    split at hstep
    · rename_i hloop
      cases sent with
      | true =>
        cases hstep
        exact iff_of_true (fun _ hquiet => by simp [quiet_iff] at hquiet) fun _ => trivial
      | false =>
        cases hstep
        exact iff_of_true (fun _ _ => h.due hloop) fun _ => trivial
    · cases hstep
  | tickMark =>
    simp only [step] at hstep
    split at hstep <;> cases hstep
    exact iff_of_true (fun _ hquiet => by simp [quiet_iff] at hquiet) fun _ => trivial
  | tickClear =>
    simp only [step] at hstep
    split at hstep <;> cases hstep
    -- the timestamp is cleared, so the promise is that the robot does not move or is not at rest
    simp [Armed, quiet_iff, moving]

/-! ## Every interleaving -/

/-- The adapter as it is built, at a clock that runs. -/
def boot (robotId : String) (timeout : { ms : Int // 0 < ms }) (clock : { ns : Nat // 0 < ns }) :
    Adapter where
  robotId := robotId
  stopOnDisconnectMs := timeout
  now := clock

/-- The watchdog guards the robot after every step of an interleaving exactly when every step
keeps the guard. -/
theorem guarded_iff (robotId : String) (timeout : { ms : Int // 0 < ms })
    (clock : { ns : Nat // 0 < ns }) (actions : List Action) :
    (∀ k s, Machine.exec step (boot robotId timeout clock) (actions.take k) = some s → s.Guarded)
      ↔ Machine.Along step keepsGuard (boot robotId timeout clock) actions := by
  have hpending : (boot robotId timeout clock).Pending :=
    ⟨timeout.2, clock.2, fun h => by cases h⟩
  apply Machine.always_iff_along_of_step (J := Pending) hpending
  · exact fun s a s' hs hstep => pending_step hstep hs
  · exact fun s a hstep henabled => by simp [hstep] at henabled
  · intro s a s' hs hguarded hstep
    rw [← armed_step_iff hs (hs.guarded_step_iff.mp hguarded) hstep,
      ← (pending_step hstep hs).guarded_step_iff]
  · exact hpending.guarded_step_iff.mpr fun hmoving => by simp [moving, boot] at hmoving

/-- FORWARD is sent and marked between the STOP of a tick and its clear. -/
def disarmed : List Action :=
  [.handleMotion ⟨.FWD, 1, none, none⟩, .commandSend true, .commandMark, .advance 500000000,
    .tick, .tickSend true, .tickMark,
    .handleMotion ⟨.FWD, 1, none, none⟩, .commandSend true, .commandMark, .tickClear]

theorem disarmed_while_moving :
    ¬ ∀ k s, Machine.exec step (boot "rover-01" ⟨500, by decide⟩ ⟨1, by decide⟩)
      (disarmed.take k) = some s → s.Guarded := by
  intro hall
  have hend : (Machine.exec step (boot "rover-01" ⟨500, by decide⟩ ⟨1, by decide⟩) disarmed).map
      (fun s => (s.moving, s.quiet, s.lastMotionTs)) = some (true, true, 0) := by decide +kernel
  obtain ⟨s, hs, hview⟩ := Option.map_eq_some_iff.mp hend
  obtain ⟨hmoving, hquiet, hts⟩ : s.moving = true ∧ s.quiet = true ∧ s.lastMotionTs = 0 := by
    simpa using hview
  exact (hall 11 s hs).armed hmoving hquiet hts

end Adapter

end NexusN3.Robot
