import NexusN3.Lib.Dict
import NexusN3.Lib.Machine
import Mathlib.Logic.Function.Basic

/-!
# Polling sensors

A sensor that cannot stream is asked for one sample after another by a task of its own.
`PollingStreamService` keeps a task and a stop event for each sensor. Stopping sets the event and
asks the loop to cancel the task; the task ends later, when it is resumed, and the cancellation may
be lost inside `request_sample`.

* **`Polling.step`** — the calls of the service, and one turn of a task between two awaits.
* **`Polls`** — no sensor has two tasks, and no sample is requested of a sensor that was stopped.

`start` does nothing while the last task has not ended, also when that one is already stopped.
-/

namespace NexusN3.Sensors

open Lib

namespace Polling

inductive Phase where
  /-- before its first turn -/
  | scheduled
  | requesting
  | sleeping
  | done
  deriving DecidableEq

/-- `_poll_sensor`, with its stop event. -/
structure Task (σ : Type) where
  sensor : σ
  phase : Phase
  stopped : Bool
  /-- the cancellation is still to be thrown into it -/
  cancelled : Bool

def Task.ended {σ : Type} (t : Task σ) : Bool := decide (t.phase = .done)

structure Service (σ : Type) where
  tasks : List (Task σ)
  /-- `_stream_tasks`, `_stream_stop_events`: the places of the tasks -/
  streamTasks : Dict σ Nat
  streamStopEvents : Dict σ Nat
  /-- whether the sensor was started and not stopped since -/
  wanted : σ → Bool
  /-- the samples requested, and whether the sensor was wanted then -/
  requests : List (σ × Bool)

inductive Action (σ : Type) where
  | start (sensor : σ)
  | stop (sensor : σ)
  | stopAll
  /-- the loop resumes a task; what it awaits has raised or not, and has taken a cancellation in or
  not -/
  | turn (i : Nat) (raised taken : Bool)

variable {σ : Type} [DecidableEq σ]

/-- The task at a place, changed. -/
def modify (s : Service σ) (i : Nat) (f : Task σ → Task σ) : Service σ :=
  { s with tasks := s.tasks.modify i f }

def ended (s : Service σ) (i : Nat) : Bool := (s.tasks[i]?).all Task.ended

def start (s : Service σ) (sensor : σ) : Service σ :=
  if (s.streamTasks.get? sensor).any fun i => !ended s i then s
  else
    { s with
      tasks := s.tasks ++ [⟨sensor, .scheduled, false, false⟩]
      streamTasks := s.streamTasks.set sensor s.tasks.length
      streamStopEvents := s.streamStopEvents.set sensor s.tasks.length
      wanted := Function.update s.wanted sensor true }

def stop (s : Service σ) (sensor : σ) : Service σ :=
  let s :=
    match s.streamStopEvents.get? sensor with
    | none => s
    | some i => modify s i fun t => { t with stopped := true }
  let s :=
    match s.streamTasks.get? sensor with
    | none => s
    | some i => modify s i fun t => if t.ended then t else { t with cancelled := true }
  { s with wanted := Function.update s.wanted sensor false }

def stopAll (s : Service σ) : Service σ := s.streamTasks.keys.foldl stop s

/-- The task goes through the head of its loop. -/
def loopHead (s : Service σ) (i : Nat) (t : Task σ) : Service σ :=
  if t.stopped then modify s i fun t => { t with phase := .done }
  else
    { modify s i fun t => { t with phase := .requesting } with
      requests := s.requests ++ [(t.sensor, s.wanted t.sensor)] }

def step : Machine (Service σ) (Action σ)
  | s, .start sensor => some (start s sensor)
  | s, .stop sensor => some (stop s sensor)
  | s, .stopAll => some (stopAll s)
  | s, .turn i raised taken =>
    match s.tasks[i]? with
    | none => none
    | some t =>
      match t.phase with
      | .done => none
      | .scheduled | .sleeping =>
        -- a cancellation is thrown at the await, or before the first turn
        if t.cancelled then some (modify s i fun t => { t with phase := .done })
        else some (loopHead s i t)
      | .requesting =>
        if raised then some (modify s i fun t => { t with phase := .done })
        else
          some (modify s i fun t =>
            { t with phase := .sleeping, cancelled := t.cancelled && !taken })

def init : Service σ where
  tasks := []
  streamTasks := Dict.empty
  streamStopEvents := Dict.empty
  wanted := fun _ => false
  requests := []

/-- What the service promises. -/
structure Polls (s : Service σ) : Prop where
  single : ∀ (i j : Nat) (t u : Task σ), s.tasks[i]? = some t → s.tasks[j]? = some u →
    t.ended = false → u.ended = false → t.sensor = u.sensor → i = j
  asked : ∀ r ∈ s.requests, r.2 = true

/-- What every step keeps. -/
structure Kept (s : Service σ) : Prop where
  /-- a task that has not ended is the one in the table -/
  listed : ∀ (i : Nat) (t : Task σ), s.tasks[i]? = some t → t.ended = false →
    s.streamTasks.get? t.sensor = some i
  /-- the tables agree -/
  paired : s.streamStopEvents = s.streamTasks
  known : ∀ sensor i, s.streamTasks.get? sensor = some i → ∃ t, s.tasks[i]? = some t ∧
    t.sensor = sensor
  /-- a task of a sensor that was stopped will find its event set -/
  wanted : ∀ (i : Nat) (t : Task σ), s.tasks[i]? = some t → t.ended = false →
    t.stopped = false → s.wanted t.sensor = true
  asked : ∀ r ∈ s.requests, r.2 = true

theorem Kept.polls {s : Service σ} (h : Kept s) : Polls s := by
  refine ⟨?_, h.asked⟩
  intro i j t u ht hu htended huended hsensor
  have hi := h.listed i t ht htended
  have hj := h.listed j u hu huended
  rw [hsensor] at hi
  exact Option.some.inj (hi.symm.trans hj)

/-- A change that ends a task, or leaves open whose it is and makes it stop no less. -/
theorem Kept.modify {s : Service σ} (h : Kept s) (i : Nat) {f : Task σ → Task σ}
    (hsensor : ∀ t, (f t).sensor = t.sensor)
    (hended : ∀ t, s.tasks[i]? = some t → (f t).ended = false → t.ended = false)
    (hstopped : ∀ t, (f t).stopped = false → t.stopped = false) : Kept (modify s i f) := by
  have hback {j : Nat} {u : Task σ} (hu : (s.tasks.modify i f)[j]? = some u) :
      ∃ t, s.tasks[j]? = some t ∧ (u = t ∨ i = j ∧ u = f t) := by
    rw [List.getElem?_modify] at hu
    obtain ⟨t, ht, heq⟩ := Option.map_eq_some_iff.mp hu
    refine ⟨t, ht, ?_⟩
    split at heq
    · rename_i hij
      exact .inr ⟨hij, heq.symm⟩
    · exact .inl heq.symm
  refine ⟨?_, h.paired, ?_, ?_, h.asked⟩
  · intro j u hu huended
    obtain ⟨t, ht, rfl | ⟨rfl, rfl⟩⟩ := hback hu
    · exact h.listed j _ ht huended
    · rw [hsensor]
      exact h.listed i t ht (hended t ht huended)
  · intro sensor j hget
    obtain ⟨t, ht, hof⟩ := h.known sensor j hget
    show ∃ t, (s.tasks.modify i f)[j]? = some t ∧ t.sensor = sensor
    rw [List.getElem?_modify, ht]
    refine ⟨_, rfl, ?_⟩
    split
    · rw [hsensor]
      exact hof
    · exact hof
  · intro j u hu huended hustopped
    obtain ⟨t, ht, rfl | ⟨rfl, rfl⟩⟩ := hback hu
    · exact h.wanted j _ ht huended hustopped
    · rw [hsensor]
      exact h.wanted i t ht (hended t ht huended) (hstopped t hustopped)

/-- A new task comes only when the sensor's last one has ended. -/
theorem Kept.start {s : Service σ} (h : Kept s) (sensor : σ) : Kept (start s sensor) := by
  unfold Polling.start
  split
  · exact h
  · rename_i hfree
    have hother {j : Nat} {u : Task σ} (hu : s.tasks[j]? = some u) (huended : u.ended = false) :
        u.sensor ≠ sensor := by
      rintro rfl
      apply hfree
      rw [h.listed j u hu huended]
      simp [ended, hu, huended]
    have hcases {j : Nat} {u : Task σ}
        (hu : (s.tasks ++ [(⟨sensor, .scheduled, false, false⟩ : Task σ)])[j]? = some u) :
        s.tasks[j]? = some u ∨ j = s.tasks.length ∧ u = ⟨sensor, .scheduled, false, false⟩ := by
      rcases Nat.lt_or_ge j s.tasks.length with hj | hj
      · rw [List.getElem?_append_left hj] at hu
        exact .inl hu
      · rw [List.getElem?_append_right hj] at hu
        have hlast : j - s.tasks.length = 0 := by
          have hlt := (List.getElem?_eq_some_iff.mp hu).1
          simp only [List.length_singleton] at hlt
          omega
        rw [hlast] at hu
        cases hu
        exact .inr ⟨by omega, rfl⟩
    refine ⟨?_, ?_, ?_, ?_, h.asked⟩
    · intro j u hu huended
      rcases hcases hu with hold | ⟨rfl, rfl⟩
      · show (s.streamTasks.set sensor s.tasks.length).get? u.sensor = some j
        rw [Dict.get?_set_ne _ _ (hother hold huended).symm]
        exact h.listed j u hold huended
      · exact Dict.get?_set_self _ _ _
    · show s.streamStopEvents.set sensor _ = s.streamTasks.set sensor _
      rw [h.paired]
    · intro sensor' j hget
      by_cases hsame : sensor = sensor'
      · subst hsame
        have hself : some s.tasks.length = some j := (Dict.get?_set_self ..).symm.trans hget
        cases hself
        exact ⟨_, List.getElem?_concat_length, rfl⟩
      · have hold : s.streamTasks.get? sensor' = some j :=
          (Dict.get?_set_ne _ _ hsame).symm.trans hget
        obtain ⟨t, ht, hof⟩ := h.known sensor' j hold
        refine ⟨t, ?_, hof⟩
        show (s.tasks ++ [_])[j]? = some t
        rw [List.getElem?_append_left (List.getElem?_eq_some_iff.mp ht).1]
        exact ht
    · intro j u hu huended hustopped
      rcases hcases hu with hold | ⟨rfl, rfl⟩
      · show Function.update s.wanted sensor true u.sensor = true
        rw [Function.update_of_ne (hother hold huended)]
        exact h.wanted j u hold huended hustopped
      · exact Function.update_self ..

/-- Nobody wants the sensor any more, once its task is to find the event set. -/
theorem Kept.unwanted {s : Service σ} (h : Kept s) {sensor : σ}
    (hstopped : ∀ i t, s.streamTasks.get? sensor = some i → s.tasks[i]? = some t →
      t.stopped = true) : Kept { s with wanted := Function.update s.wanted sensor false } := by
  refine ⟨h.listed, h.paired, h.known, ?_, h.asked⟩
  intro j u hu huended hustopped
  have hlisted := h.listed j u hu huended
  show Function.update s.wanted sensor false u.sensor = true
  by_cases hsame : u.sensor = sensor
  · rw [hsame] at hlisted
    rw [hstopped j u hlisted hu] at hustopped
    cases hustopped
  · rw [Function.update_of_ne hsame]
    exact h.wanted j u hu huended hustopped

theorem Kept.stop {s : Service σ} (h : Kept s) (sensor : σ) : Kept (stop s sensor) := by
  unfold Polling.stop
  rw [h.paired]
  cases hget : s.streamTasks.get? sensor with
  | none =>
    simp only [hget]
    apply h.unwanted
    intro i t hi
    rw [hget] at hi
    cases hi
  | some i =>
    have hset : (Polling.modify s i fun t => { t with stopped := true }).streamTasks.get? sensor =
        some i := hget
    simp only [hset]
    have hone : Kept (Polling.modify s i fun t => { t with stopped := true }) := by
      apply h.modify
      · exact fun _ => rfl
      · exact fun _ _ => id
      · intro t hnot
        cases hnot
    have htwo : Kept (Polling.modify (Polling.modify s i fun t => { t with stopped := true }) i
        fun t => if t.ended then t else { t with cancelled := true }) := by
      apply hone.modify
      · intro t
        split <;> rfl
      · intro t _ hended
        split at hended
        · exact hended
        · exact hended
      · intro t hstopped
        split at hstopped
        · exact hstopped
        · exact hstopped
    apply htwo.unwanted
    intro k t hk ht
    have hki : k = i := Option.some.inj (hk.symm.trans hget)
    subst hki
    simp only [Polling.modify, List.getElem?_modify, if_true] at ht
    obtain ⟨u, hu, rfl⟩ := Option.map_eq_some_iff.mp ht
    obtain ⟨v, -, rfl⟩ := Option.map_eq_some_iff.mp hu
    split <;> rfl

theorem Kept.stopAll {s : Service σ} (h : Kept s) : Kept (stopAll s) := by
  unfold Polling.stopAll
  induction s.streamTasks.keys generalizing s with
  | nil => exact h
  | cons sensor sensors ih => exact ih (h.stop sensor)

/-- The head of the loop: the task ends, or asks for a sample of a sensor that is wanted. -/
theorem Kept.loopHead {s : Service σ} (h : Kept s) {i : Nat} {t : Task σ}
    (ht : s.tasks[i]? = some t) (hended : t.ended = false) : Kept (loopHead s i t) := by
  unfold Polling.loopHead
  split
  · apply h.modify
    · exact fun _ => rfl
    · intro u _ hu
      cases hu
    · exact fun _ => id
  · rename_i hrunning
    have hstopped : t.stopped = false := by simpa using hrunning
    have hwanted := h.wanted i t ht hended hstopped
    have hrequesting : Kept (Polling.modify s i fun t => { t with phase := .requesting }) := by
      apply h.modify
      · exact fun _ => rfl
      · intro u hu _
        rw [Option.some.inj (hu.symm.trans ht)]
        exact hended
      · exact fun _ => id
    refine ⟨hrequesting.listed, hrequesting.paired, hrequesting.known, hrequesting.wanted, ?_⟩
    intro r hr
    rcases List.mem_append.mp hr with hold | hnew
    · exact h.asked r hold
    · rw [List.mem_singleton.mp hnew]
      exact hwanted

theorem kept_step {s s' : Service σ} {a : Action σ} (hstep : step s a = some s') (h : Kept s) :
    Kept s' := by
  cases a with
  | start sensor =>
    cases hstep
    exact h.start sensor
  | stop sensor =>
    cases hstep
    exact h.stop sensor
  | stopAll =>
    cases hstep
    exact h.stopAll
  | turn i raised taken =>
    have hends : Kept (Polling.modify s i fun t => { t with phase := .done }) := by
      apply h.modify
      · exact fun _ => rfl
      · intro t _ hended
        cases hended
      · exact fun _ => id
    simp only [step] at hstep
    split at hstep
    · cases hstep
    · rename_i t ht
      have hturn (hrunning : t.ended = false) (hresume : (if t.cancelled then
          some (Polling.modify s i fun t => { t with phase := .done }) else
          some (Polling.loopHead s i t)) = some s') : Kept s' := by
        split at hresume <;> cases hresume
        · exact hends
        · exact h.loopHead ht hrunning
      cases hphase : t.phase with
      | done =>
        rw [hphase] at hstep
        cases hstep
      | scheduled =>
        rw [hphase] at hstep
        exact hturn (by simp [Task.ended, hphase]) hstep
      | sleeping =>
        rw [hphase] at hstep
        exact hturn (by simp [Task.ended, hphase]) hstep
      | requesting =>
        rw [hphase] at hstep
        dsimp only at hstep
        split at hstep <;> cases hstep
        · exact hends
        · apply h.modify
          · exact fun _ => rfl
          · intro u hu _
            rw [Option.some.inj (hu.symm.trans ht)]
            simp [Task.ended, hphase]
          · exact fun _ => id

/-- **One poller a sensor, and none for a stopped one.** However starts, stops and turns of tasks
follow one another, and whatever requests raise or take a cancellation in: no sensor has two tasks
that have not ended, and no sample is requested of a sensor that was stopped and not started
since. -/
theorem polls_once {s : Service σ} (hrun : Machine.Reach step init s) : Polls s := by
  have hinit : Kept (init : Service σ) := by
    refine ⟨?_, rfl, ?_, ?_, ?_⟩
    · intro i t ht
      cases ht
    · intro sensor i hget
      cases hget
    · intro i t ht
      cases ht
    · intro r hr
      cases hr
  exact (hrun.invariant hinit fun _ _ _ _ hstep => kept_step hstep).polls

/-- The request takes the cancellation in, and the stop event ends the task. -/
def swallowed : List (Action Unit) :=
  [.start (), .turn 0 false false, .stop (), .start (), .turn 0 false true, .turn 0 false false,
    .start (), .turn 1 false false]

theorem polls_once_swallowed : ∃ s : Service Unit,
    Machine.exec step init swallowed = some s ∧ Polls s :=
  ⟨_, rfl, polls_once (Machine.reach_of_exec swallowed rfl)⟩

end Polling

end NexusN3.Sensors
