import NexusN3.Lib.Unwinding

/-!
# Exclusive client sessions on the shared radio

`ExclusiveClientSession` takes the adapter's lock, scans, hands the radio to its body and restores
the access point before it releases the lock. Its task can be cancelled wherever it waits.

* **`Phase`** — where one task stands, from await to await.
* **`Held`** — the lock, the holder and the acquisitions not yet released agree. Every step keeps
  it.
* **`Safe`** — one session at a time, one release for each acquisition, and no release before its
  restore ran to its end.
* **`sparesRestore`** — the condition on one step: what may not be cancelled.
* **`safe_iff`** — an interleaving is safe all along exactly when every step meets it.
-/

namespace NexusN3.Wifi

open Lib

/-- How a backend operation ends by itself. -/
inductive Outcome where
  | returned
  | raised
  deriving DecidableEq

/-- What leaves a session. -/
inductive Exc where
  | error
  /-- `WifiProvisioningCleanupError` -/
  | cleanupError
  /-- `asyncio.CancelledError` -/
  | cancelledError
  deriving DecidableEq

/-- The task that runs `restore_ap`. -/
inductive RestoreTask where
  | running
  | done (outcome : Outcome)
  | cancelled
  deriving DecidableEq

/-- Why the session restores: `__aenter__` failed with an exception, or `__aexit__` was reached
with what the body raised. -/
inductive Leaving where
  | aenter (exc : Exc)
  | aexit (exc : Option Exc)
  deriving DecidableEq

/-- Where a task waits. -/
inductive Phase where
  | idle
  /-- `self._lock.acquire()` -/
  | acquiring
  /-- `self._backend.begin_provisioning()` -/
  | scanning
  /-- the body of the `async with` -/
  | body
  /-- `asyncio.shield(restore_task)` -/
  | shielded (leaving : Leaving) (restore : RestoreTask)
  /-- `restore_task` itself, after a cancellation -/
  | direct (leaving : Leaving) (restore : RestoreTask)
  deriving DecidableEq

/-- The task is between its acquisition and its release. -/
def Phase.holds : Phase → Bool
  | .idle | .acquiring => false
  | .scanning | .body | .shielded _ _ | .direct _ _ => true

variable {Task : Type} [DecidableEq Task]

/-- One `self._lock.release()`, with the restore task as it was and what the session raised. -/
structure Release (Task : Type) where
  task : Task
  restore : RestoreTask
  exc : Option Exc
  deriving DecidableEq

structure Radio (Task : Type) where
  /-- the lock -/
  locked : Bool
  /-- the tasks that wait for it, the first one first -/
  waiters : List Task
  phase : Task → Phase
  acquisitions : List Task
  releases : List (Release Task)

inductive Action (Task : Type) where
  /-- `async with session` is reached -/
  | aenter (t : Task)
  /-- the wait for the lock ends -/
  | acquired (t : Task)
  | scanEnds (t : Task) (outcome : Outcome)
  /-- the body ends, with the exception it raised -/
  | bodyEnds (t : Task) (exc : Option Exc)
  | restoreEnds (t : Task) (outcome : Outcome)
  /-- the task goes on from the wait for its restore -/
  | resume (t : Task)
  /-- a cancellation is delivered where the task waits -/
  | cancel (t : Task)
  deriving DecidableEq

namespace Radio

def put (s : Radio Task) (t : Task) (phase : Phase) : Radio Task :=
  { s with phase := Function.update s.phase t phase }

/-- The lock goes to a task, which starts its scan. -/
def take (s : Radio Task) (t : Task) : Radio Task :=
  { s.put t .scanning with locked := true, acquisitions := s.acquisitions ++ [t] }

/-- `_restore_shielded` is reached. -/
def restore (s : Radio Task) (t : Task) (leaving : Leaving) : Radio Task :=
  s.put t (.shielded leaving .running)

/-- What the session raises, given what `_restore_shielded` raised. -/
def raises : Leaving → Option Exc → Option Exc
  | .aenter exc, none => some exc
  | .aenter _, some restoreError => some restoreError
  | .aexit exc, none => exc
  | .aexit _, some .cancelledError => some .cancelledError
  | .aexit _, some _ => some .cleanupError

/-- `self._lock.release()`, after `_restore_shielded` ended. -/
def release (s : Radio Task) (t : Task) (leaving : Leaving) (restore : RestoreTask)
    (restoreError : Option Exc) : Radio Task :=
  { s.put t .idle with
    locked := false
    releases := s.releases ++ [⟨t, restore, raises leaving restoreError⟩] }

def step : Machine (Radio Task) (Action Task)
  | s, .aenter t =>
    match s.phase t with
    | .idle =>
      if s.locked = false ∧ s.waiters = [] then some (s.take t)
      else some { s.put t .acquiring with waiters := s.waiters ++ [t] }
    | _ => none
  | s, .acquired t =>
    match s.phase t with
    | .acquiring =>
      if s.locked = false ∧ s.waiters.head? = some t then
        some { s.take t with waiters := s.waiters.tail }
      else none
    | _ => none
  | s, .scanEnds t outcome =>
    match s.phase t with
    | .scanning =>
      match outcome with
      | .returned => some (s.put t .body)
      | .raised => some (s.restore t (.aenter .error))
    | _ => none
  | s, .bodyEnds t exc =>
    match s.phase t with
    | .body => some (s.restore t (.aexit exc))
    | _ => none
  | s, .restoreEnds t outcome =>
    match s.phase t with
    | .shielded leaving .running => some (s.put t (.shielded leaving (.done outcome)))
    | .direct leaving .running => some (s.put t (.direct leaving (.done outcome)))
    | _ => none
  | s, .resume t =>
    match s.phase t with
    | .shielded leaving (.done .returned) => some (s.release t leaving (.done .returned) none)
    | .shielded leaving (.done .raised) => some (s.release t leaving (.done .raised) (some .error))
    -- the second wait returns and `raise` lets the cancellation go on
    | .direct leaving (.done .returned) =>
      some (s.release t leaving (.done .returned) (some .cancelledError))
    | .direct leaving (.done .raised) => some (s.release t leaving (.done .raised) (some .error))
    | _ => none
  | s, .cancel t =>
    match s.phase t with
    | .acquiring => some { s.put t .idle with waiters := s.waiters.erase t }
    | .scanning => some (s.restore t (.aenter .cancelledError))
    | .body => some (s.restore t (.aexit (some .cancelledError)))
    -- the shield keeps the restore running, and the handler waits for it
    | .shielded leaving .running => some (s.put t (.direct leaving .running))
    -- a finished task is awaited without waiting
    | .shielded leaving (.done .returned) =>
      some (s.release t leaving (.done .returned) (some .cancelledError))
    | .shielded leaving (.done .raised) => some (s.release t leaving (.done .raised) (some .error))
    -- the restore is cancelled with its waiter, which goes on with the cancellation
    | .direct leaving .running => some (s.release t leaving .cancelled (some .cancelledError))
    | .direct leaving (.done outcome) =>
      some (s.release t leaving (.done outcome) (some .cancelledError))
    | _ => none

/-- The lock as the adapter builds it, and no session yet. -/
def init : Radio Task where
  locked := false
  waiters := []
  phase := fun _ => .idle
  acquisitions := []
  releases := []

/-! ## The lock and its holder -/

/-- `holder` is the one task that holds the lock, and its acquisition is the one that has not been
released. -/
structure Held (s : Radio Task) (holder : Option Task) : Prop where
  holds : ∀ t, (s.phase t).holds = true ↔ holder = some t
  locked : s.locked = holder.isSome
  released : s.acquisitions = s.releases.map Release.task ++ holder.toList

/-- The lock is released after the restore of the session that held it ran to its end. -/
structure Safe (s : Radio Task) : Prop where
  alone : ∀ t u, (s.phase t).holds = true → (s.phase u).holds = true → t = u
  /-- each acquisition is released once, in order; the last one while its task still holds -/
  once : ∃ holder, s.Held holder
  restored : ∀ r ∈ s.releases, ∃ outcome, r.restore = .done outcome

/-- The condition on one step: no cancellation is delivered to a task that waits for its running
restore directly. -/
def sparesRestore (s : Radio Task) (a : Action Task) : Prop :=
  ∀ t leaving, a = .cancel t → s.phase t ≠ .direct leaving .running

@[simp] theorem put_phase (s : Radio Task) (t u : Task) (phase : Phase) :
    (s.put t phase).phase u = if u = t then phase else s.phase u := by
  unfold put
  exact Function.update_apply s.phase t phase u

omit [DecidableEq Task] in
theorem held_init : (init : Radio Task).Held none := by
  refine ⟨?_, rfl, rfl⟩
  intro t
  simp [init, Phase.holds]

/-- A move between two awaits on the same side of the lock. -/
theorem Held.put {s : Radio Task} {holder : Option Task} (h : s.Held holder) {t : Task}
    {phase : Phase} (hsame : phase.holds = (s.phase t).holds) (waiters : List Task) :
    ({ s.put t phase with waiters := waiters } : Radio Task).Held holder := by
  refine ⟨?_, h.locked, h.released⟩
  intro u
  rw [← h.holds u]
  show ((s.put t phase).phase u).holds = true ↔ _
  rw [put_phase]
  split
  · rename_i hu
    rw [hu, hsame]
  · exact Iff.rfl

theorem Held.restore {s : Radio Task} {holder : Option Task} (h : s.Held holder) {t : Task}
    (ht : (s.phase t).holds = true) (leaving : Leaving) : (s.restore t leaving).Held holder :=
  h.put (by rw [ht]; rfl) s.waiters

theorem Held.take {s : Radio Task} {holder : Option Task} (h : s.Held holder)
    (hfree : s.locked = false) (t : Task) (waiters : List Task) :
    ({ s.take t with waiters := waiters } : Radio Task).Held (some t) := by
  -- an open lock has no holder
  have hnone : holder = none := by
    rw [h.locked] at hfree
    exact Option.isNone_iff_eq_none.mp (by simpa using hfree)
  subst hnone
  refine ⟨?_, rfl, ?_⟩
  · intro u
    show ((s.put t .scanning).phase u).holds = true ↔ _
    rw [put_phase]
    split
    · rename_i hu
      rw [hu]
      simp [Phase.holds]
    · rename_i hu
      rw [h.holds u]
      simpa using fun ht => hu ht.symm
  · show s.acquisitions ++ [t] = s.releases.map Release.task ++ [t]
    rw [h.released, Option.toList_none, List.append_nil]

theorem Held.release {s : Radio Task} {holder : Option Task} (h : s.Held holder) {t : Task}
    (ht : (s.phase t).holds = true) (leaving : Leaving) (restore : RestoreTask)
    (restoreError : Option Exc) : (s.release t leaving restore restoreError).Held none := by
  have hholder : holder = some t := (h.holds t).mp ht
  subst hholder
  refine ⟨?_, rfl, ?_⟩
  · intro u
    show ((s.put t .idle).phase u).holds = true ↔ _
    rw [put_phase]
    split
    · simp [Phase.holds]
    · rename_i hu
      rw [h.holds u]
      simpa using fun ht => hu ht.symm
  · unfold Radio.release
    rw [List.map_append, Option.toList_none, List.append_nil]
    exact h.released

/-! ## What a step does to the lock -/

/-- Nothing, or it is taken, or its holder releases it: after the restore, or without it. -/
inductive Move (s : Radio Task) (a : Action Task) : Radio Task → Prop where
  | stays {t : Task} {phase : Phase} {w : List Task}
      (hsame : phase.holds = (s.phase t).holds) (hspares : s.sparesRestore a) :
      Move s a { s.put t phase with waiters := w }
  | takes {t : Task} {w : List Task} (hfree : s.locked = false)
      (hspares : s.sparesRestore a) : Move s a { s.take t with waiters := w }
  | releases {t : Task} {leaving : Leaving} {outcome : Outcome} {restoreError : Option Exc}
      (ht : (s.phase t).holds = true) (hspares : s.sparesRestore a) :
      Move s a (s.release t leaving (.done outcome) restoreError)
  | abandons {t : Task} {leaving : Leaving} (hcancel : a = .cancel t)
      (ht : s.phase t = .direct leaving .running) :
      Move s a (s.release t leaving .cancelled (some .cancelledError))

omit [DecidableEq Task] in
/-- Only a cancellation can reach a restore. -/
theorem spares_of_ne {s : Radio Task} {a : Action Task} (h : ∀ t, a ≠ .cancel t) :
    s.sparesRestore a :=
  fun t _ ha => absurd ha (h t)

omit [DecidableEq Task] in
/-- A cancellation of a task that waits elsewhere reaches no restore. -/
theorem spares_cancel {s : Radio Task} {t : Task}
    (h : ∀ leaving, s.phase t ≠ .direct leaving .running) : s.sparesRestore (.cancel t) := by
  intro u leaving hu
  cases hu
  exact h leaving

theorem move_of_cancel {s s' : Radio Task} {t : Task} (hstep : step s (.cancel t) = some s') :
    Move s (.cancel t) s' := by
  have hspares (h : ∀ leaving, s.phase t ≠ .direct leaving .running) := spares_cancel h
  simp only [step] at hstep
  split at hstep
  case h_1 ht =>
    cases hstep
    exact .stays (by rw [ht]; rfl) (hspares (by simp [ht]))
  case h_2 ht =>
    cases hstep
    exact .stays (w := s.waiters) (by rw [ht]; rfl) (hspares (by simp [ht]))
  case h_3 ht =>
    cases hstep
    exact .stays (w := s.waiters) (by rw [ht]; rfl) (hspares (by simp [ht]))
  case h_4 ht =>
    cases hstep
    exact .stays (w := s.waiters) (by rw [ht]; rfl) (hspares (by simp [ht]))
  case h_5 ht =>
    cases hstep
    exact .releases (by rw [ht]; rfl) (hspares (by simp [ht]))
  case h_6 ht =>
    cases hstep
    exact .releases (by rw [ht]; rfl) (hspares (by simp [ht]))
  case h_7 ht =>
    cases hstep
    exact .abandons rfl ht
  case h_8 ht =>
    cases hstep
    exact .releases (by rw [ht]; rfl) (hspares (by simp [ht]))
  case h_9 => cases hstep

theorem move_of_step {s s' : Radio Task} {a : Action Task} (hstep : step s a = some s') :
    Move s a s' := by
  cases a with
  | aenter t =>
    have hspares : s.sparesRestore (.aenter t) := spares_of_ne (by simp)
    simp only [step] at hstep
    split at hstep
    · rename_i ht
      split at hstep <;> cases hstep
      · rename_i hfree
        exact .takes (w := s.waiters) hfree.1 hspares
      · exact .stays (by rw [ht]; rfl) hspares
    · cases hstep
  | acquired t =>
    simp only [step] at hstep
    split at hstep
    · split at hstep
      · rename_i hfree
        cases hstep
        exact .takes hfree.1 (spares_of_ne (by simp))
      · cases hstep
    · cases hstep
  | scanEnds t outcome =>
    have hspares : s.sparesRestore (.scanEnds t outcome) := spares_of_ne (by simp)
    simp only [step] at hstep
    split at hstep
    · rename_i ht
      cases outcome <;> cases hstep <;>
        exact .stays (w := s.waiters) (by rw [ht]; rfl) hspares
    · cases hstep
  | bodyEnds t exc =>
    simp only [step] at hstep
    split at hstep
    · rename_i ht
      cases hstep
      exact .stays (w := s.waiters) (by rw [ht]; rfl) (spares_of_ne (by simp))
    · cases hstep
  | restoreEnds t outcome =>
    have hspares : s.sparesRestore (.restoreEnds t outcome) := spares_of_ne (by simp)
    simp only [step] at hstep
    split at hstep
    · rename_i ht
      cases hstep
      exact .stays (w := s.waiters) (by rw [ht]; rfl) hspares
    · rename_i ht
      cases hstep
      exact .stays (w := s.waiters) (by rw [ht]; rfl) hspares
    · cases hstep
  | resume t =>
    have hspares : s.sparesRestore (.resume t) := spares_of_ne (by simp)
    simp only [step] at hstep
    split at hstep
    case h_5 => cases hstep
    all_goals
      rename_i ht
      cases hstep
      exact .releases (by rw [ht]; rfl) hspares
  | cancel t => exact move_of_cancel hstep

theorem Move.held {s s' : Radio Task} {a : Action Task} (hmove : Move s a s')
    (h : ∃ holder, s.Held holder) : ∃ holder, s'.Held holder := by
  obtain ⟨holder, h⟩ := h
  cases hmove with
  | stays hsame _ => exact ⟨holder, h.put hsame _⟩
  | takes hfree _ => exact ⟨_, h.take hfree _ _⟩
  | releases ht _ => exact ⟨none, h.release ht _ _ _⟩
  | abandons _ ht => exact ⟨none, h.release (by rw [ht]; rfl) _ _ _⟩

omit [DecidableEq Task] in
theorem Held.alone {s : Radio Task} {holder : Option Task} (h : s.Held holder) {t u : Task}
    (ht : (s.phase t).holds = true) (hu : (s.phase u).holds = true) : t = u := by
  have hboth : some t = some u := ((h.holds t).mp ht).symm.trans ((h.holds u).mp hu)
  exact Option.some.inj hboth

/-- A step from a safe state leads to a safe state exactly when it spares the restore. -/
theorem Move.safe_step_iff {s s' : Radio Task} {a : Action Task} (hmove : Move s a s')
    (h : s.Safe) : s'.Safe ↔ s.sparesRestore a := by
  have honce := hmove.held h.once
  have hsafe (hrestored : ∀ r ∈ s'.releases, ∃ outcome, r.restore = .done outcome) : s'.Safe := by
    obtain ⟨holder, hheld⟩ := honce
    exact ⟨fun t u => hheld.alone, ⟨holder, hheld⟩, hrestored⟩
  cases hmove with
  | stays _ hspares => exact iff_of_true (hsafe h.restored) hspares
  | takes _ hspares => exact iff_of_true (hsafe h.restored) hspares
  | releases _ hspares =>
    refine iff_of_true (hsafe ?_) hspares
    intro r hr
    rcases List.mem_append.mp hr with hold | hnew
    · exact h.restored r hold
    · rw [List.mem_singleton.mp hnew]
      exact ⟨_, rfl⟩
  | abandons hcancel ht =>
    refine iff_of_false ?_ fun hspares => hspares _ _ hcancel ht
    intro hbad
    obtain ⟨outcome, ho⟩ := hbad.restored _ (List.mem_append_right _ (List.mem_singleton_self _))
    cases ho

/-! ## Every interleaving -/

/-- The radio is safe after every step of an interleaving of the tasks exactly when every step
spares the restore. -/
theorem safe_iff (actions : List (Action Task)) :
    (∀ k s, Machine.exec step (init : Radio Task) (actions.take k) = some s → s.Safe)
      ↔ Machine.Along step sparesRestore (init : Radio Task) actions := by
  have hinit : (init : Radio Task).Safe :=
    ⟨fun t u ht => by simp [init, Phase.holds] at ht, ⟨none, held_init⟩, fun r hr => by cases hr⟩
  apply Machine.always_iff_along_of_step (J := fun _ => True) trivial
  · exact fun _ _ _ _ _ => trivial
  · intro s a hstep t leaving ha ht
    -- such a cancellation is always delivered
    subst ha
    simp [step, ht] at hstep
  · exact fun s a s' _ hs hstep => (move_of_step hstep).safe_step_iff hs
  · exact hinit

/-- One task: the body is cancelled, then each of the two waits for the restore. -/
def cancelledTwice : List (Action Nat) :=
  [.aenter 0, .scanEnds 0 .returned, .bodyEnds 0 none, .cancel 0, .cancel 0]

theorem released_before_restore :
    ¬ ∀ k s, Machine.exec step (init : Radio Nat) (cancelledTwice.take k) = some s → s.Safe := by
  intro hall
  have hend : (Machine.exec step (init : Radio Nat) cancelledTwice).map Radio.releases
      = some [⟨0, .cancelled, some .cancelledError⟩] := by decide
  obtain ⟨s, hs, hreleases⟩ := Option.map_eq_some_iff.mp hend
  obtain ⟨outcome, ho⟩ := (hall 5 s hs).restored ⟨0, .cancelled, some .cancelledError⟩
    (by rw [hreleases]; exact List.mem_singleton_self _)
  cases ho

end Radio

end NexusN3.Wifi
