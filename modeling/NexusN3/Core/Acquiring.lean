import NexusN3.Core.Sustain
import NexusN3.Core.StopWins

/-!
# Reconfiguring a Core that acquires

`init_core` and `reset_session` read one hand-written set of phases and the streaming
flags. Neither covers every state between an accepted start and the end of the acquisition:
in `ready_for_official` and in `retrying_startup` the sensors run, or are about to, with no
flag up and a phase outside the set; a stop callback that arrives during a startup puts the
phase back to `idle`; and a stop and another command that overlap undo each other's marks.

* **`GuardSafe`** — the step opens none of these gaps;
* **`GuardInv`** — what such steps keep: at most one command in flight, and while the Core
  acquires the command in flight, or the guard itself, vouches for the refusal;
* **`refuses_of_guardSafe`** — in runs of such steps an acquiring Core refuses both methods;
* **`acquiring_ready_not_refused`** — a coordinated start that waits for its commit, and can
  be reset away.
-/

namespace NexusN3

open Lib

namespace Thread

def isStart : Thread → Bool
  | .startAccepted _ _ | .startWritten _ => true
  | _ => false

def isStop : Thread → Bool
  | .stop _ _ _ _ => true
  | _ => false

def isCommand (t : Thread) : Bool := t.isStart || t.isStop

theorem isCommand_of_isStart {t : Thread} (h : t.isStart = true) : t.isCommand = true := by
  simp [isCommand, h]

end Thread

namespace World

def StartInFlight (w : World) : Prop := ∃ t ∈ w.threads, t.isStart = true

def CommandInFlight (w : World) : Prop := ∃ t ∈ w.threads, t.isCommand = true

instance (w : World) : Decidable w.StartInFlight :=
  inferInstanceAs (Decidable (∃ t ∈ w.threads, t.isStart = true))

instance (w : World) : Decidable w.CommandInFlight :=
  inferInstanceAs (Decidable (∃ t ∈ w.threads, t.isCommand = true))

/-- **The condition on a section.** A subject-scoped start knows its ids; no gate reaches a
verdict between the acceptance of a start and its arming; no coordinated gate becomes
ready. -/
def GuardSafeSection (w : World) (env : SectionEnv) : Thread → Prop
  | .startAccepted p true => w.core.resolves p = true
  | .gate k =>
    (w.core.gateDecide k env.activation).2 = .stale
      ∨ (w.core.gateDecide k env.activation).2 = .unstable ∨ ¬ w.StartInFlight
  | .gatePrepared k none => k ≠ w.core.startupGateToken ∨ w.core.streamPhase ≠ .preparingOfficial
  | _ => True

/-- A gate whose window closes for the last time. -/
def LastAttempt (w : World) : Thread → Prop
  | .gate k => k ≠ w.core.startupGateToken ∨ w.core.streamPhase ≠ .warmingUp
      ∨ w.core.policy.maxAttempts ≤ w.core.startupAttempt
  | _ => True

/-- A subject-scoped stop that covers every subject or leaves another one streaming. -/
def ScopedStopSafe (w : World) : Except String StopRequest → Prop
  | .ok r => w.acquiring = true →
      r.covers w.core = true ∨ w.core.otherSubjectsActive r.subjectIds = true
  | .error _ => True

/-- **The condition on a step.** Starts and stops come one at a time; a subject-scoped stop
leaves another subject streaming; no stop callback reaches a startup; no attempt is retried;
a stop raises only with a subject still streaming. -/
def GuardSafe (w : World) : Action → Prop
  | .startStream _ | .startStreamForSubjects _ | .stopStream _ _ => ¬ w.CommandInFlight
  | .stopStreamForSubjects ids sid _ =>
    ¬ w.CommandInFlight ∧ w.ScopedStopSafe (w.core.stopSubjectsRequest ids sid)
  | .onStreamStopped => w.acquiring = true → ¬ w.StartInFlight
      ∧ (w.core.hasActiveStreams = true ∨ w.FullStopInFlight)
  | .advance i env => ∀ t ∈ w.threads[i]?, w.GuardSafeSection env t
  | .gateTimeout i => ∀ t ∈ w.threads[i]?, w.LastAttempt t
  | .stopRaise _ => w.acquiring = true → w.core.hasActiveStreams = true
  | _ => True

/-- What a command in flight vouches for. -/
def Stands (c : Core) : Thread → Prop
  | .startAccepted _ _ | .startWritten _ => c.streamPhase.busy = true
  | .stop _ _ true stage => (stage.inBody = true ∧ c.streamStopFinalizationPending = true)
      ∨ (stage.inBody = false ∧ c.hasActiveStreams = true)
  | .stop r _ false _ => c.OthersActive r
  | _ => True

structure Standing (w : World) : Prop where
  recovery : w.core.recoveryInProgress = false
  phase : w.core.streamPhase ≠ .startupFailed
  tracked : ¬ w.StartInFlight → w.core.Tracked
  command : ∀ t ∈ w.threads, t.isCommand = true → Stands w.core t
  free : ¬ w.CommandInFlight → w.core.acquisitionGuard = true

structure GuardInv (w : World) : Prop where
  ready : w.core.streamPhase ≠ .readyForOfficial
  retrying : w.core.streamPhase ≠ .retryingStartup
  commits : ∀ t ∈ w.threads, t.commitToken? = none
  alone : ∀ (i j : Nat) (t u : Thread), w.threads[i]? = some t → w.threads[j]? = some u →
    t.isCommand = true → u.isCommand = true → i = j
  standing : w.acquiring = true → Standing w

/-- Whatever is in flight, an acquiring Core refuses. -/
theorem GuardInv.refuses {w : World} (h : GuardInv w) (hacq : w.acquiring = true) :
    w.core.RefusesReconfiguration := by
  have hs := h.standing hacq
  rw [Core.refusesReconfiguration_iff]
  have hguard : w.core.acquisitionGuard = true → w.core.streamStopFinalizationPending = true
      ∨ (w.core.recoveryInProgress = false ∧ w.core.acquisitionGuard = true) :=
    fun hg => .inr ⟨hs.recovery, hg⟩
  have hactive : w.core.hasActiveStreams = true → w.core.acquisitionGuard = true := by
    intro hact
    rw [Core.acquisitionGuard_eq, hact, Bool.true_or]
  -- a command in flight vouches for the refusal, else the guard does
  by_cases hcmd : w.CommandInFlight
  · obtain ⟨t, ht, hc⟩ := hcmd
    have hstands := hs.command t ht hc
    cases t with
    | startAccepted p specific =>
      refine hguard ?_
      rw [Core.acquisitionGuard_eq, show w.core.streamPhase.busy = true from hstands, Bool.or_true]
    | startWritten idxs =>
      refine hguard ?_
      rw [Core.acquisitionGuard_eq, show w.core.streamPhase.busy = true from hstands, Bool.or_true]
    | stop r env full stage =>
      cases full with
      | true =>
        rcases hstands with ⟨-, hpending⟩ | ⟨-, hact⟩
        · exact .inl hpending
        · exact hguard (hactive hact)
      | false => exact hguard (hactive (Core.OthersActive.hasActiveStreams hstands))
    | _ => cases hc
  · exact hguard (hs.free hcmd)

/-! ## Steps beside the commands -/

/-- The commands in flight are the same, each in its place. -/
def SameCommands (w w' : World) : Prop :=
  ∀ (i : Nat) (t : Thread), t.isCommand = true →
    (w'.threads[i]? = some t ↔ w.threads[i]? = some t)

theorem SameCommands.mem {w w' : World} (h : SameCommands w w') {t : Thread}
    (hc : t.isCommand = true) : t ∈ w'.threads ↔ t ∈ w.threads := by
  rw [List.mem_iff_getElem?, List.mem_iff_getElem?]
  exact exists_congr fun i => h i t hc

theorem SameCommands.startInFlight {w w' : World} (h : SameCommands w w') :
    w'.StartInFlight ↔ w.StartInFlight := by
  refine exists_congr fun t => and_congr_left fun hs => ?_
  exact h.mem (Thread.isCommand_of_isStart hs)

theorem SameCommands.commandInFlight {w w' : World} (h : SameCommands w w') :
    w'.CommandInFlight ↔ w.CommandInFlight :=
  exists_congr fun _ => and_congr_left fun hc => h.mem hc

/-- A thread that is no command goes on as one that is none. -/
theorem sameCommands_set {w w' : World} {i : Nat} {t t' : Thread} (ht : w.threads[i]? = some t)
    (hthreads : w'.threads = w.threads.set i t') (hold : t.isCommand = false)
    (hnew : t'.isCommand = false) : SameCommands w w' := by
  intro j u hu
  rw [hthreads, List.getElem?_set]
  split
  · rename_i hij
    subst hij
    have hlt : i < w.threads.length := (List.getElem?_eq_some_iff.mp ht).1
    rw [if_pos hlt, ht]
    constructor
    · intro h
      cases h
      rw [hnew] at hu
      cases hu
    · intro h
      cases h
      rw [hold] at hu
      cases hu
  · rfl

/-- New threads that are no commands leave the commands in flight alone. -/
theorem sameCommands_append {w w' : World} {ts : List Thread}
    (hthreads : w'.threads = w.threads ++ ts) (hts : ∀ t ∈ ts, t.isCommand = false) :
    SameCommands w w' := by
  intro j u hu
  rw [hthreads]
  by_cases hj : j < w.threads.length
  · rw [List.getElem?_append_left hj]
  · rw [not_lt] at hj
    rw [List.getElem?_append_right hj, List.getElem?_eq_none hj]
    constructor
    · intro h
      have := hts u (List.mem_of_getElem? h)
      rw [this] at hu
      cases hu
    · intro h
      cases h

theorem sameCommands_of_eq {w w' : World} (hthreads : w'.threads = w.threads) :
    SameCommands w w' := by
  intro i t _
  rw [hthreads]

/-- Sustaining the Core sustains a stop in flight. -/
theorem stands_of_sustains {c c' : Core} (h : c.Sustains c') {t : Thread}
    (hbusy : t.isStart = true → c.streamPhase.busy = true → c'.streamPhase.busy = true)
    (hs : Stands c t) : Stands c' t := by
  cases t with
  | startAccepted p specific => exact hbusy rfl hs
  | startWritten idxs => exact hbusy rfl hs
  | stop r env full stage =>
    cases full with
    | true =>
      rcases hs with ⟨hbody, hpending⟩ | ⟨hbody, hact⟩
      · exact .inl ⟨hbody, h.pending.trans hpending⟩
      · exact .inr ⟨hbody, h.hasActiveStreams hact⟩
    | false => exact h.othersActive hs
  | _ => trivial

/-- **The rule for a step beside the commands.** -/
theorem GuardInv.beside {w w' : World} (h : GuardInv w) (hsame : SameCommands w w')
    (hready : w'.core.streamPhase ≠ .readyForOfficial)
    (hretry : w'.core.streamPhase ≠ .retryingStartup)
    (hcommits : ∀ t ∈ w'.threads, t.commitToken? = none)
    (hacq : w'.acquiring = true → w.acquiring = true ∧ w'.core.streamPhase ≠ .startupFailed)
    (hsus : w'.acquiring = true → w.core.Sustains w'.core)
    (hbusy : w'.acquiring = true → w.StartInFlight → w.core.streamPhase.busy = true →
      w'.core.streamPhase.busy = true)
    (hfree : w'.acquiring = true → ¬ w.CommandInFlight → w.core.Tracked →
      w.core.acquisitionGuard = true → w'.core.acquisitionGuard = true) : GuardInv w' := by
  refine ⟨hready, hretry, hcommits, ?_, ?_⟩
  · intro i j t u ht hu htc huc
    exact h.alone i j t u ((hsame i t htc).mp ht) ((hsame j u huc).mp hu) htc huc
  · intro ha
    obtain ⟨hold, hfailed⟩ := hacq ha
    have hs := h.standing hold
    have hsus := hsus ha
    refine ⟨hsus.recovery.trans hs.recovery, hfailed, ?_, ?_, ?_⟩
    · intro hno
      exact hsus.tracked (hs.tracked fun hin => hno (hsame.startInFlight.mpr hin))
    · intro t ht hc
      have hmem := (hsame.mem hc).mp ht
      refine stands_of_sustains hsus (fun hst => hbusy ha ⟨t, hmem, hst⟩) (hs.command t hmem hc)
    · intro hno
      have hno' : ¬ w.CommandInFlight := fun hin => hno (hsame.commandInFlight.mpr hin)
      -- with no command in flight no start is, so the subjects are tracked
      have hstart : ¬ w.StartInFlight := fun ⟨t, ht, hst⟩ =>
        hno' ⟨t, ht, Thread.isCommand_of_isStart hst⟩
      exact hfree ha hno' (hs.tracked hstart) (hs.free hno')

theorem acquiring_setCore {w : World} {c : Core} (h : (w.setCore c).acquiring = true) :
    w.acquiring = true ∧ c.streamPhase ≠ .startupFailed := by
  simpa [setCore] using h

/-- A step that moves neither the phase nor a command. -/
theorem GuardInv.unmoved {w w' : World} (h : GuardInv w) (hsame : SameCommands w w')
    (hcommits : ∀ t ∈ w'.threads, t.commitToken? = none)
    (hacq : w'.acquiring = true → w.acquiring = true) (hsus : w.core.Sustains w'.core)
    (hphase : w'.core.streamPhase = w.core.streamPhase) : GuardInv w' := by
  refine h.beside hsame (hphase ▸ h.ready) (hphase ▸ h.retrying) hcommits ?_ (fun _ => hsus) ?_ ?_
  · intro ha
    exact ⟨hacq ha, hphase ▸ (h.standing (hacq ha)).phase⟩
  · intro _ _ hb
    rw [hphase]
    exact hb
  · intro _ _ _ hg
    rw [Core.acquisitionGuard_eq, Bool.or_eq_true] at hg ⊢
    rcases hg with hact | hb
    · exact .inl (hsus.hasActiveStreams hact)
    · exact .inr (hphase ▸ hb)

/-! ## The commands -/

/-- The one command in flight goes on, or ends. -/
theorem GuardInv.alone_set {w : World} (h : GuardInv w) {i : Nat} {t t' : Thread}
    (ht : w.threads[i]? = some t) (hc : t.isCommand = true) :
    ∀ (j k : Nat) (u v : Thread), (w.threads.set i t')[j]? = some u →
      (w.threads.set i t')[k]? = some v → u.isCommand = true → v.isCommand = true → j = k := by
  -- a command at another place would have been there beside `t`
  have hplace : ∀ (j : Nat) (u : Thread), (w.threads.set i t')[j]? = some u →
      u.isCommand = true → j = i := by
    intro j u hu huc
    by_contra hne
    rw [List.getElem?_set_ne (Ne.symm hne)] at hu
    exact hne (h.alone j i u t hu ht huc hc)
  intro j k u v hu hv huc hvc
  rw [hplace j u hu huc, hplace k v hv hvc]

theorem GuardInv.only {w : World} (h : GuardInv w) {i : Nat} {t t' u : Thread}
    (ht : w.threads[i]? = some t) (hc : t.isCommand = true) (hu : u ∈ w.threads.set i t')
    (huc : u.isCommand = true) : u = t' := by
  obtain ⟨j, hj⟩ := List.mem_iff_getElem?.mp hu
  have hlt : i < w.threads.length := (List.getElem?_eq_some_iff.mp ht).1
  by_cases hij : j = i
  · subst hij
    rw [List.getElem?_set_self hlt] at hj
    cases hj
    rfl
  · rw [List.getElem?_set_ne (Ne.symm hij)] at hj
    exact absurd (h.alone j i u t hj ht huc hc) hij

theorem GuardInv.commits_set {w : World} (h : GuardInv w) {i : Nat} {t' : Thread}
    (hnew : t'.commitToken? = none) : ∀ u ∈ w.threads.set i t', u.commitToken? = none := by
  intro u hu
  rcases List.mem_or_eq_of_mem_set hu with hold | rfl
  · exact h.commits u hold
  · exact hnew

/-- **The rule for a section of the command in flight.** -/
theorem GuardInv.command {w w' : World} (h : GuardInv w) {i : Nat} {t t' : Thread}
    (ht : w.threads[i]? = some t) (hc : t.isCommand = true)
    (hthreads : w'.threads = w.threads.set i t') (hnew : t'.commitToken? = none)
    (hready : w'.core.streamPhase ≠ .readyForOfficial)
    (hretry : w'.core.streamPhase ≠ .retryingStartup)
    (hacq : w'.acquiring = true → w.acquiring = true)
    (hstanding : w.acquiring = true → w'.acquiring = true → Stands w.core t →
      w'.core.recoveryInProgress = false ∧ w'.core.streamPhase ≠ .startupFailed
        ∧ (t'.isStart = false → w'.core.Tracked) ∧ (t'.isCommand = true → Stands w'.core t')
        ∧ (t'.isCommand = false → w'.core.acquisitionGuard = true)) : GuardInv w' := by
  have hlt : i < w.threads.length := (List.getElem?_eq_some_iff.mp ht).1
  have hin : t' ∈ w'.threads := by
    rw [hthreads]
    exact List.mem_iff_getElem?.mpr ⟨i, List.getElem?_set_self hlt⟩
  refine ⟨hready, hretry, ?_, ?_, ?_⟩
  · rw [hthreads]
    exact h.commits_set hnew
  · rw [hthreads]
    exact h.alone_set ht hc
  · intro ha
    have hs := h.standing (hacq ha)
    obtain ⟨hrec, hfailed, htracked, hstands, hguard⟩ :=
      hstanding (hacq ha) ha (hs.command t (List.mem_of_getElem? ht) hc)
    refine ⟨hrec, hfailed, ?_, ?_, ?_⟩
    · intro hno
      refine htracked ?_
      by_contra hst
      rw [Bool.not_eq_false] at hst
      exact hno ⟨t', hin, hst⟩
    · -- one command is in flight at most, so `u` is the section that just ran
      intro u hu huc
      rw [hthreads] at hu
      cases h.only ht hc hu huc
      exact hstands huc
    · intro hno
      refine hguard ?_
      by_contra hcmd
      rw [Bool.not_eq_false] at hcmd
      exact hno ⟨t', hin, hcmd⟩

/-- The next section of a full stop that has not completed. -/
theorem stands_fullStop {c c' : Core} {r : StopRequest} {env : StopEnv} {stage next : StopStage}
    (h : (stage.inBody = true ∧ c.streamStopFinalizationPending = true)
      ∨ (stage.inBody = false ∧ c.hasActiveStreams = true))
    (hnext : (stage.advance c r env).2 = some next) (hcore : c' = (stage.advance c r env).1)
    (hclose : stage ≠ .close) : (next.inBody = true ∧ c'.streamStopFinalizationPending = true)
      ∨ (next.inBody = false ∧ c'.hasActiveStreams = true) := by
  have hupdate : ∀ f, (c.updateStopped r f).streamStopFinalizationPending
      = c.streamStopFinalizationPending := by
    intro f
    unfold Core.updateStopped
    split <;> rfl
  subst hcore
  -- inside the body the pending flag is up; behind it the stop has raised and a subject streams
  rcases h with ⟨hbody, hpending⟩ | ⟨hbody, hact⟩
  · left
    cases stage with
    | issue =>
      cases hnext
      refine ⟨rfl, ?_⟩
      show (c.stopIssue r).streamStopFinalizationPending = true
      unfold Core.stopIssue
      split <;> exact hpending
    | collect =>
      cases hnext
      refine ⟨rfl, ?_⟩
      show (c.stopCollect r env.physical).streamStopFinalizationPending = true
      unfold Core.stopCollect
      split
      · exact (hupdate _).trans hpending
      · exact hpending
    | flush =>
      cases hnext
      exact ⟨rfl, (hupdate Core.flushSubject).trans hpending⟩
    | mark =>
      cases hnext
      exact ⟨rfl, (hupdate _).trans hpending⟩
    | close => exact absurd rfl hclose
    | release raised => cases hbody
    | finish raised => cases hbody
  · right
    cases stage with
    | release raised =>
      cases hnext
      exact ⟨rfl, hact⟩
    | finish raised => cases hnext
    | _ => cases hbody

/-- Beside a stop no start is under way. -/
theorem GuardInv.not_startInFlight {w : World} (h : GuardInv w) {i : Nat} {r : StopRequest}
    {env : StopEnv} {full : Bool} {stage : StopStage}
    (ht : w.threads[i]? = some (.stop r env full stage)) : ¬ w.StartInFlight := by
  rintro ⟨u, hu, hst⟩
  obtain ⟨j, hj⟩ := List.mem_iff_getElem?.mp hu
  have hij := h.alone j i u _ hj ht (Thread.isCommand_of_isStart hst) rfl
  subst hij
  rw [ht] at hj
  cases hj
  cases hst

theorem guardInv_stop {w w' : World} (h : GuardInv w) {i : Nat} {r : StopRequest} {env : StopEnv}
    {full : Bool} {stage : StopStage} (ht : w.threads[i]? = some (.stop r env full stage))
    {senv : SectionEnv} (hstep : w.step (.advance i senv) = some w') : GuardInv w' := by
  obtain ⟨t, c, t', events, ht', hadv, rfl⟩ := step_advance hstep
  rw [ht] at ht'
  cases ht'
  simp only [Thread.advance] at hadv
  have hcore : c = (stage.advance w.core r env).1 := by
    split at hadv <;> rename_i heq <;> cases hadv <;> rw [heq]
  have hnext : (∃ next, (stage.advance w.core r env).2 = some next ∧ t' = .stop r env full next)
      ∨ ((stage.advance w.core r env).2 = none ∧ t' = .done) := by
    split at hadv <;> rename_i heq <;> cases hadv <;> rw [heq]
    · exact .inl ⟨_, rfl, rfl⟩
    · exact .inr ⟨rfl, rfl⟩
  have hphase := Core.stopStage_phase w.core r env stage
  rw [← hcore] at hphase
  -- an acquisition outlives the section unless the section completes a full stop
  have hnote : ∀ v : World, (v.noteStop (.stop r env full stage)).acquiring = true →
      v.acquiring = true ∧ ¬ (full = true ∧ stage = .close) := by
    intro v ha
    unfold noteStop at ha
    split at ha
    · cases ha
    · rename_i heq
      cases heq
      refine ⟨ha, ?_⟩
      rintro ⟨-, hclose⟩
      cases hclose
    · rename_i hclose _
      refine ⟨ha, ?_⟩
      rintro ⟨rfl, rfl⟩
      exact hclose r env rfl
  have hacq := hnote (((w.setCore c).setThread i t').emit events)
  have hc := noteStop_core (((w.setCore c).setThread i t').emit events) (.stop r env full stage)
  have hth := noteStop_threads (((w.setCore c).setThread i t').emit events) (.stop r env full stage)
  refine h.command ht rfl hth ?_ ?_ ?_ ?_ ?_
  · rcases hnext with ⟨next, -, rfl⟩ | ⟨-, rfl⟩ <;> rfl
  · rw [hc]
    show c.streamPhase ≠ _
    rcases hphase with hp | hp <;> rw [hp]
    · exact h.ready
    · intro heq
      cases heq
  · rw [hc]
    show c.streamPhase ≠ _
    rcases hphase with hp | hp <;> rw [hp]
    · exact h.retrying
    · intro heq
      cases heq
  · intro ha
    exact (acquiring_setCore (hacq ha).1).1
  · intro hold ha hstands
    have hs := h.standing hold
    have hfin : ∀ raised, stage = .finish raised → w.core.hasActiveStreams = true := by
      rintro raised rfl
      cases full with
      | true =>
        rcases hstands with ⟨hbody, -⟩ | ⟨-, hact⟩
        · cases hbody
        · exact hact
      | false => exact Core.OthersActive.hasActiveStreams hstands
    obtain ⟨hkeep, hsame⟩ := Core.stopStage_keeps w.core r env stage hfin
    rw [← hcore] at hkeep hsame
    have hnostart := h.not_startInFlight ht
    rw [hc]
    refine ⟨hkeep.recovery.trans hs.recovery, ?_, fun _ => hkeep.tracked (hs.tracked hnostart), ?_, ?_⟩
    · show c.streamPhase ≠ _
      rw [hsame]
      exact hs.phase
    · -- the stop goes on
      intro htc
      rcases hnext with ⟨next, hnx, rfl⟩ | ⟨-, rfl⟩
      · cases full with
        | false =>
          show Core.OthersActive c r
          rw [hcore]
          exact Core.othersActive_stopStage env stage hstands
        | true =>
          show (next.inBody = true ∧ c.streamStopFinalizationPending = true)
            ∨ (next.inBody = false ∧ c.hasActiveStreams = true)
          exact stands_fullStop hstands hnx hcore (fun hclose => (hacq ha).2 ⟨rfl, hclose⟩)
      · cases htc
    · -- the stop has ended, with a subject streaming
      intro hend
      rcases hnext with ⟨next, -, rfl⟩ | ⟨hnone, rfl⟩
      · cases hend
      · have hact : c.hasActiveStreams = true := by
          cases stage with
          | finish raised =>
            rw [hcore]
            show (w.core.stopFinish).hasActiveStreams = true
            rw [Core.stopFinish_of_active (hfin raised rfl)]
            exact hfin raised rfl
          | _ => cases hnone
        show c.acquisitionGuard = true
        rw [Core.acquisitionGuard_eq, hact, Bool.true_or]

/-- The writes of a start leave its phase to it. -/
theorem guardInv_startAccepted {w w' : World} (h : GuardInv w) {i : Nat} {p : StartPayload}
    {specific : Bool} (ht : w.threads[i]? = some (.startAccepted p specific)) {env : SectionEnv}
    (hok : w.GuardSafe (.advance i env)) (hstep : w.step (.advance i env) = some w') :
    GuardInv w' := by
  obtain ⟨t, c, t', events, ht', hadv, rfl⟩ := step_advance hstep
  rw [ht] at ht'
  cases ht'
  have hwritten : c.streamPhase = w.core.streamPhase ∧ c.recoveryInProgress = w.core.recoveryInProgress
      ∧ ∃ idxs, t' = .startWritten idxs := by
    cases specific with
    | false =>
      cases hadv
      exact ⟨rfl, rfl, _, rfl⟩
    | true =>
      have hres : w.core.resolves p = true := hok _ ht
      simp only [Thread.advance] at hadv
      unfold Core.resolves at hres
      unfold Core.startSubjectsWrites at hadv
      cases hp : p.subjectIds with
      | none =>
        rw [hp] at hres
        cases hres
      | some ids =>
        simp only [hp] at hres hadv
        -- the ids resolve by the condition, so this start cannot raise after it wrote
        have hget : ∃ idxs, (w.core.startWrite p env.clock).getSubjectsByIds ids = .ok idxs := by
          have hnil : (ids.filter fun sid => (w.core.findSubjectById sid).isNone) = [] := by
            simpa using hres
          refine ⟨ids.filterMap (w.core.startWrite p env.clock).findSubjectById, ?_⟩
          unfold Core.getSubjectsByIds
          rw [show (ids.filter fun sid =>
            ((w.core.startWrite p env.clock).findSubjectById sid).isNone) = [] from hnil]
        obtain ⟨idxs, hidxs⟩ := hget
        rw [hidxs] at hadv
        cases hadv
        exact ⟨rfl, rfl, _, rfl⟩
  obtain ⟨hphase, hrec, idxs, rfl⟩ := hwritten
  refine h.command ht rfl rfl rfl ?_ ?_ ?_ ?_
  · show c.streamPhase ≠ _
    rw [hphase]
    exact h.ready
  · show c.streamPhase ≠ _
    rw [hphase]
    exact h.retrying
  · intro ha
    exact (acquiring_setCore ha).1
  · intro hold ha hstands
    refine ⟨hrec.trans (h.standing hold).recovery, (acquiring_setCore ha).2, ?_, ?_, ?_⟩
    · intro hstart
      cases hstart
    · intro _
      show c.streamPhase.busy = true
      rw [hphase]
      exact hstands
    · intro hstart
      cases hstart

/-- An armed start has the subjects whose addresses it tracks. -/
theorem tracked_startArm (c : Core) (idxs : List Nat) (now : ℚ) : (c.startArm idxs now).Tracked := by
  intro hne
  have haddr : c.addressesAt idxs ≠ [] := hne
  obtain ⟨a, ha⟩ := List.exists_mem_of_ne_nil _ haddr
  obtain ⟨i, hi, hmem⟩ := List.mem_flatMap.mp ha
  cases hs : c.subjects[i]? with
  | none =>
    rw [hs] at hmem
    cases hmem
  | some s =>
    refine ⟨s, List.mem_of_getElem? hs, ?_⟩
    show s.subjectId ∈ c.idsAt idxs
    exact List.mem_filterMap.mpr ⟨i, hi, by rw [hs]; rfl⟩

theorem guardInv_startWritten {w w' : World} (h : GuardInv w) {i : Nat} {idxs : List Nat}
    (ht : w.threads[i]? = some (.startWritten idxs)) {env : SectionEnv}
    (hstep : w.step (.advance i env) = some w') : GuardInv w' := by
  obtain ⟨t, c, t', events, ht', hadv, rfl⟩ := step_advance hstep
  rw [ht] at ht'
  cases ht'
  cases hadv
  refine h.command ht rfl rfl rfl (by nofun) (by nofun) (fun ha => (acquiring_setCore ha).1) ?_
  intro hold _ _
  refine ⟨(h.standing hold).recovery, by nofun, fun _ => tracked_startArm _ _ _, by nofun, ?_⟩
  intro _
  show (w.core.startArm idxs env.now).acquisitionGuard = true
  rw [Core.acquisitionGuard_eq]
  exact Bool.or_true _

/-- A command that enters alone. -/
theorem alone_append {w : World} (hno : ¬ w.CommandInFlight) (t : Thread) :
    ∀ (i j : Nat) (u v : Thread), (w.threads ++ [t])[i]? = some u → (w.threads ++ [t])[j]? = some v →
      u.isCommand = true → v.isCommand = true → i = j := by
  have hplace : ∀ (i : Nat) (u : Thread), (w.threads ++ [t])[i]? = some u → u.isCommand = true →
      i = w.threads.length := by
    intro i u hu hc
    by_contra hne
    rcases lt_or_gt_of_ne hne with hlt | hgt
    · rw [List.getElem?_append_left hlt] at hu
      exact hno ⟨u, List.mem_of_getElem? hu, hc⟩
    · rw [List.getElem?_eq_none (by rw [List.length_append]; exact hgt)] at hu
      cases hu
  intro i j u v hu hv huc hvc
  rw [hplace i u hu huc, hplace j v hv hvc]

theorem mem_spawned_command {w : World} (hno : ¬ w.CommandInFlight) {t u : Thread}
    (hu : u ∈ w.threads ++ [t]) (huc : u.isCommand = true) : u = t := by
  rcases List.mem_append.mp hu with hold | hnew
  · exact absurd ⟨u, hold, huc⟩ hno
  · exact List.mem_singleton.mp hnew

theorem commits_append {w : World} (h : GuardInv w) {ts : List Thread}
    (hts : ∀ t ∈ ts, t.commitToken? = none) : ∀ u ∈ w.threads ++ ts, u.commitToken? = none := by
  intro u hu
  rcases List.mem_append.mp hu with hold | hnew
  · exact h.commits u hold
  · exact hts u hnew

theorem guardInv_acceptStart {w : World} (h : GuardInv w) (hno : ¬ w.CommandInFlight)
    (p : StartPayload) (specific : Bool) : GuardInv (w.acceptStart p specific) := by
  unfold acceptStart
  split
  · exact h
  · rename_i c hacc
    have hc : w.core.recoveryInProgress = false ∧ c = w.core.setPhase .starting := by
      unfold Core.startAccept Core.ensureRecoveryIdle at hacc
      split at hacc
      · cases hacc
      · rename_i hrec
        split at hacc
        · cases hacc
        · cases hacc
          refine ⟨?_, rfl⟩
          cases hr : w.core.recoveryInProgress with
          | false => rfl
          | true =>
            rw [hr] at hrec
            cases hrec
    obtain ⟨hrec, rfl⟩ := hc
    refine ⟨by nofun, by nofun, commits_append h ?_, alone_append hno _, ?_⟩
    · intro t ht
      rw [List.mem_singleton.mp ht]
      rfl
    · -- an acquisition begins here; the accepted start itself stands for it
      intro _
      refine ⟨hrec, by nofun, ?_, ?_, ?_⟩
      · intro hst
        exact absurd ⟨_, List.mem_append_right _ (List.mem_singleton_self _), rfl⟩ hst
      · intro u hu huc
        rw [mem_spawned_command hno hu huc]
        exact rfl
      · intro hcmd
        exact absurd ⟨_, List.mem_append_right _ (List.mem_singleton_self _), rfl⟩ hcmd

theorem stopEnter_phase (c : Core) (r : StopRequest) :
    (c.stopEnter r).streamPhase = c.streamPhase ∨ (c.stopEnter r).streamPhase = .stopping := by
  unfold Core.stopEnter
  dsimp only
  split
  · exact .inl rfl
  · unfold Core.stopGate
    dsimp only
    cases c.streamPhase <;> simp

theorem stopEnter_keeps (c : Core) (r : StopRequest) :
    Core.KeepsStart c (c.stopEnter r) ∧ (c.stopEnter r).streamStopFinalizationPending = true
      ∧ (c.stopEnter r).subjects = c.subjects := by
  unfold Core.stopEnter
  dsimp only
  split <;> exact ⟨⟨rfl, rfl, rfl, rfl, rfl⟩, rfl, rfl⟩

theorem guardInv_beginStop {w : World} (h : GuardInv w) (hno : ¬ w.CommandInFlight)
    {r : StopRequest} (env : StopEnv) (hids : r.subjectIds = w.core.idsAt r.idxs)
    (hgen : r.generation = w.core.subjectsGeneration)
    (hsafe : w.acquiring = true →
      r.covers w.core = true ∨ w.core.otherSubjectsActive r.subjectIds = true) :
    GuardInv (w.beginStop r env) := by
  have hphase := stopEnter_phase w.core r
  obtain ⟨hkeep, hpending, hsub⟩ := stopEnter_keeps w.core r
  refine ⟨?_, ?_, commits_append h ?_, alone_append hno _, ?_⟩
  · show (w.core.stopEnter r).streamPhase ≠ _
    rcases hphase with hp | hp <;> rw [hp]
    · exact h.ready
    · nofun
  · show (w.core.stopEnter r).streamPhase ≠ _
    rcases hphase with hp | hp <;> rw [hp]
    · exact h.retrying
    · nofun
  · intro t ht
    rw [List.mem_singleton.mp ht]
    rfl
  · intro ha
    obtain ⟨hold, hfailed⟩ := acquiring_setCore ha
    have hs := h.standing hold
    have hnostart : ¬ w.StartInFlight := fun ⟨t, ht, hst⟩ =>
      hno ⟨t, ht, Thread.isCommand_of_isStart hst⟩
    refine ⟨hkeep.recovery.trans hs.recovery, hfailed,
      fun _ => hkeep.tracked (hs.tracked hnostart), ?_, ?_⟩
    · intro u hu huc
      rw [mem_spawned_command hno hu huc]
      cases hfull : r.covers w.core with
      | true => exact .inl ⟨rfl, hpending⟩
      | false =>
        -- a partial stop is safe for the subject that streams beside it
        have hother : w.core.otherSubjectsActive r.subjectIds = true := by
          rcases hsafe hold with hcov | hother
          · rw [hfull] at hcov
            cases hcov
          · exact hother
        show Core.OthersActive (w.core.stopEnter r) r
        refine ⟨hgen.trans hkeep.generation.symm, ?_, ?_⟩
        · intro i hi s hsi
          rw [hsub] at hsi
          rw [hids]
          exact List.mem_filterMap.mpr ⟨i, hi, by rw [hsi]; rfl⟩
        · unfold Core.otherSubjectsActive at hother
          obtain ⟨s, hmem, hs⟩ := List.any_eq_true.mp hother
          obtain ⟨i, hi⟩ := List.mem_iff_getElem?.mp hmem
          rw [Bool.and_eq_true, decide_eq_true_eq] at hs
          exact ⟨i, s, by rw [hsub]; exact hi, hs.1, hs.2⟩
    · intro hcmd
      exact absurd ⟨_, List.mem_append_right _ (List.mem_singleton_self _), rfl⟩ hcmd

theorem covers_stopAll (c : Core) (sid : Option String) :
    (c.stopAllRequest sid).covers c = true := by
  simp [StopRequest.covers, Core.stopAllRequest]

/-! ## The gate -/

/-- What a gate does that acts on its verdict. -/
theorem gateDecide_acts {c c' : Core} {k : Nat} {env : ActivationEnv} {out : Core.GateOutcome}
    (h : c.gateDecide k env = (c', out)) (hact : ¬ (out = .stale ∨ out = .unstable)) :
    c.startupAddresses ≠ [] ∧ (c' = c.setPhase .preparingOfficial
      ∨ (∃ c₁, (c.setPhase .activatingOfficial).activateOfficialStreaming env = (c₁, .ok ())
          ∧ c' = c₁.openOfficial)
      ∨ ∃ e, (c.setPhase .activatingOfficial).activateOfficialStreaming env = (c', .error e)) := by
  unfold Core.gateDecide at h
  split at h
  · cases h
    exact absurd (.inl rfl) hact
  · split at h
    · cases h
      exact absurd (.inr rfl) hact
    · rename_i hstable
      have haddr : c.startupAddresses ≠ [] := by
        intro hnil
        apply hstable
        simp [Core.startupStable, hnil]
      refine ⟨haddr, ?_⟩
      split at h
      · cases h
        exact .inl rfl
      · split at h
        · rename_i heq
          cases h
          exact .inr (.inr ⟨_, heq⟩)
        · rename_i heq
          cases h
          exact .inr (.inl ⟨_, heq, rfl⟩)

theorem sustains_setPhase (c : Core) (ph : StreamPhase) : c.Sustains (c.setPhase ph) :=
  ⟨⟨rfl, rfl, rfl, rfl, rfl⟩, rfl, fun _ s hs hup => ⟨s, hs, hup⟩⟩

theorem guardInv_gate {w w' : World} {i k : Nat} {env : SectionEnv} (h : GuardInv w)
    (ht : w.threads[i]? = some (.gate k)) (hok : w.GuardSafe (.advance i env))
    (hstep : w.step (.advance i env) = some w') : GuardInv w' := by
  obtain ⟨t, c, t', events, ht', hadv, rfl⟩ := step_advance hstep
  rw [ht] at ht'
  cases ht'
  rw [noteStop_of_not_stop fun _ _ _ _ heq => by cases heq]
  have ht' : t'.isCommand = false ∧ t'.commitToken? = none := by
    simp only [Thread.advance] at hadv
    split at hadv <;> cases hadv <;> exact ⟨rfl, rfl⟩
  have hsame : SameCommands w (((w.setCore c).setThread i t').emit events) :=
    sameCommands_set ht rfl rfl ht'.1
  have hcommits : ∀ u ∈ (((w.setCore c).setThread i t').emit events).threads,
      u.commitToken? = none := h.commits_set ht'.2
  have hcore : c = (w.core.gateDecide k env.activation).1 := by
    simp only [Thread.advance] at hadv
    split at hadv <;> rename_i heq <;> cases hadv <;> rw [heq]
  replace hok : (w.core.gateDecide k env.activation).2 = .stale
      ∨ (w.core.gateDecide k env.activation).2 = .unstable ∨ ¬ w.StartInFlight := hok _ ht
  cases hg : w.core.gateDecide k env.activation with
  | mk c₁ out =>
    rw [hg] at hcore hok
    cases hcore
    by_cases hwait : out = .stale ∨ out = .unstable
    · cases gateDecide_waits hg hwait
      exact h.unmoved hsame hcommits (fun ha => (acquiring_setCore ha).1) (.refl _) rfl
    · have hnostart : ¬ w.StartInFlight := by
        rcases hok with hs | hu | hf
        · exact absurd (.inl hs) hwait
        · exact absurd (.inr hu) hwait
        · exact hf
      obtain ⟨haddr, hacts⟩ := gateDecide_acts hg hwait
      have hact := (sustains_setPhase w.core .activatingOfficial).trans
        (Core.sustains_activate (w.core.setPhase .activatingOfficial) env.activation)
      have hphase := Core.activate_field (w.core.setPhase .activatingOfficial) env.activation
        Core.streamPhase fun _ => rfl
      rcases hacts with rfl | ⟨c₂, heq, rfl⟩ | ⟨e, heq⟩
      · refine h.beside hsame StreamPhase.noConfusion StreamPhase.noConfusion hcommits acquiring_setCore
          (fun _ => sustains_setPhase _ _) (fun _ hst _ => absurd hst hnostart) ?_
        intro _ _ _ _
        rw [Core.acquisitionGuard_eq]
        exact Bool.or_true _
      · rw [heq] at hact
        have hsus : w.core.Sustains c₂.openOfficial :=
          ⟨⟨hact.ids, hact.generation, hact.startupIds, hact.addresses, hact.recovery⟩,
            hact.pending, hact.flags⟩
        refine h.beside hsame StreamPhase.noConfusion StreamPhase.noConfusion hcommits acquiring_setCore (fun _ => hsus)
          (fun _ hst _ => absurd hst hnostart) ?_
        -- the guard does not know the new phase: it is a streaming flag that holds it up
        intro _ _ htracked _
        have hup : c₂.hasActiveStreams = true := Core.activate_ok_streaming heq (htracked haddr)
        show c₂.openOfficial.acquisitionGuard = true
        rw [Core.acquisitionGuard_eq, show c₂.openOfficial.hasActiveStreams = true from hup,
          Bool.true_or]
      · rw [heq] at hact hphase
        have hphase' : c₁.streamPhase = .activatingOfficial := hphase
        refine h.beside hsame ?_ ?_ hcommits acquiring_setCore (fun _ => hact)
          (fun _ hst _ => absurd hst hnostart) ?_
        · show c₁.streamPhase ≠ _
          rw [hphase']
          exact StreamPhase.noConfusion
        · show c₁.streamPhase ≠ _
          rw [hphase']
          exact StreamPhase.noConfusion
        · intro _ _ _ _
          show c₁.acquisitionGuard = true
          rw [Core.acquisitionGuard_eq, hphase']
          exact Bool.or_true _

/-- A section beside the commands that moves the phase to `startup_failed` at most. -/
theorem GuardInv.failsAtMost {w : World} (h : GuardInv w) {i : Nat} {t t' : Thread} {c : Core}
    (events : List CoreEvent) (ht : w.threads[i]? = some t) (hold : t.isCommand = false)
    (hnew : t'.isCommand = false) (hcommit : t'.commitToken? = none)
    (hc : (w.core.Sustains c ∧ c.streamPhase = w.core.streamPhase)
      ∨ c.streamPhase = .startupFailed) :
    GuardInv (((w.setCore c).setThread i t').emit events) := by
  have hsame : SameCommands w (((w.setCore c).setThread i t').emit events) :=
    sameCommands_set ht rfl hold hnew
  rcases hc with ⟨hsus, hphase⟩ | hfailed
  · exact h.unmoved hsame (h.commits_set hcommit) (fun ha => (acquiring_setCore ha).1) hsus hphase
  · have hnot : ∀ {P : Prop}, (w.setCore c).acquiring = true → P := by
      intro P ha
      exact absurd hfailed (acquiring_setCore ha).2
    refine h.beside hsame ?_ ?_ (h.commits_set hcommit) (fun ha => hnot ha) (fun ha => hnot ha)
      (fun ha => hnot ha) (fun ha => hnot ha)
    · show c.streamPhase ≠ _
      rw [hfailed]
      nofun
    · show c.streamPhase ≠ _
      rw [hfailed]
      nofun

theorem guardInv_advance {w w' : World} {i : Nat} {env : SectionEnv} (h : GuardInv w)
    (hok : w.GuardSafe (.advance i env)) (hstep : w.step (.advance i env) = some w') :
    GuardInv w' := by
  obtain ⟨t, c, t', events, ht, hadv, heq⟩ := step_advance hstep
  have hnocommit := h.commits t (List.mem_of_getElem? ht)
  cases t with
  | gate k => exact guardInv_gate h ht hok hstep
  | stop r senv full stage => exact guardInv_stop h ht hstep
  | startAccepted p specific => exact guardInv_startAccepted h ht hok hstep
  | startWritten idxs => exact guardInv_startWritten h ht hstep
  | done => cases hadv
  | gatePreparing k =>
    subst heq
    have hsame := Core.prepareOfficialPersistence_same w.core env.activation.outputFailure
    have hsus := hsame.sustains
    have hphase := hsame.field Core.streamPhase rfl
    simp only [Thread.advance] at hadv
    split at hadv <;> rename_i hp <;> cases hadv <;> rw [hp] at hsus hphase <;>
      exact h.failsAtMost _ ht rfl rfl rfl (.inl ⟨hsus, hphase⟩)
  | gatePrepared k failure =>
    subst heq
    cases failure with
    | some e =>
      cases hadv
      refine h.failsAtMost _ ht rfl rfl rfl ?_
      unfold Core.gatePrepareFailed
      split
      · exact .inl ⟨.refl _, rfl⟩
      · exact .inr rfl
    | none =>
      -- the condition: a gate never gets to `ready_for_official`, which the guard misses
      have hnot : w.core.gateReady k = none := by
        have hcond : k ≠ w.core.startupGateToken ∨ w.core.streamPhase ≠ .preparingOfficial :=
          hok _ ht
        unfold Core.gateReady
        rw [if_pos hcond]
      simp only [Thread.advance, hnot] at hadv
      cases hadv
      exact h.failsAtMost _ ht rfl rfl rfl (.inl ⟨.refl _, rfl⟩)
  | gateReady sid =>
    subst heq
    cases hadv
    exact h.failsAtMost _ ht rfl rfl rfl (.inl ⟨.refl _, rfl⟩)
  | retry k =>
    subst heq
    cases hadv
    refine h.failsAtMost _ ht rfl rfl rfl (.inl ?_)
    -- the phase is never `retrying_startup` in such runs
    have hsame : w.core.retryStartup k env.now = w.core := by
      unfold Core.retryStartup
      split
      · rfl
      · rw [if_pos (.inr h.retrying)]
    rw [hsame]
    exact ⟨.refl _, rfl⟩
  | commit k => cases hnocommit
  | commitFailed k => cases hnocommit
  | commitActivated k => cases hnocommit
  | commitReporting k sid => cases hnocommit
  | commitFinishing k => cases hnocommit

/-! ## Every step -/

theorem guardInv_onStreamStopped {w : World} (h : GuardInv w) (hok : w.GuardSafe .onStreamStopped) :
    GuardInv ((w.setCore w.core.onStreamStopped).spawn
      (if w.core.retryDue then [.retry w.core.startupGateToken] else [])) := by
  have hdue : w.core.retryDue = false := by simp [Core.retryDue, h.retrying]
  rw [hdue]
  simp only [Bool.false_eq_true, if_false]
  have hsame : SameCommands w ((w.setCore w.core.onStreamStopped).spawn []) :=
    sameCommands_append rfl (List.forall_mem_nil _)
  have hcommits : ∀ t ∈ ((w.setCore w.core.onStreamStopped).spawn []).threads,
      t.commitToken? = none := commits_append h (List.forall_mem_nil _)
  by_cases hfailed : w.core.streamPhase = .startupFailed
  · -- nothing is acquired any more, and the cleanup leaves the phase
    have hphase : w.core.onStreamStopped.streamPhase = .startupFailed := by
      unfold Core.onStreamStopped
      rw [hdue]
      simp only [Bool.false_eq_true, if_false, hfailed]
      obtain ⟨ar, ad, heq⟩ := Core.cleanupFailedStartupSession_eq w.core
      rw [heq]
      exact hfailed
    have hnot : ∀ {P : Prop}, (w.setCore w.core.onStreamStopped).acquiring = true → P :=
      fun ha => absurd hphase (acquiring_setCore ha).2
    refine h.beside hsame ?_ ?_ hcommits (fun ha => hnot ha) (fun ha => hnot ha)
      (fun ha => hnot ha) (fun ha => hnot ha)
    · show w.core.onStreamStopped.streamPhase ≠ _
      rw [hphase]
      exact StreamPhase.noConfusion
    · show w.core.onStreamStopped.streamPhase ≠ _
      rw [hphase]
      exact StreamPhase.noConfusion
  · obtain ⟨ph, hph, heq⟩ := Core.onStreamStopped_eq h.retrying hfailed
    rw [heq] at hsame hcommits ⊢
    have hsus : w.core.Sustains { w.core.setPhase ph with activeSubjectIds := none } :=
      ⟨⟨rfl, rfl, rfl, rfl, rfl⟩, rfl, fun _ s hs hup => ⟨s, hs, hup⟩⟩
    refine h.beside hsame ?_ ?_ hcommits acquiring_setCore (fun _ => hsus) ?_ ?_
    · rcases hph with rfl | rfl <;> exact StreamPhase.noConfusion
    · rcases hph with rfl | rfl <;> exact StreamPhase.noConfusion
    · intro ha hst _
      exact absurd hst (hok (acquiring_setCore ha).1).1
    · intro ha hno _ _
      rcases (hok (acquiring_setCore ha).1).2 with hact | ⟨r, env, stage, hstop⟩
      · show Core.acquisitionGuard { w.core.setPhase ph with activeSubjectIds := none } = true
        rw [Core.acquisitionGuard_eq, show Core.hasActiveStreams
          { w.core.setPhase ph with activeSubjectIds := none } = true from hact, Bool.true_or]
      · exact absurd ⟨_, hstop, rfl⟩ hno

/-- A configuration command on an acquiring Core is refused, and on another one free. -/
theorem GuardInv.configured {w : World} (h : GuardInv w) {c : Core}
    (hphase : c.streamPhase = w.core.streamPhase ∨ c.streamPhase = .idle)
    (hrefused : w.acquiring = true → c = w.core) : GuardInv (w.setCore c) := by
  refine h.beside (sameCommands_of_eq rfl) ?_ ?_ h.commits acquiring_setCore ?_ ?_ ?_
  · show c.streamPhase ≠ _
    rcases hphase with hp | hp <;> rw [hp]
    · exact h.ready
    · nofun
  · show c.streamPhase ≠ _
    rcases hphase with hp | hp <;> rw [hp]
    · exact h.retrying
    · nofun
  · intro ha
    rw [hrefused (acquiring_setCore ha).1]
    exact .refl _
  · intro ha _ hb
    rw [hrefused (acquiring_setCore ha).1]
    exact hb
  · intro ha _ _ hg
    rw [hrefused (acquiring_setCore ha).1]
    exact hg

theorem guardInv_onStreamStarted {w : World} (h : GuardInv w) :
    GuardInv ((w.setCore w.core.onStreamStarted).spawn
      (w.core.gateStarted.map Thread.gate).toList) := by
  have hsame : SameCommands w ((w.setCore w.core.onStreamStarted).spawn
      (w.core.gateStarted.map Thread.gate).toList) := by
    refine sameCommands_append rfl ?_
    intro t ht
    obtain ⟨token, -, rfl⟩ := mem_spawnGate ht
    rfl
  have hcommits : ∀ t ∈ w.threads ++ (w.core.gateStarted.map Thread.gate).toList,
      t.commitToken? = none := by
    refine commits_append h ?_
    intro t ht
    obtain ⟨token, -, rfl⟩ := mem_spawnGate ht
    rfl
  -- the callback moves the phase to `warming_up`, which the guard does cover
  have hphase : w.core.onStreamStarted.streamPhase = w.core.streamPhase
      ∨ w.core.onStreamStarted.streamPhase = .warmingUp := by
    unfold Core.onStreamStarted
    split
    · exact .inl rfl
    · dsimp only
      split
      · exact .inl rfl
      · exact .inr rfl
  have hsus := Core.sustains_onStreamStarted w.core
  refine h.beside hsame ?_ ?_ hcommits acquiring_setCore (fun _ => hsus) ?_ ?_
  · show w.core.onStreamStarted.streamPhase ≠ _
    rcases hphase with hp | hp <;> rw [hp]
    · exact h.ready
    · nofun
  · show w.core.onStreamStarted.streamPhase ≠ _
    rcases hphase with hp | hp <;> rw [hp]
    · exact h.retrying
    · nofun
  · intro _ _ hb
    show w.core.onStreamStarted.streamPhase.busy = true
    rcases hphase with hp | hp <;> rw [hp]
    · exact hb
    · rfl
  · intro _ _ _ hg
    show w.core.onStreamStarted.acquisitionGuard = true
    rw [Core.acquisitionGuard_eq, Bool.or_eq_true] at hg ⊢
    rcases hg with hact | hb
    · exact .inl (hsus.hasActiveStreams hact)
    · right
      rcases hphase with hp | hp <;> rw [hp]
      · exact hb
      · rfl

/-- A window that closes on another gate, or on the last attempt. -/
theorem guardInv_gateTimeout {w : World} (h : GuardInv w) {i k : Nat}
    (ht : w.threads[i]? = some (.gate k)) (hlast : k ≠ w.core.startupGateToken
      ∨ w.core.streamPhase ≠ .warmingUp ∨ w.core.policy.maxAttempts ≤ w.core.startupAttempt) :
    GuardInv ((w.setCore (w.core.gateTimeout k)).setThread i .done) := by
  have hmoves : (w.core.Sustains (w.core.gateTimeout k)
        ∧ (w.core.gateTimeout k).streamPhase = w.core.streamPhase)
      ∨ (w.core.gateTimeout k).streamPhase = .startupFailed := by
    unfold Core.gateTimeout
    split
    · exact .inl ⟨.refl _, rfl⟩
    · rename_i hfresh
      have hmax : ¬ w.core.startupAttempt < w.core.policy.maxAttempts := by
        rcases hlast with hk | hph | hmax
        · exact absurd (.inl hk) hfresh
        · exact absurd (.inr hph) hfresh
        · exact not_lt.mpr hmax
      rw [if_neg hmax]
      exact .inr rfl
  have hinv : GuardInv (((w.setCore (w.core.gateTimeout k)).setThread i .done).emit []) :=
    h.failsAtMost [] ht rfl rfl rfl hmoves
  exact hinv.unmoved (sameCommands_of_eq rfl) hinv.commits id (.refl _) rfl

/-- An exception inside a stop, with a subject still streaming if the Core acquires. -/
theorem guardInv_stopRaise {w : World} (h : GuardInv w) {i : Nat} {r : StopRequest} {env : StopEnv}
    {full : Bool} {stage : StopStage} (ht : w.threads[i]? = some (.stop r env full stage))
    (hactive : w.acquiring = true → w.core.hasActiveStreams = true) :
    GuardInv ((w.setCore w.core.stopAbort).setThread i (.stop r env full (.release true))) := by
  refine h.command ht rfl rfl rfl h.ready h.retrying (fun ha => (acquiring_setCore ha).1) ?_
  intro hold ha hstands
  have hs := h.standing hold
  have hact : w.core.hasActiveStreams = true := hactive hold
  have hnostart := h.not_startInFlight ht
  refine ⟨hs.recovery, hs.phase, fun _ => hs.tracked hnostart, ?_, by nofun⟩
  intro _
  cases full with
  | true => exact .inr ⟨rfl, hact⟩
  | false =>
    have hothers : Core.OthersActive w.core r := hstands
    exact ⟨hothers.generation, hothers.named, hothers.streaming⟩

theorem guardInv_step {w w' : World} {a : Action} (hok : w.GuardSafe a)
    (hstep : w.step a = some w') (h : GuardInv w) : GuardInv w' := by
  cases a with
  | startStream p =>
    cases hstep
    exact guardInv_acceptStart h hok p false
  | startStreamForSubjects p =>
    cases hstep
    exact guardInv_acceptStart h hok p true
  | startOfficialStream p =>
    simp only [step] at hstep
    split at hstep
    · rename_i hbegin
      -- a commit begins in `ready_for_official` only
      exact absurd (Core.commitBegin_eq_begin hbegin).2.2.2.1 h.ready
    · cases hstep
      exact h.unmoved (sameCommands_of_eq rfl) h.commits id (.refl _) rfl
    · cases hstep
      exact h
    · cases hstep
      exact h
  | stopStream sid env =>
    cases hstep
    exact guardInv_beginStop h hok env (stopAllRequest_ids _ sid) rfl
      fun _ => .inl (covers_stopAll _ sid)
  | stopStreamForSubjects ids sid env =>
    obtain ⟨hno, hsafe⟩ := hok
    simp only [step] at hstep
    split at hstep
    · rename_i r hr
      cases hstep
      obtain ⟨-, hids, hgen⟩ := Core.stopSubjectsRequest_eq_ok hr
      rw [hr] at hsafe
      exact guardInv_beginStop h hno env hids hgen hsafe
    · cases hstep
      exact h
  | initCore outcome =>
    cases hstep
    refine h.configured ?_ ?_
    · left
      unfold Core.initCore
      split
      · rfl
      · split <;> rfl
    · intro hacq
      -- an acquiring Core refuses, so the configuration is as it was
      obtain ⟨e, he⟩ := (h.refuses hacq).1 outcome
      rw [he]
  | resetSession refusal =>
    cases hstep
    refine h.configured ?_ ?_
    · left
      unfold Core.resetSession
      split
      · rfl
      · split
        · rfl
        · split
          · rfl
          · split <;> rfl
    · intro hacq
      obtain ⟨e, he⟩ := (h.refuses hacq).2 refusal
      rw [he]
  | resetFinished report =>
    simp only [step] at hstep
    split at hstep
    · rename_i hrec
      cases hstep
      refine h.configured ?_ ?_
      · cases report with
        | none => exact .inl rfl
        | some ready => exact .inr rfl
      · intro hacq
        rw [(h.standing hacq).recovery] at hrec
        cases hrec
    · cases hstep
  | onStreamStarted =>
    cases hstep
    exact guardInv_onStreamStarted h
  | onStreamStopped =>
    cases hstep
    exact guardInv_onStreamStopped h hok
  | onData sample now =>
    cases hstep
    obtain ⟨hsus, hphase⟩ := Core.sustains_onData w.core sample now
    exact h.unmoved (sameCommands_of_eq rfl) h.commits (fun ha => (acquiring_setCore ha).1) hsus hphase
  | advance i env => exact guardInv_advance h hok hstep
  | gateTimeout i =>
    simp only [step] at hstep
    split at hstep
    · rename_i k ht
      cases hstep
      exact guardInv_gateTimeout h ht (hok _ ht)
    · cases hstep
  | stopRaise i =>
    simp only [step] at hstep
    split at hstep
    · rename_i r env full stage ht
      split at hstep
      · cases hstep
        exact guardInv_stopRaise h ht hok
      · cases hstep
    · cases hstep

/-! ## The result -/

theorem guardInv_init (policy : StartupPolicy) : GuardInv { core := { policy := policy } } := by
  refine ⟨StreamPhase.noConfusion, StreamPhase.noConfusion, ?_, ?_, ?_⟩
  · intro t ht
    cases ht
  · intro i j t u ht
    cases List.getElem?_nil.symm.trans ht
  · intro ha
    cases ha

/-- **No reconfiguration while acquiring, where no step opens a gap.** -/
theorem refuses_of_guardSafe (policy : StartupPolicy) {w : World}
    (hrun : Machine.Run step GuardSafe { core := { policy := policy } } w)
    (hacq : w.acquiring = true) : w.core.RefusesReconfiguration := by
  have hinv : GuardInv w :=
    hrun.invariant (guardInv_init policy) fun _ _ _ hok hstep h => guardInv_step hok hstep h
  exact hinv.refuses hacq

/-! ## The two kinds of run -/

instance (w : World) (env : SectionEnv) (t : Thread) : Decidable (w.GuardSafeSection env t) :=
  match t with
  | .startAccepted _ true => inferInstanceAs (Decidable (_ = _))
  | .gate _ => inferInstanceAs (Decidable (_ ∨ _ ∨ _))
  | .gatePrepared _ none => inferInstanceAs (Decidable (_ ∨ _))
  | .startAccepted _ false | .gatePrepared _ (some _) | .startWritten _ | .gatePreparing _
  | .gateReady _ | .retry _ | .commit _ | .commitFailed _ | .commitActivated _
  | .commitReporting _ _ | .commitFinishing _ | .stop _ _ _ _ | .done =>
    inferInstanceAs (Decidable True)

instance (w : World) (t : Thread) : Decidable (w.LastAttempt t) :=
  match t with
  | .gate _ => inferInstanceAs (Decidable (_ ∨ _ ∨ _))
  | .startAccepted _ _ | .startWritten _ | .gatePreparing _ | .gatePrepared _ _ | .gateReady _
  | .retry _ | .commit _ | .commitFailed _ | .commitActivated _ | .commitReporting _ _
  | .commitFinishing _ | .stop _ _ _ _ | .done => inferInstanceAs (Decidable True)

instance (w : World) (request : Except String StopRequest) : Decidable (w.ScopedStopSafe request) :=
  match request with
  | .ok _ => inferInstanceAs (Decidable (_ → _ ∨ _))
  | .error _ => inferInstanceAs (Decidable True)

instance (w : World) (a : Action) : Decidable (w.GuardSafe a) :=
  match a with
  | .startStream _ | .startStreamForSubjects _ | .stopStream _ _ => inferInstanceAs (Decidable (¬ _))
  | .stopStreamForSubjects _ _ _ => inferInstanceAs (Decidable (_ ∧ _))
  | .onStreamStopped => inferInstanceAs (Decidable (_ → _ ∧ _))
  | .advance i env => inferInstanceAs (Decidable (∀ t ∈ w.threads[i]?, w.GuardSafeSection env t))
  | .gateTimeout i => inferInstanceAs (Decidable (∀ t ∈ w.threads[i]?, w.LastAttempt t))
  | .stopRaise _ => inferInstanceAs (Decidable (_ → _))
  | .startOfficialStream _ | .initCore _ | .resetSession _ | .resetFinished _ | .onStreamStarted
  | .onData _ _ => inferInstanceAs (Decidable True)

/-- A local session that streams is neither reinitialised nor reset. -/
theorem refuses_of_guardSafe_localSession :
    ∃ w, Machine.Run step GuardSafe { core := { policy := {} } } w ∧ w.acquiring = true
      ∧ w.core.streamPhase = .officialStreaming ∧ w.core.RefusesReconfiguration := by
  have hrun : (Machine.execOk step GuardSafe { core := { policy := {} } }
      (warmedUp {} ++ sectionsOf 1 1)).map (fun w => (w.acquiring, w.core.streamPhase))
      = some (true, .officialStreaming) := by decide +kernel
  obtain ⟨w, hw, hfields⟩ := Option.map_eq_some_iff.mp hrun
  simp only [Prod.mk.injEq] at hfields
  have hsafe := Machine.Run.of_execOk _ hw
  exact ⟨w, hsafe, hfields.1, hfields.2, refuses_of_guardSafe {} hsafe hfields.1⟩

/-- A state read off an evaluated run in which a Reset is admitted. -/
theorem not_refuses_of_exec {policy : StartupPolicy} {as : List Action} {phase : StreamPhase}
    (h : (Machine.exec step { core := { policy := policy } } as).map (fun w =>
      (w.acquiring, w.core.streamPhase, (w.core.resetSession none).2)) = some (true, phase, .started)) :
    ∃ w, World.Reachable policy w ∧ w.acquiring = true ∧ w.core.streamPhase = phase
      ∧ ¬ w.core.RefusesReconfiguration := by
  obtain ⟨w, hw, hfields⟩ := Option.map_eq_some_iff.mp h
  simp only [Prod.mk.injEq] at hfields
  refine ⟨w, Machine.reach_of_exec as hw, hfields.1, hfields.2.1, ?_⟩
  intro hrefuses
  obtain ⟨e, he⟩ := hrefuses.2 none
  rw [he] at hfields
  cases hfields.2.2

/-- **Two gaps.** A coordinated start that waits for its commit, and with two attempts
configured a startup that is about to be retried: the Core acquires and admits a Reset. -/
theorem acquiring_ready_not_refused :
    (∃ w, World.Reachable {} w ∧ w.acquiring = true ∧ w.core.streamPhase = .readyForOfficial
        ∧ ¬ w.core.RefusesReconfiguration)
      ∧ ∃ w, World.Reachable { maxAttempts := 2 } w ∧ w.acquiring = true
        ∧ w.core.streamPhase = .retryingStartup ∧ ¬ w.core.RefusesReconfiguration := by
  have hready : (Machine.exec step { core := { policy := {} } }
      (warmedUp coordinatedStart ++ sectionsOf 1 4)).map (fun w =>
        (w.acquiring, w.core.streamPhase, (w.core.resetSession none).2))
      = some (true, .readyForOfficial, .started) := by decide +kernel
  have hretry : (Machine.exec step { core := { policy := { maxAttempts := 2 } } }
      (warmedUp {} ++ [.gateTimeout 1])).map (fun w =>
        (w.acquiring, w.core.streamPhase, (w.core.resetSession none).2))
      = some (true, .retryingStartup, .started) := by decide +kernel
  exact ⟨not_refuses_of_exec hready, not_refuses_of_exec hretry⟩

end World

end NexusN3
