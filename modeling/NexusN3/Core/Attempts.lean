import NexusN3.Core.Sections

/-!
# The attempts of a startup

A startup is observed in two phases, which only `_on_stream_started` leads into. The observation
ends in one of the others, in `retrying_startup` only while an attempt is left, and only the retry
counts one.

* **`Paces`** — what a section that is not this callback does to the phase and the counter.
* **`paces_sections`** — every such section paces.
* **`AttemptsKept`** — the invariant: no more attempts than configured, and one left for a retry.
* **`startupAttempt_le_of_reachable`** — so it is in every Core that can be reached.
-/

namespace NexusN3

open Lib

/-- The startup is being observed: a gate thread may still decide it. -/
def StreamPhase.gated : StreamPhase → Bool
  | .warmingUp | .preparingOfficial => true
  | _ => false

namespace Core

/-- What decides how a startup goes on. -/
def pace (c : Core) : StartupPolicy × StreamPhase × Nat :=
  (c.policy, c.streamPhase, c.startupAttempt)

structure Paces (c c' : Core) : Prop where
  policy : c'.policy = c.policy
  gated : c'.streamPhase.gated = true → c.streamPhase.gated = true
  retrying : c'.streamPhase = .retryingStartup → c'.startupAttempt = c.startupAttempt
    ∧ (c.streamPhase = .retryingStartup ∨ c.startupAttempt < c.policy.maxAttempts)
  attempt : c'.startupAttempt = c.startupAttempt ∨ c'.startupAttempt ≤ 1
    ∨ c.streamPhase = .retryingStartup ∧ c'.startupAttempt = c.startupAttempt + 1

theorem Paces.of_same {c c' : Core} (h : c'.pace = c.pace) : Paces c c' := by
  obtain ⟨hpolicy, hrest⟩ := Prod.mk.inj h
  obtain ⟨hphase, hattempt⟩ := Prod.mk.inj hrest
  refine ⟨hpolicy, ?_, ?_, .inl hattempt⟩
  · rw [hphase]
    exact id
  · rw [hphase]
    exact fun hretry => ⟨hattempt, .inl hretry⟩

theorem Paces.refl (c : Core) : Paces c c := .of_same rfl

/-- The section ends in a phase that is neither observed nor retried. -/
theorem Paces.of_phase {c c' : Core} (hpolicy : c'.policy = c.policy)
    (hgated : c'.streamPhase.gated = false) (hretry : c'.streamPhase ≠ .retryingStartup)
    (hattempt : c'.startupAttempt = c.startupAttempt ∨ c'.startupAttempt ≤ 1) : Paces c c' := by
  refine ⟨hpolicy, ?_, fun h => absurd h hretry, ?_⟩
  · intro h
    rw [hgated] at h
    cases h
  · rcases hattempt with hattempt | hattempt
    · exact .inl hattempt
    · exact .inr (.inl hattempt)

/-! ## The gate -/

theorem pace_prepare (c : Core) (failure : Option OutputFailure) :
    (c.prepareOfficialPersistence failure).1.pace = c.pace :=
  (prepareOfficialPersistence_same c failure).field pace rfl

theorem pace_activate (c : Core) (env : ActivationEnv) :
    (c.activateOfficialStreaming env).1.pace = c.pace :=
  activate_field c env pace fun _ => rfl

theorem paces_gateDecide (c : Core) (token : Nat) (env : ActivationEnv) :
    Paces c (c.gateDecide token env).1 := by
  unfold gateDecide
  split
  · exact .refl c
  · rename_i hfresh
    have hwarm : c.streamPhase = .warmingUp := by
      by_contra hne
      exact hfresh (.inr hne)
    split
    · exact .refl c
    · split
      · refine ⟨rfl, fun _ => ?_, nofun, .inl rfl⟩
        rw [hwarm]
        rfl
      · have hpace := pace_activate (c.setPhase .activatingOfficial) env
        split <;> rename_i heq <;> rw [heq] at hpace <;>
          obtain ⟨hpolicy, hrest⟩ := Prod.mk.inj hpace <;>
          obtain ⟨hphase, hattempt⟩ := Prod.mk.inj hrest
        · refine .of_phase hpolicy ?_ ?_ (.inl hattempt)
          · rw [hphase]
            rfl
          · rw [hphase]
            nofun
        · exact .of_phase hpolicy rfl nofun (.inl hattempt)

theorem paces_gatePrepareFailed (c : Core) (token : Nat) (e : String) :
    Paces c (c.gatePrepareFailed token e) := by
  unfold gatePrepareFailed
  split
  · exact .refl c
  · exact .of_phase rfl rfl nofun (.inl rfl)

theorem paces_gateReady {c c' : Core} {token : Nat} (h : c.gateReady token = some c') :
    Paces c c' := by
  unfold gateReady at h
  split at h
  · cases h
  · cases h
    exact .of_phase rfl rfl nofun (.inl rfl)

/-- The window may close on a retry while an attempt is left. -/
theorem paces_gateTimeout (c : Core) (token : Nat) : Paces c (c.gateTimeout token) := by
  unfold gateTimeout
  split
  · exact .refl c
  · split
    · rename_i hleft
      exact ⟨rfl, nofun, fun _ => ⟨rfl, .inr hleft⟩, .inl rfl⟩
    · exact .of_phase rfl rfl nofun (.inl rfl)

theorem paces_retryStartup (c : Core) (token : Nat) (now : ℚ) :
    Paces c (c.retryStartup token now) := by
  unfold retryStartup
  split
  · exact .refl c
  · split
    · exact .refl c
    · rename_i hretry
      rw [not_or, not_not] at hretry
      exact ⟨rfl, nofun, nofun, .inr (.inr ⟨hretry.2, rfl⟩)⟩

/-! ## Starts, commits and stops -/

theorem paces_startAccept {c c' : Core} (h : c.startAccept = .ok c') : Paces c c' := by
  unfold startAccept at h
  split at h
  · cases h
  · split at h
    · cases h
    · cases h
      exact .of_phase rfl rfl nofun (.inl rfl)

theorem stopGate_phase (c : Core) : c.stopGate.streamPhase = .idle
    ∨ c.stopGate.streamPhase = .startupFailed ∨ c.stopGate.streamPhase = .stopping := by
  unfold stopGate
  dsimp only
  split
  · exact .inl rfl
  · exact .inr (.inl rfl)
  · exact .inr (.inr rfl)

theorem paces_stopGate (c : Core) : Paces c c.stopGate := by
  rcases stopGate_phase c with hphase | hphase | hphase <;>
  · refine .of_phase rfl ?_ ?_ (.inl rfl) <;> rw [hphase]
    · rfl
    · nofun

theorem paces_stopEnter (c : Core) (r : StopRequest) : Paces c (c.stopEnter r) := by
  unfold stopEnter
  dsimp only
  split
  · exact .of_same rfl
  -- the two flags taken up first play no part
  · have hgate := paces_stopGate { c with
      streamStopFinalizationPending := true
      stoppingSubjectIds := c.stoppingSubjectIds ∪ r.subjectIds.toFinset }
    exact ⟨hgate.policy, hgate.gated, hgate.retrying, hgate.attempt⟩

theorem pace_updateStopped (c : Core) (r : StopRequest) (f : Subject → Subject) :
    (c.updateStopped r f).pace = c.pace := by
  unfold updateStopped
  split <;> rfl

theorem pace_finalizeSessionArchive (c : Core) : c.finalizeSessionArchive.pace = c.pace := by
  unfold finalizeSessionArchive
  split
  · rfl
  · split <;> rfl

theorem pace_stopClose (c : Core) (r : StopRequest) (env : StopEnv) :
    (c.stopClose r env).pace = c.pace := by
  unfold stopClose
  dsimp only
  generalize env.physical.stopResults _ = results
  split
  · rfl
  · exact pace_finalizeSessionArchive (c.recordStopResults results)

theorem paces_stopStage (c : Core) (r : StopRequest) (env : StopEnv) (stage : StopStage) :
    Paces c (stage.advance c r env).1 := by
  cases stage with
  | issue =>
    show Paces c (c.stopIssue r)
    unfold stopIssue
    split <;> exact .of_same rfl
  | collect =>
    show Paces c (c.stopCollect r env.physical)
    unfold stopCollect
    split
    · exact .of_same (pace_updateStopped c r _)
    · exact .refl c
  | flush => exact .of_same (pace_updateStopped c r flushSubject)
  | mark => exact .of_same (pace_updateStopped c r _)
  | close => exact .of_same (pace_stopClose c r env)
  | release _ => exact .of_same rfl
  | finish _ =>
    show Paces c c.stopFinish
    cases hactive : c.hasActiveStreams with
    | true =>
      rw [stopFinish_of_active hactive]
      exact .of_same rfl
    | false =>
      rw [stopFinish_of_quiet hactive]
      exact .of_phase rfl rfl nofun (.inr (Nat.zero_le 1))

/-! ## The sensor layer and the configuration -/

theorem paces_onStreamStopped (c : Core) : Paces c c.onStreamStopped := by
  unfold onStreamStopped
  dsimp only
  split
  · exact .of_same rfl
  · split
    · obtain ⟨ar, ad, heq⟩ := cleanupFailedStartupSession_eq c
      rw [heq]
      exact .of_same rfl
    · exact .of_same rfl
    · exact .of_phase rfl rfl nofun (.inl rfl)

theorem pace_onData (c : Core) (sample : Sample) (now : ℚ) :
    (c.onData sample now).pace = c.pace := by
  have hrecord : (c.recordStartupSample sample now).pace = c.pace := by
    unfold recordStartupSample
    split
    · rfl
    · split
      · rfl
      · split <;> rfl
  have hingest : ∀ (d : Core) (i : Nat), (d.ingestSample i sample).pace = d.pace := by
    intro d i
    unfold ingestSample
    split <;> rfl
  unfold onData
  dsimp only
  split
  · split
    · exact (hingest _ _).trans hrecord
    · exact hrecord
  · exact hrecord

theorem pace_initCore (c : Core) (outcome : Installation) :
    (c.initCore outcome).1.pace = c.pace := by
  unfold initCore
  split
  · rfl
  · split <;> rfl

theorem pace_resetSession (c : Core) (refusal : Option String) :
    (c.resetSession refusal).1.pace = c.pace := by
  unfold resetSession
  split
  · rfl
  · split
    · rfl
    · split
      · rfl
      · split <;> rfl

theorem paces_resetFinished (c : Core) (report : Option Bool) :
    Paces c (c.resetFinished report) := by
  cases report with
  | none => exact .of_same rfl
  | some ready => exact .of_phase rfl rfl nofun (.inr (Nat.zero_le 1))

theorem paces_sections : ClosedRule Paces where
  refl := .refl
  startAccept := fun _ _ h => paces_startAccept h
  startArm := fun _ _ _ => .of_phase rfl rfl nofun (.inr (Nat.le_refl 1))
  gateDecide := paces_gateDecide
  prepare := fun c failure => .of_same (pace_prepare c failure)
  gatePrepareFailed := paces_gatePrepareFailed
  gateReady := fun _ _ _ h => paces_gateReady h
  gateTimeout := paces_gateTimeout
  retryStartup := paces_retryStartup
  activate := fun c env => .of_same (pace_activate c env)
  commitRollback := fun _ => .of_phase rfl rfl nofun (.inl rfl)
  openOfficial := fun _ => .of_phase rfl rfl nofun (.inl rfl)
  stopEnter := paces_stopEnter
  stopStage := paces_stopStage
  stopAbort := fun _ => .of_same rfl
  onStreamStopped := paces_onStreamStopped
  onData := fun c sample now => .of_same (pace_onData c sample now)
  initCore := fun c outcome => .of_same (pace_initCore c outcome)
  resetSession := fun c refusal => .of_same (pace_resetSession c refusal)

/-- The callback opens the gate, or leaves the phase. -/
theorem onStreamStarted_pace (c : Core) :
    c.gateStarted = none ∧ c.onStreamStarted.pace = c.pace
      ∨ c.gateStarted = some c.startupGateToken
        ∧ c.onStreamStarted.pace = (c.policy, .warmingUp, c.startupAttempt) := by
  unfold gateStarted onStreamStarted
  by_cases hnobody : c.subjectsToProcess = []
  · simp [hnobody]
  · by_cases haddresses : c.startupAddresses = []
    · rw [if_pos (.inr haddresses), if_neg hnobody, if_pos haddresses]
      exact .inl ⟨rfl, rfl⟩
    · rw [if_neg (not_or.mpr ⟨hnobody, haddresses⟩), if_neg hnobody, if_neg haddresses]
      exact .inr ⟨rfl, rfl⟩

/-! ## The counter -/

structure AttemptsKept (c : Core) : Prop where
  within : c.startupAttempt ≤ c.policy.maxAttempts
  left : c.streamPhase = .retryingStartup → c.startupAttempt < c.policy.maxAttempts
  once : 1 ≤ c.policy.maxAttempts

theorem AttemptsKept.of_paces {c c' : Core} (h : AttemptsKept c) (hpaces : Paces c c') :
    AttemptsKept c' := by
  have honce : 1 ≤ c'.policy.maxAttempts := by
    rw [hpaces.policy]
    exact h.once
  refine ⟨?_, ?_, honce⟩
  · rcases hpaces.attempt with hsame | hfirst | ⟨hretry, hnext⟩
    · rw [hsame, hpaces.policy]
      exact h.within
    · omega
    · rw [hnext, hpaces.policy]
      exact h.left hretry
  · intro hretry
    obtain ⟨hsame, hleft⟩ := hpaces.retrying hretry
    rw [hsame, hpaces.policy]
    rcases hleft with hbefore | hleft
    · exact h.left hbefore
    · exact hleft

theorem AttemptsKept.onStreamStarted {c : Core} (h : AttemptsKept c) :
    AttemptsKept c.onStreamStarted := by
  rcases onStreamStarted_pace c with ⟨-, hsame⟩ | ⟨-, hopened⟩
  · exact h.of_paces (.of_same hsame)
  · obtain ⟨hpolicy, hrest⟩ := Prod.mk.inj hopened
    obtain ⟨hphase, hattempt⟩ := Prod.mk.inj hrest
    refine ⟨?_, ?_, ?_⟩
    · rw [hattempt, hpolicy]
      exact h.within
    · rw [hphase]
      nofun
    · rw [hpolicy]
      exact h.once

end Core

open NexusN3.Core

/-- The writes of a start are on its way to the armed gate. -/
theorem Thread.paces_startAccepted {c c' : Core} {env : SectionEnv} {t t' : Thread}
    {events : List CoreEvent} (ht : t.isStartAccepted = true)
    (h : t.advance c env = some (c', t', events)) : Paces c c' := by
  cases t with
  | startAccepted p specific =>
    cases specific with
    | false =>
      cases h
      exact .of_same rfl
    | true =>
      have hwrites : (c.startSubjectsWrites p env.clock).1.pace = c.pace := by
        unfold startSubjectsWrites
        split
        · rfl
        · dsimp only
          split <;> rfl
      simp only [Thread.advance] at h
      split at h <;> rename_i heq <;> rw [heq] at hwrites <;> cases h <;> exact .of_same hwrites
  | _ => cases ht

namespace World

/-- Every step but the callback that opens the gate. -/
theorem paces_step {w w' : World} {a : Action} (h : w.step a = some w')
    (ha : a ≠ .onStreamStarted) : Paces w.core w'.core := by
  refine related_of_closed_step paces_sections h (fun heq => absurd heq ha) ?_ ?_ ?_
  · intro i env t c t' events _ _ ht hadv
    exact Thread.paces_startAccepted ht hadv
  · intro p c _ hbegin
    obtain ⟨-, -, -, -, rfl⟩ := commitBegin_eq_begin hbegin
    exact .of_phase rfl rfl nofun (.inl rfl)
  · intro report _
    exact paces_resetFinished _ _

theorem attemptsKept_step {w w' : World} {a : Action} (h : w.step a = some w')
    (hkept : AttemptsKept w.core) : AttemptsKept w'.core := by
  by_cases ha : a = .onStreamStarted
  · subst ha
    cases h
    exact hkept.onStreamStarted
  · exact hkept.of_paces (paces_step h ha)

theorem policy_step {w w' : World} {a : Action} (h : w.step a = some w') :
    w'.core.policy = w.core.policy := by
  by_cases ha : a = .onStreamStarted
  · subst ha
    cases h
    rcases onStreamStarted_pace w.core with ⟨-, hpace⟩ | ⟨-, hpace⟩ <;>
      exact (Prod.mk.inj hpace).1
  · exact (paces_step h ha).policy

/-- **No startup takes more attempts than configured.** -/
theorem startupAttempt_le_of_reachable {policy : StartupPolicy} (hpolicy : 1 ≤ policy.maxAttempts)
    {w : World} (hw : World.Reachable policy w) : w.core.startupAttempt ≤ policy.maxAttempts := by
  have hinit : AttemptsKept { policy := policy } := ⟨Nat.zero_le _, nofun, hpolicy⟩
  have hkept : AttemptsKept w.core ∧ w.core.policy = policy := by
    refine Machine.Run.invariant (I := fun w => AttemptsKept w.core ∧ w.core.policy = policy)
      ⟨hinit, rfl⟩ ?_ hw
    rintro r a r' - hstep ⟨hkept, hsame⟩
    exact ⟨attemptsKept_step hstep hkept, (policy_step hstep).trans hsame⟩
  exact hkept.2 ▸ hkept.1.within

end World

end NexusN3
