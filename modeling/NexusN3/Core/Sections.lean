import NexusN3.Core.World

/-!
# A relation kept by every section

Most facts about the Core have the form "no section but these few moves that field". A
`SectionRule` collects what has to be shown: one field for each section that is no exception
anywhere. From it every step of a world is covered (`World.related_of_step`), with the three
kinds of section that usually are the exceptions left to the user of the rule: the writes of a
start, the first section of a commit and the end of a Reset. A `ClosedRule` leaves out the callback
that opens the gate too (`World.related_of_closed_step`).
-/

namespace NexusN3

namespace Core

structure SectionRule (R : Core → Core → Prop) : Prop where
  refl : ∀ c, R c c
  startAccept : ∀ c c', c.startAccept = .ok c' → R c c'
  startArm : ∀ c idxs now, R c (c.startArm idxs now)
  gateDecide : ∀ c token env, R c (c.gateDecide token env).1
  prepare : ∀ c failure, R c (c.prepareOfficialPersistence failure).1
  gatePrepareFailed : ∀ c token e, R c (c.gatePrepareFailed token e)
  gateReady : ∀ c c' token, c.gateReady token = some c' → R c c'
  gateTimeout : ∀ c token, R c (c.gateTimeout token)
  retryStartup : ∀ c token now, R c (c.retryStartup token now)
  activate : ∀ c env, R c (c.activateOfficialStreaming env).1
  commitRollback : ∀ c, R c c.commitRollback
  openOfficial : ∀ c, R c c.openOfficial
  stopEnter : ∀ c r, R c (c.stopEnter r)
  stopStage : ∀ c r env (stage : StopStage), R c (stage.advance c r env).1
  stopAbort : ∀ c, R c c.stopAbort
  onStreamStarted : ∀ c, R c c.onStreamStarted
  onStreamStopped : ∀ c, R c c.onStreamStopped
  onData : ∀ c sample now, R c (c.onData sample now)
  initCore : ∀ c outcome, R c (c.initCore outcome).1
  resetSession : ∀ c refusal, R c (c.resetSession refusal).1

/-- A relation kept by every section but `_on_stream_started`, the callback that opens the gate. -/
structure ClosedRule (R : Core → Core → Prop) : Prop where
  refl : ∀ c, R c c
  startAccept : ∀ c c', c.startAccept = .ok c' → R c c'
  startArm : ∀ c idxs now, R c (c.startArm idxs now)
  gateDecide : ∀ c token env, R c (c.gateDecide token env).1
  prepare : ∀ c failure, R c (c.prepareOfficialPersistence failure).1
  gatePrepareFailed : ∀ c token e, R c (c.gatePrepareFailed token e)
  gateReady : ∀ c c' token, c.gateReady token = some c' → R c c'
  gateTimeout : ∀ c token, R c (c.gateTimeout token)
  retryStartup : ∀ c token now, R c (c.retryStartup token now)
  activate : ∀ c env, R c (c.activateOfficialStreaming env).1
  commitRollback : ∀ c, R c c.commitRollback
  openOfficial : ∀ c, R c c.openOfficial
  stopEnter : ∀ c r, R c (c.stopEnter r)
  stopStage : ∀ c r env (stage : StopStage), R c (stage.advance c r env).1
  stopAbort : ∀ c, R c c.stopAbort
  onStreamStopped : ∀ c, R c c.onStreamStopped
  onData : ∀ c sample now, R c (c.onData sample now)
  initCore : ∀ c outcome, R c (c.initCore outcome).1
  resetSession : ∀ c refusal, R c (c.resetSession refusal).1

theorem SectionRule.closed {R : Core → Core → Prop} (h : SectionRule R) : ClosedRule R where
  refl := h.refl
  startAccept := h.startAccept
  startArm := h.startArm
  gateDecide := h.gateDecide
  prepare := h.prepare
  gatePrepareFailed := h.gatePrepareFailed
  gateReady := h.gateReady
  gateTimeout := h.gateTimeout
  retryStartup := h.retryStartup
  activate := h.activate
  commitRollback := h.commitRollback
  openOfficial := h.openOfficial
  stopEnter := h.stopEnter
  stopStage := h.stopStage
  stopAbort := h.stopAbort
  onStreamStopped := h.onStreamStopped
  onData := h.onData
  initCore := h.initCore
  resetSession := h.resetSession

end Core

open NexusN3.Core

/-- A start that has yet to write. -/
def Thread.isStartAccepted : Thread → Bool
  | .startAccepted _ _ => true
  | _ => false

section ClosedRule

variable {R : Core → Core → Prop} (hR : ClosedRule R)

include hR

/-- The next section of any call, the writes of a start aside. -/
theorem Thread.related_of_closed_advance {c c' : Core} {env : SectionEnv} {t t' : Thread}
    {events : List CoreEvent} (h : t.advance c env = some (c', t', events))
    (ht : t.isStartAccepted = false) : R c c' := by
  cases t with
  | startAccepted p specific => cases ht
  | startWritten idxs =>
    cases h
    exact hR.startArm c idxs env.now
  | gate token =>
    have hdecide := hR.gateDecide c token env.activation
    simp only [Thread.advance] at h
    split at h <;> rename_i heq <;> rw [heq] at hdecide <;> cases h <;> exact hdecide
  | gatePreparing token =>
    have hprepare := hR.prepare c env.activation.outputFailure
    simp only [Thread.advance] at h
    split at h <;> rename_i heq <;> rw [heq] at hprepare <;> cases h <;> exact hprepare
  | gatePrepared token failure =>
    cases failure with
    | some e =>
      cases h
      exact hR.gatePrepareFailed c token e
    | none =>
      simp only [Thread.advance] at h
      split at h
      · cases h
        exact hR.refl c
      · rename_i hready
        cases h
        exact hR.gateReady c _ token hready
  | retry token =>
    cases h
    exact hR.retryStartup c token env.now
  | commit token =>
    have hact := hR.activate c env.activation
    simp only [Thread.advance] at h
    split at h <;> rename_i heq <;> rw [heq] at hact <;> cases h <;> exact hact
  | commitFailed token =>
    cases h
    exact hR.commitRollback c
  | commitFinishing token =>
    cases h
    exact hR.openOfficial c
  -- these sections only emit
  | gateReady _ | commitActivated _ | commitReporting _ _ =>
    cases h
    exact hR.refl c
  | stop r stopEnv full stage =>
    have hstage := hR.stopStage c r stopEnv stage
    simp only [Thread.advance] at h
    split at h <;> rename_i heq <;> rw [heq] at hstage <;> cases h <;> exact hstage
  | done => cases h

/-- A step of a world, with the callback that opens the gate among the exceptions. -/
theorem World.related_of_closed_step {w w' : World} {a : Action} (h : w.step a = some w')
    (hstarted : a = .onStreamStarted → R w.core w.core.onStreamStarted)
    (hwrites : ∀ i env t c t' events, a = .advance i env → w.threads[i]? = some t →
      t.isStartAccepted = true → t.advance w.core env = some (c, t', events) → R w.core c)
    (hbegin : ∀ p c, a = .startOfficialStream p → w.core.commitBegin p = .begin c → R w.core c)
    (hreset : ∀ report, a = .resetFinished report → R w.core (w.core.resetFinished report)) :
    R w.core w'.core := by
  cases a with
  | startStream p | startStreamForSubjects p =>
    cases h
    unfold acceptStart
    split
    · exact hR.refl _
    · rename_i hok
      exact hR.startAccept _ _ hok
  | startOfficialStream p =>
    simp only [step] at h
    split at h <;> rename_i heq <;> cases h
    · exact hbegin p _ rfl heq
    · exact hR.refl _
    · exact hR.refl _
    · exact hR.refl _
  | stopStream sid env =>
    cases h
    exact hR.stopEnter _ _
  | stopStreamForSubjects ids sid env =>
    simp only [step] at h
    split at h <;> cases h
    · exact hR.stopEnter _ _
    · exact hR.refl _
  | initCore outcome =>
    cases h
    exact hR.initCore _ _
  | resetSession refusal =>
    cases h
    exact hR.resetSession _ _
  | resetFinished report =>
    simp only [step] at h
    split at h <;> cases h
    exact hreset report rfl
  | onStreamStarted =>
    cases h
    exact hstarted rfl
  | onStreamStopped =>
    cases h
    exact hR.onStreamStopped _
  | onData sample now =>
    cases h
    exact hR.onData _ _ _
  -- the writes of a start are the exception; any other section is covered
  | advance i env =>
    obtain ⟨t, c, t', events, ht, hadv, rfl⟩ := step_advance h
    rw [noteStop_core]
    cases hstart : t.isStartAccepted with
    | false => exact Thread.related_of_closed_advance hR hadv hstart
    | true => exact hwrites i env t c t' events rfl ht hstart hadv
  | gateTimeout i =>
    simp only [step] at h
    split at h <;> cases h
    exact hR.gateTimeout _ _
  | stopRaise i =>
    simp only [step] at h
    split at h
    · split at h <;> cases h
      exact hR.stopAbort _
    · cases h

end ClosedRule

section Rule

variable {R : Core → Core → Prop} (hR : SectionRule R)

include hR

/-- The next section of any call, the writes of a start aside. -/
theorem Thread.related_of_advance {c c' : Core} {env : SectionEnv} {t t' : Thread}
    {events : List CoreEvent} (h : t.advance c env = some (c', t', events))
    (ht : t.isStartAccepted = false) : R c c' :=
  Thread.related_of_closed_advance hR.closed h ht

/-- **Every step of a world** but for the exceptions, each a hypothesis. -/
theorem World.related_of_step {w w' : World} {a : Action} (h : w.step a = some w')
    (hwrites : ∀ i env t c t' events, a = .advance i env → w.threads[i]? = some t →
      t.isStartAccepted = true → t.advance w.core env = some (c, t', events) → R w.core c)
    (hbegin : ∀ p c, a = .startOfficialStream p → w.core.commitBegin p = .begin c → R w.core c)
    (hreset : ∀ report, a = .resetFinished report → R w.core (w.core.resetFinished report)) :
    R w.core w'.core :=
  World.related_of_closed_step hR.closed h (fun _ => hR.onStreamStarted _) hwrites hbegin hreset

end Rule

end NexusN3
