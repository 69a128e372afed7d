import NexusN3.Core.Sections

/-!
# Where the commit flag comes from

A coordinated Core admits samples only under `_official_commit_received`. Three fields
belong together: the flag, the start mode and the start id it was given for. Every section
either leaves the three alone or takes the flag down (`KeepsCommit`), but for the first
section of `start_official_stream`, which compares the command's id with the Core's own.
-/

namespace NexusN3

namespace Core

/-- The flag with the start it belongs to. -/
def commitKey (c : Core) : Bool × OfficialStartMode × Option String :=
  (c.officialCommitReceived, c.officialStartMode, c.startSessionId)

/-- No commit is gained, and a commit that stays is for the same start. -/
def KeepsCommit (c c' : Core) : Prop :=
  c'.commitKey = c.commitKey ∨ c'.officialCommitReceived = false

theorem KeepsCommit.refl (c : Core) : KeepsCommit c c := .inl rfl

theorem KeepsCommit.trans {a b c : Core} (h₁ : KeepsCommit a b) (h₂ : KeepsCommit b c) :
    KeepsCommit a c := by
  rcases h₂ with h₂ | h₂
  · rcases h₁ with h₁ | h₁
    · exact .inl (h₂.trans h₁)
    · exact .inr ((congrArg Prod.fst h₂).trans h₁)
  · exact .inr h₂

/-! ## Starts -/

theorem keepsCommit_startAccept {c c' : Core} (h : c.startAccept = .ok c') : KeepsCommit c c' := by
  unfold startAccept at h
  split at h
  · cases h
  · split at h
    · cases h
    · cases h
      exact .inl rfl

theorem keepsCommit_startSubjectsWrites (c : Core) (p : StartPayload) (clock : String) :
    KeepsCommit c (c.startSubjectsWrites p clock).1 := by
  unfold startSubjectsWrites
  split
  · exact .refl c
  · dsimp only
    split
    · exact .inr rfl
    · exact .inr rfl

/-! ## The gate and the commit -/

theorem keepsCommit_activate (c : Core) (env : ActivationEnv) :
    KeepsCommit c (c.activateOfficialStreaming env).1 :=
  .inl (activate_field c env commitKey fun _ => rfl)

theorem keepsCommit_prepare (c : Core) (failure : Option OutputFailure) :
    KeepsCommit c (c.prepareOfficialPersistence failure).1 :=
  .inl ((prepareOfficialPersistence_same c failure).field commitKey rfl)

theorem keepsCommit_gateDecide (c : Core) (token : Nat) (env : ActivationEnv) :
    KeepsCommit c (c.gateDecide token env).1 := by
  unfold gateDecide
  split
  · exact .refl c
  · split
    · exact .refl c
    · split
      · exact .inl rfl
      · have hact := keepsCommit_activate (c.setPhase .activatingOfficial) env
        split
        · rename_i heq
          rw [heq] at hact
          exact hact
        · rename_i heq
          rw [heq] at hact
          exact hact

theorem keepsCommit_gatePrepareFailed (c : Core) (token : Nat) (e : String) :
    KeepsCommit c (c.gatePrepareFailed token e) := by
  unfold gatePrepareFailed
  split <;> exact .inl rfl

theorem keepsCommit_gateReady {c c' : Core} {token : Nat} (h : c.gateReady token = some c') :
    KeepsCommit c c' := by
  unfold gateReady at h
  split at h
  · cases h
  · cases h
    exact .inl rfl

theorem keepsCommit_gateTimeout (c : Core) (token : Nat) : KeepsCommit c (c.gateTimeout token) := by
  unfold gateTimeout
  split
  · exact .refl c
  · split <;> exact .inl rfl

theorem keepsCommit_retryStartup (c : Core) (token : Nat) (now : ℚ) :
    KeepsCommit c (c.retryStartup token now) := by
  unfold retryStartup
  split
  · exact .refl c
  · split <;> exact .inl rfl

/-! ## Stops -/

theorem keepsCommit_stopEnter (c : Core) (r : StopRequest) : KeepsCommit c (c.stopEnter r) := by
  unfold stopEnter
  dsimp only
  split <;> exact .inl rfl

theorem keepsCommit_updateStopped (c : Core) (r : StopRequest) (f : Subject → Subject) :
    KeepsCommit c (c.updateStopped r f) := by
  unfold updateStopped
  split <;> exact .inl rfl

theorem keepsCommit_finalizeSessionArchive (c : Core) : KeepsCommit c c.finalizeSessionArchive := by
  unfold finalizeSessionArchive
  split
  · exact .refl c
  · split <;> exact .inl rfl

theorem keepsCommit_stopClose (c : Core) (r : StopRequest) (env : StopEnv) :
    KeepsCommit c (c.stopClose r env) := by
  unfold stopClose
  dsimp only
  generalize env.physical.stopResults _ = results
  have hrecord : KeepsCommit c (c.recordStopResults results) := .inl rfl
  split
  · exact hrecord
  · exact hrecord.trans (keepsCommit_finalizeSessionArchive _)

theorem keepsCommit_stopFinish (c : Core) : KeepsCommit c c.stopFinish := by
  cases hact : c.hasActiveStreams with
  | true =>
    rw [stopFinish_of_active hact]
    exact .inl rfl
  | false =>
    rw [stopFinish_of_quiet hact]
    exact .inr rfl

theorem keepsCommit_stopStage (c : Core) (r : StopRequest) (env : StopEnv) (stage : StopStage) :
    KeepsCommit c (stage.advance c r env).1 := by
  cases stage with
  | issue =>
    show KeepsCommit c (c.stopIssue r)
    unfold stopIssue
    split <;> exact .inl rfl
  | collect =>
    show KeepsCommit c (c.stopCollect r env.physical)
    unfold stopCollect
    split
    · exact keepsCommit_updateStopped c r _
    · exact .refl c
  | flush => exact keepsCommit_updateStopped c r flushSubject
  | mark => exact keepsCommit_updateStopped c r _
  | close => exact keepsCommit_stopClose c r env
  | release _ => exact .inl rfl
  | finish _ => exact keepsCommit_stopFinish c

/-! ## The sensor layer and the configuration -/

theorem keepsCommit_onStreamStarted (c : Core) : KeepsCommit c c.onStreamStarted := by
  unfold onStreamStarted
  split
  · exact .refl c
  · dsimp only
    split <;> exact .inl rfl

theorem keepsCommit_onStreamStopped (c : Core) : KeepsCommit c c.onStreamStopped := by
  unfold onStreamStopped
  dsimp only
  split
  · exact .inl rfl
  · split
    · obtain ⟨ar, ad, heq⟩ := cleanupFailedStartupSession_eq c
      rw [heq]
      exact .inl rfl
    · exact .inl rfl
    · exact .inl rfl

theorem keepsCommit_onData (c : Core) (sample : Sample) (now : ℚ) :
    KeepsCommit c (c.onData sample now) := by
  have hrecord : KeepsCommit c (c.recordStartupSample sample now) := by
    unfold recordStartupSample
    split
    · exact .refl c
    · split
      · exact .refl c
      · split <;> exact .inl rfl
  have hingest : ∀ (d : Core) (i : Nat), KeepsCommit d (d.ingestSample i sample) := by
    intro d i
    unfold ingestSample
    split <;> exact .inl rfl
  unfold onData
  dsimp only
  split
  · split
    · exact hrecord.trans (hingest _ _)
    · exact hrecord
  · exact hrecord

theorem keepsCommit_initCore (c : Core) (outcome : Installation) :
    KeepsCommit c (c.initCore outcome).1 := by
  unfold initCore
  split
  · exact .refl c
  · split <;> exact .inl rfl

theorem keepsCommit_resetSession (c : Core) (refusal : Option String) :
    KeepsCommit c (c.resetSession refusal).1 := by
  unfold resetSession
  split
  · exact .refl c
  · split
    · exact .refl c
    · split
      · exact .refl c
      · split <;> exact .inl rfl

theorem keepsCommit_resetFinished (c : Core) (report : Option Bool) :
    KeepsCommit c (c.resetFinished report) := by
  cases report with
  | none => exact .inl rfl
  | some ready => exact .inr rfl

end Core

/-! ## One step of a world -/

open NexusN3.Core

/-- The writes of a start take the flag down. -/
theorem Thread.keepsCommit_startAccepted {c c' : Core} {env : SectionEnv} {t t' : Thread}
    {events : List CoreEvent} (ht : t.isStartAccepted = true)
    (h : t.advance c env = some (c', t', events)) : KeepsCommit c c' := by
  cases t with
  | startAccepted p specific =>
    cases specific with
    | false =>
      cases h
      exact .inr rfl
    | true =>
      have hwrites := keepsCommit_startSubjectsWrites c p env.clock
      simp only [Thread.advance] at h
      split at h <;> rename_i heq <;> rw [heq] at hwrites <;> cases h <;> exact hwrites
  | _ => cases ht

theorem keepsCommit_sections : SectionRule KeepsCommit where
  refl := .refl
  startAccept := fun _ _ h => keepsCommit_startAccept h
  startArm := fun _ _ _ => .inl rfl
  gateDecide := keepsCommit_gateDecide
  prepare := keepsCommit_prepare
  gatePrepareFailed := keepsCommit_gatePrepareFailed
  gateReady := fun _ _ _ h => keepsCommit_gateReady h
  gateTimeout := keepsCommit_gateTimeout
  retryStartup := keepsCommit_retryStartup
  activate := keepsCommit_activate
  commitRollback := fun _ => .inr rfl
  openOfficial := fun _ => .inl rfl
  stopEnter := keepsCommit_stopEnter
  stopStage := keepsCommit_stopStage
  stopAbort := fun _ => .inl rfl
  onStreamStarted := keepsCommit_onStreamStarted
  onStreamStopped := keepsCommit_onStreamStopped
  onData := keepsCommit_onData
  initCore := keepsCommit_initCore
  resetSession := keepsCommit_resetSession

namespace World

/-- **A commit comes from a command**: no other step of a Core raises the flag or moves it
to another start. -/
theorem keepsCommit_step {w w' : World} {a : Action} (h : w.step a = some w') :
    KeepsCommit w.core w'.core
      ∨ ∃ p, a = .startOfficialStream p ∧ w.core.commitBegin p = .begin w'.core := by
  by_cases hbegins : ∃ p c, a = .startOfficialStream p ∧ w.core.commitBegin p = .begin c
  · obtain ⟨p, c, rfl, hbegin⟩ := hbegins
    simp only [step, hbegin] at h
    cases h
    exact .inr ⟨p, rfl, hbegin⟩
  · refine .inl (related_of_step keepsCommit_sections h ?_ ?_ ?_)
    · intro i env t c t' events _ _ ht hadv
      exact Thread.keepsCommit_startAccepted ht hadv
    · intro p c ha hbegin
      exact absurd ⟨p, c, ha, hbegin⟩ hbegins
    · intro report _
      exact keepsCommit_resetFinished _ _

/-- What a Core has emitted stays emitted. -/
theorem emitted_step {w w' : World} {a : Action} (h : w.step a = some w') :
    w.emitted ⊆ w'.emitted := by
  have hsame : w'.emitted = w.emitted → w.emitted ⊆ w'.emitted := fun heq => heq ▸ List.Subset.refl _
  cases a with
  | startStream p | startStreamForSubjects p =>
    cases h
    apply hsame
    unfold acceptStart
    split <;> rfl
  | startOfficialStream p =>
    simp only [step] at h
    split at h <;> cases h
    · exact List.Subset.refl _
    · exact List.subset_append_left _ _
    · exact List.Subset.refl _
    · exact List.Subset.refl _
  | stopStreamForSubjects ids sid env =>
    simp only [step] at h
    split at h <;> cases h <;> exact List.Subset.refl _
  | resetFinished report =>
    simp only [step] at h
    split at h <;> cases h
    exact List.Subset.refl _
  -- the section of a commit or a gate is where events come from
  | advance i env =>
    obtain ⟨t, c, t', events, -, -, rfl⟩ := step_advance h
    rw [noteStop_emitted]
    exact List.subset_append_left _ _
  | gateTimeout i =>
    simp only [step] at h
    split at h <;> cases h
    exact List.Subset.refl _
  | stopRaise i =>
    simp only [step] at h
    split at h
    · split at h <;> cases h
      exact List.Subset.refl _
    · cases h
  | _ =>
    cases h
    exact List.Subset.refl _

end World

end NexusN3
