import NexusN3.Core.Stop

/-!
# `init_core` and `reset_session`

Both methods refuse while a stop is being finalised and while a hand-written set of phases
or a streaming subject says that the Core acquires (`acquisitionGuard`). The set is spelled
out twice in the source, with the same four phases.

What the subject graph and the sensor manager make of a configuration is the
environment's answer (`Installation`); a rejected one restores the previous subjects.
-/

namespace NexusN3

/-- A configured subject before anything streamed. -/
structure SubjectConfig where
  subjectId : String
  sensors : List SensorEntry
  deriving DecidableEq

def SubjectConfig.toSubject (cfg : SubjectConfig) : Subject :=
  { subjectId := cfg.subjectId, sensors := cfg.sensors, isStreaming := false }

/-- How a configuration fares past the guards of `init_core`. -/
inductive Installation where
  | rejected (error : String)
  | failed (error : String)
  | installed (subjects : List SubjectConfig)
  deriving DecidableEq

inductive ResetOutcome where
  | refused (error : String)
  | joined
  | started
  | raised (error : String)
  deriving DecidableEq

namespace Core

/-- `any(sub.is_streaming ...) or self.stream_phase in {...}`. -/
def acquisitionGuard (c : Core) : Bool :=
  c.hasActiveStreams || (match c.streamPhase with
    | .starting | .warmingUp | .preparingOfficial | .activatingOfficial => true
    | _ => false)

/-- The checks `init_core` makes before it looks at the configuration. -/
def initGuard (c : Core) : Except String Unit :=
  match c.ensureRecoveryIdle with
  | .error e => .error e
  | .ok () =>
    match c.ensureDisconnectAllowed with
    | .error e => .error e
    | .ok () =>
      if c.initializationRequiresRecovery then
        .error "Reset is required after failed configuration installation"
      else if c.acquisitionGuard then .error "Cannot reconfigure while a subject is acquiring"
      else .ok ()

def initCore (c : Core) (outcome : Installation) : Core × Except String Unit :=
  match c.initGuard with
  | .error e => (c, .error e)
  | .ok () =>
    match outcome with
    | .rejected e => (c, .error e)
    | .failed e => ({ c with initializationRequiresRecovery := true }, .error e)
    | .installed subjects =>
      ({ c with
          subjects := subjects.map SubjectConfig.toSubject
          subjectsGeneration := c.subjectsGeneration + 1 }, .ok ())

/-- `reset_session` up to the future it returns; `refusal` is an exception of the sensor
manager while the recovery is being requested. -/
def resetSession (c : Core) (refusal : Option String) : Core × ResetOutcome :=
  match c.ensureDisconnectAllowed with
  | .error e => (c, .refused e)
  | .ok () =>
    if c.recoveryInProgress then (c, .joined)
    else if c.acquisitionGuard then (c, .refused "Stop all subjects before resetting Core")
    else
      match refusal with
      | some e => (c, .raised e)
      | none => ({ c with recoveryInProgress := true }, .started)

/-- The done callback of the recovery future: its report says whether the Core is ready for
a configuration; `none` is a future that raised. -/
def resetFinished (c : Core) (report : Option Bool) : Core :=
  match report with
  | none => { c with recoveryInProgress := false }
  | some ready =>
    { c.clearStartupGateState with
      subjects := []
      subjectsGeneration := c.subjectsGeneration + 1
      sessionTimestamp := none
      activeSubjectIds := none
      initializationRequiresRecovery := c.initializationRequiresRecovery && !ready
      recoveryInProgress := false }

/-! ## When the guards refuse -/

/-- The state refuses to be reconfigured: both methods raise and change nothing. -/
def RefusesReconfiguration (c : Core) : Prop :=
  (∀ outcome, ∃ e, c.initCore outcome = (c, .error e))
    ∧ ∀ refusal, ∃ e, c.resetSession refusal = (c, .refused e)

theorem resetSession_refused_iff (c : Core) :
    (∀ refusal, ∃ e, c.resetSession refusal = (c, .refused e)) ↔
      c.streamStopFinalizationPending = true
        ∨ (c.recoveryInProgress = false ∧ c.acquisitionGuard = true) := by
  unfold resetSession ensureDisconnectAllowed
  cases hp : c.streamStopFinalizationPending <;> cases hr : c.recoveryInProgress <;>
    cases hg : c.acquisitionGuard <;> simp
  -- an idle Core admits the Reset
  exact ⟨none, by simp⟩

theorem initGuard_error_iff (c : Core) :
    (∃ e, c.initGuard = .error e) ↔
      c.recoveryInProgress = true ∨ c.streamStopFinalizationPending = true
        ∨ c.initializationRequiresRecovery = true ∨ c.acquisitionGuard = true := by
  unfold initGuard ensureRecoveryIdle ensureDisconnectAllowed
  cases c.recoveryInProgress <;> cases c.streamStopFinalizationPending <;>
    cases c.initializationRequiresRecovery <;> cases c.acquisitionGuard <;> simp

/-- A guard that refuses leaves `init_core` without an effect. -/
theorem initCore_of_initGuard_error {c : Core} {e : String} (h : c.initGuard = .error e)
    (outcome : Installation) : c.initCore outcome = (c, .error e) := by
  simp [initCore, h]

/-- Both methods refuse exactly under the pending flag, or with no recovery under way and
the guard up. -/
theorem refusesReconfiguration_iff (c : Core) :
    c.RefusesReconfiguration ↔ c.streamStopFinalizationPending = true
      ∨ (c.recoveryInProgress = false ∧ c.acquisitionGuard = true) := by
  unfold RefusesReconfiguration
  rw [resetSession_refused_iff]
  refine and_iff_right_of_imp fun h outcome => ?_
  have hguard : ∃ e, c.initGuard = .error e := by
    rw [initGuard_error_iff]
    rcases h with hpending | ⟨-, hguard⟩
    · exact .inr (.inl hpending)
    · exact .inr (.inr (.inr hguard))
  obtain ⟨e, he⟩ := hguard
  exact ⟨e, initCore_of_initGuard_error he outcome⟩

/-! ## The way out after a failure

A full stop that runs to its end leaves a Core that admits a Reset, whatever state it
found. -/

/-- One section with the callback that may come before it, seen at its end only. -/
theorem foldl_deliver {P Q : Core → Prop} {f : Core → Core} (env : StopEnv) (k : Nat) {c : Core}
    (hcb : ∀ c, P c → P c.onStreamStopped) (hf : ∀ c, P c → Q (f c)) (hc : P c) :
    Q ((deliver env k f).foldl (fun c f => f c) c) := by
  unfold deliver
  split
  · exact hf _ (hcb c hc)
  · exact hf c hc

/-- The subject objects are the ones the stop was given. -/
def SameList (c₀ c : Core) : Prop :=
  c.subjectsGeneration = c₀.subjectsGeneration ∧ c.subjects.length = c₀.subjects.length

/-- The flags of every subject are down. -/
def Quiet (c : Core) : Prop := c.hasActiveStreams = false

theorem cleanupFailedStartupSession_eq (c : Core) :
    ∃ archives archived, c.cleanupFailedStartupSession = { c with
      subjects := c.subjects.map fun s =>
        if s.subjectId ∈ c.startupSubjectIds then (s.closeOutputs).setStreaming false else s
      archives := archives
      archivedSessionTimestamp := archived } := by
  unfold cleanupFailedStartupSession finalizeSessionArchive
  dsimp only
  split
  · exact ⟨_, _, rfl⟩
  · split
    · exact ⟨_, _, rfl⟩
    · split <;> exact ⟨_, _, rfl⟩

/-- The callback only ever takes streaming flags down. -/
theorem onStreamStopped_subjects (c : Core) :
    c.onStreamStopped.subjectsGeneration = c.subjectsGeneration
      ∧ ∃ f : Subject → Subject, (∀ s, (f s).isStreaming = true → s.isStreaming = true)
        ∧ c.onStreamStopped.subjects = c.subjects.map f := by
  have hid : ∃ f : Subject → Subject, (∀ s, (f s).isStreaming = true → s.isStreaming = true)
      ∧ c.subjects = c.subjects.map f := ⟨id, fun _ h => h, by simp⟩
  unfold onStreamStopped
  dsimp only
  split
  · exact ⟨rfl, hid⟩
  · split
    · obtain ⟨ar, ad, heq⟩ := cleanupFailedStartupSession_eq c
      rw [heq]
      refine ⟨rfl, _, ?_, rfl⟩
      intro s hs
      split at hs
      · cases hs
      · exact hs
    · exact ⟨rfl, hid⟩
    · exact ⟨rfl, hid⟩

theorem sameList_onStreamStopped {c₀ c : Core} (h : SameList c₀ c) :
    SameList c₀ c.onStreamStopped := by
  obtain ⟨hgen, f, -, hmap⟩ := onStreamStopped_subjects c
  refine ⟨hgen.trans h.1, ?_⟩
  rw [hmap, List.length_map]
  exact h.2

theorem quiet_onStreamStopped {c : Core} (h : c.Quiet) : c.onStreamStopped.Quiet := by
  obtain ⟨-, f, hf, hmap⟩ := onStreamStopped_subjects c
  unfold Quiet at *
  rw [hasActiveStreams_eq_false_iff] at *
  rw [hmap]
  intro t ht
  obtain ⟨s, hs, rfl⟩ := List.mem_map.mp ht
  by_contra hne
  rw [Bool.not_eq_false] at hne
  exact absurd (hf s hne) (by simp [h s hs])

theorem sameList_updateStopped {c₀ c : Core} (r : StopRequest) (f : Subject → Subject)
    (h : SameList c₀ c) : SameList c₀ (c.updateStopped r f) := by
  unfold Core.updateStopped
  split
  · exact ⟨h.1, by simpa using h.2⟩
  · exact h

/-- Marking every position of the list takes every flag down. -/
theorem quiet_stopMark {c₀ c : Core} (stopSessionId : Option String) (h : SameList c₀ c) :
    (c.stopMark (c₀.stopAllRequest stopSessionId)).Quiet := by
  have hgen : (c₀.stopAllRequest stopSessionId).generation = c.subjectsGeneration := h.1.symm
  have hidxs : (c₀.stopAllRequest stopSessionId).idxs = List.range c.subjects.length := by
    simp [stopAllRequest, h.2]
  unfold Quiet
  rw [hasActiveStreams_eq_false_iff]
  intro t ht
  simp only [stopMark, updateStopped, hgen, if_true, hidxs, updateAt_range] at ht
  obtain ⟨s, -, rfl⟩ := List.mem_map.mp ht
  rfl

theorem quiet_of_subjects {c c' : Core} (hsub : c'.subjects = c.subjects) (h : c.Quiet) :
    c'.Quiet := by
  unfold Quiet hasActiveStreams at *
  rw [hsub]
  exact h

/-- The state a full stop ends in: nothing streams, the gate is cleared, nothing is pending. -/
theorem stopAll_end (c : Core) (stopSessionId : Option String) (env : StopEnv) :
    ∃ d : Core, d.Quiet ∧ d.streamStopFinalizationPending = false
      ∧ c.stopStreamImpl (c.stopAllRequest stopSessionId) env =
        (d.updateAcquisitionScope d.streamingAddresses).clearStartupGateState := by
  have hcb : ∀ d, SameList c d → SameList c d.onStreamStopped := fun _ => sameList_onStreamStopped
  have hcbq : ∀ d : Core, d.Quiet → d.onStreamStopped.Quiet := fun _ => quiet_onStreamStopped
  have hreleased : ∀ d : Core, (d.Quiet ∧ d.streamStopFinalizationPending = false) →
      d.onStreamStopped.Quiet ∧ d.onStreamStopped.streamStopFinalizationPending = false := by
    rintro d ⟨hq, hp⟩
    refine ⟨quiet_onStreamStopped hq, ?_⟩
    unfold onStreamStopped
    dsimp only
    split
    · exact hp
    · split
      · obtain ⟨ar, ad, heq⟩ := cleanupFailedStartupSession_eq d
        rw [heq]
        exact hp
      · exact hp
      · exact hp
  have henter : SameList c (c.stopEnter (c.stopAllRequest stopSessionId)) := by
    unfold stopEnter
    dsimp only
    split <;> exact ⟨rfl, rfl⟩
  unfold stopStreamImpl stopStages
  simp only [List.foldl_cons, List.foldl_append]
  -- section by section: the list stays, the marking takes the flags down, they stay down
  have h1 := foldl_deliver env 1 hcb (f := fun d => d.stopIssue (c.stopAllRequest stopSessionId))
    (Q := SameList c) (fun d h => by unfold stopIssue; split <;> exact h) henter
  have h2 := foldl_deliver env 2 hcb
    (f := fun d => d.stopCollect (c.stopAllRequest stopSessionId) env.physical) (Q := SameList c)
    (fun d h => by unfold stopCollect; split <;> first | exact sameList_updateStopped _ _ h | exact h) h1
  have h3 := foldl_deliver env 3 hcb (f := fun d => d.stopFlush (c.stopAllRequest stopSessionId))
    (Q := SameList c) (fun d h => (sameList_updateStopped (c.stopAllRequest stopSessionId)
      flushSubject h : SameList c _)) h2
  have h4 := foldl_deliver env 4 hcb (f := fun d => d.stopMark (c.stopAllRequest stopSessionId))
    (Q := Quiet) (fun d h => quiet_stopMark stopSessionId h) h3
  have h5 := foldl_deliver env 5 hcbq
    (f := fun d => d.stopClose (c.stopAllRequest stopSessionId) env) (Q := Quiet)
    (fun d h => quiet_of_subjects (stopClose_subjects d _ env) h) h4
  have h6 := foldl_deliver env 6 hcbq (f := fun d => d.stopRelease (c.stopAllRequest stopSessionId))
    (Q := fun d => d.Quiet ∧ d.streamStopFinalizationPending = false) (fun d h => ⟨h, rfl⟩) h5
  exact foldl_deliver env 7 hreleased (f := stopFinish)
    (Q := fun e => ∃ d : Core, d.Quiet ∧ d.streamStopFinalizationPending = false
      ∧ e = (d.updateAcquisitionScope d.streamingAddresses).clearStartupGateState)
    (fun d h => ⟨d, h.1, h.2, stopFinish_of_quiet h.1⟩) h6

/-- After a full stop a Reset is admitted. -/
theorem resetSession_after_stopAll (c : Core) (stopSessionId : Option String) (env : StopEnv)
    (refusal : Option String) (e : String) :
    ((c.stopStreamImpl (c.stopAllRequest stopSessionId) env).resetSession refusal).2 ≠
      .refused e := by
  obtain ⟨d, hquiet, hpending, heq⟩ := stopAll_end c stopSessionId env
  rw [heq]
  have hguard : ((d.updateAcquisitionScope d.streamingAddresses).clearStartupGateState).acquisitionGuard
      = false := by
    have hq : (d.updateAcquisitionScope d.streamingAddresses).hasActiveStreams = false := hquiet
    simp [acquisitionGuard, hq]
  have hpend : ((d.updateAcquisitionScope d.streamingAddresses).clearStartupGateState).streamStopFinalizationPending
      = false := hpending
  unfold resetSession ensureDisconnectAllowed
  rw [hpend]
  simp only [hguard, Bool.false_eq_true, if_false]
  split
  · simp
  · split <;> simp

end Core

end NexusN3
