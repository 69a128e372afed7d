import NexusN3.Core.World

/-!
# What a section may do to a stopped Core

Almost every section of the Core is harmless to a stop that is under way or over: it raises
no streaming flag, opens no output, moves no phase towards official streaming and never
takes the gate token back. `Settles` says this of a section once; the lemmas of this file
go through the sections. The exceptions are the three that lead to official streaming, a
positive verdict of the gate, the activation and `openOfficial`, and the two that arm a
start, which keep the smaller relation `Subdues`.
-/

namespace NexusN3

/-- Not on the last stretch to official streaming. -/
def StreamPhase.calm : StreamPhase → Bool
  | .preparingOfficial | .readyForOfficial | .activatingOfficial | .officialStreaming => false
  | _ => true

def StreamPhase.resting : StreamPhase → Bool
  | .idle | .startupFailed => true
  | _ => false

namespace Core

/-- Nothing is being started and no late callback can start a gate. -/
def Resting (c : Core) : Prop := c.streamPhase.resting = true ∧ c.startupAddresses = []

/-- A step of the Core that starts nothing official. -/
structure Subdues (c c' : Core) : Prop where
  token : c.startupGateToken ≤ c'.startupGateToken
  outputs : c.officialOutputsActive = false → c'.officialOutputsActive = false
  calm : c.streamPhase.calm = true → c'.streamPhase.calm = true
  quiet : c.Quiet → c'.Quiet
  list : SameList c c' ∨ (c.subjectsGeneration < c'.subjectsGeneration ∧ c'.Quiet)

/-- A step that moreover leaves a Core at rest at rest. -/
structure Settles (c c' : Core) : Prop extends Subdues c c' where
  rest : c.Resting → c'.Resting

theorem Settles.refl (c : Core) : Settles c c :=
  ⟨⟨le_rfl, id, id, id, .inl ⟨rfl, rfl⟩⟩, id⟩

theorem quiet_of_flags {c c' : Core}
    (h : c'.subjects.map Subject.isStreaming = c.subjects.map Subject.isStreaming)
    (hq : c.Quiet) : c'.Quiet := by
  have hany : ∀ d : Core, d.hasActiveStreams = (d.subjects.map Subject.isStreaming).any id := by
    intro d
    simp [hasActiveStreams, List.any_map]
  unfold Quiet at *
  rw [hany] at *
  rw [h]
  exact hq

theorem quiet_map {c c' : Core} {f : Subject → Subject}
    (hf : ∀ s, (f s).isStreaming = true → s.isStreaming = true)
    (hsub : c'.subjects = c.subjects.map f) (hq : c.Quiet) : c'.Quiet := by
  unfold Quiet at *
  rw [hasActiveStreams_eq_false_iff] at *
  rw [hsub]
  intro t ht
  obtain ⟨s, hs, rfl⟩ := List.mem_map.mp ht
  by_contra hne
  rw [Bool.not_eq_false] at hne
  exact absurd (hf s hne) (by simp [hq s hs])

theorem quiet_updateAt {c c' : Core} {idxs : List Nat} {f : Subject → Subject}
    (hf : ∀ s, (f s).isStreaming = true → s.isStreaming = true)
    (hsub : c'.subjects = updateAt idxs f c.subjects) (hq : c.Quiet) : c'.Quiet := by
  unfold Quiet at *
  rw [hasActiveStreams_eq_false_iff] at *
  rw [hsub]
  intro t ht
  obtain ⟨i, s, hs, rfl⟩ := mem_updateAt ht
  have hdown := hq s (List.mem_of_getElem? hs)
  split
  · by_contra hne
    rw [Bool.not_eq_false] at hne
    exact absurd (hf s hne) (by simp [hdown])
  · exact hdown

/-! ## The sections one by one -/

theorem subdues_startAccept {c c' : Core} (h : c.startAccept = .ok c') : Subdues c c' := by
  unfold startAccept at h
  split at h
  · cases h
  · split at h
    · cases h
    · cases h
      exact ⟨le_rfl, id, fun _ => rfl, id, .inl ⟨rfl, rfl⟩⟩

theorem settles_startWrite (c : Core) (p : StartPayload) (clock : String) :
    Settles c (c.startWrite p clock) :=
  ⟨⟨le_rfl, fun _ => rfl, id, id, .inl ⟨rfl, rfl⟩⟩, id⟩

theorem settles_startSubjects (c : Core) (p : StartPayload) (idxs : List Nat) :
    Settles c (c.startSubjects p idxs) :=
  ⟨⟨le_rfl, id, id, quiet_updateAt (f := Subject.rewind) (fun _ h => by cases h) rfl,
    .inl ⟨rfl, by simp [startSubjects]⟩⟩, id⟩

theorem Subdues.trans {a b c : Core} (h₁ : Subdues a b) (h₂ : Subdues b c) : Subdues a c := by
  refine ⟨h₁.token.trans h₂.token, h₂.outputs ∘ h₁.outputs, h₂.calm ∘ h₁.calm,
    h₂.quiet ∘ h₁.quiet, ?_⟩
  rcases h₂.list with ⟨hgen₂, hlen₂⟩ | ⟨hgen₂, hquiet₂⟩
  · rcases h₁.list with ⟨hgen₁, hlen₁⟩ | ⟨hgen₁, hquiet₁⟩
    · exact .inl ⟨hgen₂.trans hgen₁, hlen₂.trans hlen₁⟩
    · exact .inr ⟨hgen₂ ▸ hgen₁, h₂.quiet hquiet₁⟩
  · refine .inr ⟨?_, hquiet₂⟩
    rcases h₁.list with ⟨hgen₁, -⟩ | ⟨hgen₁, -⟩
    · rw [← hgen₁]
      exact hgen₂
    · exact hgen₁.trans hgen₂

theorem Settles.trans {a b c : Core} (h₁ : Settles a b) (h₂ : Settles b c) : Settles a c :=
  ⟨h₁.toSubdues.trans h₂.toSubdues, h₂.rest ∘ h₁.rest⟩

theorem settles_startAllWrites (c : Core) (p : StartPayload) (clock : String) :
    Settles c (c.startAllWrites p clock) :=
  (settles_startWrite c p clock).trans (settles_startSubjects _ p _)

theorem settles_startSubjectsWrites (c : Core) (p : StartPayload) (clock : String) :
    Settles c (c.startSubjectsWrites p clock).1 := by
  unfold startSubjectsWrites
  split
  · exact .refl c
  · dsimp only
    split
    · exact settles_startWrite c p clock
    · rename_i idxs _
      have hactive : Settles (c.startWrite p clock)
          { c.startWrite p clock with activeSubjectIds := some ((c.startWrite p clock).idsAt idxs) } :=
        ⟨⟨le_rfl, id, id, id, .inl ⟨rfl, rfl⟩⟩, id⟩
      exact ((settles_startWrite c p clock).trans hactive).trans (settles_startSubjects _ p _)

theorem subdues_startArm (c : Core) (idxs : List Nat) (now : ℚ) : Subdues c (c.startArm idxs now) :=
  ⟨Nat.le_succ _, id, fun _ => rfl, id, .inl ⟨rfl, rfl⟩⟩

theorem SameButOutputs.settles {c c' : Core} (h : SameButOutputs c c') : Settles c c' := by
  have hlen : c'.subjects.length = c.subjects.length := by
    have := congrArg List.length h.streaming
    simpa using this
  have htoken := h.field Core.startupGateToken rfl
  have houtputs := h.field Core.officialOutputsActive rfl
  have hphase := h.field Core.streamPhase rfl
  have hgen := h.field Core.subjectsGeneration rfl
  have haddr := h.field Core.startupAddresses rfl
  refine ⟨⟨htoken.ge, fun ho => houtputs.trans ho, fun hc => by rwa [hphase],
    quiet_of_flags h.streaming, .inl ⟨hgen, hlen⟩⟩, ?_⟩
  rintro ⟨hrest, haddrs⟩
  exact ⟨by rwa [hphase], haddr.trans haddrs⟩

theorem settles_gatePrepareFailed (c : Core) (token : Nat) (e : String) :
    Settles c (c.gatePrepareFailed token e) := by
  unfold gatePrepareFailed
  split
  · exact .refl c
  · exact ⟨⟨le_rfl, id, fun _ => rfl, id, .inl ⟨rfl, rfl⟩⟩, fun h => ⟨rfl, h.2⟩⟩

/-- A gate that becomes ready was on its way to official streaming already. -/
theorem settles_gateReady {c c' : Core} {token : Nat} (h : c.gateReady token = some c') :
    Settles c c' := by
  unfold gateReady at h
  split at h
  · cases h
  · rename_i hphase
    have hprep : c.streamPhase = .preparingOfficial := by
      by_contra hne
      exact hphase (.inr hne)
    cases h
    refine ⟨⟨le_rfl, id, ?_, id, .inl ⟨rfl, rfl⟩⟩, ?_⟩
    · intro hcalm
      rw [hprep] at hcalm
      cases hcalm
    · rintro ⟨hrest, -⟩
      rw [hprep] at hrest
      cases hrest

theorem settles_gateTimeout (c : Core) (token : Nat) : Settles c (c.gateTimeout token) := by
  unfold gateTimeout
  split
  · exact .refl c
  · rename_i hphase
    split
    · refine ⟨⟨le_rfl, id, fun _ => rfl, id, .inl ⟨rfl, rfl⟩⟩, ?_⟩
      rintro ⟨hrest, -⟩
      have hwarm : c.streamPhase = .warmingUp := by
        by_contra hne
        exact hphase (.inr hne)
      rw [hwarm] at hrest
      cases hrest
    · exact ⟨⟨le_rfl, id, fun _ => rfl, id, .inl ⟨rfl, rfl⟩⟩, fun h => ⟨rfl, h.2⟩⟩

theorem settles_retryStartup (c : Core) (token : Nat) (now : ℚ) :
    Settles c (c.retryStartup token now) := by
  unfold retryStartup
  split
  · exact .refl c
  · split
    · exact .refl c
    · rename_i hphase
      refine ⟨⟨le_rfl, id, fun _ => rfl, id, .inl ⟨rfl, rfl⟩⟩, ?_⟩
      rintro ⟨hrest, -⟩
      have hretry : c.streamPhase = .retryingStartup := by
        by_contra hne
        exact hphase (.inr hne)
      rw [hretry] at hrest
      cases hrest

theorem settles_commitRollback (c : Core) : Settles c c.commitRollback :=
  ⟨⟨le_rfl, fun _ => rfl, fun _ => rfl, id, .inl ⟨rfl, rfl⟩⟩, fun h => ⟨rfl, h.2⟩⟩

theorem settles_commitBegin {c c' : Core} {p : CommitPayload} (h : c.commitBegin p = .begin c') :
    Settles c c' := by
  obtain ⟨-, -, -, hready, rfl⟩ := commitBegin_eq_begin h
  refine ⟨⟨le_rfl, id, ?_, id, .inl ⟨rfl, rfl⟩⟩, ?_⟩
  · intro hcalm
    rw [hready] at hcalm
    cases hcalm
  · rintro ⟨hrest, -⟩
    rw [hready] at hrest
    cases hrest

/-! ### The sections of a stop -/

theorem settles_stopEnter (c : Core) (r : StopRequest) : Settles c (c.stopEnter r) := by
  unfold stopEnter
  dsimp only
  split
  · exact ⟨⟨le_rfl, id, id, id, .inl ⟨rfl, rfl⟩⟩, id⟩
  · refine ⟨⟨Nat.le_succ _, id, ?_, id, .inl ⟨rfl, rfl⟩⟩, ?_⟩
    · intro _
      show StreamPhase.calm (match c.streamPhase with
        | .idle => .idle | .startupFailed => .startupFailed | _ => .stopping) = true
      split <;> rfl
    · rintro ⟨hrest, haddr⟩
      refine ⟨?_, haddr⟩
      show StreamPhase.resting (match c.streamPhase with
        | .idle => .idle | .startupFailed => .startupFailed | _ => .stopping) = true
      cases hph : c.streamPhase <;> rw [hph] at hrest <;> first | rfl | cases hrest

theorem settles_updateStopped (c : Core) (r : StopRequest) {f : Subject → Subject}
    (hf : ∀ s, (f s).isStreaming = true → s.isStreaming = true) :
    Settles c (c.updateStopped r f) := by
  unfold updateStopped
  split
  · exact ⟨⟨le_rfl, id, id, quiet_updateAt hf rfl, .inl ⟨rfl, by simp⟩⟩, id⟩
  · exact .refl c

theorem settles_stopFinish (c : Core) : Settles c c.stopFinish := by
  cases hact : c.hasActiveStreams with
  | true =>
    rw [stopFinish_of_active hact]
    exact ⟨⟨le_rfl, id, id, id, .inl ⟨rfl, rfl⟩⟩, id⟩
  | false =>
    rw [stopFinish_of_quiet hact]
    exact ⟨⟨Nat.le_succ _, fun _ => rfl, fun _ => rfl, id, .inl ⟨rfl, rfl⟩⟩, fun _ => ⟨rfl, rfl⟩⟩

theorem settles_finalizeSessionArchive (c : Core) : Settles c c.finalizeSessionArchive := by
  unfold finalizeSessionArchive
  split
  · exact .refl c
  · split
    · exact .refl c
    · exact ⟨⟨le_rfl, id, id, id, .inl ⟨rfl, rfl⟩⟩, id⟩

theorem settles_stopAbort (c : Core) : Settles c c.stopAbort :=
  ⟨⟨le_rfl, id, id, id, .inl ⟨rfl, rfl⟩⟩, id⟩

theorem settles_recordStopResults (c : Core) (results : List StopResult) :
    Settles c (c.recordStopResults results) :=
  ⟨⟨le_rfl, id, id, id, .inl ⟨rfl, rfl⟩⟩, id⟩

theorem settles_stopClose (c : Core) (r : StopRequest) (env : StopEnv) :
    Settles c (c.stopClose r env) := by
  unfold stopClose
  dsimp only
  generalize env.physical.stopResults _ = results
  refine (settles_recordStopResults c results).trans (Settles.trans ?_ (settles_stopAbort _))
  split
  · exact .refl _
  · exact settles_finalizeSessionArchive _

/-- Every section of a stop past its entry. -/
theorem settles_stopStage (c : Core) (r : StopRequest) (env : StopEnv) (stage : StopStage) :
    Settles c (stage.advance c r env).1 := by
  cases stage with
  | issue =>
    show Settles c (c.stopIssue r)
    unfold stopIssue
    split
    · exact ⟨⟨le_rfl, id, id, id, .inl ⟨rfl, rfl⟩⟩, id⟩
    · exact .refl c
  | collect =>
    show Settles c (c.stopCollect r env.physical)
    unfold stopCollect
    split
    · exact settles_updateStopped c r fun _ h => h
    · exact .refl c
  | flush =>
    refine (settles_updateStopped c r (f := flushSubject) fun _ h => h).trans ?_
    exact ⟨⟨le_rfl, id, id, id, .inl ⟨rfl, rfl⟩⟩, id⟩
  | mark => exact settles_updateStopped c r fun _ h => by cases h
  | close => exact settles_stopClose c r env
  | release _ => exact ⟨⟨le_rfl, id, id, id, .inl ⟨rfl, rfl⟩⟩, id⟩
  | finish _ => exact settles_stopFinish c

/-! ### The sensor layer and the configuration -/

theorem settles_onStreamStarted (c : Core) : Settles c c.onStreamStarted := by
  unfold onStreamStarted
  split
  · exact .refl c
  · dsimp only
    split
    · exact ⟨⟨le_rfl, id, id, id, .inl ⟨rfl, rfl⟩⟩, id⟩
    · rename_i haddr
      exact ⟨⟨le_rfl, id, fun _ => rfl, id, .inl ⟨rfl, rfl⟩⟩, fun h => absurd h.2 haddr⟩

theorem settles_onStreamStopped (c : Core) : Settles c c.onStreamStopped := by
  unfold onStreamStopped
  dsimp only
  split
  · exact ⟨⟨le_rfl, id, id, id, .inl ⟨rfl, rfl⟩⟩, id⟩
  · split
    · obtain ⟨ar, ad, heq⟩ := cleanupFailedStartupSession_eq c
      rw [heq]
      refine ⟨⟨le_rfl, id, id, quiet_map ?_ rfl, .inl ⟨rfl, by simp⟩⟩, id⟩
      intro s hs
      split at hs
      · cases hs
      · exact hs
    · exact ⟨⟨le_rfl, id, id, id, .inl ⟨rfl, rfl⟩⟩, id⟩
    · exact ⟨⟨le_rfl, id, fun _ => rfl, id, .inl ⟨rfl, rfl⟩⟩, fun h => ⟨rfl, h.2⟩⟩

theorem settles_ingestSample (c : Core) (i : Nat) (sample : Sample) :
    Settles c (c.ingestSample i sample) := by
  unfold ingestSample
  split
  · exact .refl c
  · rename_i j _
    have hflag : ∀ s : Subject, ({ s with
        sensors := s.sensors.modify j fun e => (ingestInto e sample).1 } : Subject).isStreaming = true →
        s.isStreaming = true := fun _ h => h
    exact ⟨⟨le_rfl, id, id, quiet_updateAt hflag rfl, .inl ⟨rfl, by simp⟩⟩, id⟩

theorem settles_recordStartupSample (c : Core) (sample : Sample) (now : ℚ) :
    Settles c (c.recordStartupSample sample now) := by
  unfold recordStartupSample
  split
  · exact .refl c
  · split
    · exact .refl c
    · split
      · exact ⟨⟨le_rfl, id, id, id, .inl ⟨rfl, rfl⟩⟩, id⟩
      · exact .refl c

theorem settles_onData (c : Core) (sample : Sample) (now : ℚ) : Settles c (c.onData sample now) := by
  have hrec := settles_recordStartupSample c sample now
  unfold onData
  dsimp only
  split
  · split
    · exact hrec.trans (settles_ingestSample _ _ _)
    · exact hrec
  · exact hrec

theorem quiet_of_fresh {c : Core} {subjects : List SubjectConfig}
    (h : c.subjects = subjects.map SubjectConfig.toSubject) : c.Quiet := by
  unfold Quiet
  rw [hasActiveStreams_eq_false_iff, h]
  intro s hs
  obtain ⟨cfg, -, rfl⟩ := List.mem_map.mp hs
  rfl

theorem settles_initCore (c : Core) (outcome : Installation) : Settles c (c.initCore outcome).1 := by
  unfold initCore
  split
  · exact .refl c
  · split
    · exact .refl c
    · exact ⟨⟨le_rfl, id, id, id, .inl ⟨rfl, rfl⟩⟩, id⟩
    · rename_i subjects
      have hquiet : ({ c with
          subjects := subjects.map SubjectConfig.toSubject
          subjectsGeneration := c.subjectsGeneration + 1 } : Core).Quiet := quiet_of_fresh rfl
      exact ⟨⟨le_rfl, id, id, fun _ => hquiet, .inr ⟨Nat.lt_succ_self _, hquiet⟩⟩, id⟩

theorem settles_resetSession (c : Core) (refusal : Option String) :
    Settles c (c.resetSession refusal).1 := by
  unfold resetSession
  split
  · exact .refl c
  · split
    · exact .refl c
    · split
      · exact .refl c
      · split
        · exact .refl c
        · exact ⟨⟨le_rfl, id, id, id, .inl ⟨rfl, rfl⟩⟩, id⟩

theorem settles_resetFinished (c : Core) (report : Option Bool) :
    Settles c (c.resetFinished report) := by
  cases report with
  | none => exact ⟨⟨le_rfl, id, id, id, .inl ⟨rfl, rfl⟩⟩, id⟩
  | some ready =>
    exact ⟨⟨Nat.le_succ _, fun _ => rfl, fun _ => rfl, fun _ => rfl,
      .inr ⟨Nat.lt_succ_self _, rfl⟩⟩, fun _ => ⟨rfl, rfl⟩⟩

end Core

end NexusN3
