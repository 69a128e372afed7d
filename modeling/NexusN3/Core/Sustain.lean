import NexusN3.Core.World

/-!
# What an acquisition rests on

Between an accepted start and its end an acquisition rests on a few facts of the Core: the
subjects of the armed start are there (`Tracked`), raised streaming flags stay up, and while
a stop of some subjects runs another subject streams (`OthersActive`). `Sustains` says of a
section that it leaves them alone; `KeepsStart` is the part of it that the sections of a stop
keep, which do take flags down.
-/

namespace NexusN3

/-- The phases of the guard's set. -/
def StreamPhase.busy : StreamPhase → Bool
  | .starting | .warmingUp | .preparingOfficial | .activatingOfficial => true
  | _ => false

namespace Core

theorem acquisitionGuard_eq (c : Core) :
    c.acquisitionGuard = (c.hasActiveStreams || c.streamPhase.busy) := rfl

/-- The start that armed the gate has a subject to stream. -/
def Tracked (c : Core) : Prop :=
  c.startupAddresses ≠ [] → ∃ s ∈ c.subjects, s.subjectId ∈ c.startupSubjectIds

/-- The subject-scoped stop names the positions it holds, and some other subject streams. -/
structure OthersActive (c : Core) (r : StopRequest) : Prop where
  generation : r.generation = c.subjectsGeneration
  named : ∀ i ∈ r.idxs, ∀ s, c.subjects[i]? = some s → s.subjectId ∈ r.subjectIds
  streaming : ∃ (i : Nat) (s : Subject), c.subjects[i]? = some s ∧ s.isStreaming = true
    ∧ s.subjectId ∉ r.subjectIds

theorem hasActiveStreams_iff {c : Core} :
    c.hasActiveStreams = true ↔ ∃ (i : Nat) (s : Subject), c.subjects[i]? = some s ∧ s.isStreaming = true := by
  unfold hasActiveStreams
  rw [List.any_eq_true]
  constructor
  · rintro ⟨s, hs, hup⟩
    obtain ⟨i, hi⟩ := List.mem_iff_getElem?.mp hs
    exact ⟨i, s, hi, hup⟩
  · rintro ⟨i, s, hi, hup⟩
    exact ⟨s, List.mem_of_getElem? hi, hup⟩

theorem OthersActive.hasActiveStreams {c : Core} {r : StopRequest} (h : OthersActive c r) :
    c.hasActiveStreams = true := by
  obtain ⟨i, s, hi, hup, -⟩ := h.streaming
  exact hasActiveStreams_iff.mpr ⟨i, s, hi, hup⟩

/-- The ids a payload carries are all known. -/
def resolves (c : Core) (p : StartPayload) : Bool :=
  match p.subjectIds with
  | none => false
  | some ids => (ids.filter fun sid => (c.findSubjectById sid).isNone).isEmpty

/-! ## What an acquisition rests on -/

/-- The subjects keep their ids, and what the armed start consists of is as it was. -/
structure KeepsStart (c c' : Core) : Prop where
  ids : c'.subjectIds = c.subjectIds
  generation : c'.subjectsGeneration = c.subjectsGeneration
  startupIds : c'.startupSubjectIds = c.startupSubjectIds
  addresses : c'.startupAddresses = c.startupAddresses
  recovery : c'.recoveryInProgress = c.recoveryInProgress

/-- Raised flags stay up as well, and no stop is taken for finalized. -/
structure Sustains (c c' : Core) : Prop extends KeepsStart c c' where
  pending : c'.streamStopFinalizationPending = c.streamStopFinalizationPending
  flags : ∀ (i : Nat) (s : Subject), c.subjects[i]? = some s → s.isStreaming = true →
    ∃ s', c'.subjects[i]? = some s' ∧ s'.isStreaming = true

theorem Sustains.refl (c : Core) : Sustains c c :=
  ⟨⟨rfl, rfl, rfl, rfl, rfl⟩, rfl, fun _ s hs hup => ⟨s, hs, hup⟩⟩

theorem KeepsStart.trans {a b c : Core} (h₁ : KeepsStart a b) (h₂ : KeepsStart b c) :
    KeepsStart a c :=
  ⟨h₂.ids.trans h₁.ids, h₂.generation.trans h₁.generation, h₂.startupIds.trans h₁.startupIds,
    h₂.addresses.trans h₁.addresses, h₂.recovery.trans h₁.recovery⟩

theorem Sustains.trans {a b c : Core} (h₁ : Sustains a b) (h₂ : Sustains b c) : Sustains a c := by
  refine ⟨h₁.toKeepsStart.trans h₂.toKeepsStart, h₂.pending.trans h₁.pending, ?_⟩
  intro i s hs hup
  obtain ⟨s₁, hs₁, hup₁⟩ := h₁.flags i s hs hup
  exact h₂.flags i s₁ hs₁ hup₁

theorem id_at {c c' : Core} (h : c'.subjectIds = c.subjectIds) {i : Nat} {s s' : Subject}
    (hs : c.subjects[i]? = some s) (hs' : c'.subjects[i]? = some s') :
    s'.subjectId = s.subjectId := by
  have hi := congrArg (fun l : List String => l[i]?) h
  simpa [subjectIds, hs, hs'] using hi

theorem exists_at {c c' : Core} (h : c'.subjectIds = c.subjectIds) {i : Nat} {s' : Subject}
    (hs' : c'.subjects[i]? = some s') :
    ∃ s, c.subjects[i]? = some s ∧ s.subjectId = s'.subjectId := by
  have hi := congrArg (fun l : List String => l[i]?) h
  simp only [subjectIds, List.getElem?_map, hs', Option.map_some] at hi
  obtain ⟨s, hs, hid⟩ := Option.map_eq_some_iff.mp hi.symm
  exact ⟨s, hs, hid⟩

theorem Sustains.hasActiveStreams {c c' : Core} (h : Sustains c c')
    (hact : c.hasActiveStreams = true) : c'.hasActiveStreams = true := by
  obtain ⟨i, s, hs, hup⟩ := hasActiveStreams_iff.mp hact
  obtain ⟨s', hs', hup'⟩ := h.flags i s hs hup
  exact hasActiveStreams_iff.mpr ⟨i, s', hs', hup'⟩

theorem KeepsStart.tracked {c c' : Core} (h : KeepsStart c c') (ht : c.Tracked) : c'.Tracked := by
  intro hne
  obtain ⟨s, hs, hmem⟩ := ht (h.addresses ▸ hne)
  obtain ⟨i, hi⟩ := List.mem_iff_getElem?.mp hs
  obtain ⟨s', hs', hid⟩ := exists_at h.ids.symm hi
  exact ⟨s', List.mem_of_getElem? hs', by rw [h.startupIds, hid]; exact hmem⟩

theorem Sustains.othersActive {c c' : Core} (h : Sustains c c') {r : StopRequest}
    (ho : OthersActive c r) : OthersActive c' r := by
  refine ⟨ho.generation.trans h.generation.symm, ?_, ?_⟩
  · intro i hi s' hs'
    obtain ⟨s, hs, hid⟩ := exists_at h.ids hs'
    exact hid ▸ ho.named i hi s hs
  · obtain ⟨i, s, hs, hup, hout⟩ := ho.streaming
    obtain ⟨s', hs', hup'⟩ := h.flags i s hs hup
    exact ⟨i, s', hs', hup', (id_at h.ids hs hs').symm ▸ hout⟩

/-! ### The sections that sustain an acquisition -/

theorem subjectIds_map {c c' : Core} {f : Subject → Subject}
    (hf : ∀ s, (f s).subjectId = s.subjectId) (hsub : c'.subjects = c.subjects.map f) :
    c'.subjectIds = c.subjectIds := by
  unfold subjectIds
  rw [hsub, List.map_map]
  exact List.map_congr_left fun s _ => hf s

theorem subjectIds_updateAt {c c' : Core} {idxs : List Nat} {f : Subject → Subject}
    (hf : ∀ s, (f s).subjectId = s.subjectId) (hsub : c'.subjects = updateAt idxs f c.subjects) :
    c'.subjectIds = c.subjectIds := by
  unfold subjectIds
  rw [hsub]
  apply List.ext_getElem?
  intro i
  rw [List.getElem?_map, List.getElem?_map, updateAt_getElem?, Option.map_map]
  refine congrArg (fun g => Option.map g c.subjects[i]?) (funext fun s => ?_)
  show Subject.subjectId (if i ∈ idxs then f s else s) = s.subjectId
  split
  · exact hf s
  · rfl

theorem SameButOutputs.sustains {c c' : Core} (h : SameButOutputs c c') : Sustains c c' := by
  refine ⟨⟨h.ids, h.field Core.subjectsGeneration rfl, h.field Core.startupSubjectIds rfl,
    h.field Core.startupAddresses rfl, h.field Core.recoveryInProgress rfl⟩,
    h.field Core.streamStopFinalizationPending rfl, ?_⟩
  intro i s hs hup
  have hi := congrArg (fun l : List Bool => l[i]?) h.streaming
  simp only [List.getElem?_map, hs, Option.map_some, hup] at hi
  exact Option.map_eq_some_iff.mp hi

theorem sustains_markStreaming (c : Core) (origin : Nat) : Sustains c (c.markStreaming origin) := by
  have hid : ∀ s : Subject, (if s.subjectId ∈ c.startupSubjectIds then s.setStreaming true
      else s).subjectId = s.subjectId := by
    intro s
    split <;> rfl
  refine ⟨⟨subjectIds_map hid rfl, rfl, rfl, rfl, rfl⟩, rfl, ?_⟩
  intro i s hs hup
  refine ⟨_, by rw [markStreaming, List.getElem?_map, hs]; rfl, ?_⟩
  dsimp only
  split
  · rfl
  · exact hup

/-- The activation raises flags and lowers none, wherever it ends. -/
theorem sustains_activate (c : Core) (env : ActivationEnv) :
    Sustains c (c.activateOfficialStreaming env).1 := by
  unfold activateOfficialStreaming
  split
  · exact .refl c
  · split
    · exact .refl c
    · have hprep := (prepareOfficialPersistence_same c env.outputFailure).sustains
      split
      · rename_i heq
        rw [heq] at hprep
        exact hprep
      · rename_i heq
        rw [heq] at hprep
        have hmark := hprep.trans (sustains_markStreaming _ env.origin)
        split
        · exact ⟨⟨hmark.ids, hmark.generation, hmark.startupIds, hmark.addresses, hmark.recovery⟩,
            hmark.pending, hmark.flags⟩
        · exact ⟨⟨hmark.ids, hmark.generation, hmark.startupIds, hmark.addresses, hmark.recovery⟩,
            hmark.pending, hmark.flags⟩

/-- An activation that came through has marked the subjects of the start. -/
theorem activate_ok_streaming {c c' : Core} {env : ActivationEnv}
    (h : c.activateOfficialStreaming env = (c', .ok ()))
    (hstart : ∃ s ∈ c.subjects, s.subjectId ∈ c.startupSubjectIds) :
    c'.hasActiveStreams = true := by
  unfold activateOfficialStreaming at h
  split at h
  · cases h
  · split at h
    · cases h
    · have hprep := (prepareOfficialPersistence_same c env.outputFailure).sustains
      split at h
      · cases h
      · rename_i c₁ heq
        rw [heq] at hprep
        obtain ⟨s, hs, hmem⟩ := hstart
        obtain ⟨i, hi⟩ := List.mem_iff_getElem?.mp hs
        obtain ⟨s₁, hs₁, hid⟩ := exists_at hprep.ids.symm hi
        have hup : (c₁.markStreaming env.origin).hasActiveStreams = true := by
          refine hasActiveStreams_iff.mpr ⟨i, s₁.setStreaming true, ?_, rfl⟩
          rw [markStreaming, List.getElem?_map, hs₁, Option.map_some, hid, hprep.startupIds,
            if_pos hmem]
        split at h
        · cases h
        · cases h
          exact hup

theorem sustains_onStreamStarted (c : Core) : Sustains c c.onStreamStarted := by
  unfold onStreamStarted
  split
  · exact .refl c
  · dsimp only
    split <;> exact ⟨⟨rfl, rfl, rfl, rfl, rfl⟩, rfl, fun _ s hs hup => ⟨s, hs, hup⟩⟩

/-- Outside a retry and a failed startup the callback moves the phase at most. -/
theorem onStreamStopped_eq {c : Core} (hretry : c.streamPhase ≠ .retryingStartup)
    (hfailed : c.streamPhase ≠ .startupFailed) : ∃ ph,
      (ph = .officialStreaming ∨ ph = .idle)
        ∧ c.onStreamStopped = { c.setPhase ph with activeSubjectIds := none } := by
  have hdue : c.retryDue = false := by simp [retryDue, hretry]
  unfold onStreamStopped
  rw [hdue]
  simp only [Bool.false_eq_true, if_false]
  split
  · rename_i hph
    exact absurd hph hfailed
  · rename_i hph
    refine ⟨.officialStreaming, .inl rfl, ?_⟩
    rw [← hph]
    rfl
  · exact ⟨.idle, .inr rfl, rfl⟩

theorem sustains_recordStartupSample (c : Core) (sample : Sample) (now : ℚ) :
    Sustains c (c.recordStartupSample sample now)
      ∧ (c.recordStartupSample sample now).streamPhase = c.streamPhase := by
  unfold recordStartupSample
  split
  · exact ⟨.refl c, rfl⟩
  · split
    · exact ⟨.refl c, rfl⟩
    · split
      · exact ⟨⟨⟨rfl, rfl, rfl, rfl, rfl⟩, rfl, fun _ s hs hup => ⟨s, hs, hup⟩⟩, rfl⟩
      · exact ⟨.refl c, rfl⟩

theorem sustains_ingestSample (c : Core) (i : Nat) (sample : Sample) :
    Sustains c (c.ingestSample i sample) ∧ (c.ingestSample i sample).streamPhase = c.streamPhase := by
  unfold ingestSample
  split
  · exact ⟨.refl c, rfl⟩
  · rename_i j _
    refine ⟨⟨⟨?_, rfl, rfl, rfl, rfl⟩, rfl, ?_⟩, rfl⟩
    · exact subjectIds_updateAt (f := fun s =>
        { s with sensors := s.sensors.modify j fun e => (ingestInto e sample).1 }) (fun _ => rfl) rfl
    · intro k s hs hup
      refine ⟨_, by rw [updateAt_getElem?, hs]; rfl, ?_⟩
      split <;> exact hup

theorem sustains_onData (c : Core) (sample : Sample) (now : ℚ) :
    Sustains c (c.onData sample now) ∧ (c.onData sample now).streamPhase = c.streamPhase := by
  obtain ⟨hrec, hphase⟩ := sustains_recordStartupSample c sample now
  unfold onData
  dsimp only
  split
  · split
    · rename_i i _
      obtain ⟨hing, hphase'⟩ := sustains_ingestSample (c.recordStartupSample sample now) i sample
      exact ⟨hrec.trans hing, hphase'.trans hphase⟩
    · exact ⟨hrec, hphase⟩
  · exact ⟨hrec, hphase⟩

/-! ### The sections of a stop -/

theorem keepsStart_updateStopped (c : Core) (r : StopRequest) {f : Subject → Subject}
    (hf : ∀ s, (f s).subjectId = s.subjectId) : KeepsStart c (c.updateStopped r f) := by
  unfold updateStopped
  split
  · exact ⟨subjectIds_updateAt hf rfl, rfl, rfl, rfl, rfl⟩
  · exact ⟨rfl, rfl, rfl, rfl, rfl⟩

theorem updateStopped_streamPhase (c : Core) (r : StopRequest) (f : Subject → Subject) :
    (c.updateStopped r f).streamPhase = c.streamPhase := by
  unfold updateStopped
  split <;> rfl

theorem othersActive_updateStopped {c : Core} {r : StopRequest} {f : Subject → Subject}
    (hf : ∀ s, (f s).subjectId = s.subjectId) (h : OthersActive c r) :
    OthersActive (c.updateStopped r f) r := by
  have hkeep := keepsStart_updateStopped c r hf
  refine ⟨h.generation.trans hkeep.generation.symm, ?_, ?_⟩
  · intro i hi s' hs'
    obtain ⟨s, hs, hid⟩ := exists_at hkeep.ids hs'
    exact hid ▸ h.named i hi s hs
  · obtain ⟨i, s, hs, hup, hout⟩ := h.streaming
    refine ⟨i, s, ?_, hup, hout⟩
    have hi : i ∉ r.idxs := fun hi => hout (h.named i hi s hs)
    unfold updateStopped
    rw [if_pos h.generation]
    show (updateAt r.idxs f c.subjects)[i]? = some s
    rw [updateAt_getElem?, hs, Option.map_some, if_neg hi]

theorem finalizeSessionArchive_keeps (c : Core) :
    KeepsStart c c.finalizeSessionArchive
      ∧ c.finalizeSessionArchive.streamPhase = c.streamPhase := by
  unfold finalizeSessionArchive
  split
  · exact ⟨⟨rfl, rfl, rfl, rfl, rfl⟩, rfl⟩
  · split <;> exact ⟨⟨rfl, rfl, rfl, rfl, rfl⟩, rfl⟩

theorem stopClose_keeps (c : Core) (r : StopRequest) (env : StopEnv) :
    KeepsStart c (c.stopClose r env) ∧ (c.stopClose r env).streamPhase = c.streamPhase := by
  unfold stopClose
  dsimp only
  generalize env.physical.stopResults _ = results
  have hrecord : KeepsStart c (c.recordStopResults results) := ⟨rfl, rfl, rfl, rfl, rfl⟩
  have harchive : ∀ d : Core, KeepsStart c d ∧ d.streamPhase = c.streamPhase →
      KeepsStart c { d with streamStopFinalizationPending := false }
        ∧ d.streamPhase = c.streamPhase :=
    fun d hd => ⟨hd.1.trans ⟨rfl, rfl, rfl, rfl, rfl⟩, hd.2⟩
  split
  · exact harchive _ ⟨hrecord, rfl⟩
  · obtain ⟨hfin, hphase⟩ := finalizeSessionArchive_keeps (c.recordStopResults results)
    exact harchive _ ⟨hrecord.trans hfin, hphase⟩

/-- A section of a stop that does not clear the gate leaves the armed start and the phase. -/
theorem stopStage_keeps (c : Core) (r : StopRequest) (env : StopEnv) (stage : StopStage)
    (h : ∀ raised, stage = .finish raised → c.hasActiveStreams = true) :
    KeepsStart c (stage.advance c r env).1
      ∧ (stage.advance c r env).1.streamPhase = c.streamPhase := by
  cases stage with
  | issue =>
    show KeepsStart c (c.stopIssue r) ∧ (c.stopIssue r).streamPhase = c.streamPhase
    unfold stopIssue
    split <;> exact ⟨⟨rfl, rfl, rfl, rfl, rfl⟩, rfl⟩
  | collect =>
    show KeepsStart c (c.stopCollect r env.physical) ∧ (c.stopCollect r env.physical).streamPhase
      = c.streamPhase
    unfold stopCollect
    split
    · exact ⟨keepsStart_updateStopped c r fun _ => rfl, updateStopped_streamPhase c r _⟩
    · exact ⟨⟨rfl, rfl, rfl, rfl, rfl⟩, rfl⟩
  | flush =>
    refine ⟨(keepsStart_updateStopped c r (f := flushSubject) fun _ => rfl).trans
      ⟨rfl, rfl, rfl, rfl, rfl⟩, ?_⟩
    exact updateStopped_streamPhase c r flushSubject
  | mark => exact ⟨keepsStart_updateStopped c r fun _ => rfl, updateStopped_streamPhase c r _⟩
  | close => exact stopClose_keeps c r env
  | release raised => exact ⟨⟨rfl, rfl, rfl, rfl, rfl⟩, rfl⟩
  | finish raised =>
    show KeepsStart c c.stopFinish ∧ c.stopFinish.streamPhase = c.streamPhase
    rw [stopFinish_of_active (h raised rfl)]
    exact ⟨⟨rfl, rfl, rfl, rfl, rfl⟩, rfl⟩

/-- A subject the stop does not hold streams through all of its sections. -/
theorem othersActive_stopStage {c : Core} {r : StopRequest} (env : StopEnv) (stage : StopStage)
    (h : OthersActive c r) : OthersActive (stage.advance c r env).1 r := by
  -- a section that touches no subject keeps it at once
  have hsame : ∀ c' : Core, c'.subjects = c.subjects →
      c'.subjectsGeneration = c.subjectsGeneration → OthersActive c' r := by
    intro c' hsub hgen
    exact ⟨h.generation.trans hgen.symm, hsub ▸ h.named, hsub ▸ h.streaming⟩
  cases stage with
  | issue =>
    show OthersActive (c.stopIssue r) r
    unfold stopIssue
    split
    · exact hsame _ rfl rfl
    · exact h
  | collect =>
    show OthersActive (c.stopCollect r env.physical) r
    unfold stopCollect
    split
    · exact othersActive_updateStopped (fun _ => rfl) h
    · exact h
  | flush =>
    have hflush := othersActive_updateStopped (f := flushSubject) (fun _ => rfl) h
    exact ⟨hflush.generation, hflush.named, hflush.streaming⟩
  | mark => exact othersActive_updateStopped (fun _ => rfl) h
  | close => exact hsame _ (stopClose_subjects c r env) (stopClose_keeps c r env).1.generation
  | release raised => exact hsame _ rfl rfl
  | finish raised =>
    show OthersActive c.stopFinish r
    rw [stopFinish_of_active h.hasActiveStreams]
    exact hsame _ rfl rfl

/-- The phase a section of a stop leaves. -/
theorem stopStage_phase (c : Core) (r : StopRequest) (env : StopEnv) (stage : StopStage) :
    (stage.advance c r env).1.streamPhase = c.streamPhase
      ∨ (stage.advance c r env).1.streamPhase = .idle := by
  cases hact : c.hasActiveStreams with
  | true => exact .inl (stopStage_keeps c r env stage fun _ _ => hact).2
  | false =>
    cases stage with
    | finish raised =>
      right
      show c.stopFinish.streamPhase = .idle
      rw [stopFinish_of_quiet hact]
      rfl
    | _ => exact .inl (stopStage_keeps c r env _ (by nofun)).2

end Core

end NexusN3
