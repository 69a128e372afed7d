import NexusN3.Core.Configure

/-!
# A failed activation and what is rolled back

`_activate_official_streaming` has two callers. The coordinated commit catches the
exception and writes the failure into the state (`commitRollback`); the local gate lets it
end its thread, with the phase left at `activating_official`. Neither takes the streaming
flags down again, and `enable_routing`, the last call, runs after they went up.
`failedActivation_rolledBack_iff` puts the two together.
-/

namespace NexusN3

inductive ActivationPath where
  | localGate
  | coordinated
  deriving DecidableEq

namespace Core

/-- `FailedActivation env c path c'`: an activation that starts in `c` raises, and `c'` is
what its caller leaves. The commit holds no lock while it activates, so its `c` is any
state the Core may be in by then. -/
inductive FailedActivation (env : ActivationEnv) (c : Core) : ActivationPath → Core → Prop where
  | gate {token : Nat} {c' : Core} {e : String} (h : c.gateDecide token env = (c', .raised e)) :
      FailedActivation env c .localGate c'
  | commit {c₁ : Core} {e : String} (h : c.activateOfficialStreaming env = (c₁, .error e)) :
      FailedActivation env c .coordinated c₁.commitRollback

/-- The failure is rolled back: the phase says so, the outputs are shut, no subject streams
that did not before, and a full stop opens the way to a Reset. -/
structure RolledBack (c c' : Core) : Prop where
  streamPhase : c'.streamPhase = .startupFailed
  outputs : c'.officialOutputsActive = false
  commit : c'.officialCommitReceived = false
  streaming : ∀ (i : Nat) (s' : Subject), c'.subjects[i]? = some s' → s'.isStreaming = true →
    ∃ s, c.subjects[i]? = some s ∧ s.isStreaming = true
  resettable : ∀ (stopSessionId : Option String) (stopEnv : StopEnv) (refusal : Option String)
    (e : String), ((c'.stopStreamImpl (c'.stopAllRequest stopSessionId) stopEnv).resetSession
      refusal).2 ≠ .refused e

/-- After the commit's rollback only the streaming flags are in question. -/
theorem rolledBack_commitRollback_iff (c c₁ : Core) :
    RolledBack c c₁.commitRollback ↔
      ∀ (i : Nat) (s' : Subject), c₁.subjects[i]? = some s' → s'.isStreaming = true →
        ∃ s, c.subjects[i]? = some s ∧ s.isStreaming = true := by
  constructor
  · intro h
    exact h.streaming
  · intro h
    exact ⟨rfl, rfl, rfl, h, resetSession_after_stopAll _⟩

/-- The local gate leaves the phase its activation began with. -/
theorem gateDecide_raised {c c' : Core} {token : Nat} {env : ActivationEnv} {e : String}
    (h : c.gateDecide token env = (c', .raised e)) : c'.streamPhase = .activatingOfficial := by
  unfold gateDecide at h
  split at h
  · cases h
  · split at h
    · cases h
    · split at h
      · cases h
      · have hphase := activate_field (c.setPhase .activatingOfficial) env Core.streamPhase
          fun _ => rfl
        split at h
        · rename_i hact
          cases h
          rw [hact] at hphase
          exact hphase
        · cases h

/-- Flags that only the preparation could have touched are where they were. -/
theorem SameButOutputs.streaming_kept {c c₁ : Core} (h : SameButOutputs c c₁) (i : Nat)
    (s' : Subject) (hs' : c₁.subjects[i]? = some s') (hup : s'.isStreaming = true) :
    ∃ s, c.subjects[i]? = some s ∧ s.isStreaming = true := by
  have hi := congrArg (fun l : List Bool => l[i]?) h.streaming
  simp only [List.getElem?_map, hs', Option.map_some, hup] at hi
  obtain ⟨s, hs, hflag⟩ := Option.map_eq_some_iff.mp hi.symm
  exact ⟨s, hs, hflag⟩

/-- When the routing raised, no flag is new exactly when the start's subjects were
streaming before. -/
theorem markStreaming_streaming_iff {c c₂ : Core} (h : SameButOutputs c c₂) (origin : Nat) :
    (∀ (i : Nat) (s' : Subject), (c₂.markStreaming origin).subjects[i]? = some s' →
        s'.isStreaming = true → ∃ s, c.subjects[i]? = some s ∧ s.isStreaming = true) ↔
      ∀ s ∈ c.subjects, s.subjectId ∈ c.startupSubjectIds → s.isStreaming = true := by
  have hstart : c₂.startupSubjectIds = c.startupSubjectIds :=
    h.field Core.startupSubjectIds rfl
  have hids : ∀ i : Nat, c₂.subjects[i]?.map Subject.subjectId = c.subjects[i]?.map Subject.subjectId := by
    intro i
    have := congrArg (fun l : List String => l[i]?) h.ids
    simpa [List.getElem?_map] using this
  have hget : ∀ i : Nat, (c₂.markStreaming origin).subjects[i]? = c₂.subjects[i]?.map fun s =>
      if s.subjectId ∈ c.startupSubjectIds then s.setStreaming true else s := by
    intro i
    simp [markStreaming, hstart]
  constructor
  · intro hkept s hs hstartup
    obtain ⟨i, hi⟩ := List.mem_iff_getElem?.mp hs
    -- the subject at this position of the prepared state carries the same id
    have hid := hids i
    rw [hi, Option.map_some] at hid
    obtain ⟨t, ht, hname⟩ := Option.map_eq_some_iff.mp hid
    have hmarked : (c₂.markStreaming origin).subjects[i]? = some (t.setStreaming true) := by
      rw [hget i, ht, Option.map_some, hname, if_pos hstartup]
    obtain ⟨s₀, hs₀, hflag⟩ := hkept i _ hmarked rfl
    rw [hi] at hs₀
    cases hs₀
    exact hflag
  · intro hall i s' hs' hup
    rw [hget i] at hs'
    obtain ⟨t, ht, rfl⟩ := Option.map_eq_some_iff.mp hs'
    split at hup
    · rename_i hstartup
      have hid := hids i
      rw [ht, Option.map_some] at hid
      obtain ⟨s, hs, hname⟩ := Option.map_eq_some_iff.mp hid.symm
      exact ⟨s, hs, hall s (List.mem_of_getElem? hs) (hname ▸ hstartup)⟩
    · exact h.streaming_kept i t ht hup

/-- **When a failed activation is rolled back**: on the coordinated path, and unless it was
`enable_routing` that raised with a subject of the start newly marked. -/
theorem failedActivation_rolledBack_iff {env : ActivationEnv} {c c' : Core}
    {path : ActivationPath} (h : FailedActivation env c path c') :
    RolledBack c c' ↔ path = .coordinated ∧ (c.RoutingRaises env →
      ∀ s ∈ c.subjects, s.subjectId ∈ c.startupSubjectIds → s.isStreaming = true) := by
  cases h with
  | gate hgate =>
    have hphase := gateDecide_raised hgate
    constructor
    · intro hback
      rw [hback.streamPhase] at hphase
      cases hphase
    · rintro ⟨hpath, -⟩
      cases hpath
  | commit hact =>
    rw [rolledBack_commitRollback_iff]
    rcases activate_error_cases hact with ⟨hnot, hsame⟩ | ⟨hraises, c₂, hsame, rfl⟩
    · exact ⟨fun _ => ⟨rfl, fun hr => absurd hr hnot⟩, fun _ => hsame.streaming_kept⟩
    · rw [show (∀ (i : Nat) (s' : Subject),
          ({ c₂.markStreaming env.origin with routingEnabled := true } : Core).subjects[i]? = some s' →
            s'.isStreaming = true → ∃ s, c.subjects[i]? = some s ∧ s.isStreaming = true) ↔ _ from
          markStreaming_streaming_iff hsame env.origin]
      exact ⟨fun hall => ⟨rfl, fun _ => hall⟩, fun hcond => hcond.2 hraises⟩

/-! A ready Core with one subject, and the two failures that are not rolled back. -/

def readyCore (mode : OfficialStartMode) (phase : StreamPhase) : Core :=
  { subjects := [{ subjectId := "s1", sensors := [{ address := some "AA" }] }]
    streamPhase := phase, sessionTimestamp := some "20260910_120000", officialStartMode := mode
    startSessionId := some "start-1", startupSubjectIds := ["s1"], startupAddresses := ["AA"] }

def committedCore : Core :=
  { readyCore .coordinated .activatingOfficial with officialCommitReceived := true }

/-- The commit with a raising router leaves the subject streaming; the local gate with a
raising compute reset leaves its phase at `activating_official`. -/
theorem failedActivation_not_rolledBack :
    (∃ c₁ c', (readyCore .coordinated .readyForOfficial).commitBegin
          { startSessionId := some "start-1" } = .begin c₁
        ∧ FailedActivation { failure := some (.routing "no gateway") } c₁ .coordinated c'
        ∧ c'.subjects.map Subject.isStreaming = [true] ∧ ¬ RolledBack c₁ c')
      ∧ ∃ c', FailedActivation { failure := some (.computeReset "host gone") }
          (readyCore .localGate .warmingUp) .localGate c'
        ∧ c'.streamPhase = .activatingOfficial
        ∧ ¬ RolledBack (readyCore .localGate .warmingUp) c' := by
  have hroute : committedCore.activateOfficialStreaming { failure := some (.routing "no gateway") }
      = ((committedCore.activateOfficialStreaming
          { failure := some (.routing "no gateway") }).1, .error "no gateway") := rfl
  have hreset : (readyCore .localGate .warmingUp).gateDecide 0
        { failure := some (.computeReset "host gone") }
      = ((readyCore .localGate .warmingUp).setPhase .activatingOfficial, .raised "host gone") := rfl
  refine ⟨⟨committedCore, _, rfl, .commit hroute, rfl, ?_⟩, ⟨_, .gate hreset, rfl, ?_⟩⟩
  · intro hback
    obtain ⟨s, hs, hflag⟩ := hback.streaming 0 _ rfl rfl
    cases hs
    cases hflag
  · intro hback
    exact absurd hback.streamPhase (by decide)

/-- A commit whose compute reset raises is rolled back. -/
theorem failedActivation_rolledBack_computeReset :
    ∃ c₁ c', (readyCore .coordinated .readyForOfficial).commitBegin
        { startSessionId := some "start-1" } = .begin c₁
      ∧ FailedActivation { failure := some (.computeReset "host gone") } c₁ .coordinated c'
      ∧ RolledBack c₁ c' := by
  have hact : committedCore.activateOfficialStreaming
      { failure := some (.computeReset "host gone") } = (committedCore, .error "host gone") := rfl
  refine ⟨committedCore, _, rfl, .commit hact, ?_⟩
  refine (failedActivation_rolledBack_iff (.commit hact)).mpr ⟨rfl, ?_⟩
  rintro ⟨⟨e, he⟩, -⟩
  cases he

end Core

end NexusN3
