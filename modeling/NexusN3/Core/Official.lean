import NexusN3.Core.Start

/-!
# From a stable gate to official streaming

The sections of `_evaluate_startup_gate`, `_prepare_official_persistence`,
`_activate_official_streaming` and `start_official_stream`. The activation is the same code
on two paths: the local gate runs it inside its own locked section, the coordinated commit
runs it between two locked sections with nothing held. It mutates the compute stages, the
files, the subjects' flags and the routing one after another, so its result is the state it
left together with the exception, if any. Which call raises is the environment's choice
(`ActivationEnv.failure`).
-/

namespace NexusN3

open Lib

/-- `file_manager.start_stream` raising: at which subject, after how many of its entries. -/
structure OutputFailure where
  position : Nat
  entries : Nat
  error : String
  deriving DecidableEq

/-- The calls of `_activate_official_streaming` that can raise. -/
inductive ActivationFailure where
  | computeReset (error : String)
  | outputs (failure : OutputFailure)
  | routing (error : String)
  deriving DecidableEq

/-- What the surroundings contribute to one activation: the clock, the addresses of the
connected sensors that `enable_routing` puts in scope, and the call that raises. -/
structure ActivationEnv where
  origin : Nat := 0
  connected : List String := []
  failure : Option ActivationFailure := none
  deriving DecidableEq

def ActivationEnv.outputFailure (env : ActivationEnv) : Option OutputFailure :=
  match env.failure with
  | some (.outputs f) => some f
  | _ => none

namespace Core

/-! ## Preparing the output files -/

/-- A subject whose files the preparation still has to open. -/
def needsOutputs (c : Core) (s : Subject) : Bool :=
  decide (s.subjectId ∈ c.startupSubjectIds) && decide (s.subjectId ∉ c.preparedSubjectIds)

def openOutputsAt (c : Core) (i : Nat) (s : Subject) : Core :=
  { c with
    subjects := updateAt [i] (Subject.openOutputs c.sessionTimestamp
      (c.pendingStreamTags.get? s.subjectId).join) c.subjects
    preparedSubjectIds := insert s.subjectId c.preparedSubjectIds }

/-- The first entries of the failing subject are bound when the call raises. -/
def openOutputsPartly (c : Core) (f : OutputFailure) (s : Subject) : Core :=
  { c with
    subjects := updateAt [f.position] (fun _ =>
      { s with sensors := (s.openOutputs c.sessionTimestamp
          (c.pendingStreamTags.get? s.subjectId).join).sensors.take f.entries
          ++ s.sensors.drop f.entries }) c.subjects }

/-- The loop of `_prepare_official_persistence` over the positions still ahead. -/
def prepareLoop (c : Core) (failure : Option OutputFailure) : List Nat → Core × Except String Unit
  | [] => (c, .ok ())
  | i :: rest =>
    match c.subjects[i]? with
    | none => prepareLoop c failure rest
    | some s =>
      if c.needsOutputs s then
        match failure with
        | some f =>
          if f.position = i then (c.openOutputsPartly f s, .error f.error)
          else prepareLoop (c.openOutputsAt i s) failure rest
        | none => prepareLoop (c.openOutputsAt i s) failure rest
      else prepareLoop c failure rest

/-- `_prepare_official_persistence`. -/
def prepareOfficialPersistence (c : Core) (failure : Option OutputFailure) :
    Core × Except String Unit :=
  prepareLoop c failure (List.range c.subjects.length)

/-! ## The activation -/

/-- Raise `is_streaming` of the subjects of this start. -/
def markStreaming (c : Core) (origin : Nat) : Core :=
  { c with
    subjects := c.subjects.map fun s =>
      if s.subjectId ∈ c.startupSubjectIds then s.setStreaming true else s
    officialStreamOrigin := some origin }

/-- `_activate_official_streaming`. -/
def activateOfficialStreaming (c : Core) (env : ActivationEnv) : Core × Except String Unit :=
  if c.officialStartMode = .coordinated ∧ c.officialCommitReceived = false then
    (c, .error "Coordinated official persistence requires the global commit")
  else
    match env.failure with
    | some (.computeReset e) => (c, .error e)
    | _ =>
      match c.prepareOfficialPersistence env.outputFailure with
      | (c, .error e) => (c, .error e)
      | (c, .ok ()) =>
        let c := { c.markStreaming env.origin with routingEnabled := true }
        match env.failure with
        -- routing is switched on before the scope is handed to the gateways, which may refuse it
        | some (.routing e) => (c, .error e)
        | _ => ({ c with acquisitionScope := env.connected }, .ok ())

/-- Open the outputs: the last assignments of both paths. -/
def openOfficial (c : Core) : Core :=
  { c with streamPhase := .officialStreaming, officialOutputsActive := true }

/-! ## The gate thread -/

inductive GateOutcome where
  | stale
  | unstable
  | prepare
  | official
  | raised (error : String)
  deriving DecidableEq

/-- One locked look of the observation loop of `_evaluate_startup_gate`. -/
def gateDecide (c : Core) (token : Nat) (env : ActivationEnv) : Core × GateOutcome :=
  if token ≠ c.startupGateToken ∨ c.streamPhase ≠ .warmingUp then (c, .stale)
  else if c.startupStable = false then (c, .unstable)
  else
    match c.officialStartMode with
    | .coordinated => (c.setPhase .preparingOfficial, .prepare)
    | .localGate =>
      match (c.setPhase .activatingOfficial).activateOfficialStreaming env with
      | (c, .error e) => (c, .raised e)
      | (c, .ok ()) => (c.openOfficial, .official)

def startupTimeoutReason : String :=
  "startup gate timeout elapsed before all sensors became stable"

/-- The locked section the gate ends in when its window closes. -/
def gateTimeout (c : Core) (token : Nat) : Core :=
  if token ≠ c.startupGateToken ∨ c.streamPhase ≠ .warmingUp then c
  else if c.startupAttempt < c.policy.maxAttempts then
    { c with streamPhase := .retryingStartup, startupRetryPending := true }
  else
    { c with
      streamPhase := .startupFailed
      startupRetryPending := false
      startupLastFailureReason := some startupTimeoutReason }

/-- A coordinated gate whose files are open enters `ready_for_official`. -/
def gateReady (c : Core) (token : Nat) : Option Core :=
  if token ≠ c.startupGateToken ∨ c.streamPhase ≠ .preparingOfficial then none
  else some (c.setPhase .readyForOfficial)

/-- A coordinated gate whose file preparation raised. -/
def gatePrepareFailed (c : Core) (token : Nat) (error : String) : Core :=
  if token ≠ c.startupGateToken ∨ c.streamPhase ≠ .preparingOfficial then c
  else
    { c with
      streamPhase := .startupFailed
      startupRetryPending := false
      startupLastFailureReason := some ("official persistence preparation failed: " ++ error) }

/-- The locked section of `_schedule_startup_retry`. -/
def retryStartup (c : Core) (token : Nat) (now : ℚ) : Core :=
  if token ≠ c.startupGateToken then c
  else if c.startupManualStop = true ∨ c.streamPhase ≠ .retryingStartup then c
  else
    { c with
      startupAttempt := c.startupAttempt + 1
      startupRetryPending := false
      streamPhase := .starting
      startupStatsByAddress := Dict.ofList <| c.startupStatsByAddress.entries.map fun e =>
        (e.1, e.2.resetForAttempt (some now)) }

/-! ## The coordinated commit -/

structure CommitPayload where
  startSessionId : Option String
  sessionTimestamp : Option String := none
  deriving DecidableEq

/-- Python's `str` of an optional text. -/
def pyStr (value : Option String) : String := value.getD "None"

inductive CommitAdmission where
  | refused (error : String)
  | alreadyOfficial
  | alreadyActivating
  | begin (core : Core)

/-- The first locked section of `start_official_stream`. -/
def commitBegin (c : Core) (p : CommitPayload) : CommitAdmission :=
  if c.officialStartMode ≠ .coordinated then
    .refused "Official-start commands are only valid for coordinated streams"
  else if p.startSessionId.getD "" = "" ∨ p.startSessionId ≠ c.startSessionId then
    .refused "Official-start command does not match the active start session"
  else if p.sessionTimestamp.getD "" ≠ "" ∧ pyStr p.sessionTimestamp ≠ pyStr c.sessionTimestamp then
    .refused "Official-start command has a stale session timestamp"
  else
    match c.streamPhase with
    | .officialStreaming => .alreadyOfficial
    | .activatingOfficial => .alreadyActivating
    | .readyForOfficial =>
      .begin { c with officialCommitReceived := true, streamPhase := .activatingOfficial }
    | phase => .refused
      ("Local stream is not ready for official acquisition (phase=" ++ phase.text ++ ")")

/-- The locked section of the `except` branch. -/
def commitRollback (c : Core) : Core :=
  { c with
    officialCommitReceived := false
    officialOutputsActive := false
    officialStreamOrigin := none
    streamPhase := .startupFailed
    startupLastFailureReason := some "official persistence activation failed" }

/-- What the first locked section asks for, and what it changes. -/
theorem commitBegin_eq_begin {c c' : Core} {p : CommitPayload} (h : c.commitBegin p = .begin c') :
    c.officialStartMode = .coordinated ∧ p.startSessionId = c.startSessionId
      ∧ p.startSessionId ≠ none ∧ c.streamPhase = .readyForOfficial
      ∧ c' = { c with officialCommitReceived := true, streamPhase := .activatingOfficial } := by
  unfold commitBegin at h
  split at h
  · cases h
  · rename_i hmode
    split at h
    · cases h
    · rename_i hid
      push Not at hid
      split at h
      · cases h
      · cases hphase : c.streamPhase <;> rw [hphase] at h <;> cases h
        refine ⟨by simpa using hmode, hid.2, ?_, rfl, rfl⟩
        intro hnone
        exact hid.1 (by simp [hnone])

/-! ## What the activation touches

The preparation moves only bindings and the prepared set, so the fields the gate and the
commit decide on come out of an activation as they went in. -/

/-- The part of the state the preparation of the files leaves alone, read off the subjects
up to their bindings. -/
structure SameButOutputs (c c' : Core) : Prop where
  streaming : c'.subjects.map Subject.isStreaming = c.subjects.map Subject.isStreaming
  ids : c'.subjects.map Subject.subjectId = c.subjects.map Subject.subjectId
  rest : { c' with subjects := c.subjects, preparedSubjectIds := c.preparedSubjectIds } = c

theorem SameButOutputs.refl (c : Core) : SameButOutputs c c := ⟨rfl, rfl, rfl⟩

theorem SameButOutputs.field {c c' : Core} {α : Type} (h : SameButOutputs c c') (g : Core → α)
    (hg : g { c' with subjects := c.subjects, preparedSubjectIds := c.preparedSubjectIds } = g c') :
    g c' = g c :=
  hg.symm.trans (congrArg g h.rest)

theorem SameButOutputs.trans {a b c : Core} (h1 : SameButOutputs a b) (h2 : SameButOutputs b c) :
    SameButOutputs a c := by
  refine ⟨h2.streaming.trans h1.streaming, h2.ids.trans h1.ids, ?_⟩
  have h2' : { c with subjects := a.subjects, preparedSubjectIds := a.preparedSubjectIds } =
      { b with subjects := a.subjects, preparedSubjectIds := a.preparedSubjectIds } := by
    have := congrArg (fun d : Core =>
      { d with subjects := a.subjects, preparedSubjectIds := a.preparedSubjectIds }) h2.rest
    simpa using this
  exact h2'.trans h1.rest

/-- A subject update that keeps flags and ids only changes outputs. -/
theorem sameButOutputs_updateAt (c : Core) (idxs : List Nat) (f : Subject → Subject)
    (prepared : Finset String)
    (hf : ∀ i s, i ∈ idxs → c.subjects[i]? = some s →
      (f s).isStreaming = s.isStreaming ∧ (f s).subjectId = s.subjectId) :
    SameButOutputs c { c with
      subjects := updateAt idxs f c.subjects, preparedSubjectIds := prepared } := by
  have hpoint : ∀ (α : Type) (g : Subject → α), (∀ i s, i ∈ idxs → c.subjects[i]? = some s →
      g (f s) = g s) → (updateAt idxs f c.subjects).map g = c.subjects.map g := by
    intro α g hg
    apply List.ext_getElem?
    intro i
    rw [List.getElem?_map, List.getElem?_map, updateAt_getElem?]
    cases hs : c.subjects[i]? with
    | none => rfl
    | some s =>
      by_cases hi : i ∈ idxs
      · simp [hi, hg i s hi hs]
      · simp [hi]
  exact ⟨hpoint _ _ fun i s hi hs => (hf i s hi hs).1, hpoint _ _ fun i s hi hs => (hf i s hi hs).2,
    rfl⟩

theorem openOutputsAt_same (c : Core) (i : Nat) (s : Subject) :
    SameButOutputs c (c.openOutputsAt i s) :=
  sameButOutputs_updateAt c [i] _ _ fun _ _ _ _ => ⟨rfl, rfl⟩

theorem openOutputsPartly_same (c : Core) (f : OutputFailure) {s : Subject}
    (hs : c.subjects[f.position]? = some s) : SameButOutputs c (c.openOutputsPartly f s) := by
  refine sameButOutputs_updateAt c [f.position] _ c.preparedSubjectIds fun i t hi ht => ?_
  rw [List.mem_singleton.mp hi, hs] at ht
  cases ht
  exact ⟨rfl, rfl⟩

theorem prepareLoop_same (failure : Option OutputFailure) (idxs : List Nat) (c : Core) :
    SameButOutputs c (c.prepareLoop failure idxs).1 := by
  induction idxs generalizing c with
  | nil => exact .refl c
  | cons i rest ih =>
    unfold prepareLoop
    cases hs : c.subjects[i]? with
    | none => exact ih c
    | some s =>
      dsimp only
      split
      · cases failure with
        | none => exact (openOutputsAt_same c i s).trans (ih _)
        | some f =>
          dsimp only
          split
          · rename_i hpos
            exact openOutputsPartly_same c f (hpos ▸ hs)
          · exact (openOutputsAt_same c i s).trans (ih _)
      · exact ih c

theorem prepareOfficialPersistence_same (c : Core) (failure : Option OutputFailure) :
    SameButOutputs c (c.prepareOfficialPersistence failure).1 :=
  prepareLoop_same failure _ c

/-- The preparation has an error only to report when it was given one. -/
theorem prepareLoop_ok (idxs : List Nat) (c : Core) : (c.prepareLoop none idxs).2 = .ok () := by
  induction idxs generalizing c with
  | nil => rfl
  | cons i rest ih =>
    unfold prepareLoop
    split
    · exact ih c
    · split
      · exact ih _
      · exact ih c

/-- `enable_routing` is what raises: every call before it came through. -/
def RoutingRaises (c : Core) (env : ActivationEnv) : Prop :=
  (∃ e, env.failure = some (.routing e))
    ∧ ¬ (c.officialStartMode = .coordinated ∧ c.officialCommitReceived = false)

/-- **The two ways an activation fails.** Up to the routing nothing but outputs has
changed; when the routing raises, the streaming flags are already up. -/
theorem activate_error_cases {c c₁ : Core} {env : ActivationEnv} {e : String}
    (h : c.activateOfficialStreaming env = (c₁, .error e)) :
    (¬ c.RoutingRaises env ∧ SameButOutputs c c₁)
      ∨ (c.RoutingRaises env ∧ ∃ c₂, SameButOutputs c c₂
          ∧ c₁ = { c₂.markStreaming env.origin with routingEnabled := true }) := by
  unfold activateOfficialStreaming at h
  split at h
  · rename_i hcommit
    cases h
    exact .inl ⟨fun hr => hr.2 hcommit, .refl _⟩
  · rename_i hcommit
    split at h
    · rename_i e' hfail
      cases h
      refine .inl ⟨?_, .refl _⟩
      rintro ⟨⟨_, hr⟩, -⟩
      rw [hfail] at hr
      cases hr
    · rename_i hnotreset
      have hsame := prepareOfficialPersistence_same c env.outputFailure
      cases hprep : c.prepareOfficialPersistence env.outputFailure with
      | mk c₂ result =>
        rw [hprep] at h hsame
        cases result with
        | error e' =>
          cases h
          refine .inl ⟨?_, hsame⟩
          rintro ⟨⟨e'', hr⟩, -⟩
          -- with the routing as the failing call the preparation was given no failure
          have hnone : env.outputFailure = none := by simp [ActivationEnv.outputFailure, hr]
          have hok := prepareLoop_ok (List.range c.subjects.length) c
          rw [hnone] at hprep
          unfold prepareOfficialPersistence at hprep
          rw [hprep] at hok
          cases hok
        | ok u =>
          dsimp only at h
          split at h
          · rename_i e' hr
            cases h
            exact .inr ⟨⟨⟨_, hr⟩, hcommit⟩, c₂, hsame, rfl⟩
          · cases h

/-- The fields an activation may change are the outputs, the flags, the origin, the routing
and the scope. -/
def SameButActivation (c c' : Core) : Prop :=
  { c' with
    subjects := c.subjects, preparedSubjectIds := c.preparedSubjectIds
    officialStreamOrigin := c.officialStreamOrigin, routingEnabled := c.routingEnabled
    acquisitionScope := c.acquisitionScope } = c

theorem SameButOutputs.sameButActivation {c c' : Core} (h : SameButOutputs c c') :
    SameButActivation c c' := by
  have := congrArg (fun d : Core => { d with
    officialStreamOrigin := c.officialStreamOrigin, routingEnabled := c.routingEnabled
    acquisitionScope := c.acquisitionScope }) h.rest
  exact this

theorem activate_same (c : Core) (env : ActivationEnv) :
    SameButActivation c (c.activateOfficialStreaming env).1 := by
  unfold activateOfficialStreaming
  split
  · rfl
  · split
    · rfl
    · have hsame := prepareOfficialPersistence_same c env.outputFailure
      split
      · rename_i hprep
        rw [hprep] at hsame
        exact hsame.sameButActivation
      · rename_i hprep
        rw [hprep] at hsame
        split <;> exact hsame.sameButActivation

/-- Every field outside the activation's footprint comes out as it went in. -/
theorem activate_field {α : Type} (c : Core) (env : ActivationEnv) (g : Core → α)
    (hg : ∀ d : Core, g { d with
      subjects := c.subjects, preparedSubjectIds := c.preparedSubjectIds
      officialStreamOrigin := c.officialStreamOrigin, routingEnabled := c.routingEnabled
      acquisitionScope := c.acquisitionScope } = g d) :
    g (c.activateOfficialStreaming env).1 = g c :=
  (hg _).symm.trans (congrArg g (activate_same c env))

end Core

end NexusN3
