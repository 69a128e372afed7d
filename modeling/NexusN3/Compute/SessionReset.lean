import NexusN3.Compute.AlgorithmHost

/-!
# What a session leaves in an algorithm host

`reset_session` builds the algorithm instances again from the remembered parameters, in the order
in which the addresses were first started, and keeps the executors.

* **`askIntermediate`**, **`askConsolidation`**, **`askInstance`** — the parts of a host that
  answer a request, each a machine of its own.
* **`Related`** — two hosts with the same memory whose parts are alike. Every request keeps it.
* **`alike_iff`** — two hosts with the same memory are alike exactly when their parts are.
* **`Forgets`** — the condition on a history.
* **`reset_alike_iff`** — after a history and a reset, a host answers as a fresh one with the last
  starts exactly when the history meets the condition.
-/

namespace NexusN3.Compute

open Lib

variable {A I C V : Type}

/-! ## The parts of a host -/

inductive IntermediateRequest (V : Type) where
  | shouldRun (resultBuffers : V)
  | run (resultBuffers : V)

def IntermediateRequest.toSession : IntermediateRequest V → SessionRequest V
  | .shouldRun resultBuffers => .shouldRunIntermediate resultBuffers
  | .run resultBuffers => .runIntermediate resultBuffers

def askIntermediate (p : Plugin A I C V) : Mealy (Option I) (IntermediateRequest V) (Response V)
  | none, .shouldRun _ => (none, some (.ok (.ready false)))
  | none, .run _ => (none, some (.ok (.value none)))
  | some executor, .shouldRun resultBuffers =>
    let (executor, ready) := p.shouldRun executor resultBuffers
    (some executor, some (ready.map .ready))
  | some executor, .run resultBuffers =>
    let (executor, result) := p.run executor resultBuffers
    (some executor, some (result.map .value))

def askConsolidation (p : Plugin A I C V) : Mealy (Option C) (V × V) (Response V)
  | none, _ => (none, some (.ok (.value none)))
  | some executor, (subjectId, records) =>
    if p.hasConsolidate then
      let (executor, result) := p.consolidate executor subjectId records
      (some executor, some (result.map .value))
    else (some executor, some (.ok (.value none)))

/-- What a host answers when a sample has been taken. -/
def Sampled.reply (p : Plugin A I C V) (sampled : Sampled A V) : Except String (Result V) :=
  match sampled.raised with
  | some e => .error e
  | none => .ok (.ingested sampled.results
      (if sampled.results.isEmpty then none
        else some ⟨decide (sampled.executions ≠ 0), p.windowMetadata sampled.algorithm⟩))

/-- The instance of an address, if it has one. -/
def askInstance (p : Plugin A I C V) (repr : String → String) (address : String) :
    Mealy (Option A) V (Response V)
  | none, _ => (none, some (.error (repr address)))
  | some algorithm, sample =>
    let sampled := p.onSample algorithm sample
    (some sampled.algorithm, some (sampled.reply p))

namespace SessionRequest

def intermediate? : SessionRequest V → Option (IntermediateRequest V)
  | .shouldRunIntermediate resultBuffers => some (.shouldRun resultBuffers)
  | .runIntermediate resultBuffers => some (.run resultBuffers)
  | _ => none

def consolidation? : SessionRequest V → Option (V × V)
  | .runConsolidation subjectId records => some (subjectId, records)
  | _ => none

/-- What a request leaves of the remembered starts. -/
def remember (starts : Dict String (Params V)) : SessionRequest V → Dict String (Params V)
  | .startAlgorithm params => starts.set params.address params
  | _ => starts

end SessionRequest

/-- The last start of each address, in the order of the addresses' first starts. -/
def lastStarts (history : List (SessionRequest V)) : Dict String (Params V) :=
  history.foldl SessionRequest.remember Dict.empty

/-- No instance can be created with these parameters. -/
def Plugin.Raises (p : Plugin A I C V) (params : Params V) : Prop :=
  ∃ e, p.created params = .error e

namespace AlgorithmHost

/-! ## What each method changes -/

section Methods

variable (p : Plugin A I C V) (repr : String → String) (s : AlgorithmHost A I C V)

/-- Creating an instance changes the buffers only. -/
theorem createAlgorithmInstance_eq (params : Params V) :
    ∃ emitted timings, s.createAlgorithmInstance p params
      = ({ s with emittedResults := emitted, executionTimingsMs := timings },
          p.created params) := by
  unfold createAlgorithmInstance Plugin.created
  split
  · exact ⟨_, _, rfl⟩
  · rename_i algorithm _
    dsimp only
    split <;> rename_i hattached <;> rw [hattached] <;> exact ⟨_, _, rfl⟩

/-- The instances that a reset builds, and the exception that ends it. -/
def rebuilt (p : Plugin A I C V) : Dict String A → List (String × Params V) →
    Dict String A × Except String Unit
  | instances, [] => (instances, .ok ())
  | instances, (address, params) :: rest =>
    match p.created params with
    | .error e => (instances, .error e)
    | .ok algorithm => rebuilt p (instances.set address algorithm) rest

theorem recreate_eq (starts : List (String × Params V)) :
    ∃ emitted timings, s.recreate p starts
      = ({ s with
            instances := (rebuilt p s.instances starts).1
            emittedResults := emitted
            executionTimingsMs := timings }, (rebuilt p s.instances starts).2) := by
  induction starts generalizing s with
  | nil => exact ⟨_, _, rfl⟩
  | cons start rest ih =>
    obtain ⟨address, params⟩ := start
    obtain ⟨emitted, timings, hcreate⟩ := s.createAlgorithmInstance_eq p params
    unfold recreate rebuilt
    rw [hcreate]
    cases hcreated : p.created params with
    | error e => exact ⟨_, _, rfl⟩
    | ok algorithm => exact ih _

/-- The instances after a start. -/
def withStarted (p : Plugin A I C V) (instances : Dict String A) (params : Params V) :
    Dict String A :=
  match p.created params with
  | .error _ => instances
  | .ok algorithm => instances.set params.address algorithm

theorem startAlgorithm_eq (params : Params V) :
    ∃ emitted timings, s.startAlgorithm p params
      = ({ s with
            instanceConfigs := s.instanceConfigs.set params.address params
            instances := withStarted p s.instances params
            emittedResults := emitted
            executionTimingsMs := timings },
          (p.created params).map fun _ => .started params.address) := by
  obtain ⟨emitted, timings, hcreate⟩ := createAlgorithmInstance_eq p
    { s with instanceConfigs := s.instanceConfigs.set params.address params } params
  unfold startAlgorithm withStarted
  simp only [hcreate]
  cases hcreated : p.created params with
  | error e => exact ⟨_, _, rfl⟩
  | ok algorithm => exact ⟨_, _, rfl⟩

/-- A reset gives the instances that it builds, and the addresses or the exception. -/
theorem resetSession_eq :
    ∃ emitted timings, s.resetSession p
      = ({ s with
            instances := (rebuilt p Dict.empty s.instanceConfigs.entries).1
            emittedResults := emitted
            executionTimingsMs := timings },
          (rebuilt p Dict.empty s.instanceConfigs.entries).2.map fun _ =>
            .reset s.instanceConfigs.keys) := by
  obtain ⟨emitted, timings, hrecreate⟩ := recreate_eq p
    { s with instances := Dict.empty, executionTimingsMs := Dict.empty, emittedResults := [] }
    s.instanceConfigs.entries
  unfold resetSession
  simp only [hrecreate]
  cases (rebuilt p Dict.empty s.instanceConfigs.entries).2 with
  | error e => exact ⟨_, _, rfl⟩
  | ok _ => exact ⟨_, _, rfl⟩

/-- A sample goes to the instance of its address. -/
theorem ingestSample_eq (address : String) (sample : V) :
    ∃ instances emitted timings,
      (s.ingestSample p repr address sample).1 = { s with
        instances := instances
        emittedResults := emitted
        executionTimingsMs := timings } ∧
      some (s.ingestSample p repr address sample).2
        = (askInstance p repr address (s.instances.get? address) sample).2 ∧
      instances.get? address
        = (askInstance p repr address (s.instances.get? address) sample).1 ∧
      ∀ other, other ≠ address → instances.get? other = s.instances.get? other := by
  unfold ingestSample
  cases hinstance : s.instances.get? address with
  | none => exact ⟨s.instances, _, _, rfl, rfl, hinstance, fun _ _ => rfl⟩
  | some algorithm =>
    have hother (other : String) (hne : other ≠ address) :
        (s.instances.set address (p.onSample algorithm sample).algorithm).get? other
          = s.instances.get? other := Dict.get?_set_ne _ _ hne.symm
    unfold askInstance Sampled.reply
    dsimp only
    cases (p.onSample algorithm sample).raised with
    | some e => exact ⟨_, _, _, rfl, rfl, Dict.get?_set_self _ _ _, hother⟩
    | none =>
      refine ⟨_, _, _, rfl, ?_, Dict.get?_set_self _ _ _, hother⟩
      dsimp only
      rw [Dict.get?_set_self, Option.getD_some]

/-- The two methods of the intermediate executor ask nothing else. -/
theorem intermediate_eq (request : IntermediateRequest V) :
    (s.handleSession p repr request.toSession).1 = { s with
        intermediateExecutor := (askIntermediate p s.intermediateExecutor request).1 } ∧
      some (s.handleSession p repr request.toSession).2
        = (askIntermediate p s.intermediateExecutor request).2 := by
  obtain ⟨executor, _, _, _, _, _, _⟩ := s
  cases executor <;> cases request <;> exact ⟨rfl, rfl⟩

theorem consolidation_eq (subjectId records : V) :
    (s.runConsolidation p subjectId records).1 = { s with
        consolidationExecutor :=
          (askConsolidation p s.consolidationExecutor (subjectId, records)).1 } ∧
      some (s.runConsolidation p subjectId records).2
        = (askConsolidation p s.consolidationExecutor (subjectId, records)).2 := by
  obtain ⟨_, executor, _, _, _, _, _⟩ := s
  cases executor with
  | none => exact ⟨rfl, rfl⟩
  | some executor =>
    unfold runConsolidation askConsolidation
    dsimp only
    split <;> exact ⟨rfl, rfl⟩

end Methods

/-! ## Two hosts -/

section Related

variable {p : Plugin A I C V} {repr : String → String} {s t : AlgorithmHost A I C V}

/-- Two hosts with the same memory whose parts are alike. -/
structure Related (p : Plugin A I C V) (repr : String → String) (s t : AlgorithmHost A I C V) :
    Prop where
  exited : s.exited = t.exited
  configs : s.instanceConfigs = t.instanceConfigs
  intermediate : (askIntermediate p).Alike s.intermediateExecutor t.intermediateExecutor
  consolidation : (askConsolidation p).Alike s.consolidationExecutor t.consolidationExecutor
  instances : ∀ address,
    (askInstance p repr address).Alike (s.instances.get? address) (t.instances.get? address)

/-- The answers are the same and the hosts stay related. -/
def Agree (p : Plugin A I C V) (repr : String → String)
    (x y : AlgorithmHost A I C V × Except String (Result V)) : Prop :=
  x.2 = y.2 ∧ Related p repr x.1 y.1

theorem Related.startAlgorithm (h : Related p repr s t) (params : Params V) :
    Agree p repr (s.startAlgorithm p params) (t.startAlgorithm p params) := by
  obtain ⟨_, _, hs⟩ := s.startAlgorithm_eq p params
  obtain ⟨_, _, ht⟩ := t.startAlgorithm_eq p params
  rw [hs, ht]
  refine ⟨rfl, h.exited, congrArg (·.set params.address params) h.configs, h.intermediate,
    h.consolidation, ?_⟩
  intro address
  unfold withStarted
  dsimp only
  cases p.created params with
  | error e => exact h.instances address
  | ok algorithm =>
    dsimp only
    rw [Dict.get?_set, Dict.get?_set]
    split
    · exact Mealy.Alike.refl _
    · exact h.instances address

theorem Related.ingestSample (h : Related p repr s t) (address : String) (sample : V) :
    Agree p repr (s.ingestSample p repr address sample) (t.ingestSample p repr address sample) := by
  obtain ⟨is, _, _, hs, hsanswer, hsself, hsother⟩ := s.ingestSample_eq p repr address sample
  obtain ⟨it, _, _, ht, htanswer, htself, htother⟩ := t.ingestSample_eq p repr address sample
  constructor
  · apply Option.some.inj
    rw [hsanswer, htanswer]
    exact (h.instances address).answer sample
  · rw [hs, ht]
    refine ⟨h.exited, h.configs, h.intermediate, h.consolidation, ?_⟩
    intro other
    by_cases heq : other = address
    · subst heq
      simp only [hsself, htself]
      exact (h.instances other).next sample
    · simp only [hsother other heq, htother other heq]
      exact h.instances other

theorem Related.askIntermediate (h : Related p repr s t) (request : IntermediateRequest V) :
    Agree p repr (s.handleSession p repr request.toSession)
      (t.handleSession p repr request.toSession) := by
  obtain ⟨hs, hsanswer⟩ := s.intermediate_eq p repr request
  obtain ⟨ht, htanswer⟩ := t.intermediate_eq p repr request
  constructor
  · apply Option.some.inj
    rw [hsanswer, htanswer]
    exact h.intermediate.answer request
  · rw [hs, ht]
    exact ⟨h.exited, h.configs, h.intermediate.next request, h.consolidation, h.instances⟩

theorem Related.runConsolidation (h : Related p repr s t) (subjectId records : V) :
    Agree p repr (s.runConsolidation p subjectId records)
      (t.runConsolidation p subjectId records) := by
  obtain ⟨hs, hsanswer⟩ := s.consolidation_eq p subjectId records
  obtain ⟨ht, htanswer⟩ := t.consolidation_eq p subjectId records
  constructor
  · apply Option.some.inj
    rw [hsanswer, htanswer]
    exact h.consolidation.answer (subjectId, records)
  · rw [hs, ht]
    exact ⟨h.exited, h.configs, h.intermediate, h.consolidation.next (subjectId, records),
      h.instances⟩

theorem Related.runBatch (h : Related p repr s t) (params : Params V) (samples : List V) :
    Agree p repr (s.runBatch p params samples) (t.runBatch p params samples) := by
  obtain ⟨_, hs⟩ := s.runBatch_eq p params samples
  obtain ⟨_, ht⟩ := t.runBatch_eq p params samples
  rw [hs, ht]
  exact ⟨rfl, h.exited, h.configs, h.intermediate, h.consolidation, h.instances⟩

theorem Related.resetSession (h : Related p repr s t) :
    Agree p repr (s.resetSession p) (t.resetSession p) := by
  obtain ⟨_, _, hs⟩ := s.resetSession_eq p
  obtain ⟨_, _, ht⟩ := t.resetSession_eq p
  rw [hs, ht, h.configs]
  exact ⟨rfl, h.exited, rfl, h.intermediate, h.consolidation, fun _ => Mealy.Alike.refl _⟩

theorem Related.handle (h : Related p repr s t) (request : Request V) :
    Agree p repr (s.handle p repr request) (t.handle p repr request) := by
  cases request with
  | describe => exact ⟨rfl, h⟩
  | healthcheck => exact ⟨rfl, h⟩
  | resetSession => exact h.resetSession
  | shutdown =>
    exact ⟨rfl, rfl, rfl, h.intermediate, h.consolidation, fun _ => Mealy.Alike.refl _⟩
  | session request =>
    cases request with
    | startAlgorithm params => exact h.startAlgorithm params
    | ingestSample address sample => exact h.ingestSample address sample
    | shouldRunIntermediate resultBuffers => exact h.askIntermediate (.shouldRun resultBuffers)
    | runIntermediate resultBuffers => exact h.askIntermediate (.run resultBuffers)
    | runConsolidation subjectId records => exact h.runConsolidation subjectId records
    | runBatch params samples => exact h.runBatch params samples

/-- Related hosts answer alike. -/
theorem Related.alike (h : Related p repr s t) : (serve p repr).Alike s t := by
  apply Mealy.Alike.of_related (R := Related p repr) _ _ h
  · intro s t request h
    unfold serve
    rw [h.exited]
    split
    · rfl
    · exact congrArg some (h.handle request).1
  · intro s t request h
    unfold serve
    rw [h.exited]
    split
    · exact h
    · exact (h.handle request).2

/-! ## The parts of alike hosts -/

theorem serve_session (hrunning : s.exited = false) (request : SessionRequest V) :
    s.serve p repr (.session request)
      = ((s.handleSession p repr request).1, some (s.handleSession p repr request).2) := by
  unfold serve
  rw [hrunning]
  rfl

theorem embeds_intermediate :
    (serve p repr).Embeds (askIntermediate p) (fun s => s.exited = false)
      (fun s => s.intermediateExecutor) (fun request => .session request.toSession) where
  keeps s request hrunning := by
    rw [serve_session hrunning, (s.intermediate_eq p repr request).1]
    exact hrunning
  answer s request hrunning := by
    rw [serve_session hrunning]
    exact (s.intermediate_eq p repr request).2
  state s request hrunning := by
    rw [serve_session hrunning, (s.intermediate_eq p repr request).1]

theorem embeds_consolidation :
    (serve p repr).Embeds (askConsolidation p) (fun s => s.exited = false)
      (fun s => s.consolidationExecutor)
      (fun request => .session (.runConsolidation request.1 request.2)) where
  keeps s request hrunning := by
    rw [serve_session hrunning, handleSession, (s.consolidation_eq p request.1 request.2).1]
    exact hrunning
  answer s request hrunning := by
    rw [serve_session hrunning]
    exact (s.consolidation_eq p request.1 request.2).2
  state s request hrunning := by
    rw [serve_session hrunning, handleSession, (s.consolidation_eq p request.1 request.2).1]

theorem embeds_instance (address : String) :
    (serve p repr).Embeds (askInstance p repr address) (fun s => s.exited = false)
      (fun s => s.instances.get? address) (fun sample => .session (.ingestSample address sample))
      where
  keeps s sample hrunning := by
    obtain ⟨_, _, _, hs, _⟩ := s.ingestSample_eq p repr address sample
    rw [serve_session hrunning, handleSession, hs]
    exact hrunning
  answer s sample hrunning := by
    obtain ⟨_, _, _, _, hanswer, _⟩ := s.ingestSample_eq p repr address sample
    rw [serve_session hrunning]
    exact hanswer
  state s sample hrunning := by
    obtain ⟨_, _, _, hs, _, hself, _⟩ := s.ingestSample_eq p repr address sample
    rw [serve_session hrunning, handleSession, hs]
    exact hself

variable (p repr) in
/-- Two running hosts with the same memory are alike exactly when their parts are. -/
theorem alike_iff (hs : s.exited = false) (ht : t.exited = false)
    (hconfigs : s.instanceConfigs = t.instanceConfigs) :
    (serve p repr).Alike s t ↔
      (Compute.askIntermediate p).Alike s.intermediateExecutor t.intermediateExecutor ∧
      (askConsolidation p).Alike s.consolidationExecutor t.consolidationExecutor ∧
      ∀ address, (askInstance p repr address).Alike (s.instances.get? address)
        (t.instances.get? address) := by
  constructor
  · intro halike
    refine ⟨embeds_intermediate.alike hs ht halike, embeds_consolidation.alike hs ht halike, ?_⟩
    exact fun address => (embeds_instance address).alike hs ht halike
  · rintro ⟨hintermediate, hconsolidation, hinstances⟩
    have hrelated : Related p repr s t :=
      ⟨hs.trans ht.symm, hconfigs, hintermediate, hconsolidation, hinstances⟩
    exact hrelated.alike

end Related

/-! ## A host after a history -/

section History

variable {p : Plugin A I C V} {repr : String → String}

/-- What a request of a session leaves of the parts that a reset keeps. -/
theorem handleSession_eq (s : AlgorithmHost A I C V) (request : SessionRequest V) :
    (s.handleSession p repr request).1.exited = s.exited ∧
    (s.handleSession p repr request).1.instanceConfigs = request.remember s.instanceConfigs ∧
    (s.handleSession p repr request).1.intermediateExecutor
      = request.intermediate?.elim s.intermediateExecutor
          (fun k => (askIntermediate p s.intermediateExecutor k).1) ∧
    (s.handleSession p repr request).1.consolidationExecutor
      = request.consolidation?.elim s.consolidationExecutor
          (fun k => (askConsolidation p s.consolidationExecutor k).1) := by
  cases request with
  | startAlgorithm params =>
    obtain ⟨_, _, hs⟩ := s.startAlgorithm_eq p params
    rw [handleSession, hs]
    exact ⟨rfl, rfl, rfl, rfl⟩
  | ingestSample address sample =>
    obtain ⟨_, _, _, hs, _⟩ := s.ingestSample_eq p repr address sample
    rw [handleSession, hs]
    exact ⟨rfl, rfl, rfl, rfl⟩
  | shouldRunIntermediate resultBuffers =>
    have hs := (s.intermediate_eq p repr (.shouldRun resultBuffers)).1
    rw [IntermediateRequest.toSession] at hs
    rw [hs]
    exact ⟨rfl, rfl, rfl, rfl⟩
  | runIntermediate resultBuffers =>
    have hs := (s.intermediate_eq p repr (.run resultBuffers)).1
    rw [IntermediateRequest.toSession] at hs
    rw [hs]
    exact ⟨rfl, rfl, rfl, rfl⟩
  | runConsolidation subjectId records =>
    rw [handleSession, (s.consolidation_eq p subjectId records).1]
    exact ⟨rfl, rfl, rfl, rfl⟩
  | runBatch params samples =>
    obtain ⟨_, hs⟩ := s.runBatch_eq p params samples
    rw [handleSession, hs]
    exact ⟨rfl, rfl, rfl, rfl⟩

variable (p repr) in
/-- A running host serves the requests of a session by its methods. -/
theorem after_session {s : AlgorithmHost A I C V} (hrunning : s.exited = false)
    (history : List (SessionRequest V)) :
    (serve p repr).after s (history.map .session) = (handleSession p repr).after s history ∧
      ((handleSession p repr).after s history).exited = false := by
  induction history generalizing s with
  | nil => exact ⟨rfl, hrunning⟩
  | cons request rest ih =>
    rw [List.map_cons, Mealy.after_cons, Mealy.after_cons, serve_session hrunning]
    exact ih ((handleSession_eq s request).1.trans hrunning)

variable (p repr) in
theorem after_instanceConfigs (s : AlgorithmHost A I C V) (history : List (SessionRequest V)) :
    ((handleSession p repr).after s history).instanceConfigs
      = history.foldl SessionRequest.remember s.instanceConfigs := by
  induction history generalizing s with
  | nil => rfl
  | cons request rest ih =>
    rw [Mealy.after_cons, ih, (handleSession_eq s request).2.1]
    rfl

variable (p repr) in
/-- The executors are where the requests that went to them have taken them. -/
theorem after_executors (s : AlgorithmHost A I C V) (history : List (SessionRequest V)) :
    ((handleSession p repr).after s history).intermediateExecutor
        = (askIntermediate p).after s.intermediateExecutor
            (history.filterMap SessionRequest.intermediate?) ∧
      ((handleSession p repr).after s history).consolidationExecutor
        = (askConsolidation p).after s.consolidationExecutor
            (history.filterMap SessionRequest.consolidation?) := by
  constructor
  · exact Mealy.project_after (m := handleSession p repr) (c := askIntermediate p)
      (π := fun s => s.intermediateExecutor) (q := SessionRequest.intermediate?)
      (fun s request => (handleSession_eq s request).2.2.1) history
  · exact Mealy.project_after (m := handleSession p repr) (c := askConsolidation p)
      (π := fun s => s.consolidationExecutor) (q := SessionRequest.consolidation?)
      (fun s request => (handleSession_eq s request).2.2.2) history

/-! ### The remembered starts -/

/-- Each address remembers a start of its own. -/
theorem lastStarts_address (history : List (SessionRequest V)) :
    ∀ e ∈ (lastStarts history).entries, e.2.address = e.1 := by
  have key (starts : Dict String (Params V)) (hstarts : ∀ e ∈ starts.entries, e.2.address = e.1) :
      ∀ e ∈ (history.foldl SessionRequest.remember starts).entries, e.2.address = e.1 := by
    induction history generalizing starts with
    | nil => exact hstarts
    | cons request rest ih =>
      apply ih
      cases request with
      | startAlgorithm params =>
        intro e he
        have hget := Dict.get?_eq_some_iff.mpr he
        rw [SessionRequest.remember, Dict.get?_set] at hget
        split at hget
        · rename_i haddress
          cases hget
          exact haddress
        · exact hstarts e (Dict.get?_eq_some_iff.mp hget)
      | _ => exact hstarts
  exact key Dict.empty (by simp [Dict.empty])

/-- Starting the remembered starts again, in order, remembers the same. -/
theorem remember_lastStarts (history : List (SessionRequest V)) :
    ((lastStarts history).values.map SessionRequest.startAlgorithm).foldl
      SessionRequest.remember Dict.empty = lastStarts history := by
  rw [Dict.values, List.map_map, List.foldl_map]
  conv_rhs => rw [← Dict.ofList_entries (lastStarts history)]
  apply List.foldl_ext
  intro starts e he
  simp only [SessionRequest.remember, Function.comp_apply, lastStarts_address history e he]

/-! ### The instances -/

/-- An address without an entry keeps its instance. -/
theorem rebuilt_of_notMem {starts : List (String × Params V)} {address : String}
    (h : address ∉ starts.map Prod.fst) (instances : Dict String A) :
    (rebuilt p instances starts).1.get? address = instances.get? address := by
  induction starts generalizing instances with
  | nil => rfl
  | cons start rest ih =>
    obtain ⟨other, params⟩ := start
    obtain ⟨hne, hnotin⟩ := not_or.mp (fun hor => h (List.mem_cons.mpr hor))
    unfold rebuilt
    cases p.created params with
    | error e => rfl
    | ok algorithm =>
      dsimp only
      rw [ih hnotin, Dict.get?_set_ne _ _ (Ne.symm hne)]

/-- A reset gives an address its instance unless an earlier start raises. -/
theorem rebuilt_get? {before rest : List (String × Params V)} {address : String}
    {params : Params V}
    (hnodup : ((before ++ (address, params) :: rest).map Prod.fst).Nodup)
    {instances : Dict String A} (hnone : instances.get? address = none) :
    ((∀ e ∈ before, ¬ p.Raises e.2) ∧
      (rebuilt p instances (before ++ (address, params) :: rest)).1.get? address
        = (p.created params).toOption) ∨
    ((∃ e ∈ before, p.Raises e.2) ∧
      (rebuilt p instances (before ++ (address, params) :: rest)).1.get? address = none) := by
  induction before generalizing instances with
  | nil =>
    refine .inl ⟨by simp, ?_⟩
    have hnotin : address ∉ rest.map Prod.fst := (List.nodup_cons.mp hnodup).1
    rw [List.nil_append, rebuilt]
    cases p.created params with
    | error e => exact hnone
    | ok algorithm =>
      dsimp only
      rw [rebuilt_of_notMem hnotin, Dict.get?_set_self]
      rfl
  | cons start before ih =>
    obtain ⟨other, params'⟩ := start
    obtain ⟨hnotin, hrest⟩ := List.nodup_cons.mp hnodup
    have hne : other ≠ address := by
      rintro rfl
      exact hnotin (by simp)
    rw [List.cons_append, rebuilt]
    cases hcreated : p.created params' with
    | error e => exact .inr ⟨⟨(other, params'), List.mem_cons_self, e, hcreated⟩, hnone⟩
    | ok algorithm =>
      have hstarts : ¬ p.Raises params' := by
        rintro ⟨e, he⟩
        rw [hcreated] at he
        cases he
      have hother : (instances.set other algorithm).get? address = none :=
        (Dict.get?_set_ne _ _ hne).trans hnone
      rcases ih hrest hother with ⟨hall, hget⟩ | ⟨⟨e, he, hraises⟩, hget⟩
      · exact .inl ⟨List.forall_mem_cons.mpr ⟨hstarts, hall⟩, hget⟩
      · exact .inr ⟨⟨e, List.mem_cons_of_mem _ he, hraises⟩, hget⟩

/-- A start gives an instance to its own address only. -/
theorem withStarted_get? (instances : Dict String A) (params : Params V) (address : String) :
    (withStarted p instances params).get? address =
      if params.address = address then (p.created params).toOption.or (instances.get? address)
      else instances.get? address := by
  unfold withStarted
  cases p.created params with
  | error e => exact (ite_self _).symm
  | ok algorithm =>
    dsimp only
    rw [Dict.get?_set]
    rfl

theorem started_of_ne {starts : List (String × Params V)} {address : String}
    (h : ∀ e ∈ starts, e.2.address ≠ address) (instances : Dict String A) :
    (starts.foldl (fun instances e => withStarted p instances e.2) instances).get? address
      = instances.get? address := by
  induction starts generalizing instances with
  | nil => rfl
  | cons start rest ih =>
    rw [List.foldl_cons, ih fun e he => h e (List.mem_cons_of_mem _ he), withStarted_get?,
      if_neg (h start List.mem_cons_self)]

/-- One start after another gives each address the instance of its own start. -/
theorem started_get? {starts : List (String × Params V)}
    (haddress : ∀ e ∈ starts, e.2.address = e.1) (hnodup : (starts.map Prod.fst).Nodup)
    {address : String} {params : Params V} (hmem : (address, params) ∈ starts)
    {instances : Dict String A} (hnone : instances.get? address = none) :
    (starts.foldl (fun instances e => withStarted p instances e.2) instances).get? address
      = (p.created params).toOption := by
  induction starts generalizing instances with
  | nil => cases hmem
  | cons start rest ih =>
    obtain ⟨hnotin, hrest⟩ := List.nodup_cons.mp hnodup
    rw [List.foldl_cons]
    have hstart : start.2.address = start.1 := haddress start List.mem_cons_self
    rcases List.mem_cons.mp hmem with hhere | hthere
    · subst hhere
      have hkeep : ∀ e ∈ rest, e.2.address ≠ address := by
        intro e he heq
        apply hnotin
        show address ∈ rest.map Prod.fst
        rw [← heq, haddress e (List.mem_cons_of_mem _ he)]
        exact List.mem_map.mpr ⟨e, he, rfl⟩
      rw [started_of_ne hkeep, withStarted_get?, if_pos hstart, hnone, Option.or_none]
    · have hne : start.2.address ≠ address := by
        rw [hstart]
        rintro rfl
        exact hnotin (List.mem_map.mpr ⟨_, hthere, rfl⟩)
      refine ih (fun e he => haddress e (List.mem_cons_of_mem _ he)) hrest hthere ?_
      rw [withStarted_get?, if_neg hne]
      exact hnone

/-- Starts change the memory and the instances only. -/
theorem after_starts (s : AlgorithmHost A I C V) (starts : List (Params V)) :
    ((handleSession p repr).after s (starts.map .startAlgorithm)).instances
        = starts.foldl (withStarted p) s.instances ∧
      ((handleSession p repr).after s (starts.map .startAlgorithm)).intermediateExecutor
        = s.intermediateExecutor ∧
      ((handleSession p repr).after s (starts.map .startAlgorithm)).consolidationExecutor
        = s.consolidationExecutor := by
  induction starts generalizing s with
  | nil => exact ⟨rfl, rfl, rfl⟩
  | cons params rest ih =>
    obtain ⟨_, _, hs⟩ := s.startAlgorithm_eq p params
    rw [List.map_cons, Mealy.after_cons, handleSession, hs]
    exact ih _

/-! ## The session and the fresh host -/

/-- The host after a history and a reset. -/
def afterReset (p : Plugin A I C V) (repr : String → String) (history : List (SessionRequest V)) :
    AlgorithmHost A I C V :=
  (serve p repr).after (init p) (history.map .session ++ [.resetSession])

/-- A freshly launched host that is given the last start of each address. -/
def fresh (p : Plugin A I C V) (repr : String → String) (history : List (SessionRequest V)) :
    AlgorithmHost A I C V :=
  (serve p repr).after (init p)
    ((lastStarts history).values.map fun params => .session (.startAlgorithm params))

variable (p repr) in
theorem afterReset_eq (history : List (SessionRequest V)) :
    (afterReset p repr history).exited = false ∧
    (afterReset p repr history).instanceConfigs = lastStarts history ∧
    (afterReset p repr history).instances
      = (rebuilt p Dict.empty (lastStarts history).entries).1 ∧
    (afterReset p repr history).intermediateExecutor
      = (askIntermediate p).after p.newIntermediate
          (history.filterMap SessionRequest.intermediate?) ∧
    (afterReset p repr history).consolidationExecutor
      = (askConsolidation p).after p.newConsolidation
          (history.filterMap SessionRequest.consolidation?) := by
  obtain ⟨hafter, hrunning⟩ := after_session p repr (s := init p) rfl history
  obtain ⟨hintermediate, hconsolidation⟩ := after_executors p repr (init p) history
  have hconfigs := after_instanceConfigs p repr (init p) history
  unfold afterReset
  rw [Mealy.after_append, hafter, Mealy.after_cons, Mealy.after_nil]
  obtain ⟨_, _, hreset⟩ := ((handleSession p repr).after (init p) history).resetSession_eq p
  unfold serve
  rw [hrunning]
  simp only [Bool.false_eq_true, if_false, handle, hreset]
  refine ⟨hrunning, hconfigs, ?_, hintermediate, hconsolidation⟩
  rw [hconfigs]
  rfl

variable (p repr) in
theorem fresh_eq (history : List (SessionRequest V)) :
    (fresh p repr history).exited = false ∧
    (fresh p repr history).instanceConfigs = lastStarts history ∧
    (fresh p repr history).instances
      = (lastStarts history).values.foldl (withStarted p) Dict.empty ∧
    (fresh p repr history).intermediateExecutor = p.newIntermediate ∧
    (fresh p repr history).consolidationExecutor = p.newConsolidation := by
  have hstarts : (lastStarts history).values.map
      (fun params => Request.session (SessionRequest.startAlgorithm params))
        = ((lastStarts history).values.map SessionRequest.startAlgorithm).map .session := by
    rw [List.map_map]
    rfl
  obtain ⟨hafter, hrunning⟩ := after_session p repr (s := init p) rfl
    ((lastStarts history).values.map .startAlgorithm)
  unfold fresh
  rw [hstarts, hafter]
  refine ⟨hrunning, ?_, after_starts (init p) _⟩
  rw [after_instanceConfigs]
  exact remember_lastStarts history

/-- The condition on a history. The executors answer, after what they were asked, as new ones do,
and no address that was first started after one whose start raises has an instance that answers
anything but that it is missing. -/
structure Forgets (p : Plugin A I C V) (repr : String → String)
    (history : List (SessionRequest V)) : Prop where
  intermediate : (Compute.askIntermediate p).Alike
    ((Compute.askIntermediate p).after p.newIntermediate
      (history.filterMap SessionRequest.intermediate?)) p.newIntermediate
  consolidation : (askConsolidation p).Alike
    ((askConsolidation p).after p.newConsolidation
      (history.filterMap SessionRequest.consolidation?)) p.newConsolidation
  starts : ∀ before address params rest,
    (lastStarts history).entries = before ++ (address, params) :: rest →
    (∃ e ∈ before, p.Raises e.2) →
    (askInstance p repr address).Alike none (p.created params).toOption

/-- The instances of the two hosts are alike exactly when no start is lost. -/
theorem instances_alike_iff (history : List (SessionRequest V)) :
    (∀ address, (askInstance p repr address).Alike
        ((rebuilt p Dict.empty (lastStarts history).entries).1.get? address)
        (((lastStarts history).values.foldl (withStarted p) Dict.empty).get? address)) ↔
      ∀ before address params rest,
        (lastStarts history).entries = before ++ (address, params) :: rest →
        (∃ e ∈ before, p.Raises e.2) →
        (askInstance p repr address).Alike none (p.created params).toOption := by
  have haddress := lastStarts_address history
  have hnodup := (lastStarts history).nodup
  rw [Dict.values, List.foldl_map]
  have hfresh {address : String} {params : Params V}
      (hmem : (address, params) ∈ (lastStarts history).entries) :=
    started_get? (p := p) haddress hnodup hmem (Dict.get?_empty address)
  constructor
  · intro hall before address params rest heq hraises
    have hmem : (address, params) ∈ (lastStarts history).entries := by
      rw [heq]
      simp
    have halike := hall address
    rw [hfresh hmem] at halike
    rw [heq] at hnodup halike
    rcases rebuilt_get? (p := p) hnodup (Dict.get?_empty _) with ⟨hno, _⟩ | ⟨_, hget⟩
    · obtain ⟨e, he, hr⟩ := hraises
      exact absurd hr (hno e he)
    · rw [hget] at halike
      exact halike
  · intro hlost address
    by_cases hkey : address ∈ (lastStarts history).entries.map Prod.fst
    · obtain ⟨⟨_, params⟩, hmem, rfl⟩ := List.mem_map.mp hkey
      rw [hfresh hmem]
      obtain ⟨before, rest, heq⟩ := List.append_of_mem hmem
      rw [heq] at hnodup ⊢
      rcases rebuilt_get? (p := p) hnodup (Dict.get?_empty _) with
        ⟨_, hget⟩ | ⟨hraises, hget⟩
      · rw [hget]
        exact Mealy.Alike.refl _
      · rw [hget]
        exact hlost before _ params rest heq hraises
    · have hne : ∀ e ∈ (lastStarts history).entries, e.2.address ≠ address := by
        intro e he hsame
        rw [haddress e he] at hsame
        exact hkey (List.mem_map.mpr ⟨e, he, hsame⟩)
      rw [rebuilt_of_notMem hkey, started_of_ne hne]
      exact Mealy.Alike.refl _

/-- **Sessions do not leak.** After a history and a reset, a host answers every sequence of
requests as a freshly launched host with the last start of each address does, exactly when the
history meets the condition. -/
theorem reset_alike_iff (p : Plugin A I C V) (repr : String → String)
    (history : List (SessionRequest V)) :
    (∀ later, (serve p repr).answers (afterReset p repr history) later
        = (serve p repr).answers (fresh p repr history) later) ↔ Forgets p repr history := by
  obtain ⟨hs, hsconfigs, hsinstances, hsintermediate, hsconsolidation⟩ :=
    afterReset_eq p repr history
  obtain ⟨ht, htconfigs, htinstances, htintermediate, htconsolidation⟩ :=
    fresh_eq p repr history
  have hparts := alike_iff p repr hs ht (hsconfigs.trans htconfigs.symm)
  rw [hsinstances, htinstances, hsintermediate, htintermediate, hsconsolidation, htconsolidation,
    instances_alike_iff] at hparts
  constructor
  · intro hall
    obtain ⟨hintermediate, hconsolidation, hstarts⟩ := hparts.mp hall
    exact ⟨hintermediate, hconsolidation, hstarts⟩
  · intro hforgets
    exact hparts.mpr ⟨hforgets.intermediate, hforgets.consolidation, hforgets.starts⟩

end History

/-- A plugin whose intermediate executor is ready at every second question. -/
def everySecond : Plugin Unit Nat Unit Nat where
  description := 0
  construct _ := .ok ()
  attach _ := ([], .ok ())
  onSample _ _ := ⟨(), [], 0, none⟩
  windowMetadata _ := 0
  newIntermediate := some 0
  shouldRun n _ := (n + 1, .ok (decide (n % 2 = 1)))
  run n _ := (n, .ok none)
  newConsolidation := none
  hasConsolidate := false
  consolidate _ _ _ := ((), .ok none)

theorem intermediate_survives_reset :
    ¬ ∀ later, (serve everySecond id).answers
        (afterReset everySecond id [.shouldRunIntermediate 0]) later
      = (serve everySecond id).answers (fresh everySecond id [.shouldRunIntermediate 0]) later := by
  intro hall
  have hready := hall [.session (.shouldRunIntermediate 0)]
  have hleft : (serve everySecond id).answers
      (afterReset everySecond id [.shouldRunIntermediate 0])
      [.session (.shouldRunIntermediate 0)] = [some (.ok (.ready true))] := by rfl
  have hright : (serve everySecond id).answers
      (fresh everySecond id [.shouldRunIntermediate 0])
      [.session (.shouldRunIntermediate 0)] = [some (.ok (.ready false))] := by rfl
  rw [hleft, hright] at hready
  cases hready

end AlgorithmHost

end NexusN3.Compute
