import NexusN3.Lib.Dict
import NexusN3.Lib.Mealy

/-!
# The host process of an algorithm plugin

One process per plugin version. It keeps an instance of the plugin's algorithm for each sensor
address, with the parameters it was started with, the two executors of the plugin, and the buffers
that a sample's results and timings are collected in. Timing figures are left out; that an
execution was timed is kept.

* **`Plugin`** — what the plugin's objects do. They are deterministic state machines.
* **`AlgorithmHost.handle`** — the methods of the host.
* **`AlgorithmHost.serve`** — the loop that reads requests until `shutdown`.
-/

namespace NexusN3.Compute

open Lib

/-- The parameters of `start_algorithm`. -/
structure Params (V : Type) where
  address : String
  samplingRate : V
  inputParameters : V
  subjectId : V
  location : V

/-- What `on_sample` does: the object after it, the results given to the listener, how often the
wrapped `execute_real_time` ran, and the text of the exception if it raises. -/
structure Sampled (A V : Type) where
  algorithm : A
  results : List V
  executions : Nat
  raised : Option String

/-- An algorithm plugin. `A`, `I` and `C` are the states of its algorithm and executor objects. An
exception is its text. -/
structure Plugin (A I C V : Type) where
  /-- what `describe` reads from the manifest -/
  description : V
  /-- `_algorithm_cls(…)` and the attributes that are set on the object -/
  construct : Params V → Except String A
  /-- the result listener and the compute delegate are registered; results may be emitted -/
  attach : A → List V × Except String A
  onSample : A → V → Sampled A V
  windowMetadata : A → V
  /-- the intermediate executor, if the plugin names one -/
  newIntermediate : Option I
  shouldRun : I → V → I × Except String Bool
  run : I → V → I × Except String (Option V)
  newConsolidation : Option C
  /-- `hasattr(executor, "consolidate")` -/
  hasConsolidate : Bool
  consolidate : C → V → V → C × Except String (Option V)

/-- The requests of a recording session. -/
inductive SessionRequest (V : Type) where
  | startAlgorithm (params : Params V)
  | ingestSample (address : String) (sample : V)
  | shouldRunIntermediate (resultBuffers : V)
  | runIntermediate (resultBuffers : V)
  | runConsolidation (subjectId records : V)
  | runBatch (params : Params V) (samples : List V)

inductive Request (V : Type) where
  | describe
  | healthcheck
  | session (request : SessionRequest V)
  | resetSession
  | shutdown

/-- `performance`, without its figures: whether the wrapped execution was measured, and the window
metadata. -/
structure Performance (V : Type) where
  exact : Bool
  metadata : V
  deriving DecidableEq

inductive Result (V : Type) where
  | described (description : V)
  | ok
  | started (address : String)
  | reset (addresses : List String)
  | ingested (results : List V) (performance : Option (Performance V))
  | ready (value : Bool)
  | value (value : Option V)
  | results (results : List V)
  deriving DecidableEq

/-- The response to a request; a process that has shut down gives none. -/
abbrev Response (V : Type) := Option (Except String (Result V))

structure AlgorithmHost (A I C V : Type) where
  intermediateExecutor : Option I
  consolidationExecutor : Option C
  instances : Dict String A
  instanceConfigs : Dict String (Params V)
  emittedResults : List V
  /-- how many timings there are for each address -/
  executionTimingsMs : Dict String Nat
  /-- the loop has ended -/
  exited : Bool

variable {A I C V : Type}

/-- The object of `_create_algorithm_instance`. -/
def Plugin.created (p : Plugin A I C V) (params : Params V) : Except String A :=
  match p.construct params with
  | .error e => .error e
  | .ok algorithm => (p.attach algorithm).2

/-- The loop of `run_batch`: the results, and the exception that ended it. -/
def Plugin.runSamples (p : Plugin A I C V) : A → List V → List V × Option String
  | _, [] => ([], none)
  | algorithm, sample :: samples =>
    let sampled := p.onSample algorithm sample
    match sampled.raised with
    | some e => (sampled.results, some e)
    | none =>
      let (results, raised) := p.runSamples sampled.algorithm samples
      (sampled.results ++ results, raised)

namespace AlgorithmHost

/-- A host that has just been launched. -/
def init (p : Plugin A I C V) : AlgorithmHost A I C V where
  intermediateExecutor := p.newIntermediate
  consolidationExecutor := p.newConsolidation
  instances := Dict.empty
  instanceConfigs := Dict.empty
  emittedResults := []
  executionTimingsMs := Dict.empty
  exited := false

/-- `_create_algorithm_instance`. -/
def createAlgorithmInstance (p : Plugin A I C V) (s : AlgorithmHost A I C V) (params : Params V) :
    AlgorithmHost A I C V × Except String A :=
  match p.construct params with
  | .error e => (s, .error e)
  | .ok algorithm =>
    let (emitted, attached) := p.attach algorithm
    let s := { s with emittedResults := s.emittedResults ++ emitted }
    match attached with
    | .error e => (s, .error e)
    | .ok algorithm =>
      -- `_install_execution_timer`
      ({ s with executionTimingsMs := s.executionTimingsMs.set params.address 0 }, .ok algorithm)

/-- `start_algorithm`. The parameters are remembered before the instance is created. -/
def startAlgorithm (p : Plugin A I C V) (s : AlgorithmHost A I C V) (params : Params V) :
    AlgorithmHost A I C V × Except String (Result V) :=
  let s := { s with instanceConfigs := s.instanceConfigs.set params.address params }
  match s.createAlgorithmInstance p params with
  | (s, .error e) => (s, .error e)
  | (s, .ok algorithm) =>
    ({ s with instances := s.instances.set params.address algorithm },
      .ok (.started params.address))

/-- The loop of `reset_session`, with the exception that ended it. -/
def recreate (p : Plugin A I C V) : AlgorithmHost A I C V → List (String × Params V) →
    AlgorithmHost A I C V × Except String Unit
  | s, [] => (s, .ok ())
  | s, (address, params) :: rest =>
    match s.createAlgorithmInstance p params with
    | (s, .error e) => (s, .error e)
    | (s, .ok algorithm) =>
      recreate p { s with instances := s.instances.set address algorithm } rest

/-- `reset_session`. -/
def resetSession (p : Plugin A I C V) (s : AlgorithmHost A I C V) :
    AlgorithmHost A I C V × Except String (Result V) :=
  let resetAddresses := s.instanceConfigs.keys
  let cleared := { s with
    instances := Dict.empty
    executionTimingsMs := Dict.empty
    emittedResults := [] }
  match cleared.recreate p s.instanceConfigs.entries with
  | (s, .error e) => (s, .error e)
  | (s, .ok ()) => (s, .ok (.reset resetAddresses))

/-- `ingest_sample`; `repr` is the text of the `KeyError` for an address without an instance. -/
def ingestSample (p : Plugin A I C V) (repr : String → String) (s : AlgorithmHost A I C V)
    (address : String) (sample : V) : AlgorithmHost A I C V × Except String (Result V) :=
  match s.instances.get? address with
  | none => (s, .error (repr address))
  | some algorithm =>
    let sampled := p.onSample algorithm sample
    let s := { s with
      instances := s.instances.set address sampled.algorithm
      emittedResults := sampled.results
      executionTimingsMs := s.executionTimingsMs.set address sampled.executions }
    match sampled.raised with
    | some e => (s, .error e)
    | none =>
      let results := s.emittedResults
      let timings := (s.executionTimingsMs.get? address).getD 0
      let performance :=
        if results.isEmpty then none
        else some ⟨decide (timings ≠ 0), p.windowMetadata sampled.algorithm⟩
      ({ s with emittedResults := [] }, .ok (.ingested results performance))

def shouldRunIntermediate (p : Plugin A I C V) (s : AlgorithmHost A I C V) (resultBuffers : V) :
    AlgorithmHost A I C V × Except String (Result V) :=
  match s.intermediateExecutor with
  | none => (s, .ok (.ready false))
  | some executor =>
    let (executor, ready) := p.shouldRun executor resultBuffers
    ({ s with intermediateExecutor := some executor }, ready.map .ready)

def runIntermediate (p : Plugin A I C V) (s : AlgorithmHost A I C V) (resultBuffers : V) :
    AlgorithmHost A I C V × Except String (Result V) :=
  match s.intermediateExecutor with
  | none => (s, .ok (.value none))
  | some executor =>
    let (executor, result) := p.run executor resultBuffers
    ({ s with intermediateExecutor := some executor }, result.map .value)

def runConsolidation (p : Plugin A I C V) (s : AlgorithmHost A I C V) (subjectId records : V) :
    AlgorithmHost A I C V × Except String (Result V) :=
  match s.consolidationExecutor with
  | none => (s, .ok (.value none))
  | some executor =>
    if p.hasConsolidate then
      let (executor, result) := p.consolidate executor subjectId records
      ({ s with consolidationExecutor := some executor }, result.map .value)
    else (s, .ok (.value none))

/-- `run_batch`: a new object takes the samples and is dropped. -/
def runBatch (p : Plugin A I C V) (s : AlgorithmHost A I C V) (params : Params V)
    (samples : List V) : AlgorithmHost A I C V × Except String (Result V) :=
  match p.construct params with
  | .error e => (s, .error e)
  | .ok algorithm =>
    let (emitted, attached) := p.attach algorithm
    match attached with
    | .error e => ({ s with emittedResults := emitted }, .error e)
    | .ok algorithm =>
      let (results, raised) := p.runSamples algorithm samples
      match raised with
      | some e => ({ s with emittedResults := emitted ++ results }, .error e)
      | none => ({ s with emittedResults := [] }, .ok (.results (emitted ++ results)))

/-- A batch changes the buffer only, and its answer does not depend on the host. -/
theorem runBatch_eq (p : Plugin A I C V) (s : AlgorithmHost A I C V) (params : Params V)
    (samples : List V) :
    ∃ emitted, s.runBatch p params samples
      = ({ s with emittedResults := emitted }, ((init p).runBatch p params samples).2) := by
  unfold runBatch
  cases p.construct params with
  | error e => exact ⟨_, rfl⟩
  | ok algorithm =>
    dsimp only
    cases (p.attach algorithm).2 with
    | error e => exact ⟨_, rfl⟩
    | ok algorithm =>
      dsimp only
      cases (p.runSamples algorithm samples).2 with
      | some e => exact ⟨_, rfl⟩
      | none => exact ⟨_, rfl⟩

def handleSession (p : Plugin A I C V) (repr : String → String) :
    Mealy (AlgorithmHost A I C V) (SessionRequest V) (Except String (Result V))
  | s, .startAlgorithm params => s.startAlgorithm p params
  | s, .ingestSample address sample => s.ingestSample p repr address sample
  | s, .shouldRunIntermediate resultBuffers => s.shouldRunIntermediate p resultBuffers
  | s, .runIntermediate resultBuffers => s.runIntermediate p resultBuffers
  | s, .runConsolidation subjectId records => s.runConsolidation p subjectId records
  | s, .runBatch params samples => s.runBatch p params samples

/-- `shutdown`, after which the loop ends. -/
def shutdown (s : AlgorithmHost A I C V) : AlgorithmHost A I C V × Except String (Result V) :=
  ({ s with
    instances := Dict.empty
    instanceConfigs := Dict.empty
    executionTimingsMs := Dict.empty
    emittedResults := []
    exited := true }, .ok .ok)

/-- The methods that `main` knows. -/
def handle (p : Plugin A I C V) (repr : String → String) :
    Mealy (AlgorithmHost A I C V) (Request V) (Except String (Result V))
  | s, .describe => (s, .ok (.described p.description))
  | s, .healthcheck => (s, .ok .ok)
  | s, .session request => s.handleSession p repr request
  | s, .resetSession => s.resetSession p
  | s, .shutdown => s.shutdown

/-- The loop of `main`. -/
def serve (p : Plugin A I C V) (repr : String → String) :
    Mealy (AlgorithmHost A I C V) (Request V) (Response V) := fun s request =>
  if s.exited then (s, none)
  else
    let (s, result) := s.handle p repr request
    (s, some result)

end AlgorithmHost

end NexusN3.Compute
