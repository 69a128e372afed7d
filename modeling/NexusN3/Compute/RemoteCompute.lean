import NexusN3.Compute.AlgorithmHost
import NexusN3.Compute.Executors
import NexusN3.Lib.Json
import NexusN3.Lib.Unwinding

/-!
# Delegated compute

A window of samples goes to an AI node, which runs it as a batch in the plugin's host and sends the
last result back as a dictionary. The service reads the reply as a result object.

* **`handleCompute`** — the AI node. Its answer does not depend on what it has computed before
  (`handleCompute_reply`).
* **`onRemoteResult`**, **`onAlgorithmResult`** — the way of a reply into the compute manager.
* **`System.step`** — windows are delegated, requests computed and replies received in any order,
  any number of times.
* **`Equivalent`** — each answered request is processed once, with what a local run gives.
* **`equivalent_iff`** — that holds all along a run exactly when no result is ever received.
-/

namespace NexusN3.Compute.Remote

open Lib

deriving instance BEq for Json

abbrev Fields := List (String × Json)

/-! ## The parts -/

/-- An AI node as the registry has it. -/
structure AiNode where
  ip : String
  computePort : Option Nat
  supportedAlgorithms : List String

/-- What `delegate_compute` reads of an algorithm, and the state that its instance is in. -/
structure Algorithm (A : Type) where
  name : String
  address : Option String
  subjectId : Json
  location : Json
  samplingRate : Json
  inputParameters : Json
  instanceState : A

/-- A `RUN_ALGO` request; the samples are those of the window. -/
structure Payload where
  requestId : Nat
  algorithmName : String
  address : Option String
  subjectId : Json
  location : Json
  samplingRate : Json
  inputParameters : Json
  samples : List Json

/-- A request that has been sent, and the state of the instance that it was delegated by. -/
structure Sent (A : Type) where
  payload : Payload
  instanceState : A

/-- An `ALGO_RESULT`. -/
structure Reply where
  requestId : Nat
  algorithmName : String
  result : Option Fields
  error : Option String

/-- What the compute manager is given as a result. -/
inductive ResultValue where
  | dict (fields : Fields)
  | remoteComputeResult (fields : Fields)

/-- A result that has gone to the result router, and the request it answers. -/
structure Processed where
  requestId : Nat
  result : ResultValue

/-- What the parties rest on. -/
structure Env (A I C : Type) where
  /-- `str.lower` -/
  lower : String → String
  /-- the text of a request id -/
  requestIdText : Nat → String
  /-- the plugin that is installed on the AI node under a normalized name -/
  plugins : String → Option (Plugin A I C Json)
  /-- `type(value).__name__` of a field of a result -/
  typeName : Json → String
  /-- `dict(value)` of a field of a result -/
  dictOf : Json → Except String Fields

structure System (A I C : Type) where
  registry : Option (List AiNode)
  /-- the requests that `delegate_compute` has returned True for -/
  requests : List (Sent A)
  /-- the host processes of the AI node -/
  hosts : Dict String (AlgorithmHost A I C Json)
  /-- what the AI node has sent -/
  replies : List Reply
  /-- `_remote_result_counts`, one entry for each increment -/
  remoteResultCounts : List (Json × Json)
  processed : List Processed
  /-- what `error_cb` has been called with -/
  errors : List String
  /-- the requests that a result has been received for -/
  answered : List Nat

inductive Action (A : Type) where
  | setRegistry (registry : Option (List AiNode))
  /-- `fault` is the exception of a socket that does not take the message -/
  | delegateCompute (algorithm : Algorithm A) (samples : List Json) (fault : Option String)
  /-- the AI node handles a request; `fault` is an exception of its plugin host -/
  | compute (i : Nat) (fault : Option String)
  /-- a client receives a reply -/
  | receive (j : Nat)

variable {A I C : Type}

/-! ## The service -/

def AiNode.supports (lower : String → String) (node : AiNode) (algorithmName : String) : Bool :=
  ComputeOrchestrator.normalizeName lower algorithmName ∈
    ((node.supportedAlgorithms.filter fun name => strip name ≠ "").map
      (ComputeOrchestrator.normalizeName lower))

/-- `_select_ai_endpoint`. -/
def selectAiEndpoint (lower : String → String) (algorithmName : String) :
    List AiNode → Option (String × Nat)
  | [] => none
  | node :: nodes =>
    if algorithmName ≠ "" ∧ node.supports lower algorithmName = false then
      selectAiEndpoint lower algorithmName nodes
    else
      match node.computePort with
      | some (port + 1) =>
        if node.ip ≠ "" then some (node.ip, port + 1)
        else selectAiEndpoint lower algorithmName nodes
      | _ => selectAiEndpoint lower algorithmName nodes

/-- `delegate_compute`, with what it returns. -/
def System.delegateCompute (env : Env A I C) (s : System A I C) (algorithm : Algorithm A)
    (samples : List Json) (fault : Option String) : System A I C × Bool :=
  match selectAiEndpoint env.lower algorithm.name (s.registry.getD []) with
  | none => (s, false)
  | some _ =>
    let payload : Payload :=
      { requestId := s.requests.length
        algorithmName := algorithm.name
        address := algorithm.address
        subjectId := algorithm.subjectId
        location := algorithm.location
        samplingRate := algorithm.samplingRate
        inputParameters := algorithm.inputParameters
        samples := samples }
    match fault with
    | none => ({ s with requests := s.requests ++ [⟨payload, algorithm.instanceState⟩] }, true)
    | some e => ({ s with errors := s.errors ++ ["Remote compute send failed: " ++ e] }, false)

/-! ## The AI node -/

/-- The results that `run_batch` of the host's client gives: each item becomes a
`RemoteComputeResult`, which reads the items of a mapping. -/
def runBatchResults (env : Env A I C) : List Json → Except String (List Fields)
  | [] => .ok []
  | .obj fields :: items => (runBatchResults env items).map (fields :: ·)
  | item :: _ => .error ("'" ++ env.typeName item ++ "' object has no attribute 'items'")

/-- `RemoteComputeResult.to_dict`. A field of the result may stand in the way of the method or of
what it reads. -/
def toDict (env : Env A I C) (payload : Fields) : Except String Fields :=
  match payload.lookup "to_dict" with
  | some value => .error ("'" ++ env.typeName value ++ "' object is not callable")
  | none =>
    match payload.lookup "_payload" with
    | some value => env.dictOf value
    | none => .ok payload

/-- The `results` of a response. -/
def responseResults : Result Json → List Json
  | .results results => results
  | _ => []

/-- `results[-1].to_dict()`, where there are results. -/
def lastResult (env : Env A I C) (response : Except String (Result Json)) : Except String Fields :=
  match response with
  | .error e => .error e
  | .ok result =>
    match runBatchResults env (responseResults result) with
    | .error e => .error e
    | .ok results =>
      match results.getLast? with
      | none => .error "Algorithm produced no results"
      | some payload => toDict env payload

/-- The parameters that the AI node runs a batch with. -/
def batchParams (env : Env A I C) (msg : Payload) : Params Json where
  address := (if msg.address.getD "" = "" then "remote" else msg.address.getD "") ++ "::"
    ++ env.requestIdText msg.requestId
  samplingRate := msg.samplingRate
  inputParameters := msg.inputParameters
  subjectId := msg.subjectId
  location := msg.location

def reply (msg : Payload) : Except String Fields → Reply
  | .ok result => ⟨msg.requestId, msg.algorithmName, some result, none⟩
  | .error e => ⟨msg.requestId, msg.algorithmName, none, some e⟩

/-- `_handle_compute`. -/
def handleCompute (env : Env A I C) (hosts : Dict String (AlgorithmHost A I C Json))
    (msg : Payload) (fault : Option String) : Dict String (AlgorithmHost A I C Json) × Reply :=
  let normalized := ComputeOrchestrator.normalizeName env.lower msg.algorithmName
  match env.plugins normalized with
  | none =>
    (hosts, reply msg (.error
      ("AI compute node cannot resolve algorithm plugin '" ++ msg.algorithmName ++ "'")))
  | some p =>
    match fault with
    | some e => (hosts, reply msg (.error e))
    | none =>
      -- `get_algorithm_client` launches the host at the first request
      let host := (hosts.get? normalized).getD (AlgorithmHost.init p)
      let (host, response) := host.runBatch p (batchParams env msg) msg.samples
      (hosts.set normalized host, reply msg (lastResult env response))

/-! ## The way back -/

/-- `result.name`, for the names of results; a dictionary has no such attribute. -/
def ResultValue.attr : ResultValue → String → Option Json
  | .dict _, _ => none
  | .remoteComputeResult fields, name => fields.lookup name

def ResultValue.typeName : ResultValue → String
  | .dict _ => "dict"
  | .remoteComputeResult _ => "RemoteComputeResult"

/-- The text of the `AttributeError` for a result. -/
def ResultValue.noAttribute (result : ResultValue) (name : String) : String :=
  "'" ++ result.typeName ++ "' object has no attribute '" ++ name ++ "'"

def ResultValue.setResultCount (n : Nat) : ResultValue → ResultValue
  | .dict fields => .dict fields
  | .remoteComputeResult fields =>
    .remoteComputeResult (Json.setField "result_count" (.num n) fields)

/-- `on_algorithm_result` of the compute manager, with the exception if it raises. -/
def System.onAlgorithmResult (s : System A I C) (result : ResultValue) (requestId : Nat) :
    System A I C × Option String :=
  match result.attr "algorithm_name" with
  | none => (s, some (result.noAttribute "algorithm_name"))
  | some _ => ({ s with processed := s.processed ++ [⟨requestId, result⟩] }, none)

/-- The `try` of `on_remote_result`: the counts, and the result with its count. -/
def updateCount (env : Env A I C) (counts : List (Json × Json)) (result : ResultValue) :
    Except String (List (Json × Json) × ResultValue) :=
  match result.attr "algorithm_name" with
  | none => .error (result.noAttribute "algorithm_name")
  | some algoName =>
    match result.attr "address" with
    | none => .error (result.noAttribute "address")
    | some address =>
      if algoName.hashable && address.hashable then
        let counts := counts ++ [(algoName, address)]
        .ok (counts,
          if (result.attr "result_count").isSome then
            result.setResultCount (counts.count (algoName, address))
          else result)
      else .error ("unhashable type: '" ++
        env.typeName (if algoName.hashable then address else algoName) ++ "'")

/-- `on_remote_result` of the service. -/
def System.onRemoteResult (env : Env A I C) (s : System A I C) (result : ResultValue)
    (requestId : Nat) : System A I C × Option String :=
  match updateCount env s.remoteResultCounts result with
  | .error e =>
    System.onAlgorithmResult
      { s with errors := s.errors ++ ["Remote result count update failed: " ++ e] } result requestId
  | .ok (counts, result) =>
    System.onAlgorithmResult { s with remoteResultCounts := counts } result requestId

/-- One message in `_recv_loop` of a client. -/
def System.receive (env : Env A I C) (s : System A I C) (reply : Reply) : System A I C :=
  match reply.result with
  | none => s
  | some result =>
    match System.onRemoteResult env { s with answered := s.answered ++ [reply.requestId] }
        (.dict result) reply.requestId with
    | (s, none) => s
    | (s, some e) => { s with errors := s.errors ++ ["Remote compute recv failed: " ++ e] }

namespace System

def step (env : Env A I C) : Machine (System A I C) (Action A)
  | s, .setRegistry registry => some { s with registry := registry }
  | s, .delegateCompute algorithm samples fault =>
    some (s.delegateCompute env algorithm samples fault).1
  | s, .compute i fault =>
    s.requests[i]?.map fun sent =>
      let (hosts, reply) := handleCompute env s.hosts sent.payload fault
      { s with hosts := hosts, replies := s.replies ++ [reply] }
  | s, .receive j => s.replies[j]?.map fun reply => s.receive env reply

def init : System A I C where
  registry := none
  requests := []
  hosts := Dict.empty
  replies := []
  remoteResultCounts := []
  processed := []
  errors := []
  answered := []

/-! ## What the node answers -/

/-- The answer of the AI node to a request depends on the request alone: the batch runs on a new
instance, under an address of its own. -/
theorem handleCompute_reply (env : Env A I C) (hosts : Dict String (AlgorithmHost A I C Json))
    (msg : Payload) :
    (handleCompute env hosts msg none).2 =
      match env.plugins (ComputeOrchestrator.normalizeName env.lower msg.algorithmName) with
      | none => reply msg (.error
          ("AI compute node cannot resolve algorithm plugin '" ++ msg.algorithmName ++ "'"))
      | some p => reply msg (lastResult env
          ((AlgorithmHost.init p).runBatch p (batchParams env msg) msg.samples).2) := by
  unfold handleCompute
  dsimp only
  cases env.plugins (ComputeOrchestrator.normalizeName env.lower msg.algorithmName) with
  | none => rfl
  | some p =>
    obtain ⟨_, hbatch⟩ := AlgorithmHost.runBatch_eq p
      ((hosts.get? (ComputeOrchestrator.normalizeName env.lower msg.algorithmName)).getD
        (AlgorithmHost.init p)) (batchParams env msg) msg.samples
    dsimp only
    rw [hbatch]

/-! ## Delegated and local -/

/-- The results that a host gives the manager when an instance takes the samples one by one. -/
def localResults (p : Plugin A I C Json) : A → List Json → List Json
  | _, [] => []
  | algorithm, sample :: samples =>
    let sampled := p.onSample algorithm sample
    (if sampled.raised.isSome then [] else sampled.results)
      ++ localResults p sampled.algorithm samples

/-- What was processed is, but for its number, a result that a local run of the delegating instance
on the window gives. -/
def Faithful (env : Env A I C) (sent : Sent A) (result : ResultValue) : Prop :=
  ∃ p, env.plugins (ComputeOrchestrator.normalizeName env.lower sent.payload.algorithmName)
      = some p ∧
    ∃ fields, Json.obj fields ∈ localResults p sent.instanceState sent.payload.samples ∧
      ∀ name, name ≠ "result_count" → result.attr name = fields.lookup name

/-- The numbers of the results that were processed for an algorithm and an address. -/
def numbers (s : System A I C) (algoName address : Json) : List (Option Json) :=
  (s.processed.filter fun x =>
    x.result.attr "algorithm_name" == some algoName && x.result.attr "address" == some address).map
      fun x => x.result.attr "result_count"

/-- Delegated compute does what local compute does. -/
structure Equivalent (env : Env A I C) (s : System A I C) : Prop where
  once : ∀ i ∈ s.answered, (s.processed.filter fun x => x.requestId = i).length = 1
  faithful : ∀ x ∈ s.processed, ∃ sent, s.requests[x.requestId]? = some sent ∧
    Faithful env sent x.result
  numbered : ∀ algoName address, s.numbers algoName address
    = (List.range (s.numbers algoName address).length).map fun n => some (Json.num (n + 1))

/-- The action is the receipt of a result. -/
def receivesResult (s : System A I C) : Action A → Prop
  | .receive j => ∃ reply, s.replies[j]? = some reply ∧ reply.result.isSome
  | _ => False

/-- A dictionary is counted nowhere and reaches no listener. -/
theorem onRemoteResult_dict (env : Env A I C) (s : System A I C) (fields : Fields)
    (requestId : Nat) :
    s.onRemoteResult env (.dict fields) requestId =
      ({ s with errors := s.errors ++ ["Remote result count update failed: "
          ++ (ResultValue.dict fields).noAttribute "algorithm_name"] },
        some ((ResultValue.dict fields).noAttribute "algorithm_name")) := by
  unfold onRemoteResult updateCount onAlgorithmResult
  simp only [ResultValue.attr]

/-- A reply is noted as an answer if it has a result, and nothing is processed. -/
theorem receive_eq (env : Env A I C) (s : System A I C) (reply : Reply) :
    (s.receive env reply).processed = s.processed ∧
      (s.receive env reply).answered
        = if reply.result.isSome then s.answered ++ [reply.requestId] else s.answered := by
  unfold receive
  cases reply.result with
  | none => exact ⟨rfl, rfl⟩
  | some fields =>
    simp only [onRemoteResult_dict]
    exact ⟨trivial, rfl⟩

theorem delegateCompute_eq (env : Env A I C) (s : System A I C) (algorithm : Algorithm A)
    (samples : List Json) (fault : Option String) :
    (s.delegateCompute env algorithm samples fault).1.processed = s.processed ∧
      (s.delegateCompute env algorithm samples fault).1.answered = s.answered := by
  unfold delegateCompute
  split
  · exact ⟨rfl, rfl⟩
  · dsimp only
    split <;> exact ⟨rfl, rfl⟩

/-- No step processes a result, and a result that is received is an answer. -/
theorem step_eq {env : Env A I C} {s s' : System A I C} {a : Action A}
    (hstep : step env s a = some s') :
    s'.processed = s.processed ∧
      ((s'.answered = s.answered ∧ ¬ s.receivesResult a) ∨
        ((∃ i, s'.answered = s.answered ++ [i]) ∧ s.receivesResult a)) := by
  cases a with
  | setRegistry registry =>
    cases hstep
    exact ⟨rfl, .inl ⟨rfl, id⟩⟩
  | delegateCompute algorithm samples fault =>
    cases hstep
    obtain ⟨hprocessed, hanswered⟩ := s.delegateCompute_eq env algorithm samples fault
    exact ⟨hprocessed, .inl ⟨hanswered, id⟩⟩
  | compute i fault =>
    obtain ⟨sent, _, rfl⟩ := Option.map_eq_some_iff.mp hstep
    exact ⟨rfl, .inl ⟨rfl, id⟩⟩
  | receive j =>
    obtain ⟨reply, hreply, rfl⟩ := Option.map_eq_some_iff.mp hstep
    obtain ⟨hprocessed, hanswered⟩ := s.receive_eq env reply
    refine ⟨hprocessed, ?_⟩
    by_cases hresult : reply.result.isSome
    · rw [if_pos hresult] at hanswered
      exact .inr ⟨⟨_, hanswered⟩, reply, hreply, hresult⟩
    · rw [if_neg hresult] at hanswered
      refine .inl ⟨hanswered, ?_⟩
      rintro ⟨other, hother, hsome⟩
      rw [hreply] at hother
      cases hother
      exact hresult hsome

/-- Where nothing has been processed, an answered request is not processed once. -/
theorem equivalent_iff_answered {env : Env A I C} {s : System A I C} (h : s.processed = []) :
    s.Equivalent env ↔ s.answered = [] := by
  constructor
  · intro hequivalent
    apply List.eq_nil_iff_forall_not_mem.mpr
    intro i hi
    have honce := hequivalent.once i hi
    rw [h] at honce
    cases honce
  · intro hanswered
    refine ⟨?_, ?_, ?_⟩
    · rw [hanswered]
      exact nofun
    · rw [h]
      exact nofun
    · intro algoName address
      simp [numbers, h]

/-- **Delegated compute.** After every prefix of a run each answered request has been processed
once, with what a local run gives, exactly when the run never receives a result. -/
theorem equivalent_iff (env : Env A I C) (actions : List (Action A)) :
    (∀ k s, (step env).exec init (actions.take k) = some s → s.Equivalent env) ↔
      Machine.Along (step env) (fun s a => ¬ s.receivesResult a) init actions := by
  have hinit : (init : System A I C).Equivalent env := (equivalent_iff_answered rfl).mpr rfl
  apply Machine.always_iff_along_of_step (J := fun s => s.processed = []) rfl
  · exact fun s a s' hidle hstep => (step_eq hstep).1.trans hidle
  · intro s a hstep
    cases a with
    | receive j =>
      rintro ⟨reply, hreply, _⟩
      rw [step, hreply] at hstep
      cases hstep
    | _ => exact id
  · intro s a s' hidle hequivalent hstep
    have hnone : s.answered = [] := (equivalent_iff_answered hidle).mp hequivalent
    obtain ⟨hprocessed, hanswered⟩ := step_eq hstep
    rw [equivalent_iff_answered (hprocessed.trans hidle)]
    rcases hanswered with ⟨hsame, hsilent⟩ | ⟨⟨i, hmore⟩, hreceives⟩
    · exact iff_of_true (hsame.trans hnone) hsilent
    · rw [hmore]
      exact iff_of_false (List.append_ne_nil_of_right_ne_nil _ (List.cons_ne_nil _ _))
        (not_not_intro hreceives)
  · exact hinit

/-- A plugin that gives back the value of each sample. -/
def echo : Plugin Unit Unit Unit Json where
  description := .null
  construct _ := .ok ()
  attach _ := ([], .ok ())
  onSample _ sample :=
    ⟨(), [.obj [("algorithm_name", .str "echo"), ("address", .str "a"), ("value", sample)]], 0,
      none⟩
  windowMetadata _ := .null
  newIntermediate := none
  shouldRun _ _ := ((), .ok false)
  run _ _ := ((), .ok none)
  newConsolidation := none
  hasConsolidate := false
  consolidate _ _ _ := ((), .ok none)

def echoEnv : Env Unit Unit Unit where
  lower := id
  requestIdText _ := "r"
  plugins _ := some echo
  typeName _ := "dict"
  dictOf _ := .ok []

/-- One window of one sample is delegated, computed and answered. -/
def delegated : List (Action Unit) :=
  [.setRegistry (some [⟨"10.0.0.10", some 7001, ["echo"]⟩]),
    .delegateCompute ⟨"echo", some "a", .null, .null, .null, .null, ()⟩ [.num 1] none,
    .compute 0 none, .receive 0]

theorem result_never_processed :
    ¬ ∀ k s, (step echoEnv).exec init (delegated.take k) = some s → s.Equivalent echoEnv := by
  intro hall
  have hend : ((step echoEnv).exec init delegated).map (fun s => (s.answered, s.processed.length))
      = some ([0], 0) := by rfl
  obtain ⟨s, hs, hview⟩ := Option.map_eq_some_iff.mp hend
  obtain ⟨hanswered, hprocessed⟩ := Prod.mk.inj hview
  have honce := (hall 4 s hs).once 0 (by simp [hanswered])
  rw [List.length_eq_zero_iff.mp hprocessed] at honce
  cases honce

end System

end NexusN3.Compute.Remote
