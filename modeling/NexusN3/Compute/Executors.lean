import Mathlib.Data.Finset.Basic
import NexusN3.Lib.Dict
import NexusN3.Lib.Text
import NexusN3.Lib.Unwinding

/-!
# Compute executors and the two registries that name them

The orchestrator remembers in two sets for which algorithms it has registered executors; the
executors themselves live in the dictionaries of the two stages. `register_algorithms` writes
set and dictionary together, `reset` clears both, `reset_session` clears the dictionaries only.

* **`Agrees`** — set and dictionary name the same algorithms, in each stage.
* **`HostBacked`** — every executor talks to the host client of its algorithm. All calls keep it.
* **`keepsRegistries`** — the condition on one call. A session is reset with nothing registered,
  or not at all because a plugin host refused it.
* **`agrees_and_consults_iff`** — the registries agree and the executors are consulted after every
  call exactly when every call meets the condition.
-/

namespace NexusN3.Compute

open Lib

/-! ## The stages -/

structure AlgorithmResult (V : Type) where
  algorithmName : String
  address : String
  value : V

/-- The results of one algorithm by address, oldest first. -/
abbrev ResultBuffers (V : Type) := Dict String (List (AlgorithmResult V))

/-- A request to the host process of an algorithm plugin. -/
inductive HostRequest (Client V : Type) where
  | shouldRunIntermediate (client : Client) (buffers : ResultBuffers V)
  | runIntermediate (client : Client) (buffers : ResultBuffers V)
  | runConsolidation (client : Client) (subjectId : String) (records : List V)

def HostRequest.client {Client V : Type} : HostRequest Client V → Client
  | shouldRunIntermediate c _ => c
  | runIntermediate c _ => c
  | runConsolidation c _ _ => c

/-- What the host answers; `none` is a raised exception. -/
structure HostAnswers (V : Type) where
  shouldRun : Option Bool
  run : Option (Option V)
  consolidate : Option (Option V)

structure IntermediateStage (Client V : Type) where
  maxResultsPerStream : Nat := 1000
  intermediateExecutors : Dict String Client := Dict.empty
  results : Dict String (ResultBuffers V) := Dict.empty

structure ConsolidationStage (Client : Type) where
  consolidationExecutors : Dict String Client := Dict.empty

section Stages

variable {Client V : Type}

/-- `deque(maxlen=n).append`. -/
def pushBounded {α : Type} (n : Nat) (xs : List α) (x : α) : List α :=
  (xs ++ [x]).drop (xs.length + 1 - n)

namespace IntermediateStage

def registerIntermediateExecutor (st : IntermediateStage Client V) (algorithmName : String)
    (executor : Client) : IntermediateStage Client V :=
  { st with intermediateExecutors := st.intermediateExecutors.set algorithmName executor }

def reset (st : IntermediateStage Client V) : IntermediateStage Client V :=
  { st with intermediateExecutors := Dict.empty, results := Dict.empty }

/-- The buffers of the result's algorithm with the result in. -/
def buffered (st : IntermediateStage Client V) (result : AlgorithmResult V) : ResultBuffers V :=
  let buffers := (st.results.get? result.algorithmName).getD Dict.empty
  buffers.set result.address
    (pushBounded st.maxResultsPerStream ((buffers.get? result.address).getD []) result)

/-- Buffer a result and run the intermediate executor if it is ready. Gives the requests made of
the plugin host, and what comes back (`none`: raised). -/
def handleResult (st : IntermediateStage Client V) (ans : HostAnswers V)
    (result : AlgorithmResult V) :
    IntermediateStage Client V × List (HostRequest Client V) × Option (Option V) :=
  let buffers := st.buffered result
  let st := { st with results := st.results.set result.algorithmName buffers }
  match st.intermediateExecutors.get? result.algorithmName with
  | none => (st, [], some none)
  | some executor =>
    match ans.shouldRun with
    -- `should_run` stands outside the `try`
    | none => (st, [.shouldRunIntermediate executor buffers], none)
    | some false => (st, [.shouldRunIntermediate executor buffers], some none)
    | some true =>
      (st, [.shouldRunIntermediate executor buffers, .runIntermediate executor buffers],
        some (ans.run.getD none))

end IntermediateStage

namespace ConsolidationStage

def registerConsolidationExecutor (st : ConsolidationStage Client) (algorithmName : String)
    (executor : Client) : ConsolidationStage Client :=
  { st with consolidationExecutors := st.consolidationExecutors.set algorithmName executor }

def reset (_ : ConsolidationStage Client) : ConsolidationStage Client :=
  { consolidationExecutors := Dict.empty }

def runForSubject (st : ConsolidationStage Client) (ans : HostAnswers V)
    (subjectId algorithmName : String) (intermediateRecords : List V) :
    List (HostRequest Client V) × Option V :=
  match st.consolidationExecutors.get? algorithmName with
  | none => ([], none)
  | some executor =>
    ([.runConsolidation executor subjectId intermediateRecords], ans.consolidate.getD none)

end ConsolidationStage

end Stages

/-! ## The manager -/

/-- The compute manager. `algorithms` has the host-backed algorithm of each sensor address. -/
structure ComputeManager (Client V : Type) where
  algorithms : Dict String Client := Dict.empty
  intermediateStage : IntermediateStage Client V := {}
  consolidationStage : ConsolidationStage Client := {}

namespace ComputeManager

variable {Client V : Type}

def registerAlgorithm (m : ComputeManager Client V) (address : String) (algorithm : Client) :
    ComputeManager Client V :=
  { m with algorithms := m.algorithms.set address algorithm }

def hasAlgorithm (m : ComputeManager Client V) (address : String) : Bool :=
  decide (address ∈ m.algorithms.keys)

def registerIntermediateExecutor (m : ComputeManager Client V) (algorithmName : String)
    (executor : Client) : ComputeManager Client V :=
  { m with
    intermediateStage := m.intermediateStage.registerIntermediateExecutor algorithmName executor }

def registerConsolidationExecutor (m : ComputeManager Client V) (algorithmName : String)
    (executor : Client) : ComputeManager Client V :=
  { m with
    consolidationStage :=
      m.consolidationStage.registerConsolidationExecutor algorithmName executor }

/-- Clear algorithm and executor state and the buffered results. -/
def reset (m : ComputeManager Client V) : ComputeManager Client V where
  algorithms := Dict.empty
  intermediateStage := m.intermediateStage.reset
  consolidationStage := m.consolidationStage.reset

/-- "Clear per-session compute state while keeping algorithms registered." -/
def resetSession (m : ComputeManager Client V) : ComputeManager Client V :=
  { m with
    intermediateStage := m.intermediateStage.reset
    consolidationStage := m.consolidationStage.reset }

def runConsolidationForSubject (m : ComputeManager Client V) (ans : HostAnswers V)
    (subjectId algorithmName : String) (intermediateRecords : List V) :
    List (HostRequest Client V) × Option V :=
  m.consolidationStage.runForSubject ans subjectId algorithmName intermediateRecords

end ComputeManager

/-! ## The orchestrator -/

/-- One entry of `sub.sensors`: the sensor's address, and the `name` of the entry's
`compute_algorithm`. -/
structure Entry where
  address : Option String
  algoName : Option String

structure Subject where
  subjectId : String
  sensors : List Entry

/-- How the plugin hosts and the error callback behave for one entry. -/
structure EntryAnswers (Client : Type) where
  /-- the plugin looked up and its host started: `none` raised, `some none` is not installed -/
  launch : Option (Option Client)
  /-- the error callback returns -/
  reported : Bool
  /-- `start_algorithm` returns -/
  started : Bool

structure ComputeOrchestrator (Client V : Type) where
  computeManager : ComputeManager Client V := {}
  /-- `_plugin_runtime._algorithm_clients` -/
  algorithmClients : Dict String Client := Dict.empty
  registeredExecutors : Finset String := ∅
  registeredConsolidationExecutors : Finset String := ∅

namespace ComputeOrchestrator

variable {Client V : Type}

/-- `_normalize_name`. -/
def normalizeName (lower : String → String) (name : String) : String :=
  lower (strip name)

/-- The client of an algorithm: the one there is, else the one started now. `none`: raised. -/
def getAlgorithmClient (lower : String → String) (o : ComputeOrchestrator Client V)
    (algorithmName : String) (launch : Option (Option Client)) :
    Option (ComputeOrchestrator Client V × Option Client) :=
  let normalized := normalizeName lower algorithmName
  match o.algorithmClients.get? normalized with
  | some existing => some (o, some existing)
  | none =>
    match launch with
    | none => none
    | some none => some (o, none)
    | some (some client) =>
      some ({ o with algorithmClients := o.algorithmClients.set normalized client }, some client)

/-- The first of the two registrations of `register_algorithms`. -/
def registerIntermediate (o : ComputeOrchestrator Client V) (algoName : String)
    (client : Client) : ComputeOrchestrator Client V :=
  if algoName ∈ o.registeredExecutors then o
  else { o with
    computeManager := o.computeManager.registerIntermediateExecutor algoName client
    registeredExecutors := insert algoName o.registeredExecutors }

/-- The second one. -/
def registerConsolidation (o : ComputeOrchestrator Client V) (algoName : String)
    (client : Client) : ComputeOrchestrator Client V :=
  if algoName ∈ o.registeredConsolidationExecutors then o
  else { o with
    computeManager := o.computeManager.registerConsolidationExecutor algoName client
    registeredConsolidationExecutors := insert algoName o.registeredConsolidationExecutors }

/-- One round of the loop of `register_algorithms`; `false` when an exception leaves it. -/
def registerEntry (lower : String → String) (o : ComputeOrchestrator Client V) (entry : Entry)
    (ans : EntryAnswers Client) : ComputeOrchestrator Client V × Bool :=
  match entry.address, entry.algoName with
  | none, _ => (o, true)
  | some _, none => (o, true)
  | some address, some algoName =>
    if algoName = "" then (o, true)
    else
      match o.getAlgorithmClient lower algoName ans.launch with
      | none => (o, false)
      | some (o, none) => (o, ans.reported)
      | some (o, some client) =>
        let o := (o.registerIntermediate algoName client).registerConsolidation algoName client
        if o.computeManager.hasAlgorithm address then (o, true)
        else if ans.started then
          ({ o with computeManager := o.computeManager.registerAlgorithm address client }, true)
        else (o, false)

def registerEntries (lower : String → String) (o : ComputeOrchestrator Client V) :
    List (Entry × EntryAnswers Client) → ComputeOrchestrator Client V
  | [] => o
  | (entry, ans) :: rest =>
    match o.registerEntry lower entry ans with
    | (o', true) => registerEntries lower o' rest
    | (o', false) => o'

/-- `register_algorithms`; `env i` answers for the `i`-th sensor entry of the subjects. -/
def registerAlgorithms (lower : String → String) (o : ComputeOrchestrator Client V)
    (subjects : List Subject) (env : Nat → EntryAnswers Client) : ComputeOrchestrator Client V :=
  o.registerEntries lower
    ((subjects.flatMap Subject.sensors).zipIdx.map fun e => (e.1, env e.2))

/-- `reset`; `closed` says that `_plugin_runtime.close()` returns. -/
def reset (o : ComputeOrchestrator Client V) (closed : Bool) : ComputeOrchestrator Client V :=
  let o := { o with computeManager := o.computeManager.reset }
  if closed then
    { o with
      algorithmClients := Dict.empty
      registeredExecutors := ∅
      registeredConsolidationExecutors := ∅ }
  else o

/-- `reset_session`; `hostsReset` says that `_plugin_runtime.reset_session()` returns. -/
def resetSession (o : ComputeOrchestrator Client V) (hostsReset : Bool) :
    ComputeOrchestrator Client V :=
  if hostsReset then { o with computeManager := o.computeManager.resetSession } else o

end ComputeOrchestrator

/-- The calls of the orchestrator that change its registries. -/
inductive Call (Client : Type) where
  | registerAlgorithms (subjects : List Subject) (env : Nat → EntryAnswers Client)
  | reset (closed : Bool)
  | resetSession (hostsReset : Bool)

namespace ComputeOrchestrator

variable {Client V : Type} {lower : String → String}

def call (lower : String → String) :
    Machine (ComputeOrchestrator Client V) (Call Client)
  | o, .registerAlgorithms subjects env => some (o.registerAlgorithms lower subjects env)
  | o, .reset closed => some (o.reset closed)
  | o, .resetSession hostsReset => some (o.resetSession hostsReset)

/-! ## The two registries -/

/-- A name is in the orchestrator's set exactly when the stage has an executor for it. -/
structure Agrees (o : ComputeOrchestrator Client V) : Prop where
  intermediate : ∀ name, name ∈ o.registeredExecutors ↔
    name ∈ o.computeManager.intermediateStage.intermediateExecutors.keys
  consolidation : ∀ name, name ∈ o.registeredConsolidationExecutors ↔
    name ∈ o.computeManager.consolidationStage.consolidationExecutors.keys

/-- Every executor is the proxy of its algorithm's own host client. -/
structure HostBacked (lower : String → String) (o : ComputeOrchestrator Client V) : Prop where
  intermediate : ∀ name client,
    o.computeManager.intermediateStage.intermediateExecutors.get? name = some client →
    o.algorithmClients.get? (normalizeName lower name) = some client
  consolidation : ∀ name client,
    o.computeManager.consolidationStage.consolidationExecutors.get? name = some client →
    o.algorithmClients.get? (normalizeName lower name) = some client

/-- A result of a registered algorithm, and its consolidation, go to the algorithm's host. -/
structure Consults (lower : String → String) (o : ComputeOrchestrator Client V) : Prop where
  handleResult : ∀ name ∈ o.registeredExecutors, ∃ client,
    o.algorithmClients.get? (normalizeName lower name) = some client ∧
    ∀ ans (result : AlgorithmResult V), result.algorithmName = name →
      (o.computeManager.intermediateStage.handleResult ans result).2.1.head?.map
        HostRequest.client = some client
  runConsolidationForSubject : ∀ name ∈ o.registeredConsolidationExecutors, ∃ client,
    o.algorithmClients.get? (normalizeName lower name) = some client ∧
    ∀ ans subjectId (records : List V),
      (o.computeManager.runConsolidationForSubject ans subjectId name records).1
        = [.runConsolidation client subjectId records]

/-- Nothing is registered. -/
def bare (o : ComputeOrchestrator Client V) : Prop :=
  o.registeredExecutors = ∅ ∧ o.registeredConsolidationExecutors = ∅

instance (o : ComputeOrchestrator Client V) : Decidable o.bare :=
  inferInstanceAs (Decidable (_ ∧ _))

/-- The condition on one call: what clears the stages either clears the sets with them, or
finds them empty. -/
def keepsRegistries (o : ComputeOrchestrator Client V) : Call Client → Prop
  | .registerAlgorithms _ _ => True
  | .reset closed => closed = true ∨ o.bare
  | .resetSession hostsReset => hostsReset = false ∨ o.bare

/-! ## Registering keeps both -/

section Register

variable {o o' : ComputeOrchestrator Client V} {name : String} {client : Client}

theorem Agrees.registerIntermediate (h : o.Agrees) :
    (o.registerIntermediate name client).Agrees := by
  unfold ComputeOrchestrator.registerIntermediate
  split
  · exact h
  · refine ⟨fun n => ?_, h.consolidation⟩
    show n ∈ insert name o.registeredExecutors ↔ n ∈ (Dict.set _ name client).keys
    rw [Finset.mem_insert, Dict.mem_keys_set, h.intermediate]

theorem Agrees.registerConsolidation (h : o.Agrees) :
    (o.registerConsolidation name client).Agrees := by
  unfold ComputeOrchestrator.registerConsolidation
  split
  · exact h
  · refine ⟨h.intermediate, fun n => ?_⟩
    show n ∈ insert name o.registeredConsolidationExecutors ↔ n ∈ (Dict.set _ name client).keys
    rw [Finset.mem_insert, Dict.mem_keys_set, h.consolidation]

theorem registerIntermediate_clients :
    (o.registerIntermediate name client).algorithmClients = o.algorithmClients := by
  unfold registerIntermediate
  split <;> rfl

/-- One more name for a client that is backed. -/
theorem backed_set {executors : Dict String Client}
    (h : ∀ n c, executors.get? n = some c →
      o.algorithmClients.get? (normalizeName lower n) = some c)
    (hclient : o.algorithmClients.get? (normalizeName lower name) = some client) :
    ∀ n c, (executors.set name client).get? n = some c →
      o.algorithmClients.get? (normalizeName lower n) = some c := by
  intro n c hn
  by_cases hname : name = n
  · subst hname
    rw [Dict.get?_set_self] at hn
    exact hclient.trans hn
  · rw [Dict.get?_set_ne _ _ hname] at hn
    exact h n c hn

theorem HostBacked.registerIntermediate (h : o.HostBacked lower)
    (hclient : o.algorithmClients.get? (normalizeName lower name) = some client) :
    (o.registerIntermediate name client).HostBacked lower := by
  unfold ComputeOrchestrator.registerIntermediate
  split
  · exact h
  · exact ⟨backed_set h.intermediate hclient, h.consolidation⟩

theorem HostBacked.registerConsolidation (h : o.HostBacked lower)
    (hclient : o.algorithmClients.get? (normalizeName lower name) = some client) :
    (o.registerConsolidation name client).HostBacked lower := by
  unfold ComputeOrchestrator.registerConsolidation
  split
  · exact h
  · exact ⟨h.intermediate, backed_set h.consolidation hclient⟩

/-- Looking a client up changes the clients only, and forgets none. -/
theorem getAlgorithmClient_spec {launch : Option (Option Client)} {c : Option Client}
    (h : o.getAlgorithmClient lower name launch = some (o', c)) :
    ∃ clients, o' = { o with algorithmClients := clients } ∧
      (∀ k x, o.algorithmClients.get? k = some x → clients.get? k = some x) ∧
      ∀ x, c = some x → clients.get? (normalizeName lower name) = some x := by
  unfold getAlgorithmClient at h
  simp only at h
  split at h
  · rename_i existing hexisting
    cases h
    refine ⟨o.algorithmClients, rfl, fun _ _ hk => hk, ?_⟩
    rintro x ⟨⟩
    exact hexisting
  · rename_i hnone
    split at h
    · cases h
    · cases h
      exact ⟨o.algorithmClients, rfl, fun _ _ hk => hk, fun x hx => by cases hx⟩
    · rename_i started
      cases h
      refine ⟨_, rfl, ?_, ?_⟩
      · intro k x hk
        -- the key written was free, so `k` is another
        have hne : normalizeName lower name ≠ k := by
          rintro rfl
          rw [hnone] at hk
          cases hk
        rw [Dict.get?_set_ne _ _ hne, hk]
      · rintro x ⟨⟩
        exact Dict.get?_set_self _ _ _

theorem HostBacked.withClients (h : o.HostBacked lower) {clients : Dict String Client}
    (hkept : ∀ k x, o.algorithmClients.get? k = some x → clients.get? k = some x) :
    HostBacked lower { o with algorithmClients := clients } :=
  ⟨fun n c hn => hkept _ _ (h.intermediate n c hn),
    fun n c hn => hkept _ _ (h.consolidation n c hn)⟩

/-- One round of the loop keeps a property that the two registrations, a new client and a new
algorithm keep. -/
theorem registerEntry_keeps {P : ComputeOrchestrator Client V → Prop} (entry : Entry)
    (ans : EntryAnswers Client) (ho : P o)
    (hclients : ∀ o : ComputeOrchestrator Client V, P o → ∀ clients : Dict String Client,
      (∀ k x, o.algorithmClients.get? k = some x → clients.get? k = some x) →
      P { o with algorithmClients := clients })
    (hregister : ∀ (o : ComputeOrchestrator Client V) name client, P o →
      o.algorithmClients.get? (normalizeName lower name) = some client →
      P ((o.registerIntermediate name client).registerConsolidation name client))
    (halgorithm : ∀ (o : ComputeOrchestrator Client V) address client, P o →
      P { o with computeManager := o.computeManager.registerAlgorithm address client }) :
    P (o.registerEntry lower entry ans).1 := by
  unfold registerEntry
  split
  · exact ho
  · exact ho
  · split
    · exact ho
    · split
      · exact ho
      · rename_i hget
        obtain ⟨clients, rfl, hkept, -⟩ := getAlgorithmClient_spec hget
        exact hclients o ho clients hkept
      · rename_i hget
        obtain ⟨clients, rfl, hkept, hclient⟩ := getAlgorithmClient_spec hget
        have hregistered := hregister _ _ _ (hclients o ho clients hkept) (hclient _ rfl)
        simp only
        split
        · exact hregistered
        · split
          · exact halgorithm _ _ _ hregistered
          · exact hregistered

theorem registerEntries_keeps {P : ComputeOrchestrator Client V → Prop}
    (hentry : ∀ o : ComputeOrchestrator Client V, P o → ∀ entry ans,
      P (o.registerEntry lower entry ans).1)
    (entries : List (Entry × EntryAnswers Client)) (ho : P o) :
    P (o.registerEntries lower entries) := by
  induction entries generalizing o with
  | nil => exact ho
  | cons e rest ih =>
    obtain ⟨entry, ans⟩ := e
    have hone := hentry o ho entry ans
    unfold registerEntries
    split
    · rename_i o' hreg
      rw [hreg] at hone
      exact ih hone
    · rename_i o' hreg
      rw [hreg] at hone
      exact hone

theorem Agrees.registerAlgorithms (h : o.Agrees) (subjects : List Subject)
    (env : Nat → EntryAnswers Client) : (o.registerAlgorithms lower subjects env).Agrees := by
  refine registerEntries_keeps (fun o ho entry ans => ?_) _ h
  refine registerEntry_keeps entry ans ho ?_ ?_ ?_
  · exact fun o ho clients _ => ⟨ho.intermediate, ho.consolidation⟩
  · exact fun o name client ho _ => ho.registerIntermediate.registerConsolidation
  · exact fun o address client ho => ⟨ho.intermediate, ho.consolidation⟩

theorem HostBacked.registerAlgorithms (h : o.HostBacked lower) (subjects : List Subject)
    (env : Nat → EntryAnswers Client) :
    (o.registerAlgorithms lower subjects env).HostBacked lower := by
  refine registerEntries_keeps (fun o ho entry ans => ?_) _ h
  refine registerEntry_keeps entry ans ho ?_ ?_ ?_
  · exact fun o ho clients hkept => ho.withClients hkept
  · intro o name client ho hclient
    apply (ho.registerIntermediate hclient).registerConsolidation
    rw [registerIntermediate_clients]
    exact hclient
  · exact fun o address client ho => ⟨ho.intermediate, ho.consolidation⟩

end Register

/-! ## Clearing the stages -/

section Clear

variable {o : ComputeOrchestrator Client V}

/-- With no executor in the stages, the registries agree exactly when nothing is registered. -/
theorem agrees_iff_bare
    (hintermediate : o.computeManager.intermediateStage.intermediateExecutors = Dict.empty)
    (hconsolidation : o.computeManager.consolidationStage.consolidationExecutors = Dict.empty) :
    o.Agrees ↔ o.bare := by
  constructor
  · intro h
    constructor
    · apply Finset.eq_empty_of_forall_notMem
      intro name hname
      rw [h.intermediate, hintermediate] at hname
      simp at hname
    · apply Finset.eq_empty_of_forall_notMem
      intro name hname
      rw [h.consolidation, hconsolidation] at hname
      simp at hname
  · rintro ⟨hset, hset'⟩
    constructor
    · intro name
      rw [hset, hintermediate]
      simp
    · intro name
      rw [hset', hconsolidation]
      simp

theorem hostBacked_of_cleared
    (hintermediate : o.computeManager.intermediateStage.intermediateExecutors = Dict.empty)
    (hconsolidation : o.computeManager.consolidationStage.consolidationExecutors = Dict.empty) :
    o.HostBacked lower := by
  constructor
  · intro name client hname
    rw [hintermediate] at hname
    cases hname
  · intro name client hname
    rw [hconsolidation] at hname
    cases hname

theorem agrees_reset_iff (closed : Bool) : (o.reset closed).Agrees ↔ closed = true ∨ o.bare := by
  cases closed with
  | true =>
    have hempty : (o.reset true).Agrees := (agrees_iff_bare rfl rfl).mpr ⟨rfl, rfl⟩
    simp [hempty]
  | false =>
    have hcleared : (o.reset false).Agrees ↔ o.bare := agrees_iff_bare rfl rfl
    simp [hcleared]

theorem agrees_resetSession_iff (h : o.Agrees) (hostsReset : Bool) :
    (o.resetSession hostsReset).Agrees ↔ hostsReset = false ∨ o.bare := by
  cases hostsReset with
  | true =>
    have hcleared : (o.resetSession true).Agrees ↔ o.bare := agrees_iff_bare rfl rfl
    simp [hcleared]
  | false => exact iff_of_true h (Or.inl rfl)

end Clear

/-! ## One call -/

theorem hostBacked_call {o o' : ComputeOrchestrator Client V} {c : Call Client}
    (h : o.HostBacked lower) (hcall : call lower o c = some o') : o'.HostBacked lower := by
  cases c with
  | registerAlgorithms subjects env =>
    cases hcall
    exact h.registerAlgorithms subjects env
  | reset closed =>
    cases hcall
    cases closed <;> exact hostBacked_of_cleared rfl rfl
  | resetSession hostsReset =>
    cases hcall
    cases hostsReset with
    | true => exact hostBacked_of_cleared rfl rfl
    | false => exact h

/-- In agreeing registries, one call leads to agreeing registries exactly when it keeps them. -/
theorem agrees_call_iff {o o' : ComputeOrchestrator Client V} {c : Call Client} (h : o.Agrees)
    (hcall : call lower o c = some o') : o'.Agrees ↔ o.keepsRegistries c := by
  cases c with
  | registerAlgorithms subjects env =>
    cases hcall
    exact iff_of_true (h.registerAlgorithms subjects env) trivial
  | reset closed =>
    cases hcall
    exact agrees_reset_iff closed
  | resetSession hostsReset =>
    cases hcall
    exact agrees_resetSession_iff h hostsReset

/-! ## What the executors are for -/

/-- The executor of the result's algorithm is asked first whether to run. -/
theorem handleResult_asks {st : IntermediateStage Client V} {name : String} {client : Client}
    (hexecutor : st.intermediateExecutors.get? name = some client) (ans : HostAnswers V)
    {result : AlgorithmResult V} (hname : result.algorithmName = name) :
    (st.handleResult ans result).2.1.head?.map HostRequest.client = some client := by
  subst hname
  unfold IntermediateStage.handleResult
  simp only [hexecutor]
  split <;> rfl

theorem runForSubject_asks {st : ConsolidationStage Client} {name : String} {client : Client}
    (hexecutor : st.consolidationExecutors.get? name = some client) (ans : HostAnswers V)
    (subjectId : String) (records : List V) :
    (st.runForSubject ans subjectId name records).1
      = [.runConsolidation client subjectId records] := by
  unfold ConsolidationStage.runForSubject
  rw [hexecutor]

theorem Agrees.consults {o : ComputeOrchestrator Client V} (h : o.Agrees)
    (hhost : o.HostBacked lower) : o.Consults lower := by
  constructor
  · intro name hname
    obtain ⟨client, hclient⟩ :=
      Option.isSome_iff_exists.mp (Dict.get?_isSome_iff.mpr ((h.intermediate name).mp hname))
    exact ⟨client, hhost.intermediate name client hclient,
      fun ans result hresult => handleResult_asks hclient ans hresult⟩
  · intro name hname
    obtain ⟨client, hclient⟩ :=
      Option.isSome_iff_exists.mp (Dict.get?_isSome_iff.mpr ((h.consolidation name).mp hname))
    exact ⟨client, hhost.consolidation name client hclient,
      fun ans subjectId records => runForSubject_asks hclient ans subjectId records⟩

/-! ## Every sequence of calls -/

/-- After every call the registries agree and the executors are consulted, exactly when every
call keeps the registries. -/
theorem agrees_and_consults_iff (lower : String → String) (calls : List (Call Client)) :
    (∀ k (o : ComputeOrchestrator Client V),
        Machine.exec (call lower) {} (calls.take k) = some o → o.Agrees ∧ o.Consults lower)
      ↔ Machine.Along (call lower) keepsRegistries ({} : ComputeOrchestrator Client V) calls := by
  apply Machine.always_iff_along (J := HostBacked lower)
  · exact hostBacked_of_cleared rfl rfl
  · exact fun o c o' ho hcall => hostBacked_call ho hcall
  · intro o c hhost h
    obtain ⟨o', hcall⟩ : ∃ o', call lower o c = some o' := by cases c <;> exact ⟨_, rfl⟩
    rw [← agrees_call_iff h.1 hcall]
    constructor
    · exact fun hall => (hall o' hcall).1
    · rintro hagrees r hr
      obtain rfl : o' = r := Option.some.inj (hcall.symm.trans hr)
      exact ⟨hagrees, hagrees.consults (hostBacked_call hhost hcall)⟩
  · have hagrees : ({} : ComputeOrchestrator Client V).Agrees :=
      (agrees_iff_bare rfl rfl).mpr ⟨rfl, rfl⟩
    exact ⟨hagrees, hagrees.consults (hostBacked_of_cleared rfl rfl)⟩

/-! ## What a session reset loses stays lost -/

/-- Both sets name the algorithm, and neither stage has an executor for it. -/
structure Lost (name : String) (o : ComputeOrchestrator Client V) : Prop where
  registered : name ∈ o.registeredExecutors
  gone : name ∉ o.computeManager.intermediateStage.intermediateExecutors.keys
  registered' : name ∈ o.registeredConsolidationExecutors
  gone' : name ∉ o.computeManager.consolidationStage.consolidationExecutors.keys

theorem lost_of_resetSession {o : ComputeOrchestrator Client V} {name : String}
    (h : name ∈ o.registeredExecutors) (h' : name ∈ o.registeredConsolidationExecutors) :
    (o.resetSession true).Lost name :=
  ⟨h, List.not_mem_nil, h', List.not_mem_nil⟩

/-- Registering an algorithm again passes by the executor that is gone. -/
theorem Lost.registers {o : ComputeOrchestrator Client V} {name : String} (h : o.Lost name)
    (algoName : String) (client : Client) :
    ((o.registerIntermediate algoName client).registerConsolidation algoName client).Lost name := by
  have hintermediate : (o.registerIntermediate algoName client).Lost name := by
    unfold registerIntermediate
    split
    · exact h
    · rename_i hnew
      have hne : name ≠ algoName := fun heq => hnew (heq ▸ h.registered)
      refine ⟨Finset.mem_insert_of_mem h.registered, ?_, h.registered', h.gone'⟩
      intro hmem
      rcases Dict.mem_keys_set.mp hmem with heq | hmem
      · exact hne heq
      · exact h.gone hmem
  unfold registerConsolidation
  split
  · exact hintermediate
  · rename_i hnew
    have hne : name ≠ algoName := fun heq => hnew (heq ▸ hintermediate.registered')
    refine ⟨hintermediate.registered, hintermediate.gone,
      Finset.mem_insert_of_mem hintermediate.registered', ?_⟩
    intro hmem
    rcases Dict.mem_keys_set.mp hmem with heq | hmem
    · exact hne heq
    · exact hintermediate.gone' hmem

theorem Lost.call {o o' : ComputeOrchestrator Client V} {name : String} {c : Call Client}
    (h : o.Lost name) (hreset : c ≠ .reset true)
    (hcall : ComputeOrchestrator.call lower o c = some o') : o'.Lost name := by
  cases c with
  | registerAlgorithms subjects env =>
    cases hcall
    refine registerEntries_keeps (fun o ho entry ans => ?_) _ h
    refine registerEntry_keeps entry ans ho ?_ ?_ ?_
    · exact fun o ho clients _ => ⟨ho.registered, ho.gone, ho.registered', ho.gone'⟩
    · exact fun o algoName client ho _ => ho.registers algoName client
    · exact fun o address client ho => ⟨ho.registered, ho.gone, ho.registered', ho.gone'⟩
  | reset closed =>
    cases closed with
    | true => exact absurd rfl hreset
    | false =>
      cases hcall
      exact ⟨h.registered, List.not_mem_nil, h.registered', List.not_mem_nil⟩
  | resetSession hostsReset =>
    cases hcall
    cases hostsReset with
    | true => exact lost_of_resetSession h.registered h.registered'
    | false => exact h

/-- **Lost until a full reset.** No sequence of calls brings the executors of an algorithm back
before the orchestrator is reset. -/
theorem Lost.until_reset {o o' : ComputeOrchestrator Client V} {name : String}
    {calls : List (Call Client)} (h : o.Lost name) (hreset : ∀ c ∈ calls, c ≠ .reset true)
    (hexec : Machine.exec (ComputeOrchestrator.call lower) o calls = some o') : o'.Lost name :=
  Machine.exec_invariant (I := fun r => r.Lost name) h
    (fun c hc _ _ hr hbefore => hbefore.call (hreset c hc) hr) hexec

/-! ## Discover, then activate -/

/-- One subject with one sensor that runs `heart_rate` is discovered; the official start resets
the session. -/
def discoverThenActivate : List (Call Nat) :=
  [.registerAlgorithms [⟨"S1", [⟨some "AA:01", some "heart_rate"⟩]⟩]
      fun _ => ⟨some (some 7), true, true⟩,
    .resetSession true]

theorem activation_loses_executors :
    ¬ ∀ k (o : ComputeOrchestrator Nat Unit),
      Machine.exec (call id) {} (discoverThenActivate.take k) = some o →
        o.Agrees ∧ o.Consults id := by
  intro hall
  obtain ⟨o, ho⟩ : ∃ o : ComputeOrchestrator Nat Unit,
      Machine.exec (call id) {} discoverThenActivate = some o := ⟨_, rfl⟩
  have hagrees := (hall 2 o ho).1
  -- what the run ends in: the name in the set, no executor under it
  have hend : (Machine.exec (call id) ({} : ComputeOrchestrator Nat Unit) discoverThenActivate).map
      (fun o => ("heart_rate" ∈ o.registeredExecutors : Bool) &&
        ("heart_rate" ∉ o.computeManager.intermediateStage.intermediateExecutors.keys : Bool))
      = some true := by decide +kernel
  rw [ho] at hend
  have hboth : "heart_rate" ∈ o.registeredExecutors ∧
      "heart_rate" ∉ o.computeManager.intermediateStage.intermediateExecutors.keys := by
    simpa using hend
  exact hboth.2 ((hagrees.intermediate _).mp hboth.1)

end ComputeOrchestrator

end NexusN3.Compute
