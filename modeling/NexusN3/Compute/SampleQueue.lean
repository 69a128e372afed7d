import NexusN3.Compute.Executors
import NexusN3.Lib.Machine
import Mathlib.Algebra.GroupWithZero.Nat
import Mathlib.Data.List.DropRight
import Mathlib.Data.List.Perm.Basic
import Mathlib.Data.List.Range

/-!
# The compute manager's queue and worker

Any thread puts samples into the queue. The worker takes one after another, gives it to the
algorithm of its address and routes the results that come back; results of delegated windows come
on other threads. A reset clears the stages and the counters and then empties the queue, while all
of this goes on.

* **`step`** — the threads, cut where another one may come in.
* **`Kept`** — what has become of each sample. Samples are numbered as they come.
* **`handed_in_order`** — samples are handed over once and in order, and after a reset returned at
  most one of those that came before.
* **`results_windows`** — the buffers are windows on the results routed since the last reset.
-/

namespace NexusN3.Compute.SampleQueue

open Lib

structure Sample (S : Type) where
  address : String
  value : S

/-- Where the worker stands. -/
inductive Hand (Client S V : Type) where
  | idle
  /-- `self._queue.get()` returned -/
  | taken (i : Nat) (x : Sample S)
  /-- the algorithm of the address has been looked up -/
  | found (i : Nat) (x : Sample S) (algo : Client)
  /-- the sample has been counted; `on_sample` comes next -/
  | counted (i : Nat) (x : Sample S) (algo : Client)
  /-- in the loop of `on_sample` over the results -/
  | results (i : Nat) (rest : List (AlgorithmResult V))
  /-- in `on_algorithm_result`, with the performance record built -/
  | routing (i : Nat) (result : AlgorithmResult V) (rest : List (AlgorithmResult V))

/-- The sample that the worker has and has not handed over. -/
def Hand.pending {Client S V : Type} : Hand Client S V → Option Nat
  | .taken i _ | .found i _ _ | .counted i _ _ => some i
  | .idle | .results _ _ | .routing _ _ _ => none

/-- The sample whose results the worker routes. -/
def Hand.routed {Client S V : Type} : Hand Client S V → Option Nat
  | .results i _ | .routing i _ _ => some i
  | .idle | .taken _ _ | .found _ _ _ | .counted _ _ _ => none

/-- The sample in the worker's hand. -/
def Hand.sample {Client S V : Type} : Hand Client S V → Option Nat
  | .idle => none
  | .taken i _ | .found i _ _ | .counted i _ _ | .results i _ | .routing i _ _ => some i

structure State (Client S V : Type) where
  manager : ComputeManager Client V
  queue : List (Nat × Sample S)
  hand : Hand Client S V
  /-- delegated results in `on_algorithm_result`, with the performance record built -/
  arriving : List (AlgorithmResult V)
  /-- `_samples_since_result` -/
  samplesSinceResult : Dict String Nat
  /-- how many samples have been put into the queue -/
  count : Nat
  /-- what `on_sample` was called with -/
  handed : List Nat
  /-- taken from the queue when there was no algorithm for them -/
  unclaimed : List Nat
  /-- taken from the queue by a reset -/
  drained : List Nat
  /-- the results that got into the intermediate stage, and whose they are; `none` is delegated -/
  routed : List (Option Nat × AlgorithmResult V)
  /-- how many of these there were when the stages were cleared last -/
  cleared : Nat
  /-- since the counters were cleared: the addresses of the samples counted, and of the performance
  records built, with their `samples_since_previous_result` -/
  counted : List String
  performances : List (String × Nat)

/-- What the callbacks around one result do. -/
structure Callbacks (V : Type) where
  /-- the listener for results raises -/
  listenerRaises : Bool
  answers : HostAnswers V
  /-- the listener for intermediate results raises -/
  intermediateRaises : Bool

inductive Action (Client S V : Type) where
  | ingest (x : Sample S)
  | take
  | lookup
  | count
  /-- what the plugin host gives for the sample; `none` when it raises -/
  | onSample (answer : Option (List (AlgorithmResult V)))
  | perf
  | route (callbacks : Callbacks V)
  | finish
  /-- a delegated result -/
  | arrive (result : AlgorithmResult V)
  | routeArrived (k : Nat) (callbacks : Callbacks V)
  | register (address : String) (algorithm : Client)
  | registerIntermediate (algorithmName : String) (executor : Client)
  | getResults (algorithmName : String) (address : Option String)
  /-- of `reset` only -/
  | clearAlgorithms
  | clearStages
  | clearTiming
  /-- `get_nowait` of a reset -/
  | drain
  /-- `get_nowait` raised `Empty`: the reset returns -/
  | drained

/-! ## The stage's buffers -/

section Stage

variable {Client V : Type}

/-- `self._results[algorithm_name]` of a `defaultdict`. -/
def buffersOf (st : IntermediateStage Client V) (algorithmName : String) : ResultBuffers V :=
  (st.results.get? algorithmName).getD Dict.empty

def bufferOf (buffers : ResultBuffers V) (address : String) : List (AlgorithmResult V) :=
  (buffers.get? address).getD []

/-- `results[-limit:]`, unless there is no limit. -/
def limited {α : Type} (limit : Option Int) (results : List α) : List α :=
  match limit with
  | none => results
  | some 0 => results
  | some n => if 0 < n then results.rtake n.toNat else results.drop (-n).toNat

/-- `IntermediateStage.get_results`; looking makes the entries of a `defaultdict`. -/
def getResults (st : IntermediateStage Client V) (algorithmName : String)
    (address : Option String) (limit : Option Int) :
    IntermediateStage Client V × List (AlgorithmResult V) :=
  let buffers := buffersOf st algorithmName
  match address.filter (· ≠ "") with
  | some address =>
    ({ st with
        results := st.results.set algorithmName (buffers.set address (bufferOf buffers address)) },
      limited limit (bufferOf buffers address))
  | none =>
    ({ st with results := st.results.set algorithmName buffers },
      limited limit buffers.values.flatten)

theorem pushBounded_rtake {α : Type} (n : Nat) (results : List α) (result : α) :
    pushBounded n (results.rtake n) result = (results ++ [result]).rtake n := by
  have hdrop : results.rtake n ++ [result] =
      (results ++ [result]).drop (results.length - n) := by
    rw [List.rtake, List.drop_append_of_le_length (Nat.sub_le _ _)]
  unfold pushBounded
  rw [hdrop, List.drop_drop, List.rtake, List.rtake]
  simp only [List.length_drop, List.length_append, List.length_singleton]
  by_cases hn : n = 0
  · subst hn
    rw [List.drop_eq_nil_of_le, List.drop_eq_nil_of_le]
    · simp
    · simp
  · congr 1
    omega

theorem rtake_rtake {α : Type} (k n : Nat) (results : List α) :
    (results.rtake n).rtake k = results.rtake (min k n) := by
  simp only [List.rtake, List.drop_drop, List.length_drop]
  congr 1
  omega

theorem bufferOf_set (buffers : ResultBuffers V) (address address' : String)
    (results : List (AlgorithmResult V)) :
    bufferOf (buffers.set address results) address' =
      if address = address' then results else bufferOf buffers address' := by
  unfold bufferOf
  rw [Dict.get?_set]
  split <;> rfl

theorem buffersOf_set (st : IntermediateStage Client V) (algorithmName algorithmName' : String)
    (buffers : ResultBuffers V) :
    buffersOf { st with results := st.results.set algorithmName buffers } algorithmName' =
      if algorithmName = algorithmName' then buffers else buffersOf st algorithmName' := by
  unfold buffersOf
  rw [Dict.get?_set]
  split <;> rfl

/-- Among all the results of an algorithm those of one address are its buffer, when every buffer has
results of its own address only. -/
theorem filter_values_flatten (buffers : ResultBuffers V) (address : String)
    (hown : ∀ k, ∀ result ∈ bufferOf buffers k, result.address = k) :
    (buffers.values.flatten.filter fun result => decide (result.address = address)) =
      bufferOf buffers address := by
  have hentries : ∀ entries : List (String × List (AlgorithmResult V)),
      (entries.map Prod.fst).Nodup →
      (∀ e ∈ entries, ∀ result ∈ e.2, result.address = e.1) →
      ((entries.map Prod.snd).flatten.filter fun result => decide (result.address = address)) =
        ((entries.find? fun e => decide (e.1 = address)).map Prod.snd).getD [] := by
    intro entries hnodup howns
    induction entries with
    | nil => rfl
    | cons e entries ih =>
      obtain ⟨hfresh, hnodup⟩ := List.nodup_cons.mp hnodup
      obtain ⟨he, hrest⟩ := List.forall_mem_cons.mp howns
      rw [List.map_cons, List.flatten_cons, List.filter_append, ih hnodup hrest]
      by_cases hkey : e.1 = address
      · have hall : e.2.filter (fun result => decide (result.address = address)) = e.2 :=
          List.filter_eq_self.mpr fun result hmem =>
            decide_eq_true ((he result hmem).trans hkey)
        have hnone : entries.find? (fun e => decide (e.1 = address)) = none := by
          refine List.find?_eq_none.mpr fun e' he' hsame => hfresh ?_
          rw [hkey, ← of_decide_eq_true hsame]
          exact List.mem_map_of_mem he'
        rw [hall, hnone, List.find?_cons, decide_eq_true hkey]
        exact List.append_nil _
      · have hnothing : e.2.filter (fun result => decide (result.address = address)) = [] :=
          List.filter_eq_nil_iff.mpr fun result hmem hsame =>
            hkey ((he result hmem).symm.trans (of_decide_eq_true hsame))
        rw [hnothing, List.find?_cons, decide_eq_false hkey]
        rfl
  refine (hentries buffers.entries buffers.nodup ?_).trans rfl
  intro e he result hmem
  apply hown e.1 result
  rw [bufferOf, Dict.get?_eq_some_iff.mpr he]
  exact hmem

/-- Looking changes no buffer. -/
theorem bufferOf_getResults (st : IntermediateStage Client V) (algorithmName : String)
    (address : Option String) (limit : Option Int) (algorithmName' address' : String) :
    bufferOf (buffersOf (getResults st algorithmName address limit).1 algorithmName') address' =
      bufferOf (buffersOf st algorithmName') address' := by
  unfold getResults
  dsimp only
  split
  · rw [buffersOf_set]
    split
    · rename_i halgorithm
      rw [bufferOf_set, halgorithm]
      split
      · rename_i haddress
        rw [haddress]
      · rfl
    · rfl
  · rw [buffersOf_set]
    split
    · rename_i halgorithm
      rw [halgorithm]
    · rfl

/-- A result is buffered whatever the executor does, and the executor sees the buffers with it. -/
theorem handleResult_stage (st : IntermediateStage Client V) (answers : HostAnswers V)
    (result : AlgorithmResult V) :
    (st.handleResult answers result).1 =
        { st with results := st.results.set result.algorithmName (st.buffered result) } ∧
      ∀ request ∈ (st.handleResult answers result).2.1,
        request = .shouldRunIntermediate request.client (st.buffered result) ∨
          request = .runIntermediate request.client (st.buffered result) := by
  unfold IntermediateStage.handleResult
  dsimp only
  split
  · exact ⟨rfl, List.forall_mem_nil _⟩
  · split
    · exact ⟨rfl, List.forall_mem_singleton.mpr (.inl rfl)⟩
    · exact ⟨rfl, List.forall_mem_singleton.mpr (.inl rfl)⟩
    · exact ⟨rfl, List.forall_mem_cons.mpr ⟨.inl rfl, List.forall_mem_singleton.mpr (.inr rfl)⟩⟩

theorem bufferOf_buffered (st : IntermediateStage Client V) (result : AlgorithmResult V)
    (address : String) :
    bufferOf (st.buffered result) address =
      if result.address = address then
        pushBounded st.maxResultsPerStream
          (bufferOf (buffersOf st result.algorithmName) address) result
      else bufferOf (buffersOf st result.algorithmName) address := by
  unfold IntermediateStage.buffered
  rw [bufferOf_set]
  split
  · rename_i haddress
    rw [← haddress]
    rfl
  · rfl

end Stage

namespace State

variable {Client S V : Type}

def withStage (s : State Client S V) (st : IntermediateStage Client V) : State Client S V :=
  { s with manager := { s.manager with intermediateStage := st } }

def samplesSince (s : State Client S V) (address : String) : Nat :=
  (s.samplesSinceResult.get? address).getD 0

/-- `_build_compute_performance` under the timing lock. -/
def buildComputePerformance (s : State Client S V) (result : AlgorithmResult V) :
    State Client S V :=
  { s with
    samplesSinceResult := s.samplesSinceResult.set result.address 0
    performances := s.performances ++ [(result.address, s.samplesSince result.address)] }

/-- `ResultRouter.handle_result`, and whether it raises. -/
def handleResult (s : State Client S V) (origin : Option Nat) (result : AlgorithmResult V)
    (callbacks : Callbacks V) : State Client S V × Bool :=
  if callbacks.listenerRaises then (s, true)
  else
    let (st, _, intermediate) :=
      s.manager.intermediateStage.handleResult callbacks.answers result
    let routed := { s.withStage st with routed := s.routed ++ [(origin, result)] }
    match intermediate with
    | none => (routed, true)
    | some none => (routed, false)
    | some (some _) => (routed, callbacks.intermediateRaises)

def step : Machine (State Client S V) (Action Client S V)
  | s, .ingest x => some { s with queue := s.queue ++ [(s.count, x)], count := s.count + 1 }
  | s, .take =>
    match s.hand, s.queue with
    | .idle, (i, x) :: queue => some { s with queue := queue, hand := .taken i x }
    | _, _ => none
  | s, .lookup =>
    match s.hand with
    | .taken i x =>
      match s.manager.algorithms.get? x.address with
      | none => some { s with hand := .idle, unclaimed := s.unclaimed ++ [i] }
      | some algo => some { s with hand := .found i x algo }
    | _ => none
  | s, .count =>
    match s.hand with
    | .found i x algo =>
      some { s with
        hand := .counted i x algo
        samplesSinceResult := s.samplesSinceResult.set x.address (s.samplesSince x.address + 1)
        counted := s.counted ++ [x.address] }
    | _ => none
  | s, .onSample answer =>
    match s.hand with
    | .counted i _ _ =>
      some { s with
        handed := s.handed ++ [i]
        -- an exception goes to `error_cb`
        hand := match answer with
          | none => .idle
          | some results => .results i results }
    | _ => none
  | s, .perf =>
    match s.hand with
    | .results i (result :: rest) =>
      some { s.buildComputePerformance result with hand := .routing i result rest }
    | _ => none
  | s, .route callbacks =>
    match s.hand with
    | .routing i result rest =>
      let (s, raised) := s.handleResult (some i) result callbacks
      -- what raises leaves `on_sample`, and the other results with it
      some { s with hand := if raised then .idle else .results i rest }
    | _ => none
  | s, .finish =>
    match s.hand with
    | .results _ [] => some { s with hand := .idle }
    | _ => none
  | s, .arrive result =>
    some { s.buildComputePerformance result with arriving := s.arriving ++ [result] }
  | s, .routeArrived k callbacks =>
    s.arriving[k]?.map fun result =>
      { (s.handleResult none result callbacks).1 with arriving := s.arriving.eraseIdx k }
  | s, .register address algorithm =>
    some { s with manager := s.manager.registerAlgorithm address algorithm }
  | s, .registerIntermediate algorithmName executor =>
    some { s with manager := s.manager.registerIntermediateExecutor algorithmName executor }
  | s, .getResults algorithmName address =>
    some (s.withStage
      (getResults s.manager.intermediateStage algorithmName address none).1)
  | s, .clearAlgorithms =>
    some { s with manager := { s.manager with algorithms := Dict.empty } }
  | s, .clearStages =>
    some { s with manager := s.manager.resetSession, cleared := s.routed.length }
  | s, .clearTiming =>
    some { s with samplesSinceResult := Dict.empty, counted := [], performances := [] }
  | s, .drain =>
    match s.queue with
    | (i, _) :: queue => some { s with queue := queue, drained := s.drained ++ [i] }
    | [] => none
  | s, .drained => if s.queue.isEmpty then some s else none

def init : State Client S V where
  manager := {}
  queue := []
  hand := .idle
  arriving := []
  samplesSinceResult := Dict.empty
  count := 0
  handed := []
  unclaimed := []
  drained := []
  routed := []
  cleared := 0
  counted := []
  performances := []

/-! ## What becomes of a sample -/

/-- The samples that have been put into the queue and not handed over, unclaimed or drained. -/
def ahead (s : State Client S V) : List Nat := s.hand.pending.toList ++ s.queue.map Prod.fst

structure Kept (s : State Client S V) : Prop where
  /-- every sample is in one place -/
  fates : (s.handed ++ s.unclaimed ++ s.drained ++ s.ahead).Perm (List.range s.count)
  /-- the first one that was put in is the first one taken out -/
  fifo : (s.handed ++ s.ahead).Pairwise (· < ·)
  /-- a result comes from a sample that was handed over -/
  origins : ∀ i result, (some i, result) ∈ s.routed → i ∈ s.handed
  current : ∀ i, s.hand.routed = some i → i ∈ s.handed

theorem Kept.lt_count {s : State Client S V} (h : Kept s) {i : Nat}
    (hi : i ∈ s.handed ++ s.ahead) : i < s.count := by
  apply List.mem_range.mp
  apply h.fates.mem_iff.mp
  simp only [List.mem_append] at hi ⊢
  tauto

/-- What a step does to the samples and to the results routed. -/
inductive Move (s s' : State Client S V) : Prop where
  | came (ahead : s'.ahead = s.ahead ++ [s.count]) (count : s'.count = s.count + 1)
      (handed : s'.handed = s.handed) (unclaimed : s'.unclaimed = s.unclaimed)
      (drained : s'.drained = s.drained) (routed : s'.routed = s.routed) (hand : s'.hand = s.hand)
  /-- the first sample that is ahead is handed over -/
  | given (i : Nat) (ahead : s.ahead = i :: s'.ahead) (count : s'.count = s.count)
      (handed : s'.handed = s.handed ++ [i]) (unclaimed : s'.unclaimed = s.unclaimed)
      (drained : s'.drained = s.drained) (routed : s'.routed = s.routed)
      (hand : ∀ j, s'.hand.routed = some j → j = i)
  /-- a sample that is ahead is unclaimed or drained -/
  | lost (i : Nat) (ahead : s.ahead.Perm (i :: s'.ahead)) (sub : s'.ahead.Sublist s.ahead)
      (count : s'.count = s.count) (handed : s'.handed = s.handed)
      (away : (s'.unclaimed ++ s'.drained).Perm (i :: (s.unclaimed ++ s.drained)))
      (routed : s'.routed = s.routed)
      (hand : s'.hand.routed = none ∨ s'.hand.routed = s.hand.routed)
  | still (ahead : s'.ahead = s.ahead) (count : s'.count = s.count)
      (handed : s'.handed = s.handed) (unclaimed : s'.unclaimed = s.unclaimed)
      (drained : s'.drained = s.drained)
      (routed : s'.routed = s.routed ∨ ∃ origin result,
        s'.routed = s.routed ++ [(origin, result)] ∧
          ∀ i, origin = some i → s.hand.routed = some i)
      (hand : s'.hand.routed = none ∨ s'.hand.routed = s.hand.routed)

/-- What routing a result leaves as it is. -/
theorem handleResult_frame (s : State Client S V) (origin : Option Nat)
    (result : AlgorithmResult V) (callbacks : Callbacks V) :
    ∃ manager routed, (s.handleResult origin result callbacks).1 =
      { s with manager := manager, routed := routed } ∧
      (routed = s.routed ∨ routed = s.routed ++ [(origin, result)]) := by
  unfold handleResult
  split
  · exact ⟨s.manager, s.routed, rfl, .inl rfl⟩
  · dsimp only
    split <;> exact ⟨_, _, rfl, .inr rfl⟩

theorem move_routed {s : State Client S V} {origin : Option Nat} {result : AlgorithmResult V}
    {callbacks : Callbacks V} {hand : Hand Client S V} {arriving : List (AlgorithmResult V)}
    (horigin : ∀ i, origin = some i → s.hand.routed = some i)
    (hpending : hand.pending = s.hand.pending)
    (hhand : hand.routed = none ∨ hand.routed = s.hand.routed) :
    Move s { (s.handleResult origin result callbacks).1 with
      hand := hand, arriving := arriving } := by
  obtain ⟨manager, routed, hframe, hrouted⟩ := s.handleResult_frame origin result callbacks
  rw [hframe]
  refine .still ?_ rfl rfl rfl rfl ?_ hhand
  · show hand.pending.toList ++ _ = _
    rw [hpending]
    rfl
  · rcases hrouted with rfl | rfl
    · exact .inl rfl
    · exact .inr ⟨origin, result, rfl, horigin⟩

theorem move_of_step {s s' : State Client S V} {a : Action Client S V}
    (hstep : step s a = some s') : Move s s' := by
  cases a with
  | ingest x =>
    cases hstep
    refine .came ?_ rfl rfl rfl rfl rfl rfl
    simp only [ahead, List.map_append, List.map_cons, List.map_nil, List.append_assoc]
  | take =>
    simp only [step] at hstep
    split at hstep <;> cases hstep
    rename_i i x queue hhand hqueue
    refine .still ?_ rfl rfl rfl rfl (.inl rfl) (.inl rfl)
    simp only [ahead, hhand, hqueue, Hand.pending, Option.toList, List.map_cons,
      List.nil_append, List.singleton_append]
  | lookup =>
    simp only [step] at hstep
    split at hstep
    · rename_i i x hhand
      split at hstep <;> cases hstep
      · have hahead : s.ahead = i :: s.queue.map Prod.fst := by
          simp only [ahead, hhand, Hand.pending, Option.toList, List.singleton_append]
        refine .lost i (.of_eq hahead) ?_ rfl rfl ?_ rfl (.inl rfl)
        · rw [hahead]
          exact List.sublist_cons_self _ _
        · show (s.unclaimed ++ [i] ++ s.drained).Perm _
          rw [List.append_assoc]
          exact List.perm_middle
      · refine .still ?_ rfl rfl rfl rfl (.inl rfl) (.inl rfl)
        simp only [ahead, hhand, Hand.pending]
    · cases hstep
  | count =>
    simp only [step] at hstep
    split at hstep <;> cases hstep
    rename_i i x algo hhand
    refine .still ?_ rfl rfl rfl rfl (.inl rfl) (.inl rfl)
    simp only [ahead, hhand, Hand.pending]
  | onSample answer =>
    simp only [step] at hstep
    split at hstep <;> cases hstep
    rename_i i x algo hhand
    refine .given i ?_ rfl rfl rfl rfl rfl ?_
    · simp only [ahead, hhand, Hand.pending]
      cases answer <;> rfl
    · intro j hj
      cases answer with
      | none => cases hj
      | some results =>
        cases hj
        rfl
  | perf =>
    simp only [step] at hstep
    split at hstep <;> cases hstep
    rename_i i result rest hhand
    refine .still ?_ rfl rfl rfl rfl (.inl rfl) (.inr ?_)
    · simp only [ahead, hhand, Hand.pending]
      rfl
    · rw [hhand]
      rfl
  | route callbacks =>
    simp only [step] at hstep
    split at hstep <;> cases hstep
    rename_i i result rest hhand
    have hboth : ∀ raised : Bool, (if raised then Hand.idle else Hand.results i rest :
        Hand Client S V).pending = s.hand.pending := by
      intro raised
      rw [hhand]
      cases raised <;> rfl
    refine move_routed ?_ (hboth _) ?_
    · intro j hj
      rw [hhand, ← hj]
      rfl
    · rw [hhand]
      split
      · exact .inl rfl
      · exact .inr rfl
  | finish =>
    simp only [step] at hstep
    split at hstep <;> cases hstep
    rename_i i hhand
    refine .still ?_ rfl rfl rfl rfl (.inl rfl) (.inl rfl)
    simp only [ahead, hhand, Hand.pending]
  | arrive result =>
    cases hstep
    exact .still rfl rfl rfl rfl rfl (.inl rfl) (.inr rfl)
  | routeArrived k callbacks =>
    obtain ⟨result, -, rfl⟩ := Option.map_eq_some_iff.mp hstep
    have hnobody : ∀ i, (none : Option Nat) = some i → s.hand.routed = some i := by
      intro i hi
      cases hi
    have hrouted : Move s { (s.handleResult none result callbacks).1 with
        hand := s.hand, arriving := s.arriving.eraseIdx k } :=
      move_routed hnobody rfl (.inr rfl)
    obtain ⟨manager, routed, hframe, -⟩ := s.handleResult_frame none result callbacks
    rw [hframe] at hrouted ⊢
    exact hrouted
  | register address algorithm =>
    cases hstep
    exact .still rfl rfl rfl rfl rfl (.inl rfl) (.inr rfl)
  | registerIntermediate algorithmName executor =>
    cases hstep
    exact .still rfl rfl rfl rfl rfl (.inl rfl) (.inr rfl)
  | getResults algorithmName address =>
    cases hstep
    exact .still rfl rfl rfl rfl rfl (.inl rfl) (.inr rfl)
  | clearAlgorithms =>
    cases hstep
    exact .still rfl rfl rfl rfl rfl (.inl rfl) (.inr rfl)
  | clearStages =>
    cases hstep
    exact .still rfl rfl rfl rfl rfl (.inl rfl) (.inr rfl)
  | clearTiming =>
    cases hstep
    exact .still rfl rfl rfl rfl rfl (.inl rfl) (.inr rfl)
  | drain =>
    simp only [step] at hstep
    split at hstep <;> cases hstep
    rename_i i x queue hqueue
    have hahead : s.ahead = s.hand.pending.toList ++ i :: queue.map Prod.fst := by
      simp only [ahead, hqueue, List.map_cons]
    refine .lost i ?_ ?_ rfl rfl ?_ rfl (.inr rfl)
    · rw [hahead]
      exact List.perm_middle
    · rw [hahead]
      exact List.Sublist.append_left (List.sublist_cons_self _ _) _
    · show (s.unclaimed ++ (s.drained ++ [i])).Perm _
      rw [← List.append_assoc]
      exact List.perm_append_singleton _ _
  | drained =>
    simp only [step] at hstep
    split at hstep <;> cases hstep
    exact .still rfl rfl rfl rfl rfl (.inl rfl) (.inr rfl)

theorem Kept.current_of {s s' : State Client S V} (h : Kept s)
    (hhand : s'.hand.routed = none ∨ s'.hand.routed = s.hand.routed) :
    ∀ i, s'.hand.routed = some i → i ∈ s.handed := by
  intro i hi
  rcases hhand with hnone | hsame
  · rw [hnone] at hi
    cases hi
  · rw [hsame] at hi
    exact h.current i hi

theorem Kept.move {s s' : State Client S V} (h : Kept s) (hmove : Move s s') : Kept s' := by
  cases hmove with
  | came hahead hcount hhanded hunclaimed hdrained hrouted hhand =>
    refine ⟨?_, ?_, ?_, ?_⟩
    · rw [hhanded, hunclaimed, hdrained, hahead, hcount, ← List.append_assoc, List.range_succ]
      exact h.fates.append_right _
    · rw [hhanded, hahead, ← List.append_assoc, List.pairwise_append]
      refine ⟨h.fifo, List.pairwise_singleton _ _, ?_⟩
      intro i hi j hj
      rw [List.mem_singleton.mp hj]
      exact h.lt_count hi
    · rw [hrouted, hhanded]
      exact h.origins
    · rw [hhand, hhanded]
      exact h.current
  | given i hahead hcount hhanded hunclaimed hdrained hrouted hhand =>
    have hmiddle : (i :: (s.unclaimed ++ s.drained ++ s'.ahead)).Perm
        (s.unclaimed ++ s.drained ++ s.ahead) := by
      rw [hahead]
      exact List.perm_middle.symm
    refine ⟨?_, ?_, ?_, ?_⟩
    · rw [hcount, hhanded, hunclaimed, hdrained]
      refine List.Perm.trans ?_ h.fates
      simpa only [List.append_assoc, List.cons_append, List.nil_append] using
        hmiddle.append_left s.handed
    · have hfifo := h.fifo
      rw [hahead] at hfifo
      rw [hhanded, List.append_assoc]
      exact hfifo
    · intro j result hmem
      rw [hrouted] at hmem
      rw [hhanded]
      exact List.mem_append_left _ (h.origins j result hmem)
    · intro j hj
      rw [hhanded, hhand j hj]
      exact List.mem_append_right _ List.mem_cons_self
  | lost i hahead hsub hcount hhanded haway hrouted hhand =>
    have hmiddle : (s'.unclaimed ++ s'.drained ++ s'.ahead).Perm
        (s.unclaimed ++ s.drained ++ s.ahead) :=
      ((haway.append_right _).trans List.perm_middle.symm).trans (hahead.symm.append_left _)
    refine ⟨?_, ?_, ?_, ?_⟩
    · rw [hcount, hhanded]
      refine List.Perm.trans ?_ h.fates
      simpa only [List.append_assoc] using hmiddle.append_left s.handed
    · rw [hhanded]
      exact h.fifo.sublist (List.Sublist.append_left hsub _)
    · rw [hrouted, hhanded]
      exact h.origins
    · rw [hhanded]
      exact h.current_of hhand
  | still hahead hcount hhanded hunclaimed hdrained hrouted hhand =>
    refine ⟨?_, ?_, ?_, ?_⟩
    · rw [hhanded, hunclaimed, hdrained, hahead, hcount]
      exact h.fates
    · rw [hhanded, hahead]
      exact h.fifo
    · rw [hhanded]
      rcases hrouted with hsame | ⟨origin, result, hnew, horigin⟩
      · rw [hsame]
        exact h.origins
      · intro i result' hmem
        rw [hnew] at hmem
        rcases List.mem_append.mp hmem with hold | hlast
        · exact h.origins i result' hold
        · exact h.current i (horigin i (congrArg Prod.fst (List.mem_singleton.mp hlast)).symm)
    · rw [hhanded]
      exact h.current_of hhand

theorem kept_init : Kept (init : State Client S V) := by
  refine ⟨.refl _, List.Pairwise.nil, ?_, ?_⟩
  · intro i result hmem
    cases hmem
  · intro i hi
    cases hi

theorem kept_of_reach {s : State Client S V} (hrun : Machine.Reach step init s) : Kept s :=
  hrun.invariant kept_init fun _ _ _ _ hstep h => h.move (move_of_step hstep)

/-! ## After a reset -/

/-- Put into the queue after `start`, or in the worker's hand then. -/
def Late (start : State Client S V) (i : Nat) : Prop :=
  start.count ≤ i ∨ start.hand.pending = some i

/-- What has happened since a reset returned. -/
structure Since (start s : State Client S V) : Prop where
  count : start.count ≤ s.count
  ahead : ∀ i ∈ s.ahead, Late start i
  handed : ∃ later, s.handed = start.handed ++ later ∧ ∀ i ∈ later, Late start i
  routed : ∃ later, s.routed = start.routed ++ later ∧
    ∀ i result, (some i, result) ∈ later → Late start i ∨ start.hand.routed = some i
  current : ∀ i, s.hand.routed = some i → Late start i ∨ start.hand.routed = some i

theorem since_start {start : State Client S V} (hempty : start.queue = []) :
    Since start start := by
  refine ⟨le_refl _, ?_, ⟨[], (List.append_nil _).symm, List.forall_mem_nil _⟩,
    ⟨[], (List.append_nil _).symm, ?_⟩, fun i hi => .inr hi⟩
  · intro i hi
    rw [State.ahead, hempty, List.map_nil, List.append_nil] at hi
    exact .inr (Option.mem_toList.mp hi)
  · intro i result hmem
    cases hmem

theorem Since.current_of {start s s' : State Client S V} (h : Since start s)
    (hhand : s'.hand.routed = none ∨ s'.hand.routed = s.hand.routed) :
    ∀ i, s'.hand.routed = some i → Late start i ∨ start.hand.routed = some i := by
  intro i hi
  rcases hhand with hnone | hsame
  · rw [hnone] at hi
    cases hi
  · rw [hsame] at hi
    exact h.current i hi

theorem Since.move {start s s' : State Client S V} (h : Since start s) (hmove : Move s s') :
    Since start s' := by
  obtain ⟨later, hlater, hlate⟩ := h.handed
  cases hmove with
  | came hahead hcount hhanded _ _ hrouted hhand =>
    refine ⟨?_, ?_, ?_, ?_, ?_⟩
    · rw [hcount]
      exact Nat.le_succ_of_le h.count
    · rw [hahead]
      intro i hi
      rcases List.mem_append.mp hi with hold | hnew
      · exact h.ahead i hold
      · rw [List.mem_singleton.mp hnew]
        exact .inl h.count
    · rw [hhanded]
      exact h.handed
    · rw [hrouted]
      exact h.routed
    · rw [hhand]
      exact h.current
  | given i hahead hcount hhanded _ _ hrouted hhand =>
    have hi : Late start i := h.ahead i (by rw [hahead]; exact List.mem_cons_self)
    refine ⟨?_, ?_, ⟨later ++ [i], ?_, ?_⟩, ?_, ?_⟩
    · rw [hcount]
      exact h.count
    · intro j hj
      exact h.ahead j (by rw [hahead]; exact List.mem_cons_of_mem _ hj)
    · rw [hhanded, hlater, List.append_assoc]
    · exact List.forall_mem_append.mpr ⟨hlate, List.forall_mem_singleton.mpr hi⟩
    · rw [hrouted]
      exact h.routed
    · intro j hj
      rw [hhand j hj]
      exact .inl hi
  | lost i _ hsub hcount hhanded _ hrouted hhand =>
    refine ⟨?_, fun j hj => h.ahead j (hsub.subset hj), ?_, ?_, h.current_of hhand⟩
    · rw [hcount]
      exact h.count
    · rw [hhanded]
      exact h.handed
    · rw [hrouted]
      exact h.routed
  | still hahead hcount hhanded _ _ hrouted hhand =>
    refine ⟨?_, ?_, ?_, ?_, h.current_of hhand⟩
    · rw [hcount]
      exact h.count
    · rw [hahead]
      exact h.ahead
    · rw [hhanded]
      exact h.handed
    · rcases hrouted with hsame | ⟨origin, result, hnew, horigin⟩
      · rw [hsame]
        exact h.routed
      · obtain ⟨laterRouted, hold, hlateRouted⟩ := h.routed
        refine ⟨laterRouted ++ [(origin, result)], ?_, ?_⟩
        · rw [hnew, hold, List.append_assoc]
        · intro i result' hmem
          rcases List.mem_append.mp hmem with hmem | hlast
          · exact hlateRouted i result' hmem
          · exact h.current i (horigin i (congrArg Prod.fst (List.mem_singleton.mp hlast)).symm)

theorem late_or_current {start : State Client S V} {i : Nat}
    (h : Late start i ∨ start.hand.routed = some i) :
    start.count ≤ i ∨ start.hand.sample = some i := by
  rcases h with (hnew | hpending) | hrouted
  · exact .inl hnew
  · right
    cases hhand : start.hand <;> rw [hhand] at hpending <;> first | exact hpending | cases hpending
  · right
    cases hhand : start.hand <;> rw [hhand] at hrouted <;> first | exact hrouted | cases hrouted

/-- **Samples are handed over once and in order, and a reset lets one of them pass.** However
producers, the worker, delegated results and resets interleave: every sample is in one place;
samples are handed to algorithms in the order in which they came; and once a reset has returned, an
algorithm gets samples that came after it and at most the one that the worker had in hand, and the
results that get into the intermediate stage are of such samples or delegated. -/
theorem handed_in_order {before start s : State Client S V}
    (hbefore : Machine.Reach step init before) (hreset : step before .drained = some start)
    (hafter : Machine.Reach step start s) :
    (s.handed ++ s.unclaimed ++ s.drained ++ s.ahead).Perm (List.range s.count) ∧
      s.handed.Pairwise (· < ·) ∧
      (∃ later, s.handed = start.handed ++ later ∧
        ∀ i ∈ later, start.count ≤ i ∨ start.hand.sample = some i) ∧
      ∃ later, s.routed = start.routed ++ later ∧ ∀ i result, (some i, result) ∈ later →
        i ∈ s.handed ∧ (start.count ≤ i ∨ start.hand.sample = some i) := by
  have hstart : Machine.Reach step init start := .tail .drained hbefore trivial hreset
  have hkept : Kept s := kept_of_reach (hstart.trans hafter)
  have hempty : start.queue = [] := by
    simp only [step] at hreset
    split at hreset <;> cases hreset
    exact List.isEmpty_iff.mp ‹_›
  have hsince : Since start s :=
    hafter.invariant (since_start hempty) fun _ _ _ _ hstep h => h.move (move_of_step hstep)
  obtain ⟨later, hlater, hlate⟩ := hsince.handed
  obtain ⟨laterRouted, hrouted, hlateRouted⟩ := hsince.routed
  refine ⟨hkept.fates, (List.pairwise_append.mp hkept.fifo).1, ⟨later, hlater, ?_⟩,
    laterRouted, hrouted, ?_⟩
  · intro i hi
    exact late_or_current (.inl (hlate i hi))
  · intro i result hmem
    refine ⟨hkept.origins i result ?_, late_or_current (hlateRouted i result hmem)⟩
    rw [hrouted]
    exact List.mem_append_right _ hmem

/-- Three samples, and a reset while the worker has the first one in hand. -/
def resetting : List (Action Unit Unit Nat) :=
  [.register "AA" (), .ingest ⟨"AA", ()⟩, .take, .ingest ⟨"BB", ()⟩, .ingest ⟨"AA", ()⟩,
    .clearStages, .clearTiming, .drain, .drain]

/-- The first sample and the one that comes after the reset give a result each. -/
def resumed : List (Action Unit Unit Nat) :=
  let raiseNothing : Callbacks Nat := ⟨false, ⟨none, none, none⟩, false⟩
  [.lookup, .count, .onSample (some [⟨"gait", "AA", 1⟩]), .perf, .route raiseNothing, .finish,
    .ingest ⟨"AA", ()⟩, .take, .lookup, .count, .onSample (some [⟨"gait", "AA", 2⟩]), .perf,
    .route raiseNothing]

theorem handed_in_order_resumed : ∃ start s : State Unit Unit Nat,
    start.hand.sample = some 0 ∧ s.handed = [0, 3] ∧ s.drained = [1, 2] ∧
      ∃ later, s.handed = start.handed ++ later ∧
        ∀ i ∈ later, start.count ≤ i ∨ start.hand.sample = some i :=
  ⟨_, _, rfl, rfl, rfl, (handed_in_order (Machine.reach_of_exec resetting rfl) rfl
    (Machine.reach_of_exec resumed rfl)).2.2.1⟩

/-! ## Windows on the results -/

/-- The results of one algorithm and address since the stages were cleared. -/
def stream (s : State Client S V) (algorithmName address : String) : List (AlgorithmResult V) :=
  ((s.routed.drop s.cleared).map Prod.snd).filter fun result =>
    decide (result.algorithmName = algorithmName ∧ result.address = address)

structure Windowed (s : State Client S V) : Prop where
  length : s.manager.intermediateStage.maxResultsPerStream = 1000
  cleared : s.cleared ≤ s.routed.length
  window : ∀ algorithmName address,
    bufferOf (buffersOf s.manager.intermediateStage algorithmName) address =
      (s.stream algorithmName address).rtake 1000

/-- A step that leaves the buffers and the results as they are. -/
theorem Windowed.frame {s s' : State Client S V} (h : Windowed s)
    (hlength : s'.manager.intermediateStage.maxResultsPerStream =
      s.manager.intermediateStage.maxResultsPerStream)
    (hrouted : s'.routed = s.routed) (hcleared : s'.cleared = s.cleared)
    (hbuffer : ∀ algorithmName address,
      bufferOf (buffersOf s'.manager.intermediateStage algorithmName) address =
        bufferOf (buffersOf s.manager.intermediateStage algorithmName) address) :
    Windowed s' := by
  refine ⟨?_, ?_, ?_⟩
  · rw [hlength]
    exact h.length
  · rw [hrouted, hcleared]
    exact h.cleared
  · intro algorithmName address
    rw [hbuffer, h.window, stream, stream, hrouted, hcleared]

/-- The buffers with one more result. -/
theorem Windowed.buffered {s : State Client S V} (h : Windowed s) (result : AlgorithmResult V)
    (address : String) :
    bufferOf (s.manager.intermediateStage.buffered result) address =
      (s.stream result.algorithmName address ++
        if result.address = address then [result] else []).rtake 1000 := by
  rw [bufferOf_buffered, h.length, h.window]
  split
  · exact pushBounded_rtake _ _ _
  · rw [List.append_nil]

theorem stream_routed {s : State Client S V} (h : s.cleared ≤ s.routed.length)
    (origin : Option Nat) (result : AlgorithmResult V) (st : IntermediateStage Client V)
    (algorithmName address : String) :
    ({ s.withStage st with routed := s.routed ++ [(origin, result)] } : State Client S V).stream
        algorithmName address =
      s.stream algorithmName address ++
        if result.algorithmName = algorithmName ∧ result.address = address then [result]
        else [] := by
  show (((s.routed ++ [(origin, result)]).drop s.cleared).map Prod.snd).filter _ = _
  rw [List.drop_append_of_le_length h, List.map_append, List.filter_append]
  congr 1
  simp only [List.map_cons, List.map_nil, List.filter_cons, List.filter_nil, decide_eq_true_eq]

theorem Windowed.handleResult {s : State Client S V} (h : Windowed s) (origin : Option Nat)
    (result : AlgorithmResult V) (callbacks : Callbacks V) :
    Windowed (s.handleResult origin result callbacks).1 := by
  have hstage := (handleResult_stage s.manager.intermediateStage callbacks.answers result).1
  have hrouted : Windowed { s.withStage
      (s.manager.intermediateStage.handleResult callbacks.answers result).1 with
        routed := s.routed ++ [(origin, result)] } := by
    rw [hstage]
    refine ⟨h.length, ?_, ?_⟩
    · show s.cleared ≤ (s.routed ++ [(origin, result)]).length
      rw [List.length_append]
      exact Nat.le_add_right_of_le h.cleared
    · intro algorithmName address
      rw [stream_routed h.cleared]
      show bufferOf (buffersOf { s.manager.intermediateStage with results := _ } _) _ = _
      rw [buffersOf_set]
      by_cases halgorithm : result.algorithmName = algorithmName
      · subst halgorithm
        rw [if_pos rfl, h.buffered]
        simp only [true_and]
      · rw [if_neg halgorithm, if_neg fun hboth => halgorithm hboth.1, List.append_nil]
        exact h.window algorithmName address
  unfold State.handleResult
  split
  · exact h
  · dsimp only
    split <;> exact hrouted

theorem windowed_step {s s' : State Client S V} {a : Action Client S V}
    (hstep : step s a = some s') (h : Windowed s) : Windowed s' := by
  cases a with
  | route callbacks =>
    simp only [step] at hstep
    split at hstep <;> cases hstep
    rename_i i result rest hhand
    exact (h.handleResult (some i) result callbacks).frame rfl rfl rfl fun _ _ => rfl
  | routeArrived k callbacks =>
    obtain ⟨result, -, rfl⟩ := Option.map_eq_some_iff.mp hstep
    exact (h.handleResult none result callbacks).frame rfl rfl rfl fun _ _ => rfl
  | clearStages =>
    cases hstep
    refine ⟨h.length, le_refl _, ?_⟩
    intro algorithmName address
    rw [stream, List.drop_length]
    exact (List.rtake_nil 1000).symm
  | getResults algorithmName address =>
    cases hstep
    refine h.frame ?_ rfl rfl (bufferOf_getResults _ _ _ _)
    show (getResults s.manager.intermediateStage algorithmName address none).1.maxResultsPerStream
      = _
    unfold getResults
    dsimp only
    split <;> rfl
  | _ =>
    -- the other steps touch neither the buffers nor what has been routed
    simp only [step] at hstep
    repeat' split at hstep
    all_goals cases hstep
    all_goals exact h.frame rfl rfl rfl fun _ _ => rfl

theorem windowed_init : Windowed (init : State Client S V) :=
  ⟨rfl, le_refl _, fun _ _ => (List.rtake_nil 1000).symm⟩

theorem windowed_of_reach {s : State Client S V} (hrun : Machine.Reach step init s) :
    Windowed s :=
  hrun.invariant windowed_init fun _ _ _ _ hstep h => windowed_step hstep h

/-- What the records built for an address since the counters were cleared say together. -/
def reported (s : State Client S V) (address : String) : Nat :=
  ((s.performances.filter fun record => decide (record.1 = address)).map Prod.snd).sum

def Counts (s : State Client S V) : Prop :=
  ∀ address, s.counted.count address = s.reported address + s.samplesSince address

theorem samplesSince_set (counters : Dict String Nat) (address address' : String) (n : Nat) :
    ((counters.set address n).get? address').getD 0 =
      if address = address' then n else (counters.get? address').getD 0 := by
  rw [Dict.get?_set]
  split <;> rfl

theorem Counts.buildComputePerformance {s : State Client S V} (h : s.Counts)
    (result : AlgorithmResult V) : (s.buildComputePerformance result).Counts := by
  intro address
  have hcount := h address
  show s.counted.count address = (((s.performances ++ [(result.address,
    s.samplesSince result.address)]).filter _).map _).sum +
      ((s.samplesSinceResult.set result.address 0).get? address).getD 0
  rw [samplesSince_set, List.filter_append, List.map_append, List.sum_append]
  by_cases haddress : result.address = address
  · subst haddress
    rw [if_pos rfl]
    simpa [reported] using hcount
  · rw [if_neg haddress]
    simpa [haddress, reported, samplesSince] using hcount

/-- Every sample counted since the counters were cleared is in exactly one performance record of its
address, or still in the counter. -/
theorem counts_reported {s : State Client S V} (hrun : Machine.Reach step init s) : s.Counts := by
  refine hrun.invariant (fun _ => rfl) fun s a s' _ hstep h => ?_
  cases a with
  | count =>
    simp only [step] at hstep
    split at hstep <;> cases hstep
    rename_i i x algo hhand
    intro address
    have hcount := h address
    show (s.counted ++ [x.address]).count address = s.reported address +
      ((s.samplesSinceResult.set x.address (s.samplesSince x.address + 1)).get? address).getD 0
    rw [samplesSince_set, List.count_append, hcount]
    by_cases haddress : x.address = address
    · subst haddress
      rw [if_pos rfl, List.count_singleton_self]
      omega
    · rw [if_neg haddress, List.count_singleton, if_neg (by simpa using haddress)]
      rfl
  | perf =>
    simp only [step] at hstep
    split at hstep <;> cases hstep
    exact h.buildComputePerformance _
  | arrive result =>
    cases hstep
    exact h.buildComputePerformance result
  | route callbacks =>
    simp only [step] at hstep
    split at hstep <;> cases hstep
    rename_i i result rest hhand
    obtain ⟨manager, routed, hframe, -⟩ := s.handleResult_frame (some i) result callbacks
    rw [hframe]
    exact h
  | routeArrived k callbacks =>
    obtain ⟨result, -, rfl⟩ := Option.map_eq_some_iff.mp hstep
    obtain ⟨manager, routed, hframe, -⟩ := s.handleResult_frame none result callbacks
    rw [hframe]
    exact h
  | clearTiming =>
    cases hstep
    exact fun _ => rfl
  | _ =>
    simp only [step] at hstep
    repeat' split at hstep
    all_goals cases hstep
    all_goals exact h

end State

end NexusN3.Compute.SampleQueue
