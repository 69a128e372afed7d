import Mathlib.Logic.Function.Basic
import NexusN3.Lib.Unwinding

/-!
# The proof of a physical STOP

The host of a plugin counts a STOP as confirmed from two flags of the request's operation, which
outlives the request and may be absent, and from what `stop_stream` returned. The verdict is kept in
`_last_stop_confirmed` until the next start.

* **`SensorHost.operationOf`** — the operation a request gets.
* **`SensorHost.step`** — a request begins, makes adapter calls, and ends. A barrier may look at any
  point between.
* **`Stop.Sound`** — a STOP that is proved by what it did itself.
* **`Proved`** — what the verdict and the replies promise.
* **`keepsProved`** — the condition on one step.
* **`proved_iff`** — the promise holds all along a sequence exactly when every step meets it.
-/

namespace NexusN3.Plugins.StopProof

open Lib

/-- How an adapter write or unsubscribe ends for the plugin. -/
inductive CallOutcome where
  | confirmed
  | refused
  /-- it raises; the plugin may swallow the exception -/
  | raised
  deriving DecidableEq

inductive AdapterCall where
  | write (outcome : CallOutcome)
  | unsetNotifyCallback (outcome : CallOutcome)
  deriving DecidableEq

/-- Both calls of `HostAdapterProxy` note their outcome alike. -/
def AdapterCall.outcome : AdapterCall → CallOutcome
  | .write outcome => outcome
  | .unsetNotifyCallback outcome => outcome

/-- How the plugin's method ends. -/
inductive PluginResult where
  | returned (value : Option Bool)
  | raised
  deriving DecidableEq

inductive Method where
  | setup
  | startStream
  | stopStream (requireTransportConfirmation : Bool)
  | identify
  | consumeInput
  deriving DecidableEq

/-- The flags of a `SensorOperation`. -/
structure Flags where
  adapterWriteUnconfirmed : Bool := false
  adapterOperationConfirmed : Bool := false
  deriving DecidableEq

def Flags.note (f : Flags) : CallOutcome → Flags
  | .confirmed => { f with adapterOperationConfirmed := true }
  | .refused | .raised => { f with adapterWriteUnconfirmed := true }

/-- An entry of `_operations`: the deadline, and which object it is. -/
structure OperationEntry where
  deadline : Int
  object : Nat
  deriving DecidableEq

/-- The `operation` a message carries. -/
structure Metadata where
  id : String
  deadline : Int
  deriving DecidableEq

/-- The request that holds the lifecycle lock, with the adapter calls it has made. -/
structure Running where
  method : Method
  operation : Option Nat
  calls : List AdapterCall
  deriving DecidableEq

/-- An executed `stop_stream`. -/
structure Stop where
  calls : List AdapterCall
  result : PluginResult
  deriving DecidableEq

inductive Reply where
  | none
  | error
  | ok (method : Method) (ok : Bool)
  deriving DecidableEq

structure SensorHost where
  /-- `_last_stop_confirmed` -/
  lastStopConfirmed : Bool
  /-- `_operations` of the connection -/
  operations : String → Option OperationEntry
  /-- the flags of the operation objects, and how many there are -/
  flags : Nat → Flags
  objects : Nat
  running : Option Running
  /-- the reply of the last step -/
  reply : Reply
  /-- the stops executed since the latest start began -/
  stops : List Stop

inductive Action where
  /-- a request arrives at a time -/
  | request (now : Int) (operation : Option Metadata) (method : Method)
  /-- the plugin makes an adapter call -/
  | adapterCall (call : AdapterCall)
  /-- the plugin's method ends -/
  | finish (result : PluginResult)
  deriving DecidableEq

/-- A stop that is proved by what it did itself: none of its adapter calls failed or was refused, it
did not return False, and it returned True or made a call that was confirmed. -/
structure Stop.Sound (stop : Stop) : Prop where
  unfailed : ∀ call ∈ stop.calls, call.outcome = .confirmed
  notFalse : stop.result ≠ .returned (some false)
  evidence : stop.result = .returned (some true) ∨ ∃ call ∈ stop.calls, call.outcome = .confirmed

namespace SensorHost

/-- The operation of a request, or none when it has expired. An operation that is known and has not
expired is used again. -/
def operationOf (s : SensorHost) (now : Int) : Option Metadata → SensorHost × Option (Option Nat)
  | none => (s, some none)
  | some m =>
    let live := fun id => (s.operations id).filter fun e => decide (now < e.deadline)
    match live m.id with
    | some e => ({ s with operations := live }, if e.deadline ≤ now then none else some (some e.object))
    | none =>
      ({ s with
          operations := Function.update live m.id (some ⟨m.deadline, s.objects⟩)
          flags := Function.update s.flags s.objects {}
          objects := s.objects + 1 },
        if m.deadline ≤ now then none else some (some s.objects))

/-- `lifecycle_call`, once it has the lock. -/
def enter (s : SensorHost) (method : Method) (operation : Option Nat) : SensorHost :=
  let s := { s with running := some ⟨method, operation, []⟩, reply := .none }
  match method with
  | .startStream => { s with lastStopConfirmed := false, stops := [] }
  | _ => s

/-- What `write` and `unset_notify_callback` note about their outcome. -/
def note (s : SensorHost) (operation : Option Nat) (outcome : CallOutcome) : SensorHost :=
  match operation with
  | none => s
  | some object =>
    { s with flags := Function.update s.flags object ((s.flags object).note outcome) }

/-- `confirmed` of `stop_stream`. -/
def confirmed (s : SensorHost) (operation : Option Nat) : Bool :=
  match operation with
  | none => true
  | some object => !(s.flags object).adapterWriteUnconfirmed

/-- `transport_confirmed` of `stop_stream`. -/
def transportConfirmed (s : SensorHost) (operation : Option Nat) : Bool :=
  match operation with
  | none => false
  | some object => (s.flags object).adapterOperationConfirmed

/-- `proof` of `stop_stream`. -/
def proof (s : SensorHost) (operation : Option Nat) (value : Option Bool) : Bool :=
  s.confirmed operation && decide (value ≠ some false) &&
    (s.transportConfirmed operation || decide (value = some true))

/-- The end of `stop_stream`. -/
def stopStream (s : SensorHost) (require : Bool) (r : Running) : PluginResult → SensorHost
  | .raised => { s with stops := s.stops ++ [⟨r.calls, .raised⟩], reply := .error }
  | .returned value =>
    let proof := s.proof r.operation value
    { s with
      lastStopConfirmed := s.lastStopConfirmed || proof
      stops := s.stops ++ [⟨r.calls, .returned value⟩]
      reply := .ok r.method (if require && !proof then false else s.confirmed r.operation) }

def step : Machine SensorHost Action
  | s, .request now operation method =>
    match s.operationOf now operation with
    | (s, none) => some { s with reply := .error }
    | (s, some operation) =>
      match s.running with
      | some _ => some { s with reply := .error }
      | none => some (s.enter method operation)
  | s, .adapterCall call =>
    match s.running with
    | none => none
    | some r =>
      some { s.note r.operation call.outcome with
        running := some { r with calls := r.calls ++ [call] }
        reply := .none }
  | s, .finish result =>
    match s.running with
    | none => none
    | some r =>
      let s := { s with running := none }
      match r.method with
      | .stopStream require => some (s.stopStream require r result)
      | method =>
        some { s with reply := if result = .raised then .error else .ok method true }

/-- A host that has just been built. -/
def init : SensorHost where
  lastStopConfirmed := false
  operations := fun _ => none
  flags := fun _ => {}
  objects := 0
  running := none
  reply := .none
  stops := []

/-- A stop that is proved by what it did itself has been executed since the latest start began. -/
def SoundlyStopped (s : SensorHost) : Prop := ∃ stop ∈ s.stops, stop.Sound

/-- The promise of `runtime_barrier` and of a stop with `require_transport_confirmation`. -/
structure Proved (s : SensorHost) : Prop where
  barrier : s.lastStopConfirmed = true → s.SoundlyStopped
  reply : s.reply = .ok (.stopStream true) true → s.SoundlyStopped

/-- A verdict on what the running stop returned does not rest on calls that are not its own: without
an operation, a stop that returns True has had no adapter call fail; with one, a stop that returns
nothing has had a call of its own confirmed if any call under the operation was and none failed. -/
def Backed (s : SensorHost) (r : Running) : Option Bool → Prop
  | some true => r.operation = none → ∀ call ∈ r.calls, call.outcome = .confirmed
  | none => ∀ object, r.operation = some object →
      (s.flags object).adapterWriteUnconfirmed = false →
      (s.flags object).adapterOperationConfirmed = true →
      ∃ call ∈ r.calls, call.outcome = .confirmed
  | some false => True

/-- The condition on one step: a stop that returns is backed, unless one that is proved by what it
did itself has been executed since the latest start began. -/
def keepsProved (s : SensorHost) : Action → Prop
  | .finish (.returned value) => ∀ r require, s.running = some r →
      r.method = .stopStream require → ¬ s.SoundlyStopped → s.Backed r value
  | _ => True

/-- What every step keeps: the flags of the running request's operation cover its own calls. -/
structure Kept (s : SensorHost) : Prop where
  made : ∀ r object, s.running = some r → r.operation = some object → object < s.objects
  listed : ∀ id e, s.operations id = some e → e.object < s.objects
  failed : ∀ r object, s.running = some r → r.operation = some object →
    (s.flags object).adapterWriteUnconfirmed = false → ∀ call ∈ r.calls, call.outcome = .confirmed
  succeeded : ∀ r object, s.running = some r → r.operation = some object →
    ∀ call ∈ r.calls, call.outcome = .confirmed → (s.flags object).adapterOperationConfirmed = true

theorem kept_init : init.Kept :=
  ⟨nofun, nofun, nofun, nofun⟩

/-- Nothing that the invariant reads has changed. -/
theorem Kept.congr {s s' : SensorHost} (h : s.Kept) (hrunning : s'.running = s.running)
    (hoperations : s'.operations = s.operations) (hflags : s'.flags = s.flags)
    (hobjects : s'.objects = s.objects) : s'.Kept := by
  refine ⟨?_, ?_, ?_, ?_⟩
  · rw [hrunning, hobjects]
    exact h.made
  · rw [hoperations, hobjects]
    exact h.listed
  · rw [hrunning, hflags]
    exact h.failed
  · rw [hrunning, hflags]
    exact h.succeeded

/-- A request's operation is one of the objects, and a new one leaves the others alone. -/
theorem Kept.operationOf {s : SensorHost} (h : s.Kept) (now : Int) (operation : Option Metadata) :
    (s.operationOf now operation).1.Kept ∧
      ∀ object, (s.operationOf now operation).2 = some (some object) →
        object < (s.operationOf now operation).1.objects := by
  cases operation with
  | none => exact ⟨h, nofun⟩
  | some m =>
    unfold SensorHost.operationOf
    dsimp only
    have hlive {id : String} {e : OperationEntry}
        (he : ((s.operations id).filter fun e => decide (now < e.deadline)) = some e) :
        e.object < s.objects := h.listed id e (Option.filter_eq_some_iff.mp he).1
    split
    · rename_i e he
      refine ⟨⟨h.made, fun id e' he' => hlive he', h.failed, h.succeeded⟩, ?_⟩
      intro object hobject
      split at hobject
      · cases hobject
      · cases hobject
        exact hlive he
    · refine ⟨⟨?_, ?_, ?_, ?_⟩, ?_⟩
      · exact fun r object hr hop => Nat.lt_succ_of_lt (h.made r object hr hop)
      · intro id e he
        simp only [Function.update_apply] at he
        split at he
        · cases he
          exact Nat.lt_succ_self _
        · exact Nat.lt_succ_of_lt (hlive he)
      · intro r object hr hop
        have hne : object ≠ s.objects := Nat.ne_of_lt (h.made r object hr hop)
        simp only [Function.update_of_ne hne]
        exact h.failed r object hr hop
      · intro r object hr hop
        have hne : object ≠ s.objects := Nat.ne_of_lt (h.made r object hr hop)
        simp only [Function.update_of_ne hne]
        exact h.succeeded r object hr hop
      · intro object hobject
        split at hobject
        · cases hobject
        · cases hobject
          exact Nat.lt_succ_self _

/-- A request that begins has made no call yet. -/
theorem Kept.enter {s : SensorHost} (h : s.Kept) (method : Method) {operation : Option Nat}
    (hmade : ∀ object, operation = some object → object < s.objects) :
    (s.enter method operation).Kept := by
  have hentered : ({ s with running := some ⟨method, operation, []⟩, reply := .none } :
      SensorHost).Kept := by
    refine ⟨?_, h.listed, ?_, ?_⟩
    · intro r object hr hop
      cases hr
      exact hmade object hop
    · intro r object hr _ _ call hcall
      cases hr
      cases hcall
    · intro r object hr _ call hcall
      cases hr
      cases hcall
  cases method <;> exact hentered.congr rfl rfl rfl rfl

/-- A call is noted in the flags of its operation and among the calls of its request. -/
theorem Kept.call {s : SensorHost} (h : s.Kept) {r : Running} (hr : s.running = some r)
    (call : AdapterCall) :
    ({ s.note r.operation call.outcome with
        running := some { r with calls := r.calls ++ [call] }
        reply := .none } : SensorHost).Kept := by
  obtain ⟨method, operation, calls⟩ := r
  cases operation with
  | none =>
    refine ⟨?_, h.listed, ?_, ?_⟩ <;>
    · intro r' object hr' hop
      cases hr'
      cases hop
  | some object =>
    have hmade := h.made _ object hr rfl
    have hfailed := h.failed _ object hr rfl
    have hsucceeded := h.succeeded _ object hr rfl
    refine ⟨?_, h.listed, ?_, ?_⟩
    · intro r' object' hr' hop
      cases hr'
      cases hop
      exact hmade
    · intro r' object' hr' hop hflag c hc
      cases hr'
      cases hop
      simp only [note, Function.update_self] at hflag
      rcases List.mem_append.mp hc with hold | hnew
      · refine hfailed ?_ c hold
        cases houtcome : call.outcome with
        | confirmed => rw [houtcome] at hflag; exact hflag
        | refused => rw [houtcome] at hflag; cases hflag
        | raised => rw [houtcome] at hflag; cases hflag
      · rw [List.mem_singleton.mp hnew]
        cases houtcome : call.outcome with
        | confirmed => rfl
        | refused => rw [houtcome] at hflag; cases hflag
        | raised => rw [houtcome] at hflag; cases hflag
    · intro r' object' hr' hop c hc hconfirmed
      cases hr'
      cases hop
      simp only [note, Function.update_self]
      rcases List.mem_append.mp hc with hold | hnew
      · have hflag := hsucceeded c hold hconfirmed
        cases call.outcome with
        | confirmed => rfl
        | refused => exact hflag
        | raised => exact hflag
      · rw [List.mem_singleton.mp hnew] at hconfirmed
        rw [hconfirmed]
        rfl

theorem kept_step {s s' : SensorHost} {a : Action} (hstep : step s a = some s') (h : s.Kept) :
    s'.Kept := by
  cases a with
  | request now operation method =>
    obtain ⟨hoperation, hmade⟩ := h.operationOf now operation
    simp only [step] at hstep
    split at hstep
    · rename_i t heq
      rw [heq] at hoperation
      cases hstep
      exact hoperation.congr rfl rfl rfl rfl
    · rename_i t operation' heq
      rw [heq] at hoperation hmade
      split at hstep <;> cases hstep
      · exact hoperation.congr rfl rfl rfl rfl
      · exact hoperation.enter method fun object hobject => hmade object (by rw [hobject])
  | adapterCall call =>
    simp only [step] at hstep
    split at hstep
    · cases hstep
    · rename_i r hr
      cases hstep
      exact h.call hr call
  | finish result =>
    simp only [step] at hstep
    split at hstep
    · cases hstep
    · have hidle : ({ s with running := none } : SensorHost).Kept := ⟨nofun, h.listed, nofun, nofun⟩
      split at hstep <;> cases hstep
      · cases result <;> exact hidle.congr rfl rfl rfl rfl
      · exact hidle.congr rfl rfl rfl rfl

/-! ## The verdict, step by step -/

/-- The verdict on a stop, and what the stop itself did. -/
theorem sound_of_proof_iff {s : SensorHost} (h : s.Kept) {r : Running} (hr : s.running = some r)
    {value : Option Bool} (hproof : s.proof r.operation value = true) :
    (⟨r.calls, .returned value⟩ : Stop).Sound ↔ s.Backed r value := by
  obtain ⟨method, operation, calls⟩ := r
  cases operation with
  | none =>
    cases value with
    | none => simp [proof, transportConfirmed] at hproof
    | some b =>
      cases b with
      | false => simp [proof] at hproof
      | true =>
        constructor
        · exact fun hsound _ => hsound.unfailed
        · exact fun hcalls => ⟨hcalls rfl, by simp, .inl rfl⟩
  | some object =>
    have hunfailed (hflag : (s.flags object).adapterWriteUnconfirmed = false) :
        ∀ call ∈ calls, call.outcome = .confirmed := h.failed _ object hr rfl hflag
    cases value with
    | none =>
      obtain ⟨hflag, hconfirmed⟩ : (s.flags object).adapterWriteUnconfirmed = false ∧
          (s.flags object).adapterOperationConfirmed = true := by
        simpa [proof, confirmed, transportConfirmed] using hproof
      constructor
      · exact fun hsound _ _ _ _ => hsound.evidence.resolve_left (by simp)
      · exact fun hown => ⟨hunfailed hflag, by simp, .inr (hown object rfl hflag hconfirmed)⟩
    | some b =>
      cases b with
      | false => simp [proof] at hproof
      | true =>
        have hflag : (s.flags object).adapterWriteUnconfirmed = false := by
          simpa [proof, confirmed] using hproof
        exact iff_of_true ⟨hunfailed hflag, by simp, .inl rfl⟩ (by simp [Backed])

/-- Without a proof there is nothing to back. -/
theorem backed_of_not_proof {s : SensorHost} {r : Running} {value : Option Bool}
    (hproof : s.proof r.operation value ≠ true) : s.Backed r value := by
  cases value with
  | none =>
    intro object hop hflag hconfirmed
    refine absurd ?_ hproof
    simp [proof, confirmed, transportConfirmed, hop, hflag, hconfirmed]
  | some b =>
    cases b with
    | false => trivial
    | true =>
      intro hop
      refine absurd ?_ hproof
      simp [proof, confirmed, hop]

/-- A step that neither gives a verdict nor begins a start. -/
theorem Proved.frame {s s' : SensorHost} (h : s.Proved)
    (hverdict : s'.lastStopConfirmed = s.lastStopConfirmed) (hstops : s'.stops = s.stops)
    (hreply : s'.reply ≠ .ok (.stopStream true) true) : s'.Proved := by
  refine ⟨?_, fun hok => absurd hok hreply⟩
  unfold SoundlyStopped
  rw [hverdict, hstops]
  exact h.barrier

theorem soundlyStopped_append {s s' : SensorHost} {stop : Stop}
    (hstops : s'.stops = s.stops ++ [stop]) :
    s'.SoundlyStopped ↔ s.SoundlyStopped ∨ stop.Sound := by
  unfold SoundlyStopped
  rw [hstops]
  constructor
  · rintro ⟨old, hold, hsound⟩
    rcases List.mem_append.mp hold with hmem | hnew
    · exact .inl ⟨old, hmem, hsound⟩
    · rw [List.mem_singleton.mp hnew] at hsound
      exact .inr hsound
  · rintro (⟨old, hmem, hsound⟩ | hsound)
    · exact ⟨old, List.mem_append_left _ hmem, hsound⟩
    · exact ⟨stop, List.mem_append_right _ (List.mem_singleton_self _), hsound⟩

/-- A stop that is executed keeps the promise exactly when its verdict, if it is a proof, is backed
by a stop that is proved by what it did itself. -/
theorem proved_stop_iff {s : SensorHost} (h : s.Proved) {r : Running} {require : Bool}
    (hmethod : r.method = .stopStream require) (value : Option Bool) :
    (({ s with running := none } : SensorHost).stopStream require r (.returned value)).Proved ↔
      (s.proof r.operation value = true → ¬ s.SoundlyStopped →
        (⟨r.calls, .returned value⟩ : Stop).Sound) := by
  generalize hs' : ({ s with running := none } : SensorHost).stopStream require r
    (.returned value) = s'
  have hstops : s'.stops = s.stops ++ [⟨r.calls, .returned value⟩] := by rw [← hs']; rfl
  have hverdict : s'.lastStopConfirmed
      = (s.lastStopConfirmed || s.proof r.operation value) := by rw [← hs']; rfl
  have hreply : s'.reply = .ok r.method
      (if require && !s.proof r.operation value then false else s.confirmed r.operation) := by
    rw [← hs']
    rfl
  have hsound := soundlyStopped_append hstops
  constructor
  · intro hproved hproof hnone
    have hstopped := hproved.barrier (by rw [hverdict, hproof, Bool.or_true])
    exact (hsound.mp hstopped).resolve_left hnone
  · intro hbacked
    have hproves (hproof : s.proof r.operation value = true) : s'.SoundlyStopped := by
      by_cases hstopped : s.SoundlyStopped
      · exact hsound.mpr (.inl hstopped)
      · exact hsound.mpr (.inr (hbacked hproof hstopped))
    refine ⟨?_, ?_⟩
    · intro hconfirmed
      rw [hverdict, Bool.or_eq_true] at hconfirmed
      rcases hconfirmed with hold | hproof
      · exact hsound.mpr (.inl (h.barrier hold))
      · exact hproves hproof
    · intro hok
      apply hproves
      rw [hreply, hmethod] at hok
      -- with the confirmation required, only a proof is answered with ok
      by_contra hnot
      cases require with
      | false => cases hok
      | true => simp [hnot] at hok

/-- A stop that raises gives no verdict. -/
theorem Proved.stopRaised {s : SensorHost} (h : s.Proved) (require : Bool) (r : Running) :
    (({ s with running := none } : SensorHost).stopStream require r .raised).Proved := by
  refine ⟨?_, nofun⟩
  intro hconfirmed
  exact (soundlyStopped_append (s := s) rfl).mpr (.inl (h.barrier hconfirmed))

theorem Proved.request {s s' : SensorHost} (h : s.Proved) {now : Int} {operation : Option Metadata}
    {method : Method} (hstep : step s (.request now operation method) = some s') : s'.Proved := by
  have hoperation : (s.operationOf now operation).1.Proved := by
    cases operation with
    | none => exact h
    | some m =>
      unfold SensorHost.operationOf
      dsimp only
      split <;> exact ⟨h.barrier, h.reply⟩
  simp only [step] at hstep
  split at hstep
  · rename_i t heq
    rw [heq] at hoperation
    cases hstep
    exact hoperation.frame rfl rfl nofun
  · rename_i t operation' heq
    rw [heq] at hoperation
    split at hstep <;> cases hstep
    · exact hoperation.frame rfl rfl nofun
    · cases method with
      -- a start takes the verdict back
      | startStream => exact ⟨nofun, nofun⟩
      | _ => exact hoperation.frame rfl rfl nofun

theorem proved_step_iff {s s' : SensorHost} {a : Action} (hstep : step s a = some s')
    (hkept : s.Kept) (h : s.Proved) : s'.Proved ↔ s.keepsProved a := by
  cases a with
  | request now operation method => exact iff_of_true (h.request hstep) trivial
  | adapterCall call =>
    simp only [step] at hstep
    split at hstep
    · cases hstep
    · rename_i r hr
      cases hstep
      have hnote : (s.note r.operation call.outcome).Proved := by
        unfold note
        split <;> exact ⟨h.barrier, h.reply⟩
      exact iff_of_true (hnote.frame rfl rfl fun heq => by cases heq) trivial
  | finish result =>
    simp only [step] at hstep
    split at hstep
    · cases hstep
    · rename_i r hr
      split at hstep
      · rename_i require hmethod
        cases hstep
        cases result with
        | raised => exact iff_of_true (h.stopRaised require r) trivial
        | returned value =>
          rw [proved_stop_iff h hmethod value]
          unfold keepsProved
          constructor
          · intro hbacked r' require' hr' hmethod' hnone
            rw [hr] at hr'
            cases hr'
            by_cases hproof : s.proof r.operation value = true
            · exact (sound_of_proof_iff hkept hr hproof).mp (hbacked hproof hnone)
            · exact backed_of_not_proof hproof
          · intro hkeeps hproof hnone
            exact (sound_of_proof_iff hkept hr hproof).mpr (hkeeps r require hr hmethod hnone)
      · rename_i hother
        cases hstep
        refine iff_of_true (h.frame rfl rfl ?_) ?_
        · show (if result = .raised then Reply.error else .ok r.method true) ≠ _
          split
          · intro heq
            cases heq
          · exact fun hok => hother true (Reply.ok.inj hok).1
        · cases result with
          | raised => trivial
          | returned value =>
            intro r' require' hr' hmethod'
            rw [hr] at hr'
            cases hr'
            exact absurd hmethod' (hother require')

/-- **The proof of a physical stop is sound.** After every prefix of a sequence of requests, adapter
calls and results, a barrier that reports a confirmed stop and a stop that is answered with a
required confirmation have a stop behind them that was executed since the latest start began and is
proved by what it did itself, exactly when every stop that returns is backed. -/
theorem proved_iff (actions : List Action) :
    (∀ k s, step.exec init (actions.take k) = some s → s.Proved) ↔
      Machine.Along step keepsProved init actions := by
  apply Machine.always_iff_along_of_step (J := Kept) kept_init
  · exact fun s a s' hkept hstep => kept_step hstep hkept
  · intro s a hstep
    cases a with
    | request now operation method => trivial
    | adapterCall call => trivial
    | finish result =>
      cases result with
      | raised => trivial
      | returned value =>
        intro r require hr hmethod
        simp only [step, hr, hmethod] at hstep
        cases hstep
  · exact fun s a s' hkept hproved hstep => proved_step_iff hstep hkept hproved
  · exact ⟨nofun, nofun⟩

/-- Without an operation, a stop swallows the exception of its only write and returns True. -/
def swallowed : List Action :=
  [.request 0 none .startStream, .finish (.returned none),
    .request 1 none (.stopStream true), .adapterCall (.write .raised),
    .finish (.returned (some true))]

theorem swallowed_failure_is_proof :
    ¬ ∀ k s, step.exec init (swallowed.take k) = some s → s.Proved := by
  intro hall
  have hend : (step.exec init swallowed).map (fun s => (s.lastStopConfirmed, s.stops))
      = some (true, [⟨[.write .raised], .returned (some true)⟩]) := by rfl
  obtain ⟨s, hs, hview⟩ := Option.map_eq_some_iff.mp hend
  obtain ⟨hconfirmed, hstops⟩ := Prod.mk.inj hview
  obtain ⟨stop, hmem, hsound⟩ := (hall 5 s hs).barrier hconfirmed
  rw [hstops, List.mem_singleton] at hmem
  cases hmem
  cases hsound.unfailed _ (List.mem_singleton_self _)

end SensorHost

end NexusN3.Plugins.StopProof
