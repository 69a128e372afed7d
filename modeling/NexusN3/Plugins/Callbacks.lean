import Mathlib.Logic.Function.Basic
import NexusN3.Lib.Unwinding

/-!
# Notify callbacks across the process boundary

A plugin subscribes in its host process. The host keeps the function under an id, the Core keeps the
id, and the transport client of the sensor keeps the callback that sends notifications with that id
back to the host. The three are written by different processes, before or after the call that may
fail.

* **`SensorProxy.setNotifyCallback`**, **`SensorProxy.unsetNotifyCallback`** — a call of the plugin,
  from the tables of the host to the adapter of the Core and back.
* **`SensorProxy.reaches`** — the host function that a notification of a characteristic reaches.
* **`Kept`** — what every step keeps.
* **`Agreeing`** — where the latest call is a subscription that returned, notifications reach its
  function.
* **`keepsAgreeing`** — the condition on one step.
* **`callbacks_agree_iff`** — the processes agree all along a sequence exactly when every step meets
  it.
-/

namespace NexusN3.Plugins.Callbacks

open Lib

variable {Uuid Fn : Type}

/-- The tables of `HostAdapterProxy`. The id `cb-n` is the number `n`. No two characteristics share
an id, and every id has been given out. -/
structure HostAdapterProxy (Uuid Fn : Type) where
  callbacks : Nat → Option Fn
  callbacksByUuid : Uuid → Option Nat
  nextCallbackId : Nat
  injective : ∀ u v id, callbacksByUuid u = some id → callbacksByUuid v = some id → u = v
  given : ∀ u id, callbacksByUuid u = some id → id < nextCallbackId

/-- A callback that the transport client holds: the host process and the id it sends notifications
to. A callback can be held whose subscription was not made. -/
structure Callback where
  host : Nat
  id : Nat
  subscribed : Bool
  deriving DecidableEq

/-- The latest call about a characteristic. -/
inductive Latest (Fn : Type) where
  | set (callback : Fn) (returned : Bool)
  | unset

/-- How `adapter.set_notify_callback` ends. -/
inductive SubscribeOutcome where
  | ok
  /-- it raises, and leaves nothing behind or a callback that is subscribed or is not -/
  | raised (left : Option Bool)
  /-- no adapter, transport client or loop is bound: it is not called -/
  | unbound
  deriving DecidableEq

/-- What an unsubscribe that raises leaves of the callback. -/
inductive Left where
  | unchanged
  | unsubscribed
  | removed
  deriving DecidableEq

/-- How `adapter.unset_notify_callback` ends. -/
inductive UnsubscribeOutcome where
  | ok
  | raised (left : Left)
  deriving DecidableEq

def Callback.leave (c : Callback) : Left → Option Callback
  | .unchanged => some c
  | .unsubscribed => some { c with subscribed := false }
  | .removed => none

/-- The proxy of a sensor in the Core, with the host process behind it. -/
structure SensorProxy (Uuid Fn : Type) where
  /-- the number of the host process -/
  generation : Nat
  host : HostAdapterProxy Uuid Fn
  /-- `_adapter_callbacks` -/
  adapterCallbacks : Nat → Option Uuid
  /-- the callbacks of the current transport client -/
  notifyCallbacks : Uuid → Option Callback
  /-- the latest call of this host process about a characteristic -/
  latest : Uuid → Option (Latest Fn)

inductive Action (Uuid Fn : Type) where
  | setNotifyCallback (uuid : Uuid) (callback : Fn) (outcome : SubscribeOutcome)
  | unsetNotifyCallback (uuid : Uuid) (outcome : UnsubscribeOutcome)
  /-- rediscovery gives the sensor a new transport client -/
  | setTransportClient
  | closeHost

/-- `HostAdapterProxy()`. -/
def HostAdapterProxy.new : HostAdapterProxy Uuid Fn where
  callbacks := fun _ => none
  callbacksByUuid := fun _ => none
  nextCallbackId := 1
  injective := nofun
  given := nofun

variable [DecidableEq Uuid]

namespace HostAdapterProxy

omit [DecidableEq Uuid] in
/-- The next id belongs to no characteristic yet. -/
theorem next_fresh (h : HostAdapterProxy Uuid Fn) (u : Uuid) :
    h.callbacksByUuid u ≠ some h.nextCallbackId :=
  fun hu => Nat.lt_irrefl _ (h.given u _ hu)

theorem injective_update (h : HostAdapterProxy Uuid Fn) (uuid u v : Uuid) (id : Nat)
    (hu : Function.update h.callbacksByUuid uuid (some h.nextCallbackId) u = some id)
    (hv : Function.update h.callbacksByUuid uuid (some h.nextCallbackId) v = some id) : u = v := by
  rw [Function.update_apply] at hu hv
  split at hu
  · rename_i huuid
    split at hv
    · rename_i hvuuid
      exact huuid.trans hvuuid.symm
    · exact absurd (hv.trans hu.symm) (h.next_fresh v)
  · split at hv
    · exact absurd (hu.trans hv.symm) (h.next_fresh u)
    · exact h.injective u v id hu hv

theorem given_update (h : HostAdapterProxy Uuid Fn) (uuid u : Uuid) (id : Nat)
    (hu : Function.update h.callbacksByUuid uuid (some h.nextCallbackId) u = some id) :
    id < h.nextCallbackId + 1 := by
  rw [Function.update_apply] at hu
  split at hu
  · cases hu
    exact Nat.lt_succ_self _
  · exact Nat.lt_succ_of_lt (h.given u id hu)

theorem of_update_none {table : Uuid → Option Nat} {uuid u : Uuid} {id : Nat}
    (h : Function.update table uuid none u = some id) : u ≠ uuid ∧ table u = some id := by
  rw [Function.update_apply] at h
  split at h
  · cases h
  · rename_i hne
    exact ⟨hne, h⟩

/-- The id of a characteristic, a new one where it has none, with the function under it. -/
def assign (h : HostAdapterProxy Uuid Fn) (uuid : Uuid) (callback : Fn) :
    Nat × HostAdapterProxy Uuid Fn :=
  match h.callbacksByUuid uuid with
  | some id => (id, { h with callbacks := Function.update h.callbacks id (some callback) })
  | none =>
    (h.nextCallbackId,
      { callbacks := Function.update h.callbacks h.nextCallbackId (some callback)
        callbacksByUuid := Function.update h.callbacksByUuid uuid (some h.nextCallbackId)
        nextCallbackId := h.nextCallbackId + 1
        injective := injective_update h uuid
        given := given_update h uuid })

/-- The end of `unset_notify_callback`. -/
def drop (h : HostAdapterProxy Uuid Fn) (uuid : Uuid) (id : Option Nat) :
    HostAdapterProxy Uuid Fn where
  callbacks :=
    match id with
    | some id => Function.update h.callbacks id none
    | none => h.callbacks
  callbacksByUuid := Function.update h.callbacksByUuid uuid none
  nextCallbackId := h.nextCallbackId
  injective := fun u v id hu hv => h.injective u v id (of_update_none hu).2 (of_update_none hv).2
  given := fun u id hu => h.given u id (of_update_none hu).2

/-- What `assign` does: the characteristic has an id with the function under it, and nothing else
changes. -/
structure Assigned (h : HostAdapterProxy Uuid Fn) (uuid : Uuid) (callback : Fn)
    (r : Nat × HostAdapterProxy Uuid Fn) : Prop where
  has : r.2.callbacksByUuid uuid = some r.1
  under : r.2.callbacks r.1 = some callback
  others : ∀ u, u ≠ uuid → r.2.callbacksByUuid u = h.callbacksByUuid u
  untouched : ∀ id, id ≠ r.1 → r.2.callbacks id = h.callbacks id
  old : ∀ id, h.callbacksByUuid uuid = some id → r.1 = id
  fresh : h.callbacksByUuid uuid = none → r.1 = h.nextCallbackId
  grows : h.nextCallbackId ≤ r.2.nextCallbackId

theorem assigned (h : HostAdapterProxy Uuid Fn) (uuid : Uuid) (callback : Fn) :
    h.Assigned uuid callback (h.assign uuid callback) := by
  unfold assign
  split
  · rename_i id hid
    refine ⟨hid, Function.update_self _ _ _, fun _ _ => rfl, ?_, ?_, ?_, Nat.le_refl _⟩
    · exact fun i hi => Function.update_of_ne hi _ _
    · exact fun i hi => Option.some.inj (hid.symm.trans hi)
    · exact fun hnone => absurd (hid.symm.trans hnone) nofun
  · rename_i hnone
    refine ⟨Function.update_self _ _ _, Function.update_self _ _ _, ?_, ?_, ?_, fun _ => rfl,
      Nat.le_succ _⟩
    · exact fun u hu => Function.update_of_ne hu _ _
    · exact fun i hi => Function.update_of_ne hi _ _
    · exact fun i hi => absurd (hnone.symm.trans hi) nofun

end HostAdapterProxy

namespace SensorProxy

def hold (s : SensorProxy Uuid Fn) (uuid : Uuid) (callback : Option Callback) :
    SensorProxy Uuid Fn :=
  { s with notifyCallbacks := Function.update s.notifyCallbacks uuid callback }

/-- `self._adapter_callbacks[callback_id] = notify_uuid`. -/
def record (s : SensorProxy Uuid Fn) (id : Nat) (uuid : Uuid) : SensorProxy Uuid Fn :=
  { s with adapterCallbacks := Function.update s.adapterCallbacks id (some uuid) }

/-- `_register_host_callback`, and whether it returns. -/
def registerHostCallback (s : SensorProxy Uuid Fn) (id : Nat) (uuid : Uuid)
    (outcome : SubscribeOutcome) : SensorProxy Uuid Fn × Bool :=
  if outcome = .unbound then (s, false)
  else if (s.adapterCallbacks id).isSome then (s, true)
  else
    -- the id is recorded before the adapter is called
    let s := s.record id uuid
    match outcome with
    | .ok => (s.hold uuid (some ⟨s.generation, id, true⟩), true)
    | .raised (some subscribed) => (s.hold uuid (some ⟨s.generation, id, subscribed⟩), false)
    | _ => (s, false)

/-- `_unregister_host_callback`, and whether it returns. -/
def unregisterHostCallback (s : SensorProxy Uuid Fn) (id : Option Nat) (uuid : Uuid) :
    UnsubscribeOutcome → SensorProxy Uuid Fn × Bool
  | .ok =>
    ({ s.hold uuid none with
        adapterCallbacks := fun i =>
          if id = some i ∨ s.adapterCallbacks i = some uuid then none else s.adapterCallbacks i },
      true)
  | .raised left => (s.hold uuid ((s.notifyCallbacks uuid).bind fun c => c.leave left), false)

/-- `set_notify_callback` of the host. -/
def setNotifyCallback (s : SensorProxy Uuid Fn) (uuid : Uuid) (callback : Fn)
    (outcome : SubscribeOutcome) : SensorProxy Uuid Fn :=
  let (id, host) := s.host.assign uuid callback
  let (s', returned) := { s with host := host }.registerHostCallback id uuid outcome
  { s' with latest := Function.update s.latest uuid (some (.set callback returned)) }

/-- `unset_notify_callback` of the host. -/
def unsetNotifyCallback (s : SensorProxy Uuid Fn) (uuid : Uuid) (outcome : UnsubscribeOutcome) :
    SensorProxy Uuid Fn :=
  let id := s.host.callbacksByUuid uuid
  let (s', returned) := s.unregisterHostCallback id uuid outcome
  { s' with
    host := if returned then s.host.drop uuid id else s.host
    latest := Function.update s.latest uuid (some .unset) }

def step : Machine (SensorProxy Uuid Fn) (Action Uuid Fn)
  | s, .setNotifyCallback uuid callback outcome => some (s.setNotifyCallback uuid callback outcome)
  | s, .unsetNotifyCallback uuid outcome => some (s.unsetNotifyCallback uuid outcome)
  | s, .setTransportClient => some { s with notifyCallbacks := fun _ => none }
  | s, .closeHost =>
    -- the next request starts a new process; the transport client keeps what it holds
    some { s with
      generation := s.generation + 1
      host := .new
      adapterCallbacks := fun _ => none
      latest := fun _ => none }

def init : SensorProxy Uuid Fn where
  generation := 0
  host := .new
  adapterCallbacks := fun _ => none
  notifyCallbacks := fun _ => none
  latest := fun _ => none

/-- The host function that a notification of the characteristic reaches: `_notify` sends it to the
process that subscribed, and `_handle_notification` looks its id up. -/
def reaches (s : SensorProxy Uuid Fn) (uuid : Uuid) : Option Fn :=
  match s.notifyCallbacks uuid with
  | none => none
  | some c => if c.subscribed ∧ c.host = s.generation then s.host.callbacks c.id else none

/-- Where the latest call is a subscription that returned, notifications reach its function. -/
def Agreeing (s : SensorProxy Uuid Fn) : Prop :=
  ∀ uuid callback, s.latest uuid = some (.set callback true) → s.reaches uuid = some callback

/-- The condition on one step. A subscription whose id the Core has recorded finds its callback
subscribed, and the transport client is replaced only when no subscription stands. -/
def keepsAgreeing (s : SensorProxy Uuid Fn) : Action Uuid Fn → Prop
  | .setNotifyCallback uuid _ outcome => outcome ≠ .unbound → ∀ id,
      s.host.callbacksByUuid uuid = some id → (s.adapterCallbacks id).isSome = true →
      s.notifyCallbacks uuid = some ⟨s.generation, id, true⟩
  | .setTransportClient => ∀ uuid callback, s.latest uuid ≠ some (.set callback true)
  | _ => True

/-- What every step keeps. -/
structure Kept (s : SensorProxy Uuid Fn) : Prop where
  /-- a callback of this process is the one under the id of its characteristic -/
  owned : ∀ uuid c, s.notifyCallbacks uuid = some c → c.host = s.generation →
    s.host.callbacksByUuid uuid = some c.id
  past : ∀ uuid c, s.notifyCallbacks uuid = some c → c.host ≤ s.generation
  recorded : ∀ id, (s.adapterCallbacks id).isSome = true → id < s.host.nextCallbackId

omit [DecidableEq Uuid] in
theorem kept_init : (init : SensorProxy Uuid Fn).Kept :=
  ⟨nofun, nofun, nofun⟩

/-- The function of a characteristic goes under its id. -/
theorem Kept.assign {s : SensorProxy Uuid Fn} (h : s.Kept) (uuid : Uuid) (callback : Fn) :
    ({ s with host := (s.host.assign uuid callback).2 } : SensorProxy Uuid Fn).Kept := by
  have hassigned := s.host.assigned uuid callback
  refine ⟨?_, h.past, fun id hid => Nat.lt_of_lt_of_le (h.recorded id hid) hassigned.grows⟩
  intro u c hc hhost
  have hold := h.owned u c hc hhost
  by_cases hu : u = uuid
  · subst hu
    show (s.host.assign u callback).2.callbacksByUuid u = some c.id
    rw [hassigned.has, hassigned.old c.id hold]
  · show (s.host.assign uuid callback).2.callbacksByUuid u = some c.id
    rw [hassigned.others u hu, hold]

/-- The transport client holds another callback for a characteristic. -/
theorem Kept.hold {s : SensorProxy Uuid Fn} (h : s.Kept) (uuid : Uuid) {o : Option Callback}
    (hown : ∀ c, o = some c → c.host ≤ s.generation ∧
      (c.host = s.generation → s.host.callbacksByUuid uuid = some c.id)) :
    (s.hold uuid o).Kept := by
  refine ⟨?_, ?_, h.recorded⟩
  · intro u c hc hhost
    simp only [SensorProxy.hold, Function.update_apply] at hc
    split at hc
    · rename_i hu
      rw [hu]
      exact (hown c hc).2 hhost
    · exact h.owned u c hc hhost
  · intro u c hc
    simp only [SensorProxy.hold, Function.update_apply] at hc
    split at hc
    · exact (hown c hc).1
    · exact h.past u c hc

theorem Kept.registerHostCallback {s : SensorProxy Uuid Fn} (h : s.Kept) {id : Nat} {uuid : Uuid}
    (hid : s.host.callbacksByUuid uuid = some id) (outcome : SubscribeOutcome) :
    (s.registerHostCallback id uuid outcome).1.Kept := by
  unfold SensorProxy.registerHostCallback
  split
  · exact h
  · split
    · exact h
    · have hrecorded : (s.record id uuid).Kept := by
        refine ⟨h.owned, h.past, ?_⟩
        intro i hi
        simp only [record, Function.update_apply] at hi
        split at hi
        · rename_i heq
          rw [heq]
          exact s.host.given uuid id hid
        · exact h.recorded i hi
      have hown (subscribed : Bool) (c : Callback)
          (hc : some (Callback.mk s.generation id subscribed) = some c) :
          c.host ≤ s.generation ∧ (c.host = s.generation →
            s.host.callbacksByUuid uuid = some c.id) := by
        cases hc
        exact ⟨Nat.le_refl _, fun _ => hid⟩
      dsimp only
      split
      · exact hrecorded.hold uuid (hown true)
      · exact hrecorded.hold uuid (hown _)
      · exact hrecorded

omit [DecidableEq Uuid] in
theorem Kept.latest {s : SensorProxy Uuid Fn} (h : s.Kept) (latest : Uuid → Option (Latest Fn)) :
    ({ s with latest := latest } : SensorProxy Uuid Fn).Kept :=
  ⟨h.owned, h.past, h.recorded⟩

theorem Kept.unsetNotifyCallback {s : SensorProxy Uuid Fn} (h : s.Kept) (uuid : Uuid)
    (outcome : UnsubscribeOutcome) : (s.unsetNotifyCallback uuid outcome).Kept := by
  cases outcome with
  | ok =>
    -- the id goes together with the callback
    refine ⟨?_, ?_, ?_⟩
    · intro u c hc hhost
      simp only [SensorProxy.unsetNotifyCallback, unregisterHostCallback, SensorProxy.hold,
        Function.update_apply] at hc
      split at hc
      · cases hc
      · rename_i hu
        show Function.update s.host.callbacksByUuid uuid none u = some c.id
        rw [Function.update_of_ne hu]
        exact h.owned u c hc hhost
    · exact (h.hold uuid (o := none) nofun).past
    · intro i hi
      apply h.recorded i
      simp only [SensorProxy.unsetNotifyCallback, unregisterHostCallback] at hi
      split at hi
      · cases hi
      · exact hi
  | raised left =>
    apply Kept.latest
    refine h.hold uuid ?_
    intro c hc
    obtain ⟨c₀, hc₀, hleft⟩ := Option.bind_eq_some_iff.mp hc
    have hsame : c.host = c₀.host ∧ c.id = c₀.id := by
      cases left <;> cases hleft <;> exact ⟨rfl, rfl⟩
    rw [hsame.1, hsame.2]
    exact ⟨h.past uuid c₀ hc₀, h.owned uuid c₀ hc₀⟩

theorem kept_step {s s' : SensorProxy Uuid Fn} {a : Action Uuid Fn} (hstep : step s a = some s')
    (h : s.Kept) : s'.Kept := by
  cases a with
  | setNotifyCallback uuid callback outcome =>
    cases hstep
    have hassigned := s.host.assigned uuid callback
    exact ((h.assign uuid callback).registerHostCallback hassigned.has outcome).latest _
  | unsetNotifyCallback uuid outcome =>
    cases hstep
    exact h.unsetNotifyCallback uuid outcome
  | setTransportClient =>
    cases hstep
    exact ⟨nofun, nofun, h.recorded⟩
  | closeHost =>
    cases hstep
    refine ⟨?_, ?_, nofun⟩
    · intro u c hc hhost
      -- what the client holds is of an earlier process
      have hle := h.past u c hc
      exact absurd hhost (Nat.ne_of_lt (Nat.lt_succ_of_le hle))
    · exact fun u c hc => Nat.le_succ_of_le (h.past u c hc)

/-! ## The agreement, step by step -/

omit [DecidableEq Uuid] in
theorem reaches_eq_some_iff {s : SensorProxy Uuid Fn} {uuid : Uuid} {callback : Fn} :
    s.reaches uuid = some callback ↔ ∃ id, s.notifyCallbacks uuid = some ⟨s.generation, id, true⟩ ∧
      s.host.callbacks id = some callback := by
  unfold reaches
  constructor
  · intro h
    split at h
    · cases h
    · rename_i c hc
      split at h
      · rename_i hlive
        obtain ⟨host, id, subscribed⟩ := c
        obtain ⟨rfl, rfl⟩ := hlive
        exact ⟨id, hc, h⟩
      · cases h
  · rintro ⟨id, hc, hid⟩
    rw [hc]
    simpa using hid

omit [DecidableEq Uuid] in
/-- Notifications of the other characteristics reach what they reached. -/
theorem reaches_of_ne {s s' : SensorProxy Uuid Fn} (h : s.Kept) {u : Uuid}
    (hgeneration : s'.generation = s.generation)
    (hhold : s'.notifyCallbacks u = s.notifyCallbacks u)
    (hunder : ∀ id, s.host.callbacksByUuid u = some id →
      s'.host.callbacks id = s.host.callbacks id) {callback : Fn}
    (hreaches : s.reaches u = some callback) : s'.reaches u = some callback := by
  obtain ⟨id, hc, hid⟩ := reaches_eq_some_iff.mp hreaches
  refine reaches_eq_some_iff.mpr ⟨id, ?_, ?_⟩
  · rw [hhold, hgeneration, hc]
  · rw [hunder id (h.owned u _ hc rfl), hid]

/-- What `_register_host_callback` does: nothing to the other characteristics, and to this one
nothing or a subscription, unless it raises. -/
structure Registered (s : SensorProxy Uuid Fn) (id : Nat) (uuid : Uuid) (outcome : SubscribeOutcome)
    (r : SensorProxy Uuid Fn × Bool) : Prop where
  host : r.1.host = s.host
  generation : r.1.generation = s.generation
  others : ∀ u, u ≠ uuid → r.1.notifyCallbacks u = s.notifyCallbacks u
  skips : outcome ≠ .unbound → (s.adapterCallbacks id).isSome = true →
    r.2 = true ∧ r.1.notifyCallbacks uuid = s.notifyCallbacks uuid
  subscribes : outcome = .unbound ∨ ¬ (s.adapterCallbacks id).isSome = true → r.2 = true →
    r.1.notifyCallbacks uuid = some ⟨s.generation, id, true⟩

theorem registered (s : SensorProxy Uuid Fn) (id : Nat) (uuid : Uuid) (outcome : SubscribeOutcome) :
    s.Registered id uuid outcome (s.registerHostCallback id uuid outcome) := by
  unfold registerHostCallback
  split
  · rename_i hunbound
    exact ⟨rfl, rfl, fun _ _ => rfl, fun hne => absurd hunbound hne, fun _ => nofun⟩
  · rename_i hbound
    split
    · rename_i hrecorded
      refine ⟨rfl, rfl, fun _ _ => rfl, fun _ _ => ⟨rfl, rfl⟩, ?_⟩
      exact fun hnot => absurd hrecorded (hnot.resolve_left hbound)
    · rename_i hnew
      have hskips {r : SensorProxy Uuid Fn × Bool} : outcome ≠ .unbound →
          (s.adapterCallbacks id).isSome = true →
          r.2 = true ∧ r.1.notifyCallbacks uuid = s.notifyCallbacks uuid :=
        fun _ hrecorded => absurd hrecorded hnew
      dsimp only
      split
      · refine ⟨rfl, rfl, fun u hu => ?_, hskips, fun _ _ => ?_⟩
        · exact Function.update_of_ne hu _ _
        · exact Function.update_self _ _ _
      · exact ⟨rfl, rfl, fun u hu => Function.update_of_ne hu _ _, hskips, fun _ => nofun⟩
      · exact ⟨rfl, rfl, fun _ _ => rfl, hskips, fun _ => nofun⟩

/-- A subscription keeps the agreement exactly when one that the Core skips finds its callback
subscribed. -/
theorem agreeing_set_iff {s : SensorProxy Uuid Fn} (hkept : s.Kept) (h : s.Agreeing) (uuid : Uuid)
    (callback : Fn) (outcome : SubscribeOutcome) :
    (s.setNotifyCallback uuid callback outcome).Agreeing ↔
      (outcome ≠ .unbound → ∀ id, s.host.callbacksByUuid uuid = some id →
        (s.adapterCallbacks id).isSome = true →
        s.notifyCallbacks uuid = some ⟨s.generation, id, true⟩) := by
  have hassigned := s.host.assigned uuid callback
  generalize hassign : s.host.assign uuid callback = a at hassigned
  have hregistered := ({ s with host := a.2 } : SensorProxy Uuid Fn).registered a.1 uuid outcome
  generalize hr : ({ s with host := a.2 } : SensorProxy Uuid Fn).registerHostCallback a.1 uuid
    outcome = r at hregistered
  generalize hs' : s.setNotifyCallback uuid callback outcome = s'
  have heq : s' =
      { r.1 with latest := Function.update s.latest uuid (some (.set callback r.2)) } := by
    rw [← hs', ← hr, ← hassign]
    rfl
  have hhost : s'.host = a.2 := by rw [heq]; exact hregistered.host
  have hgeneration : s'.generation = s.generation := by rw [heq]; exact hregistered.generation
  have hhold : s'.notifyCallbacks = r.1.notifyCallbacks := by rw [heq]
  have hlatest : s'.latest = Function.update s.latest uuid (some (.set callback r.2)) := by rw [heq]
  -- the other characteristics have other ids
  have hothers (u : Uuid) (hu : u ≠ uuid) (f : Fn) (hf : s.latest u = some (.set f true)) :
      s'.reaches u = some f := by
    refine reaches_of_ne hkept hgeneration ?_ ?_ (h u f hf)
    · rw [hhold]
      exact hregistered.others u hu
    · intro id hid
      rw [hhost]
      apply hassigned.untouched
      intro hsame
      subst hsame
      have hid' : a.2.callbacksByUuid u = some a.1 := by rw [hassigned.others u hu, hid]
      exact hu (a.2.injective u uuid a.1 hid' hassigned.has)
  have hkept' : s'.Kept := by
    rw [← hs']
    exact kept_step (a := .setNotifyCallback uuid callback outcome) rfl hkept
  -- the agreement about this characteristic
  have hagree : s'.Agreeing ↔ (r.2 = true →
      r.1.notifyCallbacks uuid = some ⟨s.generation, a.1, true⟩) := by
    constructor
    · intro hagreeing hreturned
      have hreaches := hagreeing uuid callback (by rw [hlatest, Function.update_self, hreturned])
      obtain ⟨id, hc, -⟩ := reaches_eq_some_iff.mp hreaches
      have hid := hkept'.owned uuid _ hc rfl
      rw [hhost, hassigned.has] at hid
      cases hid
      rw [← hhold, hc, hgeneration]
    · intro hsubscribed u f hf
      by_cases hu : u = uuid
      · subst hu
        rw [hlatest, Function.update_self] at hf
        obtain ⟨rfl, hreturned⟩ : callback = f ∧ r.2 = true := by simpa using hf
        refine reaches_eq_some_iff.mpr ⟨a.1, ?_, ?_⟩
        · rw [hhold, hgeneration]
          exact hsubscribed hreturned
        · rw [hhost]
          exact hassigned.under
      · rw [hlatest, Function.update_of_ne hu] at hf
        exact hothers u hu f hf
  rw [hagree]
  constructor
  · intro hsubscribed hbound id hid hrecorded
    have hsame := hassigned.old id hid
    subst hsame
    obtain ⟨hreturned, hunchanged⟩ := hregistered.skips hbound hrecorded
    rw [← hsubscribed hreturned]
    exact hunchanged.symm
  · intro hfound hreturned
    by_cases hskip : outcome ≠ .unbound ∧ (s.adapterCallbacks a.1).isSome = true
    · obtain ⟨-, hunchanged⟩ := hregistered.skips hskip.1 hskip.2
      rw [hunchanged]
      cases hold : s.host.callbacksByUuid uuid with
      | some id =>
        have hsame := hassigned.old id hold
        subst hsame
        exact hfound hskip.1 a.1 hold hskip.2
      | none =>
        -- a new id has not been recorded
        have hlt := hkept.recorded a.1 hskip.2
        rw [hassigned.fresh hold] at hlt
        exact absurd hlt (Nat.lt_irrefl _)
    · refine hregistered.subscribes ?_ hreturned
      rw [not_and_or] at hskip
      exact hskip.imp_left not_not.mp

/-- An unsubscribe keeps the agreement, however it ends. -/
theorem Agreeing.unset {s : SensorProxy Uuid Fn} (hkept : s.Kept) (h : s.Agreeing) (uuid : Uuid)
    (outcome : UnsubscribeOutcome) : (s.unsetNotifyCallback uuid outcome).Agreeing := by
  intro u f hf
  have hlatest : (s.unsetNotifyCallback uuid outcome).latest
      = Function.update s.latest uuid (some .unset) := by cases outcome <;> rfl
  rw [hlatest] at hf
  by_cases hu : u = uuid
  · subst hu
    rw [Function.update_self] at hf
    cases hf
  · rw [Function.update_of_ne hu] at hf
    refine reaches_of_ne hkept ?_ ?_ ?_ (h u f hf)
    · cases outcome <;> rfl
    · cases outcome <;> exact Function.update_of_ne hu _ _
    · intro id hid
      cases outcome with
      | raised left => rfl
      | ok =>
        show (s.host.drop uuid (s.host.callbacksByUuid uuid)).callbacks id = _
        cases hid' : s.host.callbacksByUuid uuid with
        | none => rfl
        | some id' =>
          refine Function.update_of_ne ?_ _ _
          intro hsame
          subst hsame
          exact hu (s.host.injective u uuid id hid hid')

theorem agreeing_step_iff {s s' : SensorProxy Uuid Fn} {a : Action Uuid Fn}
    (hstep : step s a = some s') (hkept : s.Kept) (h : s.Agreeing) :
    s'.Agreeing ↔ s.keepsAgreeing a := by
  cases a with
  | setNotifyCallback uuid callback outcome =>
    cases hstep
    exact agreeing_set_iff hkept h uuid callback outcome
  | unsetNotifyCallback uuid outcome =>
    cases hstep
    exact iff_of_true (h.unset hkept uuid outcome) trivial
  | setTransportClient =>
    cases hstep
    constructor
    · intro hagreeing uuid callback hlatest
      -- the new client holds nothing
      have hreaches := hagreeing uuid callback hlatest
      cases hreaches
    · intro hnone uuid callback hlatest
      exact absurd hlatest (hnone uuid callback)
  | closeHost =>
    cases hstep
    exact iff_of_true nofun trivial

/-! ## Every sequence -/

/-- The processes agree after every step of a sequence exactly when every step meets the
condition. -/
theorem callbacks_agree_iff (actions : List (Action Uuid Fn)) :
    (∀ k s, Machine.exec step (init : SensorProxy Uuid Fn) (actions.take k) = some s → s.Agreeing)
      ↔ Machine.Along step keepsAgreeing (init : SensorProxy Uuid Fn) actions := by
  apply Machine.always_iff_along_of_step (J := Kept) kept_init
  · exact fun s a s' hs hstep => kept_step hstep hs
  · intro s a hstep
    cases a <;> cases hstep
  · exact fun s a s' hs hagreeing hstep => agreeing_step_iff hstep hs hagreeing
  · exact nofun

/-- A subscription fails and is made again. -/
def retried : List (Action Nat String) :=
  [.setNotifyCallback 0 "on_data" (.raised none), .setNotifyCallback 0 "on_data" .ok]

theorem retry_not_performed :
    ¬ ∀ k s, Machine.exec step (init : SensorProxy Nat String) (retried.take k) = some s →
      s.Agreeing := by
  intro hall
  have hend : (Machine.exec step (init : SensorProxy Nat String) retried).map
      (fun s => (s.latest 0, s.reaches 0)) = some (some (.set "on_data" true), none) := by rfl
  obtain ⟨s, hs, hview⟩ := Option.map_eq_some_iff.mp hend
  obtain ⟨hlatest, hreaches⟩ := Prod.mk.inj hview
  have hagree := hall 2 s hs 0 "on_data" hlatest
  rw [hreaches] at hagree
  cases hagree

end SensorProxy

end NexusN3.Plugins.Callbacks
