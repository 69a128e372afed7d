import NexusN3.Lib.Dict
import NexusN3.Lib.Unwinding

/-!
# Whose stream frames they are

A stream frame names its sensor by a small id that the gateway gave it when it connected. The
adapter keeps that id in the transport client of the sensor and looks for the first client of
its table that carries the id of a frame. The gateway may give the id of a sensor that is gone
to the next one.

* **`Adapter`** — the table of transport clients beside the gateway's own association of
  addresses with ids.
* **`deliver`** — where a frame with a given id goes.
* **`Attributed`** — a frame goes to the client of the sensor that holds the id now, while that
  client is connected, and to nobody else.
* **`Clean`** — no client that would be fed holds an id its sensor no longer has.
* **`orderly`** — the condition on one step. From a clean state exactly the orderly steps lead
  to a clean state (`clean_step_iff`).
* **`attributed_of_orderly`** — a run of orderly steps attributes every frame rightly.
-/

namespace NexusN3.Gateway.Ble

open Lib

universe u

/-! ## Transport clients -/

/-- `GatewayBLETransportClient`, without what only the timeouts read. -/
structure TransportClient (κ : Type u) where
  address : String
  /-- a `disconnected_callback` is set -/
  disconnectedCallback : Bool
  isConnected : Bool := false
  sensorId : Option Int := none
  binaryNotifyUuid : Option String := none
  suppressDisconnectEvent : Bool := false
  notifyCallbacks : Dict String κ := Dict.empty
  notifyIndications : Dict String Bool := Dict.empty
  retainForRecovery : Bool := false

namespace TransportClient

variable {κ : Type u}

/-- The callback that `_handle_stream_frame` calls for this client. -/
def binaryCallback (c : TransportClient κ) : Option κ :=
  match c.binaryNotifyUuid with
  | none => none
  | some uuid => if uuid = "" then none else c.notifyCallbacks.get? uuid

/-- A frame could reach this client. -/
def fed (c : TransportClient κ) : Bool :=
  c.sensorId.isSome && c.binaryCallback.isSome

/-- `notify_callbacks.clear()` and its companions. -/
def clearNotify (c : TransportClient κ) : TransportClient κ :=
  { c with
    binaryNotifyUuid := none
    notifyCallbacks := Dict.empty
    notifyIndications := Dict.empty }

/-- The end of `_connect_sync`. -/
def connected (sensorId : Int) (c : TransportClient κ) : TransportClient κ :=
  { c with sensorId := some sensorId, isConnected := true }

/-- The end of `_disconnect_sync`. -/
def disconnected (c : TransportClient κ) : TransportClient κ :=
  let c := { c with isConnected := false, sensorId := none, suppressDisconnectEvent := false }
  if c.retainForRecovery then c else c.clearNotify

/-- What `_handle_session_reset` does to one client. -/
def retired (c : TransportClient κ) : TransportClient κ :=
  let c := { c with isConnected := false, sensorId := none }
  if c.retainForRecovery then c else c.clearNotify

/-- `_handle_session_reset` tells the owner of this client. -/
def announcesReset (c : TransportClient κ) : Bool :=
  c.isConnected && !c.suppressDisconnectEvent && c.disconnectedCallback

/-- `set_notify_callback` up to its request to the gateway. -/
def subscribed (uuid : String) (callback : κ) (indicate : Bool) (c : TransportClient κ) :
    TransportClient κ :=
  { c with
    notifyCallbacks := c.notifyCallbacks.set uuid callback
    notifyIndications := c.notifyIndications.set uuid indicate
    binaryNotifyUuid :=
      if !indicate && c.notifyCallbacks.entries.isEmpty then some uuid else c.binaryNotifyUuid }

/-- `unset_notify_callback` after the gateway has answered. -/
def unsubscribed (uuid : String) (c : TransportClient κ) : TransportClient κ :=
  { c with
    notifyCallbacks := c.notifyCallbacks.erase uuid
    notifyIndications := c.notifyIndications.erase uuid
    binaryNotifyUuid := if c.binaryNotifyUuid = some uuid then none else c.binaryNotifyUuid }

/-- `release_transport_client`. -/
def released (c : TransportClient κ) : TransportClient κ :=
  { c.clearNotify with sensorId := none, disconnectedCallback := false }

@[simp] theorem connected_address (i : Int) (c : TransportClient κ) :
    (c.connected i).address = c.address := rfl

@[simp] theorem disconnected_address (c : TransportClient κ) :
    c.disconnected.address = c.address := by
  unfold disconnected
  dsimp only
  split <;> rfl

@[simp] theorem disconnected_sensorId (c : TransportClient κ) :
    c.disconnected.sensorId = none := by
  unfold disconnected
  dsimp only
  split <;> rfl

@[simp] theorem retired_address (c : TransportClient κ) : c.retired.address = c.address := by
  unfold retired
  dsimp only
  split <;> rfl

@[simp] theorem retired_sensorId (c : TransportClient κ) : c.retired.sensorId = none := by
  unfold retired
  dsimp only
  split <;> rfl

@[simp] theorem released_address (c : TransportClient κ) : c.released.address = c.address := rfl

@[simp] theorem connected_binaryCallback (i : Int) (c : TransportClient κ) :
    (c.connected i).binaryCallback = c.binaryCallback := rfl

/-- Taking one subscription away starts no other. -/
theorem unsubscribed_binaryCallback {uuid : String} {c : TransportClient κ}
    (h : (c.unsubscribed uuid).binaryCallback.isSome) : c.binaryCallback.isSome := by
  unfold binaryCallback unsubscribed at h
  unfold binaryCallback
  dsimp only at h
  by_cases hsame : c.binaryNotifyUuid = some uuid
  · rw [if_pos hsame] at h
    exact absurd h Bool.false_ne_true
  · rw [if_neg hsame] at h
    cases hbinary : c.binaryNotifyUuid with
    | none =>
      rw [hbinary] at h
      exact absurd h Bool.false_ne_true
    | some other =>
      have hne : other ≠ uuid := fun heq => hsame (heq ▸ hbinary)
      simp only [hbinary] at h ⊢
      split at h
      · exact absurd h Bool.false_ne_true
      · rename_i hfull
        rwa [if_neg hfull, ← Dict.get?_erase_ne _ hne]

end TransportClient

/-! ## The adapter and the gateway -/

structure Adapter (κ : Type u) where
  /-- every client made so far; a client is known by its place here -/
  clients : List (TransportClient κ) := []
  transportClients : Dict String Nat := Dict.empty
  disconnectedAddresses : List String := []
  /-- the gateway's side: the connected sensors and their ids -/
  links : Dict String Int := Dict.empty
  /-- connect requests that the gateway has answered and `_connect_sync` has not yet recorded -/
  replies : List (Nat × Int) := []

inductive Action (κ : Type u) where
  | createTransportClient (address : String) (disconnectedCallback : Bool)
  /-- the gateway has connected the sensor of this client -/
  | sensorConnected (client : Nat) (sensorId : Int)
  | connectFinished (n : Nat)
  /-- the caller's operation was cancelled before the answer was recorded -/
  | connectAbandoned (n : Nat)
  | sensorDisconnected (address : String)
  | disconnectStarted (client : Nat)
  | disconnectFinished (client : Nat)
  | disconnectRaised (client : Nat)
  /-- the handler got through this many clients: all of them, or up to a `disconnected_callback`
  that raised -/
  | sessionReset (handled : Nat)
  | streamFrame (sensorId : Int)
  | setNotifyCallback (client : Nat) (uuid : String) (callback : κ) (indicate : Bool)
  | unsetNotifyCallback (client : Nat) (uuid : String)
  | setRetainForRecovery (client : Nat) (retain : Bool)
  | releaseTransportClient (client : Nat)

namespace Adapter

variable {κ : Type u} (norm : String → String) (s : Adapter κ)

def updateClient (i : Nat) (f : TransportClient κ → TransportClient κ) : Adapter κ :=
  { s with clients := s.clients.modify i f }

/-- `if self.transport_clients.get(address) is client: self.transport_clients.pop(address)`. -/
def popClient (address : String) (client : Nat) : Adapter κ :=
  if s.transportClients.get? address = some client then
    { s with transportClients := s.transportClients.erase address }
  else s

/-- The client of the table under this key. -/
def holder (key : String) : Option (TransportClient κ) :=
  (s.transportClients.get? key).bind fun i => s.clients[i]?

/-- `_handle_stream_frame`: the client a frame goes to, and the callback it is given to. -/
def deliver (sensorId : Int) : Option (Nat × κ) :=
  let carries := fun i : Nat => decide (s.clients[i]?.bind (·.sensorId) = some sensorId)
  (s.transportClients.values.find? carries).bind fun client =>
    s.clients[client]?.bind fun c => c.binaryCallback.map fun callback => (client, callback)

/-- The gateway gives no id to two connected sensors. -/
def idFree (address : String) (sensorId : Int) : Bool :=
  s.links.entries.all fun e => decide (e.2 = sensorId → e.1 = address)

def sensorDisconnected (address : String) : Adapter κ :=
  let s := { s with links := s.links.erase address }
  if address = "" then s
  else
    let s := { s with disconnectedAddresses := address :: s.disconnectedAddresses }
    match s.transportClients.get? address with
    | none => s
    | some i => s.updateClient i fun c => { c with isConnected := false }

def sessionReset (handled : Nat) : Adapter κ :=
  let reached := s.transportClients.values.take handled
  { s with
    clients := s.clients.mapIdx fun i c => if i ∈ reached then c.retired else c
    disconnectedAddresses := s.transportClients.keys.take handled ++ s.disconnectedAddresses
    links := Dict.empty }

/-- A handler that stops early stops in a callback. -/
def resetStops (handled : Nat) : Bool :=
  decide (handled = s.transportClients.values.length) ||
    match s.transportClients.values[handled - 1]? with
    | none => false
    | some i => decide (0 < handled) && (s.clients[i]?.map (·.announcesReset)).getD false

end Adapter

open Adapter in
/-- One step of the adapter, or of the gateway beside it. `norm` is `address.strip().upper()`. -/
def step {κ : Type u} (norm : String → String) : Machine (Adapter κ) (Action κ)
  | s, .createTransportClient address disconnectedCallback =>
    some { s with
      clients := s.clients ++ [{ address, disconnectedCallback }]
      transportClients := s.transportClients.set (norm address) s.clients.length }
  | s, .sensorConnected client sensorId =>
    s.clients[client]?.bind fun c =>
      if s.idFree (norm c.address) sensorId then
        some { s with
          links := s.links.set (norm c.address) sensorId
          disconnectedAddresses := s.disconnectedAddresses.filter (· ≠ norm c.address)
          replies := s.replies ++ [(client, sensorId)] }
      else none
  | s, .connectFinished n =>
    s.replies[n]?.bind fun (client, sensorId) =>
      s.clients[client]?.map fun c =>
        let s := s.updateClient client (·.connected sensorId)
        { s with
          transportClients := s.transportClients.set (norm c.address) client
          replies := s.replies.eraseIdx n }
  | s, .connectAbandoned n => some { s with replies := s.replies.eraseIdx n }
  | s, .sensorDisconnected address => some (s.sensorDisconnected (norm address))
  | s, .disconnectStarted client =>
    some (s.updateClient client fun c => { c with suppressDisconnectEvent := true })
  | s, .disconnectFinished client =>
    s.clients[client]?.map fun c =>
      (s.updateClient client (·.disconnected)).popClient (norm c.address) client
  | s, .disconnectRaised client =>
    some (s.updateClient client fun c => { c with suppressDisconnectEvent := false })
  | s, .sessionReset handled => if s.resetStops handled then some (s.sessionReset handled) else none
  | s, .streamFrame _ => some s
  | s, .setNotifyCallback client uuid callback indicate =>
    some (s.updateClient client (·.subscribed uuid callback indicate))
  | s, .unsetNotifyCallback client uuid => some (s.updateClient client (·.unsubscribed uuid))
  | s, .setRetainForRecovery client retain =>
    some (s.updateClient client fun c => { c with retainForRecovery := retain })
  | s, .releaseTransportClient client =>
    s.clients[client]?.map fun c =>
      (s.updateClient client (·.released)).popClient (norm c.address) client

/-! ## Right attribution -/

section Attribution

variable {κ : Type u} (norm : String → String)

/-- A client that a frame could reach holds the id its sensor has now, and is connected. -/
def TransportClient.Linked (links : Dict String Int) (c : TransportClient κ) : Prop :=
  ∀ i ∈ c.sensorId, c.binaryCallback.isSome = true →
    links.get? (norm c.address) = some i ∧ c.isConnected = true

namespace Adapter

/-- Whatever id the next frame has, it goes to the client whose sensor holds that id now, while
that client is connected, and otherwise to no callback. -/
def Attributed (s : Adapter κ) : Prop :=
  ∀ i client callback, s.deliver i = some (client, callback) →
    ∃ c, s.clients[client]? = some c ∧ c.binaryCallback = some callback ∧
      s.links.get? (norm c.address) = some i ∧ c.isConnected = true

/-- Every client of the table is linked. -/
def Clean (s : Adapter κ) : Prop :=
  ∀ key c, s.holder key = some c → c.Linked norm s.links

/-- The table finds a client under its own address. -/
def Keyed (s : Adapter κ) : Prop :=
  ∀ key i, s.transportClients.get? key = some i →
    ∃ c, s.clients[i]? = some c ∧ norm c.address = key

/-- What keeps a clean state clean.

* A sensor that is connected again, under another id, is not being fed under the old one.
* A connection that is recorded is still there, or its client has no binary subscription.
* A sensor that is lost is not being fed: it has been unsubscribed, released or reset before.
* A reset handler that stops early leaves no fed client behind.
* A client of the table that carries an id is connected when it subscribes. -/
def orderly (s : Adapter κ) : Action κ → Prop
  | .sensorConnected client sensorId => ∀ c ∈ s.clients[client]?,
      s.idFree (norm c.address) sensorId = true → ∀ o ∈ s.holder (norm c.address),
        o.fed = true → o.sensorId = some sensorId
  | .connectFinished n => ∀ reply ∈ s.replies[n]?, ∀ c ∈ s.clients[reply.1]?,
      c.binaryCallback.isSome = true → s.links.get? (norm c.address) = some reply.2
  | .sensorDisconnected address => ∀ c ∈ s.holder (norm address), c.fed = false
  | .sessionReset handled => s.resetStops handled = true → ∀ i ∈ s.transportClients.values,
      i ∉ s.transportClients.values.take handled → ∀ c ∈ s.clients[i]?, c.fed = false
  | .setNotifyCallback client uuid callback indicate =>
      client ∈ s.transportClients.values → ∀ c ∈ s.clients[client]?,
        (c.subscribed uuid callback indicate).Linked norm s.links
  | _ => True

instance TransportClient.decidableLinked (links : Dict String Int) (c : TransportClient κ) :
    Decidable (c.Linked norm links) :=
  Option.decidableForallMem _

/-- Orderliness can be checked step by step. -/
instance decidableOrderly (s : Adapter κ) : ∀ a, Decidable (s.orderly norm a)
  | .sensorConnected client _ => Option.decidableForallMem s.clients[client]?
  | .connectFinished n => Option.decidableForallMem s.replies[n]?
  | .sensorDisconnected address => Option.decidableForallMem (s.holder (norm address))
  | .sessionReset handled =>
    inferInstanceAs (Decidable (s.resetStops handled = true → ∀ i ∈ s.transportClients.values,
      i ∉ s.transportClients.values.take handled → ∀ c ∈ s.clients[i]?, c.fed = false))
  | .setNotifyCallback client uuid callback indicate =>
    inferInstanceAs (Decidable (client ∈ s.transportClients.values →
      ∀ c ∈ s.clients[client]?, (c.subscribed uuid callback indicate).Linked norm s.links))
  | .createTransportClient _ _ | .connectAbandoned _ | .disconnectStarted _
  | .disconnectFinished _ | .disconnectRaised _ | .streamFrame _ | .unsetNotifyCallback _ _
  | .setRetainForRecovery _ _ | .releaseTransportClient _ => isTrue trivial

end Adapter

end Attribution

namespace Adapter

variable {κ : Type u} {norm : String → String} {s s' : Adapter κ} {a : Action κ}

theorem holder_eq_some_iff {key : String} {c : TransportClient κ} :
    s.holder key = some c ↔
      ∃ i, s.transportClients.get? key = some i ∧ s.clients[i]? = some c :=
  Option.bind_eq_some_iff

theorem mem_values_iff {i : Nat} :
    i ∈ s.transportClients.values ↔ ∃ key, s.transportClients.get? key = some i := by
  simp only [Dict.mem_values_iff, Dict.get?_eq_some_iff]

/-- In a clean state every frame is attributed rightly: the first client that carries its id is
in the table. -/
theorem Clean.attributed (h : s.Clean norm) : s.Attributed norm := by
  intro i client callback hdeliver
  obtain ⟨found, hfind, hrest⟩ := Option.bind_eq_some_iff.mp hdeliver
  obtain ⟨c, hc, hcall⟩ := Option.bind_eq_some_iff.mp hrest
  obtain ⟨callback', hcallback, heq⟩ := Option.map_eq_some_iff.mp hcall
  cases heq
  obtain ⟨key, hkey⟩ := Dict.mem_values_iff.mp (List.mem_of_find?_eq_some hfind)
  have hcarries : c.sensorId = some i := by
    have hfound := List.find?_some hfind
    simpa [hc] using hfound
  have hholder : s.holder key = some c :=
    holder_eq_some_iff.mpr ⟨client, Dict.get?_eq_some_iff.mpr hkey, hc⟩
  have ⟨hlink, hconn⟩ := h key c hholder i hcarries (by rw [hcallback]; rfl)
  exact ⟨c, hc, hcallback, hlink, hconn⟩

/-! ## What one step does to the table -/

/-- Changing a client that keeps its address shows under its own key only. -/
theorem holder_updateClient {i : Nat} {f : TransportClient κ → TransportClient κ}
    (key : String) :
    (s.updateClient i f).holder key =
      if s.transportClients.get? key = some i then (s.holder key).map f else s.holder key := by
  unfold holder updateClient
  cases hkey : s.transportClients.get? key with
  | none => simp
  | some j =>
    by_cases hij : i = j
    · subst hij
      simp
    · have hji : ¬ j = i := fun h => hij h.symm
      simp [hij, hji]

theorem keyed_updateClient (h : s.Keyed norm) {i : Nat}
    {f : TransportClient κ → TransportClient κ} (hf : ∀ c, (f c).address = c.address) :
    (s.updateClient i f).Keyed norm := by
  intro key j hj
  obtain ⟨c, hc, hkey⟩ := h key j hj
  by_cases hij : i = j
  · exact ⟨f c, by simp [updateClient, hij, hc], by rw [hf, hkey]⟩
  · exact ⟨c, by simp [updateClient, hij, hc], hkey⟩

theorem keyed_popClient (h : s.Keyed norm) (address : String) (client : Nat) :
    (s.popClient address client).Keyed norm := by
  unfold popClient
  split
  · intro key j hj
    by_cases hkey : key = address
    · subst hkey
      rw [Dict.get?_erase_self] at hj
      cases hj
    · rw [Dict.get?_erase_ne _ hkey] at hj
      exact h key j hj
  · exact h

theorem keyed_set (h : s.Keyed norm) {i : Nat} {c : TransportClient κ}
    (hc : s.clients[i]? = some c) :
    ({ s with transportClients := s.transportClients.set (norm c.address) i } :
      Adapter κ).Keyed norm := by
  intro key j hj
  by_cases hkey : norm c.address = key
  · subst hkey
    rw [Dict.get?_set_self] at hj
    cases hj
    exact ⟨c, hc, rfl⟩
  · rw [Dict.get?_set_ne _ _ hkey] at hj
    exact h key j hj

/-- A client is under one key only. -/
theorem Keyed.unique (h : s.Keyed norm) {key key' : String} {i : Nat}
    (hkey : s.transportClients.get? key = some i)
    (hkey' : s.transportClients.get? key' = some i) : key = key' := by
  obtain ⟨c, hc, rfl⟩ := h key i hkey
  obtain ⟨c', hc', rfl⟩ := h key' i hkey'
  cases hc.symm.trans hc'
  rfl

theorem Keyed.holder_address (h : s.Keyed norm) {key : String} {c : TransportClient κ}
    (hc : s.holder key = some c) : norm c.address = key := by
  obtain ⟨i, hi, hci⟩ := holder_eq_some_iff.mp hc
  obtain ⟨c', hc', hkey⟩ := h key i hi
  cases hci.symm.trans hc'
  exact hkey

theorem keyed_step (hstep : step norm s a = some s') (h : s.Keyed norm) : s'.Keyed norm := by
  cases a with
  | createTransportClient address disconnectedCallback =>
    cases hstep
    have hgrown : ({ s with clients := s.clients ++ [{ address, disconnectedCallback }] } :
        Adapter κ).Keyed norm := by
      intro key j hj
      obtain ⟨c, hc, haddr⟩ := h key j hj
      have hlt := (List.getElem?_eq_some_iff.mp hc).1
      exact ⟨c, by rw [List.getElem?_append_left hlt, hc], haddr⟩
    exact keyed_set hgrown (c := { address, disconnectedCallback }) (by simp)
  | sensorConnected client sensorId =>
    obtain ⟨c, -, hstep⟩ := Option.bind_eq_some_iff.mp hstep
    split at hstep
    · cases hstep
      exact h
    · cases hstep
  | connectFinished n =>
    obtain ⟨⟨client, sensorId⟩, -, hstep⟩ := Option.bind_eq_some_iff.mp hstep
    obtain ⟨c, hc, rfl⟩ := Option.map_eq_some_iff.mp hstep
    have hupdated := keyed_updateClient h (i := client) (f := (·.connected sensorId))
      fun _ => rfl
    exact keyed_set hupdated (c := c.connected sensorId) (by simp [updateClient, hc])
  | connectAbandoned n =>
    cases hstep
    exact h
  | sensorDisconnected address =>
    cases hstep
    unfold sensorDisconnected
    dsimp only
    split
    · exact h
    · split
      · exact h
      · exact keyed_updateClient (s := { s with links := _, disconnectedAddresses := _ }) h
          fun _ => rfl
  | disconnectStarted client =>
    cases hstep
    exact keyed_updateClient h fun _ => rfl
  | disconnectFinished client =>
    obtain ⟨c, -, rfl⟩ := Option.map_eq_some_iff.mp hstep
    exact keyed_popClient (keyed_updateClient h TransportClient.disconnected_address) _ _
  | disconnectRaised client =>
    cases hstep
    exact keyed_updateClient h fun _ => rfl
  | sessionReset handled =>
    simp only [step] at hstep
    split at hstep
    · cases hstep
      intro key j hj
      obtain ⟨c, hc, hkey⟩ := h key j hj
      refine ⟨if j ∈ s.transportClients.values.take handled then c.retired else c, ?_, ?_⟩
      · simp [sessionReset, hc]
      · split
        · rw [TransportClient.retired_address, hkey]
        · exact hkey
    · cases hstep
  | streamFrame i =>
    cases hstep
    exact h
  | setNotifyCallback client uuid callback indicate =>
    cases hstep
    exact keyed_updateClient h fun _ => rfl
  | unsetNotifyCallback client uuid =>
    cases hstep
    exact keyed_updateClient h fun _ => rfl
  | setRetainForRecovery client retain =>
    cases hstep
    exact keyed_updateClient h fun _ => rfl
  | releaseTransportClient client =>
    obtain ⟨c, -, rfl⟩ := Option.map_eq_some_iff.mp hstep
    exact keyed_popClient (keyed_updateClient h TransportClient.released_address) _ _

end Adapter

/-! ## Which steps keep the table clean -/

namespace TransportClient

variable {κ : Type u} {norm : String → String} {links : Dict String Int} {c : TransportClient κ}

theorem fed_iff : c.fed = true ↔ ∃ i, c.sensorId = some i ∧ c.binaryCallback.isSome := by
  unfold fed
  rw [Bool.and_eq_true, Option.isSome_iff_exists]
  exact exists_and_right.symm

theorem linked_of_not_fed (h : c.fed = false) : c.Linked norm links := by
  intro i hi hcall
  rw [fed_iff.mpr ⟨i, hi, hcall⟩] at h
  cases h

/-- A client whose sensor holds no id is linked only when no frame can reach it. -/
theorem linked_iff_of_lost (h : links.get? (norm c.address) = none) :
    c.Linked norm links ↔ c.fed = false := by
  refine ⟨fun hlinked => Bool.eq_false_iff.mpr fun hfed => ?_, linked_of_not_fed⟩
  obtain ⟨i, hi, hcall⟩ := fed_iff.mp hfed
  rw [(hlinked i hi hcall).1] at h
  cases h

theorem linked_congr {links' : Dict String Int}
    (h : links'.get? (norm c.address) = links.get? (norm c.address)) :
    c.Linked norm links' ↔ c.Linked norm links := by
  unfold Linked
  rw [h]

theorem fed_of_sensorId (h : c.sensorId = none) : c.fed = false := by
  rw [fed, h]
  rfl

end TransportClient

namespace Adapter

variable {κ : Type u} {norm : String → String} {s s' : Adapter κ} {a : Action κ}

/-- The table changes under one key: that client decides. -/
theorem clean_iff_of_holder (h : s.Clean norm) (hlinks : s'.links = s.links) {k : String}
    {c : TransportClient κ} (hk : s'.holder k = some c)
    (hother : ∀ key, key ≠ k → s'.holder key = s.holder key) :
    s'.Clean norm ↔ c.Linked norm s.links := by
  unfold Clean
  rw [hlinks]
  constructor
  · intro hclean
    exact hclean k c hk
  · intro hc key o ho
    by_cases hkey : key = k
    · subst hkey
      cases hk.symm.trans ho
      exact hc
    · rw [hother key hkey] at ho
      exact h key o ho

theorem clean_of_holder (h : s.Clean norm) (hlinks : s'.links = s.links)
    (hsub : ∀ key c, s'.holder key = some c → s.holder key = some c) : s'.Clean norm := by
  intro key c hc
  rw [hlinks]
  exact h key c (hsub key c hc)

theorem clean_updateClient_iff (h : s.Clean norm) {i : Nat}
    {f : TransportClient κ → TransportClient κ} :
    (s.updateClient i f).Clean norm ↔
      (i ∈ s.transportClients.values → ∀ c ∈ s.clients[i]?, (f c).Linked norm s.links) := by
  constructor
  · intro hclean hmem c hc
    obtain ⟨key, hkey⟩ := mem_values_iff.mp hmem
    apply hclean key
    rw [holder_updateClient, if_pos hkey, holder_eq_some_iff.mpr ⟨i, hkey, hc⟩]
    rfl
  · intro hlinked key c hc
    rw [holder_updateClient] at hc
    split at hc
    · rename_i hkey
      obtain ⟨c', hc', rfl⟩ := Option.map_eq_some_iff.mp hc
      obtain ⟨j, hj, hcj⟩ := holder_eq_some_iff.mp hc'
      obtain rfl : i = j := Option.some.inj (hkey.symm.trans hj)
      exact hlinked (Dict.get?_mem_values hkey) c' hcj
    · exact h key c hc

/-- A change that takes no link away keeps the table clean. -/
theorem Clean.updateClient (h : s.Clean norm) {i : Nat}
    {f : TransportClient κ → TransportClient κ}
    (hf : ∀ c, c.Linked norm s.links → (f c).Linked norm s.links) :
    (s.updateClient i f).Clean norm := by
  rw [clean_updateClient_iff h]
  intro hmem c hc
  obtain ⟨key, hkey⟩ := mem_values_iff.mp hmem
  exact hf c (h key c (holder_eq_some_iff.mpr ⟨i, hkey, hc⟩))

theorem Clean.popClient (h : s.Clean norm) (address : String) (client : Nat) :
    (s.popClient address client).Clean norm := by
  unfold Adapter.popClient
  split
  · refine clean_of_holder h rfl fun key c hc => ?_
    obtain ⟨i, hi, hci⟩ := holder_eq_some_iff.mp hc
    by_cases hkey : key = address
    · subst hkey
      rw [Dict.get?_erase_self] at hi
      cases hi
    · rw [Dict.get?_erase_ne _ hkey] at hi
      exact holder_eq_some_iff.mpr ⟨i, hi, hci⟩
  · exact h

/-- Links of other sensors do not matter to a client. -/
theorem Keyed.linked_iff (hkeyed : s.Keyed norm) {links : Dict String Int} {key k : String}
    {c : TransportClient κ} (hc : s.holder key = some c) (hne : key ≠ k)
    (hsame : ∀ key, key ≠ k → links.get? key = s.links.get? key) :
    c.Linked norm links ↔ c.Linked norm s.links := by
  apply TransportClient.linked_congr
  rw [hkeyed.holder_address hc]
  exact hsame key hne

/-- The sensor at `k` is lost: the table stays clean when its client was not being fed. -/
theorem clean_lost_iff (hkeyed : s.Keyed norm) (h : s.Clean norm) {k : String}
    (hlinks : s'.links = s.links.erase k) {f : TransportClient κ → TransportClient κ}
    (hf : ∀ c, (f c).address = c.address ∧ (f c).fed = c.fed)
    (hk : s'.holder k = (s.holder k).map f)
    (hother : ∀ key, key ≠ k → s'.holder key = s.holder key) :
    s'.Clean norm ↔ ∀ c, s.holder k = some c → c.fed = false := by
  have hlost : s'.links.get? k = none := by rw [hlinks, Dict.get?_erase_self]
  constructor
  · intro hclean c hc
    have hc' : s'.holder k = some (f c) := by rw [hk, hc, Option.map_some]
    have haddr : norm (f c).address = k := by rw [(hf c).1, hkeyed.holder_address hc]
    have hfed := (TransportClient.linked_iff_of_lost (haddr.symm ▸ hlost)).mp (hclean k _ hc')
    rw [← (hf c).2, hfed]
  · intro hfed key c hc
    by_cases hkey : key = k
    · subst hkey
      rw [hk] at hc
      obtain ⟨c', hc', rfl⟩ := Option.map_eq_some_iff.mp hc
      exact TransportClient.linked_of_not_fed (by rw [(hf c').2, hfed c' hc'])
    · rw [hother key hkey] at hc
      rw [hkeyed.linked_iff hc hkey (fun key hne => by rw [hlinks, Dict.get?_erase_ne _ hne])]
      exact h key c hc

theorem clean_sensorDisconnected_iff (hkeyed : s.Keyed norm) (h : s.Clean norm) (k : String) :
    (s.sensorDisconnected k).Clean norm ↔ ∀ c, s.holder k = some c → c.fed = false := by
  unfold sensorDisconnected
  dsimp only
  split
  · exact clean_lost_iff hkeyed h rfl (f := id) (fun _ => ⟨rfl, rfl⟩) (by rw [Option.map_id]; rfl)
      fun _ _ => rfl
  · split
    · rename_i hnone
      refine clean_lost_iff hkeyed h rfl (f := id) (fun _ => ⟨rfl, rfl⟩) ?_ fun _ _ => rfl
      rw [Option.map_id]
      rfl
    · rename_i i hi
      refine clean_lost_iff hkeyed h rfl (f := fun c => { c with isConnected := false })
        (fun _ => ⟨rfl, rfl⟩) ?_ fun key hne => ?_
      · rw [holder_updateClient, if_pos hi]
        rfl
      · rw [holder_updateClient, if_neg fun hkey => hne (hkeyed.unique hkey hi)]
        rfl

theorem clean_sessionReset_iff (handled : Nat) :
    (s.sessionReset handled).Clean norm ↔ ∀ i ∈ s.transportClients.values,
      i ∉ s.transportClients.values.take handled → ∀ c ∈ s.clients[i]?, c.fed = false := by
  have hlinked (c : TransportClient κ) :
      c.Linked norm (s.sessionReset handled).links ↔ c.fed = false :=
    TransportClient.linked_iff_of_lost rfl
  constructor
  · intro hclean i hmem hout c hc
    obtain ⟨key, hi⟩ := mem_values_iff.mp hmem
    apply (hlinked c).mp
    apply hclean key
    refine holder_eq_some_iff.mpr ⟨i, hi, ?_⟩
    simp [sessionReset, Option.mem_def.mp hc, hout]
  · intro hfed key c hc
    rw [hlinked]
    obtain ⟨i, hi, hci⟩ := holder_eq_some_iff.mp hc
    simp only [sessionReset, List.getElem?_mapIdx] at hci
    obtain ⟨o, ho, rfl⟩ := Option.map_eq_some_iff.mp hci
    split
    · exact TransportClient.fed_of_sensorId o.retired_sensorId
    · rename_i hout
      exact hfed i (Dict.get?_mem_values hi) hout o ho

theorem clean_create (hkeyed : s.Keyed norm) (h : s.Clean norm) (address : String)
    (disconnectedCallback : Bool)
    (hstep : step norm s (.createTransportClient address disconnectedCallback) = some s') :
    s'.Clean norm := by
  cases hstep
  have hnew : (⟨address, disconnectedCallback, false, none, none, false, Dict.empty, Dict.empty,
      false⟩ : TransportClient κ).Linked norm s.links :=
    TransportClient.linked_of_not_fed rfl
  refine (clean_iff_of_holder h ?_ (k := norm address) ?_ fun key hne => ?_).mpr hnew
  · rfl
  · simp [holder]
  · unfold holder
    dsimp only
    rw [Dict.get?_set_ne _ _ fun heq => hne heq.symm]
    cases hi : s.transportClients.get? key with
    | none => rfl
    | some i =>
      obtain ⟨c, hc, -⟩ := hkeyed key i hi
      exact List.getElem?_append_left (List.getElem?_eq_some_iff.mp hc).1

theorem clean_sensorConnected_iff (hkeyed : s.Keyed norm) (h : s.Clean norm) {client : Nat}
    {sensorId : Int} (hstep : step norm s (.sensorConnected client sensorId) = some s') :
    s'.Clean norm ↔ s.orderly norm (.sensorConnected client sensorId) := by
  obtain ⟨c, hc, hstep⟩ := Option.bind_eq_some_iff.mp hstep
  split at hstep
  · rename_i hfree
    cases hstep
    have hget : (s.links.set (norm c.address) sensorId).get? (norm c.address) = some sensorId :=
      Dict.get?_set_self _ _ _
    constructor
    · intro hclean c' hc' _ o ho hfed
      cases hc.symm.trans hc'
      obtain ⟨i, hi, hcall⟩ := TransportClient.fed_iff.mp hfed
      have hlink := (hclean _ o ho i hi hcall).1
      rw [hkeyed.holder_address ho, hget] at hlink
      rw [hi, hlink]
    · intro hsame key o ho i hi hcall
      have hbefore := h key o ho i hi hcall
      refine ⟨?_, hbefore.2⟩
      by_cases hkey : key = norm c.address
      · subst hkey
        have hid := hsame c hc hfree o ho (TransportClient.fed_iff.mpr ⟨i, hi, hcall⟩)
        rw [hkeyed.holder_address ho, hget, ← hid, hi]
      · rw [hkeyed.holder_address ho] at hbefore ⊢
        rw [Dict.get?_set_ne _ _ fun heq => hkey heq.symm]
        exact hbefore.1
  · cases hstep

theorem clean_connectFinished_iff (hkeyed : s.Keyed norm) (h : s.Clean norm) {n : Nat}
    (hstep : step norm s (.connectFinished n) = some s') :
    s'.Clean norm ↔ s.orderly norm (.connectFinished n) := by
  obtain ⟨⟨client, sensorId⟩, hreply, hstep⟩ := Option.bind_eq_some_iff.mp hstep
  obtain ⟨c, hc, rfl⟩ := Option.map_eq_some_iff.mp hstep
  have hexact : (c.connected sensorId).Linked norm s.links ↔
      s.orderly norm (.connectFinished n) := by
    constructor
    · intro hlinked reply hreply' c' hc' hcall
      cases hreply.symm.trans hreply'
      cases hc.symm.trans hc'
      exact (hlinked sensorId rfl hcall).1
    · intro hthere i hi hcall
      cases hi
      exact ⟨hthere (client, sensorId) hreply c hc hcall, rfl⟩
  rw [← hexact]
  refine clean_iff_of_holder h ?_ (k := norm c.address) ?_ fun key hne => ?_
  · rfl
  · simp [holder, updateClient, hc]
  · have hset : (s.transportClients.set (norm c.address) client).get? key =
        s.transportClients.get? key := Dict.get?_set_ne _ _ fun heq => hne heq.symm
    have hupdate := holder_updateClient (s := s) (i := client) (f := (·.connected sensorId)) key
    unfold holder at hupdate ⊢
    dsimp only
    rw [show (s.updateClient client (·.connected sensorId)).transportClients =
      s.transportClients from rfl] at hupdate ⊢
    rw [hset, hupdate, if_neg]
    -- the client stands under its own address only
    intro hkey
    obtain ⟨o, ho, haddr⟩ := hkeyed key client hkey
    cases hc.symm.trans ho
    exact hne haddr.symm

/-- A step that cannot be taken asks for nothing. -/
theorem orderly_of_disabled (hstep : step norm s a = none) : s.orderly norm a := by
  cases a with
  | sensorConnected client sensorId =>
    intro c hc hfree
    simp [step, Option.mem_def.mp hc, hfree] at hstep
  | connectFinished n =>
    intro reply hreply c hc
    simp [step, Option.mem_def.mp hreply, Option.mem_def.mp hc] at hstep
  | sessionReset handled =>
    intro hstops
    simp [step, hstops] at hstep
  | sensorDisconnected address => cases hstep
  | setNotifyCallback client uuid callback indicate => cases hstep
  | _ => trivial

/-- **Exact conditions.** From a clean state exactly the orderly steps lead to a clean state. -/
theorem clean_step_iff (hkeyed : s.Keyed norm) (h : s.Clean norm)
    (hstep : step norm s a = some s') : s'.Clean norm ↔ s.orderly norm a := by
  cases a with
  | createTransportClient address disconnectedCallback =>
    exact iff_of_true (clean_create hkeyed h address disconnectedCallback hstep) trivial
  | sensorConnected client sensorId => exact clean_sensorConnected_iff hkeyed h hstep
  | connectFinished n => exact clean_connectFinished_iff hkeyed h hstep
  | connectAbandoned n =>
    cases hstep
    exact iff_of_true h trivial
  | sensorDisconnected address =>
    cases hstep
    exact clean_sensorDisconnected_iff hkeyed h (norm address)
  | disconnectStarted client =>
    cases hstep
    exact iff_of_true (h.updateClient fun _ hc => hc) trivial
  | disconnectFinished client =>
    obtain ⟨c, -, rfl⟩ := Option.map_eq_some_iff.mp hstep
    have hupdated : (s.updateClient client (·.disconnected)).Clean norm :=
      h.updateClient fun c _ => TransportClient.linked_of_not_fed
        (TransportClient.fed_of_sensorId c.disconnected_sensorId)
    exact iff_of_true (hupdated.popClient _ _) trivial
  | disconnectRaised client =>
    cases hstep
    exact iff_of_true (h.updateClient fun _ hc => hc) trivial
  | sessionReset handled =>
    simp only [step] at hstep
    split at hstep
    · rename_i hstops
      cases hstep
      rw [clean_sessionReset_iff handled]
      exact ⟨fun hfed _ => hfed, fun horderly => horderly hstops⟩
    · cases hstep
  | streamFrame i =>
    cases hstep
    exact iff_of_true h trivial
  | setNotifyCallback client uuid callback indicate =>
    cases hstep
    exact clean_updateClient_iff h
  | unsetNotifyCallback client uuid =>
    cases hstep
    refine iff_of_true (h.updateClient fun c hc i hi hcall => ?_) trivial
    exact hc i hi (TransportClient.unsubscribed_binaryCallback hcall)
  | setRetainForRecovery client retain =>
    cases hstep
    exact iff_of_true (h.updateClient fun _ hc => hc) trivial
  | releaseTransportClient client =>
    obtain ⟨c, -, rfl⟩ := Option.map_eq_some_iff.mp hstep
    have hupdated : (s.updateClient client (·.released)).Clean norm :=
      h.updateClient fun c _ => TransportClient.linked_of_not_fed
        (TransportClient.fed_of_sensorId rfl)
    exact iff_of_true (hupdated.popClient _ _) trivial

end Adapter

/-! ## Runs -/

section Runs

variable {κ : Type u} (norm : String → String)

theorem keyed_init : ({} : Adapter κ).Keyed norm := by
  intro key i hi
  cases hi

theorem clean_init : ({} : Adapter κ).Clean norm := by
  intro key c hc
  cases hc

/-- A run stays clean exactly when its steps are orderly. -/
theorem clean_along_iff (run : List (Action κ)) :
    (∀ k t, Machine.exec (step norm) {} (run.take k) = some t → t.Clean norm) ↔
      Machine.Along (step norm) (Adapter.orderly norm) {} run := by
  apply Machine.always_iff_along_of_step (J := Adapter.Keyed norm) (keyed_init norm)
  · intro r a r' hkeyed hstep
    exact Adapter.keyed_step hstep hkeyed
  · exact fun r a hstep => Adapter.orderly_of_disabled hstep
  · exact fun r a r' hkeyed hclean hstep => Adapter.clean_step_iff hkeyed hclean hstep
  · exact clean_init norm

/-- In a run of orderly steps every state reached attributes every frame rightly. -/
theorem attributed_of_orderly (run : List (Action κ))
    (h : Machine.Along (step norm) (Adapter.orderly norm) {} run) (k : Nat) (t : Adapter κ)
    (ht : Machine.exec (step norm) {} (run.take k) = some t) : t.Attributed norm :=
  ((clean_along_iff norm run).mpr h k t ht).attributed

end Runs

/-! ## Two histories of one id -/

/-- `address.strip().upper()` for a text of ASCII characters without space at its ends. -/
def upperText (s : String) : String := String.ofList (s.toList.map Char.toUpper)

/-- The first sensor stops, is unsubscribed and disconnected; the second one gets its id. -/
def orderlyReuse : List (Action String) :=
  [.createTransportClient "a0" true, .createTransportClient "b0" true,
    .sensorConnected 0 1, .connectFinished 0, .setNotifyCallback 0 "data" "first" false,
    .unsetNotifyCallback 0 "data", .disconnectStarted 0, .sensorDisconnected "A0",
    .disconnectFinished 0,
    .sensorConnected 1 1, .connectFinished 0, .setNotifyCallback 1 "data" "second" false,
    .streamFrame 1]

theorem attributed_of_orderly_orderlyReuse :
    ∃ t, Machine.exec (step upperText) {} (orderlyReuse.take 13) = some t ∧
      t.deliver 1 = some (1, "second") ∧ t.Attributed upperText := by
  have hexec : ∃ t, Machine.exec (step upperText) {} (orderlyReuse.take 13) = some t ∧
      t.deliver 1 = some (1, "second") := by
    refine ⟨_, rfl, ?_⟩
    decide
  obtain ⟨t, ht, hdeliver⟩ := hexec
  exact ⟨t, ht, hdeliver, attributed_of_orderly upperText orderlyReuse (by decide) 13 t ht⟩

/-- The first sensor is lost while it streams; the second one gets its id. -/
def reuseAfterLoss : List (Action String) :=
  [.createTransportClient "a0" true, .createTransportClient "b0" true,
    .sensorConnected 0 1, .connectFinished 0, .setNotifyCallback 0 "data" "first" false,
    .sensorDisconnected "A0",
    .sensorConnected 1 1, .connectFinished 0, .setNotifyCallback 1 "data" "second" false,
    .streamFrame 1]

/-- `_handle_sensor_disconnected` leaves the id in the client of a lost sensor, and the table is
searched from the front: a frame of the second sensor goes to the callback of the first. -/
theorem lostSensor_keeps_id :
    ∃ t, Machine.exec (step upperText) {} reuseAfterLoss = some t ∧
      t.links.get? "B0" = some 1 ∧ t.links.get? "A0" = none ∧
        (t.clients.map fun c => (c.address, c.isConnected)) = [("a0", false), ("b0", true)] ∧
          t.deliver 1 = some (0, "first") ∧ ¬ t.Attributed upperText := by
  refine ⟨_, rfl, by decide, by decide, by decide, by decide, fun hattributed => ?_⟩
  obtain ⟨c, hc, -, -, hconnected⟩ := hattributed 1 0 "first" (by decide)
  cases hc
  cases hconnected

end NexusN3.Gateway.Ble
