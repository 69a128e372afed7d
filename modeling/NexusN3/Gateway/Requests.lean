import NexusN3.Lib.Machine
import NexusN3.Lib.Dict
import Mathlib.Logic.Function.Basic

/-!
# Requests to the gateway and their answers

A call draws a request id, registers a queue under it, writes its command and takes messages from
the queue until it has seen what it waits for. One reader puts what the gateway sends into the
queues. Calls come and go, time out and are repeated under a new id, a failed transport drops all
queues, and the gateway may answer late, more than once or never.

* **`RequestId.text`** — how an id is written. The number can be read off it.
* **`Client.step`** — the sections of the calls and of the reader, and what the gateway sends.
* **`Sound`** — every queue belongs to one call, and every answer carries the id of its command.
* **`answers_own`** — a call that drew its id takes no answer to another call's command, and is
  never refused.
-/

namespace NexusN3.Gateway.Requests

open Lib

/-! ## Request ids -/

inductive RequestId where
  /-- the id of `hello`, the same each time -/
  | hello
  /-- `request_id(prefix)` -/
  | counted (word : String) (n : Nat)
  deriving DecidableEq

namespace RequestId

def text : RequestId → String
  | hello => "hello_host_tool"
  | counted word n => word ++ "_" ++ toString n

def number? : RequestId → Option Nat
  | hello => none
  | counted _ n => some n

/-- The digits that an id ends with. -/
def digits (s : String) : List Char := (s.toList.reverse.takeWhile Char.isDigit).reverse

theorem digits_counted (word : String) (n : Nat) :
    digits (counted word n).text = Nat.toDigits 10 n := by
  have hdigit : ∀ c ∈ (Nat.toDigits 10 n).reverse, c.isDigit := by
    intro c hc
    exact Nat.isDigit_of_mem_toDigits (by decide) (by decide) (List.mem_reverse.mp hc)
  have htext : (counted word n).text.toList.reverse
      = (Nat.toDigits 10 n).reverse ++ ('_' :: word.toList.reverse) := by
    show (word ++ "_" ++ toString n).toList.reverse = _
    rw [String.toList_append, String.toList_append, Nat.toString_eq_repr, Nat.toList_repr]
    simp
  rw [digits, htext, List.takeWhile_append_of_pos hdigit, List.takeWhile_cons_of_neg (by decide),
    List.append_nil, List.reverse_reverse]

/-- Two ids that are written alike have the same number, if one of them has one. -/
theorem number_of_text {word : String} {n : Nat} {id : RequestId}
    (h : (counted word n).text = id.text) : id.number? = some n := by
  have hdigits := congrArg digits h
  rw [digits_counted] at hdigits
  cases id with
  | hello => exact absurd hdigits Nat.toDigits_ne_nil
  | counted word' n' =>
      rw [digits_counted] at hdigits
      have hn : n = n' := by
        calc
          n = Nat.ofDigitChars 10 (Nat.toDigits 10 n) 0 := Nat.ofDigitChars_ten_toDigits.symm
          _ = Nat.ofDigitChars 10 (Nat.toDigits 10 n') 0 := by rw [hdigits]
          _ = n' := Nat.ofDigitChars_ten_toDigits
      rw [number?, hn]

end RequestId

/-! ## Messages -/

/-- Why there is a message: it answers the command of a call, it is an event of the gateway, or a
recovery has put it there. -/
inductive Cause where
  | answer (call : Nat)
  | event
  | retired
  deriving DecidableEq

structure Message where
  type : String
  requestId : Option String
  cause : Cause
  deriving DecidableEq

/-- The types that `_route_json` puts into every queue. -/
def broadcastTypes : List String :=
  ["gateway_transport_stats", "ble_notification_rx_stats", "ble_notification_rx_stats_complete"]

/-- How `_wait_for_success` ends. -/
inductive Waited where
  | returned (msg : Message)
  /-- `_raise_if_error` raises -/
  | error (msg : Message)
  | timeout
  deriving DecidableEq

/-- `_wait_for_success` over the messages that come in time. -/
def waitForSuccess (requestId successType : String) : List Message → Waited
  | [] => .timeout
  | msg :: rest =>
    if msg.type = successType ∧ msg.requestId = some requestId then .returned msg
    else if msg.type = "error" ∧ msg.requestId = some requestId then .error msg
    else waitForSuccess requestId successType rest

/-- What is returned was among the messages, with the type and the id that are waited for. -/
theorem of_waitForSuccess {requestId successType : String} {msgs : List Message} {msg : Message}
    (h : waitForSuccess requestId successType msgs = .returned msg) :
    msg ∈ msgs ∧ msg.type = successType ∧ msg.requestId = some requestId := by
  induction msgs with
  | nil => cases h
  | cons m rest ih =>
      unfold waitForSuccess at h
      split at h
      · rename_i hm
        cases h
        exact ⟨List.mem_cons_self, hm⟩
      · split at h
        · cases h
        · obtain ⟨hmem, hmsg⟩ := ih h
          exact ⟨List.mem_cons_of_mem m hmem, hmsg⟩

/-! ## The client and the gateway -/

/-- Where a call is, with the id it has drawn. -/
inductive Phase where
  | outside
  | drawn (id : RequestId)
  | registered (id : RequestId)
  /-- the command is written, or its write has failed -/
  | sent (id : RequestId)
  /-- `_register_request` has raised -/
  | refused (id : RequestId)
  | finished (id : RequestId)
  deriving DecidableEq

namespace Phase

def id? : Phase → Option RequestId
  | outside => none
  | drawn id => some id
  | registered id => some id
  | sent id => some id
  | refused id => some id
  | finished id => some id

/-- Between `_register_request` and `_unregister_request`. -/
def pending? : Phase → Option RequestId
  | registered id => some id
  | sent id => some id
  | _ => none

end Phase

/-- Where the reader is in `_route_json`. -/
inductive Routing where
  | idle
  | observed (msg : Message)
  /-- the id was pending when it was looked up -/
  | found (msg : Message) (requestId : String)
  /-- about to go through all queues -/
  | spreading (msg : Message)
  deriving DecidableEq

/-- The client, its calls by number, and what the gateway has received and sent. -/
structure Client where
  requestIdCounter : Nat
  phase : Nat → Phase
  /-- `pending_requests`; a queue is named by the call that made it. -/
  pendingRequests : Dict String Nat
  queue : Nat → List Message
  taken : Nat → List Message
  reader : Routing
  /-- The commands that the gateway has received, with the call and the id. -/
  commands : List (Nat × String)
  /-- What the gateway has sent and the reader has not taken. -/
  wire : List Message

inductive Action where
  | draw (k : Nat) (word : String)
  | hello (k : Nat)
  | register (k : Nat)
  | send (k : Nat)
  /-- the write raises; the command may have got there, and the transport may be torn down -/
  | sendFails (k : Nat) (received tornDown : Bool)
  | take (k : Nat)
  | unregister (k : Nat)
  /-- the gateway answers a command -/
  | answer (c : Nat) (type : String)
  | notify (type : String)
  /-- a message is lost on the way -/
  | lose
  | receive
  | lookUp
  | put
  /-- the message goes to the first `n` queues; then the table changes, if there are more -/
  | spread (n : Nat)
  /-- `_handle_transport_failure` or `close` -/
  | tearDown
  /-- `recover_uart` answers every request itself -/
  | retire

namespace Client

def setPhase (s : Client) (k : Nat) (p : Phase) : Client :=
  { s with phase := Function.update s.phase k p }

/-- Put a message into the queues of some calls. -/
def putAll (s : Client) (ks : List Nat) (msg : Message) : Client :=
  { s with queue := fun k => if k ∈ ks then s.queue k ++ [msg] else s.queue k }

/-- `self.pending_requests.clear()`. -/
def dropPending (s : Client) : Client := { s with pendingRequests := Dict.empty }

/-- The message that `recover_uart` puts into the queue of a pending request. -/
def retiredMessage (requestId : String) : Message := ⟨"error", some requestId, .retired⟩

def retireAll (s : Client) : Client :=
  { s with
    queue := fun k =>
      s.queue k ++ (s.pendingRequests.entries.filter (·.2 = k)).map fun e => retiredMessage e.1 }

/-- `_route_json`, up to the first write to a queue. -/
def lookedUp (s : Client) (msg : Message) : Routing :=
  match msg.requestId with
  | some requestId =>
    if requestId ≠ "" ∧ requestId ∈ s.pendingRequests.keys then .found msg requestId
    else if msg.type ∈ broadcastTypes then .spreading msg else .idle
  | none => if msg.type ∈ broadcastTypes then .spreading msg else .idle

/-- One section of a call, of the reader or of the gateway. -/
def step : Machine Client Action
  | s, .draw k word =>
    match s.phase k with
    | .outside =>
      some ({ s with requestIdCounter := s.requestIdCounter + 1 }.setPhase k
        (.drawn (.counted word (s.requestIdCounter + 1))))
    | _ => none
  | s, .hello k =>
    match s.phase k with
    | .outside => some (s.setPhase k (.drawn .hello))
    | _ => none
  | s, .register k =>
    match s.phase k with
    | .drawn id =>
      if id.text ∈ s.pendingRequests.keys then some (s.setPhase k (.refused id))
      else
        some ({ s with pendingRequests := s.pendingRequests.set id.text k }.setPhase k
          (.registered id))
    | _ => none
  | s, .send k =>
    match s.phase k with
    | .registered id =>
      some ({ s with commands := s.commands ++ [(k, id.text)] }.setPhase k (.sent id))
    | _ => none
  | s, .sendFails k received tornDown =>
    match s.phase k with
    | .registered id =>
      let r := { s with
        commands := if received then s.commands ++ [(k, id.text)] else s.commands
        pendingRequests := if tornDown then Dict.empty else s.pendingRequests }
      some (r.setPhase k (.sent id))
    | _ => none
  | s, .take k =>
    match s.phase k, s.queue k with
    | .sent _, msg :: rest =>
      some { s with
        queue := Function.update s.queue k rest
        taken := Function.update s.taken k (s.taken k ++ [msg]) }
    | _, _ => none
  | s, .unregister k =>
    match (s.phase k).pending? with
    | some id =>
      some ({ s with pendingRequests := s.pendingRequests.erase id.text }.setPhase k (.finished id))
    | none => none
  | s, .answer c type =>
    match s.commands[c]? with
    | some (k, requestId) =>
      some { s with wire := s.wire ++ [⟨type, some requestId, .answer k⟩] }
    | none => none
  | s, .notify type => some { s with wire := s.wire ++ [⟨type, none, .event⟩] }
  | s, .lose => some { s with wire := s.wire.tail }
  | s, .receive =>
    match s.reader, s.wire with
    | .idle, msg :: rest => some { s with reader := .observed msg, wire := rest }
    | _, _ => none
  | s, .lookUp =>
    match s.reader with
    | .observed msg => some { s with reader := s.lookedUp msg }
    | _ => none
  | s, .put =>
    match s.reader with
    | .found msg requestId =>
      match s.pendingRequests.get? requestId with
      | some k => some { s.putAll [k] msg with reader := .idle }
      -- the request has gone between the two lines: `KeyError`
      | none => some { s.dropPending with reader := .idle }
    | _ => none
  | s, .spread n =>
    match s.reader with
    | .spreading msg =>
      let r := s.putAll (s.pendingRequests.values.take n) msg
      if n < s.pendingRequests.values.length then some { r.dropPending with reader := .idle }
      else some { r with reader := .idle }
    | _ => none
  | s, .tearDown => some s.dropPending
  | s, .retire => some s.retireAll

end Client

/-- A new client. -/
def init : Client where
  requestIdCounter := 0
  phase _ := .outside
  pendingRequests := Dict.empty
  queue _ := []
  taken _ := []
  reader := .idle
  commands := []
  wire := []

/-! ## What messages say -/

/-- The ids that calls have drawn. -/
def Client.ids (s : Client) (k : Nat) : Option RequestId := (s.phase k).id?

/-- An answer carries the id of the call whose command it answers, and an event carries none. -/
def Known (ids : Nat → Option RequestId) (m : Message) : Prop :=
  match m.cause with
  | .answer k => ∃ id, ids k = some id ∧ m.requestId = some id.text
  | .event => m.requestId = none
  | .retired => m.type = "error"

/-- The message may be in the queue of the call. -/
def Fits (ids : Nat → Option RequestId) (k : Nat) (m : Message) : Prop :=
  ∃ id, ids k = some id ∧ (m.requestId = some id.text ∨ m.type ∈ broadcastTypes)

def Extends (ids ids' : Nat → Option RequestId) : Prop := ∀ k id, ids k = some id → ids' k = some id

theorem Known.mono {ids ids' : Nat → Option RequestId} (hids : Extends ids ids') {m : Message}
    (h : Known ids m) : Known ids' m := by
  unfold Known at h ⊢
  cases hcause : m.cause with
  | answer k =>
      rw [hcause] at h
      obtain ⟨id, hk, hm⟩ := h
      exact ⟨id, hids k id hk, hm⟩
  | event => rwa [hcause] at h
  | retired => rwa [hcause] at h

theorem Fits.mono {ids ids' : Nat → Option RequestId} (hids : Extends ids ids') {k : Nat}
    {m : Message} (h : Fits ids k m) : Fits ids' k m := by
  obtain ⟨id, hk, hm⟩ := h
  exact ⟨id, hids k id hk, hm⟩

/-- The message that the reader has. -/
def Routing.message? : Routing → Option Message
  | .idle => none
  | .observed m => some m
  | .found m _ => some m
  | .spreading m => some m

/-- The messages on their way, and those that have arrived. -/
structure Held (ids : Nat → Option RequestId) (s : Client) : Prop where
  commands : ∀ c ∈ s.commands, ∃ id, ids c.1 = some id ∧ c.2 = id.text
  wire : ∀ m ∈ s.wire, Known ids m
  reader : ∀ m, s.reader.message? = some m → Known ids m
  found : ∀ m requestId, s.reader = .found m requestId → m.requestId = some requestId
  spreading : ∀ m, s.reader = .spreading m → m.type ∈ broadcastTypes
  queue : ∀ k, ∀ m ∈ s.queue k, Known ids m ∧ Fits ids k m
  taken : ∀ k, ∀ m ∈ s.taken k, Known ids m ∧ Fits ids k m

theorem Held.mono {ids ids' : Nat → Option RequestId} (hids : Extends ids ids') {s : Client}
    (h : Held ids s) : Held ids' s where
  commands c hc := by
    obtain ⟨id, hk, ht⟩ := h.commands c hc
    exact ⟨id, hids c.1 id hk, ht⟩
  wire m hm := (h.wire m hm).mono hids
  reader m hm := (h.reader m hm).mono hids
  found := h.found
  spreading := h.spreading
  queue k m hm := ⟨(h.queue k m hm).1.mono hids, (h.queue k m hm).2.mono hids⟩
  taken k m hm := ⟨(h.taken k m hm).1.mono hids, (h.taken k m hm).2.mono hids⟩

/-- A message goes into the queues of calls that it fits. -/
theorem Held.putAll {ids : Nat → Option RequestId} {s : Client} (h : Held ids s) {ks : List Nat}
    {m : Message} (hknown : Known ids m) (hfits : ∀ k ∈ ks, Fits ids k m) :
    Held ids (s.putAll ks m) := by
  refine { h with queue := fun k m' hm' => ?_ }
  simp only [Client.putAll] at hm'
  split at hm'
  · rename_i hk
    rcases List.mem_append.mp hm' with hold | hnew
    · exact h.queue k m' hold
    · rw [List.mem_singleton.mp hnew]
      exact ⟨hknown, hfits k hk⟩
  · exact h.queue k m' hm'

/-- The reader is through with its message. -/
theorem Held.idle {ids : Nat → Option RequestId} {s : Client} (h : Held ids s) :
    Held ids { s with reader := .idle } :=
  { h with
    reader := fun m hm => by cases hm
    found := fun m t hm => by cases hm
    spreading := fun m hm => by cases hm }

/-- What the look up of a message finds. -/
theorem lookedUp_cases (s : Client) (msg : Message) :
    (∃ t, msg.requestId = some t ∧ s.lookedUp msg = .found msg t)
      ∨ (msg.type ∈ broadcastTypes ∧ s.lookedUp msg = .spreading msg)
      ∨ s.lookedUp msg = .idle := by
  unfold Client.lookedUp
  split
  · rename_i t ht
    split
    · exact .inl ⟨t, ht, rfl⟩
    · split
      · rename_i htype
        exact .inr (.inl ⟨htype, rfl⟩)
      · exact .inr (.inr rfl)
  · split
    · rename_i htype
      exact .inr (.inl ⟨htype, rfl⟩)
    · exact .inr (.inr rfl)

/-- Ids are drawn once, every queue that is registered is that of a call with its id, and no message
is where it does not belong. -/
structure Sound (s : Client) : Prop where
  counted : ∀ k word n, s.ids k = some (.counted word n) → n ≤ s.requestIdCounter
  unique : ∀ j k word word' n, s.ids j = some (.counted word n) →
    s.ids k = some (.counted word' n) → j = k
  pending : ∀ t k, s.pendingRequests.get? t = some k →
    ∃ id, (s.phase k).pending? = some id ∧ id.text = t
  refused : ∀ k id, s.phase k = .refused id → id = .hello
  held : Held s.ids s

theorem Phase.id_of_pending {p : Phase} {id : RequestId} (h : p.pending? = some id) :
    p.id? = some id := by
  cases p <;> simp_all [Phase.pending?, Phase.id?]

namespace Sound

variable {s : Client}

theorem ids_setPhase (k : Nat) (p : Phase) :
    (s.setPhase k p).ids = Function.update s.ids k p.id? := by
  funext j
  simp only [Client.ids, Client.setPhase]
  by_cases hj : j = k
  · subst hj
    rw [Function.update_self, Function.update_self]
  · rw [Function.update_of_ne hj, Function.update_of_ne hj]
    rfl

/-- A queue that is registered belongs to a call that fits what is put under its key. -/
theorem fits_of_pending (h : Sound s) {t : String} {k : Nat} {m : Message}
    (hget : s.pendingRequests.get? t = some k)
    (hm : m.requestId = some t ∨ m.type ∈ broadcastTypes) : Fits s.ids k m := by
  obtain ⟨id, hp, ht⟩ := h.pending t k hget
  refine ⟨id, Phase.id_of_pending hp, ?_⟩
  rcases hm with hm | hm
  · exact .inl (by rw [hm, ht])
  · exact .inr hm

/-- A step in which no call moves. -/
theorem of_phase {r : Client} (h : Sound s) (hphase : r.phase = s.phase)
    (hcounter : r.requestIdCounter = s.requestIdCounter)
    (hpending : ∀ t k, r.pendingRequests.get? t = some k → s.pendingRequests.get? t = some k)
    (hheld : Held s.ids r) : Sound r := by
  have hids : r.ids = s.ids := by
    funext k
    rw [Client.ids, Client.ids, hphase]
  refine ⟨?_, ?_, ?_, ?_, ?_⟩
  · rw [hids, hcounter]
    exact h.counted
  · rw [hids]
    exact h.unique
  · rw [hphase]
    exact fun t k hget => h.pending t k (hpending t k hget)
  · rw [hphase]
    exact h.refused
  · rwa [hids]

/-- A step in which a call moves on under the id that it has. -/
theorem setPhase (h : Sound s) {r : Client} {k : Nat} {p : Phase} (hphase : r.phase = s.phase)
    (hcounter : r.requestIdCounter = s.requestIdCounter) (hid : p.id? = (s.phase k).id?)
    (hpending : ∀ t j, r.pendingRequests.get? t = some j →
      if j = k then ∃ id, p.pending? = some id ∧ id.text = t
      else s.pendingRequests.get? t = some j)
    (hrefused : ∀ id, p = .refused id → id = .hello) (hheld : Held s.ids r) :
    Sound (r.setPhase k p) := by
  have hids : (r.setPhase k p).ids = s.ids := by
    rw [ids_setPhase, hid, show r.ids = s.ids from by funext j; rw [Client.ids, Client.ids, hphase]]
    exact Function.update_eq_self k s.ids
  have hmoved : ∀ j, (r.setPhase k p).phase j = if j = k then p else s.phase j := by
    intro j
    simp only [Client.setPhase, hphase]
    by_cases hj : j = k
    · subst hj
      rw [Function.update_self, if_pos rfl]
    · rw [Function.update_of_ne hj, if_neg hj]
  refine ⟨?_, ?_, fun t j hget => ?_, fun j id hj => ?_, ?_⟩
  · rw [hids, show (r.setPhase k p).requestIdCounter = s.requestIdCounter from hcounter]
    exact h.counted
  · rw [hids]
    exact h.unique
  · have hcases := hpending t j hget
    rw [hmoved j]
    by_cases hj : j = k
    · rwa [if_pos hj] at hcases ⊢
    · rw [if_neg hj] at hcases ⊢
      exact h.pending t j hcases
  · rw [hmoved j] at hj
    by_cases hjk : j = k
    · rw [if_pos hjk] at hj
      exact hrefused id hj
    · rw [if_neg hjk] at hj
      exact h.refused j id hj
  · rw [hids]
    exact { hheld with }

/-- A call begins and draws its id. -/
theorem begin (h : Sound s) {k counter : Nat} {id : RequestId} (hout : s.phase k = .outside)
    (hcounter : s.requestIdCounter ≤ counter)
    (hfresh : ∀ word n, id = .counted word n → n ≤ counter ∧ s.requestIdCounter < n) :
    Sound ({ s with requestIdCounter := counter }.setPhase k (.drawn id)) := by
  have hids : ({ s with requestIdCounter := counter }.setPhase k (.drawn id)).ids
      = Function.update s.ids k (some id) := ids_setPhase k (.drawn id)
  have hnone : s.ids k = none := by rw [Client.ids, hout]; rfl
  refine ⟨fun j word n hj => ?_, fun i j word word' n hi hj => ?_, fun t j hget => ?_,
    fun j id' hj => ?_, ?_⟩
  · rw [hids] at hj
    show n ≤ counter
    by_cases hjk : j = k
    · subst hjk
      rw [Function.update_self] at hj
      exact (hfresh word n (Option.some.inj hj)).1
    · rw [Function.update_of_ne hjk] at hj
      exact (h.counted j word n hj).trans hcounter
  · rw [hids] at hi hj
    -- a number that is drawn now is above all that were drawn before
    by_cases hik : i = k
    · by_cases hjk : j = k
      · rw [hik, hjk]
      · rw [hik, Function.update_self] at hi
        rw [Function.update_of_ne hjk] at hj
        have hnew := (hfresh word n (Option.some.inj hi)).2
        have hold := h.counted j word' n hj
        omega
    · rw [Function.update_of_ne hik] at hi
      by_cases hjk : j = k
      · rw [hjk, Function.update_self] at hj
        have hnew := (hfresh word' n (Option.some.inj hj)).2
        have hold := h.counted i word n hi
        omega
      · rw [Function.update_of_ne hjk] at hj
        exact h.unique i j word word' n hi hj
  · obtain ⟨id', hp, ht⟩ := h.pending t j hget
    have hjk : j ≠ k := by
      rintro rfl
      rw [hout] at hp
      cases hp
    simp only [Client.setPhase]
    rw [Function.update_of_ne hjk]
    exact ⟨id', hp, ht⟩
  · simp only [Client.setPhase] at hj
    by_cases hjk : j = k
    · subst hjk
      rw [Function.update_self] at hj
      cases hj
    · rw [Function.update_of_ne hjk] at hj
      exact h.refused j id' hj
  · rw [hids]
    have hextends : Extends s.ids (Function.update s.ids k (some id)) := by
      intro j id' hj
      rw [Function.update_of_ne]
      · exact hj
      · rintro rfl
        rw [hnone] at hj
        cases hj
    exact { h.held.mono hextends with }

/-- A counted id is not pending when it is registered. -/
theorem unregistered (h : Sound s) {k : Nat} {word : String} {n : Nat}
    (hk : s.phase k = .drawn (.counted word n)) :
    (RequestId.counted word n).text ∉ s.pendingRequests.keys := by
  intro hmem
  obtain ⟨j, hget⟩ := Option.isSome_iff_exists.mp (Dict.get?_isSome_iff.mpr hmem)
  obtain ⟨id, hp, ht⟩ := h.pending _ j hget
  have hnumber := RequestId.number_of_text ht.symm
  cases id with
  | hello => cases hnumber
  | counted word' n' =>
      obtain rfl : n' = n := Option.some.inj hnumber
      have hids : s.ids k = some (.counted word n') := by rw [Client.ids, hk]; rfl
      obtain rfl := h.unique j k word' word n' (Phase.id_of_pending hp) hids
      rw [hk] at hp
      cases hp

/-- The write of a command, whatever comes of it. -/
theorem sent (h : Sound s) {r : Client} {k : Nat} {id : RequestId}
    (hk : s.phase k = .registered id) (hphase : r.phase = s.phase)
    (hcounter : r.requestIdCounter = s.requestIdCounter)
    (hpending : ∀ t j, r.pendingRequests.get? t = some j → s.pendingRequests.get? t = some j)
    (hheld : Held s.ids r) : Sound (r.setPhase k (.sent id)) := by
  refine h.setPhase hphase hcounter (by rw [hk]; rfl) (fun t j hget => ?_)
    (fun id' hid => by cases hid) hheld
  have hold := hpending t j hget
  split
  · rename_i hjk
    subst hjk
    obtain ⟨id', hp, ht⟩ := h.pending t j hold
    rw [hk] at hp
    cases hp
    exact ⟨id, rfl, ht⟩
  · exact hold

/-- The command goes to the gateway under the id of its call. -/
theorem held_command (h : Sound s) {k : Nat} {id : RequestId} (hk : s.phase k = .registered id) :
    ∀ c ∈ s.commands ++ [(k, id.text)], ∃ id, s.ids c.1 = some id ∧ c.2 = id.text := by
  intro c hc
  rcases List.mem_append.mp hc with hold | hnew
  · exact h.held.commands c hold
  · rw [List.mem_singleton.mp hnew]
    exact ⟨id, by rw [Client.ids, hk]; rfl, rfl⟩

theorem step {s' : Client} {a : Action} (h : Sound s) (hstep : Client.step s a = some s') :
    Sound s' := by
  cases a with
  | draw k word =>
      simp only [Client.step] at hstep
      split at hstep
      · rename_i hk
        cases hstep
        refine h.begin hk (Nat.le_succ _) (fun word' n hid => ?_)
        cases hid
        omega
      · cases hstep
  | hello k =>
      simp only [Client.step] at hstep
      split at hstep
      · rename_i hk
        cases hstep
        refine h.begin hk (Nat.le_refl _) (fun word' n hid => ?_)
        cases hid
      · cases hstep
  | register k =>
      simp only [Client.step] at hstep
      split at hstep
      · rename_i id hk
        split at hstep
        · rename_i hmem
          cases hstep
          refine h.setPhase rfl rfl (by rw [hk]; rfl) (fun t j hget => ?_) (fun id' hid => ?_)
            h.held
          · split
            · rename_i hjk
              subst hjk
              obtain ⟨id', hp, _⟩ := h.pending t j hget
              rw [hk] at hp
              cases hp
            · exact hget
          · cases hid
            cases id with
            | hello => rfl
            | counted word n => exact absurd hmem (h.unregistered hk)
        · cases hstep
          refine h.setPhase (r := { s with pendingRequests := s.pendingRequests.set id.text k }) rfl
            rfl (by rw [hk]; rfl) (fun t j hget => ?_) (fun id' hid => by cases hid) { h.held with }
          by_cases ht : t = id.text
          · subst ht
            rw [Dict.get?_set_self] at hget
            rw [if_pos (Option.some.inj hget).symm]
            exact ⟨id, rfl, rfl⟩
          · rw [Dict.get?_set_ne _ _ (Ne.symm ht)] at hget
            split
            · rename_i hjk
              subst hjk
              obtain ⟨id', hp, _⟩ := h.pending t j hget
              rw [hk] at hp
              cases hp
            · exact hget
      · cases hstep
  | send k =>
      simp only [Client.step] at hstep
      split at hstep
      · rename_i id hk
        cases hstep
        exact h.sent (r := { s with commands := s.commands ++ [(k, id.text)] }) hk rfl rfl
          (fun t j hget => hget) { h.held with commands := h.held_command hk }
      · cases hstep
  | sendFails k received tornDown =>
      simp only [Client.step] at hstep
      split at hstep
      · rename_i id hk
        cases hstep
        refine h.sent hk rfl rfl (fun t j hget => ?_) { h.held with commands := ?_ }
        · cases tornDown with
          | false => exact hget
          | true => cases hget
        · cases received with
          | false => exact h.held.commands
          | true => exact h.held_command hk
      · cases hstep
  | take k =>
      simp only [Client.step] at hstep
      split at hstep
      · rename_i id msg rest _ hqueue
        cases hstep
        refine h.of_phase rfl rfl (fun t j hget => hget) { h.held with
          queue := fun j m hm => ?_
          taken := fun j m hm => ?_ }
        · by_cases hj : j = k
          · subst hj
            simp only [Function.update_self] at hm
            exact h.held.queue j m (by rw [hqueue]; exact List.mem_cons_of_mem _ hm)
          · simp only [Function.update_of_ne hj] at hm
            exact h.held.queue j m hm
        · by_cases hj : j = k
          · subst hj
            simp only [Function.update_self] at hm
            rcases List.mem_append.mp hm with hold | hnew
            · exact h.held.taken j m hold
            · rw [List.mem_singleton.mp hnew]
              exact h.held.queue j msg (by rw [hqueue]; exact List.mem_cons_self)
          · simp only [Function.update_of_ne hj] at hm
            exact h.held.taken j m hm
      · cases hstep
  | unregister k =>
      simp only [Client.step] at hstep
      split at hstep
      · rename_i id hp
        cases hstep
        refine h.setPhase (r := { s with pendingRequests := s.pendingRequests.erase id.text }) rfl
          rfl (Phase.id_of_pending hp).symm (fun t j hget => ?_) (fun id' hid => by cases hid)
          { h.held with }
        have ht : t ≠ id.text := by
          rintro rfl
          rw [Dict.get?_erase_self] at hget
          cases hget
        rw [Dict.get?_erase_ne _ ht] at hget
        split
        · rename_i hjk
          subst hjk
          obtain ⟨id', hp', ht'⟩ := h.pending t j hget
          rw [hp] at hp'
          cases hp'
          exact absurd ht'.symm ht
        · exact hget
      · cases hstep
  | answer c type =>
      simp only [Client.step] at hstep
      split at hstep
      · rename_i k requestId hc
        cases hstep
        refine h.of_phase rfl rfl (fun t j hget => hget) { h.held with wire := fun m hm => ?_ }
        rcases List.mem_append.mp hm with hold | hnew
        · exact h.held.wire m hold
        · rw [List.mem_singleton.mp hnew]
          obtain ⟨id, hk, ht⟩ := h.held.commands _ (List.mem_of_getElem? hc)
          exact ⟨id, hk, congrArg some ht⟩
      · cases hstep
  | notify type =>
      simp only [Client.step, Option.some.injEq] at hstep
      subst hstep
      refine h.of_phase rfl rfl (fun t j hget => hget) { h.held with wire := fun m hm => ?_ }
      rcases List.mem_append.mp hm with hold | hnew
      · exact h.held.wire m hold
      · rw [List.mem_singleton.mp hnew]
        exact rfl
  | lose =>
      simp only [Client.step, Option.some.injEq] at hstep
      subst hstep
      exact h.of_phase rfl rfl (fun t j hget => hget)
        { h.held with wire := fun m hm => h.held.wire m (List.mem_of_mem_tail hm) }
  | receive =>
      simp only [Client.step] at hstep
      split at hstep
      · rename_i msg rest hreader hwire
        cases hstep
        have hmsg := h.held.wire msg (by rw [hwire]; exact List.mem_cons_self)
        refine h.of_phase rfl rfl (fun t j hget => hget) { h.held with
          wire := fun m hm => h.held.wire m (by rw [hwire]; exact List.mem_cons_of_mem _ hm)
          reader := fun m hm => ?_
          found := fun m t hm => by cases hm
          spreading := fun m hm => by cases hm }
        cases hm
        exact hmsg
      · cases hstep
  | lookUp =>
      simp only [Client.step] at hstep
      split at hstep
      · rename_i msg hreader
        cases hstep
        have hmsg := h.held.reader msg (by rw [hreader]; rfl)
        refine h.of_phase rfl rfl (fun t j hget => hget) { h.held with
          reader := fun m hm => ?_
          found := fun m t hm => ?_
          spreading := fun m hm => ?_ }
        · rcases lookedUp_cases s msg with ⟨t, _, heq⟩ | ⟨_, heq⟩ | heq <;> rw [heq] at hm <;>
            cases hm
          · exact hmsg
          · exact hmsg
        · rcases lookedUp_cases s msg with ⟨t', ht, heq⟩ | ⟨_, heq⟩ | heq <;> rw [heq] at hm <;>
            cases hm
          exact ht
        · rcases lookedUp_cases s msg with ⟨t', _, heq⟩ | ⟨ht, heq⟩ | heq <;> rw [heq] at hm <;>
            cases hm
          exact ht
      · cases hstep
  | put =>
      simp only [Client.step] at hstep
      split at hstep
      · rename_i msg requestId hreader
        have hmsg := h.held.reader msg (by rw [hreader]; rfl)
        have hid := h.held.found msg requestId hreader
        split at hstep
        · rename_i k hget
          cases hstep
          refine h.of_phase rfl rfl (fun t j hget => hget) (Held.idle (h.held.putAll hmsg ?_))
          intro j hj
          rw [List.mem_singleton.mp hj]
          exact h.fits_of_pending hget (.inl hid)
        · cases hstep
          exact h.of_phase rfl rfl (fun t j hget => by cases hget)
            (Held.idle (s := s.dropPending) { h.held with })
      · cases hstep
  | spread n =>
      simp only [Client.step] at hstep
      split at hstep
      · rename_i msg hreader
        have hmsg := h.held.reader msg (by rw [hreader]; rfl)
        have htype := h.held.spreading msg hreader
        have hheld : Held s.ids (s.putAll (s.pendingRequests.values.take n) msg) := by
          refine h.held.putAll hmsg fun k hk => ?_
          obtain ⟨t, ht⟩ := Dict.mem_values_iff.mp (List.mem_of_mem_take hk)
          exact h.fits_of_pending (Dict.get?_eq_some_iff.mpr ht) (.inr htype)
        split at hstep
        · cases hstep
          exact h.of_phase rfl rfl (fun t j hget => by cases hget)
            (Held.idle (s := (s.putAll (s.pendingRequests.values.take n) msg).dropPending)
              { hheld with })
        · cases hstep
          exact h.of_phase rfl rfl (fun t j hget => hget) hheld.idle
      · cases hstep
  | tearDown =>
      simp only [Client.step, Option.some.injEq] at hstep
      subst hstep
      exact h.of_phase rfl rfl (fun t j hget => by cases hget) { h.held with }
  | retire =>
      simp only [Client.step, Option.some.injEq] at hstep
      subst hstep
      refine h.of_phase rfl rfl (fun t j hget => hget) { h.held with queue := fun k m hm => ?_ }
      rcases List.mem_append.mp hm with hold | hnew
      · exact h.held.queue k m hold
      · obtain ⟨e, he, rfl⟩ := List.mem_map.mp hnew
        rw [List.mem_filter, decide_eq_true_eq] at he
        obtain ⟨hentry, rfl⟩ := he
        exact ⟨rfl, h.fits_of_pending (Dict.get?_eq_some_iff.mpr hentry) (.inl rfl)⟩

end Sound

/-! ## Every run -/

theorem sound_init : Sound init where
  counted k word n hk := by cases hk
  unique j k word word' n hj := by cases hj
  pending t k hget := by cases hget
  refused k id hk := by cases hk
  held := {
    commands := fun c hc => by cases hc
    wire := fun m hm => by cases hm
    reader := fun m hm => by cases hm
    found := fun m t hm => by cases hm
    spreading := fun m hm => by cases hm
    queue := fun k m hm => by cases hm
    taken := fun k m hm => by cases hm }

theorem sound_of_reach {s : Client} (hrun : Machine.Reach Client.step init s) : Sound s := by
  refine Machine.Run.invariant sound_init ?_ hrun
  intro r a r' _ hstep h
  exact h.step hstep

/-- No other call has the id of a call that drew it. -/
theorem Sound.only {s : Client} (h : Sound s) {j k : Nat} {word : String} {n : Nat} {id : RequestId}
    (hk : s.ids k = some (.counted word n)) (hj : s.ids j = some id)
    (ht : id.text = (RequestId.counted word n).text) : j = k := by
  have hnumber := RequestId.number_of_text ht.symm
  cases id with
  | hello => cases hnumber
  | counted word' n' =>
      obtain rfl : n' = n := Option.some.inj hnumber
      exact h.unique j k word' word n' hj hk

/-- A message under the id of a call that drew it answers its own command, unless it comes from a
recovery. -/
theorem Sound.cause_of_taken {s : Client} (h : Sound s) {k : Nat} {word : String} {n : Nat}
    (hk : s.ids k = some (.counted word n)) {m : Message} (hm : m ∈ s.taken k)
    (hid : m.requestId = some (RequestId.counted word n).text) :
    m.cause = .answer k ∨ m.cause = .retired ∧ m.type = "error" := by
  have hknown := (h.held.taken k m hm).1
  unfold Known at hknown
  cases hcause : m.cause with
  | answer j =>
      rw [hcause] at hknown
      obtain ⟨id, hj, hid'⟩ := hknown
      have ht := Option.some.inj (hid'.symm.trans hid)
      rw [h.only hk hj ht]
      exact .inl rfl
  | event =>
      rw [hcause] at hknown
      rw [hknown] at hid
      cases hid
  | retired =>
      rw [hcause] at hknown
      exact .inr ⟨rfl, hknown⟩

/-- **No call is answered for another.** Whatever calls, reader, recoveries and gateway do in any
order: a call that has drawn its id is not refused, nobody else has that id, a message that it takes
from its queue and that carries the id answers its own command or was put there by a recovery, any
other message is one of the statistics, and `_wait_for_success` returns only answers to the call's
own command. -/
theorem answers_own {s : Client} (hrun : Machine.Reach Client.step init s) {k : Nat} {word : String}
    {n : Nat} (hk : s.ids k = some (.counted word n)) :
    s.phase k ≠ .refused (.counted word n)
      ∧ (∀ j id, s.ids j = some id → id.text = (RequestId.counted word n).text → j = k)
      ∧ (∀ m ∈ s.taken k, m.requestId = some (RequestId.counted word n).text →
          m.cause = .answer k ∨ m.cause = .retired)
      ∧ (∀ m ∈ s.taken k, m.requestId ≠ some (RequestId.counted word n).text →
          m.type ∈ broadcastTypes)
      ∧ ∀ successType m, successType ≠ "error" →
          waitForSuccess (RequestId.counted word n).text successType (s.taken k) = .returned m →
          m.cause = .answer k := by
  have h := sound_of_reach hrun
  refine ⟨fun hrefused => ?_, fun j id hj ht => h.only hk hj ht, fun m hm hid => ?_,
    fun m hm hid => ?_, fun successType m hsuccess hwait => ?_⟩
  · cases h.refused k _ hrefused
  · exact (h.cause_of_taken hk hm hid).imp_right And.left
  · obtain ⟨id, hk', hfit⟩ := (h.held.taken k m hm).2
    obtain rfl : id = .counted word n := Option.some.inj (hk'.symm.trans hk)
    exact hfit.resolve_left hid
  · obtain ⟨hm, htype, hid⟩ := of_waitForSuccess hwait
    rcases h.cause_of_taken hk hm hid with hown | ⟨_, herror⟩
    · exact hown
    · exact absurd (htype.symm.trans herror) hsuccess

/-- A read times out and is repeated. The answer to the first attempt comes while the second one is
waiting, and the second is answered by its own. -/
def repeated : List Action :=
  [.draw 0 "read", .register 0, .send 0, .unregister 0, .retire, .draw 1 "read", .register 1,
    .send 1, .answer 0 "read_result", .answer 1 "read_result", .receive, .lookUp, .receive, .lookUp,
    .put, .take 1]

theorem answers_own_repeated : ∃ s : Client, s.ids 1 = some (.counted "read" 2)
    ∧ s.taken 1 ≠ []
    ∧ ∀ m ∈ s.taken 1, m.requestId = some (RequestId.counted "read" 2).text →
        m.cause = .answer 1 ∨ m.cause = .retired :=
  ⟨_, by decide, by decide, (answers_own (Machine.reach_of_exec repeated rfl) (by decide)).2.2.1⟩

end NexusN3.Gateway.Requests
