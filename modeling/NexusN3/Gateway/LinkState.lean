import Mathlib.Data.Finset.Basic
import NexusN3.Lib.Unwinding

/-!
# Link state on the host

The gateway says `sensor_connected` and `sensor_disconnected`. The reader thread records a
disconnect when it observes the message. A connect is recorded later, by the thread that called
`connect`, when it takes the message from the queue of its request and the address is still pending.

* **`Client.step`** — the reader between observing a message and putting it in a queue, and the
  calls of `connect` between two messages they take.
* **`discards`** — whether a connect, going on through what its queue holds, comes to discard an
  address.
* **`Agreeing`** — the host agrees with the last link message, or a connect in progress is still to
  take the one that makes it agree.
* **`orderly`** — the condition on one step.
* **`agreeing_iff`** — host and gateway agree all along a run exactly when every step is orderly.
-/

namespace NexusN3.Gateway.LinkState

open Lib

inductive LinkType where
  | sensorConnected
  | sensorDisconnected
  deriving DecidableEq

/-- What a request queue holds, as `connect` reads it. -/
inductive Reply where
  | link (type : LinkType) (address : Option String)
  /-- an `error` that carries the id of the request -/
  | error
  | other
  deriving DecidableEq

structure Message where
  reply : Reply
  requestId : Option Nat
  deriving DecidableEq

/-- A call of `connect` in progress. -/
structure Request where
  pending : List String
  queue : List Reply
  deriving DecidableEq

/-- Where the reader thread stands. -/
inductive Reader where
  | idle
  /-- the message has been observed -/
  | routing (msg : Message)
  /-- its request id has been found in `pending_requests` -/
  | putting (msg : Message)
  /-- an exception ended the transport session -/
  | stopped
  deriving DecidableEq

structure Client where
  /-- `disconnected_addresses` -/
  disconnectedAddresses : Finset String
  /-- the connects that `pending_requests` knows -/
  pendingRequests : Finset Nat
  requests : Nat → Option Request
  /-- `_request_id_counter` -/
  requestIdCounter : Nat
  reader : Reader
  /-- the last link message about an address -/
  lastLink : String → Option LinkType

inductive Action where
  /-- the next message is extracted and `_observe_json` returns -/
  | observe (msg : Message)
  /-- `_route_json` looks the request up -/
  | route
  /-- and puts the message in its queue -/
  | put
  /-- `connect` is called and registers its request -/
  | connect (requestId : Nat) (addresses : List String)
  /-- it takes the next message from its queue -/
  | consume (requestId : Nat)
  /-- it returns, or raises -/
  | ends (requestId : Nat)
  deriving DecidableEq

section Connect

/-- `_normalize_address`; `norm` is `strip` and `upper`. -/
def normalizeAddress (norm : String → String) : Option String → String
  | none => ""
  | some address => if address = "" then "" else norm address

variable (norm : String → String)

/-- The message is about this address. -/
def Reply.about : Reply → Option (LinkType × String)
  | .link type address =>
    let a := normalizeAddress norm address
    if a = "" then none else some (type, a)
  | _ => none

/-- A connect with these addresses pending comes to discard `a` on its way through the replies. -/
def discards (a : String) : List String → List Reply → Bool
  | _, [] => false
  | [], _ => false
  | _ :: _, .error :: _ => false
  | p :: ps, .other :: rest => discards a (p :: ps) rest
  | p :: ps, .link type address :: rest =>
    let b := normalizeAddress norm address
    if b ∈ p :: ps then
      (decide (type = .sensorConnected ∧ b = a)) || discards a ((p :: ps).erase b) rest
    else discards a (p :: ps) rest

end Connect

namespace Client

variable (norm : String → String)

/-- `_observe_json`. -/
def observe (s : Client) (reply : Reply) : Client :=
  match reply.about norm with
  | none => s
  | some (type, a) =>
    { s with
      disconnectedAddresses :=
        if type = .sensorDisconnected then insert a s.disconnectedAddresses
        else s.disconnectedAddresses
      lastLink := Function.update s.lastLink a (some type) }

def setRequest (s : Client) (r : Nat) (req : Option Request) : Client :=
  { s with requests := Function.update s.requests r req }

/-- `_unregister_request`, with the end of the call. -/
def unregister (s : Client) (r : Nat) : Client :=
  { s.setRequest r none with pendingRequests := s.pendingRequests.erase r }

/-- One turn of the loop of `connect`. -/
def take (s : Client) (r : Nat) (pending : List String) (rest : List Reply) : Reply → Client
  | .link type address =>
    let b := normalizeAddress norm address
    if b ∈ pending then
      { s.setRequest r (some ⟨pending.erase b, rest⟩) with
        disconnectedAddresses :=
          if type = .sensorConnected then s.disconnectedAddresses.erase b
          else s.disconnectedAddresses }
    else s.setRequest r (some ⟨pending, rest⟩)
  | .error => s.unregister r
  | .other => s.setRequest r (some ⟨pending, rest⟩)

def step : Machine Client Action
  | s, .observe msg =>
    match s.reader with
    | .idle => some { s.observe norm msg.reply with reader := .routing msg }
    | _ => none
  | s, .route =>
    match s.reader with
    | .routing msg =>
      match msg.requestId with
      | none => some { s with reader := .idle }
      | some r =>
        if r ∈ s.pendingRequests then some { s with reader := .putting msg }
        else some { s with reader := .idle }
    | _ => none
  | s, .put =>
    match s.reader with
    | .putting ⟨reply, some r⟩ =>
      if r ∈ s.pendingRequests then
        let queued := (s.requests r).map fun req => ⟨req.pending, req.queue ++ [reply]⟩
        some { s.setRequest r queued with reader := .idle }
      -- the KeyError ends in `_handle_transport_failure`
      else some { s with pendingRequests := ∅, reader := .stopped }
    | _ => none
  | s, .connect r addresses =>
    if s.requestIdCounter < r then
      some { s.setRequest r (some ⟨addresses.map fun a => normalizeAddress norm (some a), []⟩) with
        pendingRequests := insert r s.pendingRequests
        requestIdCounter := r }
    else none
  | s, .consume r =>
    match s.requests r with
    | some ⟨p :: ps, reply :: rest⟩ => some (s.take norm r (p :: ps) rest reply)
    | _ => none
  | s, .ends r =>
    match s.requests r with
    | some _ => some (s.unregister r)
    | none => none

/-- The client before the first message. -/
def init : Client where
  disconnectedAddresses := ∅
  pendingRequests := ∅
  requests := fun _ => none
  requestIdCounter := 0
  reader := .idle
  lastLink := fun _ => none

/-- `is_disconnected`. -/
def isDisconnected (s : Client) (address : String) : Bool :=
  decide (normalizeAddress norm (some address) ∈ s.disconnectedAddresses)

/-- Every received message has been processed and no connect is in progress. -/
def quiet (s : Client) : Prop :=
  (s.reader = .idle ∨ s.reader = .stopped) ∧ ∀ r, s.requests r = none

/-- The message in the hands of the reader, when it is for this request. -/
def inHand (s : Client) (r : Nat) : List Reply :=
  match s.reader with
  | .routing msg | .putting msg => if msg.requestId = some r then [msg.reply] else []
  | _ => []

/-- A connect in progress other than `spent` is still to take a message at which it discards `a`. -/
def Owed (s : Client) (spent : Option Nat) (a : String) : Prop :=
  ∃ r req, some r ≠ spent ∧ s.requests r = some req ∧
    discards norm a req.pending (req.queue ++ s.inHand r) = true

structure Agreeing (s : Client) : Prop where
  agrees : s.quiet → ∀ address type, s.lastLink (normalizeAddress norm (some address)) = some type →
    (s.isDisconnected norm address = true ↔ type = .sensorDisconnected)
  disconnected : ∀ a, s.lastLink a = some .sensorDisconnected → a ∈ s.disconnectedAddresses
  connected : ∀ a, s.lastLink a = some .sensorConnected → a ∈ s.disconnectedAddresses →
    s.Owed norm none a

/-- The condition on one step that can be taken. -/
def orderly (s : Client) (a : Action) : Prop :=
  (step norm s a).isSome = true →
    match a with
    -- a connect of an address that is recorded as disconnected is one that a connect in progress
    -- is still to discard
    | .observe msg => ∀ b, msg.reply.about norm = some (.sensorConnected, b) →
        b ∈ s.disconnectedAddresses →
        ∃ r req, s.requests r = some req ∧ discards norm b req.pending
          (req.queue ++ if msg.requestId = some r then [msg.reply] else []) = true
    -- a connect discards no address whose last message is a disconnect
    | .consume r => ∀ req address rest, s.requests r = some req →
        req.queue = .link .sensorConnected address :: rest →
        normalizeAddress norm address ∈ req.pending →
        s.lastLink (normalizeAddress norm address) ≠ some .sensorDisconnected
    -- a connect that ends leaves no address behind that only it was to discard
    | .ends r => ∀ b, s.lastLink b = some .sensorConnected → b ∈ s.disconnectedAddresses →
        s.Owed norm (some r) b
    | _ => True

/-- What every step keeps: while the reader runs, the connects in progress are the registered
ones. -/
structure Kept (s : Client) : Prop where
  registered : s.reader ≠ .stopped → ∀ r, r ∈ s.pendingRequests ↔ (s.requests r).isSome = true
  counted : ∀ r, (s.requests r).isSome = true → r ≤ s.requestIdCounter

section Invariant

variable {norm : String → String}

@[simp] theorem setRequest_requests (s : Client) (r r' : Nat) (req : Option Request) :
    (s.setRequest r req).requests r' = if r' = r then req else s.requests r' :=
  Function.update_apply s.requests r req r'

theorem kept_init : init.Kept := by
  constructor
  · exact fun _ r => by simp [init]
  · exact fun r hr => by simp [init] at hr

/-- A change of a request that stays registered. -/
theorem Kept.setRequest {s : Client} (h : s.Kept) {r : Nat} {q : Request}
    (hlive : (s.requests r).isSome = true) : (s.setRequest r (some q)).Kept := by
  refine ⟨?_, ?_⟩
  · intro hrunning r'
    rw [setRequest_requests]
    split
    · rename_i hr
      subst hr
      exact iff_of_true ((h.registered hrunning r').mpr hlive) rfl
    · exact h.registered hrunning r'
  · intro r' hr'
    rw [setRequest_requests] at hr'
    split at hr'
    · rename_i hr
      subst hr
      exact h.counted r' hlive
    · exact h.counted r' hr'

theorem Kept.unregister {s : Client} (h : s.Kept) (r : Nat) : (s.unregister r).Kept := by
  refine ⟨?_, ?_⟩
  · intro hrunning r'
    show r' ∈ s.pendingRequests.erase r ↔ ((s.setRequest r none).requests r').isSome = true
    rw [Finset.mem_erase, setRequest_requests]
    split
    · rename_i hr
      simp [hr]
    · rename_i hr
      rw [← h.registered hrunning r']
      exact and_iff_right hr
  · intro r' hr'
    change ((s.setRequest r none).requests r').isSome = true at hr'
    rw [setRequest_requests] at hr'
    split at hr'
    · cases hr'
    · exact h.counted r' hr'

theorem Kept.take {s : Client} (h : s.Kept) {r : Nat} (hlive : (s.requests r).isSome = true)
    (pending : List String) (rest : List Reply) (reply : Reply) :
    (s.take norm r pending rest reply).Kept := by
  cases reply with
  | link type address =>
    simp only [Client.take]
    split
    · have hset := h.setRequest (q := ⟨pending.erase (normalizeAddress norm address), rest⟩) hlive
      exact ⟨hset.registered, hset.counted⟩
    · exact h.setRequest hlive
  | error => exact h.unregister r
  | other => exact h.setRequest hlive

theorem kept_step {s s' : Client} {a : Action} (hstep : step norm s a = some s') (h : s.Kept) :
    s'.Kept := by
  cases a with
  | observe msg =>
    simp only [step] at hstep
    split at hstep <;> cases hstep
    rename_i hidle
    have hrunning : s.reader ≠ .stopped := by simp [hidle]
    unfold Client.observe
    split
    · exact ⟨fun _ => h.registered hrunning, h.counted⟩
    · exact ⟨fun _ => h.registered hrunning, h.counted⟩
  | route =>
    simp only [step] at hstep
    split at hstep
    · rename_i msg hrouting
      have hrunning : s.reader ≠ .stopped := by simp [hrouting]
      split at hstep
      · cases hstep
        exact ⟨fun _ => h.registered hrunning, h.counted⟩
      · split at hstep <;> cases hstep <;> exact ⟨fun _ => h.registered hrunning, h.counted⟩
    · cases hstep
  | put =>
    simp only [step] at hstep
    split at hstep
    · rename_i reply r hputting
      have hrunning : s.reader ≠ .stopped := by simp [hputting]
      split at hstep <;> cases hstep
      · rename_i hr
        have hlive := (h.registered hrunning r).mp hr
        obtain ⟨req, hreq⟩ := Option.isSome_iff_exists.mp hlive
        have hset := h.setRequest (q := ⟨req.pending, req.queue ++ [reply]⟩) hlive
        rw [hreq]
        exact ⟨fun _ => hset.registered hrunning, hset.counted⟩
      · exact ⟨fun hstopped => absurd rfl hstopped, h.counted⟩
    · cases hstep
  | connect r addresses =>
    simp only [step] at hstep
    split at hstep <;> cases hstep
    rename_i hr
    refine ⟨?_, ?_⟩
    · intro hrunning r'
      show r' ∈ insert r s.pendingRequests ↔ ((s.setRequest r _).requests r').isSome = true
      rw [Finset.mem_insert, setRequest_requests]
      split
      · rename_i hr'
        simp [hr']
      · rename_i hr'
        rw [← h.registered hrunning r']
        exact or_iff_right hr'
    · intro r' hr'
      change ((s.setRequest r _).requests r').isSome = true at hr'
      rw [setRequest_requests] at hr'
      split at hr'
      · rename_i hr''
        exact Nat.le_of_eq hr''
      · exact Nat.le_of_lt (Nat.lt_of_le_of_lt (h.counted r' hr') hr)
  | consume r =>
    simp only [step] at hstep
    split at hstep
    · rename_i hreq
      cases hstep
      exact h.take (by rw [hreq]; rfl) _ _ _
    · cases hstep
  | ends r =>
    simp only [step] at hstep
    split at hstep <;> cases hstep
    exact h.unregister r

end Invariant

/-! ## What a connect is still to discard -/

section Owing

variable {norm : String → String}

/-- More replies take nothing away from what a connect discards. Induction on the replies. -/
theorem discards_append {a : String} {pending : List String} {replies : List Reply}
    (h : discards norm a pending replies = true) (more : List Reply) :
    discards norm a pending (replies ++ more) = true := by
  induction replies generalizing pending with
  | nil => simp [discards] at h
  | cons reply rest ih =>
    cases pending with
    | nil => simp [discards] at h
    | cons p ps =>
      cases reply with
      | link type address =>
        simp only [discards, List.cons_append] at h ⊢
        split
        · rename_i hmem
          rw [if_pos hmem, Bool.or_eq_true] at h
          rw [Bool.or_eq_true]
          exact h.imp_right ih
        · rename_i hmem
          rw [if_neg hmem] at h
          exact ih h
      | error => simp [discards] at h
      | other =>
        simp only [discards, List.cons_append] at h ⊢
        exact ih h

/-- What the connects in progress are to discard grows with what they are to take. -/
theorem Owed.mono {s s' : Client} {spent : Option Nat} {a : String} (h : s.Owed norm spent a)
    (hkeep : ∀ r req, some r ≠ spent → s.requests r = some req → ∃ more req',
      s'.requests r = some req' ∧ req'.pending = req.pending ∧
      req'.queue ++ s'.inHand r = req.queue ++ s.inHand r ++ more) : s'.Owed norm spent a := by
  obtain ⟨r, req, hspent, hreq, hdiscards⟩ := h
  obtain ⟨more, req', hreq', hpending, hqueue⟩ := hkeep r req hspent hreq
  refine ⟨r, req', hspent, hreq', ?_⟩
  rw [hpending, hqueue]
  exact discards_append hdiscards more

/-- A step that changes neither the record nor the last messages keeps the agreement when nothing
that is owed gets lost. -/
theorem agreeing_of {s : Client}
    (hdisconnected : ∀ a, s.lastLink a = some .sensorDisconnected → a ∈ s.disconnectedAddresses)
    (hconnected : ∀ a, s.lastLink a = some .sensorConnected → a ∈ s.disconnectedAddresses →
      s.Owed norm none a) : s.Agreeing norm := by
  refine ⟨?_, hdisconnected, hconnected⟩
  intro hquiet address type hlast
  unfold isDisconnected
  rw [decide_eq_true_iff]
  cases type with
  | sensorDisconnected => exact iff_of_true (hdisconnected _ hlast) rfl
  | sensorConnected =>
    refine iff_of_false ?_ (by simp)
    intro hmem
    -- a quiet client owes nothing
    obtain ⟨r, req, -, hreq, -⟩ := hconnected _ hlast hmem
    rw [hquiet.2 r] at hreq
    cases hreq

theorem Agreeing.frame {s s' : Client} (h : s.Agreeing norm)
    (hset : s'.disconnectedAddresses = s.disconnectedAddresses) (hlast : s'.lastLink = s.lastLink)
    (howed : ∀ a, s.Owed norm none a → s'.Owed norm none a) : s'.Agreeing norm := by
  apply agreeing_of
  · rw [hset, hlast]
    exact h.disconnected
  · rw [hset, hlast]
    exact fun a ha hmem => howed a (h.connected a ha hmem)

end Owing

/-! ## The agreement, step by step -/

section Steps

variable {norm : String → String}

theorem observe_requests (s : Client) (reply : Reply) :
    (s.observe norm reply).requests = s.requests := by
  unfold Client.observe
  split <;> rfl

/-- From a state that agrees, a message that is observed leads to one exactly when a connect of an
address recorded as disconnected is one that a connect in progress is to discard. -/
theorem agreeing_observe_iff {s : Client} (h : s.Agreeing norm) (hidle : s.reader = .idle)
    (msg : Message) :
    ({ s.observe norm msg.reply with reader := .routing msg } : Client).Agreeing norm ↔
      ∀ b, msg.reply.about norm = some (.sensorConnected, b) → b ∈ s.disconnectedAddresses →
        ∃ r req, s.requests r = some req ∧ discards norm b req.pending
          (req.queue ++ if msg.requestId = some r then [msg.reply] else []) = true := by
  generalize hs' : ({ s.observe norm msg.reply with reader := .routing msg } : Client) = s'
  have hrequests : s'.requests = s.requests := by
    rw [← hs']
    exact observe_requests s msg.reply
  have hhand (r : Nat) : s'.inHand r = if msg.requestId = some r then [msg.reply] else [] := by
    rw [← hs']
    rfl
  have hempty (r : Nat) : s.inHand r = [] := by
    unfold inHand
    rw [hidle]
  -- the message in the hands of the reader comes last
  have howed (a : String) (ha : s.Owed norm none a) : s'.Owed norm none a := by
    refine ha.mono ?_
    intro r req _ hreq
    exact ⟨s'.inHand r, req, by rw [hrequests, hreq], rfl, by rw [hempty, List.append_nil]⟩
  cases habout : msg.reply.about norm with
  | none =>
    refine iff_of_true ?_ (by simp)
    apply h.frame _ _ howed <;>
    · rw [← hs']
      simp only [Client.observe, habout]
  | some told =>
    obtain ⟨type, b⟩ := told
    have hlast : s'.lastLink = Function.update s.lastLink b (some type) := by
      rw [← hs']
      simp only [Client.observe, habout]
    have hset : s'.disconnectedAddresses = if type = .sensorDisconnected then
        insert b s.disconnectedAddresses else s.disconnectedAddresses := by
      rw [← hs']
      simp only [Client.observe, habout]
    cases type with
    | sensorDisconnected =>
      rw [if_pos rfl] at hset
      refine iff_of_true (agreeing_of ?_ ?_) (by simp)
      · intro a ha
        rw [hset, Finset.mem_insert]
        rw [hlast, Function.update_apply] at ha
        split at ha
        · rename_i hab
          exact .inl hab
        · exact .inr (h.disconnected a ha)
      · intro a ha hmem
        rw [hset, Finset.mem_insert] at hmem
        rw [hlast, Function.update_apply] at ha
        split at ha
        · cases ha
        · rename_i hab
          exact howed a (h.connected a ha (hmem.resolve_left hab))
    | sensorConnected =>
      rw [if_neg (by simp)] at hset
      constructor
      · intro hagree c hc hmem
        cases hc
        obtain ⟨r, req, -, hreq, hdiscards⟩ := hagree.connected b
          (by rw [hlast, Function.update_self]) (by rw [hset]; exact hmem)
        rw [hrequests] at hreq
        rw [hhand] at hdiscards
        exact ⟨r, req, hreq, hdiscards⟩
      · intro horderly
        apply agreeing_of
        · intro a ha
          rw [hset]
          rw [hlast, Function.update_apply] at ha
          split at ha
          · cases ha
          · exact h.disconnected a ha
        · intro a ha hmem
          rw [hset] at hmem
          by_cases hab : a = b
          · subst hab
            obtain ⟨r, req, hreq, hdiscards⟩ := horderly a rfl hmem
            refine ⟨r, req, by simp, by rw [hrequests, hreq], ?_⟩
            rw [hhand]
            exact hdiscards
          · rw [hlast, Function.update_of_ne hab] at ha
            exact howed a (h.connected a ha hmem)

/-- A connect takes a reply: what the others owe stays, what it owes it owes with what is left. -/
theorem Owed.taken {s s' : Client} {a : String} {r : Nat} {pending : List String}
    {reply : Reply} {rest : List Reply} (h : s.Owed norm none a)
    (hreq : s.requests r = some ⟨pending, reply :: rest⟩)
    (hothers : ∀ r', r' ≠ r → s'.requests r' = s.requests r') (hreader : s'.reader = s.reader)
    (hleft : ∀ more, discards norm a pending (reply :: (rest ++ more)) = true →
      ∃ pending', s'.requests r = some ⟨pending', rest⟩ ∧
        discards norm a pending' (rest ++ more) = true) : s'.Owed norm none a := by
  have hhand (r' : Nat) : s'.inHand r' = s.inHand r' := by
    unfold inHand
    rw [hreader]
  obtain ⟨r', req, hspent, hreq', hdiscards⟩ := h
  by_cases hr : r' = r
  · subst hr
    rw [hreq] at hreq'
    cases hreq'
    obtain ⟨pending', hnew, hd⟩ := hleft (s.inHand r') hdiscards
    exact ⟨r', _, hspent, hnew, by rw [hhand]; exact hd⟩
  · refine ⟨r', req, hspent, by rw [hothers r' hr, hreq'], ?_⟩
    rw [hhand]
    exact hdiscards

theorem owed_unregister {s : Client} {r : Nat} {a : String} :
    (s.unregister r).Owed norm none a ↔ s.Owed norm (some r) a := by
  have hrequests (r' : Nat) :
      (s.unregister r).requests r' = if r' = r then none else s.requests r' :=
    setRequest_requests s r r' none
  constructor
  · rintro ⟨r', req, -, hreq, hdiscards⟩
    rw [hrequests] at hreq
    split at hreq
    · cases hreq
    · rename_i hr
      exact ⟨r', req, by simpa using hr, hreq, hdiscards⟩
  · rintro ⟨r', req, hspent, hreq, hdiscards⟩
    have hr : r' ≠ r := by simpa using hspent
    exact ⟨r', req, by simp, by rw [hrequests, if_neg hr, hreq], hdiscards⟩

theorem agreeing_ends_iff {s : Client} (h : s.Agreeing norm) (r : Nat) :
    (s.unregister r).Agreeing norm ↔ ∀ b, s.lastLink b = some .sensorConnected →
      b ∈ s.disconnectedAddresses → s.Owed norm (some r) b := by
  constructor
  · exact fun hagree b hlast hmem => owed_unregister.mp (hagree.connected b hlast hmem)
  · exact fun horderly => agreeing_of h.disconnected
      fun b hlast hmem => owed_unregister.mpr (horderly b hlast hmem)

/-- From a state that agrees, a connect that takes a message leads to one exactly when it discards
no address whose last message is a disconnect. -/
theorem agreeing_take_iff {s : Client} (h : s.Agreeing norm) {r : Nat} {p : String}
    {ps : List String} {reply : Reply} {rest : List Reply}
    (hreq : s.requests r = some ⟨p :: ps, reply :: rest⟩) :
    (s.take norm r (p :: ps) rest reply).Agreeing norm ↔
      ∀ req address rest', s.requests r = some req →
        req.queue = .link .sensorConnected address :: rest' →
        normalizeAddress norm address ∈ req.pending →
        s.lastLink (normalizeAddress norm address) ≠ some .sensorDisconnected := by
  have hothers (pending : List String) (r' : Nat) (hr : r' ≠ r) :
      (s.setRequest r (some ⟨pending, rest⟩)).requests r' = s.requests r' := by
    rw [setRequest_requests, if_neg hr]
  have hnew (pending : List String) :
      (s.setRequest r (some ⟨pending, rest⟩)).requests r = some ⟨pending, rest⟩ := by
    rw [setRequest_requests, if_pos rfl]
  cases reply with
  | link type address =>
    simp only [Client.take]
    by_cases hmem : normalizeAddress norm address ∈ p :: ps
    · rw [if_pos hmem]
      cases type with
      | sensorConnected =>
        rw [if_pos rfl]
        constructor
        · intro hagree req address' rest' hreq' hqueue _ hlast
          rw [hreq] at hreq'
          cases hreq'
          cases hqueue
          -- the address that was discarded is not recorded any more
          exact Finset.notMem_erase _ _ (hagree.disconnected _ hlast)
        · intro horderly
          have hlast := horderly _ address rest hreq rfl hmem
          apply agreeing_of
          · intro a ha
            have hne : a ≠ normalizeAddress norm address := fun hab => hlast (hab ▸ ha)
            exact Finset.mem_erase.mpr ⟨hne, h.disconnected a ha⟩
          · intro a ha hin
            obtain ⟨hne, hold⟩ := Finset.mem_erase.mp hin
            refine (h.connected a ha hold).taken hreq (hothers _) rfl ?_
            intro more hd
            simp only [discards, if_pos hmem, true_and, Bool.or_eq_true, decide_eq_true_eq] at hd
            exact ⟨_, hnew _, hd.resolve_left (Ne.symm hne)⟩
      | sensorDisconnected =>
        rw [if_neg (by simp)]
        refine iff_of_true (h.frame rfl rfl ?_) ?_
        · intro a ha
          refine ha.taken hreq (hothers _) rfl ?_
          intro more hd
          simp only [discards, if_pos hmem, reduceCtorEq, false_and, decide_false,
            Bool.false_or] at hd
          exact ⟨_, hnew _, hd⟩
        · intro req address' rest' hreq' hqueue
          rw [hreq] at hreq'
          cases hreq'
          cases hqueue
    · rw [if_neg hmem]
      refine iff_of_true (h.frame rfl rfl ?_) ?_
      · intro a ha
        refine ha.taken hreq (hothers _) rfl ?_
        intro more hd
        simp only [discards, if_neg hmem] at hd
        exact ⟨_, hnew _, hd⟩
      · intro req address' rest' hreq' hqueue hin
        rw [hreq] at hreq'
        cases hreq'
        cases hqueue
        exact absurd hin hmem
  | error =>
    refine iff_of_true ((agreeing_ends_iff h r).mpr ?_) ?_
    · intro b hlast hin
      -- a connect that is to take an error discards nothing
      obtain ⟨r', req, -, hreq', hdiscards⟩ := h.connected b hlast hin
      refine ⟨r', req, ?_, hreq', hdiscards⟩
      intro hr
      cases hr
      rw [hreq] at hreq'
      cases hreq'
      simp [discards] at hdiscards
    · intro req address' rest' hreq' hqueue
      rw [hreq] at hreq'
      cases hreq'
      cases hqueue
  | other =>
    refine iff_of_true (h.frame rfl rfl ?_) ?_
    · intro a ha
      refine ha.taken hreq (hothers _) rfl ?_
      intro more hd
      simp only [discards] at hd
      exact ⟨_, hnew _, hd⟩
    · intro req address' rest' hreq' hqueue
      rw [hreq] at hreq'
      cases hreq'
      cases hqueue

/-- The reader hands a message over, or drops one that is for no connect in progress. -/
theorem Agreeing.route {s s' : Client} (h : s.Agreeing norm) (hkept : s.Kept)
    (hstep : step norm s .route = some s') : s'.Agreeing norm := by
  simp only [step] at hstep
  split at hstep
  case h_1 msg hrouting =>
    -- what the reader drops is in the hand of no connect in progress
    have hdrop (hdead : ∀ r, msg.requestId = some r → s.requests r = none) :
        ({ s with reader := .idle } : Client).Agreeing norm := by
      refine h.frame rfl rfl fun a ha => ha.mono ?_
      intro r req _ hreq
      refine ⟨[], req, hreq, rfl, ?_⟩
      have hhand : s.inHand r = [] := by
        unfold inHand
        rw [hrouting]
        refine if_neg fun hid => ?_
        rw [hdead r hid] at hreq
        cases hreq
      rw [hhand, List.append_nil]
      rfl
    split at hstep
    · rename_i hid
      cases hstep
      exact hdrop (by simp [hid])
    · rename_i r hid
      split at hstep
      · cases hstep
        refine h.frame rfl rfl fun a ha => ha.mono ?_
        intro r' req _ hreq
        refine ⟨[], req, hreq, rfl, ?_⟩
        rw [List.append_nil]
        simp only [inHand, hrouting]
      · rename_i hdead
        cases hstep
        refine hdrop ?_
        intro r' hid'
        rw [hid] at hid'
        cases hid'
        rw [hkept.registered (by simp [hrouting])] at hdead
        exact Option.not_isSome_iff_eq_none.mp hdead
  case h_2 => cases hstep

theorem Agreeing.put {s s' : Client} (h : s.Agreeing norm) (hkept : s.Kept)
    (hstep : step norm s .put = some s') : s'.Agreeing norm := by
  simp only [step] at hstep
  split at hstep
  case h_1 reply r hputting =>
    have hhand (r' : Nat) : s.inHand r' = if some r = some r' then [reply] else [] := by
      unfold inHand
      rw [hputting]
    split at hstep <;> cases hstep
    · refine h.frame rfl rfl fun a ha => ha.mono ?_
      intro r' req _ hreq
      by_cases hr : r' = r
      · subst hr
        refine ⟨[], ⟨req.pending, req.queue ++ [reply]⟩, ?_, rfl, ?_⟩
        · show (s.setRequest r' _).requests r' = _
          rw [setRequest_requests, if_pos rfl, hreq]
          rfl
        · rw [hhand, if_pos rfl]
          rfl
      · refine ⟨[], req, ?_, rfl, ?_⟩
        · show (s.setRequest r _).requests r' = _
          rw [setRequest_requests, if_neg hr, hreq]
        · rw [hhand, if_neg (by simpa using Ne.symm hr), List.append_nil]
          rfl
    · rename_i hdead
      rw [hkept.registered (by simp [hputting])] at hdead
      refine h.frame rfl rfl fun a ha => ha.mono ?_
      intro r' req _ hreq
      refine ⟨[], req, hreq, rfl, ?_⟩
      have hr : r ≠ r' := by
        intro hr
        subst hr
        simp [hreq] at hdead
      rw [hhand, if_neg (by simpa using hr), List.append_nil]
      rfl
  case h_2 => cases hstep

/-- A new connect takes nothing away from the others. -/
theorem Agreeing.connect {s s' : Client} (h : s.Agreeing norm) (hkept : s.Kept) {r : Nat}
    {addresses : List String} (hstep : step norm s (.connect r addresses) = some s') :
    s'.Agreeing norm := by
  simp only [step] at hstep
  split at hstep <;> cases hstep
  rename_i hfresh
  refine h.frame rfl rfl fun a ha => ha.mono ?_
  intro r' req _ hreq
  have hr : r' ≠ r := by
    have hle := hkept.counted r' (by rw [hreq]; rfl)
    exact Nat.ne_of_lt (Nat.lt_of_le_of_lt hle hfresh)
  refine ⟨[], req, ?_, rfl, by rw [List.append_nil]; rfl⟩
  show (s.setRequest r _).requests r' = _
  rw [setRequest_requests, if_neg hr, hreq]

theorem agreeing_step_iff {s s' : Client} {a : Action} (hstep : step norm s a = some s')
    (hkept : s.Kept) (h : s.Agreeing norm) : s'.Agreeing norm ↔ s.orderly norm a := by
  have henabled : (step norm s a).isSome = true := by rw [hstep]; rfl
  unfold orderly
  rw [imp_iff_right henabled]
  cases a with
  | observe msg =>
    simp only [step] at hstep
    split at hstep <;> cases hstep
    rename_i hidle
    exact agreeing_observe_iff h hidle msg
  | route => exact iff_of_true (h.route hkept hstep) trivial
  | put => exact iff_of_true (h.put hkept hstep) trivial
  | connect r addresses => exact iff_of_true (h.connect hkept hstep) trivial
  | consume r =>
    simp only [step] at hstep
    split at hstep
    · rename_i hreq
      cases hstep
      exact agreeing_take_iff h hreq
    · cases hstep
  | ends r =>
    simp only [step] at hstep
    split at hstep <;> cases hstep
    exact agreeing_ends_iff h r

/-! ## Every interleaving -/

/-- Host and gateway agree after every step of an interleaving exactly when every step is
orderly. -/
theorem agreeing_iff (norm : String → String) (actions : List Action) :
    (∀ k s, Machine.exec (step norm) init (actions.take k) = some s → s.Agreeing norm)
      ↔ Machine.Along (step norm) (orderly norm) init actions := by
  apply Machine.always_iff_along_of_step (J := Kept) kept_init
  · exact fun s a s' hs hstep => kept_step hstep hs
  · exact fun s a hstep henabled => by simp [hstep] at henabled
  · exact fun s a s' hs hagreeing hstep => agreeing_step_iff hstep hs hagreeing
  · exact agreeing_of (fun a ha => by cases ha) fun a ha => by cases ha

/-- The link goes down before the thread that called `connect` takes the reply to its request. -/
def inverted : List Action :=
  [.connect 1 ["AA"], .observe ⟨.link .sensorConnected (some "AA"), some 1⟩, .route, .put,
    .observe ⟨.link .sensorDisconnected (some "AA"), none⟩, .route, .consume 1, .ends 1]

theorem connected_after_disconnect :
    ¬ ∀ k s, Machine.exec (step id) init (inverted.take k) = some s → s.Agreeing id := by
  intro hall
  have hend : (Machine.exec (step id) init inverted).map
      (fun s => (s.requestIdCounter, s.isDisconnected id "AA", s.reader, s.requests 0, s.requests 1,
        s.lastLink "AA")) = some (1, false, .idle, none, none, some .sensorDisconnected) := by
    rfl
  obtain ⟨s, hs, hview⟩ := Option.map_eq_some_iff.mp hend
  simp only [Prod.mk.injEq] at hview
  obtain ⟨hcounter, hconnected, hidle, h0, h1, hlast⟩ := hview
  have hkept : s.Kept := (Machine.reach_of_exec inverted hs).invariant kept_init
    fun _ _ _ _ hstep h => kept_step hstep h
  have hquiet : s.quiet := by
    refine ⟨.inl hidle, ?_⟩
    intro r
    -- no request has a number beyond the counter
    by_contra hlive
    have hle := hkept.counted r (Option.isSome_iff_ne_none.mpr hlive)
    rw [hcounter] at hle
    rcases Nat.le_one_iff_eq_zero_or_eq_one.mp hle with rfl | rfl
    · exact hlive h0
    · exact hlive h1
  have hagrees := (hall 8 s hs).agrees hquiet "AA" .sensorDisconnected hlast
  rw [hconnected] at hagrees
  exact Bool.false_ne_true (hagrees.mpr rfl)

end Steps

end Client

end NexusN3.Gateway.LinkState
