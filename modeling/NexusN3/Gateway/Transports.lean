import NexusN3.Lib.Machine
import NexusN3.Gateway.Parser
import Mathlib.Logic.Function.Basic
import Mathlib.Data.Fintype.Basic

/-!
# The transports of the gateway client

The client opens a serial transport, starts a thread that reads from it, and after a failure tears
both down and opens the next one. Threads that send, start or recover, and the readers themselves,
tear down at any time: the startup owner, the write lock, the join and the transport generation keep
them apart, and there is one buffer for all readers.

* **`State.step`** — `start`, `send`, `recover_uart`, `close`, `_close_transport` and `_read_loop`,
  from one access to what threads share to the next. A transport is named by its number.
* **`alone`** — a client is closed when no call is under way.
* **`Locks`** — at most one thread tears down or opens.
* **`Readers`** — at most one reader has the buffer, the one of the transport opened last.
* **`items_of_one_transport`** — no item is parsed from the bytes of two transports.
-/

namespace NexusN3.Gateway.Transports

open Lib

set_option linter.unusedSectionVars false

/-! ## The threads -/

/-- What a transport is torn down for. -/
inductive Why where
  | recover
  /-- a write has failed -/
  | send
  /-- a write of the startup's own commands has failed -/
  | handshake
  /-- the startup has failed -/
  | start
  | client
  deriving DecidableEq

/-- How far `_close_transport` and what follows it are. -/
inductive Stage where
  | mark
  | join
  | detach
  /-- `self.buf.clear()` -/
  | clear
  deriving DecidableEq

/-- Where a thread is in its call. -/
inductive Phase where
  | idle
  /-- in `start`, before the transport is opened -/
  | opening
  /-- in `start`, resetting the session and saying hello -/
  | handshake
  /-- in `recover_uart`, before the write lock is taken -/
  | probe
  /-- in `recover_uart`, after the write lock is released -/
  | inventory
  /-- in `send`, before the write lock is taken -/
  | checked
  | sending
  | closing (why : Why) (stage : Stage)
  | reopen
  deriving DecidableEq

namespace Phase

/-- Between taking the startup and the `finally` block that gives it back. -/
def inStartup : Phase → Bool
  | opening => true
  | handshake => true
  | probe => true
  | inventory => true
  | reopen => true
  | closing .recover _ => true
  | closing .handshake _ => true
  | closing .start _ => true
  | _ => false

/-- Between taking the write lock and the `finally` block that releases it. The handshake's own
writes are not told from the rest of the handshake. -/
def inWrite : Phase → Bool
  | sending => true
  | reopen => true
  | closing .recover _ => true
  | closing .send _ => true
  | _ => false

/-- In the part of `start` that opens the first transport. -/
def initial : Phase → Bool
  | opening => true
  | handshake => true
  | closing .handshake _ => true
  | closing .start _ => true
  | _ => false

/-- Admitted by `send`. -/
def sends : Phase → Bool
  | checked => true
  | sending => true
  | closing .send _ => true
  | _ => false

def closesClient : Phase → Bool
  | closing .client _ => true
  | _ => false

/-- In a call that has opened a transport, or that has begun with one. -/
def afterOpening : Phase → Bool
  | handshake => true
  | inventory => true
  | checked => true
  | sending => true
  | closing .send _ => true
  | _ => false

/-- About to tear down or to open. -/
def changes : Phase → Bool
  | opening => true
  | reopen => true
  | closing _ _ => true
  | _ => false

/-- The reader is known to have retired. -/
def joined : Phase → Bool
  | reopen => true
  | closing _ .detach => true
  | closing _ .clear => true
  | _ => false

end Phase

namespace Why

/-- Where a thread goes on when `_close_transport` has raised. -/
def raised : Why → Phase
  | handshake => .closing .start .mark
  | _ => .idle

/-- Where a thread goes on after it. Only a failed startup leaves the buffer as it is. -/
def detached : Why → Phase
  | start => .idle
  | why => .closing why .clear

/-- Where a thread goes on after the buffer is cleared. -/
def cleared : Why → Phase
  | recover => .reopen
  | why => why.raised

end Why

/-! ## The readers -/

/-- Where a reader is in `_read_loop`. The number is the generation it was started in. -/
inductive ReaderPhase where
  | unborn
  | started
  /-- at the condition of the loop -/
  | head (generation : Nat)
  | reading (generation : Nat)
  /-- with bytes read in its generation -/
  | holding (generation : Nat) (chunk : List UInt8)
  | parsing (generation : Nat)
  /-- in `_handle_transport_failure`, which does not wait for the thread it runs on -/
  | failing (generation : Nat)
  /-- about to run `self.read_thread = None` -/
  | dropThread (generation : Nat)
  /-- about to run `self.ser = None` -/
  | dropSer (generation : Nat)
  /-- about to run `self.buf.clear()` -/
  | clearing (generation : Nat)
  /-- back at the condition of the loop -/
  | failed (generation : Nat)
  | dead
  deriving DecidableEq

namespace ReaderPhase

/-- May come to the buffer again. -/
def attached : ReaderPhase → Bool
  | started => true
  | head _ => true
  | reading _ => true
  | holding _ _ => true
  | parsing _ => true
  | failing _ => true
  | dropThread _ => true
  | _ => false

/-- The first generation that is not the reader's. It is the next one unless the reader itself has
ended its own. -/
def before : ReaderPhase → Nat
  | head g => g
  | reading g => g
  | holding g _ => g
  | parsing g => g
  | failing g => g
  | dropThread g => g + 1
  | dropSer g => g + 1
  | clearing g => g + 1
  | failed g => g + 1
  | _ => 0

end ReaderPhase

/-! ## The client -/

/-- The fields of the client, with where each thread and each reader is. -/
structure State (T Obj : Type) where
  phase : T → Phase
  /-- The readers, by the number of the transport each was started for. -/
  reader : Nat → ReaderPhase
  /-- The transport that a reader has in `transport`. -/
  transport : Nat → Nat
  startupOwner : Option T
  writeLock : Option T
  hasOpenedUart : Bool
  started : Bool
  running : Bool
  transportGeneration : Nat
  /-- The number of the transport in `ser`. -/
  ser : Option Nat
  /-- The reader in `read_thread`. -/
  readThread : Option Nat
  /-- How many transports have been opened. -/
  opened : Nat
  parser : Parser
  /-- The transport that each byte of the buffer was read from. -/
  origins : List Nat
  /-- The items dispatched, each with the transports its bytes were read from. -/
  items : List (Item Obj × List Nat)

/-- What comes of `serial.Serial(..)` and the lines up to the start of the reader. -/
inductive Opening where
  | failed
  /-- the port is set, and perhaps counted as opened, and then a line raises -/
  | broken (counted : Bool)
  | succeeded

inductive Action (T : Type) where
  | start (t : T)
  | openInitial (t : T) (outcome : Opening)
  | recover (t : T)
  /-- `write_lock.acquire` -/
  | acquire (t : T)
  | reopen (t : T) (outcome : Opening)
  /-- `start` or `recover_uart` returns; the call may be one of `send` -/
  | finish (t : T) (sends : Bool)
  /-- `send` with a transport that has been started -/
  | check (t : T)
  /-- the write returns, or something else than the port raises -/
  | write (t : T)
  | writeFails (t : T)
  | close (t : T)
  /-- the lines of `_close_transport` up to `ser.close()` -/
  | mark (t : T)
  | join (t : T)
  | detach (t : T)
  | clear (t : T)
  /-- an exception: a refused operation, a lock or an answer that does not come -/
  | leave (t : T)
  /-- the first lines of `_read_loop` -/
  | enter (i : Nat)
  | loop (i : Nat)
  | read (i : Nat) (chunk : List UInt8)
  /-- an exception in the body of the loop -/
  | raise (i : Nat)
  | extend (i : Nat)
  | extract (i : Nat)
  | markFailed (i : Nat)
  | dropThread (i : Nat)
  | dropSer (i : Nat)
  | clearFailed (i : Nat)

namespace State

variable {T Obj : Type} [DecidableEq T]

/-- Go on at `p`. The `finally` blocks on the way there give back what the thread has no longer. -/
def moveTo (s : State T Obj) (t : T) (p : Phase) : State T Obj :=
  { s with
    phase := Function.update s.phase t p
    startupOwner := if p.inStartup then some t else s.startupOwner.filter (· ≠ t)
    writeLock := if p.inWrite then some t else s.writeLock.filter (· ≠ t) }

def readerTo (s : State T Obj) (i : Nat) (p : ReaderPhase) : State T Obj :=
  { s with reader := Function.update s.reader i p }

/-- `self.running = False` and the next generation. -/
def endGeneration (s : State T Obj) : State T Obj :=
  { s with running := false, transportGeneration := s.transportGeneration + 1 }

/-- `self.ser = serial.Serial(..)`. -/
def setSer (s : State T Obj) (counted : Bool) : State T Obj :=
  { s with
    opened := s.opened + 1
    ser := some (s.opened + 1)
    hasOpenedUart := s.hasOpenedUart || counted }

/-- The transport is open and its reader is started. -/
def launch (s : State T Obj) : State T Obj :=
  { s.setSer true with
    running := true
    started := true
    readThread := some (s.opened + 1)
    reader := Function.update s.reader (s.opened + 1) .started }

def clearBuf (s : State T Obj) : State T Obj :=
  { s with parser := { s.parser with buf := [] }, origins := [] }

/-- `read_thread.is_alive()`. -/
def readerAlive (s : State T Obj) : Bool :=
  match s.readThread with
  | none => false
  | some i => s.reader i ≠ .dead

/-- Opening, with where the thread goes on after a failure and after a success. -/
def openTransport (s : State T Obj) (t : T) (failed succeeded : Phase) :
    Opening → State T Obj
  | .failed => s.moveTo t failed
  | .broken counted => (s.setSer counted).moveTo t failed
  | .succeeded => s.launch.moveTo t succeeded

/-- Where an exception takes a thread, if one can come up where it is. -/
def leaves : Phase → Option Phase
  | .handshake => some (.closing .start .mark)
  | .probe => some .idle
  | .inventory => some .idle
  | .checked => some .idle
  | .closing .recover .mark => some .idle
  | .closing .recover .clear => some .idle
  | .closing why .join => some why.raised
  | .reopen => some .idle
  | _ => none

/-- The end of the bytes of an item, or of what was dropped before it. -/
def parsed (s : State T Obj) (p : Parser) : State T Obj :=
  { s with
    parser := p
    origins := s.origins.drop (s.parser.buf.length - p.buf.length) }

/-- The `except` block of `_read_loop`. -/
def raiseAt (s : State T Obj) (i g : Nat) : State T Obj :=
  s.readerTo i (if s.running ∧ g = s.transportGeneration then .failing g else .head g)

variable (decode : List UInt8 → String) (rawDecode : String → Decoded Obj)

/-- One call of `_extract_item` and what `_read_loop` does with it. -/
def extractAt (s : State T Obj) (i g : Nat) : State T Obj :=
  match extractItem decode rawDecode s.parser with
  | .nothing p => (s.parsed p).readerTo i (.head g)
  | .item item p =>
    { s.parsed p with
      items := s.items ++ [(item, s.origins.take (s.parser.buf.length - p.buf.length))] }
  | .raised p =>
    (s.parsed p).raiseAt i g

/-- One access of a thread to what it shares. -/
def threadStep : Machine (State T Obj) (Action T)
  | s, .start t =>
    if s.phase t = .idle ∧ s.startupOwner = none ∧ ¬ s.started ∧ ¬ s.hasOpenedUart then
      some (s.moveTo t .opening)
    else none
  | s, .openInitial t outcome =>
    if s.phase t = .opening then
      some (s.openTransport t (.closing .start .mark) .handshake outcome)
    else none
  | s, .recover t =>
    if s.phase t = .idle ∧ s.startupOwner = none then some (s.moveTo t .probe) else none
  | s, .acquire t =>
    if s.writeLock = none then
      match s.phase t with
      | .probe => some (s.moveTo t (.closing .recover .mark))
      | .checked => some (s.moveTo t .sending)
      | _ => none
    else none
  | s, .reopen t outcome =>
    if s.phase t = .reopen then some (s.openTransport t .idle .inventory outcome) else none
  | s, .finish t sends =>
    if s.phase t = .handshake ∨ s.phase t = .inventory then
      some (s.moveTo t (if sends then .checked else .idle))
    else none
  | s, .check t =>
    if s.phase t = .idle ∧ s.startupOwner = none ∧ s.started then some (s.moveTo t .checked)
    else none
  | s, .write t => if s.phase t = .sending then some (s.moveTo t .idle) else none
  | s, .writeFails t =>
    match s.phase t with
    | .sending => some (s.moveTo t (.closing .send .mark))
    | .handshake => some (s.moveTo t (.closing .handshake .mark))
    | _ => none
  | s, .close t => if s.phase t = .idle then some (s.moveTo t (.closing .client .mark)) else none
  | s, .mark t =>
    match s.phase t with
    | .closing why .mark => some (s.endGeneration.moveTo t (.closing why .join))
    | _ => none
  | s, .join t =>
    match s.phase t with
    -- the previous reader has not retired in time
    | .closing why .join =>
      some (s.moveTo t (if s.readerAlive then why.raised else .closing why .detach))
    | _ => none
  | s, .detach t =>
    match s.phase t with
    | .closing why .detach =>
      some ({ s with readThread := none, ser := none, started := false }.moveTo t why.detached)
    | _ => none
  | s, .clear t =>
    match s.phase t with
    | .closing why .clear => some (s.clearBuf.moveTo t why.cleared)
    | _ => none
  | s, .leave t => (leaves (s.phase t)).map (s.moveTo t)
  | _, _ => none

/-- One access of a reader. -/
def readerStep : Machine (State T Obj) (Action T)
  | s, .enter i =>
    if s.reader i = .started then
      match s.ser with
      -- `assert self.ser is not None`
      | none => some (s.readerTo i .dead)
      | some n =>
        some ({ s with transport := Function.update s.transport i n }.readerTo i
          (.head s.transportGeneration))
    else none
  | s, .loop i =>
    match s.reader i with
    | .head g =>
      some (s.readerTo i (if s.running ∧ g = s.transportGeneration then .reading g else .dead))
    | .failed g =>
      some (s.readerTo i (if s.running ∧ g = s.transportGeneration then .reading g else .dead))
    | _ => none
  | s, .read i chunk =>
    match s.reader i with
    | .reading g =>
      some (s.readerTo i (if g = s.transportGeneration then .holding g chunk else .dead))
    | _ => none
  | s, .raise i =>
    match s.reader i with
    | .reading g => some (s.raiseAt i g)
    | .parsing g => some (s.raiseAt i g)
    | _ => none
  | s, .extend i =>
    match s.reader i with
    | .holding g chunk =>
      some ({ s with
        parser := { s.parser with buf := s.parser.buf ++ chunk }
        origins := s.origins ++ List.replicate chunk.length (s.transport i) }.readerTo i
          (.parsing g))
    | _ => none
  | s, .extract i =>
    match s.reader i with
    | .parsing g => some (s.extractAt decode rawDecode i g)
    | _ => none
  | s, .markFailed i =>
    match s.reader i with
    | .failing g => some (s.endGeneration.readerTo i (.dropThread g))
    | _ => none
  | s, .dropThread i =>
    match s.reader i with
    | .dropThread g => some ({ s with readThread := none }.readerTo i (.dropSer g))
    | _ => none
  | s, .dropSer i =>
    match s.reader i with
    | .dropSer g => some ({ s with ser := none, started := false }.readerTo i (.clearing g))
    | _ => none
  | s, .clearFailed i =>
    match s.reader i with
    | .clearing g => some (s.clearBuf.readerTo i (.failed g))
    | _ => none
  | _, _ => none

def step : Machine (State T Obj) (Action T) := fun s a =>
  (threadStep s a).or (readerStep decode rawDecode s a)

end State

/-- A new client. -/
def init (T Obj : Type) : State T Obj where
  phase _ := .idle
  reader _ := .unborn
  transport _ := 0
  startupOwner := none
  writeLock := none
  hasOpenedUart := false
  started := false
  running := false
  transportGeneration := 0
  ser := none
  readThread := none
  opened := 0
  parser := {}
  origins := []
  items := []

/-- A call that may tear down or open a transport begins. -/
def Action.begins {T : Type} : Action T → Bool
  | .start _ => true
  | .recover _ => true
  | .check _ => true
  | _ => false

def Action.closes {T : Type} : Action T → Bool
  | .close _ => true
  | _ => false

/-- The client is closed when no thread is in a call, and no call begins before that is over. -/
def alone {T Obj : Type} (s : State T Obj) (a : Action T) : Prop :=
  (a.closes → ∀ u, s.phase u = .idle) ∧ (a.begins → ∀ u, (s.phase u).closesClient = false)

instance decidableAlone {T Obj : Type} [Fintype T] (s : State T Obj) (a : Action T) :
    Decidable (alone s a) :=
  inferInstanceAs (Decidable (_ ∧ _))

/-! ## What a call of the parser takes -/

section Parsing

variable {Obj : Type} (decode : List UInt8 → String) (rawDecode : String → Decoded Obj)

def turnParser : Turn Obj → Parser
  | .again p => p
  | .stop p => p
  | .item _ p => p
  | .raised p => p

def extractionParser : Extraction Obj → Parser
  | .nothing p => p
  | .item _ p => p
  | .raised p => p

theorem frameTurn_suffix (p : Parser) :
    (turnParser (frameTurn p : Turn Obj)).buf <:+ p.buf := by
  unfold frameTurn
  simp only
  split
  · simp [turnParser]
  · split
    · simpa only [turnParser, Parser.dropAndResync_buf] using List.drop_suffix 1 p.buf
    · split
      · simp [turnParser]
      · split
        · simpa only [turnParser, Parser.dropAndResync_buf] using List.drop_suffix 1 p.buf
        · simpa only [turnParser, Parser.consume_buf] using List.drop_suffix _ p.buf

theorem garbageTurn_suffix (p : Parser) :
    (turnParser (garbageTurn p : Turn Obj)).buf <:+ p.buf := by
  unfold garbageTurn
  simp only
  split
  · simpa only [turnParser, Parser.dropAndResync_buf] using List.drop_suffix _ p.buf
  · split
    · simpa only [turnParser, Parser.dropAndResync_buf] using List.drop_suffix _ p.buf
    · simp [turnParser]

theorem lineTurn_suffix (p : Parser) :
    (turnParser (lineTurn decode rawDecode p)).buf <:+ p.buf := by
  unfold lineTurn
  split
  · simp [turnParser]
  · rename_i i _
    have hline := List.drop_suffix (i + 1) p.buf
    simp only
    split
    · exact hline
    · split <;> exact hline

theorem loopBody_suffix (p : Parser) :
    (turnParser (loopBody decode rawDecode p)).buf <:+ p.buf := by
  unfold loopBody
  split
  · exact lineTurn_suffix decode rawDecode p
  · split
    · exact frameTurn_suffix p
    · exact garbageTurn_suffix p

/-- What is left of the buffer is its end. Induction along the turns. -/
theorem extractItem_suffix (p : Parser) :
    (extractionParser (extractItem decode rawDecode p)).buf <:+ p.buf := by
  induction hn : p.buf.length using Nat.strongRecOn generalizing p with
  | ind n ih =>
    subst hn
    by_cases hnil : p.buf = []
    · rw [extractItem_nil decode rawDecode hnil]
      exact List.suffix_rfl
    · have hshort := loopBody_shortens decode rawDecode hnil
      have hsuffix := loopBody_suffix decode rawDecode p
      rw [extractItem_eq decode rawDecode hnil]
      cases hbody : loopBody decode rawDecode p with
      | again next =>
          rw [hbody] at hshort hsuffix
          exact (ih _ hshort next rfl).trans hsuffix
      | stop next => rwa [hbody] at hsuffix
      | item i next => rwa [hbody] at hsuffix
      | raised next => rwa [hbody] at hsuffix

end Parsing

/-! ## The threads keep apart -/

section Locks

variable {T Obj : Type} [DecidableEq T]

/-- The startup and the write lock are held in the calls' protected parts, the first transport is
opened while nobody sends, and a client is closed alone. -/
structure Locks (s : State T Obj) : Prop where
  owner : ∀ t, s.startupOwner = some t ↔ (s.phase t).inStartup
  lock : ∀ t, s.writeLock = some t ↔ (s.phase t).inWrite
  apart : ∀ t u, (s.phase t).initial → (s.phase u).sends = false
  client : ∀ t u, (s.phase t).closesClient → u ≠ t → s.phase u = .idle
  afterOpening : ∀ t, (s.phase t).afterOpening → s.hasOpenedUart
  opening : ∀ t, s.phase t = .opening → s.hasOpenedUart = false
  started : s.started → s.hasOpenedUart

/-- What a thread at `p` needs to go on at `q`, when `_has_opened_uart` comes to be `opened`. -/
structure Admits (s : State T Obj) (opened : Bool) (p q : Phase) : Prop where
  inStartup : q.inStartup → p.inStartup ∨ s.startupOwner = none
  inWrite : q.inWrite → p.inWrite ∨ s.writeLock = none
  initial : q.initial → p.initial ∨ s.hasOpenedUart = false
  sends : q.sends → p.sends ∨ p.inStartup ∨ s.startupOwner = none
  closesClient : q.closesClient → p.closesClient ∨ ∀ u, s.phase u = .idle
  calls : q ≠ .idle → p ≠ .idle ∨ ∀ u, (s.phase u).closesClient = false
  afterOpening : q.afterOpening → opened
  opening : q = .opening → opened = false
  counted : opened = s.hasOpenedUart ∨ opened ∧ p.inStartup

theorem Phase.sends_of_initial {p : Phase} (h : p.initial) : p.sends = false := by
  cases p with
  | closing why stage => cases why <;> simp_all [Phase.initial, Phase.sends]
  | _ => simp_all [Phase.initial, Phase.sends]

theorem Phase.inStartup_of_initial {p : Phase} (h : p.initial) : p.inStartup := by
  cases p with
  | closing why stage => cases why <;> simp_all [Phase.initial, Phase.inStartup]
  | _ => simp_all [Phase.initial, Phase.inStartup]

theorem Phase.afterOpening_of_sends {p : Phase} (h : p.sends) : p.afterOpening := by
  cases p with
  | closing why stage => cases why <;> simp_all [Phase.sends, Phase.afterOpening]
  | _ => simp_all [Phase.sends, Phase.afterOpening]

/-- A changing thread has the startup, or has the write lock, or is closing the client. -/
theorem Phase.changes_cases {p : Phase} (h : p.changes) :
    p.initial ∨ (p.inStartup ∧ p.inWrite) ∨ (p.sends ∧ p.inWrite) ∨ p.closesClient := by
  cases p with
  | closing why stage =>
      cases why <;>
        simp [Phase.initial, Phase.inStartup, Phase.inWrite, Phase.sends, Phase.closesClient]
  | _ => simp_all [Phase.changes, Phase.initial, Phase.inStartup, Phase.inWrite]

theorem Phase.changes_of_joined {p : Phase} (h : p.joined) : p.changes := by
  cases p with
  | closing why stage => rfl
  | _ => simp_all [Phase.joined, Phase.changes]

namespace Locks

variable {s : State T Obj}

theorem owner_unique (h : Locks s) {t u : T} (ht : (s.phase t).inStartup)
    (hu : (s.phase u).inStartup) : t = u := by
  have h1 := (h.owner t).mpr ht
  have h2 := (h.owner u).mpr hu
  exact Option.some.inj (h1.symm.trans h2)

theorem lock_unique (h : Locks s) {t u : T} (ht : (s.phase t).inWrite)
    (hu : (s.phase u).inWrite) : t = u := by
  have h1 := (h.lock t).mpr ht
  have h2 := (h.lock u).mpr hu
  exact Option.some.inj (h1.symm.trans h2)

/-- No two threads tear down or open at a time. -/
theorem sole (h : Locks s) {t u : T} (ht : (s.phase t).changes) (hu : (s.phase u).changes) :
    t = u := by
  by_contra hne
  have hidle : ∀ v w, v ≠ w → (s.phase v).changes → ¬ (s.phase w).closesClient := by
    intro v w hvw hv hw
    rw [h.client w v hw hvw] at hv
    simp [Phase.changes] at hv
  have htc := hidle u t (Ne.symm hne) hu
  have huc := hidle t u hne ht
  rcases Phase.changes_cases ht with hi | ⟨ho, hw⟩ | ⟨hs, hw⟩ | hc
  · rcases Phase.changes_cases hu with hi' | ⟨ho', hw'⟩ | ⟨hs', hw'⟩ | hc'
    · exact hne (h.owner_unique (Phase.inStartup_of_initial hi) (Phase.inStartup_of_initial hi'))
    · exact hne (h.owner_unique (Phase.inStartup_of_initial hi) ho')
    · rw [h.apart t u hi] at hs'
      cases hs'
    · exact huc hc'
  · rcases Phase.changes_cases hu with hi' | ⟨ho', hw'⟩ | ⟨hs', hw'⟩ | hc'
    · exact hne (h.owner_unique ho (Phase.inStartup_of_initial hi'))
    · exact hne (h.owner_unique ho ho')
    · exact hne (h.lock_unique hw hw')
    · exact huc hc'
  · rcases Phase.changes_cases hu with hi' | ⟨ho', hw'⟩ | ⟨hs', hw'⟩ | hc'
    · rw [h.apart u t hi'] at hs
      cases hs
    · exact hne (h.lock_unique hw hw')
    · exact hne (h.lock_unique hw hw')
    · exact huc hc'
  · exact htc hc

/-- What a thread's move leaves of an exclusive part of the calls. -/
theorem holder_moveTo {part : Phase → Bool} {holder : Option T} {phase : T → Phase} {t : T}
    {q : Phase} (h : ∀ u, holder = some u ↔ part (phase u))
    (hq : part q → part (phase t) ∨ holder = none) (u : T) :
    (if part q then some t else holder.filter (· ≠ t)) = some u ↔
      part (Function.update phase t q u) := by
  have hother : ∀ v, part (phase v) → ∀ w, part (phase w) → v = w := by
    intro v hv w hw
    exact Option.some.inj (((h v).mpr hv).symm.trans ((h w).mpr hw))
  by_cases hut : u = t
  · subst hut
    rw [Function.update_self]
    by_cases hp : part q
    · simp [hp]
    · simp [hp, Option.filter_eq_some_iff]
  · rw [Function.update_of_ne hut]
    by_cases hp : part q
    · simp only [hp, if_true, Option.some.injEq]
      refine ⟨fun htu => absurd htu.symm hut, fun hpu => ?_⟩
      rcases hq hp with hpt | hnone
      · exact hother t hpt u hpu
      · have hsome := (h u).mpr hpu
        rw [hnone] at hsome
        cases hsome
    · simp [hp, Option.filter_eq_some_iff, h u, hut]

/-- The move of one thread, with what its step does to the other fields. -/
theorem moveTo {r : State T Obj} (h : Locks s) {t : T} {q : Phase} (hphase : r.phase = s.phase)
    (howner : r.startupOwner = s.startupOwner) (hlock : r.writeLock = s.writeLock)
    (hstarted : r.started → r.hasOpenedUart) (hq : Admits s r.hasOpenedUart (s.phase t) q) :
    Locks (r.moveTo t q) where
  owner := by
    have hown := holder_moveTo h.owner hq.inStartup
    intro u
    simpa only [State.moveTo, hphase, howner] using hown u
  lock := by
    have hwrite := holder_moveTo h.lock hq.inWrite
    intro u
    simpa only [State.moveTo, hphase, hlock] using hwrite u
  apart := by
    intro v u hv
    simp only [State.moveTo, hphase] at hv ⊢
    by_cases hut : u = t
    · subst hut
      rw [Function.update_self]
      by_cases hvu : v = u
      · subst hvu
        rw [Function.update_self] at hv
        exact Phase.sends_of_initial hv
      · rw [Function.update_of_ne hvu] at hv
        by_contra hsend
        rw [Bool.not_eq_false] at hsend
        have hvown := Phase.inStartup_of_initial hv
        rcases hq.sends hsend with hold | hown | hnone
        · rw [h.apart v u hv] at hold
          cases hold
        · exact hvu (h.owner_unique hvown hown)
        · have := (h.owner v).mpr hvown
          rw [hnone] at this
          cases this
    · rw [Function.update_of_ne hut]
      by_cases hvt : v = t
      · subst hvt
        rw [Function.update_self] at hv
        rcases hq.initial hv with hold | hclosed
        · exact h.apart v u hold
        · by_contra hsend
          rw [Bool.not_eq_false] at hsend
          have := h.afterOpening u (Phase.afterOpening_of_sends hsend)
          rw [hclosed] at this
          cases this
      · rw [Function.update_of_ne hvt] at hv
        exact h.apart v u hv
  client := by
    intro v u hv huv
    simp only [State.moveTo, hphase] at hv ⊢
    by_cases hvt : v = t
    · subst hvt
      rw [Function.update_self] at hv
      rw [Function.update_of_ne huv]
      rcases hq.closesClient hv with hold | hidle
      · exact h.client v u hold huv
      · exact hidle u
    · rw [Function.update_of_ne hvt] at hv
      by_cases hut : u = t
      · subst hut
        rw [Function.update_self]
        by_contra hcall
        rcases hq.calls hcall with hne | hnone
        · exact hne (h.client v u hv huv)
        · rw [hnone v] at hv
          cases hv
      · rw [Function.update_of_ne hut]
        exact h.client v u hv huv
  afterOpening := by
    intro u hu
    simp only [State.moveTo, hphase] at hu ⊢
    by_cases hut : u = t
    · subst hut
      rw [Function.update_self] at hu
      exact hq.afterOpening hu
    · rw [Function.update_of_ne hut] at hu
      have hopened := h.afterOpening u hu
      rcases hq.counted with heq | ⟨hnow, _⟩
      · rw [heq, hopened]
      · exact hnow
  opening := by
    intro u hu
    simp only [State.moveTo, hphase] at hu ⊢
    by_cases hut : u = t
    · subst hut
      rw [Function.update_self] at hu
      exact hq.opening hu
    · rw [Function.update_of_ne hut] at hu
      rcases hq.counted with heq | ⟨_, hown⟩
      · rw [heq, h.opening u hu]
      · have huown : (s.phase u).inStartup := by rw [hu]; rfl
        exact absurd (h.owner_unique huown hown) hut
  started := by simpa only [State.moveTo] using hstarted

/-- A reader's step changes none of it. -/
theorem of_same {r : State T Obj} (h : Locks s) (hphase : r.phase = s.phase)
    (howner : r.startupOwner = s.startupOwner) (hlock : r.writeLock = s.writeLock)
    (hopened : r.hasOpenedUart = s.hasOpenedUart) (hstarted : r.started → s.started) :
    Locks r where
  owner := by rw [hphase, howner]; exact h.owner
  lock := by rw [hphase, hlock]; exact h.lock
  apart := by rw [hphase]; exact h.apart
  client := by rw [hphase]; exact h.client
  afterOpening := by rw [hphase, hopened]; exact h.afterOpening
  opening := by rw [hphase, hopened]; exact h.opening
  started := by rw [hopened]; exact fun hs => h.started (hstarted hs)

/-- A move that stays in the part of the call that it is in. -/
theorem admits_within {p q : Phase} (h : Locks s) (t : T) (hp : s.phase t = p)
    (hstart : q.inStartup → p.inStartup) (hwrite : q.inWrite → p.inWrite)
    (hinitial : q.initial → p.initial) (hsends : q.sends → p.sends)
    (hclient : q.closesClient → p.closesClient) (hcalls : p ≠ .idle)
    (hafter : q.afterOpening → p.afterOpening) (hopening : q ≠ .opening) :
    Admits s s.hasOpenedUart p q where
  inStartup hq := .inl (hstart hq)
  inWrite hq := .inl (hwrite hq)
  initial hq := .inl (hinitial hq)
  sends hq := .inl (hsends hq)
  closesClient hq := .inl (hclient hq)
  calls _ := .inl hcalls
  afterOpening hq := h.afterOpening t (by rw [hp]; exact hafter hq)
  opening hq := absurd hq hopening
  counted := .inl rfl

/-- The end of a call. -/
theorem admits_idle {p : Phase} {opened : Bool}
    (hcounted : opened = s.hasOpenedUart ∨ opened ∧ p.inStartup) : Admits s opened p .idle where
  inStartup hq := by cases hq
  inWrite hq := by cases hq
  initial hq := by cases hq
  sends hq := by cases hq
  closesClient hq := by cases hq
  calls hq := absurd rfl hq
  afterOpening hq := by cases hq
  opening hq := by cases hq
  counted := hcounted

/-- From one stage of a teardown to another. -/
theorem admits_stage (h : Locks s) {t : T} {why : Why} {stage : Stage} (next : Stage)
    (hp : s.phase t = .closing why stage) :
    Admits s s.hasOpenedUart (.closing why stage) (.closing why next) := by
  cases why <;>
    exact h.admits_within t hp (fun h => h) (fun h => h) (fun h => h) (fun h => h) (fun h => h)
      (by simp) (fun h => h) (by simp)

/-- A failed handshake goes on in the `except` block of `start`, all else ends the call. -/
theorem admits_raised (h : Locks s) {t : T} {why : Why} {stage : Stage}
    (hp : s.phase t = .closing why stage) :
    Admits s s.hasOpenedUart (.closing why stage) why.raised := by
  cases why with
  | handshake =>
      exact h.admits_within t hp (fun _ => rfl) (fun h => h) (fun _ => rfl) (fun h => h)
        (fun h => h) (by simp) (fun h => h) (by simp [Why.raised])
  | _ => exact admits_idle (.inl rfl)

/-- The three outcomes of opening a transport. -/
theorem openTransport (h : Locks s) {t : T} {failed succeeded : Phase} (outcome : Opening)
    (hfailed : ∀ opened, (opened = s.hasOpenedUart ∨ opened) →
      Admits s opened (s.phase t) failed)
    (hsucceeded : Admits s true (s.phase t) succeeded) :
    Locks (s.openTransport t failed succeeded outcome) := by
  cases outcome with
  | failed => exact h.moveTo rfl rfl rfl h.started (hfailed _ (.inl rfl))
  | broken counted =>
      refine h.moveTo (r := s.setSer counted) rfl rfl rfl (fun hs => ?_) (hfailed _ ?_)
      · simp [State.setSer, h.started hs]
      · cases counted <;> simp [State.setSer]
  | succeeded =>
      refine h.moveTo (r := s.launch) rfl rfl rfl (fun _ => ?_) ?_
      · simp [State.launch, State.setSer]
      · simpa [State.launch, State.setSer] using hsucceeded

theorem threadStep {s s' : State T Obj} {a : Action T} (h : Locks s) (hok : alone s a)
    (hstep : State.threadStep s a = some s') : Locks s' := by
  cases a with
  | start t =>
      simp only [State.threadStep, Option.ite_none_right_eq_some, Option.some.injEq] at hstep
      obtain ⟨⟨hp, howner, _, hopened⟩, rfl⟩ := hstep
      rw [Bool.not_eq_true] at hopened
      refine h.moveTo rfl rfl rfl h.started ?_
      exact ⟨fun _ => .inr howner, by simp [Phase.inWrite], fun _ => .inr hopened,
        by simp [Phase.sends], by simp [Phase.closesClient], fun _ => .inr (hok.2 rfl),
        by simp [Phase.afterOpening], fun _ => hopened, .inl rfl⟩
  | openInitial t outcome =>
      simp only [State.threadStep, Option.ite_none_right_eq_some, Option.some.injEq] at hstep
      obtain ⟨hp, rfl⟩ := hstep
      refine h.openTransport outcome (fun opened hopened => ?_) ?_
      · rw [hp]
        exact ⟨fun _ => .inl rfl, by simp [Phase.inWrite], fun _ => .inl rfl,
          by simp [Phase.sends], by simp [Phase.closesClient], fun _ => .inl (by simp),
          by simp [Phase.afterOpening], by simp, hopened.imp_right fun ho => ⟨ho, rfl⟩⟩
      · rw [hp]
        exact ⟨fun _ => .inl rfl, by simp [Phase.inWrite], fun _ => .inl rfl,
          by simp [Phase.sends], by simp [Phase.closesClient], fun _ => .inl (by simp),
          fun _ => rfl, by simp, .inr ⟨rfl, rfl⟩⟩
  | recover t =>
      simp only [State.threadStep, Option.ite_none_right_eq_some, Option.some.injEq] at hstep
      obtain ⟨⟨hp, howner⟩, rfl⟩ := hstep
      refine h.moveTo rfl rfl rfl h.started ?_
      exact ⟨fun _ => .inr howner, by simp [Phase.inWrite], by simp [Phase.initial],
        by simp [Phase.sends], by simp [Phase.closesClient], fun _ => .inr (hok.2 rfl),
        by simp [Phase.afterOpening], by simp, .inl rfl⟩
  | acquire t =>
      simp only [State.threadStep, Option.ite_none_right_eq_some] at hstep
      obtain ⟨hlock, hstep⟩ := hstep
      split at hstep
      · rename_i hp
        cases hstep
        refine h.moveTo rfl rfl rfl h.started ?_
        rw [hp]
        exact ⟨fun _ => .inl rfl, fun _ => .inr hlock, by simp [Phase.initial],
          by simp [Phase.sends], by simp [Phase.closesClient], fun _ => .inl (by simp),
          by simp [Phase.afterOpening], by simp, .inl rfl⟩
      · rename_i hp
        cases hstep
        refine h.moveTo rfl rfl rfl h.started ?_
        rw [hp]
        exact ⟨by simp [Phase.inStartup], fun _ => .inr hlock, by simp [Phase.initial],
          fun _ => .inl rfl, by simp [Phase.closesClient], fun _ => .inl (by simp),
          fun _ => h.afterOpening t (by rw [hp]; rfl), by simp, .inl rfl⟩
      · cases hstep
  | reopen t outcome =>
      simp only [State.threadStep, Option.ite_none_right_eq_some, Option.some.injEq] at hstep
      obtain ⟨hp, rfl⟩ := hstep
      refine h.openTransport outcome (fun opened hopened => ?_) ?_
      · rw [hp]
        exact admits_idle (hopened.imp_right fun ho => ⟨ho, rfl⟩)
      · rw [hp]
        exact ⟨fun _ => .inl rfl, by simp [Phase.inWrite], by simp [Phase.initial],
          by simp [Phase.sends], by simp [Phase.closesClient], fun _ => .inl (by simp),
          fun _ => rfl, by simp, .inr ⟨rfl, rfl⟩⟩
  | finish t sends =>
      simp only [State.threadStep, Option.ite_none_right_eq_some, Option.some.injEq] at hstep
      obtain ⟨hp, rfl⟩ := hstep
      refine h.moveTo rfl rfl rfl h.started ?_
      cases sends with
      | false => exact admits_idle (.inl rfl)
      | true =>
          have hown : (s.phase t).inStartup := by rcases hp with hp | hp <;> rw [hp] <;> rfl
          have hafter : (s.phase t).afterOpening := by rcases hp with hp | hp <;> rw [hp] <;> rfl
          have hcall : s.phase t ≠ .idle := by rcases hp with hp | hp <;> rw [hp] <;> simp
          exact ⟨by simp [Phase.inStartup], by simp [Phase.inWrite], by simp [Phase.initial],
            fun _ => .inr (.inl hown), by simp [Phase.closesClient], fun _ => .inl hcall,
            fun _ => h.afterOpening t hafter, by simp, .inl rfl⟩
  | check t =>
      simp only [State.threadStep, Option.ite_none_right_eq_some, Option.some.injEq] at hstep
      obtain ⟨⟨hp, howner, hstarted⟩, rfl⟩ := hstep
      refine h.moveTo rfl rfl rfl h.started ?_
      exact ⟨by simp [Phase.inStartup], by simp [Phase.inWrite], by simp [Phase.initial],
        fun _ => .inr (.inr howner), by simp [Phase.closesClient], fun _ => .inr (hok.2 rfl),
        fun _ => h.started hstarted, by simp, .inl rfl⟩
  | write t =>
      simp only [State.threadStep, Option.ite_none_right_eq_some, Option.some.injEq] at hstep
      obtain ⟨_, rfl⟩ := hstep
      exact h.moveTo rfl rfl rfl h.started (admits_idle (.inl rfl))
  | writeFails t =>
      simp only [State.threadStep] at hstep
      split at hstep
      · rename_i hp
        cases hstep
        refine h.moveTo rfl rfl rfl h.started ?_
        rw [hp]
        exact h.admits_within t hp (by simp [Phase.inStartup]) (fun _ => rfl)
          (by simp [Phase.initial]) (fun _ => rfl) (by simp [Phase.closesClient]) (by simp)
          (fun _ => rfl) (by simp)
      · rename_i hp
        cases hstep
        refine h.moveTo rfl rfl rfl h.started ?_
        rw [hp]
        exact h.admits_within t hp (fun _ => rfl) (by simp [Phase.inWrite]) (fun _ => rfl)
          (by simp [Phase.sends]) (by simp [Phase.closesClient]) (by simp)
          (by simp [Phase.afterOpening]) (by simp)
      · cases hstep
  | close t =>
      simp only [State.threadStep, Option.ite_none_right_eq_some, Option.some.injEq] at hstep
      obtain ⟨_, rfl⟩ := hstep
      refine h.moveTo rfl rfl rfl h.started ?_
      refine ⟨by simp [Phase.inStartup], by simp [Phase.inWrite], by simp [Phase.initial],
        by simp [Phase.sends], fun _ => .inr (hok.1 rfl), fun _ => .inr fun u => ?_,
        by simp [Phase.afterOpening], by simp, .inl rfl⟩
      rw [hok.1 rfl u]
      rfl
  | mark t =>
      simp only [State.threadStep] at hstep
      split at hstep
      · rename_i why hp
        cases hstep
        refine h.moveTo (r := s.endGeneration) rfl rfl rfl h.started ?_
        rw [hp]
        exact h.admits_stage .join hp
      · cases hstep
  | join t =>
      simp only [State.threadStep] at hstep
      split at hstep
      · rename_i why hp
        cases hstep
        refine h.moveTo rfl rfl rfl h.started ?_
        rw [hp]
        split
        · exact h.admits_raised hp
        · exact h.admits_stage .detach hp
      · cases hstep
  | detach t =>
      simp only [State.threadStep] at hstep
      split at hstep
      · rename_i why hp
        cases hstep
        refine h.moveTo
          (r := { s with readThread := none, ser := none, started := false })
          rfl rfl rfl (fun hs => by cases hs) ?_
        rw [hp]
        cases why with
        | start => exact admits_idle (.inl rfl)
        | _ => exact h.admits_stage .clear hp
      · cases hstep
  | clear t =>
      simp only [State.threadStep] at hstep
      split at hstep
      · rename_i why hp
        cases hstep
        refine h.moveTo (r := s.clearBuf) rfl rfl rfl h.started ?_
        rw [hp]
        cases why with
        | recover =>
            exact h.admits_within t hp (fun _ => rfl) (fun _ => rfl) (by simp [Why.cleared,
              Phase.initial]) (by simp [Why.cleared, Phase.sends])
              (by simp [Why.cleared, Phase.closesClient]) (by simp)
              (by simp [Why.cleared, Phase.afterOpening]) (by simp [Why.cleared])
        | _ => exact h.admits_raised hp
      · cases hstep
  | leave t =>
      simp only [State.threadStep, Option.map_eq_some_iff] at hstep
      obtain ⟨q, hq, rfl⟩ := hstep
      refine h.moveTo rfl rfl rfl h.started ?_
      simp only [State.leaves] at hq
      split at hq
      · rename_i hp
        cases hq
        rw [hp]
        exact h.admits_within t hp (fun _ => rfl) (by simp [Phase.inWrite]) (fun _ => rfl)
          (by simp [Phase.sends]) (by simp [Phase.closesClient]) (by simp)
          (by simp [Phase.afterOpening]) (by simp)
      · cases hq
        exact admits_idle (.inl rfl)
      · cases hq
        exact admits_idle (.inl rfl)
      · cases hq
        exact admits_idle (.inl rfl)
      · cases hq
        exact admits_idle (.inl rfl)
      · cases hq
        exact admits_idle (.inl rfl)
      · rename_i why hp
        cases hq
        rw [hp]
        exact h.admits_raised hp
      · cases hq
        exact admits_idle (.inl rfl)
      · cases hq
  | _ => cases hstep

end Locks

end Locks

/-! ## One reader at the buffer -/

section Readers

variable {T Obj : Type} [DecidableEq T]

/-- No reader comes to the buffer again. -/
def Unread (s : State T Obj) : Prop := ∀ i, (s.reader i).attached = false

/-- Only the reader of the transport opened last may come to the buffer, and the buffer holds only
bytes of that transport. -/
structure Readers (s : State T Obj) : Prop where
  attached : ∀ i, (s.reader i).attached → s.readThread = some i ∧ i = s.opened
  entered : ∀ i, (s.reader i).attached → s.reader i ≠ .started → s.transport i = i
  joined : ∀ t, (s.phase t).joined → Unread s
  unopened : s.hasOpenedUart = false → Unread s ∧ s.origins = []
  ser : ∀ n, s.ser = some n → n = s.opened
  generation : ∀ i, (s.reader i).before ≤ s.transportGeneration
  length : s.origins.length = s.parser.buf.length
  origins : ∀ o ∈ s.origins, o = s.opened
  reopen : ∀ t, s.phase t = .reopen → s.origins = []
  items : ∀ d ∈ s.items, d.2 ≠ [] ∧ ∃ n, ∀ o ∈ d.2, o = n

namespace Readers

variable {s : State T Obj}

/-- A reader's move, when the rest of its step is done. -/
theorem readerTo (h : Readers s) {i : Nat} {q : ReaderPhase}
    (hattached : q.attached → (s.reader i).attached)
    (hentered : q.attached → q ≠ .started → s.transport i = i)
    (hgeneration : q.before ≤ s.transportGeneration) : Readers (s.readerTo i q) := by
  have hold : ∀ j, ((s.readerTo i q).reader j).attached → (s.reader j).attached := by
    intro j hj
    simp only [State.readerTo] at hj
    by_cases hji : j = i
    · subst hji
      rw [Function.update_self] at hj
      exact hattached hj
    · rwa [Function.update_of_ne hji] at hj
  have hunread : Unread s → Unread (s.readerTo i q) := by
    intro hnone j
    by_contra hj
    rw [Bool.not_eq_false] at hj
    have := hold j hj
    rw [hnone j] at this
    cases this
  refine ⟨fun j hj => h.attached j (hold j hj), fun j hj hne => ?_,
    fun t ht => hunread (h.joined t ht), fun ho => ⟨hunread (h.unopened ho).1, (h.unopened ho).2⟩,
    h.ser, fun j => ?_, h.length, h.origins, h.reopen, h.items⟩
  · simp only [State.readerTo] at hj hne ⊢
    by_cases hji : j = i
    · subst hji
      rw [Function.update_self] at hj hne
      exact hentered hj hne
    · rw [Function.update_of_ne hji] at hj hne
      exact h.entered j hj hne
  · simp only [State.readerTo]
    by_cases hji : j = i
    · subst hji
      rw [Function.update_self]
      exact hgeneration
    · rw [Function.update_of_ne hji]
      exact h.generation j

/-- A thread's move, when the rest of its step is done. -/
theorem moveTo (h : Readers s) {t : T} {q : Phase} (hjoined : q.joined → Unread s)
    (hreopen : q = .reopen → s.origins = []) : Readers (s.moveTo t q) := by
  refine ⟨h.attached, h.entered, fun u hu => ?_, h.unopened, h.ser, h.generation, h.length,
    h.origins, fun u hu => ?_, h.items⟩
  · simp only [State.moveTo] at hu
    by_cases hut : u = t
    · subst hut
      rw [Function.update_self] at hu
      exact hjoined hu
    · rw [Function.update_of_ne hut] at hu
      exact h.joined u hu
  · simp only [State.moveTo] at hu
    by_cases hut : u = t
    · subst hut
      rw [Function.update_self] at hu
      exact hreopen hu
    · rw [Function.update_of_ne hut] at hu
      exact h.reopen u hu

theorem endGeneration (h : Readers s) : Readers s.endGeneration :=
  { h with generation := fun i => Nat.le_succ_of_le (h.generation i) }

theorem clearBuf (h : Readers s) : Readers s.clearBuf :=
  { h with
    unopened := fun ho => ⟨(h.unopened ho).1, rfl⟩
    length := rfl
    origins := fun o ho => by cases ho
    reopen := fun _ _ => rfl }

theorem dropSer (h : Readers s) : Readers { s with ser := none, started := false } :=
  { h with ser := fun n hn => by cases hn }

theorem dropThread (h : Readers s) (hunread : Unread s) :
    Readers { s with readThread := none } :=
  { h with
    attached := fun i hi => by
      rw [hunread i] at hi
      cases hi }

/-- A transport without a reader. -/
theorem setSer (h : Readers s) (hunread : Unread s) (hempty : s.origins = []) (counted : Bool) :
    Readers (s.setSer counted) :=
  { h with
    attached := fun i hi => by
      have hi' := hunread i
      rw [show (s.setSer counted).reader = s.reader from rfl, hi'] at hi
      cases hi
    unopened := fun _ => ⟨hunread, hempty⟩
    ser := fun n hn => (Option.some.inj hn).symm
    origins := fun o ho => by
      rw [show (s.setSer counted).origins = s.origins from rfl, hempty] at ho
      cases ho }

/-- The next transport and its reader. Nobody is still tearing down. -/
theorem launch (h : Readers s) (hunread : Unread s) (hempty : s.origins = [])
    (hjoined : ∀ u, (s.phase u).joined = false) : Readers s.launch := by
  refine ⟨fun i hi => ?_, fun i hi hne => ?_, fun t ht => ?_, fun ho => ?_,
    fun n hn => (Option.some.inj hn).symm, fun i => ?_, h.length, fun o ho => ?_,
    h.reopen, h.items⟩
  · simp only [State.launch] at hi ⊢
    by_cases hit : i = s.opened + 1
    · subst hit
      exact ⟨rfl, rfl⟩
    · rw [Function.update_of_ne hit, hunread i] at hi
      cases hi
  · simp only [State.launch] at hi hne
    by_cases hit : i = s.opened + 1
    · subst hit
      rw [Function.update_self] at hne
      exact absurd rfl hne
    · rw [Function.update_of_ne hit, hunread i] at hi
      cases hi
  · have := hjoined t
    rw [show s.phase t = s.launch.phase t from rfl, ht] at this
    cases this
  · simp [State.launch, State.setSer] at ho
  · simp only [State.launch]
    by_cases hit : i = s.opened + 1
    · subst hit
      rw [Function.update_self]
      exact Nat.zero_le _
    · rw [Function.update_of_ne hit]
      exact h.generation i
  · rw [show s.launch.origins = s.origins from rfl, hempty] at ho
    cases ho

/-- The thread at `t` is the only one that is past the join. -/
theorem unjoined_moveTo (hlocks : Locks s) {t : T} {q : Phase} (ht : (s.phase t).changes)
    (hq : q.joined = false) (u : T) : ((s.moveTo t q).phase u).joined = false := by
  simp only [State.moveTo]
  by_cases hut : u = t
  · subst hut
    rw [Function.update_self]
    exact hq
  · rw [Function.update_of_ne hut]
    by_contra hu
    rw [Bool.not_eq_false] at hu
    exact hut (hlocks.sole (Phase.changes_of_joined hu) ht)

theorem openTransport (h : Readers s) (hlocks : Locks s) {t : T} {failed succeeded : Phase}
    (outcome : Opening) (ht : (s.phase t).changes) (hunread : Unread s) (hempty : s.origins = [])
    (hfailed : failed.joined = false) (hsucceeded : succeeded.joined = false) :
    Readers (s.openTransport t failed succeeded outcome) := by
  have hno : ∀ q : Phase, q.joined = false → ∀ r : State T Obj, (q.joined → Unread r) := by
    intro q hq r hj
    rw [hq] at hj
    cases hj
  have hnot : ∀ q : Phase, q.joined = false → q ≠ .reopen := by
    rintro q hq rfl
    cases hq
  cases outcome with
  | failed => exact h.moveTo (hno _ hfailed _) (fun hq => absurd hq (hnot _ hfailed))
  | broken counted =>
      exact (h.setSer hunread hempty counted).moveTo (hno _ hfailed _)
        (fun hq => absurd hq (hnot _ hfailed))
  | succeeded =>
      have hmoved : Readers (s.moveTo t succeeded) :=
        h.moveTo (hno _ hsucceeded _) (fun hq => absurd hq (hnot _ hsucceeded))
      exact hmoved.launch hunread hempty (unjoined_moveTo hlocks ht hsucceeded)

/-- A reader that is not alive does not come to the buffer again. -/
theorem unread_of_join (h : Readers s) (hdead : s.readerAlive = false) : Unread s := by
  intro i
  by_contra hi
  rw [Bool.not_eq_false] at hi
  obtain ⟨hthread, _⟩ := h.attached i hi
  simp only [State.readerAlive, hthread, ne_eq, decide_not, Bool.not_eq_false',
    decide_eq_true_eq] at hdead
  rw [hdead] at hi
  cases hi

/-- One access of a thread. -/
theorem threadStep {s s' : State T Obj} {a : Action T} (h : Readers s) (hlocks : Locks s)
    (hstep : State.threadStep s a = some s') : Readers s' := by
  have hmove : ∀ {r : State T Obj}, Readers r → ∀ (t : T) (q : Phase), q.joined = false →
      Readers (r.moveTo t q) := by
    intro r hr t q hq
    refine hr.moveTo (fun hj => ?_) (fun hreopen => ?_)
    · rw [hq] at hj
      cases hj
    · rw [hreopen] at hq
      cases hq
  have hraised : ∀ why : Why, why.raised.joined = false := by
    intro why
    cases why <;> rfl
  cases a with
  | start t =>
      simp only [State.threadStep, Option.ite_none_right_eq_some, Option.some.injEq] at hstep
      obtain ⟨_, rfl⟩ := hstep
      exact hmove h t _ rfl
  | openInitial t outcome =>
      simp only [State.threadStep, Option.ite_none_right_eq_some, Option.some.injEq] at hstep
      obtain ⟨hp, rfl⟩ := hstep
      obtain ⟨hunread, hempty⟩ := h.unopened (hlocks.opening t hp)
      exact h.openTransport hlocks outcome (by rw [hp]; rfl) hunread hempty rfl rfl
  | recover t =>
      simp only [State.threadStep, Option.ite_none_right_eq_some, Option.some.injEq] at hstep
      obtain ⟨_, rfl⟩ := hstep
      exact hmove h t _ rfl
  | acquire t =>
      simp only [State.threadStep, Option.ite_none_right_eq_some] at hstep
      obtain ⟨_, hstep⟩ := hstep
      split at hstep
      · cases hstep
        exact hmove h t _ rfl
      · cases hstep
        exact hmove h t _ rfl
      · cases hstep
  | reopen t outcome =>
      simp only [State.threadStep, Option.ite_none_right_eq_some, Option.some.injEq] at hstep
      obtain ⟨hp, rfl⟩ := hstep
      exact h.openTransport hlocks outcome (by rw [hp]; rfl) (h.joined t (by rw [hp]; rfl))
        (h.reopen t hp) rfl rfl
  | finish t sends =>
      simp only [State.threadStep, Option.ite_none_right_eq_some, Option.some.injEq] at hstep
      obtain ⟨_, rfl⟩ := hstep
      cases sends <;> exact hmove h t _ rfl
  | check t =>
      simp only [State.threadStep, Option.ite_none_right_eq_some, Option.some.injEq] at hstep
      obtain ⟨_, rfl⟩ := hstep
      exact hmove h t _ rfl
  | write t =>
      simp only [State.threadStep, Option.ite_none_right_eq_some, Option.some.injEq] at hstep
      obtain ⟨_, rfl⟩ := hstep
      exact hmove h t _ rfl
  | writeFails t =>
      simp only [State.threadStep] at hstep
      split at hstep
      · cases hstep
        exact hmove h t _ rfl
      · cases hstep
        exact hmove h t _ rfl
      · cases hstep
  | close t =>
      simp only [State.threadStep, Option.ite_none_right_eq_some, Option.some.injEq] at hstep
      obtain ⟨_, rfl⟩ := hstep
      exact hmove h t _ rfl
  | mark t =>
      simp only [State.threadStep] at hstep
      split at hstep
      · cases hstep
        exact hmove h.endGeneration t _ rfl
      · cases hstep
  | join t =>
      simp only [State.threadStep] at hstep
      split at hstep
      · rename_i why _
        cases hstep
        by_cases halive : s.readerAlive
        · rw [if_pos halive]
          exact hmove h t _ (hraised why)
        · rw [if_neg halive]
          rw [Bool.not_eq_true] at halive
          exact h.moveTo (fun _ => h.unread_of_join halive) (by simp)
      · cases hstep
  | detach t =>
      simp only [State.threadStep] at hstep
      split at hstep
      · rename_i why hp
        cases hstep
        have hunread := h.joined t (by rw [hp]; rfl)
        refine (h.dropThread hunread).dropSer.moveTo (fun _ => hunread) ?_
        cases why <;> simp [Why.detached]
      · cases hstep
  | clear t =>
      simp only [State.threadStep] at hstep
      split at hstep
      · rename_i why hp
        cases hstep
        exact h.clearBuf.moveTo (fun _ => h.joined t (by rw [hp]; rfl)) (fun _ => rfl)
      · cases hstep
  | leave t =>
      simp only [State.threadStep, Option.map_eq_some_iff] at hstep
      obtain ⟨q, hq, rfl⟩ := hstep
      refine hmove h t q ?_
      simp only [State.leaves] at hq
      split at hq <;> cases hq
      all_goals first
        | rfl
        | exact hraised _
  | _ => cases hstep

/-- Bytes that the reader of the transport opened last has read. -/
theorem extend (h : Readers s) {i g : Nat} {chunk : List UInt8}
    (hi : s.reader i = .holding g chunk) :
    Readers { s with
      parser := { s.parser with buf := s.parser.buf ++ chunk }
      origins := s.origins ++ List.replicate chunk.length (s.transport i) } := by
  have hattached : (s.reader i).attached := by rw [hi]; rfl
  have hopened : s.transport i = s.opened := by
    rw [h.entered i hattached (by rw [hi]; simp)]
    exact (h.attached i hattached).2
  have hbusy : ¬ Unread s := by
    intro hnone
    rw [hnone i] at hattached
    cases hattached
  refine { h with
    unopened := fun ho => absurd (h.unopened ho).1 hbusy
    length := ?_
    origins := fun o ho => ?_
    reopen := fun t ht => absurd (h.joined t (by rw [ht]; rfl)) hbusy }
  · rw [List.length_append, List.length_append, List.length_replicate, h.length]
  · rcases List.mem_append.mp ho with ho | ho
    · exact h.origins o ho
    · rw [List.eq_of_mem_replicate ho, hopened]

/-- The parser takes bytes off the front, or drops them. -/
theorem parsed (h : Readers s) {p : Parser} (hsuffix : p.buf <:+ s.parser.buf) :
    Readers (s.parsed p) := by
  have hle := hsuffix.length_le
  refine { h with
    unopened := fun ho => ⟨(h.unopened ho).1, ?_⟩
    length := ?_
    origins := fun o ho => h.origins o (List.mem_of_mem_drop ho)
    reopen := fun t ht => ?_ }
  · simp only [State.parsed, (h.unopened ho).2, List.drop_nil]
  · simp only [State.parsed, List.length_drop, h.length]
    omega
  · simp only [State.parsed, h.reopen t ht, List.drop_nil]

/-- A reader that stays at its loop. -/
theorem readerWithin (h : Readers s) {i : Nat} {q : ReaderPhase} (hi : (s.reader i).attached)
    (hstarted : s.reader i ≠ .started) (hq : q.before ≤ (s.reader i).before) :
    Readers (s.readerTo i q) :=
  h.readerTo (fun _ => hi) (fun _ _ => h.entered i hi hstarted) (hq.trans (h.generation i))

/-- A reader that is through with the buffer. -/
theorem readerGone (h : Readers s) {i : Nat} {q : ReaderPhase} (hq : q.attached = false)
    (hbefore : q.before ≤ (s.reader i).before) : Readers (s.readerTo i q) := by
  refine h.readerTo (fun ha => ?_) (fun ha => ?_) (hbefore.trans (h.generation i))
  · rw [hq] at ha
    cases ha
  · rw [hq] at ha
    cases ha

theorem raiseAt (h : Readers s) {i : Nat} (g : Nat) (hi : (s.reader i).attached)
    (hstarted : s.reader i ≠ .started) (hg : g ≤ (s.reader i).before) :
    Readers (s.raiseAt i g) := by
  unfold State.raiseAt
  split
  · exact h.readerWithin hi hstarted hg
  · exact h.readerWithin hi hstarted hg

variable (decode : List UInt8 → String) (rawDecode : String → Decoded Obj)

/-- A call of `_extract_item`. The bytes of an item all lie in the buffer at its start. -/
theorem extractAt (h : Readers s) {i g : Nat} (hi : s.reader i = .parsing g) :
    Readers (s.extractAt decode rawDecode i g) := by
  have hattached : (s.reader i).attached := by rw [hi]; rfl
  have hstarted : s.reader i ≠ .started := by rw [hi]; simp
  have hbefore : g ≤ (s.reader i).before := by rw [hi]; exact Nat.le_refl g
  have hsuffix := extractItem_suffix decode rawDecode s.parser
  unfold State.extractAt
  cases hextract : extractItem decode rawDecode s.parser with
  | nothing p =>
      rw [hextract] at hsuffix
      exact (h.parsed hsuffix).readerWithin hattached hstarted hbefore
  | item item p =>
      rw [hextract] at hsuffix
      have hshort := extractItem_item_length decode rawDecode hextract
      refine { h.parsed hsuffix with items := fun d hd => ?_ }
      rcases List.mem_append.mp hd with hd | hd
      · exact h.items d hd
      · rw [List.mem_singleton] at hd
        subst hd
        refine ⟨?_, s.opened, fun o ho => h.origins o (List.mem_of_mem_take ho)⟩
        rw [← List.length_pos_iff, List.length_take, h.length]
        omega
  | raised p =>
      rw [hextract] at hsuffix
      exact (h.parsed hsuffix).raiseAt g hattached hstarted hbefore

/-- One access of a reader. -/
theorem readerStep {s' : State T Obj} {a : Action T} (h : Readers s)
    (hstep : State.readerStep decode rawDecode s a = some s') : Readers s' := by
  cases a with
  | enter i =>
      simp only [State.readerStep, Option.ite_none_right_eq_some] at hstep
      obtain ⟨hi, hstep⟩ := hstep
      have hattached : (s.reader i).attached := by rw [hi]; rfl
      split at hstep
      · cases hstep
        exact h.readerGone rfl (Nat.zero_le _)
      · rename_i n hn
        cases hstep
        -- the transport in `ser` is the one that the reader was started for
        have hni : n = i := (h.ser n hn).trans (h.attached i hattached).2.symm
        subst hni
        have hset : Readers { s with transport := Function.update s.transport n n } := by
          refine { h with entered := fun j hj hne => ?_ }
          by_cases hjn : j = n
          · subst hjn
            exact Function.update_self ..
          · show Function.update s.transport n n j = j
            rw [Function.update_of_ne hjn]
            exact h.entered j hj hne
        exact hset.readerTo (fun _ => hattached) (fun _ _ => Function.update_self ..)
          (Nat.le_refl _)
  | loop i =>
      simp only [State.readerStep] at hstep
      split at hstep
      · rename_i g hi
        cases hstep
        refine h.readerWithin (by rw [hi]; rfl) (by rw [hi]; simp) ?_
        rw [hi]
        split
        · exact Nat.le_refl g
        · exact Nat.zero_le g
      · rename_i g hi
        cases hstep
        -- its generation is over, whatever has been opened meanwhile
        have hended : g + 1 ≤ s.transportGeneration := by
          have hbefore := h.generation i
          rwa [hi] at hbefore
        rw [if_neg (by omega)]
        exact h.readerGone rfl (Nat.zero_le _)
      · cases hstep
  | read i chunk =>
      simp only [State.readerStep] at hstep
      split at hstep
      · rename_i g hi
        cases hstep
        refine h.readerWithin (by rw [hi]; rfl) (by rw [hi]; simp) ?_
        rw [hi]
        split
        · exact Nat.le_refl g
        · exact Nat.zero_le g
      · cases hstep
  | raise i =>
      simp only [State.readerStep] at hstep
      split at hstep
      · rename_i g hi
        cases hstep
        exact h.raiseAt g (by rw [hi]; rfl) (by rw [hi]; simp) (by rw [hi]; exact Nat.le_refl g)
      · rename_i g hi
        cases hstep
        exact h.raiseAt g (by rw [hi]; rfl) (by rw [hi]; simp) (by rw [hi]; exact Nat.le_refl g)
      · cases hstep
  | extend i =>
      simp only [State.readerStep] at hstep
      split at hstep
      · rename_i g chunk hi
        cases hstep
        have hattached : (s.reader i).attached := by rw [hi]; rfl
        have hbefore : g ≤ (s.reader i).before := by rw [hi]; exact Nat.le_refl g
        exact (h.extend hi).readerWithin hattached (by rw [hi]; simp) hbefore
      · cases hstep
  | extract i =>
      simp only [State.readerStep] at hstep
      split at hstep
      · rename_i g hi
        cases hstep
        exact h.extractAt decode rawDecode hi
      · cases hstep
  | markFailed i =>
      simp only [State.readerStep] at hstep
      split at hstep
      · rename_i g hi
        cases hstep
        have hattached : (s.reader i).attached := by rw [hi]; rfl
        have hbefore : g ≤ s.transportGeneration := by
          have hle := h.generation i
          rwa [hi] at hle
        exact h.endGeneration.readerTo (fun _ => hattached)
          (fun _ _ => h.entered i hattached (by rw [hi]; simp)) (Nat.succ_le_succ hbefore)
      · cases hstep
  | dropThread i =>
      simp only [State.readerStep] at hstep
      split at hstep
      · rename_i g hi
        cases hstep
        have hattached : (s.reader i).attached := by rw [hi]; rfl
        have hmoved : Readers (s.readerTo i (.dropSer g)) :=
          h.readerGone rfl (by rw [hi]; exact Nat.le_refl _)
        -- the thread that is dropped was the reader's own
        refine hmoved.dropThread fun j => ?_
        by_contra hj
        rw [Bool.not_eq_false] at hj
        have hthread := (hmoved.attached j hj).1.symm.trans (h.attached i hattached).1
        obtain rfl : j = i := Option.some.inj hthread
        simp only [State.readerTo, Function.update_self] at hj
        cases hj
      · cases hstep
  | dropSer i =>
      simp only [State.readerStep] at hstep
      split at hstep
      · rename_i g hi
        cases hstep
        have hbefore : g + 1 ≤ (s.reader i).before := by rw [hi]; exact Nat.le_refl _
        exact h.dropSer.readerGone rfl hbefore
      · cases hstep
  | clearFailed i =>
      simp only [State.readerStep] at hstep
      split at hstep
      · rename_i g hi
        cases hstep
        have hbefore : g + 1 ≤ (s.reader i).before := by rw [hi]; exact Nat.le_refl _
        exact h.clearBuf.readerGone rfl hbefore
      · cases hstep
  | _ => cases hstep

end Readers

end Readers

/-! ## Every run -/

section Runs

variable {T Obj : Type} [DecidableEq T]

theorem locks_init : Locks (init T Obj) where
  owner t := by simp [init, Phase.inStartup]
  lock t := by simp [init, Phase.inWrite]
  apart t u ht := by cases ht
  client t u ht := by cases ht
  afterOpening t ht := by cases ht
  opening t ht := by cases ht
  started hs := by cases hs

theorem readers_init : Readers (init T Obj) where
  attached i hi := by cases hi
  entered i hi := by cases hi
  joined t ht := by cases ht
  unopened _ := ⟨fun _ => rfl, rfl⟩
  ser n hn := by cases hn
  generation i := Nat.le_refl 0
  length := rfl
  origins o ho := by cases ho
  reopen t ht := by cases ht
  items d hd := by cases hd

variable {decode : List UInt8 → String} {rawDecode : String → Decoded Obj}

theorem Locks.readerStep {s s' : State T Obj} {a : Action T} (h : Locks s)
    (hstep : State.readerStep decode rawDecode s a = some s') : Locks s' := by
  cases a with
  | enter i =>
      simp only [State.readerStep, Option.ite_none_right_eq_some] at hstep
      obtain ⟨_, hstep⟩ := hstep
      split at hstep <;> cases hstep <;> exact h.of_same rfl rfl rfl rfl (fun hs => hs)
  | loop i =>
      simp only [State.readerStep] at hstep
      split at hstep <;> cases hstep <;> exact h.of_same rfl rfl rfl rfl (fun hs => hs)
  | read i chunk =>
      simp only [State.readerStep] at hstep
      split at hstep <;> cases hstep
      exact h.of_same rfl rfl rfl rfl (fun hs => hs)
  | raise i =>
      simp only [State.readerStep] at hstep
      split at hstep <;> cases hstep <;> exact h.of_same rfl rfl rfl rfl (fun hs => hs)
  | extend i =>
      simp only [State.readerStep] at hstep
      split at hstep <;> cases hstep
      exact h.of_same rfl rfl rfl rfl (fun hs => hs)
  | extract i =>
      simp only [State.readerStep] at hstep
      split at hstep <;> cases hstep
      unfold State.extractAt
      split <;> exact h.of_same rfl rfl rfl rfl (fun hs => hs)
  | markFailed i =>
      simp only [State.readerStep] at hstep
      split at hstep <;> cases hstep
      exact h.of_same rfl rfl rfl rfl (fun hs => hs)
  | dropThread i =>
      simp only [State.readerStep] at hstep
      split at hstep <;> cases hstep
      exact h.of_same rfl rfl rfl rfl (fun hs => hs)
  | dropSer i =>
      simp only [State.readerStep] at hstep
      split at hstep <;> cases hstep
      exact h.of_same rfl rfl rfl rfl (fun hs => by cases hs)
  | clearFailed i =>
      simp only [State.readerStep] at hstep
      split at hstep <;> cases hstep
      exact h.of_same rfl rfl rfl rfl (fun hs => hs)
  | _ => cases hstep

/-- A step is one of a thread or one of a reader. -/
theorem step_cases {s s' : State T Obj} {a : Action T}
    (hstep : State.step decode rawDecode s a = some s') :
    State.threadStep s a = some s' ∨ State.readerStep decode rawDecode s a = some s' := by
  unfold State.step at hstep
  cases hthread : State.threadStep s a with
  | some r =>
      rw [hthread, Option.some_or] at hstep
      exact .inl hstep
  | none =>
      rw [hthread, Option.none_or] at hstep
      exact .inr hstep

theorem keeps_apart {s : State T Obj}
    (hrun : Machine.Run (State.step decode rawDecode) alone (init T Obj) s) :
    Locks s ∧ Readers s := by
  refine Machine.Run.invariant (I := fun r => Locks r ∧ Readers r) ⟨locks_init, readers_init⟩
    ?_ hrun
  intro r a r' hok hstep hinv
  obtain ⟨hlocks, hreaders⟩ := hinv
  rcases step_cases hstep with hthread | hreader
  · exact ⟨hlocks.threadStep hok hthread, hreaders.threadStep hlocks hthread⟩
  · exact ⟨hlocks.readerStep hreader, hreaders.readerStep decode rawDecode hreader⟩

/-- Two threads: a write fails, the transport is torn down while its reader is parsing, and the next
one is opened by a recovery. -/
def reopened : List (Action Bool) :=
  [.start false, .openInitial false .succeeded, .enter 1, .loop 1, .read 1 [0x7B], .extend 1,
    .finish false false, .check true, .acquire true, .recover false, .writeFails true, .mark true,
    .raise 1, .loop 1, .join true, .detach true, .clear true, .acquire false, .mark false,
    .join false, .detach false, .clear false, .reopen false .succeeded, .enter 2, .loop 2,
    .read 2 [0xA5], .extend 2]

end Runs

end NexusN3.Gateway.Transports
