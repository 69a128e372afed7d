import Mathlib.Data.Finset.Basic
import NexusN3.Lib.Machine
import NexusN3.Lib.Transcript
import NexusN3.Lib.Value

/-!
# The JSON-RPC connection to a plugin

One thread reads the lines of the peer. A message with a `method` is a request: its handler runs on
a thread of its own, or, for the ordered methods, on the one worker that takes them from a queue. A
message without is a response, and completes the request that waits under its id.

* **`JsonRpcConnection`** — a connection, with all that has come to it and what it did about it.
* **`step`** — its steps, those of the reader, the worker, the handlers and the callers.
* **`Good`** — what the connection promises, read off its history; **`Lawful`** is a step to a good
  state which gets over what is to be ignored.
-/

namespace NexusN3.Plugins.JsonRpc

open Lib

/-- What `json.loads` makes of a line; `unreadable` where it raises something other than a
`JSONDecodeError`. -/
inductive Line where
  | blank
  | malformed
  | unreadable
  | json (value : Value)

/-- What comes to a connection from outside. -/
inductive Input where
  | line (line : Line)
  | register (method : String) (ordered : Bool)
  | request (id : String)
  /-- the caller of a request gives its id up, answered or not -/
  | leave (id : String)
  /-- `_fail_pending` -/
  | failed

/-- An incoming request, with its place in the history. -/
structure Message where
  place : Nat
  fields : Fields

inductive Worker where
  | idle
  | busy (message : Message)
  | gone

inductive Reply where
  | result
  | error (code : Int)

inductive Run where
  | began (place : Nat)
  | ended (place : Nat)
  deriving DecidableEq

/-- One request handled from its beginning to its end. -/
def span (place : Nat) : List Run := [.began place, .ended place]

/-- How a handler ends: `json.dumps` may not take what it returns. -/
inductive Outcome where
  | unknownMethod
  | returned (serializable : Bool)
  | raised

/-- `_handle_request`: what is written for a request with an id. -/
def Outcome.reply : Outcome → Reply
  | .unknownMethod => .error (-32601)
  | .returned true => .result
  | .returned false => .error (-32000)
  | .raised => .error (-32000)

structure JsonRpcConnection where
  /-- the reader is in its loop -/
  reading : Bool
  closed : Bool
  pending : Finset String
  /-- `_ordered_handlers` -/
  ordered : String → Bool
  queue : List (Option Message)
  worker : Worker
  /-- the threads of the other requests -/
  threads : List Message
  history : List Input
  /-- the reader has left its loop at the end of the input -/
  inputEnded : Bool
  /-- the ids of completed requests, with the places of the responses -/
  completed : List (String × Nat)
  replies : List (Nat × Reply)
  /-- what the worker has done -/
  runs : List Run

inductive Action where
  | line (line : Line)
  | endOfInput
  | register (method : String) (ordered : Bool)
  /-- `request` puts its id, a new one, among the pending ones -/
  | request (id : String)
  /-- the `finally` of `request` -/
  | leave (id : String)
  | close
  /-- the worker gets the next item of the queue -/
  | take
  /-- the worker is through with a request -/
  | finish (outcome : Outcome)
  /-- a thread is through with its request -/
  | answer (index : Nat) (outcome : Outcome)

/-! ## Messages -/

/-- `"method" in message`. -/
def isRequest (fields : Fields) : Bool := (fields.lookup "method").isSome

/-- `message.get("id") is not None`. -/
def hasId (fields : Fields) : Bool :=
  match Value.get fields "id" with
  | .null => false
  | _ => true

section Text

-- `str` of a value that is no text
variable (strOf : Value → String)

/-- `str(message.get(key) or "")`. -/
def textOf (fields : Fields) (key : String) : String :=
  match (Value.get fields key).orElse (.str "") with
  | .str s => s
  | v => strOf v

end Text

/-! ## Steps -/

namespace JsonRpcConnection

def hear (c : JsonRpcConnection) (input : Input) : JsonRpcConnection :=
  { c with history := c.history ++ [input] }

/-- `_fail_pending`, and the sentinel that ends the worker. -/
def failPending (c : JsonRpcConnection) : JsonRpcConnection :=
  { c.hear .failed with
    closed := true
    pending := ∅
    queue := c.queue ++ [none] }

/-- An exception ends the loop of the reader. -/
def readerDies (c : JsonRpcConnection) : JsonRpcConnection :=
  { c.failPending with reading := false }

/-- The end of the input does as well. -/
def endOfInput (c : JsonRpcConnection) : JsonRpcConnection :=
  { c.failPending with
    reading := false
    inputEnded := true }

def close (c : JsonRpcConnection) : JsonRpcConnection :=
  if c.closed then c else c.failPending

section Text

variable (strOf : Value → String)

/-- `_dispatch_request`. -/
def dispatchRequest (c : JsonRpcConnection) (m : Message) : JsonRpcConnection :=
  if c.ordered (textOf strOf m.fields "method") then { c with queue := c.queue ++ [some m] }
  else { c with threads := c.threads ++ [m] }

/-- `_dispatch_response`. -/
def dispatchResponse (c : JsonRpcConnection) (place : Nat) (fields : Fields) : JsonRpcConnection :=
  let requestId := textOf strOf fields "id"
  if requestId ∈ c.pending then
    { c with
      pending := c.pending.erase requestId
      completed := c.completed ++ [(requestId, place)] }
  else c

/-- One turn of the loop of `_read_loop`. Of what is no dictionary `in` or `get` raises. -/
def readLine (c : JsonRpcConnection) : Line → JsonRpcConnection
  | .blank => c.hear (.line .blank)
  | .malformed => c.hear (.line .malformed)
  | .unreadable => (c.hear (.line .unreadable)).readerDies
  | .json (.obj fields) =>
    let heard := c.hear (.line (.json (.obj fields)))
    if isRequest fields then heard.dispatchRequest strOf ⟨c.history.length, fields⟩
    else heard.dispatchResponse strOf c.history.length fields
  | .json v => (c.hear (.line (.json v))).readerDies

end Text

/-- One reply to a request with an id. -/
def respond (c : JsonRpcConnection) (m : Message) (outcome : Outcome) : JsonRpcConnection :=
  { c with replies :=
      if hasId m.fields then c.replies ++ [(m.place, outcome.reply)] else c.replies }

end JsonRpcConnection

def step (strOf : Value → String) : Machine JsonRpcConnection Action
  | c, .line line => if c.reading then some (c.readLine strOf line) else none
  | c, .endOfInput => if c.reading then some c.endOfInput else none
  | c, .register method ordered =>
    some { c.hear (.register method ordered) with
      ordered := Function.update c.ordered method ordered }
  | c, .request id =>
    if c.history.any fun | .request id' => id' = id | _ => false then none
    else some { c.hear (.request id) with pending := insert id c.pending }
  | c, .leave id => some { c.hear (.leave id) with pending := c.pending.erase id }
  | c, .close => some c.close
  | c, .take =>
    match c.worker, c.queue with
    | .idle, none :: rest => some { c with worker := .gone, queue := rest }
    | .idle, some m :: rest =>
      some { c with worker := .busy m, queue := rest, runs := c.runs ++ [.began m.place] }
    | _, _ => none
  | c, .finish outcome =>
    match c.worker with
    | .busy m =>
      some { c.respond m outcome with worker := .idle, runs := c.runs ++ [.ended m.place] }
    | _ => none
  | c, .answer index outcome =>
    (c.threads[index]?).map fun m =>
      { c.respond m outcome with threads := c.threads.eraseIdx index }

def init : JsonRpcConnection where
  reading := true
  closed := false
  pending := ∅
  ordered := fun _ => false
  queue := []
  worker := .idle
  threads := []
  history := []
  inputEnded := false
  completed := []
  replies := []
  runs := []

/-! ## What is promised -/

/-- A request that is to be answered. -/
def Input.asks : Input → Bool
  | .line (.json (.obj fields)) => isRequest fields && hasId fields
  | _ => false

/-- Whether the method has been registered as an ordered one, the last time that it has. -/
def orderedBy (history : List Input) (method : String) : Bool :=
  history.foldl (fun b x =>
    match x with
    | .register method' ordered => if method' = method then ordered else b
    | _ => b) false

section Promise

variable (strOf : Value → String)

/-- A request of an ordered method. -/
def isOrdered (before : List Input) : Input → Bool
  | .line (.json (.obj fields)) =>
    isRequest fields && orderedBy before (textOf strOf fields "method")
  | _ => false

/-- What ends that a request is outstanding: among others, a response with its id. -/
def ends (id : String) : Input → Prop
  | .line (.json (.obj fields)) => isRequest fields = false ∧ textOf strOf fields "id" = id
  | .leave id' => id' = id
  | .failed => True
  | _ => False

def Outstanding (history : List Input) (id : String) : Prop :=
  Standing (fun x => x = .request id) (ends strOf id) history

/-- The first response with the id of a request that is outstanding. -/
def completes (id : String) (before : List Input) : Input → Prop
  | .line (.json (.obj fields)) =>
    isRequest fields = false ∧ textOf strOf fields "id" = id ∧ Outstanding strOf before id
  | _ => False

end Promise

def Worker.toList : Worker → List Message
  | .busy m => [m]
  | _ => []

/-- The messages that the worker comes to: those in front of the sentinel. -/
def reachable : Worker → List (Option Message) → List Message
  | .gone, _ => []
  | _, queue => (queue.takeWhile Option.isSome).reduceOption

def asked (ms : List Message) : List Nat := (ms.filter fun m => hasId m.fields).map Message.place

/-- The requests that are still to be answered. -/
def JsonRpcConnection.unanswered (c : JsonRpcConnection) : List Nat :=
  asked (c.worker.toList ++ reachable c.worker c.queue ++ c.threads)

structure Good (strOf : Value → String) (c : JsonRpcConnection) : Prop where
  /-- The reader has not stopped before the end of the input. -/
  reads : c.reading = true ∨ c.inputEnded = true
  completions : ∀ id n, (id, n) ∈ c.completed ↔ At (completes strOf id) c.history n
  once : (c.completed.map Prod.fst).Nodup
  /-- Each incoming request with an id has one answer, or still gets it, and nothing else has. -/
  answered : ∀ n, (c.replies.map Prod.fst).count n + c.unanswered.count n =
    if (c.history[n]?).any Input.asks then 1 else 0
  /-- While there is one to answer, a handler can come to its end, or the worker to its next. -/
  live : c.unanswered ≠ [] → (step strOf c .take).isSome = true ∨
    ∀ outcome, (step strOf c (.finish outcome)).isSome = true ∨
      (step strOf c (.answer 0 outcome)).isSome = true
  /-- The worker handles the ordered requests one after another, as they came. -/
  inOrder : c.runs <+: (places (isOrdered strOf) c.history).flatMap span

/-- A line that is no JSON object, or a response to nothing that is pending. -/
def JsonRpcConnection.ignores (strOf : Value → String) (c : JsonRpcConnection) : Line → Prop
  | .json (.obj fields) => isRequest fields = false ∧ textOf strOf fields "id" ∉ c.pending
  | _ => True

/-- A step leads to a good state, and a line that is to be ignored is. -/
def Lawful (strOf : Value → String) (c : JsonRpcConnection) (action : Action)
    (c' : JsonRpcConnection) : Prop :=
  Good strOf c' ∧ ∀ line, action = .line line → c.ignores strOf line → c' = c.hear (.line line)

/-- A line that the loop gets over. An ordered request with an id comes before `close`. -/
def JsonRpcConnection.survives (strOf : Value → String) (c : JsonRpcConnection) : Line → Prop
  | .blank | .malformed => True
  | .unreadable => False
  | .json (.obj fields) => isRequest fields = true → hasId fields = true →
      c.ordered (textOf strOf fields "method") = true → c.closed = false
  | .json _ => False

def spares (strOf : Value → String) (c : JsonRpcConnection) : Action → Prop
  | .line line => c.reading = true → c.survives strOf line
  | _ => True

end NexusN3.Plugins.JsonRpc
