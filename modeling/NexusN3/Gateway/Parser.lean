import NexusN3.Lib.Text
import Mathlib.Data.List.MinMax
import Mathlib.Order.MinMax
import Mathlib.Algebra.GroupWithZero.Nat

/-!
# The gateway's wire parser

`GatewaySerialClient._extract_item` and what it calls, and the drain of `_read_loop`. The
gateway interleaves two formats on one wire: JSON objects, one to a line, and binary stream
frames behind the magic bytes `A5 5A`. The parser tells them apart by the first bytes of the
buffer, drops what is neither up to the next thing that looks like one of them, and waits
when the buffer ends inside a line or a frame.

* **`loopBody`** — one turn of the `while` loop of `_extract_item`.
* **`extractItem`** — the loop. It ends because every turn that goes on has shortened the
  buffer (`loopBody_again_length`).
* **`Reader.read`** — one turn of `_read_loop`: append a chunk and drain. An exception while
  draining ends the loop and clears the buffer, as `_handle_transport_failure` does.

The byte decoder and the JSON decoder are parameters. The JSON decoder may raise its own
`JSONDecodeError`, which the parser catches, or something else, which it does not.
-/

namespace NexusN3.Gateway

open Lib

/-- `STREAM_FRAME_MAGIC`. -/
def streamFrameMagic : List UInt8 := [0xA5, 0x5A]

/-- `ord("{")`. -/
def openBrace : UInt8 := 0x7B

def newlineByte : UInt8 := 0x0A

structure StreamFrame where
  sensorId : UInt8
  gatewayTimestampUs : Nat
  payload : List UInt8
  deriving DecidableEq

/-- What `_extract_item` returns, besides `None`. -/
inductive Item (Obj : Type) where
  | json (msg : Obj)
  | streamFrame (frame : StreamFrame)
  deriving DecidableEq

/-- What `raw_decode` does on a text. -/
inductive Decoded (Obj : Type) where
  | value (obj : Obj)
  | decodeError
  | raised
  deriving DecidableEq

/-- `int.from_bytes(.., "little")`. -/
def fromLittle : List UInt8 → Nat
  | [] => 0
  | b :: bs => b.toNat + 256 * fromLittle bs

/-! ## The parser's state -/

inductive BlockKind where
  | json
  | frame
  deriving DecidableEq

/-- The fields of the client that parsing reads and writes. -/
structure Parser where
  buf : List UInt8 := []
  streamResyncDropBytes : Nat := 0
  streamResyncEvents : Nat := 0
  streamChecksumFailures : Nat := 0
  streamPartialJsonWaits : Nat := 0
  streamPartialFrameWaits : Nat := 0
  partialBlock : Option (BlockKind × Nat) := none
  deriving DecidableEq

namespace Parser

def clearPartialBlock (p : Parser) : Parser := { p with partialBlock := none }

/-- The same block at the same length is counted once. -/
def recordPartialBlock (p : Parser) (kind : BlockKind) : Parser :=
  let currentLen := p.buf.length
  if p.partialBlock = some (kind, currentLen) then p
  else
    let p := { p with partialBlock := some (kind, currentLen) }
    match kind with
    | .json => { p with streamPartialJsonWaits := p.streamPartialJsonWaits + 1 }
    | .frame => { p with streamPartialFrameWaits := p.streamPartialFrameWaits + 1 }

def dropAndResync (p : Parser) (dropLen : Nat) : Parser :=
  if dropLen ≤ 0 then p.clearPartialBlock
  else
    { p with
      streamResyncDropBytes := p.streamResyncDropBytes + dropLen
      streamResyncEvents := p.streamResyncEvents + 1
      buf := p.buf.drop dropLen }.clearPartialBlock

/-- Take `n` bytes off the front as understood. -/
def consume (p : Parser) (n : Nat) : Parser :=
  { p with buf := p.buf.drop n }.clearPartialBlock

@[simp] theorem clearPartialBlock_buf (p : Parser) : p.clearPartialBlock.buf = p.buf := rfl

@[simp] theorem consume_buf (p : Parser) (n : Nat) : (p.consume n).buf = p.buf.drop n := rfl

@[simp] theorem dropAndResync_buf (p : Parser) (n : Nat) :
    (p.dropAndResync n).buf = p.buf.drop n := by
  unfold dropAndResync
  split
  · rename_i h
    obtain rfl : n = 0 := by omega
    rfl
  · rfl

@[simp] theorem recordPartialBlock_buf (p : Parser) (kind : BlockKind) :
    (p.recordPartialBlock kind).buf = p.buf := by
  cases kind
  all_goals
    simp only [recordPartialBlock]
    split <;> rfl

end Parser

/-! ## `_extract_item` -/

/-- How one turn of the loop ends. -/
inductive Turn (Obj : Type) where
  /-- `continue`, or the end of the body. -/
  | again (p : Parser)
  /-- `return None`. -/
  | stop (p : Parser)
  | item (i : Item Obj) (p : Parser)
  | raised (p : Parser)

section Extract

variable {Obj : Type} (decode : List UInt8 → String) (rawDecode : String → Decoded Obj)

/-- `json_objects_from_line`: what it yields in order; `none` is an exception, and the last. -/
def jsonObjectsFromLine : List Char → List (Option Obj)
  | [] => []
  | character :: rest =>
    if character ≠ '{' then jsonObjectsFromLine rest
    else
      match rawDecode (String.ofList (character :: rest)) with
      | .value obj => some obj :: jsonObjectsFromLine rest
      | .decodeError => jsonObjectsFromLine rest
      | .raised => [none]

/-- The turn at a line that starts with an open brace. -/
def lineTurn (p : Parser) : Turn Obj :=
  match find [newlineByte] p.buf with
  | none => .stop (p.recordPartialBlock .json)
  | some newlineIndex =>
    let line := strip (decode (p.buf.take newlineIndex))
    let p := p.consume (newlineIndex + 1)
    if line = "" then .again p
    else
      match jsonObjectsFromLine rawDecode line.toList with
      | some msg :: _ => .item (.json msg) p
      | none :: _ => .raised p
      | [] => .again p

/-- `sum(..) & 0xFF`. -/
def checksumOf (bytes : List UInt8) : Nat := (bytes.map UInt8.toNat).sum &&& 0xFF

/-- The turn at a buffer that starts with the magic. -/
def frameTurn (p : Parser) : Turn Obj :=
  if p.buf.length < 14 then .stop (p.recordPartialBlock .frame)
  else
    let version := p.buf.getD 2 0
    if version ≠ 0x01 then .again (p.dropAndResync 1)
    else
      let sensorId := p.buf.getD 3 0
      let gatewayTimestampUs := fromLittle ((p.buf.drop 4).take 8)
      let payloadLen := (p.buf.getD 12 0).toNat
      let totalLen := 13 + payloadLen + 1
      if p.buf.length < totalLen then .stop (p.recordPartialBlock .frame)
      else
        let payload := (p.buf.drop 13).take payloadLen
        let checksum := (p.buf.getD (13 + payloadLen) 0).toNat
        let computed := checksumOf ((p.buf.drop 2).take (11 + payloadLen))
        if checksum ≠ computed then
          .again ({ p with
            streamChecksumFailures := p.streamChecksumFailures + 1 }.dropAndResync 1)
        else .item (.streamFrame ⟨sensorId, gatewayTimestampUs, payload⟩) (p.consume totalLen)

/-- The turn at anything else: drop to the nearer of a brace and the magic. -/
def garbageTurn (p : Parser) : Turn Obj :=
  let nextJson := find [openBrace] p.buf
  let nextFrame := find streamFrameMagic p.buf
  let candidates := nextJson.toList ++ nextFrame.toList
  match candidates.min? with
  | none =>
    -- the last byte may be the first half of a magic
    let keepLen := if p.buf.getLast? = streamFrameMagic.head? then 1 else 0
    .stop (p.dropAndResync (p.buf.length - keepLen))
  | some dropLen =>
    if 0 < dropLen then .again (p.dropAndResync dropLen) else .again p.clearPartialBlock

/-- The body of the loop. -/
def loopBody (p : Parser) : Turn Obj :=
  if p.buf.head? = some openBrace then lineTurn decode rawDecode p
  else if 2 ≤ p.buf.length ∧ p.buf.take 2 = streamFrameMagic then frameTurn p
  else garbageTurn p

/-! ## The loop ends

A turn that goes on, or that returns an item, has shortened the buffer. -/

/-- The turn leaves fewer than `n` bytes, unless it ends the call with nothing. -/
def Turn.Shortens (n : Nat) : Turn Obj → Prop
  | .again p => p.buf.length < n
  | .item _ p => p.buf.length < n
  | .stop _ => True
  | .raised _ => True

theorem consume_length {p : Parser} (n : Nat) (hne : p.buf ≠ []) :
    (p.consume (n + 1)).buf.length < p.buf.length := by
  have hpos : 0 < p.buf.length := List.length_pos_iff.mpr hne
  rw [Parser.consume_buf, List.length_drop]
  omega

theorem dropAndResync_length {p : Parser} {n : Nat} (hne : p.buf ≠ []) (hn : 0 < n) :
    (p.dropAndResync n).buf.length < p.buf.length := by
  have hpos : 0 < p.buf.length := List.length_pos_iff.mpr hne
  rw [Parser.dropAndResync_buf, List.length_drop]
  omega

theorem lineTurn_shortens {p : Parser} (hne : p.buf ≠ []) :
    (lineTurn decode rawDecode p).Shortens p.buf.length := by
  unfold lineTurn
  split
  · trivial
  · rename_i i _
    simp only
    split
    · exact consume_length i hne
    · split
      · exact consume_length i hne
      · trivial
      · exact consume_length i hne

theorem frameTurn_shortens {p : Parser} (hne : p.buf ≠ []) :
    (frameTurn p : Turn Obj).Shortens p.buf.length := by
  unfold frameTurn
  simp only
  split
  · trivial
  · split
    · exact dropAndResync_length hne (by omega)
    · split
      · trivial
      · split
        · exact dropAndResync_length (p := { p with
            streamChecksumFailures := p.streamChecksumFailures + 1 }) hne (by omega)
        · exact consume_length _ hne

/-- Neither format starts a buffer that the garbage turn sees, so what is found is further on. -/
theorem candidate_pos {p : Parser} {n : Nat} (hbrace : p.buf.head? ≠ some openBrace)
    (hmagic : ¬ (2 ≤ p.buf.length ∧ p.buf.take 2 = streamFrameMagic))
    (hn : n ∈ (find [openBrace] p.buf).toList ++ (find streamFrameMagic p.buf).toList) :
    0 < n := by
  by_contra hzero
  obtain rfl : n = 0 := by omega
  rw [List.mem_append, Option.mem_toList, Option.mem_toList] at hn
  rcases hn with hn | hn
  · have hat := (find_eq_some_iff.mp hn).2.1
    rw [singleton_prefix_drop, ← List.head?_eq_getElem?] at hat
    exact hbrace hat
  · have hat := (find_eq_some_iff.mp hn).2.1
    rw [List.drop_zero, List.prefix_iff_eq_take] at hat
    refine hmagic ⟨?_, hat.symm⟩
    have hlen := congrArg List.length hat
    rw [List.length_take] at hlen
    simp only [streamFrameMagic, List.length_cons, List.length_nil] at hlen
    omega

theorem garbageTurn_shortens {p : Parser} (hne : p.buf ≠ [])
    (hbrace : p.buf.head? ≠ some openBrace)
    (hmagic : ¬ (2 ≤ p.buf.length ∧ p.buf.take 2 = streamFrameMagic)) :
    (garbageTurn p : Turn Obj).Shortens p.buf.length := by
  unfold garbageTurn
  simp only
  split
  · trivial
  · rename_i n hmin
    have hn : 0 < n := candidate_pos hbrace hmagic (List.min?_mem hmin)
    rw [if_pos hn]
    exact dropAndResync_length hne hn

theorem loopBody_shortens {p : Parser} (hne : p.buf ≠ []) :
    (loopBody decode rawDecode p).Shortens p.buf.length := by
  unfold loopBody
  split
  · exact lineTurn_shortens decode rawDecode hne
  · rename_i hbrace
    split
    · exact frameTurn_shortens hne
    · rename_i hmagic
      exact garbageTurn_shortens hne hbrace hmagic

/-- What `_extract_item` leaves, with what it returns. -/
inductive Extraction (Obj : Type) where
  | nothing (p : Parser)
  | item (i : Item Obj) (p : Parser)
  | raised (p : Parser)

def extractItem (p : Parser) : Extraction Obj :=
  if _hne : p.buf = [] then .nothing p
  else
    match _h : loopBody decode rawDecode p with
    | .again p' => extractItem p'
    | .stop p' => .nothing p'
    | .item i p' => .item i p'
    | .raised p' => .raised p'
termination_by p.buf.length
decreasing_by
  have hshort := loopBody_shortens decode rawDecode _hne
  rw [_h] at hshort
  exact hshort

/-- The loop, one turn at a time. -/
theorem extractItem_eq {p : Parser} (hne : p.buf ≠ []) :
    extractItem decode rawDecode p =
      match loopBody decode rawDecode p with
      | .again p' => extractItem decode rawDecode p'
      | .stop p' => .nothing p'
      | .item i p' => .item i p'
      | .raised p' => .raised p' := by
  rw [extractItem, dif_neg hne]
  split <;> rename_i heq <;> rw [heq]

theorem extractItem_nil {p : Parser} (hnil : p.buf = []) :
    extractItem decode rawDecode p = .nothing p := by
  rw [extractItem, dif_pos hnil]

/-- An item has been taken off the buffer. Induction along the turns. -/
theorem extractItem_item_length {p p' : Parser} {i : Item Obj}
    (h : extractItem decode rawDecode p = .item i p') : p'.buf.length < p.buf.length := by
  induction hn : p.buf.length using Nat.strongRecOn generalizing p with
  | ind n ih =>
    subst hn
    by_cases hnil : p.buf = []
    · rw [extractItem_nil decode rawDecode hnil] at h
      cases h
    · have hshort := loopBody_shortens decode rawDecode hnil
      rw [extractItem_eq decode rawDecode hnil] at h
      cases hbody : loopBody decode rawDecode p with
      | again next =>
          rw [hbody] at h hshort
          have hlt : next.buf.length < p.buf.length := hshort
          have hrec := ih _ hlt h rfl
          omega
      | stop next =>
          rw [hbody] at h
          cases h
      | item j next =>
          rw [hbody] at h hshort
          cases h
          exact hshort
      | raised next =>
          rw [hbody] at h
          cases h

/-! ## The drain of `_read_loop` -/

/-- Extract until nothing more comes: the items, the parser left, and whether an exception
ended it. -/
def drain (p : Parser) : List (Item Obj) × Parser × Bool :=
  match _h : extractItem decode rawDecode p with
  | .nothing p' => ([], p', false)
  | .item i p' =>
    let rest := drain p'
    (i :: rest.1, rest.2)
  | .raised p' => ([], p', true)
termination_by p.buf.length
decreasing_by exact extractItem_item_length decode rawDecode _h

/-- The reader thread: its parser, the items it has handed on, and whether it still runs. -/
structure Reader (Obj : Type) where
  parser : Parser := {}
  items : List (Item Obj) := []
  running : Bool := true

namespace Reader

/-- One turn of `_read_loop` with the bytes `chunk` read. An exception runs
`_handle_transport_failure`, which retires the thread and clears the buffer. -/
def read (r : Reader Obj) (chunk : List UInt8) : Reader Obj :=
  if r.running then
    let p := { r.parser with buf := r.parser.buf ++ chunk }
    let drained := drain decode rawDecode p
    if drained.2.2 then
      { parser := { drained.2.1 with buf := [] }
        items := r.items ++ drained.1
        running := false }
    else { r with parser := drained.2.1, items := r.items ++ drained.1 }
  else r

def readAll (r : Reader Obj) (chunks : List (List UInt8)) : Reader Obj :=
  chunks.foldl (read decode rawDecode) r

end Reader

end Extract

end NexusN3.Gateway
