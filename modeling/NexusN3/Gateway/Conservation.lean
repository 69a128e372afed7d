import NexusN3.Gateway.Chunking

/-!
# Where the bytes go

`_extract_item` ends on every buffer, and no byte gets lost without an account. What the
reader thread has taken in falls, from the front on, into the lines and frames from which
items were returned, the lines without an object, and the single bytes that
`stream_resync_drop_bytes` counts; behind them is what is still buffered.

* **`extractWithin_eq`** — the loop is through after one test of its condition for each byte
  of the buffer, and one more.
* **`Accounted`** — the account of a reader; **`accounted_readAll`** draws it up for every
  run.

The same object may stand on the wire with more or fewer blanks around it, so an item counts
with the whole line it came from. An exception of the JSON decoder that the parser does not
catch ends the run; the account then ends before the line at which it came up.
-/

namespace NexusN3.Gateway

open Lib

/-! ## The loop ends -/

section Loop

variable {Obj : Type} (decode : List UInt8 → String) (rawDecode : String → Decoded Obj)

/-- `_extract_item`, cut off when `while self.buf` has been tested `fuel` times. -/
def extractWithin : Nat → Parser → Option (Extraction Obj)
  | 0, _ => none
  | fuel + 1, p =>
    if p.buf = [] then some (.nothing p)
    else
      match loopBody decode rawDecode p with
      | .again p' => extractWithin fuel p'
      | .stop p' => some (.nothing p')
      | .item i p' => some (.item i p')
      | .raised p' => some (.raised p')

/-- The loop is through before the fuel is. Induction on the fuel: each turn that goes on
has taken a byte off. -/
theorem extractWithin_eq {fuel : Nat} {p : Parser} (hfuel : p.buf.length < fuel) :
    extractWithin decode rawDecode fuel p = some (extractItem decode rawDecode p) := by
  induction fuel generalizing p with
  | zero => omega
  | succ fuel ih =>
      rw [extractWithin]
      by_cases hnil : p.buf = []
      · rw [if_pos hnil, extractItem_nil decode rawDecode hnil]
      · have hshort := loopBody_shortens decode rawDecode hnil
        rw [if_neg hnil, extractItem_eq decode rawDecode hnil]
        cases hbody : loopBody decode rawDecode p with
        | again next =>
            rw [hbody] at hshort
            have hlt : next.buf.length < p.buf.length := hshort
            exact ih (by omega)
        | stop next => rfl
        | item i next => rfl
        | raised next => rfl

/-- `min(candidates)`. -/
def nearestCandidate (p : Parser) : Option Nat :=
  ((find [openBrace] p.buf).toList ++ (find streamFrameMagic p.buf).toList).min?

/-- Termination: the loop returns; a turn that does not has shortened the buffer; and the
turn that would drop nothing does not come up. -/
structure Terminates : Prop where
  returns : ∀ p : Parser, extractWithin decode rawDecode (p.buf.length + 1) p
    = some (extractItem decode rawDecode p)
  shortens : ∀ p p' : Parser, p.buf ≠ [] → loopBody decode rawDecode p = .again p' →
    p'.buf.length < p.buf.length
  drops : ∀ p : Parser, p.buf.head? ≠ some openBrace →
    ¬ (2 ≤ p.buf.length ∧ p.buf.take 2 = streamFrameMagic) → nearestCandidate p ≠ some 0

theorem terminates : Terminates decode rawDecode where
  returns _ := extractWithin_eq decode rawDecode (Nat.lt_succ_self _)
  shortens p p' hne hbody := by
    have hshort := loopBody_shortens decode rawDecode hne
    rw [hbody] at hshort
    exact hshort
  drops p hbrace hmagic hzero := by
    have hpos := candidate_pos hbrace hmagic (List.min?_mem hzero)
    omega

end Loop

/-! ## Parts -/

/-- What stands on the wire for a frame. -/
def FrameLayout (frame : StreamFrame) (bytes : List UInt8) : Prop :=
  ∃ (stamp : List UInt8) (lengthByte checksum : UInt8),
    bytes = 0xA5 :: 0x5A :: 0x01 :: frame.sensorId ::
        (stamp ++ lengthByte :: (frame.payload ++ [checksum]))
      ∧ stamp.length = 8 ∧ fromLittle stamp = frame.gatewayTimestampUs
      ∧ lengthByte.toNat = frame.payload.length
      ∧ checksum.toNat
        = checksumOf (0x01 :: frame.sensorId :: (stamp ++ lengthByte :: frame.payload))

/-- `bytes` is `line`, which starts with an open brace, up to its newline. -/
structure BraceLine (line bytes : List UInt8) : Prop where
  ends : bytes = line ++ [newlineByte]
  starts : line.head? = some openBrace
  whole : newlineByte ∉ line

/-- A part of what came in, with what became of it. -/
inductive Part (Obj : Type) where
  | item (i : Item Obj) (bytes : List UInt8)
  /-- A line without an object. -/
  | blank (bytes : List UInt8)
  | dropped (byte : UInt8)

namespace Part

variable {Obj : Type}

def bytes : Part Obj → List UInt8
  | .item _ bytes => bytes
  | .blank bytes => bytes
  | .dropped byte => [byte]

def item? : Part Obj → Option (Item Obj)
  | .item i _ => some i
  | _ => none

/-- The bytes of an item, as it came. -/
def itemBytes : Part Obj → Nat
  | .item _ bytes => bytes.length
  | _ => 0

def blankBytes : Part Obj → Nat
  | .blank bytes => bytes.length
  | _ => 0

def dropBytes : Part Obj → Nat
  | .dropped _ => 1
  | _ => 0

theorem length_bytes (part : Part Obj) :
    part.bytes.length = part.itemBytes + part.dropBytes + part.blankBytes := by
  cases part with
  | item i bytes => rfl
  | blank bytes => show bytes.length = 0 + 0 + bytes.length; omega
  | dropped byte => rfl

/-- The lengths of the parts, sorted by what became of them. -/
theorem length_flatMap_bytes (parts : List (Part Obj)) :
    (parts.flatMap bytes).length
      = (parts.map itemBytes).sum + (parts.map dropBytes).sum + (parts.map blankBytes).sum := by
  induction parts with
  | nil => rfl
  | cons part parts ih =>
      rw [List.flatMap_cons, List.length_append, ih, part.length_bytes]
      simp only [List.map_cons, List.sum_cons]
      omega

end Part

section Account

variable {Obj : Type} (decode : List UInt8 → String) (rawDecode : String → Decoded Obj)

/-- The objects of a line, as `_extract_item` looks for them. -/
def lineObjects (line : List UInt8) : List (Option Obj) :=
  jsonObjectsFromLine rawDecode (strip (decode line)).toList

/-- The part is what it is said to be. -/
def Part.Sound : Part Obj → Prop
  | .item (.streamFrame frame) bytes => FrameLayout frame bytes
  | .item (.json msg) bytes => ∃ line, BraceLine line bytes
      ∧ (lineObjects decode rawDecode line).head? = some (some msg)
  | .blank bytes => ∃ line, BraceLine line bytes ∧ lineObjects decode rawDecode line = []
  | .dropped _ => True

/-- At the front stands a line on which the JSON decoder raises. -/
def RaisesAt (rest : List UInt8) : Prop :=
  ∃ line bytes more, rest = bytes ++ more ∧ BraceLine line bytes
    ∧ (lineObjects decode rawDecode line).head? = some none

/-- The chunks that the thread reads while it runs. -/
def Reader.received (r : Reader Obj) : List (List UInt8) → List UInt8
  | [] => []
  | chunk :: chunks =>
    if r.running then chunk ++ received (r.read decode rawDecode chunk) chunks else []

/-- **The account** of a reader opened with the counters of `base` that has read `received`. -/
def Accounted (base : Parser) (received : List UInt8) (r : Reader Obj) : Prop :=
  ∃ (parts : List (Part Obj)) (rest : List UInt8),
    (∀ part ∈ parts, part.Sound decode rawDecode)
      ∧ received = parts.flatMap Part.bytes ++ rest
      ∧ parts.filterMap Part.item? = r.items
      ∧ received.length + base.streamResyncDropBytes
        = (parts.map Part.itemBytes).sum + r.parser.streamResyncDropBytes
          + (parts.map Part.blankBytes).sum + rest.length
      ∧ if r.running then rest = r.parser.buf else RaisesAt decode rawDecode rest

end Account

/-! ## What a verdict takes -/

/-- A line up to the first newline is whole. -/
theorem braceLine_take {buf : List UInt8} {i : Nat} (hbrace : buf.head? = some openBrace)
    (hi : find [newlineByte] buf = some i) : BraceLine (buf.take i) (buf.take (i + 1)) := by
  obtain ⟨-, hat, hfirst⟩ := find_eq_some_iff.mp hi
  rw [singleton_prefix_drop] at hat
  -- the brace at the front is no newline
  have hpos : i ≠ 0 := by
    rintro rfl
    rw [List.head?_eq_getElem?, hat] at hbrace
    cases hbrace
  constructor
  · rw [List.take_add_one, hat]
    rfl
  · rw [List.head?_take, if_neg hpos]
    exact hbrace
  · intro hmem
    obtain ⟨j, hj, hget⟩ := List.mem_take_iff_getElem.mp hmem
    apply hfirst j (by omega)
    rw [singleton_prefix_drop, ← hget]
    exact List.getElem?_eq_getElem _

section Account

variable {Obj : Type} {decode : List UInt8 → String} {rawDecode : String → Decoded Obj}

/-- At the magic, a byte is dropped or a frame is taken. -/
theorem frameVerdict_cases {buf : List UInt8} {n : Nat} {t : Token Obj}
    (h : frameVerdict buf = some (n, t)) :
    (∃ frame, t = .item (.streamFrame frame))
      ∨ (n = 1 ∧ (t = .dropped ∨ t = .checksumFailure)) := by
  unfold frameVerdict at h
  simp only at h
  split at h
  · cases h
  · split at h
    · cases h
      exact Or.inr ⟨rfl, Or.inl rfl⟩
    · split at h
      · cases h
      · split at h
        · cases h
          exact Or.inr ⟨rfl, Or.inr rfl⟩
        · cases h
          exact Or.inl ⟨_, rfl⟩

/-- A frame that is accepted stands there byte for byte. -/
theorem frameLayout_take {buf : List UInt8} {n : Nat} {frame : StreamFrame}
    (hmagic : buf.take 2 = streamFrameMagic)
    (h : (frameVerdict buf : Option (Nat × Token Obj)) = some (n, .item (.streamFrame frame))) :
    FrameLayout frame (buf.take n) := by
  unfold frameVerdict at h
  by_cases hshort : buf.length < 14
  · rw [if_pos hshort] at h
    cases h
  · rw [if_neg hshort] at h
    -- the header is as long as it is whatever it holds
    obtain ⟨head, tail, rfl, hhead⟩ : ∃ head tail, buf = head ++ tail ∧ head.length = 13 :=
      ⟨buf.take 13, buf.drop 13, (List.take_append_drop 13 buf).symm, by
        rw [List.length_take]
        omega⟩
    match head, hhead with
    | [b0, b1, b2, b3, b4, b5, b6, b7, b8, b9, b10, b11, b12], _ =>
      simp only [List.cons_append, List.nil_append, List.getD_cons_succ, List.getD_cons_zero,
        List.length_cons] at h
      split at h
      · cases h
      · rename_i hversion
        split at h
        · cases h
        · rename_i hlen
          split at h
          · cases h
          · rename_i hsum
            cases h
            obtain ⟨rfl, rfl⟩ : b0 = 0xA5 ∧ b1 = 0x5A := by simpa [streamFrameMagic] using hmagic
            obtain rfl : b2 = 0x01 := by simpa using hversion
            -- behind the header stand the payload and the checksum
            have htail : b12.toNat < tail.length := by omega
            have hpayload : (tail.take b12.toNat).length = b12.toNat := by
              rw [List.length_take]
              omega
            have hlast : tail.take (b12.toNat + 1) = tail.take b12.toNat ++ [tail[b12.toNat]] :=
              (List.take_concat_get' tail b12.toNat htail).symm
            refine ⟨[b4, b5, b6, b7, b8, b9, b10, b11], b12, tail[b12.toNat], ?_, rfl, rfl,
              hpayload.symm, ?_⟩
            · rw [Nat.add_comm]
              show _ = 0xA5 :: 0x5A :: 0x01 :: b3 :: b4 :: b5 :: b6 :: b7 :: b8 :: b9 :: b10 ::
                b11 :: b12 :: (tail.take b12.toNat ++ [tail[b12.toNat]])
              rw [← hlast]
              rfl
            · rw [not_not, Nat.add_comm 13, Nat.add_comm 11] at hsum
              simp only [List.getD_cons_succ, List.getD_eq_getElem _ _ htail] at hsum
              exact hsum

/-- A line, in tokens. -/
theorem lineToken_cases (line : List UInt8) :
    (lineToken decode rawDecode line = .blank ∧ lineObjects decode rawDecode line = [])
      ∨ (∃ msg, lineToken decode rawDecode line = .item (.json msg)
          ∧ (lineObjects decode rawDecode line).head? = some (some msg))
      ∨ (lineToken decode rawDecode line = .raised
          ∧ (lineObjects decode rawDecode line).head? = some none) := by
  unfold lineToken lineObjects
  by_cases hempty : strip (decode line) = ""
  · rw [if_pos hempty, hempty]
    exact Or.inl ⟨rfl, rfl⟩
  · simp only [if_neg hempty]
    cases jsonObjectsFromLine rawDecode (strip (decode line)).toList with
    | nil => exact Or.inl ⟨rfl, rfl⟩
    | cons first later =>
        cases first with
        | none => exact Or.inr (Or.inr ⟨rfl, rfl⟩)
        | some msg => exact Or.inr (Or.inl ⟨msg, rfl, rfl⟩)

/-- What a verdict says of the bytes that it takes. -/
theorem verdict_cases {buf : List UInt8} {n : Nat} {t : Token Obj}
    (h : wireVerdict decode rawDecode buf = some (n, t)) :
    (∃ line, BraceLine line (buf.take n) ∧ t = lineToken decode rawDecode line)
      ∨ (∃ frame, t = .item (.streamFrame frame) ∧ FrameLayout frame (buf.take n))
      ∨ (n = 1 ∧ (t = .dropped ∨ t = .checksumFailure)) := by
  unfold wireVerdict at h
  split at h
  · rename_i hbrace
    obtain ⟨i, hi, heq⟩ := Option.map_eq_some_iff.mp h
    cases heq
    exact Or.inl ⟨buf.take i, braceLine_take hbrace hi, rfl⟩
  · right
    split at h
    · rename_i hmagic
      rcases frameVerdict_cases h with ⟨frame, rfl⟩ | hdrop
      · exact Or.inl ⟨frame, rfl, frameLayout_take hmagic.2 h⟩
      · exact Or.inr hdrop
    · unfold garbageVerdict at h
      split at h
      · cases h
      · cases h
        exact Or.inr ⟨rfl, Or.inl rfl⟩

/-- A token, as a part: all tokens but an exception. -/
theorem exists_part {buf : List UInt8} {n : Nat} {t : Token Obj}
    (h : wireVerdict decode rawDecode buf = some (n, t)) (ht : t.isRaised = false) :
    ∃ part : Part Obj, part.Sound decode rawDecode ∧ part.bytes = buf.take n
      ∧ part.item? = t.item? ∧ part.dropBytes = t.dropBytes := by
  rcases verdict_cases h with ⟨line, hline, rfl⟩ | ⟨frame, rfl, hframe⟩ | ⟨rfl, hdrop⟩
  · rcases @lineToken_cases Obj decode rawDecode line with
      ⟨htoken, hnone⟩ | ⟨msg, htoken, hmsg⟩ | ⟨htoken, -⟩
    · rw [htoken]
      exact ⟨.blank (buf.take n), ⟨line, hline, hnone⟩, rfl, rfl, rfl⟩
    · rw [htoken]
      exact ⟨.item (.json msg) (buf.take n), ⟨line, hline, hmsg⟩, rfl, rfl, rfl⟩
    · rw [htoken] at ht
      cases ht
  · exact ⟨.item (.streamFrame frame) (buf.take n), hframe, rfl, rfl, rfl⟩
  · have hpos := (wireVerdict_productive decode rawDecode h).2
    obtain ⟨byte, rest, rfl⟩ : ∃ byte rest, buf = byte :: rest :=
      List.exists_cons_of_length_pos hpos
    refine ⟨.dropped byte, trivial, rfl, ?_⟩
    rcases hdrop with rfl | rfl
    · exact ⟨rfl, rfl⟩
    · exact ⟨rfl, rfl⟩

theorem raisesAt_of_verdict {buf : List UInt8} {n : Nat}
    (h : wireVerdict decode rawDecode buf = some (n, .raised)) :
    RaisesAt decode rawDecode buf := by
  rcases verdict_cases h with ⟨line, hline, htoken⟩ | ⟨frame, htoken, -⟩ | ⟨-, htoken | htoken⟩
  · refine ⟨line, buf.take n, buf.drop n, (List.take_append_drop n buf).symm, hline, ?_⟩
    rcases @lineToken_cases Obj decode rawDecode line with
      ⟨hother, -⟩ | ⟨msg, hother, -⟩ | ⟨-, hraise⟩
    · rw [hother] at htoken
      cases htoken
    · rw [hother] at htoken
      cases htoken
    · exact hraise
  · cases htoken
  · cases htoken
  · cases htoken

/-- What is read of `buf`, in parts: everything up to the first exception. -/
structure Divided (decode : List UInt8 → String) (rawDecode : String → Decoded Obj)
    (buf : List UInt8) (parts : List (Part Obj)) (rest : List UInt8) : Prop where
  sound : ∀ part ∈ parts, part.Sound decode rawDecode
  bytes : buf = parts.flatMap Part.bytes ++ rest
  items : parts.filterMap Part.item?
    = (calm ((wire decode rawDecode).scan buf).1).filterMap Token.item?
  dropBytes : (parts.map Part.dropBytes).sum
    = ((calm ((wire decode rawDecode).scan buf).1).map Token.dropBytes).sum
  rest : if ∀ t ∈ ((wire decode rawDecode).scan buf).1, t.isRaised = false
    then rest = ((wire decode rawDecode).scan buf).2 else RaisesAt decode rawDecode rest

/-- Induction along the scan: a token is a part, and an exception the end of them. -/
theorem exists_divided (buf : List UInt8) :
    ∃ parts rest, Divided decode rawDecode buf parts rest := by
  induction buf using Scanner.scan.induct (wire decode rawDecode) with
  | case1 buf h =>
      have hscan := (wire decode rawDecode).scan_wait h
      refine ⟨[], buf, List.forall_mem_nil _, rfl, ?_, ?_, ?_⟩
      · rw [hscan]
        rfl
      · rw [hscan]
        rfl
      · rw [hscan, if_pos (List.forall_mem_nil _)]
  | case2 buf n t h ih =>
      have hscan := (wire decode rawDecode).scan_token h
      cases ht : t.isRaised with
      | true =>
          obtain rfl : t = .raised := by
            cases t <;> first | rfl | cases ht
          refine ⟨[], buf, List.forall_mem_nil _, rfl, ?_, ?_, ?_⟩
          · rw [hscan]
            rfl
          · rw [hscan]
            rfl
          · rw [hscan, if_neg fun hall => by cases hall _ List.mem_cons_self]
            exact raisesAt_of_verdict h
      | false =>
          obtain ⟨part, hsound, hbytes, hitem, hdrop⟩ := exists_part h ht
          obtain ⟨parts, rest, hdiv⟩ := ih
          have hcalm (ts : List (Token Obj)) : calm (t :: ts) = t :: calm ts := by
            rw [calm, List.takeWhile_cons_of_pos (by rw [ht]; rfl)]
            rfl
          refine ⟨part :: parts, rest, ?_, ?_, ?_, ?_, ?_⟩
          · intro q hq
            rcases List.mem_cons.mp hq with rfl | hq
            · exact hsound
            · exact hdiv.sound q hq
          · rw [List.flatMap_cons, List.append_assoc, ← hdiv.bytes, hbytes, List.take_append_drop]
          · rw [hscan, hcalm]
            simp only [List.filterMap_cons, hitem, hdiv.items]
          · rw [hscan, hcalm]
            simp only [List.map_cons, List.sum_cons, hdrop, hdiv.dropBytes]
          · rw [hscan]
            have hrest := hdiv.rest
            simp only [List.mem_cons, forall_eq_or_imp, ht, true_and]
            exact hrest

/-! ## A run -/

/-- A reader whose loop has ended stays as it is. -/
theorem Reader.readAll_ended {r : Reader Obj} (h : r.running = false)
    (chunks : List (List UInt8)) : r.readAll decode rawDecode chunks = r := by
  induction chunks with
  | nil => rfl
  | cons chunk chunks ih =>
      show (r.read decode rawDecode chunk).readAll decode rawDecode chunks = r
      rw [Reader.read, if_neg (by rw [h]; decide)]
      exact ih

/-- The chunks that are read are the first ones, and the later ones change nothing. -/
theorem Reader.received_eq (r : Reader Obj) (chunks : List (List UInt8)) :
    ∃ k, r.received decode rawDecode chunks = (chunks.take k).flatten
      ∧ r.readAll decode rawDecode chunks = r.readAll decode rawDecode (chunks.take k) := by
  induction chunks generalizing r with
  | nil => exact ⟨0, rfl, rfl⟩
  | cons chunk chunks ih =>
      rw [Reader.received]
      split
      · obtain ⟨k, hreceived, hread⟩ := ih (r.read decode rawDecode chunk)
        refine ⟨k + 1, ?_, hread⟩
        rw [hreceived, List.take_succ_cons, List.flatten_cons]
      · rename_i hrun
        exact ⟨0, rfl, Reader.readAll_ended (by simpa using hrun) _⟩

/-- **No byte is lost without an account**, in any run. -/
theorem accounted_readAll (base : Parser) (chunks : List (List UInt8)) :
    Accounted decode rawDecode base ((Reader.opened base).received decode rawDecode chunks)
      ((Reader.opened base).readAll decode rawDecode chunks) := by
  obtain ⟨k, hreceived, hread⟩ := @Reader.received_eq Obj decode rawDecode
    (Reader.opened base) chunks
  rw [hreceived, hread]
  have hreports : Reports decode rawDecode base _ _
      ((Reader.opened base).readAll decode rawDecode (chunks.take k)) := reports_readAll base _
  obtain ⟨parts, rest, hdiv⟩ :=
    @exists_divided Obj decode rawDecode (chunks.take k).flatten
  refine ⟨parts, rest, hdiv.sound, hdiv.bytes, ?_, ?_, ?_⟩
  · rw [hdiv.items, hreports.items]
  · have hlength := congrArg List.length hdiv.bytes
    rw [List.length_append, Part.length_flatMap_bytes, hdiv.dropBytes] at hlength
    have hdrop := hreports.dropBytes
    omega
  · have hrest := hdiv.rest
    rw [hreports.running]
    by_cases hcalm : ∀ t ∈ ((wire decode rawDecode).scan (chunks.take k).flatten).1,
        t.isRaised = false
    · rw [if_pos hcalm] at hrest
      rw [decide_eq_true hcalm, if_pos rfl, hrest, hreports.buf, hreports.running,
        decide_eq_true hcalm]
      rfl
    · rw [if_neg hcalm] at hrest
      rw [decide_eq_false hcalm, if_neg (by decide)]
      exact hrest

end Account

/-- **Termination and conservation.** -/
theorem extractItem_conserves {Obj : Type} (decode : List UInt8 → String)
    (rawDecode : String → Decoded Obj) :
    Terminates decode rawDecode ∧ ∀ (base : Parser) (chunks : List (List UInt8)),
      Accounted decode rawDecode base ((Reader.opened base).received decode rawDecode chunks)
        ((Reader.opened base).readAll decode rawDecode chunks) :=
  ⟨terminates decode rawDecode, accounted_readAll⟩

/-! ## An item has no length of its own -/

/-- The account with a length for each item, in place of that of the line it came from. -/
def ConservedWith {Obj : Type} (decode : List UInt8 → String) (rawDecode : String → Decoded Obj)
    (encodedLength : Item Obj → Nat) : Prop :=
  ∀ (base : Parser) (chunks : List (List UInt8)),
    ∃ blanks : List (List UInt8),
      (∀ bytes ∈ blanks, ∃ line, BraceLine line bytes ∧ lineObjects decode rawDecode line = [])
        ∧ ((Reader.opened base).received decode rawDecode chunks).length
            + base.streamResyncDropBytes
          = ((((Reader.opened base).readAll decode rawDecode chunks).items.map encodedLength).sum
            + ((Reader.opened base).readAll decode rawDecode chunks).parser.streamResyncDropBytes
            + (blanks.map List.length).sum
            + ((Reader.opened base).readAll decode rawDecode chunks).parser.buf.length)

/-- Decoders for the lines below. -/
def decodeSpaced (bytes : List UInt8) : String :=
  if bytes = [0x7B, 0x7D, 0x20] then "{} " else "{}"

def rawDecodeEmpty (s : String) : Decoded Unit :=
  if s = "{}" then .value () else .decodeError

theorem lineObjects_spaced (line : List UInt8) :
    lineObjects decodeSpaced rawDecodeEmpty line ≠ [] := by
  unfold lineObjects decodeSpaced
  split
  · decide
  · decide

/-- The empty object, with and without a blank behind it, is one item of two lengths. -/
theorem not_conservedWith : ¬ ∃ encodedLength, ConservedWith decodeSpaced rawDecodeEmpty
    encodedLength := by
  rintro ⟨encodedLength, hall⟩
  have hline (bytes : List UInt8) (hverdict : wireVerdict decodeSpaced rawDecodeEmpty bytes
      = some (bytes.length, .item (.json ()))) : bytes.length = encodedLength (.json ()) := by
    obtain ⟨blanks, hblanks, hlength⟩ := hall {} [bytes]
    obtain rfl : blanks = [] := by
      refine List.eq_nil_iff_forall_not_mem.mpr fun b hb => ?_
      obtain ⟨line, -, hnone⟩ := hblanks b hb
      exact lineObjects_spaced line hnone
    have hreports : Reports decodeSpaced rawDecodeEmpty {} _ _
        ((Reader.opened {}).readAll decodeSpaced rawDecodeEmpty [bytes]) := reports_readAll {} _
    have hend : (wire decodeSpaced rawDecodeEmpty).scan [] = ([], []) :=
      (wire decodeSpaced rawDecodeEmpty).scan_wait (by decide)
    have hscan : (wire decodeSpaced rawDecodeEmpty).scan bytes = ([.item (.json ())], []) := by
      rw [(wire decodeSpaced rawDecodeEmpty).scan_token hverdict, List.drop_length, hend]
    rw [List.flatten_singleton, hscan] at hreports
    have hitems := hreports.items
    have hdrop := hreports.dropBytes
    have hbuf := hreports.buf
    rw [ite_self] at hbuf
    rw [hitems, hdrop, hbuf] at hlength
    have hreceived : (Reader.opened {}).received decodeSpaced rawDecodeEmpty [bytes] = bytes :=
      List.append_nil bytes
    rw [hreceived] at hlength
    simpa [calm, Token.isRaised, Token.item?, Token.dropBytes] using hlength
  have hshort := hline [0x7B, 0x7D, 0x0A] (by decide)
  have hlong := hline [0x7B, 0x7D, 0x20, 0x0A] (by decide)
  rw [← hlong] at hshort
  exact absurd hshort (by decide)

end NexusN3.Gateway
