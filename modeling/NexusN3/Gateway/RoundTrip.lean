import NexusN3.Gateway.Chunking
import Mathlib.Algebra.BigOperators.Group.List.Basic

/-!
# The wire format read back

What the gateway sends: stream frames and JSON lines, one behind another. Every encoding is
one token of the scanner whatever stands behind it (`wireVerdict_encode`), so a stream of
encodings is read back item by item, and by chunking independence it does not matter how the
serial line cuts it (`readAll_encode`).

The JSON encoder is a parameter like the two decoders, and `JsonLaws` is what is assumed of
the three: text that is encoded as UTF-8 decodes to itself, decoding inverts encoding, and
the text of an object begins and ends with its braces.
-/

namespace NexusN3.Gateway

open Lib

/-! ## Encoders -/

/-- `value.to_bytes(n, "little")`. -/
def littleEndian : Nat → Nat → List UInt8
  | 0, _ => []
  | n + 1, value => UInt8.ofNat (value % 256) :: littleEndian n (value / 256)

/-- `str.encode("utf-8")`. -/
def utf8 (s : String) : List UInt8 := s.toList.flatMap String.utf8EncodeChar

/-- A frame behind its magic: version, sensor, timestamp, length, payload. -/
def frameBody (sensorId : UInt8) (timestampUs : UInt64) (payload : List UInt8) : List UInt8 :=
  [0x01, sensorId] ++ littleEndian 8 timestampUs.toNat ++ [UInt8.ofNat payload.length] ++ payload

def encodeFrame (sensorId : UInt8) (timestampUs : UInt64) (payload : List UInt8) : List UInt8 :=
  let body := frameBody sensorId timestampUs payload
  streamFrameMagic ++ body ++ [UInt8.ofNat (checksumOf body)]

/-- What the gateway can put on the wire: a payload has a length byte, and the text of an
object no raw newline. -/
inductive WireItem {Obj : Type} (dumps : Obj → String) where
  | frame (sensorId : UInt8) (timestampUs : UInt64)
      (payload : { bytes : List UInt8 // bytes.length ≤ 255 })
  | json (msg : { obj : Obj // '\n' ∉ (dumps obj).toList })

namespace WireItem

variable {Obj : Type} {dumps : Obj → String}

def encode : WireItem dumps → List UInt8
  | frame sensorId timestampUs payload => encodeFrame sensorId timestampUs payload
  | json msg => utf8 (dumps msg) ++ [newlineByte]

/-- The item the client is to return for it. -/
def item : WireItem dumps → Item Obj
  | frame sensorId timestampUs payload =>
      .streamFrame ⟨sensorId, timestampUs.toNat, payload⟩
  | json msg => .json msg

end WireItem

/-- What is assumed of the JSON codec and of the byte decoder. -/
structure JsonLaws {Obj : Type} (decode : List UInt8 → String)
    (rawDecode : String → Decoded Obj) (dumps : Obj → String) : Prop where
  decode_utf8 : ∀ s, decode (utf8 s) = s
  rawDecode_dumps : ∀ obj, rawDecode (dumps obj) = .value obj
  dumps_head : ∀ obj, (dumps obj).toList.head? = some '{'
  dumps_last : ∀ obj, (dumps obj).toList.getLast? = some '}'

/-! ## Frames -/

theorem littleEndian_length (n value : Nat) : (littleEndian n value).length = n := by
  induction n generalizing value with
  | zero => rfl
  | succ n ih => rw [littleEndian, List.length_cons, ih]

/-- `from_bytes` undoes `to_bytes` on what fits. -/
theorem fromLittle_littleEndian {n value : Nat} (h : value < 256 ^ n) :
    fromLittle (littleEndian n value) = value := by
  induction n generalizing value with
  | zero =>
      have : value = 0 := by simpa using h
      rw [this]
      rfl
  | succ n ih =>
      have hsmall : value / 256 < 256 ^ n := by
        apply (Nat.div_lt_iff_lt_mul (by omega)).mpr
        rw [← Nat.pow_succ]
        exact h
      have hbyte : (UInt8.ofNat (value % 256)).toNat = value % 256 :=
        UInt8.toNat_ofNat_of_lt' (Nat.mod_lt value (by omega))
      rw [littleEndian, fromLittle, ih hsmall, hbyte]
      omega

theorem checksumOf_lt (bytes : List UInt8) : checksumOf bytes < 256 :=
  Nat.and_lt_two_pow _ (n := 8) (by omega)

/-- A frame laid out byte for byte: the fields stand where `_extract_item` looks, and only
the checksum decides. -/
theorem frameVerdict_layout (Obj : Type) (sensorId : UInt8) {lengthByte : UInt8}
    (checksum : UInt8) {stamp payload : List UInt8} (more : List UInt8) (hstamp : stamp.length = 8)
    (hlength : lengthByte.toNat = payload.length) :
    (frameVerdict (0xA5 :: 0x5A :: 0x01 :: sensorId ::
        (stamp ++ lengthByte :: (payload ++ checksum :: more))) : Option (Nat × Token Obj))
      = if checksum.toNat ≠ checksumOf (0x01 :: sensorId :: (stamp ++ lengthByte :: payload)) then
          some (1, .checksumFailure)
        else
          some (14 + payload.length,
            .item (.streamFrame ⟨sensorId, fromLittle stamp, payload⟩)) := by
  match stamp, hstamp with
  | [b0, b1, b2, b3, b4, b5, b6, b7], _ =>
    have hpayload : (payload ++ checksum :: more).take payload.length = payload :=
      List.take_left' rfl
    have hchecksum : (payload ++ checksum :: more).getD payload.length 0 = checksum := by
      rw [List.getD_append_right _ _ _ _ (Nat.le_refl _), Nat.sub_self]
      rfl
    simp only [List.cons_append, List.nil_append]
    -- the fields are read off first; behind this the buffer stays folded
    generalize hbuf : (0xA5 :: 0x5A :: 0x01 :: sensorId :: b0 :: b1 :: b2 :: b3 :: b4 :: b5 :: b6
      :: b7 :: lengthByte :: (payload ++ checksum :: more) : List UInt8) = buf
    have hlen : 14 + payload.length ≤ buf.length := by
      rw [← hbuf]
      simp only [List.length_cons, List.length_append]
      omega
    have hversion : buf.getD 2 0 = 0x01 := by rw [← hbuf]; rfl
    have hsensor : buf.getD 3 0 = sensorId := by rw [← hbuf]; rfl
    have hlengthAt : (buf.getD 12 0).toNat = payload.length := by rw [← hbuf]; exact hlength
    have hstampAt : (buf.drop 4).take 8 = [b0, b1, b2, b3, b4, b5, b6, b7] := by rw [← hbuf]; rfl
    have hpayloadAt : (buf.drop 13).take payload.length = payload := by
      rw [← hbuf]
      exact hpayload
    have hchecksumAt : buf.getD (13 + payload.length) 0 = checksum := by
      rw [← hbuf, Nat.add_comm]
      exact hchecksum
    have hsummed : (buf.drop 2).take (11 + payload.length)
        = 0x01 :: sensorId :: b0 :: b1 :: b2 :: b3 :: b4 :: b5 :: b6 :: b7 :: lengthByte
          :: payload := by
      rw [← hbuf, Nat.add_comm]
      simp only [List.drop_succ_cons, List.drop_zero, List.take_succ_cons, hpayload]
    rw [frameVerdict, if_neg (by omega), if_neg (by rw [hversion]; simp)]
    simp only
    rw [hlengthAt, if_neg (by omega), hchecksumAt, hsummed, hsensor, hstampAt, hpayloadAt]

/-- A frame with some byte for its checksum. -/
def frameWith (sensorId : UInt8) (timestampUs : UInt64) (payload : List UInt8)
    (checksum : UInt8) : List UInt8 :=
  streamFrameMagic ++ frameBody sensorId timestampUs payload ++ [checksum]

theorem frameWith_length (sensorId : UInt8) (timestampUs : UInt64) (payload : List UInt8)
    (checksum : UInt8) :
    (frameWith sensorId timestampUs payload checksum).length = 14 + payload.length := by
  simp only [frameWith, frameBody, streamFrameMagic, List.length_append, List.length_cons,
    List.length_nil, littleEndian_length]
  omega

/-- Whatever stands behind a frame and whatever its payload holds, only the checksum decides. -/
theorem frameVerdict_frameWith (Obj : Type) (sensorId : UInt8) (timestampUs : UInt64)
    {payload : List UInt8} (checksum : UInt8) (hpayload : payload.length ≤ 255)
    (more : List UInt8) :
    (frameVerdict (frameWith sensorId timestampUs payload checksum ++ more) :
        Option (Nat × Token Obj))
      = if checksum.toNat ≠ checksumOf (frameBody sensorId timestampUs payload) then
          some (1, .checksumFailure)
        else
          some (14 + payload.length,
            .item (.streamFrame ⟨sensorId, timestampUs.toNat, payload⟩)) := by
  have hstamp : fromLittle (littleEndian 8 timestampUs.toNat) = timestampUs.toNat :=
    fromLittle_littleEndian (by have := timestampUs.toNat_lt; omega)
  have hlength : (UInt8.ofNat payload.length).toNat = payload.length :=
    UInt8.toNat_ofNat_of_lt' (by
      show payload.length < 256
      omega)
  have hlayout := frameVerdict_layout Obj sensorId checksum more
    (littleEndian_length 8 timestampUs.toNat) hlength
  have hbytes : frameWith sensorId timestampUs payload checksum ++ more
      = 0xA5 :: 0x5A :: 0x01 :: sensorId :: (littleEndian 8 timestampUs.toNat
        ++ UInt8.ofNat payload.length :: (payload ++ checksum :: more)) := by
    simp only [frameWith, frameBody, streamFrameMagic, List.cons_append, List.nil_append,
      List.append_assoc]
  have hbody : frameBody sensorId timestampUs payload = 0x01 :: sensorId ::
      (littleEndian 8 timestampUs.toNat ++ UInt8.ofNat payload.length :: payload) := by
    simp only [frameBody, List.cons_append, List.nil_append, List.append_assoc]
  rw [hbytes, hbody, hlayout, hstamp]

theorem encodeFrame_length (sensorId : UInt8) (timestampUs : UInt64) (payload : List UInt8) :
    (encodeFrame sensorId timestampUs payload).length = 14 + payload.length :=
  frameWith_length sensorId timestampUs payload _

/-- A frame is one token, whatever stands behind it and whatever its payload holds. -/
theorem frameVerdict_encodeFrame {Obj : Type} (sensorId : UInt8) (timestampUs : UInt64)
    {payload : List UInt8} (hpayload : payload.length ≤ 255) (more : List UInt8) :
    (frameVerdict (encodeFrame sensorId timestampUs payload ++ more) : Option (Nat × Token Obj))
      = some ((encodeFrame sensorId timestampUs payload).length,
          .item (.streamFrame ⟨sensorId, timestampUs.toNat, payload⟩)) := by
  have hsum : (UInt8.ofNat (checksumOf (frameBody sensorId timestampUs payload))).toNat
      = checksumOf (frameBody sensorId timestampUs payload) :=
    UInt8.toNat_ofNat_of_lt' (checksumOf_lt _)
  have hverdict := frameVerdict_frameWith Obj sensorId timestampUs
    (UInt8.ofNat (checksumOf (frameBody sensorId timestampUs payload))) hpayload more
  rw [if_neg fun hne => hne hsum] at hverdict
  rw [encodeFrame_length]
  exact hverdict

/-! ## JSON lines -/

/-- The UTF-8 bytes of a character contain the newline byte only if it is the newline. -/
theorem eq_newline_of_mem {c : Char} (h : newlineByte ∈ String.utf8EncodeChar c) : c = '\n' := by
  -- the bytes of a character of more than one byte are all 128 or more
  have hlarge {n : Nat} (hlo : 128 ≤ n) (hhi : n < 256) : newlineByte ≠ UInt8.ofNat n := by
    intro heq
    have hnat := congrArg UInt8.toNat heq
    rw [UInt8.toNat_ofNat_of_lt' (show n < 256 from hhi)] at hnat
    have : newlineByte.toNat = 10 := rfl
    omega
  unfold String.utf8EncodeChar at h
  simp only at h
  split at h
  · rename_i hv
    have hnat := congrArg UInt8.toNat (List.mem_singleton.mp h)
    rw [UInt8.toNat_ofNat_of_lt' (show c.val.toNat < 256 by omega)] at hnat
    exact Char.ext (UInt32.toNat_inj.mp hnat.symm)
  · exfalso
    split at h
    · simp only [List.mem_cons, List.not_mem_nil, or_false] at h
      rcases h with h | h
      · exact hlarge (by omega) (by omega) h
      · exact hlarge (by omega) (by omega) h
    · split at h
      · simp only [List.mem_cons, List.not_mem_nil, or_false] at h
        rcases h with h | h | h
        · exact hlarge (by omega) (by omega) h
        · exact hlarge (by omega) (by omega) h
        · exact hlarge (by omega) (by omega) h
      · simp only [List.mem_cons, List.not_mem_nil, or_false] at h
        rcases h with h | h | h | h
        · exact hlarge (by omega) (by omega) h
        · exact hlarge (by omega) (by omega) h
        · exact hlarge (by omega) (by omega) h
        · exact hlarge (by omega) (by omega) h

theorem newline_not_mem_utf8 {s : String} (h : '\n' ∉ s.toList) : newlineByte ∉ utf8 s := by
  intro hmem
  obtain ⟨c, hc, hbyte⟩ := List.mem_flatMap.mp hmem
  rw [eq_newline_of_mem hbyte] at hc
  exact h hc

/-- The first newline is the one behind a text without any. -/
theorem find_newline {bytes : List UInt8} (more : List UInt8) (h : newlineByte ∉ bytes) :
    find [newlineByte] (bytes ++ [newlineByte] ++ more) = some bytes.length := by
  refine find_eq_some_iff.mpr ⟨?_, ?_, fun j hj hocc => h ?_⟩
  · simp only [List.length_append]
    omega
  · rw [List.append_assoc, List.drop_left]
    exact List.prefix_append _ _
  · rw [singleton_prefix_drop, List.append_assoc, List.getElem?_append_left hj] at hocc
    exact List.mem_of_getElem? hocc

section Json

variable {Obj : Type} {decode : List UInt8 → String} {rawDecode : String → Decoded Obj}
  {dumps : Obj → String}

/-- The line of an object yields the object. -/
theorem lineToken_dumps (laws : JsonLaws decode rawDecode dumps) (obj : Obj) :
    lineToken decode rawDecode (utf8 (dumps obj)) = .item (.json obj) := by
  have hstrip : strip (dumps obj) = dumps obj :=
    strip_eq_self (laws.dumps_head obj) (by decide) (laws.dumps_last obj) (by decide)
  have hhead := laws.dumps_head obj
  have hne : dumps obj ≠ "" := by
    intro h
    rw [h] at hhead
    cases hhead
  rw [lineToken, laws.decode_utf8, hstrip, if_neg hne]
  cases htext : (dumps obj).toList with
  | nil =>
      rw [htext] at hhead
      cases hhead
  | cons c rest =>
      rw [htext] at hhead
      obtain rfl : c = '{' := by simpa using hhead
      have hraw := laws.rawDecode_dumps obj
      rw [← String.ofList_toList (s := dumps obj), htext] at hraw
      rw [jsonObjectsFromLine, if_neg (by simp), hraw]

/-- **Every encoding is one token**, whatever stands behind it. -/
theorem wireVerdict_encode (laws : JsonLaws decode rawDecode dumps) (i : WireItem dumps)
    (more : List UInt8) :
    wireVerdict decode rawDecode (i.encode ++ more) = some (i.encode.length, .item i.item) := by
  cases i with
  | frame sensorId timestampUs payload =>
      have hmagic : (encodeFrame sensorId timestampUs payload ++ more).take 2
          = streamFrameMagic := rfl
      have htwo : 2 ≤ (encodeFrame sensorId timestampUs payload ++ more).length := by
        rw [List.length_append, encodeFrame_length]
        omega
      show wireVerdict decode rawDecode (encodeFrame sensorId timestampUs payload ++ more) = _
      rw [wireVerdict, if_neg (head?_of_magic hmagic), if_pos ⟨htwo, hmagic⟩]
      exact frameVerdict_encodeFrame sensorId timestampUs payload.property more
  | json msg =>
      -- the text of an object begins with its brace, which is one byte of UTF-8
      have hhead : (utf8 (dumps msg) ++ [newlineByte] ++ more).head? = some openBrace := by
        have hfirst := laws.dumps_head msg
        cases htext : (dumps msg).toList with
        | nil =>
            rw [htext] at hfirst
            cases hfirst
        | cons c rest =>
            rw [htext] at hfirst
            obtain rfl : c = '{' := by simpa using hfirst
            rw [utf8, htext]
            rfl
      show wireVerdict decode rawDecode (utf8 (dumps msg) ++ [newlineByte] ++ more) = _
      rw [wireVerdict, if_pos hhead, find_newline more (newline_not_mem_utf8 msg.property),
        Option.map_some, List.append_assoc, List.take_left' rfl, lineToken_dumps laws]
      show _ = some ((utf8 (dumps msg) ++ [newlineByte]).length, _)
      rw [List.length_append]
      rfl

/-- The scanner reads a stream of encodings back, and leaves nothing. -/
theorem scan_encode (laws : JsonLaws decode rawDecode dumps) (items : List (WireItem dumps)) :
    (wire decode rawDecode).scan (items.flatMap WireItem.encode)
      = (items.map fun i => .item i.item, []) := by
  have hread := (wire decode rawDecode).scan_flatMap WireItem.encode
    (fun i : WireItem dumps => .item i.item) items
    (fun i _ more => wireVerdict_encode laws i more) []
  have hnil : (wire decode rawDecode).scan [] = ([], []) :=
    (wire decode rawDecode).scan_wait (by simp [wire, wireVerdict, garbageVerdict])
  rw [List.append_nil, hnil, List.append_nil] at hread
  exact hread

end Json

/-- **Round trip.** However a stream of encodings is cut into chunks, the client returns the
items in order, keeps nothing back, and counts no byte dropped and no checksum failed. -/
theorem readAll_encode {Obj : Type} {decode : List UInt8 → String}
    {rawDecode : String → Decoded Obj} {dumps : Obj → String}
    (laws : JsonLaws decode rawDecode dumps) (base : Parser) (items : List (WireItem dumps))
    {chunks : List (List UInt8)} (hcut : chunks.flatten = items.flatMap WireItem.encode) :
    ((Reader.opened base).readAll decode rawDecode chunks).outcome
      = { items := items.map WireItem.item
          residual := []
          dropBytes := base.streamResyncDropBytes
          checksumFailures := base.streamChecksumFailures } := by
  have hreports : Reports decode rawDecode base _ _
      ((Reader.opened base).readAll decode rawDecode chunks) := reports_readAll base chunks
  -- the chunks matter only through their concatenation
  rw [hcut, scan_encode laws] at hreports
  have hcalm : ∀ t ∈ items.map (fun i => Token.item i.item), t.isRaised = false := by
    intro t ht
    obtain ⟨i, -, rfl⟩ := List.mem_map.mp ht
    rfl
  -- an item counts as no byte dropped and no checksum failed
  have hzero (count : Token Obj → Nat) (hitem : ∀ i, count (.item i) = 0) :
      ((items.map fun i => Token.item i.item).map count).sum = 0 := by
    rw [List.map_map, List.sum_eq_zero]
    intro n hn
    obtain ⟨i, -, rfl⟩ := List.mem_map.mp hn
    exact hitem i.item
  have hitems := hreports.items
  have hdrop := hreports.dropBytes
  have hfail := hreports.failures
  have hbuf := hreports.buf
  rw [calm_eq_self hcalm] at hitems hdrop hfail
  rw [hzero _ fun _ => rfl] at hdrop hfail
  rw [List.filterMap_map] at hitems
  rw [Reader.outcome, hitems, hdrop, hfail, hbuf, ite_self]
  have hsome : (Token.item? ∘ fun i : WireItem dumps => Token.item i.item)
      = fun i => some i.item := rfl
  rw [hsome, List.filterMap_eq_map']
  rfl

/-- A decoder of UTF-8; what is no UTF-8 does not occur below. -/
def decodeUtf8 (bytes : List UInt8) : String := (String.fromUTF8? bytes.toByteArray).getD ""

theorem decodeUtf8_utf8 (s : String) : decodeUtf8 (utf8 s) = s := by
  have hbytes : (utf8 s).toByteArray = s.toByteArray := String.utf8Encode_toList
  have hvalid : s.toByteArray.IsValidUTF8 := s.isValidUTF8
  rw [decodeUtf8, hbytes, String.fromUTF8?, dif_pos hvalid]
  rfl

/-- The empty object, and a frame whose payload looks like a line and like a frame; the cuts
fall inside the line, inside the magic and inside the payload. -/
theorem readAll_encode_cut :
    ((Reader.opened {}).readAll decodeUtf8
        (fun s => if s = "{}" then Decoded.value () else .decodeError)
        [[0x7B], [0x7D, 0x0A, 0xA5],
          [0x5A, 0x01, 0x07, 0x7B, 0, 0, 0, 0, 0, 0, 0, 0x04, 0x7B, 0x0A],
          [0xA5, 0x5A, 0x0B]]).outcome
      = { items := [.json (), .streamFrame ⟨7, 123, [0x7B, 0x0A, 0xA5, 0x5A]⟩]
          residual := []
          dropBytes := 0
          checksumFailures := 0 } :=
  have laws : JsonLaws decodeUtf8 (fun s => if s = "{}" then Decoded.value () else .decodeError)
      (fun _ => "{}") :=
    { decode_utf8 := decodeUtf8_utf8
      rawDecode_dumps := fun _ => rfl
      dumps_head := fun _ => by decide
      dumps_last := fun _ => by decide }
  readAll_encode laws {}
    [.json ⟨(), by decide⟩, .frame 7 123 ⟨[0x7B, 0x0A, 0xA5, 0x5A], by decide⟩]
    (by decide)

end NexusN3.Gateway
