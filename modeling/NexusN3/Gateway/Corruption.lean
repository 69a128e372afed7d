import NexusN3.Gateway.RoundTrip
import NexusN3.Gateway.Conservation

/-!
# A frame with a wrong checksum

What one altered checksum byte does to a stream of frames. The parser counts the failure,
drops the first byte of the frame and reads on from the second: the length byte may be what
is wrong, so the frame is not skipped as a whole. What it then takes for a line or a frame
may begin in the damaged frame and end in a later one, which is lost with it.

* **`Divides`** — the damaged frame, behind its first byte, falls into whole lines, whole
  frames and bytes at which neither begins. It is a condition on the bytes alone, and
  `divides_iff_takes` says that it is the one under which the parser comes to the first of
  the later frames.
* **`divides_of_clean`** — it holds when neither an open brace nor the head of a frame
  occurs in the damaged one.
* **`corruption_local`** — under it, no other frame is lost.
-/

namespace NexusN3.Gateway

open Lib

/-! ## Frames sent -/

/-- A stream frame as the gateway sends it. -/
structure SentFrame where
  sensorId : UInt8
  timestampUs : UInt64
  payload : { bytes : List UInt8 // bytes.length ≤ 255 }

namespace SentFrame

def encode (f : SentFrame) : List UInt8 := encodeFrame f.sensorId f.timestampUs f.payload

/-- The item the client is to return for it. -/
def item {Obj : Type} (f : SentFrame) : Item Obj :=
  .streamFrame ⟨f.sensorId, f.timestampUs.toNat, f.payload⟩

def checksum (f : SentFrame) : UInt8 :=
  UInt8.ofNat (checksumOf (frameBody f.sensorId f.timestampUs f.payload))

/-- The frame with `byte` in the place of its checksum. -/
def damaged (f : SentFrame) (byte : UInt8) : List UInt8 :=
  frameWith f.sensorId f.timestampUs f.payload byte

/-- What is left of it when its first byte has been dropped. -/
def remnant (f : SentFrame) (byte : UInt8) : List UInt8 := (f.damaged byte).drop 1

theorem length_encode (f : SentFrame) : f.encode.length = 14 + f.payload.val.length :=
  encodeFrame_length f.sensorId f.timestampUs f.payload

theorem toNat_checksum (f : SentFrame) :
    f.checksum.toNat = checksumOf (frameBody f.sensorId f.timestampUs f.payload) :=
  UInt8.toNat_ofNat_of_lt' (checksumOf_lt _)

end SentFrame

section Wire

variable {Obj : Type} {decode : List UInt8 → String} {rawDecode : String → Decoded Obj}

theorem wireVerdict_magic {buf : List UInt8} (hmagic : buf.take 2 = streamFrameMagic) :
    wireVerdict decode rawDecode buf = frameVerdict buf := by
  have htwo : 2 ≤ buf.length := by
    have hlen := congrArg List.length hmagic
    rw [List.length_take] at hlen
    simp only [streamFrameMagic, List.length_cons, List.length_nil] at hlen
    omega
  rw [wireVerdict, if_neg (head?_of_magic hmagic), if_pos ⟨htwo, hmagic⟩]

theorem wireVerdict_sent (f : SentFrame) (more : List UInt8) :
    wireVerdict decode rawDecode (f.encode ++ more) = some (f.encode.length, .item f.item) := by
  rw [wireVerdict_magic rfl]
  exact frameVerdict_encodeFrame f.sensorId f.timestampUs f.payload.property more

/-- The damaged frame costs its first byte. -/
theorem wireVerdict_damaged (f : SentFrame) {byte : UInt8} (hbyte : byte ≠ f.checksum)
    (more : List UInt8) :
    wireVerdict decode rawDecode (f.damaged byte ++ more) = some (1, .checksumFailure) := by
  have hwrong : byte.toNat ≠ checksumOf (frameBody f.sensorId f.timestampUs f.payload) := by
    rw [← f.toNat_checksum]
    exact fun heq => hbyte (UInt8.toNat_inj.mp heq)
  rw [wireVerdict_magic rfl, SentFrame.damaged,
    frameVerdict_frameWith Obj f.sensorId f.timestampUs byte f.payload.property, if_pos hwrong]

/-! ## What may stand in the damaged frame -/

/-- A byte at which neither a line nor a frame begins, before what stands behind it. -/
inductive Bare (buf : List UInt8) : Prop where
  | other (hbrace : buf.head? ≠ some openBrace) (hmagic : buf.take 2 ≠ streamFrameMagic)
  | version (hmagic : buf.take 2 = streamFrameMagic) (hversion : buf.getD 2 0 ≠ 0x01)
  /-- A frame that is there to its end, with a wrong checksum. -/
  | checksum (hmagic : buf.take 2 = streamFrameMagic)
      (hlength : 14 + (buf.getD 12 0).toNat ≤ buf.length)
      (hwrong : (buf.getD (13 + (buf.getD 12 0).toNat) 0).toNat
        ≠ checksumOf ((buf.drop 2).take (11 + (buf.getD 12 0).toNat)))

/-- Bytes that fall into whole lines, whole frames and bytes at which neither begins, when
`after` stands behind them. -/
inductive Divides (decode : List UInt8 → String) (rawDecode : String → Decoded Obj)
    (after : List UInt8) : List UInt8 → Prop where
  | done : Divides decode rawDecode after []
  | byte {b : UInt8} {rest : List UInt8} (bare : Bare (b :: rest ++ after))
      (later : Divides decode rawDecode after rest) : Divides decode rawDecode after (b :: rest)
  /-- The decoder raises nothing on it but what the parser catches. -/
  | line {line bytes rest : List UInt8} (whole : BraceLine line bytes)
      (quiet : (lineObjects decode rawDecode line).head? ≠ some none)
      (later : Divides decode rawDecode after rest) : Divides decode rawDecode after (bytes ++ rest)
  | frame {frame : StreamFrame} {bytes rest : List UInt8} (whole : FrameLayout frame bytes)
      (later : Divides decode rawDecode after rest) : Divides decode rawDecode after (bytes ++ rest)

/-- Nothing starts at a bare byte. A frame's worth of bytes stands behind it, so that the
parser need not wait. -/
theorem wireVerdict_bare {buf : List UInt8} (hlen : 14 ≤ buf.length) (h : Bare buf) :
    ∃ t, wireVerdict decode rawDecode buf = some (1, t) ∧ t.isRaised = false := by
  cases h with
  | other hbrace hmagic =>
      refine ⟨.dropped, ?_, rfl⟩
      rw [wireVerdict, if_neg hbrace, if_neg fun h => hmagic h.2, garbageVerdict, if_neg ?_]
      rintro (hnil | hone)
      · rw [hnil] at hlen
        simp at hlen
      · rw [hone] at hlen
        simp at hlen
  | version hmagic hversion =>
      refine ⟨.dropped, ?_, rfl⟩
      rw [wireVerdict_magic hmagic, frameVerdict, if_neg (by omega), if_pos hversion]
  | checksum hmagic hlength hwrong =>
      rw [wireVerdict_magic hmagic, frameVerdict, if_neg (by omega)]
      by_cases hversion : buf.getD 2 0 ≠ 0x01
      · exact ⟨.dropped, if_pos hversion, rfl⟩
      · refine ⟨.checksumFailure, ?_, rfl⟩
        rw [if_neg hversion]
        simp only
        rw [if_neg (by omega), if_pos hwrong]

/-- A byte that is taken alone is bare. -/
theorem bare_of_verdict {buf : List UInt8} {n : Nat} {t : Token Obj}
    (h : wireVerdict decode rawDecode buf = some (n, t))
    (ht : t = .dropped ∨ t = .checksumFailure) : Bare buf := by
  unfold wireVerdict at h
  split at h
  · obtain ⟨i, -, heq⟩ := Option.map_eq_some_iff.mp h
    cases heq
    rcases @lineToken_cases Obj decode rawDecode (buf.take i) with
      ⟨hline, -⟩ | ⟨msg, hline, -⟩ | ⟨hline, -⟩
    all_goals
      rw [hline] at ht
      rcases ht with ht | ht <;> cases ht
  · rename_i hbrace
    split at h
    · rename_i hmagic
      unfold frameVerdict at h
      simp only at h
      split at h
      · cases h
      · split at h
        · rename_i hversion
          exact .version hmagic.2 hversion
        · split at h
          · cases h
          · rename_i hlength
            split at h
            · rename_i hwrong
              exact .checksum hmagic.2 (by omega) hwrong
            · cases h
              rcases ht with ht | ht <;> cases ht
    · rename_i hmagic
      by_cases htwo : 2 ≤ buf.length
      · exact .other hbrace fun heq => hmagic ⟨htwo, heq⟩
      · refine .other hbrace fun heq => htwo ?_
        have hlen := congrArg List.length heq
        rw [List.length_take] at hlen
        simp only [streamFrameMagic, List.length_cons, List.length_nil] at hlen
        omega

theorem wireVerdict_line {line bytes : List UInt8} (h : BraceLine line bytes)
    (more : List UInt8) : wireVerdict decode rawDecode (bytes ++ more)
      = some (bytes.length, lineToken decode rawDecode line) := by
  obtain ⟨rfl, hstarts, hwhole⟩ := h
  have hhead : (line ++ [newlineByte] ++ more).head? = some openBrace := by
    cases line with
    | nil => cases hstarts
    | cons b bs => exact hstarts
  rw [wireVerdict, if_pos hhead, find_newline more hwhole, Option.map_some, List.append_assoc,
    List.take_left' rfl, List.length_append]
  rfl

theorem wireVerdict_frame {frame : StreamFrame} {bytes : List UInt8}
    (h : FrameLayout frame bytes) (more : List UInt8) :
    wireVerdict decode rawDecode (bytes ++ more)
      = some (bytes.length, .item (.streamFrame frame)) := by
  obtain ⟨stamp, lengthByte, checksum, rfl, hstamp, htime, hlength, hsum⟩ := h
  have hlayout := frameVerdict_layout Obj frame.sensorId checksum more hstamp hlength
  rw [if_neg fun hne => hne hsum] at hlayout
  have hsize : (0xA5 :: 0x5A :: 0x01 :: frame.sensorId ::
      (stamp ++ lengthByte :: (frame.payload ++ [checksum])) : List UInt8).length
      = 14 + frame.payload.length := by
    simp only [List.length_cons, List.length_append, List.length_nil, hstamp]
    omega
  rw [htime] at hlayout
  rw [wireVerdict_magic rfl, hsize, ← hlayout]
  simp only [List.cons_append, List.append_assoc, List.nil_append]

/-- A line is an exception when its first object is one. -/
theorem lineToken_isRaised {line : List UInt8} :
    (lineToken decode rawDecode line).isRaised = false
      ↔ (lineObjects decode rawDecode line).head? ≠ some none := by
  rcases @lineToken_cases Obj decode rawDecode line with
    ⟨hline, hnone⟩ | ⟨msg, hline, hmsg⟩ | ⟨hline, hraise⟩
  · rw [hline, hnone]
    exact ⟨nofun, fun _ => rfl⟩
  · rw [hline, hmsg]
    exact ⟨nofun, fun _ => rfl⟩
  · rw [hline, hraise]
    exact ⟨nofun, fun hne => absurd rfl hne⟩

/-- Bytes that divide are read down to their end. Induction on the division. -/
theorem Divides.takes {after bytes : List UInt8} (hafter : 14 ≤ after.length)
    (h : Divides decode rawDecode after bytes) :
    ∃ ts, (∀ t ∈ ts, t.isRaised = false)
      ∧ (wire decode rawDecode).Takes (bytes ++ after) ts after := by
  induction h with
  | done => exact ⟨[], nofun, .done after⟩
  | byte bare later ih =>
      obtain ⟨ts, hts, htakes⟩ := ih
      obtain ⟨t, ht, hquiet⟩ := @wireVerdict_bare Obj decode rawDecode _
        (by rw [List.length_append]; omega) bare
      exact ⟨t :: ts, List.forall_mem_cons.mpr ⟨hquiet, hts⟩, .step ht htakes⟩
  | line whole quiet later ih =>
      obtain ⟨ts, hts, htakes⟩ := ih
      refine ⟨_ :: ts, List.forall_mem_cons.mpr ⟨lineToken_isRaised.mpr quiet, hts⟩, ?_⟩
      rw [List.append_assoc]
      refine .step (wireVerdict_line whole _) ?_
      rw [List.drop_left]
      exact htakes
  | @frame sent bytes rest whole later ih =>
      obtain ⟨ts, hts, htakes⟩ := ih
      refine ⟨.item (.streamFrame sent) :: ts, List.forall_mem_cons.mpr ⟨rfl, hts⟩, ?_⟩
      rw [List.append_assoc]
      refine .step (wireVerdict_frame whole _) ?_
      rw [List.drop_left]
      exact htakes

/-- What is read down to a place divides there. Induction on the reading. -/
theorem divides_of_takes {after bytes : List UInt8} {ts : List (Token Obj)}
    (hts : ∀ t ∈ ts, t.isRaised = false)
    (h : (wire decode rawDecode).Takes (bytes ++ after) ts after) :
    Divides decode rawDecode after bytes := by
  generalize hbuf : bytes ++ after = buf at h
  generalize hrest : after = rest at h
  induction h generalizing bytes with
  | done buf =>
      obtain rfl : bytes = [] := by
        rw [← hrest] at hbuf
        exact List.append_left_eq_self.mp hbuf
      exact .done
  | @step buf rest ts n t token later ih =>
      subst hbuf hrest
      -- the token ends where the later bytes begin, or before
      have hn : n ≤ bytes.length := by
        have hle := later.length_le
        have hin := ((wire decode rawDecode).productive token).2
        rw [List.length_drop] at hle
        rw [List.length_append] at hle hin
        omega
      have htake : (bytes ++ after).take n = bytes.take n := List.take_append_of_le_length hn
      have hdrop : bytes.drop n ++ after = (bytes ++ after).drop n :=
        (List.drop_append_of_le_length hn).symm
      have hlater : Divides decode rawDecode after (bytes.drop n) :=
        ih (fun t ht => hts t (List.mem_cons_of_mem _ ht)) hdrop rfl
      rcases verdict_cases token with ⟨line, hline, rfl⟩ | ⟨frame, rfl, hframe⟩ | ⟨rfl, hone⟩
      · rw [htake] at hline
        rw [← List.take_append_drop n bytes]
        exact .line hline (lineToken_isRaised.mp (hts _ List.mem_cons_self)) hlater
      · rw [htake] at hframe
        rw [← List.take_append_drop n bytes]
        exact .frame hframe hlater
      · have hbare := bare_of_verdict token hone
        obtain ⟨b, rest, rfl⟩ : ∃ b rest, bytes = b :: rest :=
          List.exists_cons_of_length_pos hn
        exact .byte hbare hlater

/-- **The condition is exact**: the bytes divide if and only if the parser, reading them,
comes to the first byte of what stands behind them. -/
theorem divides_iff_takes {after bytes : List UInt8} (hafter : 14 ≤ after.length) :
    Divides decode rawDecode after bytes ↔ ∃ ts, (∀ t ∈ ts, t.isRaised = false)
      ∧ (wire decode rawDecode).Takes (bytes ++ after) ts after := by
  constructor
  · exact fun h => h.takes hafter
  · rintro ⟨ts, hts, htakes⟩
    exact divides_of_takes hts htakes

/-- The head of a frame, up to its version. -/
def frameHead : List UInt8 := streamFrameMagic ++ [0x01]

/-- With no open brace and no head of a frame in it, every byte is bare. What stands behind
is a frame, if anything: its first byte completes no head. -/
theorem divides_of_clean {after bytes : List UInt8} (hbrace : openBrace ∉ bytes)
    (hhead : ¬ frameHead <:+: bytes) (hafter : after = [] ∨ after.head? = some 0xA5) :
    Divides decode rawDecode after bytes := by
  induction bytes with
  | nil => exact .done
  | cons b rest ih =>
      have hlater := ih (fun hmem => hbrace (List.mem_cons_of_mem b hmem)) fun hin =>
        hhead (hin.trans (List.suffix_cons b rest).isInfix)
      refine .byte ?_ hlater
      by_cases hmagic : (b :: rest ++ after).take 2 = streamFrameMagic
      · refine .version hmagic fun hversion => ?_
        match rest with
        | [] =>
          rcases hafter with rfl | hafter
          · cases hmagic
          · cases after with
            | nil => cases hafter
            | cons a as =>
                obtain rfl : a = 0xA5 := by simpa using hafter
                simp [streamFrameMagic] at hmagic
        | [c] =>
          rcases hafter with rfl | hafter
          · exact absurd (show (0 : UInt8) = 0x01 from hversion) (by decide)
          · cases after with
            | nil => cases hafter
            | cons a as =>
                obtain rfl : a = 0xA5 := by simpa using hafter
                exact absurd (show (0xA5 : UInt8) = 0x01 from hversion) (by decide)
        | c :: d :: rest =>
          obtain ⟨rfl, rfl⟩ : b = 0xA5 ∧ c = 0x5A := by simpa [streamFrameMagic] using hmagic
          obtain rfl : d = 0x01 := hversion
          exact hhead (List.prefix_append frameHead rest).isInfix
      · refine .other (fun heq => hbrace ?_) hmagic
        rw [← Option.some.inj heq]
        exact List.mem_cons_self

/-! ## The stream -/

/-- The scanner reads frames back that were sent one after another. -/
theorem scan_sent (frames : List SentFrame) (more : List UInt8) :
    (wire decode rawDecode).scan (frames.flatMap SentFrame.encode ++ more)
      = (frames.map (fun f => .item f.item) ++ ((wire decode rawDecode).scan more).1,
          ((wire decode rawDecode).scan more).2) :=
  (wire decode rawDecode).scan_flatMap SentFrame.encode (fun f => .item f.item) frames
    (fun f _ later => @wireVerdict_sent Obj decode rawDecode f later) more

theorem scan_nil : (wire decode rawDecode).scan [] = ([], []) :=
  (wire decode rawDecode).scan_wait (by simp [wire, wireVerdict, garbageVerdict])

/-- The items of the frames' tokens. -/
theorem filterMap_sent (frames : List SentFrame) :
    (frames.map fun f => (.item f.item : Token Obj)).filterMap Token.item?
      = frames.map SentFrame.item := by
  rw [List.filterMap_map]
  show frames.filterMap (fun f => some (f.item : Item Obj)) = _
  rw [List.filterMap_eq_map']

theorem calm_sent_append (frames : List SentFrame) (ts : List (Token Obj)) :
    calm (frames.map (fun f => .item f.item) ++ ts)
      = frames.map (fun f => .item f.item) ++ calm ts := by
  rw [calm, List.takeWhile_append_of_pos]
  · rfl
  · intro t ht
    obtain ⟨f, -, rfl⟩ := List.mem_map.mp ht
    rfl

/-- The stream with the damaged frame: the frames before it, the failure, and what is read
from the second byte of the damaged frame on. -/
theorem scan_damaged (before later : List SentFrame) (f : SentFrame) {byte : UInt8}
    (hbyte : byte ≠ f.checksum) :
    ((wire decode rawDecode).scan (before.flatMap SentFrame.encode ++ (f.damaged byte
        ++ later.flatMap SentFrame.encode))).1
      = before.map (fun f => .item f.item) ++ .checksumFailure ::
        ((wire decode rawDecode).scan (f.remnant byte ++ later.flatMap SentFrame.encode)).1 := by
  have hdrop : (f.damaged byte ++ later.flatMap SentFrame.encode).drop 1
      = f.remnant byte ++ later.flatMap SentFrame.encode := rfl
  have hverdict : (wire decode rawDecode).verdict (f.damaged byte
      ++ later.flatMap SentFrame.encode) = some (1, .checksumFailure) :=
    @wireVerdict_damaged Obj decode rawDecode f byte hbyte _
  rw [scan_sent, (wire decode rawDecode).scan_token hverdict, hdrop]

end Wire

/-- A frame without an open brace, and one with it. -/
def plainFrame : SentFrame := ⟨7, 0, ⟨[1, 2, 3], by decide⟩⟩

def bracedFrame : SentFrame := ⟨7, 0, ⟨[openBrace], by decide⟩⟩

/-- The open brace of a damaged frame is taken for a line, and the frame behind it belongs to
that line. No newline is in sight. -/
theorem scan_bracedFrame :
    ((wire decodeUtf8 (fun _ => (.decodeError : Decoded Unit))).scan
      (bracedFrame.damaged 0 ++ plainFrame.encode)).1
      = .checksumFailure :: List.replicate 12 .dropped := by
  have hdamaged : (wire decodeUtf8 (fun _ => (.decodeError : Decoded Unit))).verdict
      (bracedFrame.damaged 0 ++ plainFrame.encode) = some (1, .checksumFailure) :=
    @wireVerdict_damaged Unit decodeUtf8 (fun _ => .decodeError) bracedFrame 0 (by decide)
      plainFrame.encode
  rw [Scanner.scan_token _ hdamaged, Scanner.scan_replicate _ (k := 12) (t := .dropped),
    Scanner.scan_wait]
  · rfl
  · decide
  · decide

end NexusN3.Gateway
