import NexusN3.Lib.Scanner
import NexusN3.Gateway.Parser
import Mathlib.Data.List.GetD

/-!
# However the bytes are cut

The parser decides on what has arrived so far, and what has arrived depends on how the
serial line cuts the stream. Here it is shown not to depend on it. The abstract reading is a
`Scanner`: it looks at the front of the buffer and takes a line, a frame, or a single byte
that starts neither. What the source drops in one sweep is there one byte after another.

* **`wire`** — the scanner. Its decisions are stable: each is made only when the bytes that
  could change it have arrived.
* **`loopBody_spec`** — a turn of `_extract_item` takes the tokens the scanner would.
* **`Reports`** — a reader's fields, read off the tokens of all it was fed. An exception
  cuts the tokens off (`calm`).
* **`readAll_outcome_eq`** — feeding chunk by chunk and feeding all at once report the same.
-/

namespace NexusN3.Gateway

open Lib

/-- What the scanner takes off the buffer. -/
inductive Token (Obj : Type) where
  | item (i : Item Obj)
  /-- A line without an object. -/
  | blank
  /-- A byte that starts nothing. -/
  | dropped
  /-- The first byte of a frame whose checksum is wrong. -/
  | checksumFailure
  | raised
  deriving DecidableEq

namespace Token

variable {Obj : Type}

def isRaised : Token Obj → Bool
  | .raised => true
  | _ => false

def item? : Token Obj → Option (Item Obj)
  | .item i => some i
  | _ => none

/-- What the token adds to `stream_resync_drop_bytes`. -/
def dropBytes : Token Obj → Nat
  | .dropped => 1
  | .checksumFailure => 1
  | _ => 0

/-- What the token adds to `stream_checksum_failures`. -/
def failures : Token Obj → Nat
  | .checksumFailure => 1
  | _ => 0

end Token

/-! ## The scanner -/

section Wire

variable {Obj : Type} (decode : List UInt8 → String) (rawDecode : String → Decoded Obj)

def lineToken (bytes : List UInt8) : Token Obj :=
  let line := strip (decode bytes)
  if line = "" then .blank
  else
    match jsonObjectsFromLine rawDecode line.toList with
    | some msg :: _ => .item (.json msg)
    | none :: _ => .raised
    | [] => .blank

def frameVerdict (buf : List UInt8) : Option (Nat × Token Obj) :=
  if buf.length < 14 then none
  else if buf.getD 2 0 ≠ 0x01 then some (1, .dropped)
  else
    let payloadLen := (buf.getD 12 0).toNat
    if buf.length < 14 + payloadLen then none
    else if (buf.getD (13 + payloadLen) 0).toNat
        ≠ checksumOf ((buf.drop 2).take (11 + payloadLen)) then some (1, .checksumFailure)
    else
      some (14 + payloadLen, .item (.streamFrame
        ⟨buf.getD 3 0, fromLittle ((buf.drop 4).take 8), (buf.drop 13).take payloadLen⟩))

/-- A lone first half of the magic is waited for; any other byte here is dropped. -/
def garbageVerdict (buf : List UInt8) : Option (Nat × Token Obj) :=
  if buf = [] ∨ buf = [0xA5] then none else some (1, .dropped)

def wireVerdict (buf : List UInt8) : Option (Nat × Token Obj) :=
  if buf.head? = some openBrace then
    (find [newlineByte] buf).map fun i => (i + 1, lineToken decode rawDecode (buf.take i))
  else if 2 ≤ buf.length ∧ buf.take 2 = streamFrameMagic then frameVerdict buf
  else garbageVerdict buf

theorem frameVerdict_productive {buf : List UInt8} {n : Nat} {t : Token Obj}
    (h : frameVerdict buf = some (n, t)) : 0 < n ∧ n ≤ buf.length := by
  unfold frameVerdict at h
  simp only at h
  split at h
  · cases h
  · split at h
    · cases h
      omega
    · split at h
      · cases h
      · split at h
        · cases h
          omega
        · cases h
          omega

theorem frameVerdict_stable {buf : List UInt8} {n : Nat} {t : Token Obj} (more : List UInt8)
    (h : frameVerdict buf = some (n, t)) : frameVerdict (buf ++ more) = some (n, t) := by
  unfold frameVerdict at h ⊢
  by_cases hshort : buf.length < 14
  · rw [if_pos hshort] at h
    cases h
  · have hat (i : Nat) (hi : i < buf.length) : (buf ++ more).getD i 0 = buf.getD i 0 :=
      List.getD_append buf more 0 i hi
    rw [if_neg hshort] at h
    rw [if_neg (by rw [List.length_append]; omega), hat 2 (by omega)]
    by_cases hversion : buf.getD 2 0 ≠ 0x01
    · rw [if_pos hversion] at h ⊢
      exact h
    · rw [if_neg hversion] at h ⊢
      simp only at h ⊢
      rw [hat 12 (by omega), hat 3 (by omega)]
      by_cases hlen : buf.length < 14 + (buf.getD 12 0).toNat
      · rw [if_pos hlen] at h
        cases h
      · rw [if_neg hlen] at h
        rw [if_neg (by rw [List.length_append]; omega), hat _ (by omega),
          drop_take_append more (by omega), drop_take_append more (by omega),
          drop_take_append more (by omega)]
        exact h

theorem garbageVerdict_stable {buf : List UInt8} {n : Nat} {t : Token Obj}
    (more : List UInt8) (h : garbageVerdict buf = some (n, t)) :
    (garbageVerdict (buf ++ more) : Option (Nat × Token Obj)) = some (n, t) := by
  unfold garbageVerdict at h ⊢
  split at h
  · cases h
  · rename_i hbuf
    rw [if_neg ?_]
    · exact h
    · rintro (hnil | hone)
      · exact hbuf (Or.inl (List.append_eq_nil_iff.mp hnil).1)
      · rcases List.append_eq_singleton_iff.mp hone with ⟨hb, -⟩ | ⟨hb, -⟩
        · exact hbuf (Or.inl hb)
        · exact hbuf (Or.inr hb)

theorem wireVerdict_productive {buf : List UInt8} {n : Nat} {t : Token Obj}
    (h : wireVerdict decode rawDecode buf = some (n, t)) : 0 < n ∧ n ≤ buf.length := by
  unfold wireVerdict at h
  split at h
  · obtain ⟨i, hi, heq⟩ := Option.map_eq_some_iff.mp h
    cases heq
    have hat := (find_eq_some_iff.mp hi).2.1
    rw [singleton_prefix_drop] at hat
    have := (List.getElem?_eq_some_iff.mp hat).1
    omega
  · split at h
    · exact frameVerdict_productive h
    · unfold garbageVerdict at h
      split at h
      · cases h
      · rename_i hbuf
        cases h
        have := List.length_pos_iff.mpr fun hnil => hbuf (Or.inl hnil)
        omega

/-- A single byte that is dropped is not the first half of a magic, and what arrives behind
it does not make it one. -/
theorem not_magic_append {b : UInt8} {more : List UInt8} (hb : b ≠ 0xA5) :
    ¬ (2 ≤ ([b] ++ more).length ∧ ([b] ++ more).take 2 = streamFrameMagic) := by
  rintro ⟨-, hm⟩
  cases more with
  | nil => simp [streamFrameMagic] at hm
  | cons c cs =>
      simp only [streamFrameMagic, List.cons_append, List.nil_append, List.take_succ_cons,
        List.cons.injEq] at hm
      exact hb hm.1

/-- The three readings of the first bytes stay apart when more arrives. -/
theorem wireVerdict_stable {buf : List UInt8} {n : Nat} {t : Token Obj} (more : List UInt8)
    (h : wireVerdict decode rawDecode buf = some (n, t)) :
    wireVerdict decode rawDecode (buf ++ more) = some (n, t) := by
  have hne : buf ≠ [] := by
    rintro rfl
    simp [wireVerdict, garbageVerdict] at h
  have hhead : (buf ++ more).head? = buf.head? := List.head?_append_of_ne_nil buf hne
  unfold wireVerdict at h ⊢
  rw [hhead]
  by_cases hbrace : buf.head? = some openBrace
  · rw [if_pos hbrace] at h ⊢
    obtain ⟨i, hi, heq⟩ := Option.map_eq_some_iff.mp h
    rw [find_append more hi, Option.map_some,
      List.take_append_of_le_length (find_eq_some_iff.mp hi).1, heq]
  · rw [if_neg hbrace] at h ⊢
    by_cases htwo : 2 ≤ buf.length
    · have htake : (buf ++ more).take 2 = buf.take 2 := List.take_append_of_le_length htwo
      have hlen : 2 ≤ (buf ++ more).length := by
        rw [List.length_append]
        omega
      rw [htake]
      by_cases hmagic : buf.take 2 = streamFrameMagic
      · rw [if_pos ⟨htwo, hmagic⟩] at h
        rw [if_pos ⟨hlen, hmagic⟩]
        exact frameVerdict_stable more h
      · rw [if_neg fun hm => hmagic hm.2] at h ⊢
        exact garbageVerdict_stable more h
    · -- a single byte: garbage unless it is the first half of the magic, which waits
      rw [if_neg fun hm => htwo hm.1] at h
      obtain ⟨b, rfl⟩ : ∃ b, buf = [b] := List.length_eq_one_iff.mp (by
        have := List.length_pos_iff.mpr hne
        omega)
      have hb : b ≠ 0xA5 := by
        rintro rfl
        simp [garbageVerdict] at h
      rw [if_neg (not_magic_append hb)]
      exact garbageVerdict_stable more h

/-- The wire, read from the front of the buffer. -/
def wire : Scanner UInt8 (Token Obj) where
  verdict := wireVerdict decode rawDecode
  productive := wireVerdict_productive decode rawDecode
  stable := wireVerdict_stable decode rawDecode

/-! ## A turn takes tokens -/

/-- Between `p` and `p'` the tokens `ts` have been taken off the buffer, and counted. -/
structure Advance (p : Parser) (ts : List (Token Obj)) (p' : Parser) : Prop where
  scan : (wire decode rawDecode).scan p.buf
    = (ts ++ ((wire decode rawDecode).scan p'.buf).1, ((wire decode rawDecode).scan p'.buf).2)
  dropBytes : p'.streamResyncDropBytes
    = p.streamResyncDropBytes + (ts.map Token.dropBytes).sum
  failures : p'.streamChecksumFailures
    = p.streamChecksumFailures + (ts.map Token.failures).sum

/-- Tokens that are counted at most. -/
def Quiet (ts : List (Token Obj)) : Prop := ∀ t ∈ ts, t.item? = none ∧ t.isRaised = false

variable {decode rawDecode}

theorem Advance.trans {p q r : Parser} {ts us : List (Token Obj)}
    (h1 : Advance decode rawDecode p ts q) (h2 : Advance decode rawDecode q us r) :
    Advance decode rawDecode p (ts ++ us) r where
  scan := by rw [h1.scan, h2.scan, List.append_assoc]
  dropBytes := by rw [h2.dropBytes, h1.dropBytes, List.map_append, List.sum_append, Nat.add_assoc]
  failures := by rw [h2.failures, h1.failures, List.map_append, List.sum_append, Nat.add_assoc]

/-- The buffer untouched: no token. -/
theorem Advance.idle {p p' : Parser} (hbuf : p'.buf = p.buf)
    (hdrop : p'.streamResyncDropBytes = p.streamResyncDropBytes)
    (hfail : p'.streamChecksumFailures = p.streamChecksumFailures) :
    Advance decode rawDecode p [] p' where
  scan := by rw [hbuf, List.nil_append]
  dropBytes := by rw [hdrop]; rfl
  failures := by rw [hfail]; rfl

theorem Advance.token {p p' : Parser} {n : Nat} {t : Token Obj}
    (hverdict : wireVerdict decode rawDecode p.buf = some (n, t)) (hbuf : p'.buf = p.buf.drop n)
    (hdrop : p'.streamResyncDropBytes = p.streamResyncDropBytes + t.dropBytes)
    (hfail : p'.streamChecksumFailures = p.streamChecksumFailures + t.failures) :
    Advance decode rawDecode p [t] p' where
  scan := by rw [(wire decode rawDecode).scan_token hverdict, hbuf]; rfl
  dropBytes := by rw [hdrop, List.map_singleton, List.sum_singleton]
  failures := by rw [hfail, List.map_singleton, List.sum_singleton]

theorem Quiet.nil : Quiet ([] : List (Token Obj)) := fun _ h => absurd h List.not_mem_nil

theorem Quiet.append {ts us : List (Token Obj)} (h1 : Quiet ts) (h2 : Quiet us) :
    Quiet (ts ++ us) := by
  intro t ht
  rcases List.mem_append.mp ht with ht | ht
  · exact h1 t ht
  · exact h2 t ht

/-- What a turn does, in tokens. -/
def TurnSpec (decode : List UInt8 → String) (rawDecode : String → Decoded Obj) (p : Parser) :
    Turn Obj → Prop
  | .again p' => ∃ ts, Quiet ts ∧ Advance decode rawDecode p ts p'
  | .stop p' => ∃ ts, Quiet ts ∧ Advance decode rawDecode p ts p'
      ∧ wireVerdict decode rawDecode p'.buf = none
  | .item i p' => Advance decode rawDecode p [.item i] p'
  | .raised p' => Advance decode rawDecode p [.raised] p'

theorem Parser.recordPartialBlock_counters (p : Parser) (kind : BlockKind) :
    (p.recordPartialBlock kind).streamResyncDropBytes = p.streamResyncDropBytes
      ∧ (p.recordPartialBlock kind).streamChecksumFailures = p.streamChecksumFailures := by
  cases kind
  all_goals
    simp only [Parser.recordPartialBlock]
    split <;> exact ⟨rfl, rfl⟩

theorem Parser.dropAndResync_counters (p : Parser) (n : Nat) :
    (p.dropAndResync n).streamResyncDropBytes = p.streamResyncDropBytes + n
      ∧ (p.dropAndResync n).streamChecksumFailures = p.streamChecksumFailures := by
  unfold Parser.dropAndResync
  split
  · rename_i h
    obtain rfl : n = 0 := by omega
    exact ⟨rfl, rfl⟩
  · exact ⟨rfl, rfl⟩

/-- A turn that waits is one at which the scanner waits. -/
theorem turnSpec_wait {p : Parser} (kind : BlockKind)
    (h : wireVerdict decode rawDecode p.buf = none) :
    TurnSpec decode rawDecode p (.stop (p.recordPartialBlock kind)) := by
  have hcount := p.recordPartialBlock_counters kind
  refine ⟨[], Quiet.nil, Advance.idle (p.recordPartialBlock_buf kind) hcount.1 hcount.2, ?_⟩
  rw [p.recordPartialBlock_buf]
  exact h

/-- A token that is not counted, taken off as understood. -/
theorem Advance.consume {p : Parser} {n : Nat} {t : Token Obj}
    (hverdict : wireVerdict decode rawDecode p.buf = some (n, t)) (hdrop : t.dropBytes = 0)
    (hfail : t.failures = 0) : Advance decode rawDecode p [t] (p.consume n) := by
  apply Advance.token hverdict (p.consume_buf n)
  · rw [hdrop]
    rfl
  · rw [hfail]
    rfl

theorem lineTurn_spec {p : Parser} (hbrace : p.buf.head? = some openBrace) :
    TurnSpec decode rawDecode p (lineTurn decode rawDecode p) := by
  have hverdict : wireVerdict decode rawDecode p.buf = (find [newlineByte] p.buf).map
      fun i => (i + 1, lineToken decode rawDecode (p.buf.take i)) := if_pos hbrace
  unfold lineTurn
  cases hfind : find [newlineByte] p.buf with
  | none =>
      rw [hfind] at hverdict
      exact turnSpec_wait .json hverdict
  | some i =>
      rw [hfind, Option.map_some, lineToken] at hverdict
      simp only at hverdict ⊢
      by_cases hline : strip (decode (p.buf.take i)) = ""
      · rw [if_pos hline] at hverdict ⊢
        exact ⟨[.blank], by simp [Quiet, Token.item?, Token.isRaised],
          Advance.consume hverdict rfl rfl⟩
      · rw [if_neg hline] at hverdict ⊢
        cases hobj : jsonObjectsFromLine rawDecode (strip (decode (p.buf.take i))).toList with
        | nil =>
            rw [hobj] at hverdict
            exact ⟨[.blank], by simp [Quiet, Token.item?, Token.isRaised],
              Advance.consume hverdict rfl rfl⟩
        | cons first later =>
            rw [hobj] at hverdict
            cases first with
            | none => exact Advance.consume hverdict rfl rfl
            | some msg => exact Advance.consume hverdict rfl rfl

/-- The magic is no brace. -/
theorem head?_of_magic {buf : List UInt8} (hmagic : buf.take 2 = streamFrameMagic) :
    buf.head? ≠ some openBrace := by
  cases buf with
  | nil => simp
  | cons b bs =>
      simp only [streamFrameMagic, List.take_succ_cons, List.cons.injEq] at hmagic
      rw [hmagic.1]
      simp [openBrace]

theorem frameTurn_spec {p : Parser} (htwo : 2 ≤ p.buf.length)
    (hmagic : p.buf.take 2 = streamFrameMagic) :
    TurnSpec decode rawDecode p (frameTurn p) := by
  have hverdict : wireVerdict decode rawDecode p.buf = frameVerdict p.buf := by
    rw [wireVerdict, if_neg (head?_of_magic hmagic), if_pos ⟨htwo, hmagic⟩]
  unfold frameVerdict at hverdict
  unfold frameTurn
  by_cases hshort : p.buf.length < 14
  · rw [if_pos hshort] at hverdict ⊢
    exact turnSpec_wait .frame hverdict
  · rw [if_neg hshort] at hverdict ⊢
    simp only at hverdict ⊢
    by_cases hversion : p.buf.getD 2 0 ≠ 0x01
    · rw [if_pos hversion] at hverdict ⊢
      -- a wrong version: the source drops one byte, the scanner takes one token
      have hcount := p.dropAndResync_counters 1
      exact ⟨[.dropped], by simp [Quiet, Token.item?, Token.isRaised],
        Advance.token hverdict (p.dropAndResync_buf 1) hcount.1 hcount.2⟩
    · rw [if_neg hversion] at hverdict ⊢
      have htotal : 13 + (p.buf.getD 12 0).toNat + 1 = 14 + (p.buf.getD 12 0).toNat := by omega
      rw [htotal]
      by_cases hlen : p.buf.length < 14 + (p.buf.getD 12 0).toNat
      · rw [if_pos hlen] at hverdict ⊢
        exact turnSpec_wait .frame hverdict
      · rw [if_neg hlen] at hverdict ⊢
        by_cases hsum : (p.buf.getD (13 + (p.buf.getD 12 0).toNat) 0).toNat
            ≠ checksumOf ((p.buf.drop 2).take (11 + (p.buf.getD 12 0).toNat))
        · rw [if_pos hsum] at hverdict ⊢
          refine ⟨[.checksumFailure], by simp [Quiet, Token.item?, Token.isRaised], ?_⟩
          exact Advance.token hverdict (Parser.dropAndResync_buf _ 1) rfl rfl
        · rw [if_neg hsum] at hverdict ⊢
          -- a whole frame: both take it
          exact Advance.consume hverdict rfl rfl

/-! ## Dropping in one sweep -/

/-- At a place where neither format starts, and that is not a lone half of the magic at the
end, the scanner drops one byte. -/
theorem wireVerdict_dropped {buf : List UInt8} {j : Nat} (hj : j < buf.length)
    (hbrace : ¬ [openBrace] <+: buf.drop j) (hmagic : ¬ streamFrameMagic <+: buf.drop j)
    (hlone : buf.drop j ≠ [0xA5]) :
    wireVerdict decode rawDecode (buf.drop j) = some (1, .dropped) := by
  have hhead : (buf.drop j).head? ≠ some openBrace := by
    rw [Ne, List.head?_drop, ← singleton_prefix_drop]
    exact hbrace
  have hfront : ¬ (2 ≤ (buf.drop j).length ∧ (buf.drop j).take 2 = streamFrameMagic) :=
    fun h => hmagic (List.prefix_iff_eq_take.mpr h.2.symm)
  have hne : buf.drop j ≠ [] := by
    rw [Ne, List.drop_eq_nil_iff]
    omega
  have hkept : ¬ (buf.drop j = [] ∨ buf.drop j = [0xA5]) := by
    rintro (h | h)
    · exact hne h
    · exact hlone h
  rw [wireVerdict, if_neg hhead, if_neg hfront, garbageVerdict, if_neg hkept]

/-- A sweep over places where the scanner drops. -/
theorem Advance.sweep {p : Parser} {n : Nat}
    (h : ∀ j, j < n → wireVerdict decode rawDecode (p.buf.drop j) = some (1, .dropped)) :
    Advance decode rawDecode p (List.replicate n .dropped) (p.dropAndResync n) where
  scan := by
    rw [p.dropAndResync_buf]
    exact (wire decode rawDecode).scan_replicate h
  dropBytes := by
    rw [(p.dropAndResync_counters n).1, List.map_replicate, List.sum_replicate_nat]
    simp [Token.dropBytes]
  failures := by
    rw [(p.dropAndResync_counters n).2, List.map_replicate, List.sum_replicate_nat]
    simp [Token.failures]

theorem quiet_replicate_dropped (n : Nat) : Quiet (List.replicate n (.dropped : Token Obj)) := by
  intro t ht
  rw [List.eq_of_mem_replicate ht]
  exact ⟨rfl, rfl⟩

/-- The sweep ends at the nearer of the two finds: nothing starts before it. -/
theorem nothing_before {buf : List UInt8} {n j : Nat}
    (hmin : ((find [openBrace] buf).toList ++ (find streamFrameMagic buf).toList).min? = some n)
    (hj : j < n) : ¬ [openBrace] <+: buf.drop j ∧ ¬ streamFrameMagic <+: buf.drop j := by
  have hle := (List.min?_eq_some_iff.mp hmin).2
  have hnear {needle : List UInt8}
      (hmem : ∀ i, find needle buf = some i → n ≤ i) : ¬ needle <+: buf.drop j := by
    intro hocc
    cases hfind : find needle buf with
    | none =>
        by_cases hin : j ≤ buf.length
        · exact find_eq_none_iff.mp hfind j hin hocc
        · rw [List.drop_eq_nil_of_le (by omega)] at hocc
          refine find_eq_none_iff.mp hfind buf.length (Nat.le_refl _) ?_
          rw [List.drop_length]
          exact hocc
    | some i =>
        exact (find_eq_some_iff.mp hfind).2.2 j (by have := hmem i hfind; omega) hocc
  constructor
  · exact hnear fun i hi => hle i (List.mem_append_left _ (Option.mem_toList.mpr hi))
  · exact hnear fun i hi => hle i (List.mem_append_right _ (Option.mem_toList.mpr hi))

theorem garbageTurn_spec {p : Parser} (hne : p.buf ≠ [])
    (hbrace : p.buf.head? ≠ some openBrace)
    (hmagic : ¬ (2 ≤ p.buf.length ∧ p.buf.take 2 = streamFrameMagic)) :
    TurnSpec decode rawDecode p (garbageTurn p) := by
  unfold garbageTurn
  simp only
  cases hmin : ((find [openBrace] p.buf).toList ++ (find streamFrameMagic p.buf).toList).min? with
  | some n =>
      have hmem := List.min?_mem hmin
      have hpos : 0 < n := candidate_pos hbrace hmagic hmem
      simp only [if_pos hpos]
      refine ⟨List.replicate n .dropped, quiet_replicate_dropped n, Advance.sweep fun j hj => ?_⟩
      -- what was found stands behind `j`, so `j` is not the last byte
      have hn : n < p.buf.length := by
        rw [List.mem_append, Option.mem_toList, Option.mem_toList] at hmem
        rcases hmem with hfind | hfind
        all_goals
          have hlen := (find_eq_some_iff.mp hfind).2.1.length_le
          rw [List.length_drop] at hlen
          simp only [streamFrameMagic, List.length_cons, List.length_nil] at hlen
          omega
      have hnot := nothing_before hmin hj
      refine wireVerdict_dropped (by omega) hnot.1 hnot.2 fun hlone => ?_
      have hlen := congrArg List.length hlone
      rw [List.length_drop, List.length_singleton] at hlen
      omega
  | none =>
      have hnil := List.append_eq_nil_iff.mp (List.min?_eq_none_iff.mp hmin)
      have hnone (needle : List UInt8) (h : (find needle p.buf).toList = []) {j : Nat}
          (hj : j ≤ p.buf.length) : ¬ needle <+: p.buf.drop j :=
        find_eq_none_iff.mp (Option.toList_eq_nil_iff.mp h) j hj
      have hlen : 0 < p.buf.length := List.length_pos_iff.mpr hne
      simp only
      have hsweep (n : Nat) (hn : n ≤ p.buf.length)
          (hkeep : ∀ j, j < n → p.buf.drop j ≠ [0xA5])
          (hrest : p.buf.drop n = [] ∨ p.buf.drop n = [0xA5]) :
          TurnSpec decode rawDecode p (.stop (p.dropAndResync n)) := by
        refine ⟨List.replicate n .dropped, quiet_replicate_dropped n, ?_, ?_⟩
        · exact Advance.sweep fun j hj => wireVerdict_dropped (by omega)
            (hnone _ hnil.1 (by omega)) (hnone _ hnil.2 (by omega)) (hkeep j hj)
        · rw [p.dropAndResync_buf]
          rcases hrest with h | h <;> rw [h] <;>
            simp [wireVerdict, garbageVerdict, openBrace]
      have hlast (j : Nat) (h : p.buf.drop j = [0xA5]) :
          j = p.buf.length - 1 ∧ p.buf.getLast? = some 0xA5 := by
        have hone := congrArg List.length h
        rw [List.length_drop, List.length_singleton] at hone
        refine ⟨by omega, ?_⟩
        rw [← List.take_append_drop j p.buf, h, List.getLast?_concat]
      by_cases hhalf : p.buf.getLast? = streamFrameMagic.head?
      · rw [if_pos hhalf]
        refine hsweep _ (by omega) (fun j hj h => by have := (hlast j h).1; omega) (Or.inr ?_)
        rw [List.getLast?_eq_getElem?] at hhalf
        rw [List.drop_eq_getElem_cons (by omega), List.drop_eq_nil_of_le (by omega)]
        obtain ⟨hin, heq⟩ := List.getElem?_eq_some_iff.mp hhalf
        rw [heq]
      · rw [if_neg hhalf]
        refine hsweep _ (by omega) (fun j _ h => hhalf (hlast j h).2) (Or.inl ?_)
        exact List.drop_eq_nil_of_le (by omega)

/-- **A turn takes the tokens the scanner takes.** -/
theorem loopBody_spec {p : Parser} (hne : p.buf ≠ []) :
    TurnSpec decode rawDecode p (loopBody decode rawDecode p) := by
  unfold loopBody
  split
  · rename_i hbrace
    exact lineTurn_spec hbrace
  · rename_i hbrace
    split
    · rename_i hmagic
      exact frameTurn_spec hmagic.1 hmagic.2
    · rename_i hmagic
      exact garbageTurn_spec hne hbrace hmagic

/-! ## A call, and a drain -/

def ExtractionSpec (decode : List UInt8 → String) (rawDecode : String → Decoded Obj)
    (p : Parser) : Extraction Obj → Prop
  | .nothing p' => ∃ ts, Quiet ts ∧ Advance decode rawDecode p ts p'
      ∧ wireVerdict decode rawDecode p'.buf = none
  | .item i p' => ∃ ts, Quiet ts ∧ Advance decode rawDecode p (ts ++ [.item i]) p'
  | .raised p' => ∃ ts, Quiet ts ∧ Advance decode rawDecode p (ts ++ [.raised]) p'

/-- Tokens taken before the call only add to those it takes. -/
theorem ExtractionSpec.after {p q : Parser} {ts : List (Token Obj)} {e : Extraction Obj}
    (hquiet : Quiet ts) (hadv : Advance decode rawDecode p ts q)
    (hspec : ExtractionSpec decode rawDecode q e) : ExtractionSpec decode rawDecode p e := by
  cases e with
  | nothing p' =>
      obtain ⟨us, hus, hnext, hwait⟩ := hspec
      exact ⟨ts ++ us, hquiet.append hus, hadv.trans hnext, hwait⟩
  | item i p' =>
      obtain ⟨us, hus, hnext⟩ := hspec
      refine ⟨ts ++ us, hquiet.append hus, ?_⟩
      rw [List.append_assoc]
      exact hadv.trans hnext
  | raised p' =>
      obtain ⟨us, hus, hnext⟩ := hspec
      refine ⟨ts ++ us, hquiet.append hus, ?_⟩
      rw [List.append_assoc]
      exact hadv.trans hnext

/-- The loop turn after turn: induction on the length of the buffer. -/
theorem extractItem_spec (p : Parser) :
    ExtractionSpec decode rawDecode p (extractItem decode rawDecode p) := by
  induction hn : p.buf.length using Nat.strongRecOn generalizing p with
  | ind n ih =>
    subst hn
    by_cases hnil : p.buf = []
    · rw [extractItem_nil decode rawDecode hnil]
      refine ⟨[], Quiet.nil, Advance.idle rfl rfl rfl, ?_⟩
      rw [hnil]
      simp [wireVerdict, garbageVerdict]
    · have hshort := loopBody_shortens decode rawDecode hnil
      have hturn : TurnSpec decode rawDecode p (loopBody decode rawDecode p) :=
        loopBody_spec hnil
      rw [extractItem_eq decode rawDecode hnil]
      cases hbody : loopBody decode rawDecode p with
      -- only here the loop goes on, with a shorter buffer
      | again next =>
          rw [hbody] at hshort hturn
          obtain ⟨ts, hquiet, hadv⟩ := hturn
          exact ExtractionSpec.after hquiet hadv (ih _ hshort next rfl)
      | stop next =>
          rw [hbody] at hturn
          exact hturn
      | item i next =>
          rw [hbody] at hturn
          exact ⟨[], Quiet.nil, hturn⟩
      | raised next =>
          rw [hbody] at hturn
          exact ⟨[], Quiet.nil, hturn⟩

/-- A drain, in tokens: those it took, with no exception among them, and then either the
scanner waits or an exception is the next token. -/
def DrainSpec (decode : List UInt8 → String) (rawDecode : String → Decoded Obj) (p : Parser)
    (drained : List (Item Obj) × Parser × Bool) : Prop :=
  ∃ ts : List (Token Obj), (∀ t ∈ ts, t.isRaised = false) ∧ drained.1 = ts.filterMap Token.item?
    ∧ (drained.2.2 = false → Advance decode rawDecode p ts drained.2.1
        ∧ wireVerdict decode rawDecode drained.2.1.buf = none)
    ∧ (drained.2.2 = true → Advance decode rawDecode p (ts ++ [.raised]) drained.2.1)

theorem Quiet.no_items {ts : List (Token Obj)} (h : Quiet ts) : ts.filterMap Token.item? = [] :=
  List.filterMap_eq_nil_iff.mpr fun t ht => (h t ht).1

theorem drain_spec (p : Parser) : DrainSpec decode rawDecode p (drain decode rawDecode p) := by
  induction hn : p.buf.length using Nat.strongRecOn generalizing p with
  | ind n ih =>
    subst hn
    have hcall : ExtractionSpec decode rawDecode p (extractItem decode rawDecode p) :=
      extractItem_spec p
    rw [drain]
    split
    · rename_i next hext
      rw [hext] at hcall
      obtain ⟨ts, hquiet, hadv, hwait⟩ := hcall
      exact ⟨ts, fun t ht => (hquiet t ht).2, hquiet.no_items.symm,
        fun _ => ⟨hadv, hwait⟩, fun h => absurd h (by simp)⟩
    · rename_i i next hext
      rw [hext] at hcall
      obtain ⟨ts, hquiet, hadv⟩ := hcall
      obtain ⟨us, hcalm, hitems, hdone, hraise⟩ :=
        ih _ (extractItem_item_length decode rawDecode hext) next rfl
      -- quiet tokens, the item, and what the drain of the rest takes
      refine ⟨ts ++ [.item i] ++ us, ?_, ?_, fun h => ?_, fun h => ?_⟩
      · intro t ht
        rcases List.mem_append.mp ht with ht | ht
        · rcases List.mem_append.mp ht with ht | ht
          · exact (hquiet t ht).2
          · rw [List.mem_singleton.mp ht]
            rfl
        · exact hcalm t ht
      · rw [List.filterMap_append, List.filterMap_append, hquiet.no_items, ← hitems]
        rfl
      · exact ⟨hadv.trans (hdone h).1, (hdone h).2⟩
      · rw [List.append_assoc]
        exact hadv.trans (hraise h)
    · rename_i next hext
      rw [hext] at hcall
      obtain ⟨ts, hquiet, hadv⟩ := hcall
      exact ⟨ts, fun t ht => (hquiet t ht).2, hquiet.no_items.symm,
        fun h => absurd h (by simp), fun _ => hadv⟩

/-! ## A reader, read off the tokens -/

/-- The tokens up to the first exception. -/
def calm (ts : List (Token Obj)) : List (Token Obj) := ts.takeWhile fun t => !t.isRaised

theorem calm_eq_self {ts : List (Token Obj)} (h : ∀ t ∈ ts, t.isRaised = false) :
    calm ts = ts := by
  rw [calm, List.takeWhile_eq_self_iff]
  intro t ht
  rw [h t ht]
  rfl

/-- Nothing after an exception counts. -/
theorem calm_raised {ts : List (Token Obj)} (us : List (Token Obj))
    (h : ∀ t ∈ ts, t.isRaised = false) : calm (ts ++ [.raised] ++ us) = ts := by
  rw [calm, List.append_assoc, List.takeWhile_append_of_pos fun t ht => by rw [h t ht]; rfl]
  simp [Token.isRaised]

/-- The reader `r` was opened with the counters of `base` and has been fed bytes that the
scanner reads as `ts`, with `rest` left. -/
structure Reports (decode : List UInt8 → String) (rawDecode : String → Decoded Obj)
    (base : Parser) (ts : List (Token Obj)) (rest : List UInt8) (r : Reader Obj) : Prop where
  waits : wireVerdict decode rawDecode rest = none
  running : r.running = decide (∀ t ∈ ts, t.isRaised = false)
  items : r.items = (calm ts).filterMap Token.item?
  dropBytes : r.parser.streamResyncDropBytes
    = base.streamResyncDropBytes + ((calm ts).map Token.dropBytes).sum
  failures : r.parser.streamChecksumFailures
    = base.streamChecksumFailures + ((calm ts).map Token.failures).sum
  buf : r.parser.buf = if r.running then rest else []

/-- The client before a reader starts: whatever its counters, `buf` has been cleared. -/
def Reader.opened (base : Parser) : Reader Obj := { parser := { base with buf := [] } }

theorem reports_opened (base : Parser) :
    Reports decode rawDecode base [] [] (Reader.opened base : Reader Obj) where
  waits := by simp [wireVerdict, garbageVerdict]
  running := rfl
  items := rfl
  dropBytes := rfl
  failures := rfl
  buf := rfl

/-- A chunk that is drained without an exception. -/
theorem Reports.drained {base p p' : Parser} {ts us : List (Token Obj)} {rest : List UInt8}
    {r : Reader Obj} (h : Reports decode rawDecode base ts rest r) (chunk : List UInt8)
    (hts : ∀ t ∈ ts, t.isRaised = false) (hus : ∀ t ∈ us, t.isRaised = false)
    (hp : p = { r.parser with buf := r.parser.buf ++ chunk })
    (hadv : Advance decode rawDecode p us p') (hwait : wireVerdict decode rawDecode p'.buf = none) :
    Reports decode rawDecode base (ts ++ ((wire decode rawDecode).scan (rest ++ chunk)).1)
      ((wire decode rawDecode).scan (rest ++ chunk)).2
      { r with parser := p', items := r.items ++ us.filterMap Token.item? } := by
  have hrun : r.running = true := by rw [h.running]; exact decide_eq_true hts
  have hall : ∀ t ∈ ts ++ us, t.isRaised = false := fun t ht =>
    (List.mem_append.mp ht).elim (hts t) (hus t)
  -- the drain has read what the scanner reads, down to where it waits
  have hscan : (wire decode rawDecode).scan (rest ++ chunk) = (us, p'.buf) := by
    have hbuf : p.buf = rest ++ chunk := by rw [hp, h.buf, if_pos hrun]
    rw [← hbuf, hadv.scan, (wire decode rawDecode).scan_wait hwait, List.append_nil]
  rw [hscan]
  exact
    { waits := hwait
      running := by
        show r.running = _
        rw [hrun]
        exact (decide_eq_true hall).symm
      items := by
        show r.items ++ us.filterMap Token.item? = _
        rw [h.items, calm_eq_self hts, calm_eq_self hall, List.filterMap_append]
      dropBytes := by
        show p'.streamResyncDropBytes = _
        rw [hadv.dropBytes, hp, h.dropBytes, calm_eq_self hts, calm_eq_self hall,
          List.map_append, List.sum_append, Nat.add_assoc]
      failures := by
        show p'.streamChecksumFailures = _
        rw [hadv.failures, hp, h.failures, calm_eq_self hts, calm_eq_self hall,
          List.map_append, List.sum_append, Nat.add_assoc]
      buf := by
        show p'.buf = if r.running then p'.buf else []
        rw [if_pos hrun] }

/-- A chunk in which an exception comes up. What the scanner would read behind it, the
reader never sees. -/
theorem Reports.failed {base p p' : Parser} {ts us : List (Token Obj)} {rest : List UInt8}
    {r : Reader Obj} (h : Reports decode rawDecode base ts rest r) (chunk : List UInt8)
    (hts : ∀ t ∈ ts, t.isRaised = false) (hus : ∀ t ∈ us, t.isRaised = false)
    (hp : p = { r.parser with buf := r.parser.buf ++ chunk })
    (hadv : Advance decode rawDecode p (us ++ [.raised]) p') :
    Reports decode rawDecode base (ts ++ ((wire decode rawDecode).scan (rest ++ chunk)).1)
      ((wire decode rawDecode).scan (rest ++ chunk)).2
      { parser := { p' with buf := [] }
        items := r.items ++ us.filterMap Token.item?
        running := false } := by
  have hrun : r.running = true := by rw [h.running]; exact decide_eq_true hts
  have hall : ∀ t ∈ ts ++ us, t.isRaised = false := fun t ht =>
    (List.mem_append.mp ht).elim (hts t) (hus t)
  have hwaits := (wire decode rawDecode).verdict_scan_rest (rest ++ chunk)
  -- `vs` is what the scanner reads behind the exception
  obtain ⟨vs, hscan⟩ : ∃ vs, ts ++ ((wire decode rawDecode).scan (rest ++ chunk)).1
      = ts ++ us ++ [.raised] ++ vs := by
    have hbuf : p.buf = rest ++ chunk := by rw [hp, h.buf, if_pos hrun]
    refine ⟨((wire decode rawDecode).scan p'.buf).1, ?_⟩
    rw [← hbuf, hadv.scan]
    simp only [List.append_assoc]
  rw [hscan]
  exact
    { waits := hwaits
      running := by
        refine (decide_eq_false fun hno => ?_).symm
        have := hno .raised (by simp)
        cases this
      items := by
        show r.items ++ us.filterMap Token.item? = _
        rw [h.items, calm_eq_self hts, calm_raised vs hall, List.filterMap_append]
      dropBytes := by
        show p'.streamResyncDropBytes = _
        rw [hadv.dropBytes, hp, h.dropBytes, calm_eq_self hts, calm_raised vs hall]
        simp [Token.dropBytes, Nat.add_assoc]
      failures := by
        show p'.streamChecksumFailures = _
        rw [hadv.failures, hp, h.failures, calm_eq_self hts, calm_raised vs hall]
        simp [Token.failures, Nat.add_assoc]
      buf := rfl }

/-- An exception stays the first one. -/
theorem calm_append_of_raised {ts : List (Token Obj)} (us : List (Token Obj))
    (h : ¬ ∀ t ∈ ts, t.isRaised = false) : calm (ts ++ us) = calm ts := by
  rw [calm, calm, List.takeWhile_append, if_neg ?_]
  intro hlen
  have heq := (List.takeWhile_prefix fun t : Token Obj => !t.isRaised).eq_of_length hlen
  rw [List.takeWhile_eq_self_iff] at heq
  exact h fun t ht => by simpa using heq t ht

/-- A reader whose loop has ended reads nothing more. -/
theorem Reports.ended {base : Parser} {ts : List (Token Obj)} {rest : List UInt8}
    {r : Reader Obj} (h : Reports decode rawDecode base ts rest r) (chunk : List UInt8)
    (hts : ¬ ∀ t ∈ ts, t.isRaised = false) :
    Reports decode rawDecode base (ts ++ ((wire decode rawDecode).scan (rest ++ chunk)).1)
      ((wire decode rawDecode).scan (rest ++ chunk)).2 r where
  waits := (wire decode rawDecode).verdict_scan_rest (rest ++ chunk)
  running := by
    rw [h.running, decide_eq_false hts]
    exact (decide_eq_false fun hno => hts fun t ht => hno t (List.mem_append_left _ ht)).symm
  items := by rw [h.items, calm_append_of_raised _ hts]
  dropBytes := by rw [h.dropBytes, calm_append_of_raised _ hts]
  failures := by rw [h.failures, calm_append_of_raised _ hts]
  buf := by
    rw [h.buf, h.running, decide_eq_false hts]
    rfl

/-- **One chunk.** The reader has then been fed the chunk behind what was left. -/
theorem Reports.read {base : Parser} {ts : List (Token Obj)} {rest : List UInt8}
    {r : Reader Obj} (h : Reports decode rawDecode base ts rest r) (chunk : List UInt8) :
    Reports decode rawDecode base (ts ++ ((wire decode rawDecode).scan (rest ++ chunk)).1)
      ((wire decode rawDecode).scan (rest ++ chunk)).2 (r.read decode rawDecode chunk) := by
  by_cases hts : ∀ t ∈ ts, t.isRaised = false
  · have hrun : r.running = true := by rw [h.running]; exact decide_eq_true hts
    rw [Reader.read, if_pos hrun]
    simp only
    generalize hp : { r.parser with buf := r.parser.buf ++ chunk } = p
    obtain ⟨us, hus, hgot, hdone, hraise⟩ : DrainSpec decode rawDecode p
        (drain decode rawDecode p) := drain_spec p
    rw [hgot]
    cases hend : (drain decode rawDecode p).2.2 with
    | false =>
        obtain ⟨hadv, hwait⟩ := hdone hend
        exact h.drained chunk hts hus hp.symm hadv hwait
    | true => exact h.failed chunk hts hus hp.symm (hraise hend)
  · have hrun : r.running = false := by rw [h.running]; exact decide_eq_false hts
    rw [Reader.read, if_neg (by rw [hrun]; simp)]
    exact h.ended chunk hts

/-- Chunk after chunk. Induction on the chunks. -/
theorem Reports.readAll {base : Parser} {ts : List (Token Obj)} {rest : List UInt8}
    {r : Reader Obj} (h : Reports decode rawDecode base ts rest r) (chunks : List (List UInt8)) :
    Reports decode rawDecode base (ts ++ ((wire decode rawDecode).feedAll rest chunks).1)
      ((wire decode rawDecode).feedAll rest chunks).2 (r.readAll decode rawDecode chunks) := by
  induction chunks generalizing ts rest r with
  | nil =>
      show Reports decode rawDecode base (ts ++ []) rest r
      rw [List.append_nil]
      exact h
  | cons chunk chunks ih =>
      have hlater := ih (h.read chunk)
      rw [List.append_assoc] at hlater
      exact hlater

/-- However the bytes were cut, the reader has been fed their concatenation. -/
theorem reports_readAll (base : Parser) (chunks : List (List UInt8)) :
    Reports decode rawDecode base ((wire decode rawDecode).scan chunks.flatten).1
      ((wire decode rawDecode).scan chunks.flatten).2
      ((Reader.opened base : Reader Obj).readAll decode rawDecode chunks) := by
  have hopen : Reports decode rawDecode base [] [] (Reader.opened base : Reader Obj) :=
    reports_opened base
  have hwaits : (wire decode rawDecode).verdict [] = none := hopen.waits
  have hall := hopen.readAll chunks
  rw [(wire decode rawDecode).feedAll_eq_scan hwaits] at hall
  exact hall

/-! ## The outcome -/

/-- What a client has to show for the bytes it was fed. -/
structure Outcome (Obj : Type) where
  items : List (Item Obj)
  residual : List UInt8
  dropBytes : Nat
  checksumFailures : Nat

def Reader.outcome (r : Reader Obj) : Outcome Obj where
  items := r.items
  residual := r.parser.buf
  dropBytes := r.parser.streamResyncDropBytes
  checksumFailures := r.parser.streamChecksumFailures

/-- The tokens fix the outcome. -/
theorem Reports.outcome_eq {base : Parser} {ts : List (Token Obj)} {rest : List UInt8}
    {r r' : Reader Obj} (h : Reports decode rawDecode base ts rest r)
    (h' : Reports decode rawDecode base ts rest r') : r.outcome = r'.outcome := by
  have hrun : r.running = r'.running := by rw [h.running, h'.running]
  rw [Reader.outcome, Reader.outcome, h.items, h'.items, h.buf, h'.buf, hrun, h.dropBytes,
    h'.dropBytes, h.failures, h'.failures]

end Wire

/-- **Chunking independence.** On any bytes and any cut of them into chunks, and whatever
the two decoders do, the items, the residual buffer and both counters come out as if all had
arrived at once. -/
theorem readAll_outcome_eq {Obj : Type} (decode : List UInt8 → String)
    (rawDecode : String → Decoded Obj) (base : Parser) (chunks : List (List UInt8)) :
    ((Reader.opened base).readAll decode rawDecode chunks).outcome
      = ((Reader.opened base).read decode rawDecode chunks.flatten).outcome := by
  have hcut : Reports decode rawDecode base _ _
      ((Reader.opened base).readAll decode rawDecode chunks) := reports_readAll base chunks
  have hwhole : Reports decode rawDecode base _ _
      ((Reader.opened base).readAll decode rawDecode [chunks.flatten]) :=
    reports_readAll base [chunks.flatten]
  rw [List.flatten_singleton] at hwhole
  exact hcut.outcome_eq hwhole

end NexusN3.Gateway
