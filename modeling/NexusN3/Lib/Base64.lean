import Mathlib.Data.List.Basic

/-!
# Base64 with the URL alphabet

Bytes as digits of six bits, without padding.

* **`encode`** — three bytes are four digits; one or two that are left are two or three.
* **`decode`** — the bytes of a list of digits; the bits that no byte takes are not looked at.
* **`decode_encode`** — what was encoded is read back.
* **`encodeText`**, **`decodeText`** — the same for a text and its UTF-8 bytes.
-/

namespace NexusN3.Lib.Base64

def alphabet : List Char :=
  "ABCDEFGHIJKLMNOPQRSTUVWXYZabcdefghijklmnopqrstuvwxyz0123456789-_".toList

def digit (n : Nat) : Char := alphabet.getD n 'A'

def value (c : Char) : Option Nat := alphabet.findIdx? (· = c)

/-- Every value below 64 has a digit of its own. -/
theorem value_digit {n : Nat} (h : n < 64) : value (digit n) = some n := by
  have hall : ∀ m : Fin 64, value (digit m) = some m.val := by decide +kernel
  exact hall ⟨n, h⟩

theorem digit_mem_alphabet {n : Nat} (h : n < 64) : digit n ∈ alphabet := by
  have hall : ∀ m : Fin 64, digit m ∈ alphabet := by decide +kernel
  exact hall ⟨n, h⟩

def encode : List UInt8 → List Char
  | a :: b :: c :: rest =>
    digit (a.toNat / 4) :: digit (a.toNat % 4 * 16 + b.toNat / 16)
      :: digit (b.toNat % 16 * 4 + c.toNat / 64) :: digit (c.toNat % 64) :: encode rest
  | [a, b] =>
    [digit (a.toNat / 4), digit (a.toNat % 4 * 16 + b.toNat / 16), digit (b.toNat % 16 * 4)]
  | [a] => [digit (a.toNat / 4), digit (a.toNat % 4 * 16)]
  | [] => []

def firstByte (w x : Nat) : UInt8 := UInt8.ofNat (w * 4 + x / 16)

def secondByte (x y : Nat) : UInt8 := UInt8.ofNat (x % 16 * 16 + y / 4)

def thirdByte (y z : Nat) : UInt8 := UInt8.ofNat (y % 4 * 64 + z)

def decode : List Char → Option (List UInt8)
  | w :: x :: y :: z :: rest => do
    let w ← value w
    let x ← value x
    let y ← value y
    let z ← value z
    let bytes ← decode rest
    return firstByte w x :: secondByte x y :: thirdByte y z :: bytes
  | [w, x, y] => do
    let w ← value w
    let x ← value x
    let y ← value y
    return [firstByte w x, secondByte x y]
  | [w, x] => do
    let w ← value w
    let x ← value x
    return [firstByte w x]
  | [_] => none
  | [] => some []

section Bytes

variable (a b c : UInt8)

theorem firstByte_eq (low : Nat) (h : low < 16) :
    firstByte (a.toNat / 4) (a.toNat % 4 * 16 + low) = a := by
  have hsum : a.toNat / 4 * 4 + (a.toNat % 4 * 16 + low) / 16 = a.toNat := by omega
  rw [firstByte, hsum, UInt8.ofNat_toNat]

theorem secondByte_eq (high low : Nat) (h : low < 4) :
    secondByte (high * 16 + b.toNat / 16) (b.toNat % 16 * 4 + low) = b := by
  have hb := b.toNat_lt
  have hsum : (high * 16 + b.toNat / 16) % 16 * 16 + (b.toNat % 16 * 4 + low) / 4 = b.toNat := by
    omega
  rw [secondByte, hsum, UInt8.ofNat_toNat]

theorem thirdByte_eq (high : Nat) : thirdByte (high * 4 + c.toNat / 64) (c.toNat % 64) = c := by
  have hc := c.toNat_lt
  have hsum : (high * 4 + c.toNat / 64) % 4 * 64 + c.toNat % 64 = c.toNat := by omega
  rw [thirdByte, hsum, UInt8.ofNat_toNat]

end Bytes

theorem decode_encode (bytes : List UInt8) : decode (encode bytes) = some bytes := by
  induction bytes using encode.induct with
  | case1 a b c rest ih =>
    have ha := a.toNat_lt
    have hb := b.toNat_lt
    have hc := c.toNat_lt
    rw [encode, decode, value_digit (by omega), value_digit (by omega), value_digit (by omega),
      value_digit (by omega), ih]
    simp only [Option.bind_eq_bind, Option.bind_some, Option.pure_def]
    rw [firstByte_eq a _ (by omega), secondByte_eq b _ _ (by omega), thirdByte_eq]
  | case2 a b =>
    have ha := a.toNat_lt
    have hb := b.toNat_lt
    rw [encode, decode, value_digit (by omega), value_digit (by omega), value_digit (by omega)]
    simp only [Option.bind_eq_bind, Option.bind_some, Option.pure_def]
    rw [firstByte_eq a _ (by omega)]
    exact congrArg (fun x => some [a, x]) (secondByte_eq b _ 0 (by omega))
  | case3 a =>
    have ha := a.toNat_lt
    rw [encode, decode, value_digit (by omega), value_digit (by omega)]
    simp only [Option.bind_eq_bind, Option.bind_some, Option.pure_def]
    exact congrArg (fun x => some [x]) (firstByte_eq a 0 (by omega))
  | case4 => rfl

theorem mem_alphabet_of_mem_encode {c : Char} {bytes : List UInt8} (h : c ∈ encode bytes) :
    c ∈ alphabet := by
  induction bytes using encode.induct with
  | case1 a b d rest ih =>
    have ha := a.toNat_lt
    have hb := b.toNat_lt
    have hd := d.toNat_lt
    simp only [encode, List.mem_cons] at h
    rcases h with rfl | rfl | rfl | rfl | h
    · exact digit_mem_alphabet (by omega)
    · exact digit_mem_alphabet (by omega)
    · exact digit_mem_alphabet (by omega)
    · exact digit_mem_alphabet (by omega)
    · exact ih h
  | case2 a b =>
    have ha := a.toNat_lt
    have hb := b.toNat_lt
    simp only [encode, List.mem_cons, List.not_mem_nil, or_false] at h
    rcases h with rfl | rfl | rfl <;> exact digit_mem_alphabet (by omega)
  | case3 a =>
    have ha := a.toNat_lt
    simp only [encode, List.mem_cons, List.not_mem_nil, or_false] at h
    rcases h with rfl | rfl <;> exact digit_mem_alphabet (by omega)
  | case4 => cases h

/-! ## Texts -/

/-- `base64.urlsafe_b64encode(text.encode("utf-8")).decode("ascii").rstrip("=")`. -/
def encodeText (text : String) : String := String.ofList (encode text.toByteArray.data.toList)

/-- `base64.urlsafe_b64decode(code + padding).decode("utf-8")`; `none` is the `ValueError`. -/
def decodeText (code : String) : Option String :=
  (decode code.toList).bind fun bytes => String.fromUTF8? ⟨bytes.toArray⟩

theorem fromUTF8?_toByteArray (text : String) : String.fromUTF8? text.toByteArray = some text := by
  rw [String.fromUTF8?, dif_pos text.isValidUTF8]
  rfl

theorem decodeText_encodeText (text : String) : decodeText (encodeText text) = some text := by
  rw [decodeText, encodeText, String.toList_ofList, decode_encode, Option.bind_some,
    Array.toArray_toList]
  exact fromUTF8?_toByteArray text

theorem encodeText_inj {text text' : String} :
    encodeText text = encodeText text' ↔ text = text' := by
  refine ⟨fun h => ?_, fun h => by rw [h]⟩
  have hdecode := decodeText_encodeText text
  rw [h, decodeText_encodeText] at hdecode
  exact (Option.some.inj hdecode).symm

end NexusN3.Lib.Base64
