import Mathlib.Data.List.Infix
import Mathlib.Data.List.DropRight

/-!
# Texts and byte strings

The two string operations of the modelled language that the development needs:

* **`strip`** — the text without the white space at its two ends.
* **`find`** — the first place where one list occurs in another. It is the place of the
  first occurrence (`find_eq_some_iff`), and `none` means there is none (`find_eq_none_iff`).
  What is appended later does not move it (`find_append`).
-/

namespace NexusN3.Lib

universe u

/-! ## White space -/

/-- The characters `str.strip` removes. -/
def isSpace (c : Char) : Bool :=
  let n := c.toNat
  decide (9 ≤ n ∧ n ≤ 13 ∨ 28 ≤ n ∧ n ≤ 32 ∨ n = 0x85 ∨ n = 0xA0 ∨ n = 0x1680
    ∨ 0x2000 ≤ n ∧ n ≤ 0x200A ∨ n = 0x2028 ∨ n = 0x2029 ∨ n = 0x202F ∨ n = 0x205F ∨ n = 0x3000)

def strip (s : String) : String :=
  String.ofList ((s.toList.dropWhile isSpace).reverse.dropWhile isSpace).reverse

theorem dropWhile_eq_self_of_head? {α : Type u} {p : α → Bool} {a : α} {l : List α}
    (hhead : l.head? = some a) (ha : p a = false) : l.dropWhile p = l := by
  cases l with
  | nil => simp at hhead
  | cons b l =>
      obtain rfl : b = a := by simpa using hhead
      simp [ha]

/-- A text whose two ends are not white space is left alone. -/
theorem strip_eq_self {s : String} {a b : Char} (hhead : s.toList.head? = some a)
    (ha : isSpace a = false) (hlast : s.toList.getLast? = some b) (hb : isSpace b = false) :
    strip s = s := by
  have hfront : s.toList.dropWhile isSpace = s.toList := dropWhile_eq_self_of_head? hhead ha
  have hback : s.toList.reverse.dropWhile isSpace = s.toList.reverse :=
    dropWhile_eq_self_of_head? (by rw [List.head?_reverse]; exact hlast) hb
  rw [strip, hfront, hback, List.reverse_reverse, String.ofList_toList]

/-- What is trimmed at both ends is trimmed. -/
theorem dropWhile_rdropWhile_dropWhile {α : Type u} (p : α → Bool) (l : List α) :
    ((l.dropWhile p).rdropWhile p).dropWhile p = (l.dropWhile p).rdropWhile p := by
  rw [List.dropWhile_eq_self_iff]
  intro hlen
  have hsub : (l.dropWhile p).rdropWhile p <+: l.dropWhile p := List.rdropWhile_prefix p _
  rw [hsub.getElem hlen]
  exact List.dropWhile_get_zero_not p l (hlen.trans_le hsub.length_le)

/-- Stripping twice is stripping once. -/
theorem strip_strip (s : String) : strip (strip s) = strip s := by
  change String.ofList (List.rdropWhile isSpace (List.dropWhile isSpace
    (String.ofList ((s.toList.dropWhile isSpace).rdropWhile isSpace)).toList)) =
      String.ofList ((s.toList.dropWhile isSpace).rdropWhile isSpace)
  rw [String.toList_ofList, dropWhile_rdropWhile_dropWhile, List.rdropWhile_idempotent]

/-! ## The first occurrence -/

section Find

variable {α : Type u} [DecidableEq α]

/-- `bytes.find`: where `needle` occurs first. -/
def find (needle : List α) : List α → Option Nat
  | [] => if needle = [] then some 0 else none
  | b :: bs => if needle <+: b :: bs then some 0 else (find needle bs).map (· + 1)

/-- The first occurrence: `needle` stands at `i`, and at no place before it. -/
theorem find_eq_some_iff {needle buf : List α} {i : Nat} :
    find needle buf = some i
      ↔ i ≤ buf.length ∧ needle <+: buf.drop i ∧ ∀ j, j < i → ¬ needle <+: buf.drop j := by
  induction buf generalizing i with
  | nil =>
      by_cases hn : needle = []
      · simp only [find, hn, if_true, Option.some.injEq, List.length_nil, Nat.le_zero,
          List.drop_nil, List.nil_prefix, not_true_eq_false, true_and]
        constructor
        · rintro rfl
          exact ⟨rfl, fun j hj => absurd hj (by omega)⟩
        · rintro ⟨hi, -⟩
          exact hi.symm
      · simp [find, hn]
  | cons b bs ih =>
      by_cases hn : needle <+: b :: bs
      · simp only [find, hn, if_true, Option.some.injEq]
        constructor
        · rintro rfl
          exact ⟨by omega, hn, fun j hj => absurd hj (by omega)⟩
        · rintro ⟨-, -, hfirst⟩
          by_contra hi
          -- it stands at the front already, so no later place is the first
          exact hfirst 0 (by omega) hn
      · simp only [find, hn, if_false, Option.map_eq_some_iff]
        constructor
        · rintro ⟨k, hk, rfl⟩
          obtain ⟨hle, hat, hbefore⟩ := ih.mp hk
          refine ⟨by simp only [List.length_cons]; omega, hat, fun j hj => ?_⟩
          cases j with
          | zero => exact hn
          | succ j => exact hbefore j (by omega)
        · rintro ⟨hle, hat, hbefore⟩
          cases i with
          | zero => exact absurd hat hn
          | succ k =>
              refine ⟨k, ih.mpr ⟨?_, hat, fun j hj => hbefore (j + 1) (by omega)⟩, rfl⟩
              simp only [List.length_cons] at hle
              omega

/-- Nothing found: `needle` stands nowhere. -/
theorem find_eq_none_iff {needle buf : List α} :
    find needle buf = none ↔ ∀ i, i ≤ buf.length → ¬ needle <+: buf.drop i := by
  induction buf with
  | nil =>
      by_cases hn : needle = []
      · simp [find, hn]
      · simp [find, hn]
  | cons b bs ih =>
      by_cases hn : needle <+: b :: bs
      · simp only [find, hn, if_true, reduceCtorEq, false_iff, not_forall, not_not]
        exact ⟨0, by omega, hn⟩
      · simp only [find, hn, if_false, Option.map_eq_none_iff, ih]
        constructor
        · intro h i hi
          cases i with
          | zero => exact hn
          | succ i => exact h i (by simp only [List.length_cons] at hi; omega)
        · intro h i hi
          exact h (i + 1) (by simp only [List.length_cons]; omega)

/-- An occurrence stays the first one when more is appended. -/
theorem find_append {needle buf : List α} {i : Nat} (more : List α)
    (h : find needle buf = some i) : find needle (buf ++ more) = some i := by
  obtain ⟨hle, hat, hbefore⟩ := find_eq_some_iff.mp h
  have hlen : needle.length ≤ buf.length - i := by
    have := hat.length_le
    rwa [List.length_drop] at this
  refine find_eq_some_iff.mpr ⟨?_, ?_, fun j hj hocc => hbefore j hj ?_⟩
  · rw [List.length_append]
    omega
  · rw [List.drop_append_of_le_length hle]
    exact hat.trans (List.prefix_append _ _)
  · -- before `i` there is room for the needle inside `buf`
    rw [List.drop_append_of_le_length (by omega)] at hocc
    refine List.prefix_of_prefix_length_le hocc (List.prefix_append _ _) ?_
    rw [List.length_drop]
    omega

end Find

theorem drop_take_append {α : Type u} {buf : List α} (more : List α) {a b : Nat}
    (h : a + b ≤ buf.length) : ((buf ++ more).drop a).take b = (buf.drop a).take b := by
  rw [List.drop_append_of_le_length (by omega), List.take_append_of_le_length]
  rw [List.length_drop]
  omega

/-- One element occurs at `i` when it is the element there. -/
theorem singleton_prefix_drop {α : Type u} {a : α} {buf : List α} {i : Nat} :
    [a] <+: buf.drop i ↔ buf[i]? = some a := by
  rw [← List.head?_drop]
  cases buf.drop i with
  | nil => simp
  | cons b bs => simp [List.cons_prefix_cons, eq_comm]

end NexusN3.Lib
