import Mathlib.Data.List.Lex
import Mathlib.Data.List.GetD
import Mathlib.Order.Lattice

/-!
# Comparing sequences

Two comparisons of sequences, and where they part.

* **`ElementOrder.seqGte`** — what differs first decides, but two elements may have no order,
  and then the comparison fails. It does not fail exactly when the two are `Comparable`, and is
  then the lexicographic one (`seqGte_eq`).
* **`NumericGte`** — numbers compared place by place, a missing place being zero. It is the
  lexicographic comparison unless the two differ only by zeros at the end
  (`le_iff_numericGte`).
-/

namespace NexusN3.Lib.Compare

/-! ## Lexicographic order -/

section Lex

variable {β : Type} [LinearOrder β]

theorem nil_le (bs : List β) : [] ≤ bs := by
  cases bs with
  | nil => exact le_refl _
  | cons b bs => exact le_of_lt (List.nil_lt_cons b bs)

theorem not_cons_le_nil (b : β) (bs : List β) : ¬ b :: bs ≤ [] :=
  not_le.mpr (List.nil_lt_cons b bs)

theorem cons_le_cons_iff {a b : β} {as bs : List β} :
    a :: as ≤ b :: bs ↔ a < b ∨ a = b ∧ as ≤ bs := by
  rw [← not_lt, List.cons_lt_cons_iff, not_or, not_and, not_lt]
  constructor
  · rintro ⟨hle, hlater⟩
    rcases hle.lt_or_eq with hlt | rfl
    · exact Or.inl hlt
    · exact Or.inr ⟨rfl, not_lt.mp (hlater rfl)⟩
  · rintro (hlt | ⟨rfl, hle⟩)
    · exact ⟨hlt.le, fun heq => absurd heq hlt.ne'⟩
    · exact ⟨le_refl _, fun _ => not_lt.mpr hle⟩

end Lex

/-! ## Elements without an order -/

/-- `gte` decides `≥` of two elements, or fails. Where it decides, it is the order of the keys. -/
structure ElementOrder (α β ε : Type) [LinearOrder β] where
  gte : α → α → Except ε Bool
  alike : α → α → Prop
  key : α → β
  key_injective : Function.Injective key
  gte_alike : ∀ {a b}, alike a b → gte a b = .ok (decide (key b ≤ key a))
  gte_unlike : ∀ {a b}, ¬ alike a b → ∃ e, gte a b = .error e

namespace ElementOrder

variable {α β ε : Type} [DecidableEq α] [LinearOrder β] (o : ElementOrder α β ε)

/-- `≥` of two sequences: what differs first decides. -/
def seqGte : List α → List α → Except ε Bool
  | _, [] => .ok true
  | [], _ :: _ => .ok false
  | a :: as, b :: bs => if a = b then seqGte as bs else o.gte a b

/-- What differs first has an order. -/
def Comparable : List α → List α → Prop
  | a :: as, b :: bs => if a = b then Comparable as bs else o.alike a b
  | _, _ => True

theorem seqGte_eq {as bs : List α} (h : o.Comparable as bs) :
    o.seqGte as bs = .ok (decide (bs.map o.key ≤ as.map o.key)) := by
  induction as generalizing bs with
  | nil =>
      cases bs with
      | nil =>
          rw [seqGte, decide_eq_true]
          exact le_refl _
      | cons b bs =>
          rw [seqGte, decide_eq_false]
          exact not_cons_le_nil _ _
  | cons a as ih =>
      cases bs with
      | nil =>
          rw [seqGte, decide_eq_true]
          exact nil_le _
      | cons b bs =>
          rw [Comparable] at h
          simp only [seqGte, List.map_cons, cons_le_cons_iff]
          by_cases hab : a = b
          · rw [if_pos hab] at h ⊢
            rw [ih h, hab]
            simp
          · rw [if_neg hab] at h ⊢
            have hkey : o.key b ≠ o.key a := fun heq => hab (o.key_injective heq).symm
            rw [o.gte_alike h]
            simp [hkey, le_iff_lt_or_eq]

/-- The comparison fails where the first difference has no order, and only there. -/
theorem seqGte_ok_iff {as bs : List α} :
    (∃ r, o.seqGte as bs = .ok r) ↔ o.Comparable as bs := by
  constructor
  · intro h
    induction as generalizing bs with
    | nil => cases bs <;> trivial
    | cons a as ih =>
        cases bs with
        | nil => trivial
        | cons b bs =>
            rw [Comparable]
            by_cases hab : a = b
            · simp only [seqGte, if_pos hab] at h ⊢
              exact ih h
            · simp only [seqGte, if_neg hab] at h ⊢
              by_contra hunlike
              obtain ⟨e, he⟩ := o.gte_unlike hunlike
              obtain ⟨r, hr⟩ := h
              rw [he] at hr
              cases hr
  · exact fun h => ⟨_, o.seqGte_eq h⟩

/-- A sequence is not below what it begins with. -/
theorem seqGte_append (as more : List α) : o.seqGte (as ++ more) as = .ok true := by
  induction as with
  | nil => cases more <;> rfl
  | cons a as ih =>
      show (if a = a then o.seqGte (as ++ more) as else _) = _
      rw [if_pos rfl]
      exact ih

/-- Among comparable sequences, `≥` is transitive. -/
theorem seqGte_trans {as bs cs : List α} (hab : o.Comparable as bs) (hbc : o.Comparable bs cs)
    (hac : o.Comparable as cs) (h : o.seqGte as bs = .ok true) (h' : o.seqGte bs cs = .ok true) :
    o.seqGte as cs = .ok true := by
  rw [o.seqGte_eq hab, Except.ok.injEq, decide_eq_true_iff] at h
  rw [o.seqGte_eq hbc, Except.ok.injEq, decide_eq_true_iff] at h'
  rw [o.seqGte_eq hac, Except.ok.injEq, decide_eq_true_iff]
  exact le_trans h' h

theorem seqGte_total {as bs : List α} (hab : o.Comparable as bs) (hba : o.Comparable bs as) :
    o.seqGte as bs = .ok true ∨ o.seqGte bs as = .ok true := by
  rw [o.seqGte_eq hab, o.seqGte_eq hba, Except.ok.injEq, Except.ok.injEq, decide_eq_true_iff,
    decide_eq_true_iff]
  exact le_total _ _

end ElementOrder

/-! ## Numbers place by place -/

/-- All places are equal, or the first that differ decide. A missing place is zero. -/
def NumericGte (as bs : List Nat) : Prop :=
  (∀ i, as.getD i 0 = bs.getD i 0)
    ∨ ∃ i, (∀ j < i, as.getD j 0 = bs.getD j 0) ∧ bs.getD i 0 < as.getD i 0

theorem numericGte_cons {a b : Nat} {as bs : List Nat} :
    NumericGte (a :: as) (b :: bs) ↔ b < a ∨ b = a ∧ NumericGte as bs := by
  constructor
  · rintro (hall | ⟨i, hbefore, hlt⟩)
    · exact Or.inr ⟨(hall 0).symm, Or.inl fun i => hall (i + 1)⟩
    · cases i with
      | zero => exact Or.inl hlt
      | succ i =>
          refine Or.inr ⟨(hbefore 0 (by omega)).symm, Or.inr ⟨i, fun j hj => ?_, hlt⟩⟩
          exact hbefore (j + 1) (by omega)
  · rintro (hlt | ⟨rfl, hall | ⟨i, hbefore, hlt⟩⟩)
    · exact Or.inr ⟨0, fun j hj => absurd hj (by omega), hlt⟩
    · refine Or.inl fun i => ?_
      cases i with
      | zero => rfl
      | succ i => exact hall i
    · refine Or.inr ⟨i + 1, fun j hj => ?_, hlt⟩
      cases j with
      | zero => rfl
      | succ j => exact hbefore j (by omega)

theorem numericGte_nil_right (as : List Nat) : NumericGte as [] := by
  induction as with
  | nil => exact Or.inl fun _ => rfl
  | cons a as ih =>
      -- a missing place is a zero
      rcases Nat.eq_zero_or_pos a with rfl | hpos
      · rcases ih with hall | ⟨i, hbefore, hlt⟩
        · refine Or.inl fun i => ?_
          cases i with
          | zero => rfl
          | succ i => exact hall i
        · refine Or.inr ⟨i + 1, fun j hj => ?_, hlt⟩
          cases j with
          | zero => rfl
          | succ j => exact hbefore j (by omega)
      · exact Or.inr ⟨0, fun j hj => absurd hj (by omega), hpos⟩

theorem numericGte_nil_left {bs : List Nat} :
    NumericGte [] bs ↔ bs = List.replicate bs.length 0 := by
  rw [List.eq_replicate_iff]
  constructor
  · rintro (hall | ⟨i, -, hlt⟩)
    · refine ⟨rfl, fun b hb => ?_⟩
      obtain ⟨i, hi, rfl⟩ := List.mem_iff_getElem.mp hb
      have hzero := hall i
      rw [List.getD_nil, List.getD_eq_getElem _ _ hi] at hzero
      exact hzero.symm
    · rw [List.getD_nil] at hlt
      omega
  · rintro ⟨-, hzero⟩
    refine Or.inl fun i => ?_
    rw [List.getD_nil]
    by_cases hi : i < bs.length
    · rw [List.getD_eq_getElem _ _ hi]
      exact (hzero _ (List.getElem_mem hi)).symm
    · rw [List.getD_eq_default _ _ (by omega)]

/-- **Where the two comparisons part**: at zeros behind the end of the left sequence. -/
theorem le_iff_numericGte {as bs : List Nat} :
    (bs ≤ as ↔ NumericGte as bs) ↔ ∀ k, bs ≠ as ++ List.replicate (k + 1) 0 := by
  induction as generalizing bs with
  | nil =>
      cases bs with
      | nil =>
          exact ⟨fun _ _ => nofun, fun _ => ⟨fun _ => numericGte_nil_right _, fun _ => nil_le _⟩⟩
      | cons b bs =>
          rw [iff_false_left (not_cons_le_nil b bs), numericGte_nil_left]
          constructor
          · intro hne k heq
            rw [List.nil_append] at heq
            apply hne
            rw [heq, List.length_replicate]
          · intro hne heq
            exact hne bs.length heq
  | cons a as ih =>
      cases bs with
      | nil =>
          exact ⟨fun _ _ => nofun, fun _ => ⟨fun _ => numericGte_nil_right _, fun _ => nil_le _⟩⟩
      | cons b bs =>
          rw [cons_le_cons_iff, numericGte_cons]
          by_cases hba : b = a
          · simp only [hba, lt_irrefl, false_or, true_and, List.cons_append, ne_eq, List.cons.injEq]
            exact ih
          · simp only [hba, false_and, or_false, List.cons_append, ne_eq, List.cons.injEq,
              not_false_eq_true, implies_true]

end NexusN3.Lib.Compare
