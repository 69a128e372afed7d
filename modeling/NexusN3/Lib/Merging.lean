import NexusN3.Lib.Dict
import NexusN3.Lib.Jobs
import Mathlib.Data.List.Infix

/-!
# Reports merged by key

Reports come one after another, each under a key, and are merged into a dictionary: a report
is combined with what stands under its key. The dictionary has the keys in the order in which
they first came up (`keys_merge`), and under a key what the reports about it alone combine to
(`get?_merge`), whatever came between them.
-/

namespace NexusN3.Lib.Merging

open Jobs

/-! ## Duplicates erased, the first kept -/

section EraseDups

variable {α : Type} [DecidableEq α]

/-- Induction on the length: what is filtered is shorter. -/
theorem nodup_eraseDups (l : List α) : l.eraseDups.Nodup := by
  induction hn : l.length using Nat.strongRecOn generalizing l with
  | ind n ih =>
    subst hn
    cases l with
    | nil => exact List.nodup_nil
    | cons a l =>
        rw [List.eraseDups_cons, List.nodup_cons]
        constructor
        · intro hmem
          have hin := (List.mem_filter.mp (List.mem_eraseDups.mp hmem)).2
          simp at hin
        · refine ih _ ?_ _ rfl
          have hle := List.length_filter_le (fun b => !b == a) l
          rw [List.length_cons]
          omega

theorem eraseDups_eq_self {l : List α} (h : l.Nodup) : l.eraseDups = l := by
  induction l with
  | nil => rfl
  | cons a l ih =>
      obtain ⟨hnotin, hl⟩ := List.nodup_cons.mp h
      have hkeep : l.filter (fun b => !b == a) = l := by
        rw [List.filter_eq_self]
        intro b hb
        have hne : b ≠ a := fun heq => hnotin (heq ▸ hb)
        simp [hne]
      rw [List.eraseDups_cons, hkeep, ih hl]

theorem eraseDups_append_of_mem {a : α} {l rest : List α} (h : a ∈ l) :
    (l ++ a :: rest).eraseDups = (l ++ rest).eraseDups := by
  have hremoved : (a :: rest).removeAll l = rest.removeAll l := by
    simp [List.removeAll, h]
  rw [List.eraseDups_append, List.eraseDups_append, hremoved]

/-- The later list is the union if and only if it repeats nothing and begins with what the
earlier one adds. -/
theorem eraseDups_append_eq_right_iff {u v : List α} :
    (u ++ v).eraseDups = v ↔ v.Nodup ∧ u.eraseDups <+: v := by
  constructor
  · intro h
    constructor
    · rw [← h]
      exact nodup_eraseDups _
    · rw [← h, List.eraseDups_append]
      exact List.prefix_append _ _
  · rintro ⟨hnodup, w, rfl⟩
    have hdisjoint := List.disjoint_of_nodup_append hnodup
    have hw : (u.eraseDups ++ w).removeAll u = w := by
      rw [List.removeAll, List.filter_append]
      have hfront : u.eraseDups.filter (fun x => !u.elem x) = [] := by
        rw [List.filter_eq_nil_iff]
        intro a ha
        simpa using ha
      have hback : w.filter (fun x => !u.elem x) = w := by
        rw [List.filter_eq_self]
        intro a ha
        have hnotin : a ∉ u := fun hin => hdisjoint (List.mem_eraseDups.mpr hin) ha
        simpa using hnotin
      rw [hfront, hback]
      rfl
    rw [List.eraseDups_append, hw, eraseDups_eq_self (List.nodup_append.mp hnodup).2.1]

end EraseDups

/-! ## Merging -/

section Merge

variable {κ ν α : Type} [DecidableEq κ] (combine : Option ν → α → ν)

def merge (d : Dict κ ν) (reports : List (κ × α)) : Dict κ ν :=
  reports.foldl (fun d r => d.set r.1 (combine (d.get? r.1) r.2)) d

/-- What the reports about one key combine to, behind `o`. -/
def combineAll (o : Option ν) (reports : List α) : Option ν :=
  reports.foldl (fun o a => some (combine o a)) o

theorem keys_merge_of_nodup (d : Dict κ ν) (reports : List (κ × α)) :
    (merge combine d reports).keys = (d.keys ++ reports.map Prod.fst).eraseDups := by
  induction reports generalizing d with
  | nil =>
      rw [List.map_nil, List.append_nil]
      exact (eraseDups_eq_self d.nodup).symm
  | cons r reports ih =>
      show (merge combine (d.set r.1 _) reports).keys = _
      rw [ih, List.map_cons]
      by_cases hin : r.1 ∈ d.keys
      · rw [d.keys_set_of_mem _ hin, eraseDups_append_of_mem hin]
      · rw [d.keys_set_of_notMem _ hin, List.append_assoc]
        rfl

/-- The keys, in the order in which they first came up. -/
theorem keys_merge (reports : List (κ × α)) :
    (merge combine Dict.empty reports).keys = (reports.map Prod.fst).eraseDups :=
  keys_merge_of_nodup combine Dict.empty reports

/-- Under a key stands what the reports about it combine to. -/
theorem get?_merge (d : Dict κ ν) (reports : List (κ × α)) (k : κ) :
    (merge combine d reports).get? k = combineAll combine (d.get? k) (about k reports) := by
  induction reports generalizing d with
  | nil => rfl
  | cons r reports ih =>
      show (merge combine (d.set r.1 _) reports).get? k = _
      rw [ih, about_cons, d.get?_set]
      by_cases hkey : r.1 = k
      · subst hkey
        rw [if_pos rfl, if_pos rfl]
        rfl
      · rw [if_neg hkey, if_neg hkey]

end Merge

end NexusN3.Lib.Merging
