import Mathlib.Data.List.Induction
import Mathlib.Data.List.Nodup

/-!
# Transcripts

What a run wrote down, entry after entry, where what may be said of an entry depends on those before
it.

* **`Justified`** — each entry stands in its relation to the entries before it.
* **`justified_snoc`** — the step from one entry to the next.
* **`Justified.nodup`** — entries that never repeat a key have distinct keys.
* **`Standing`** — something has been opened and not been closed since.
* **`At`**, **`places`** — what holds of the entry at a place.
-/

namespace NexusN3.Lib

universe u v

variable {ε : Type u}

def Justified (P : List ε → ε → Prop) (log : List ε) : Prop :=
  ∀ before e after, log = before ++ e :: after → P before e

theorem justified_nil (P : List ε → ε → Prop) : Justified P [] := by
  intro before e after h
  simp at h

theorem justified_snoc {P : List ε → ε → Prop} {log : List ε} {e : ε} :
    Justified P (log ++ [e]) ↔ Justified P log ∧ P log e := by
  constructor
  · intro h
    exact ⟨fun before x after hlog => h before x (after ++ [e]) (by simp [hlog]), h log e [] rfl⟩
  · rintro ⟨hlog, hlast⟩ before x after heq
    rcases List.eq_nil_or_concat after with rfl | ⟨after', y, rfl⟩
    · obtain ⟨rfl, hsingle⟩ := List.append_inj' heq rfl
      obtain rfl := List.singleton_inj.mp hsingle
      exact hlast
    · rw [List.concat_eq_append, ← List.cons_append, ← List.append_assoc] at heq
      exact hlog before x after' (List.append_inj' heq rfl).1

theorem Justified.mono {P Q : List ε → ε → Prop} {log : List ε} (h : Justified P log)
    (hPQ : ∀ before e, P before e → Q before e) : Justified Q log :=
  fun before e after heq => hPQ before e (h before e after heq)

theorem justified_congr {P Q : List ε → ε → Prop} {log : List ε}
    (h : ∀ before e after, log = before ++ e :: after → (P before e ↔ Q before e)) :
    Justified P log ↔ Justified Q log := by
  constructor
  · exact fun hP before e after heq => (h before e after heq).mp (hP before e after heq)
  · exact fun hQ before e after heq => (h before e after heq).mpr (hQ before e after heq)

theorem Justified.forall_mem {P : ε → Prop} {log : List ε} (h : Justified (fun _ => P) log) :
    ∀ e ∈ log, P e := by
  intro e he
  obtain ⟨before, after, heq⟩ := List.append_of_mem he
  exact h before e after heq

theorem Justified.nodup {κ : Type v} {key : ε → Option κ} {log : List ε}
    (h : Justified (fun before e => ∀ k, key e = some k → k ∉ before.filterMap key) log) :
    (log.filterMap key).Nodup := by
  induction log using List.reverseRecOn with
  | nil => exact List.nodup_nil
  | append_singleton log e ih =>
    obtain ⟨hlog, hlast⟩ := justified_snoc.mp h
    rw [List.filterMap_append]
    cases hkey : key e with
    | none =>
      rw [List.filterMap_cons_none hkey, List.filterMap_nil, List.append_nil]
      exact ih hlog
    | some k =>
      rw [List.filterMap_cons_some hkey, List.filterMap_nil]
      refine List.nodup_append.mpr ⟨ih hlog, List.nodup_singleton k, ?_⟩
      rintro k' hk' _ hsingle rfl
      rw [List.mem_singleton] at hsingle
      exact hlast k hkey (hsingle ▸ hk')

/-! ## What stands open -/

/-- An entry has opened, and none after it has closed. -/
def Standing (opens closes : ε → Prop) (log : List ε) : Prop :=
  ∃ before e after, log = before ++ e :: after ∧ opens e ∧ ∀ x ∈ after, ¬ closes x

section Standing

variable {opens closes : ε → Prop} {log : List ε} {e : ε}

theorem not_standing_nil : ¬ Standing opens closes [] := by
  rintro ⟨before, e, after, h, -⟩
  simp at h

theorem standing_snoc :
    Standing opens closes (log ++ [e]) ↔ opens e ∨ Standing opens closes log ∧ ¬ closes e := by
  constructor
  · rintro ⟨before, x, after, hlog, hopens, hkept⟩
    rcases List.eq_nil_or_concat after with rfl | ⟨after', y, rfl⟩
    · obtain ⟨-, hsingle⟩ := List.append_inj' hlog rfl
      obtain rfl := List.singleton_inj.mp hsingle
      exact .inl hopens
    · rw [List.concat_eq_append, ← List.cons_append, ← List.append_assoc] at hlog
      obtain ⟨hinit, hsingle⟩ := List.append_inj' hlog rfl
      obtain rfl := List.singleton_inj.mp hsingle
      refine .inr ⟨⟨before, x, after', hinit, hopens, fun z hz => ?_⟩, ?_⟩
      · exact hkept z (by simp [hz])
      · exact hkept e (by simp)
  · rintro (hopens | ⟨⟨before, x, after, rfl, hopens, hkept⟩, hopen⟩)
    · exact ⟨log, e, [], rfl, hopens, List.forall_mem_nil _⟩
    · refine ⟨before, x, after ++ [e], by simp, hopens, fun z hz => ?_⟩
      rcases List.mem_append.mp hz with hz | hz
      · exact hkept z hz
      · rwa [List.mem_singleton.mp hz]

end Standing

/-! ## The places of entries -/

/-- The entry at place `n` stands in the relation to those before it. -/
def At (P : List ε → ε → Prop) (log : List ε) (n : Nat) : Prop :=
  ∃ e, log[n]? = some e ∧ P (log.take n) e

/-- The places of the entries that meet a condition. -/
def places (p : List ε → ε → Bool) (log : List ε) : List Nat :=
  (List.range log.length).filter fun n => (log[n]?).any (p (log.take n))

section Places

variable {log : List ε} {e : ε}

theorem at_snoc {P : List ε → ε → Prop} {n : Nat} :
    At P (log ++ [e]) n ↔ At P log n ∨ n = log.length ∧ P log e := by
  unfold At
  rcases Nat.lt_trichotomy n log.length with hlt | rfl | hgt
  · rw [List.getElem?_append_left hlt, List.take_append_of_le_length (Nat.le_of_lt hlt)]
    simp [Nat.ne_of_lt hlt]
  · simp
  · have hlen : (log ++ [e]).length ≤ n := by
      rw [List.length_append, List.length_singleton]
      omega
    rw [List.getElem?_eq_none hlen, List.getElem?_eq_none (Nat.le_of_lt hgt)]
    simp [Nat.ne_of_gt hgt]

theorem places_snoc {p : List ε → ε → Bool} :
    places p (log ++ [e]) = places p log ++ if p log e then [log.length] else [] := by
  unfold places
  have hinit : (List.range log.length).filter
        (fun n => ((log ++ [e])[n]?).any (p ((log ++ [e]).take n))) =
      (List.range log.length).filter fun n => (log[n]?).any (p (log.take n)) := by
    apply List.filter_congr
    intro n hn
    have hlt : n < log.length := List.mem_range.mp hn
    rw [List.getElem?_append_left hlt, List.take_append_of_le_length (Nat.le_of_lt hlt)]
  rw [List.length_append, List.length_singleton, List.range_succ, List.filter_append, hinit]
  congr 1
  simp [List.filter_cons]

end Places

end NexusN3.Lib
