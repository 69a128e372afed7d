import NexusN3.Lib.Transcript

/-!
# Fences in a log

Entries of a log raise a fence around a key, lower it again, or cross to the key. A log is fenced
when no entry crosses to a key whose fence is up. Both notions are read off the log, as what stands
open in a transcript and what is justified there, so one more entry changes them as the two `_snoc`
lemmas say.
-/

namespace NexusN3.Lib.Fence

/-- What an entry does to the fence around its key. -/
inductive Role where
  | raises
  | lowers
  | crosses
  deriving DecidableEq, Repr

variable {ε κ : Type} (role : ε → Role × κ)

/-- The fence around `k` has been raised and not lowered since. -/
def Up (log : List ε) (k : κ) : Prop :=
  ∃ before e after, log = before ++ e :: after ∧ role e = (.raises, k) ∧
    ∀ e' ∈ after, role e' ≠ (.lowers, k)

/-- No entry crosses to a key whose fence is up. -/
def Fenced (log : List ε) : Prop :=
  ∀ before e after, log = before ++ e :: after → ∀ k, role e = (.crosses, k) → ¬Up role before k

variable {role} {log : List ε} {e : ε} {k : κ}

/-- A fence that is up is one that stands open. -/
theorem up_iff_standing :
    Up role log k ↔ Standing (fun x => role x = (.raises, k)) (fun x => role x = (.lowers, k)) log :=
  Iff.rfl

theorem fenced_iff_justified : Fenced role log ↔
    Justified (fun before x => ∀ k, role x = (.crosses, k) → ¬Up role before k) log :=
  Iff.rfl

theorem not_up_nil : ¬Up role [] k := not_standing_nil

theorem up_snoc :
    Up role (log ++ [e]) k ↔ role e = (.raises, k) ∨ Up role log k ∧ role e ≠ (.lowers, k) := by
  rw [up_iff_standing, standing_snoc]
  rfl

theorem fenced_nil : Fenced role [] := justified_nil _

theorem fenced_snoc :
    Fenced role (log ++ [e]) ↔
      Fenced role log ∧ ∀ k, role e = (.crosses, k) → ¬Up role log k := by
  rw [fenced_iff_justified, justified_snoc]
  rfl

/-- Crossings to keys whose fence is down change nothing. -/
theorem append_crossings {ds : List ε} (hlog : Fenced role log)
    (hds : ∀ d ∈ ds, ∃ k, role d = (.crosses, k) ∧ ¬Up role log k) :
    Fenced role (log ++ ds) ∧ ∀ k, Up role (log ++ ds) k ↔ Up role log k := by
  induction ds using List.reverseRecOn with
  | nil => exact ⟨by rwa [List.append_nil], fun k => by rw [List.append_nil]⟩
  | append_singleton ds d ih =>
    obtain ⟨hfenced, hup⟩ := ih fun d' hd' => hds d' (by simp [hd'])
    obtain ⟨k, hrole, hdown⟩ := hds d (by simp)
    rw [← List.append_assoc]
    refine ⟨fenced_snoc.mpr ⟨hfenced, fun k' hk' => ?_⟩, fun k' => ?_⟩
    · rw [hrole] at hk'
      cases hk'
      exact (hup k).not.mpr hdown
    · rw [up_snoc, hup, hrole]
      simp

/-- Entries that only raise fences. -/
theorem append_raises {ds : List ε} (hlog : Fenced role log)
    (hds : ∀ d ∈ ds, ∃ k, role d = (.raises, k)) :
    Fenced role (log ++ ds) ∧
      ∀ k, Up role (log ++ ds) k → Up role log k ∨ ∃ d ∈ ds, role d = (.raises, k) := by
  induction ds using List.reverseRecOn with
  | nil => exact ⟨by rwa [List.append_nil], fun k h => .inl (by rwa [List.append_nil] at h)⟩
  | append_singleton ds d ih =>
    obtain ⟨hfenced, hup⟩ := ih fun d' hd' => hds d' (by simp [hd'])
    obtain ⟨k, hrole⟩ := hds d (by simp)
    rw [← List.append_assoc]
    refine ⟨fenced_snoc.mpr ⟨hfenced, fun k' hk' => ?_⟩, fun k' hk' => ?_⟩
    · rw [hrole] at hk'
      cases hk'
    · rcases up_snoc.mp hk' with hraises | ⟨hold, -⟩
      · exact .inr ⟨d, by simp, hraises⟩
      · exact (hup k' hold).imp id fun ⟨d', hd', hr⟩ => ⟨d', by simp [hd'], hr⟩

end NexusN3.Lib.Fence
