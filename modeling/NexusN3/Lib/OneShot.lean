import NexusN3.Lib.Transcript
import Mathlib.Data.List.Count

/-!
# One payment for each opening

An opening arms a shot, and an armed shot is spent once: at once, by a payment, or on a ticket that
is redeemed for the payment later. What is written down is a log of openings, renewals and payments;
an opening voids the tickets issued before it.

* **`Tariff`** — which entries renew, open and pay.
* **`Due`** — something renewed, and nothing has been paid since.
* **`OneShot`** — the invariant: what is armed is due and has no ticket out, a ticket that is not
  void is due and the only one, and every payment was due when it was made.
* **`note`**, **`renew`**, **`spend`**, **`issue`**, **`redeem`**, **`mono`** — the rules.
-/

namespace NexusN3.Lib

universe u v

structure Tariff (ε : Type u) where
  renews : ε → Bool
  opens : ε → Bool
  pays : ε → Bool
  renews_of_opens : ∀ e, opens e = true → renews e = true
  pays_of_renews : ∀ e, renews e = true → pays e = false

namespace Tariff

variable {ε : Type u} (T : Tariff ε)

def Due (log : List ε) : Prop :=
  Standing (fun e => T.renews e = true) (fun e => T.pays e = true) log

/-- How often the log has been opened. -/
def turn (log : List ε) : Nat := log.countP T.opens

/-- No payment follows another with nothing renewed in between, and none comes first. -/
def Apart (log : List ε) : Prop := Justified (fun before e => T.pays e = true → T.Due before) log

variable {T} {log : List ε} {e : ε}

theorem due_snoc : T.Due (log ++ [e]) ↔ T.renews e = true ∨ T.Due log ∧ T.pays e = false := by
  unfold Due
  rw [standing_snoc, Bool.not_eq_true]

theorem turn_snoc_of_opens (he : T.opens e = true) : T.turn (log ++ [e]) = T.turn log + 1 := by
  simp [turn, List.countP_append, he]

theorem turn_snoc_of_not_opens (he : T.opens e = false) : T.turn (log ++ [e]) = T.turn log := by
  simp [turn, List.countP_append, he]

theorem opens_of_pays (he : T.pays e = true) : T.opens e = false := by
  rw [← Bool.not_eq_true]
  intro hopens
  have hfree := T.pays_of_renews e (T.renews_of_opens e hopens)
  rw [he] at hfree
  cases hfree

theorem apart_snoc : T.Apart (log ++ [e]) ↔ T.Apart log ∧ (T.pays e = true → T.Due log) :=
  justified_snoc

end Tariff

/-- `tickets i` is the turn the ticket at place `i` was issued in. -/
structure OneShot {ε : Type u} {ι : Type v} (T : Tariff ε) (log : List ε) (armed : Prop)
    (tickets : ι → Option Nat) : Prop where
  armed_due : armed → T.Due log
  armed_whole : armed → ∀ i, tickets i ≠ some (T.turn log)
  ticket_due : ∀ i, tickets i = some (T.turn log) → T.Due log
  ticket_single : ∀ i j, tickets i = some (T.turn log) → tickets j = some (T.turn log) → i = j
  ticket_past : ∀ i n, tickets i = some n → n ≤ T.turn log
  apart : T.Apart log

namespace OneShot

variable {ε : Type u} {ι : Type v} {T : Tariff ε} {log : List ε} {e : ε} {armed armed' : Prop}
  {tickets tickets' : ι → Option Nat}

theorem start (T : Tariff ε) (ι : Type v) : OneShot T [] False fun _ : ι => none where
  armed_due := False.elim
  armed_whole := False.elim
  ticket_due := nofun
  ticket_single := nofun
  ticket_past := nofun
  apart := justified_nil _

/-- A shot may be disarmed and a ticket may be lost. -/
theorem mono (h : OneShot T log armed tickets) (harmed : armed' → armed)
    (htickets : ∀ i n, tickets' i = some n → tickets i = some n) :
    OneShot T log armed' tickets' where
  armed_due := fun ha => h.armed_due (harmed ha)
  armed_whole := fun ha i hi => h.armed_whole (harmed ha) i (htickets i _ hi)
  ticket_due := fun i hi => h.ticket_due i (htickets i _ hi)
  ticket_single := fun i j hi hj => h.ticket_single i j (htickets i _ hi) (htickets j _ hj)
  ticket_past := fun i n hi => h.ticket_past i n (htickets i n hi)
  apart := h.apart

/-- An entry that neither renews nor pays changes nothing. -/
theorem note (h : OneShot T log armed tickets) (hrenews : T.renews e = false)
    (hpays : T.pays e = false) : OneShot T (log ++ [e]) armed tickets := by
  have hopens : T.opens e = false := by
    rw [← Bool.not_eq_true]
    intro hopens
    rw [T.renews_of_opens e hopens] at hrenews
    cases hrenews
  have hdue : T.Due log → T.Due (log ++ [e]) := fun hd => T.due_snoc.mpr (.inr ⟨hd, hpays⟩)
  constructor
  · exact fun ha => hdue (h.armed_due ha)
  · rw [T.turn_snoc_of_not_opens hopens]
    exact h.armed_whole
  · rw [T.turn_snoc_of_not_opens hopens]
    exact fun i hi => hdue (h.ticket_due i hi)
  · rw [T.turn_snoc_of_not_opens hopens]
    exact h.ticket_single
  · rw [T.turn_snoc_of_not_opens hopens]
    exact h.ticket_past
  · refine T.apart_snoc.mpr ⟨h.apart, fun hp => ?_⟩
    rw [hpays] at hp
    cases hp

/-- A renewal makes a payment due again. Only an opening may arm the shot with it. -/
theorem renew (h : OneShot T log armed tickets) (hrenews : T.renews e = true)
    (harmed : T.opens e = false → armed' → armed) : OneShot T (log ++ [e]) armed' tickets := by
  have hdue : T.Due (log ++ [e]) := T.due_snoc.mpr (.inl hrenews)
  have hapart : T.Apart (log ++ [e]) := by
    refine T.apart_snoc.mpr ⟨h.apart, fun hp => ?_⟩
    rw [T.pays_of_renews e hrenews] at hp
    cases hp
  cases hopens : T.opens e with
  | true =>
    -- every ticket that is out is from an earlier turn
    have hvoid : ∀ i, tickets i ≠ some (T.turn (log ++ [e])) := by
      intro i hi
      have hpast := h.ticket_past i _ hi
      rw [T.turn_snoc_of_opens hopens] at hpast
      omega
    refine ⟨fun _ => hdue, fun _ => hvoid, fun _ _ => hdue, ?_, ?_, hapart⟩
    · exact fun i _ hi => absurd hi (hvoid i)
    · intro i n hi
      have hpast := h.ticket_past i n hi
      rw [T.turn_snoc_of_opens hopens]
      omega
  | false =>
    refine ⟨fun _ => hdue, ?_, fun _ _ => hdue, ?_, ?_, hapart⟩ <;>
      rw [T.turn_snoc_of_not_opens hopens]
    · exact fun ha => h.armed_whole (harmed hopens ha)
    · exact h.ticket_single
    · exact h.ticket_past

/-- A payment by the armed shot itself. -/
theorem spend (h : OneShot T log armed tickets) (ha : armed) (hpays : T.pays e = true) :
    OneShot T (log ++ [e]) False tickets := by
  have hturn : T.turn (log ++ [e]) = T.turn log := T.turn_snoc_of_not_opens (T.opens_of_pays hpays)
  have hvoid : ∀ i, tickets i ≠ some (T.turn (log ++ [e])) := hturn ▸ h.armed_whole ha
  refine ⟨False.elim, False.elim, ?_, ?_, ?_, ?_⟩
  · exact fun i hi => absurd hi (hvoid i)
  · exact fun i _ hi => absurd hi (hvoid i)
  · rw [hturn]
    exact h.ticket_past
  · exact T.apart_snoc.mpr ⟨h.apart, fun _ => h.armed_due ha⟩

/-- A ticket in the place of the payment. -/
theorem issue (h : OneShot T log armed tickets) (ha : armed) {i : ι}
    (hi : tickets' i = some (T.turn log)) (hother : ∀ j, j ≠ i → tickets' j = tickets j) :
    OneShot T log False tickets' := by
  have honly : ∀ j, tickets' j = some (T.turn log) → j = i := by
    intro j hj
    by_contra hne
    rw [hother j hne] at hj
    exact h.armed_whole ha j hj
  refine ⟨False.elim, False.elim, ?_, ?_, ?_, h.apart⟩
  · exact fun _ _ => h.armed_due ha
  · exact fun j k hj hk => (honly j hj).trans (honly k hk).symm
  · intro j n hj
    by_cases hne : j = i
    · rw [hne, hi] at hj
      cases hj
      exact Nat.le_refl _
    · rw [hother j hne] at hj
      exact h.ticket_past j n hj

/-- The payment for a ticket that is not void. -/
theorem redeem (h : OneShot T log armed tickets) {i : ι} (hi : tickets i = some (T.turn log))
    (hpays : T.pays e = true) (harmed : armed' → armed)
    (htickets : ∀ j n, tickets' j = some n → j ≠ i ∧ tickets j = some n) :
    OneShot T (log ++ [e]) armed' tickets' := by
  have hturn : T.turn (log ++ [e]) = T.turn log := T.turn_snoc_of_not_opens (T.opens_of_pays hpays)
  have hspent : ¬ armed' := fun ha => h.armed_whole (harmed ha) i hi
  have hvoid : ∀ j, tickets' j ≠ some (T.turn (log ++ [e])) := by
    rw [hturn]
    intro j hj
    obtain ⟨hne, hold⟩ := htickets j _ hj
    exact hne (h.ticket_single j i hold hi)
  refine ⟨?_, ?_, ?_, ?_, ?_, ?_⟩
  · exact fun ha => absurd ha hspent
  · exact fun ha => absurd ha hspent
  · exact fun j hj => absurd hj (hvoid j)
  · exact fun j _ hj => absurd hj (hvoid j)
  · rw [hturn]
    exact fun j n hj => h.ticket_past j n (htickets j n hj).2
  · exact T.apart_snoc.mpr ⟨h.apart, fun _ => h.ticket_due i hi⟩

end OneShot

end NexusN3.Lib
