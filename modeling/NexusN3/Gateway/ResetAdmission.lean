import NexusN3.Lib.Machine
import Mathlib.Data.Finset.Basic
import Mathlib.Logic.Function.Basic

/-!
# Resets and acquisition

`reset_session`, `send`, `set_acquisition_scope` and the reader's handling of a
`reset_session_complete`, run section by section in any order by any number of threads. The
gateway is the other party: it answers a command it has received, at any later time, more
than once or never.

* **`Link`** — the fields the sections read and write, where each thread stands in its call
  of `reset_session`, and two histories: the commands written, and the acknowledgements
  handled.
* **`Link.step`** — one section. A section that raises on a refusal is a step too.
* **`Excludes`** — no reset is written during an acquisition, and during an acquisition
  every written reset is settled. The first half holds in every run
  (`write_inactive`), the second in the runs that keep `confirmSafe`
  (`excludes_of_confirmSafe`).
-/

namespace NexusN3.Gateway

open Lib

/-! ## The state -/

/-- Where a thread stands in `reset_session`. The id is the number of the request id. -/
inductive ResetPhase where
  | outside
  /-- The first section has passed. -/
  | checked
  /-- The second section has passed; no request id is pending for it yet. -/
  | claimed
  | registered (id : Nat)
  /-- `send` has passed its test of the startup owner. -/
  | sending (id : Nat)
  /-- `send` has passed its test of the reset's admission. -/
  | admitted (id : Nat)
  | waiting (id : Nat)
  | acknowledged (id : Nat)
  /-- The section of the `else` block has run. -/
  | settled
  /-- An exception is on its way to the `finally` block. -/
  | failed
  deriving DecidableEq

namespace ResetPhase

/-- Between the claim of the reset and the `finally` block. -/
def holds : ResetPhase → Bool
  | outside => false
  | checked => false
  | _ => true

/-- The id that is pending and not written. -/
def unsent? : ResetPhase → Option Nat
  | registered id => some id
  | sending id => some id
  | admitted id => some id
  | _ => none

/-- The id that is written, with the call still on it. -/
def sent? : ResetPhase → Option Nat
  | waiting id => some id
  | acknowledged id => some id
  | _ => none

/-- Inside the `try`, where an exception can come up. -/
def trying : ResetPhase → Bool
  | registered _ => true
  | sending _ => true
  | admitted _ => true
  | waiting _ => true
  | _ => false

end ResetPhase

/-- The fields of the client that admission reads and writes. A thread is named by its ident. -/
structure Admission where
  activeAcquisitionAddresses : Finset String := ∅
  startupOwner : Option Nat := none
  resetOwner : Option Nat := none
  resetUnconfirmed : Bool := false
  pendingResetIds : Finset Nat := ∅
  requestIdCounter : Nat := 0

/-- The client with its threads and the commands and acknowledgements so far. -/
structure Link where
  client : Admission := {}
  calls : Nat → ResetPhase := fun _ => .outside
  /-- An acknowledgement whose id the reader has found pending, before its section. -/
  reader : Option Nat := none
  written : List Nat := []
  acknowledged : Finset Nat := ∅

namespace Link

def setCall (s : Link) (t : Nat) (phase : ResetPhase) : Link :=
  { s with calls := Function.update s.calls t phase }

@[simp] theorem setCall_same (s : Link) (t : Nat) (phase : ResetPhase) :
    (s.setCall t phase).calls t = phase := Function.update_self ..

theorem setCall_of_ne {s : Link} {t t' : Nat} (phase : ResetPhase) (h : t' ≠ t) :
    (s.setCall t phase).calls t' = s.calls t' := Function.update_of_ne h ..

/-! ## The sections -/

inductive Action where
  /-- `set_acquisition_scope`. -/
  | setScope (addresses : Finset String) (append : Bool)
  /-- The first section of `reset_session`. -/
  | enter (t : Nat)
  /-- `start` has raised, or it was the cold start and the reset is done. -/
  | leave (t : Nat)
  /-- The second section. -/
  | claim (t : Nat)
  /-- Draw a request id and add it to the pending ones. -/
  | register (t : Nat)
  /-- The first section of `send`. -/
  | sendStart (t : Nat)
  /-- The second section of `send`. -/
  | sendAdmit (t : Nat)
  /-- `ser.write`. -/
  | write (t : Nat)
  /-- `_wait_for_success` returns. -/
  | succeed (t : Nat)
  /-- The section of the `else` block. -/
  | settle (t : Nat)
  /-- A refused send, a failed write, an error reply, a timeout. -/
  | fail (t : Nat)
  /-- The `finally` block. -/
  | finish (t : Nat)
  /-- The section in which `start` or `recover_uart` takes the startup. -/
  | beginStartup (t : Nat) (recovering : Bool)
  | endStartup (t : Nat)
  /-- The reader takes a `reset_session_complete` and looks its id up, without the lock. -/
  | receive (id : Nat)
  /-- The reader's section. -/
  | confirm

/-- One section. `none`: the thread is not there. -/
def step (s : Link) : Action → Option Link
  | .setScope addresses append =>
    if addresses ≠ ∅ ∧ (s.client.startupOwner ≠ none ∨ s.client.resetOwner ≠ none
        ∨ s.client.resetUnconfirmed = true) then some s
    else
      some { s with client := { s.client with
        activeAcquisitionAddresses :=
          if append then s.client.activeAcquisitionAddresses ∪ addresses else addresses } }
  -- the refusals of the first section; a cold start needs no reset and leaves by `leave`
  | .enter t =>
    if s.calls t = .outside then
      if s.client.activeAcquisitionAddresses ≠ ∅ ∨ s.client.resetOwner ≠ none
          ∨ s.client.startupOwner ≠ none ∧ s.client.startupOwner ≠ some t then some s
      else some (s.setCall t .checked)
    else none
  | .leave t => if s.calls t = .checked then some (s.setCall t .outside) else none
  | .claim t =>
    if s.calls t = .checked then
      if s.client.activeAcquisitionAddresses ≠ ∅ ∨ s.client.resetOwner ≠ none then
        some (s.setCall t .outside)
      else
        some ({ s with client := { s.client with
          resetOwner := some t, resetUnconfirmed := true } }.setCall t .claimed)
    else none
  | .register t =>
    if s.calls t = .claimed then
      let id := s.client.requestIdCounter + 1
      some ({ s with client := { s.client with
        requestIdCounter := id
        pendingResetIds := insert id s.client.pendingResetIds } }.setCall t (.registered id))
    else none
  | .sendStart t =>
    match s.calls t with
    | .registered id =>
      if s.client.startupOwner ≠ none ∧ s.client.startupOwner ≠ some t then
        some (s.setCall t .failed)
      else some (s.setCall t (.sending id))
    | _ => none
  -- asked again under the lock, right before the bytes go out
  | .sendAdmit t =>
    match s.calls t with
    | .sending id =>
      if s.client.activeAcquisitionAddresses ≠ ∅ ∨ s.client.resetOwner ≠ some t then
        some (s.setCall t .failed)
      else some (s.setCall t (.admitted id))
    | _ => none
  | .write t =>
    match s.calls t with
    | .admitted id => some ({ s with written := s.written ++ [id] }.setCall t (.waiting id))
    | _ => none
  | .succeed t =>
    match s.calls t with
    | .waiting id =>
      if id ∈ s.acknowledged then some (s.setCall t (.acknowledged id)) else none
    | _ => none
  -- a confirmed reset settles every earlier one as well
  | .settle t =>
    match s.calls t with
    | .acknowledged _ =>
      some ({ s with client := { s.client with
        pendingResetIds := ∅, resetUnconfirmed := false } }.setCall t .settled)
    | _ => none
  | .fail t =>
    if (s.calls t).trying then some (s.setCall t .failed) else none
  | .finish t =>
    if s.calls t = .settled ∨ s.calls t = .failed then
      some ({ s with client := { s.client with resetOwner := none } }.setCall t .outside)
    else none
  | .beginStartup t recovering =>
    if s.client.startupOwner ≠ none
        ∨ recovering = false ∧ s.client.activeAcquisitionAddresses ≠ ∅
        ∨ recovering = true ∧ s.client.resetOwner ≠ none then some s
    else some { s with client := { s.client with startupOwner := some t } }
  | .endStartup t =>
    if s.client.startupOwner = some t then
      some { s with client := { s.client with startupOwner := none } }
    else none
  -- the look-up is outside the lock, the removal in `confirm`
  | .receive id =>
    if s.reader = none ∧ id ∈ s.written then
      if id ∈ s.client.pendingResetIds then some { s with reader := some id }
      else some { s with acknowledged := insert id s.acknowledged }
    else none
  | .confirm =>
    match s.reader with
    | some id =>
      some { s with
        client := { s.client with
          pendingResetIds := s.client.pendingResetIds.erase id
          resetUnconfirmed := decide (s.client.pendingResetIds.erase id ≠ ∅) }
        reader := none
        acknowledged := insert id s.acknowledged }
    | none => none

/-! ## What a step does

Said once: a step is refused, moves one thread along, or is one of the sections that write. -/

inductive Moves (s : Link) : Action → Link → Prop where
  | idle {a : Action} : Moves s a s
  | scope {a : Action} (addresses : Finset String) (append : Bool)
      (hfree : addresses = ∅
        ∨ s.client.resetOwner = none ∧ s.client.resetUnconfirmed = false) :
      Moves s a { s with client := { s.client with
        activeAcquisitionAddresses :=
          if append then s.client.activeAcquisitionAddresses ∪ addresses else addresses } }
  | along {a : Action} (t : Nat) (phase : ResetPhase) (hholds : phase.holds = (s.calls t).holds)
      (hunsent : ∀ id, phase.unsent? = some id → (s.calls t).unsent? = some id)
      (hsent : ∀ id, phase.sent? = some id → (s.calls t).sent? = some id)
      (hclaimed : phase ≠ .claimed)
      (hacked : ∀ id, phase = .acknowledged id → id ∈ s.acknowledged) :
      Moves s a (s.setCall t phase)
  | claim {a : Action} (t : Nat) (hfree : s.client.resetOwner = none)
      (hidle : s.client.activeAcquisitionAddresses = ∅) :
      Moves s a ({ s with client := { s.client with
        resetOwner := some t, resetUnconfirmed := true } }.setCall t .claimed)
  | register {a : Action} (t : Nat) (ht : s.calls t = .claimed) :
      Moves s a ({ s with client := { s.client with
        requestIdCounter := s.client.requestIdCounter + 1
        pendingResetIds := insert (s.client.requestIdCounter + 1) s.client.pendingResetIds
          } }.setCall t (.registered (s.client.requestIdCounter + 1)))
  | write {a : Action} (t id : Nat) (ht : s.calls t = .admitted id) :
      Moves s a ({ s with written := s.written ++ [id] }.setCall t (.waiting id))
  | settle {a : Action} (t id : Nat) (ht : s.calls t = .acknowledged id) :
      Moves s a ({ s with client := { s.client with
        pendingResetIds := ∅, resetUnconfirmed := false } }.setCall t .settled)
  | finish {a : Action} (t : Nat) (ht : (s.calls t).holds = true) :
      Moves s a ({ s with client := { s.client with resetOwner := none } }.setCall t .outside)
  | startup {a : Action} (owner : Option Nat) :
      Moves s a { s with client := { s.client with startupOwner := owner } }
  | found {a : Action} (id : Nat) (hwritten : id ∈ s.written) : Moves s a { s with reader := some id }
  | late {a : Action} (id : Nat) : Moves s a { s with acknowledged := insert id s.acknowledged }
  | confirm (id : Nat) (hreader : s.reader = some id) :
      Moves s .confirm { s with
        client := { s.client with
          pendingResetIds := s.client.pendingResetIds.erase id
          resetUnconfirmed := decide (s.client.pendingResetIds.erase id ≠ ∅) }
        reader := none
        acknowledged := insert id s.acknowledged }

theorem moves_of_step {s s' : Link} {a : Action} (h : step s a = some s') : Moves s a s' := by
  cases a with
  | setScope addresses append =>
      simp only [step] at h
      split at h
      · cases h
        exact .idle
      · rename_i hfree
        cases h
        apply Moves.scope
        by_cases hempty : addresses = ∅
        · exact Or.inl hempty
        · have hfree := not_and.mp hfree hempty
          simp only [not_or, not_not, Bool.not_eq_true] at hfree
          exact Or.inr hfree.2
  | enter t =>
      simp only [step] at h
      split at h
      · rename_i ht
        split at h
        · cases h
          exact .idle
        · cases h
          apply Moves.along <;> simp [ht, ResetPhase.holds, ResetPhase.unsent?, ResetPhase.sent?]
      · cases h
  | leave t =>
      simp only [step] at h
      split at h
      · rename_i ht
        cases h
        apply Moves.along <;> simp [ht, ResetPhase.holds, ResetPhase.unsent?, ResetPhase.sent?]
      · cases h
  | claim t =>
      simp only [step] at h
      split at h
      · rename_i ht
        split at h
        · cases h
          apply Moves.along <;> simp [ht, ResetPhase.holds, ResetPhase.unsent?, ResetPhase.sent?]
        · rename_i hfree
          cases h
          simp only [not_or, not_not] at hfree
          exact .claim t hfree.2 hfree.1
      · cases h
  | register t =>
      simp only [step] at h
      split at h
      · rename_i ht
        cases h
        exact .register t ht
      · cases h
  | sendStart t =>
      simp only [step] at h
      split at h
      · rename_i ht
        split at h
        all_goals
          cases h
          apply Moves.along <;> simp [ht, ResetPhase.holds, ResetPhase.unsent?, ResetPhase.sent?]
      · cases h
  | sendAdmit t =>
      simp only [step] at h
      split at h
      · rename_i ht
        split at h
        all_goals
          cases h
          apply Moves.along <;> simp [ht, ResetPhase.holds, ResetPhase.unsent?, ResetPhase.sent?]
      · cases h
  | write t =>
      simp only [step] at h
      split at h
      · rename_i id ht
        cases h
        exact .write t id ht
      · cases h
  | succeed t =>
      simp only [step] at h
      split at h
      · rename_i id ht
        split at h
        · rename_i hacked
          cases h
          apply Moves.along <;>
            simp [ht, hacked, ResetPhase.holds, ResetPhase.unsent?, ResetPhase.sent?]
        · cases h
      · cases h
  | settle t =>
      simp only [step] at h
      split at h
      · rename_i id ht
        cases h
        exact .settle t id ht
      · cases h
  | fail t =>
      simp only [step] at h
      split at h
      · rename_i ht
        cases h
        -- every phase of the `try` block holds the reset
        have hholds : (s.calls t).holds = true := by
          cases hp : s.calls t <;> rw [hp] at ht <;> first | rfl | cases ht
        exact .along t .failed hholds.symm (by simp [ResetPhase.unsent?])
          (by simp [ResetPhase.sent?]) (by simp) (by simp)
      · cases h
  | finish t =>
      simp only [step] at h
      split at h
      · rename_i ht
        cases h
        apply Moves.finish
        rcases ht with ht | ht <;> rw [ht] <;> rfl
      · cases h
  | beginStartup t recovering =>
      simp only [step] at h
      split at h
      · cases h
        exact .idle
      · cases h
        exact .startup (some t)
  | endStartup t =>
      simp only [step] at h
      split at h
      · cases h
        exact .startup none
      · cases h
  | receive id =>
      simp only [step] at h
      split at h
      · rename_i hready
        split at h
        · cases h
          exact .found id hready.2
        · cases h
          exact .late id
      · cases h
  | confirm =>
      simp only [step] at h
      split at h
      · rename_i id hreader
        cases h
        exact .confirm id hreader
      · cases h

/-! ## The reset is owned

The owner is the one thread between its claim and its `finally` block, and while there is
one, nothing is being acquired. -/

structure Owned (s : Link) : Prop where
  holds : ∀ t, (s.calls t).holds = true ↔ s.client.resetOwner = some t
  exclusive : s.client.resetOwner ≠ none → s.client.activeAcquisitionAddresses = ∅

theorem owned_init : Owned {} where
  holds t := by simp [ResetPhase.holds]
  exclusive h := absurd rfl h

/-- A thread moves without claiming or giving up the reset. -/
theorem Owned.move {s s' : Link} {t : Nat} {phase : ResetPhase} (h : Owned s)
    (hcalls : s'.calls = Function.update s.calls t phase)
    (hsame : phase.holds = (s.calls t).holds)
    (howner : s'.client.resetOwner = s.client.resetOwner)
    (hactive : s'.client.activeAcquisitionAddresses = s.client.activeAcquisitionAddresses) :
    Owned s' where
  holds t' := by
    rw [hcalls, howner, ← h.holds t']
    by_cases ht : t' = t
    · subst ht
      rw [Function.update_self, hsame]
    · rw [Function.update_of_ne ht]
  exclusive hne := by
    rw [howner] at hne
    rw [hactive]
    exact h.exclusive hne

theorem Owned.moves {s s' : Link} {a : Action} (hs : Owned s) (h : Moves s a s') :
    Owned s' := by
  cases h with
  | idle => exact hs
  | scope addresses append hfree =>
      refine ⟨hs.holds, fun howner => ?_⟩
      -- with a reset owner only the empty set is admitted
      have hempty : addresses = ∅ := by
        rcases hfree with hempty | hfree
        · exact hempty
        · exact absurd hfree.1 howner
      show (if append then _ else _) = (∅ : Finset String)
      rw [hempty, hs.exclusive howner]
      simp
  | along t phase hholds => exact hs.move rfl hholds rfl rfl
  | claim t hfree hidle =>
      refine ⟨fun t' => ?_, fun _ => hidle⟩
      by_cases ht : t' = t
      · subst ht
        simp [ResetPhase.holds, setCall]
      · have hno : ¬ (s.calls t').holds = true := by
          rw [hs.holds t', hfree]
          simp
        rw [setCall_of_ne _ ht]
        constructor
        · intro hh
          exact absurd hh hno
        · intro howner
          exact absurd (Option.some.inj howner).symm ht
  | register t ht => exact hs.move rfl (by rw [ht]; rfl) rfl rfl
  | write t id ht => exact hs.move rfl (by rw [ht]; rfl) rfl rfl
  | settle t id ht => exact hs.move rfl (by rw [ht]; rfl) rfl rfl
  | finish t ht =>
      have howner : s.client.resetOwner = some t := (hs.holds t).mp ht
      refine ⟨fun t' => ?_, fun hne => absurd rfl hne⟩
      by_cases htt : t' = t
      · subst htt
        simp [ResetPhase.holds, setCall]
      · rw [setCall_of_ne _ htt, hs.holds t', howner]
        simp only [Option.some.injEq, setCall, reduceCtorEq, iff_false]
        exact fun heq => htt heq.symm
  | startup owner => exact ⟨hs.holds, hs.exclusive⟩
  | found id hwritten => exact ⟨hs.holds, hs.exclusive⟩
  | late id => exact ⟨hs.holds, hs.exclusive⟩
  | confirm id hreader => exact ⟨hs.holds, hs.exclusive⟩

/-- Two threads are not both in a reset. -/
theorem Owned.unique {s : Link} (hs : Owned s) {t t' : Nat} (ht : (s.calls t).holds = true)
    (ht' : (s.calls t').holds = true) : t' = t := by
  have h := (hs.holds t).mp ht
  rw [(hs.holds t').mp ht'] at h
  exact Option.some.inj h

/-! ## The ledger of ids

A pending id stays pending until its acknowledgement is handled or a later reset has
succeeded. -/

/-- The reset `id`, with the resets `later` written behind it, is acknowledged or followed by
one that is. -/
def Covered (acknowledged : Finset Nat) (id : Nat) (later : List Nat) : Prop :=
  ∃ id' ∈ id :: later, id' ∈ acknowledged

structure Ledger (s : Link) : Prop where
  drawn : ∀ id ∈ s.written, id ≤ s.client.requestIdCounter
  unsent : ∀ t id, (s.calls t).unsent? = some id →
    id ∈ s.client.pendingResetIds ∧ id ∉ s.written ∧ id ≤ s.client.requestIdCounter
  sent : ∀ t id, (s.calls t).sent? = some id → ∃ before, s.written = before ++ [id]
  acked : ∀ t id, s.calls t = .acknowledged id → id ∈ s.acknowledged
  reader : ∀ id, s.reader = some id → id ∈ s.written
  unsettled : ∀ before id later, s.written = before ++ id :: later →
    id ∈ s.client.pendingResetIds ∨ Covered s.acknowledged id later

theorem ledger_init : Ledger {} where
  drawn id h := absurd h List.not_mem_nil
  unsent t id h := by simp [ResetPhase.unsent?] at h
  sent t id h := by simp [ResetPhase.sent?] at h
  acked t id h := by simp at h
  reader id h := by simp at h
  unsettled before id later h := by simp at h

theorem Covered.mono {acked acked' : Finset Nat} {id : Nat} {later later' : List Nat}
    (h : Covered acked id later) (hacked : acked ⊆ acked') (hlater : ∀ i ∈ later, i ∈ later') :
    Covered acked' id later' := by
  obtain ⟨id', hmem, hin⟩ := h
  refine ⟨id', ?_, hacked hin⟩
  rcases List.mem_cons.mp hmem with heq | hmem
  · exact List.mem_cons.mpr (Or.inl heq)
  · exact List.mem_cons_of_mem id (hlater id' hmem)

/-- The last id on the wire covers all. -/
theorem covered_of_last {acked : Finset Nat} {written before later front : List Nat}
    {id last : Nat} (hwritten : written = front ++ [last]) (hlast : last ∈ acked)
    (hid : written = before ++ id :: later) : Covered acked id later := by
  refine ⟨last, ?_, hlast⟩
  have hmem : (id :: later).getLast? = some last := by
    rw [← List.getLast?_append_of_ne_nil before (List.cons_ne_nil id later), ← hid, hwritten,
      List.getLast?_concat]
  exact List.mem_of_getLast? hmem

/-- A thread takes the place `phase`, and brings what the ledger says of it. -/
theorem Ledger.place {s : Link} (hs : Ledger s) (t : Nat) {phase : ResetPhase}
    (hunsent : ∀ id, phase.unsent? = some id →
      id ∈ s.client.pendingResetIds ∧ id ∉ s.written ∧ id ≤ s.client.requestIdCounter)
    (hsent : ∀ id, phase.sent? = some id → ∃ before, s.written = before ++ [id])
    (hacked : ∀ id, phase = .acknowledged id → id ∈ s.acknowledged) :
    Ledger (s.setCall t phase) where
  drawn := hs.drawn
  unsent t' id h := by
    by_cases ht : t' = t
    · subst ht
      rw [setCall_same] at h
      exact hunsent id h
    · rw [setCall_of_ne _ ht] at h
      exact hs.unsent t' id h
  sent t' id h := by
    by_cases ht : t' = t
    · subst ht
      rw [setCall_same] at h
      exact hsent id h
    · rw [setCall_of_ne _ ht] at h
      exact hs.sent t' id h
  acked t' id h := by
    by_cases ht : t' = t
    · subst ht
      rw [setCall_same] at h
      exact hacked id h
    · rw [setCall_of_ne _ ht] at h
      exact hs.acked t' id h
  reader := hs.reader
  unsettled := hs.unsettled

/-- A thread with no id on its way. -/
theorem Ledger.idle {s : Link} (hs : Ledger s) (t : Nat) {phase : ResetPhase}
    (hunsent : phase.unsent? = none) (hsent : phase.sent? = none) :
    Ledger (s.setCall t phase) := by
  apply hs.place
  · intro id h
    rw [hunsent] at h
    cases h
  · intro id h
    rw [hsent] at h
    cases h
  · intro id h
    subst h
    cases hsent

/-- Only the owner has an id that is on its way. -/
theorem holds_of_unsent {phase : ResetPhase} {id : Nat} (h : phase.unsent? = some id) :
    phase.holds = true := by
  cases phase <;> first | rfl | cases h

theorem holds_of_sent {phase : ResetPhase} {id : Nat} (h : phase.sent? = some id) :
    phase.holds = true := by
  cases phase <;> first | rfl | cases h

/-- While `t` is the owner, no other thread has an id on its way. -/
theorem Owned.others_idle {s : Link} (howned : Owned s) {t t' : Nat} {id : Nat}
    (ht : (s.calls t).holds = true) (h : ((s.setCall t .outside).calls t').unsent? = some id
      ∨ ((s.setCall t .outside).calls t').sent? = some id) : False := by
  by_cases htt : t' = t
  · subst htt
    rw [setCall_same] at h
    rcases h with h | h <;> cases h
  · rw [setCall_of_ne _ htt] at h
    refine htt (howned.unique ht ?_)
    rcases h with h | h
    · exact holds_of_unsent h
    · exact holds_of_sent h

theorem setCall_setCall (s : Link) (t : Nat) (p q : ResetPhase) :
    (s.setCall t p).setCall t q = s.setCall t q := by
  unfold setCall
  simp only [Function.update_idem]

/-- The owner's id goes onto the wire. -/
theorem Ledger.write {s : Link} (howned : Owned s) (hs : Ledger s) {t id : Nat}
    (ht : s.calls t = .admitted id) :
    Ledger ({ s with written := s.written ++ [id] }.setCall t (.waiting id)) := by
  have hholds : (s.calls t).holds = true := by rw [ht]; rfl
  have hid := hs.unsent t id (by rw [ht]; rfl)
  -- the ledger without the owner, who is the only one with an id on its way
  have haway : Ledger { s.setCall t .outside with written := s.written ++ [id] } :=
    { drawn := by
        intro id' hmem
        rcases List.mem_append.mp hmem with hmem | hmem
        · exact hs.drawn id' hmem
        · rw [List.mem_singleton.mp hmem]
          exact hid.2.2
      unsent := fun t' id' h => (howned.others_idle hholds (Or.inl h)).elim
      sent := fun t' id' h => (howned.others_idle hholds (Or.inr h)).elim
      acked := fun t' id' h => (howned.others_idle hholds (Or.inr (by rw [h]; rfl))).elim
      reader := fun id' h => List.mem_append_left [id] (hs.reader id' h)
      unsettled := by
        intro before id' later h
        have happend : s.written ++ [id] = before ++ id' :: later := h
        -- the id just written is pending; behind any other id stands what stood there before
        rcases List.eq_nil_or_concat later with rfl | ⟨later', last, rfl⟩
        · obtain ⟨-, hlast⟩ := List.append_inj' happend rfl
          obtain rfl : id = id' := by simpa using hlast
          exact Or.inl hid.1
        · have hsplit : s.written ++ [id] = (before ++ id' :: later') ++ [last] := by
            rw [happend, List.concat_eq_append]
            simp
          obtain ⟨hwritten, -⟩ := List.append_inj' hsplit rfl
          refine (hs.unsettled before id' later' hwritten).imp_right fun hcov => ?_
          exact hcov.mono (Finset.Subset.refl _) fun i hi => by simp [hi] }
  have hplaced : Ledger
      ({ s.setCall t .outside with written := s.written ++ [id] }.setCall t (.waiting id)) :=
    haway.place t (fun id' h => by cases h)
      (fun id' h => ⟨s.written, by rw [← Option.some.inj h]⟩) (fun id' h => by cases h)
  have hcalls : { s.setCall t .outside with written := s.written ++ [id] }.setCall t (.waiting id)
      = { s with written := s.written ++ [id] }.setCall t (.waiting id) :=
    setCall_setCall { s with written := s.written ++ [id] } t .outside (.waiting id)
  rw [hcalls] at hplaced
  exact hplaced

/-- The owner's id is the last one written and acknowledged, so it settles all. -/
theorem Ledger.settle {s : Link} (howned : Owned s) (hs : Ledger s) {t id : Nat}
    (ht : s.calls t = .acknowledged id) :
    Ledger ({ s with client := { s.client with
      pendingResetIds := ∅, resetUnconfirmed := false } }.setCall t .settled) := by
  have hholds : (s.calls t).holds = true := by rw [ht]; rfl
  obtain ⟨front, hfront⟩ := hs.sent t id (by rw [ht]; rfl)
  have hlast := hs.acked t id ht
  -- nothing is pending any more: every written id is covered by the last one
  have haway : Ledger { s.setCall t .outside with client := { s.client with
      pendingResetIds := ∅, resetUnconfirmed := false } } :=
    { drawn := hs.drawn
      unsent := fun t' id' h => (howned.others_idle hholds (Or.inl h)).elim
      sent := fun t' id' h => (howned.others_idle hholds (Or.inr h)).elim
      acked := fun t' id' h => (howned.others_idle hholds (Or.inr (by rw [h]; rfl))).elim
      reader := hs.reader
      unsettled := fun before id' later h => Or.inr (covered_of_last hfront hlast h) }
  have hplaced : Ledger ({ s.setCall t .outside with client := { s.client with
      pendingResetIds := ∅, resetUnconfirmed := false } }.setCall t .settled) :=
    haway.idle t rfl rfl
  have hcalls : { s.setCall t .outside with client := { s.client with
        pendingResetIds := ∅, resetUnconfirmed := false } }.setCall t .settled
      = { s with client := { s.client with
        pendingResetIds := ∅, resetUnconfirmed := false } }.setCall t .settled :=
    setCall_setCall { s with client := { s.client with
      pendingResetIds := ∅, resetUnconfirmed := false } } t .outside .settled
  rw [hcalls] at hplaced
  exact hplaced

theorem Ledger.moves {s s' : Link} {a : Action} (howned : Owned s) (hs : Ledger s)
    (h : Moves s a s') : Ledger s' := by
  cases h with
  | idle => exact hs
  | scope addresses append hfree => exact { hs with }
  | along t phase hholds hunsent hsent hclaimed hacked =>
      exact hs.place t (fun id h => hs.unsent t id (hunsent id h))
        (fun id h => hs.sent t id (hsent id h)) hacked
  | claim t hfree hidle =>
      have hbase : Ledger { s with client := { s.client with
        resetOwner := some t, resetUnconfirmed := true } } := { hs with }
      exact hbase.idle t rfl rfl
  | register t ht =>
      have hbase : Ledger { s with client := { s.client with
          requestIdCounter := s.client.requestIdCounter + 1
          pendingResetIds := insert (s.client.requestIdCounter + 1) s.client.pendingResetIds } } :=
        { hs with
          drawn := fun id hid => Nat.le_succ_of_le (hs.drawn id hid)
          unsent := fun t' id h =>
            have hid := hs.unsent t' id h
            ⟨Finset.mem_insert_of_mem hid.1, hid.2.1, Nat.le_succ_of_le hid.2.2⟩
          unsettled := fun before id later h =>
            (hs.unsettled before id later h).imp_left Finset.mem_insert_of_mem }
      apply hbase.place
      · intro id h
        obtain rfl : s.client.requestIdCounter + 1 = id := Option.some.inj h
        -- the counter is beyond every id written so far
        refine ⟨Finset.mem_insert_self _ _, fun hmem => ?_, Nat.le_refl _⟩
        have := hs.drawn _ hmem
        omega
      · intro id h
        cases h
      · intro id h
        cases h
  | write t id ht => exact hs.write howned ht
  | settle t id ht => exact hs.settle howned ht
  | finish t ht =>
      have hbase : Ledger { s with client := { s.client with resetOwner := none } } :=
        { hs with }
      exact hbase.idle t rfl rfl
  | startup owner => exact { hs with }
  | found id hwritten =>
      exact { hs with
        reader := fun id' h => by
          obtain rfl : id = id' := Option.some.inj h
          exact hwritten }
  | late id =>
      exact { hs with
        acked := fun t' id' h => Finset.mem_insert_of_mem (hs.acked t' id' h)
        unsettled := fun before id' later h => (hs.unsettled before id' later h).imp_right
          fun hcov => hcov.mono (Finset.subset_insert id _) fun _ hi => hi }
  | confirm id hreader =>
      have hwritten := hs.reader id hreader
      exact
        { drawn := hs.drawn
          unsent := fun t' id' h => by
            have hid' := hs.unsent t' id' h
            -- an id that is not yet written is not the one acknowledged
            refine ⟨Finset.mem_erase.mpr ⟨fun heq => hid'.2.1 ?_, hid'.1⟩, hid'.2⟩
            rw [heq]
            exact hwritten
          sent := hs.sent
          acked := fun t' id' h => Finset.mem_insert_of_mem (hs.acked t' id' h)
          reader := fun id' h => by cases h
          unsettled := fun before id' later h => by
            -- the id that leaves the pending ones is acknowledged itself
            by_cases heq : id' = id
            · exact Or.inr ⟨id', List.mem_cons_self .., by rw [heq]; exact Finset.mem_insert_self ..⟩
            · exact (hs.unsettled before id' later h).imp
                (fun hmem => Finset.mem_erase.mpr ⟨heq, hmem⟩)
                fun hcov => hcov.mono (Finset.subset_insert id _) fun _ hi => hi }

/-! ## The flag

`_reset_unconfirmed` is to be set while an id is pending or about to be. The reader recomputes
it from the pending ids alone, so it clears it when a reset has been claimed and its id is not
pending yet. -/

/-- A reset is between its claim and its registration. -/
def registering (s : Link) : Bool :=
  match s.client.resetOwner with
  | some t => decide (s.calls t = .claimed)
  | none => false

/-- The reader's section does not empty the pending ids while a reset is about to add its own. -/
def confirmSafe (s : Link) : Action → Prop
  | .confirm => ∀ id ∈ s.reader, s.client.pendingResetIds.erase id = ∅ → s.registering = false
  | _ => True

instance (s : Link) (a : Action) : Decidable (confirmSafe s a) := by
  cases a <;> unfold confirmSafe <;> infer_instance

structure Flagged (s : Link) : Prop where
  clear : s.client.resetUnconfirmed = false →
    s.client.pendingResetIds = ∅ ∧ ∀ t, s.calls t ≠ .claimed
  acquired : s.client.activeAcquisitionAddresses ≠ ∅ → s.client.pendingResetIds = ∅

theorem flagged_init : Flagged {} where
  clear _ := ⟨rfl, fun _ h => by cases h⟩
  acquired h := absurd rfl h

/-- A thread that moves to a place other than the claim. -/
theorem Flagged.move {s : Link} (hs : Flagged s) (t : Nat) {phase : ResetPhase}
    (hphase : phase ≠ .claimed) : Flagged (s.setCall t phase) where
  clear h := by
    refine ⟨(hs.clear h).1, fun t' hclaimed => ?_⟩
    by_cases ht : t' = t
    · subst ht
      rw [setCall_same] at hclaimed
      exact hphase hclaimed
    · rw [setCall_of_ne _ ht] at hclaimed
      exact (hs.clear h).2 t' hclaimed
  acquired := hs.acquired

theorem not_claimed_of_registering {s : Link} (howned : Owned s) (h : s.registering = false)
    (t : Nat) : s.calls t ≠ .claimed := by
  intro ht
  have howner := (howned.holds t).mp (by rw [ht]; rfl)
  rw [registering, howner] at h
  simp only [decide_eq_false_iff_not] at h
  exact h ht

theorem Flagged.moves {s s' : Link} {a : Action} (howned : Owned s) (hs : Flagged s)
    (hok : confirmSafe s a) (h : Moves s a s') : Flagged s' := by
  cases h with
  | idle => exact hs
  | scope addresses append hfree =>
      refine ⟨hs.clear, fun hactive => ?_⟩
      rcases hfree with hempty | hfree
      · -- with no address given, what is active now was active before
        refine hs.acquired fun hnone => hactive ?_
        show (if append then _ else _) = (∅ : Finset String)
        rw [hempty, hnone]
        simp
      · exact (hs.clear hfree.2).1
  | along t phase hholds hunsent hsent hclaimed => exact hs.move t hclaimed
  | claim t hfree hidle => exact ⟨(by intro h; cases h), fun hactive => absurd hidle hactive⟩
  | register t ht =>
      refine ⟨fun h => absurd ht ((hs.clear h).2 t), fun hactive => absurd ?_ hactive⟩
      have howner := (howned.holds t).mp (by rw [ht]; rfl)
      exact howned.exclusive (by rw [howner]; simp)
  | write t id ht =>
      have hbase : Flagged { s with written := s.written ++ [id] } := { hs with }
      exact hbase.move t (by simp)
  | settle t id ht =>
      refine ⟨fun _ => ⟨rfl, fun t' hclaimed => ?_⟩, fun _ => rfl⟩
      by_cases htt : t' = t
      · subst htt
        rw [setCall_same] at hclaimed
        cases hclaimed
      · rw [setCall_of_ne _ htt] at hclaimed
        exact htt (howned.unique (by rw [ht]; rfl) (by
          show (s.calls t').holds = true
          rw [show s.calls t' = .claimed from hclaimed]
          rfl))
  | finish t ht =>
      have hbase : Flagged { s with client := { s.client with resetOwner := none } } :=
        { hs with }
      exact hbase.move t (by simp)
  | startup owner => exact { hs with }
  | found id hwritten => exact { hs with }
  | late id => exact { hs with }
  | confirm id hreader =>
      refine ⟨fun h => ?_, fun hactive => ?_⟩
      · have hempty : s.client.pendingResetIds.erase id = ∅ := by
          simpa using h
        refine ⟨hempty, not_claimed_of_registering (s := s) howned ?_⟩
        exact hok id (by rw [hreader]; rfl) hempty
      · show s.client.pendingResetIds.erase id = ∅
        rw [hs.acquired hactive]
        rfl

/-! ## Resets and acquisition -/

theorem owned_reach {s : Link} {ok : Link → Action → Prop} (h : Machine.Run step ok {} s) :
    Owned s :=
  h.invariant owned_init fun _ _ _ _ hstep hs => hs.moves (moves_of_step hstep)

/-- **Resets wait for acquisition to end.** In every run, a reset is written only while
nothing is being acquired. -/
theorem write_inactive {s s' : Link} {t : Nat} {ok : Link → Action → Prop}
    (h : Machine.Run step ok {} s) (hwrite : step s (.write t) = some s') :
    s.client.activeAcquisitionAddresses = ∅ := by
  have howned := owned_reach h
  simp only [step] at hwrite
  split at hwrite
  · rename_i id ht
    have howner := (howned.holds t).mp (by rw [ht]; rfl)
    exact howned.exclusive (by rw [howner]; simp)
  · cases hwrite

/-- No reset is written during an acquisition, and during an acquisition every reset written
so far is acknowledged or was followed by one that is. -/
structure Excludes (s : Link) : Prop where
  write : ∀ t s', step s (.write t) = some s' → s.client.activeAcquisitionAddresses = ∅
  acquire : s.client.activeAcquisitionAddresses ≠ ∅ →
    ∀ before id later, s.written = before ++ id :: later → Covered s.acknowledged id later

/-- The three invariants along a run that keeps the condition. -/
theorem invariants_of_confirmSafe {s : Link} (h : Machine.Run step confirmSafe {} s) :
    Owned s ∧ Ledger s ∧ Flagged s := by
  refine h.invariant (I := fun s => Owned s ∧ Ledger s ∧ Flagged s)
    ⟨owned_init, ledger_init, flagged_init⟩ ?_
  intro r a r' hok hstep ⟨howned, hledger, hflagged⟩
  have hmoves := moves_of_step hstep
  exact ⟨howned.moves hmoves, hledger.moves howned hmoves, hflagged.moves howned hok hmoves⟩

/-- **Resets and acquisition exclude each other** in every run in which the reader's section
never empties the pending ids between a reset's claim and its registration. -/
theorem excludes_of_confirmSafe {s : Link} (h : Machine.Run step confirmSafe {} s) :
    Excludes s where
  write _ _ hwrite := write_inactive h hwrite
  acquire hactive before id later hwritten := by
    obtain ⟨-, hledger, hflagged⟩ := invariants_of_confirmSafe h
    rcases hledger.unsettled before id later hwritten with hpending | hcov
    · rw [hflagged.acquired hactive] at hpending
      exact absurd hpending (Finset.notMem_empty id)
    · exact hcov

/-- Two resets of which the first is answered late; then an acquisition. -/
def lateAnswer : List Action :=
  [.enter 1, .claim 1, .register 1, .sendStart 1, .sendAdmit 1, .write 1, .fail 1, .finish 1,
    .enter 2, .claim 2, .register 2, .receive 1, .confirm, .sendStart 2, .sendAdmit 2, .write 2,
    .receive 2, .confirm, .succeed 2, .settle 2, .finish 2, .setScope {"AA"} false]

theorem excludes_of_confirmSafe_lateAnswer :
    ∃ s, Machine.Run step confirmSafe {} s
      ∧ s.client.activeAcquisitionAddresses = {"AA"} ∧ s.written = [1, 2] ∧ Excludes s := by
  have hrun : (Machine.execOk step confirmSafe {} lateAnswer).map
      (fun s => (s.client.activeAcquisitionAddresses, s.written)) = some ({"AA"}, [1, 2]) := by
    decide +kernel
  obtain ⟨s, hs, hfields⟩ := Option.map_eq_some_iff.mp hrun
  simp only [Prod.mk.injEq] at hfields
  have h : Machine.Run step confirmSafe {} s := Machine.Run.of_execOk lateAnswer hs
  exact ⟨s, h, hfields.1, hfields.2, excludes_of_confirmSafe h⟩

/-- The late answer is handled between the second reset's claim and its registration. -/
def racingAnswer : List Action :=
  [.enter 1, .claim 1, .register 1, .sendStart 1, .sendAdmit 1, .write 1, .fail 1, .finish 1,
    .enter 2, .claim 2, .receive 1, .confirm, .register 2, .sendStart 2, .sendAdmit 2, .write 2,
    .fail 2, .finish 2, .setScope {"AA"} false]

/-- The acquisition is admitted although the reset written last is not acknowledged. -/
theorem racingAnswer_admits_acquisition :
    ¬ ∀ s, Machine.Reach step {} s → Excludes s := by
  have hrun : (Machine.exec step {} racingAnswer).map
      (fun s => (s.client.activeAcquisitionAddresses, s.written, s.acknowledged))
      = some ({"AA"}, [1, 2], {1}) := by decide +kernel
  obtain ⟨s, hs, hfields⟩ := Option.map_eq_some_iff.mp hrun
  simp only [Prod.mk.injEq] at hfields
  obtain ⟨hactive, hwritten, hacked⟩ := hfields
  intro hall
  have hexc := hall s (Machine.reach_of_exec racingAnswer hs)
  obtain ⟨id, hid, hin⟩ := hexc.acquire (by rw [hactive]; simp) [1] 2 [] hwritten
  rw [hacked] at hin
  simp only [List.mem_singleton] at hid
  subst hid
  simp at hin

end Link

end NexusN3.Gateway
