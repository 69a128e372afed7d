import NexusN3.Lib.Unwinding

/-!
# The link of a worker to its master

`_reconnect_to_master` finds the master, makes a new socket and connects it without the lock, and
swaps socket and address under the lock, with a rollback. `stop` closes the current socket under the
lock and then terminates the context, outside it.

* **`Worker.step`** — the reconnect from one of its operations to the next, each of which may fail,
  and the sends and the stop of the other threads.
* **`Worker.standing`** — the link that stands if the reconnect in progress fails.
* **`Move`** — what a step does.
* **`Kept`** — what every step keeps.
* **`Owned`** — every open socket has an owner, and every reconnect left what it should.
* **`keepsOwned`** — the condition on one step.
* **`owned_iff`** — sockets are owned all along a run exactly when every step meets it.
-/

namespace NexusN3.WorkerLink

open Lib

variable {Address : Type}

/-- `dealer` beside `master_ip` and `master_port`. Sockets are numbered as they are made. -/
structure Link (Address : Type) where
  dealer : Option Nat
  master : Address

/-- Where `_reconnect_to_master` stands. -/
inductive Phase (Address : Type) where
  | idle
  | discovering
  | creating (master : Address)
  | connecting (master : Address) (new : Nat)
  /-- about to take the lock -/
  | acquiring (master : Address) (new : Nat)
  /-- under the lock, `self.dealer` is the new socket -/
  | registering (master : Address) (new : Nat) (old : Link Address)
  /-- under the lock, the address is the new one -/
  | closingOld (master : Address) (new : Nat) (old : Link Address)
  /-- in the handler, about to take the lock -/
  | failing (new : Option Nat)

/-- The socket this reconnect has made. -/
def Phase.created : Phase Address → Option Nat
  | .idle | .discovering | .creating _ => none
  | .connecting _ new | .acquiring _ new | .registering _ new _ | .closingOld _ new _ => some new
  | .failing new => new

/-- The reconnect holds the lock. -/
def Phase.locked : Phase Address → Bool
  | .registering _ _ _ | .closingOld _ _ _ => true
  | _ => false

/-- A message, with the dealer as it was when the message was sent. -/
structure Message where
  socket : Nat
  dealer : Option Nat

/-- A reconnect that has returned, with the sockets as it left them. -/
structure Attempt (Address : Type) where
  reconnected : Bool
  before : Link Address
  after : Link Address
  created : Option Nat
  isOpen : Nat → Bool
  peer : Nat → Option Address

structure Worker (Address : Type) where
  /-- `_running` -/
  running : Bool
  /-- `stop` has left its locked section -/
  terminating : Bool
  /-- `ctx.term` has begun: only `close` still works on a socket -/
  terminated : Bool
  link : Link Address
  sockets : Nat
  isOpen : Nat → Bool
  /-- the address a socket is connected to -/
  peer : Nat → Option Address
  phase : Phase Address
  /-- the link when the reconnect in progress began -/
  before : Link Address
  sent : List Message
  attempts : List (Attempt Address)

inductive Action (Address : Type) where
  /-- `_reconnect_to_master` is called -/
  | reconnect
  | discovered (master : Option Address)
  | socketMade (ok : Bool)
  | connected (ok : Bool)
  | acquired
  | registered (ok : Bool)
  | oldClosed (ok : Bool)
  /-- the handler closes the new socket and the reconnect returns -/
  | cleanedUp (ok : Bool)
  /-- `_register_with_master`, called by `start` -/
  | register (ok : Bool)
  | heartbeat (ok : Bool)
  | sendEvent (ok : Bool)
  /-- the locked section of `stop` -/
  | stop
  /-- its `ctx.term()` begins -/
  | term

namespace Worker

/-- An operation on a socket, `close` apart, succeeds only while the context is up. -/
def works (s : Worker Address) (ok : Bool) : Bool := ok && !s.terminated

def close (s : Worker Address) (n : Nat) : Worker Address :=
  { s with isOpen := Function.update s.isOpen n false }

/-- The reconnect returns. -/
def finish (s : Worker Address) (reconnected : Bool) : Worker Address :=
  { s with
    phase := .idle
    attempts := s.attempts ++
      [⟨reconnected, s.before, s.link, s.phase.created, s.isOpen, s.peer⟩] }

/-- The inner handler: socket and address are those from before. -/
def rollback (s : Worker Address) (new : Nat) (old : Link Address) : Worker Address :=
  { s with link := old, phase := .failing (some new) }

/-- The old socket need not be closed, or can be. -/
def closesOld (s : Worker Address) (old : Link Address) (ok : Bool) : Bool :=
  match old.dealer with
  | none => true
  | some d => !s.isOpen d || s.works ok

/-- `self.dealer.send`. -/
def send (s : Worker Address) (ok : Bool) : Worker Address :=
  match s.link.dealer with
  | none => s
  | some d =>
    if s.isOpen d ∧ s.works ok then { s with sent := s.sent ++ [⟨d, s.link.dealer⟩] } else s

/-- The locked section of `stop`. -/
def stopped (s : Worker Address) : Worker Address :=
  let s := { s with running := false }
  match s.link.dealer with
  | none => { s with terminating := true }
  | some d =>
    if s.isOpen d ∧ s.works true then { s.close d with terminating := true }
    -- `setsockopt` raises and `ctx.term` is not reached
    else s

def step : Machine (Worker Address) (Action Address)
  | s, .reconnect =>
    match s.phase with
    | .idle => some { s with phase := .discovering, before := s.link }
    | _ => none
  | s, .discovered found =>
    match s.phase with
    | .discovering =>
      match found with
      | none => some { s with phase := .failing none }
      | some master => some { s with phase := .creating master }
    | _ => none
  | s, .socketMade ok =>
    match s.phase with
    | .creating master =>
      if s.works ok then
        some { s with
          sockets := s.sockets + 1
          isOpen := Function.update s.isOpen s.sockets true
          phase := .connecting master s.sockets }
      else some { s with phase := .failing none }
    | _ => none
  | s, .connected ok =>
    match s.phase with
    | .connecting master new =>
      if s.works ok then
        some { s with
          peer := Function.update s.peer new (some master)
          phase := .acquiring master new }
      else some { s with phase := .failing (some new) }
    | _ => none
  | s, .acquired =>
    match s.phase with
    | .acquiring master new =>
      some { s with
        link := { s.link with dealer := some new }
        phase := .registering master new s.link }
    | _ => none
  | s, .registered ok =>
    match s.phase with
    | .registering master new old =>
      if s.works ok then
        some { s.send ok with
          link := { s.link with master := master }
          phase := .closingOld master new old }
      else some (s.rollback new old)
    | _ => none
  | s, .oldClosed ok =>
    match s.phase with
    | .closingOld _ new old =>
      if s.closesOld old ok then
        match old.dealer with
        | none => some (s.finish true)
        | some d => some ((s.close d).finish true)
      else some (s.rollback new old)
    | _ => none
  | s, .cleanedUp ok =>
    match s.phase with
    | .failing (some new) =>
      if s.link.dealer ≠ some new ∧ s.works ok then some ((s.close new).finish false)
      else some (s.finish false)
    | .failing none => some (s.finish false)
    | _ => none
  | s, .register ok => if s.phase.locked then none else some (s.send ok)
  | s, .heartbeat ok =>
    if s.phase.locked then none else if s.running then some (s.send ok) else some s
  | s, .sendEvent ok =>
    if s.phase.locked then none else if s.running then some (s.send ok) else some s
  | s, .stop => if s.phase.locked then none else some s.stopped
  | s, .term => if s.terminating then some { s with terminated := true } else none

/-- The worker after `start` has connected its first socket. -/
def init (master : Address) : Worker Address where
  running := true
  terminating := false
  terminated := false
  link := ⟨some 0, master⟩
  sockets := 1
  isOpen := fun n => decide (n = 0)
  peer := fun n => if n = 0 then some master else none
  phase := .idle
  before := ⟨some 0, master⟩
  sent := []
  attempts := []

/-- The link that stands if the reconnect in progress fails. -/
def standing (s : Worker Address) : Link Address :=
  match s.phase with
  | .idle => s.link
  | _ => s.before

/-- What a reconnect that returned False leaves. -/
def Attempt.Undone (a : Attempt Address) : Prop :=
  a.after = a.before ∧ ∀ new, a.created = some new → a.isOpen new = false

/-- What a reconnect that returned True leaves. -/
def Attempt.Done (a : Attempt Address) : Prop :=
  ∃ new, a.created = some new ∧ a.after.dealer = some new ∧ a.peer new = some a.after.master ∧
    ∀ old, a.before.dealer = some old → a.isOpen old = false

structure Owned (s : Worker Address) : Prop where
  /-- a message goes out on the socket that is the dealer -/
  sent : ∀ m ∈ s.sent, m.dealer = some m.socket
  undone : ∀ a ∈ s.attempts, a.reconnected = false → Attempt.Undone a
  done : ∀ a ∈ s.attempts, a.reconnected = true → Attempt.Done a
  /-- once `stop` has run, a reconnect that has returned leaves no socket open -/
  stopped : s.running = false → s.phase = .idle → ∀ n, s.isOpen n = false
  /-- an open socket is the dealer or the one of the reconnect in progress -/
  owner : ∀ n, s.isOpen n = true → s.standing.dealer = some n ∨ s.phase.created = some n
  /-- `stop` has closed the dealer -/
  down : s.running = false → ∀ n, s.standing.dealer = some n → s.isOpen n = false

/-- The condition on one step: no reconnect swaps the link of a worker that has been stopped, and
the handler can close the new socket. -/
def keepsOwned (s : Worker Address) : Action Address → Prop
  | .oldClosed ok => ∀ master new old, s.phase = .closingOld master new old →
      s.closesOld old ok = true → s.running = true
  | .cleanedUp ok => ∀ new, s.phase = .failing (some new) → s.works ok = true
  | _ => True

/-- The new socket of the reconnect in progress is open and not the one it is to replace. -/
def Apart (s : Worker Address) (new : Nat) : Prop :=
  new < s.sockets ∧ s.before.dealer ≠ some new ∧ s.isOpen new = true

/-- The link, the new socket and the phase of the reconnect fit together. -/
def Fits (s : Worker Address) : Phase Address → Prop
  | .idle => True
  | .discovering | .creating _ | .failing none => s.link = s.before
  | .connecting _ new | .failing (some new) => s.link = s.before ∧ s.Apart new
  | .acquiring master new => s.link = s.before ∧ s.Apart new ∧ s.peer new = some master
  | .registering master new old =>
    old = s.before ∧ s.Apart new ∧ s.peer new = some master ∧ s.link.dealer = some new
  | .closingOld master new old =>
    old = s.before ∧ s.Apart new ∧ s.peer new = some master ∧ s.link = ⟨some new, master⟩

/-- What every step keeps. -/
structure Kept (s : Worker Address) : Prop where
  numbered : ∀ n, s.isOpen n = true ∨ s.link.dealer = some n ∨ s.before.dealer = some n →
    n < s.sockets
  fits : s.Fits s.phase
  /-- the context is terminated only after the locked section of `stop` -/
  halted : s.terminating = true ∨ s.terminated = true → s.running = false

/-! ## What a step does -/

/-- What a step does. -/
inductive Move (s : Worker Address) : Action Address → Worker Address → Prop where
  | began (hphase : s.phase = .idle) :
    Move s .reconnect { s with phase := .discovering, before := s.link }
  | found (master : Address) (hphase : s.phase = .discovering) :
    Move s (.discovered (some master)) { s with phase := .creating master }
  | notFound (hphase : s.phase = .discovering) :
    Move s (.discovered none) { s with phase := .failing none }
  | made (ok : Bool) (master : Address) (hphase : s.phase = .creating master) :
    Move s (.socketMade ok) { s with
      sockets := s.sockets + 1
      isOpen := Function.update s.isOpen s.sockets true
      phase := .connecting master s.sockets }
  | notMade (ok : Bool) (master : Address) (hphase : s.phase = .creating master) :
    Move s (.socketMade ok) { s with phase := .failing none }
  | connected (ok : Bool) (master : Address) (new : Nat)
    (hphase : s.phase = .connecting master new) :
    Move s (.connected ok) { s with
      peer := Function.update s.peer new (some master)
      phase := .acquiring master new }
  | notConnected (ok : Bool) (master : Address) (new : Nat)
    (hphase : s.phase = .connecting master new) :
    Move s (.connected ok) { s with phase := .failing (some new) }
  | acquired (master : Address) (new : Nat) (hphase : s.phase = .acquiring master new) :
    Move s .acquired { s with
      link := { s.link with dealer := some new }
      phase := .registering master new s.link }
  | registered (ok : Bool) (master : Address) (new : Nat) (old : Link Address)
    (hphase : s.phase = .registering master new old) :
    Move s (.registered ok) { s.send ok with
      link := { s.link with master := master }
      phase := .closingOld master new old }
  | notRegistered (ok : Bool) (master : Address) (new : Nat) (old : Link Address)
    (hphase : s.phase = .registering master new old) :
    Move s (.registered ok) (s.rollback new old)
  -- `f` is `isOpen` without the old socket
  | swapped (ok : Bool) (master : Address) (new : Nat) (old : Link Address) (f : Nat → Bool)
    (hphase : s.phase = .closingOld master new old) (hcloses : s.closesOld old ok = true)
    (hopen : ∀ n, f n = true ↔ old.dealer ≠ some n ∧ s.isOpen n = true) :
    Move s (.oldClosed ok) (({ s with isOpen := f } : Worker Address).finish true)
  | notClosed (ok : Bool) (master : Address) (new : Nat) (old : Link Address)
    (hphase : s.phase = .closingOld master new old) (hcannot : ¬ s.closesOld old ok = true) :
    Move s (.oldClosed ok) (s.rollback new old)
  | cleanedUp (ok : Bool) (new : Nat) (hphase : s.phase = .failing (some new)) :
    Move s (.cleanedUp ok)
      (if s.link.dealer ≠ some new ∧ s.works ok then (s.close new).finish false
        else s.finish false)
  | abandoned (ok : Bool) (hphase : s.phase = .failing none) :
    Move s (.cleanedUp ok) (s.finish false)
  | sent (ok : Bool) {a : Action Address}
    (ha : a = .register ok ∨ a = .heartbeat ok ∨ a = .sendEvent ok) : Move s a (s.send ok)
  | silent (ok : Bool) {a : Action Address} (ha : a = .heartbeat ok ∨ a = .sendEvent ok) :
    Move s a s
  | stopped (hunlocked : s.phase.locked = false) : Move s .stop s.stopped
  | terminated (hterminating : s.terminating = true) : Move s .term { s with terminated := true }

theorem isOpen_close {s : Worker Address} {n m : Nat} :
    (s.close n).isOpen m = true ↔ m ≠ n ∧ s.isOpen m = true := by
  simp only [close, Function.update_apply]
  split
  · rename_i hmn
    simp [hmn]
  · rename_i hmn
    simp [hmn]

theorem move_of_step {s s' : Worker Address} {a : Action Address} (hstep : step s a = some s') :
    s.Move a s' := by
  cases a with
  | reconnect =>
    simp only [step] at hstep
    split at hstep <;> cases hstep
    exact .began ‹_›
  | discovered found =>
    simp only [step] at hstep
    split at hstep
    · rename_i hphase
      split at hstep <;> cases hstep
      · exact .notFound hphase
      · exact .found _ hphase
    · cases hstep
  | socketMade ok =>
    simp only [step] at hstep
    split at hstep
    · rename_i hphase
      split at hstep <;> cases hstep
      · exact .made ok _ hphase
      · exact .notMade ok _ hphase
    · cases hstep
  | connected ok =>
    simp only [step] at hstep
    split at hstep
    · rename_i hphase
      split at hstep <;> cases hstep
      · exact .connected ok _ _ hphase
      · exact .notConnected ok _ _ hphase
    · cases hstep
  | acquired =>
    simp only [step] at hstep
    split at hstep <;> cases hstep
    exact .acquired _ _ ‹_›
  | registered ok =>
    simp only [step] at hstep
    split at hstep
    · rename_i hphase
      split at hstep <;> cases hstep
      · exact .registered ok _ _ _ hphase
      · exact .notRegistered ok _ _ _ hphase
    · cases hstep
  | oldClosed ok =>
    simp only [step] at hstep
    split at hstep
    · rename_i hphase
      split at hstep
      · rename_i hcloses
        split at hstep <;> cases hstep
        · rename_i hnone
          refine .swapped ok _ _ _ s.isOpen hphase hcloses ?_
          rw [hnone]
          exact fun n => (and_iff_right nofun).symm
        · rename_i d hd
          refine .swapped ok _ _ _ (s.close d).isOpen hphase hcloses ?_
          intro n
          rw [isOpen_close, hd]
          refine and_congr_left' ⟨?_, ?_⟩
          · exact fun hne hsame => hne (Option.some.inj hsame).symm
          · exact fun hne hsame => hne (congrArg some hsame.symm)
      · rename_i hcannot
        cases hstep
        exact .notClosed ok _ _ _ hphase hcannot
    · cases hstep
  | cleanedUp ok =>
    simp only [step] at hstep
    split at hstep
    · rename_i new hphase
      have hmove := Move.cleanedUp ok new hphase
      split at hstep <;> cases hstep
      · rename_i hcan
        rwa [if_pos hcan] at hmove
      · rename_i hcannot
        rwa [if_neg hcannot] at hmove
    · cases hstep
      exact .abandoned ok ‹_›
    · cases hstep
  | register ok =>
    simp only [step] at hstep
    split at hstep <;> cases hstep
    exact .sent ok (.inl rfl)
  | heartbeat ok =>
    simp only [step] at hstep
    split at hstep
    · cases hstep
    · split at hstep <;> cases hstep
      · exact .sent ok (.inr (.inl rfl))
      · exact .silent ok (.inl rfl)
  | sendEvent ok =>
    simp only [step] at hstep
    split at hstep
    · cases hstep
    · split at hstep <;> cases hstep
      · exact .sent ok (.inr (.inr rfl))
      · exact .silent ok (.inr rfl)
  | stop =>
    simp only [step] at hstep
    split at hstep <;> cases hstep
    rename_i hunlocked
    exact .stopped (by simpa using hunlocked)
  | term =>
    simp only [step] at hstep
    split at hstep <;> cases hstep
    exact .terminated ‹_›

/-! ## What every step keeps -/

theorem kept_init (master : Address) : (init master).Kept := by
  refine ⟨?_, trivial, ?_⟩
  · rintro n (hopen | hdealer | hbefore)
    · simp only [init, decide_eq_true_eq] at hopen
      subst hopen
      exact Nat.one_pos
    · cases hdealer
      exact Nat.one_pos
    · cases hbefore
      exact Nat.one_pos
  · rintro (hterminating | hterminated)
    · cases hterminating
    · cases hterminated

/-- Nothing that the fit reads has changed. -/
theorem Fits.congr {s s' : Worker Address} {phase : Phase Address} (h : s.Fits phase)
    (hlink : s'.link = s.link) (hbefore : s'.before = s.before) (hsockets : s'.sockets = s.sockets)
    (hpeer : s'.peer = s.peer) (hopen : s'.isOpen = s.isOpen) : s'.Fits phase := by
  unfold Fits Apart at h ⊢
  rw [hlink, hbefore, hsockets, hpeer, hopen]
  exact h

/-- A send adds messages, each on the dealer, and nothing else. -/
theorem send_eq (s : Worker Address) (ok : Bool) : ∃ messages : List Message,
    s.send ok = { s with sent := s.sent ++ messages } ∧
      ∀ m ∈ messages, m.dealer = some m.socket := by
  unfold Worker.send
  split
  · exact ⟨[], by rw [List.append_nil], by simp⟩
  · rename_i d hd
    split
    · refine ⟨[⟨d, s.link.dealer⟩], rfl, ?_⟩
      intro m hm
      rw [List.mem_singleton.mp hm]
      exact hd
    · exact ⟨[], by rw [List.append_nil], by simp⟩

theorem kept_send {s : Worker Address} (h : s.Kept) (ok : Bool) : (s.send ok).Kept := by
  obtain ⟨messages, heq, -⟩ := send_eq s ok
  rw [heq]
  exact ⟨h.numbered, h.fits.congr rfl rfl rfl rfl rfl, h.halted⟩

/-- Without the lock, the dealer may be closed under the reconnect in progress. -/
theorem Fits.close {s : Worker Address} (h : s.Fits s.phase) (hunlocked : s.phase.locked = false)
    {d : Nat} (hd : s.link.dealer = some d) : (s.close d).Fits s.phase := by
  have hapart {new : Nat} (hlink : s.link = s.before) (hnew : s.Apart new) :
      (s.close d).Apart new := by
    refine ⟨hnew.1, hnew.2.1, isOpen_close.mpr ⟨?_, hnew.2.2⟩⟩
    intro hnd
    subst hnd
    exact hnew.2.1 (hlink ▸ hd)
  cases hphase : s.phase with
  | idle => trivial
  | discovering => rw [hphase] at h; exact h
  | creating master => rw [hphase] at h; exact h
  | connecting master new => rw [hphase] at h; exact ⟨h.1, hapart h.1 h.2⟩
  | acquiring master new => rw [hphase] at h; exact ⟨h.1, hapart h.1 h.2.1, h.2.2⟩
  | registering master new old => rw [hphase] at hunlocked; cases hunlocked
  | closingOld master new old => rw [hphase] at hunlocked; cases hunlocked
  | failing new =>
    rw [hphase] at h
    cases new with
    | none => exact h
    | some new => exact ⟨h.1, hapart h.1 h.2⟩

theorem kept_stopped {s : Worker Address} (h : s.Kept) (hunlocked : s.phase.locked = false) :
    s.stopped.Kept := by
  have hfits : ({ s with running := false } : Worker Address).Fits s.phase :=
    h.fits.congr rfl rfl rfl rfl rfl
  unfold Worker.stopped
  dsimp only
  split
  · exact ⟨h.numbered, hfits.congr rfl rfl rfl rfl rfl, fun _ => rfl⟩
  · rename_i d hd
    split
    · refine ⟨?_, (hfits.close hunlocked hd).congr rfl rfl rfl rfl rfl, fun _ => rfl⟩
      exact fun n hn => h.numbered n (hn.imp_left fun hopen => (isOpen_close.mp hopen).2)
    · exact ⟨h.numbered, hfits, fun _ => rfl⟩

/-- The reconnect in progress fails where it has left the link alone. -/
theorem kept_failing {s : Worker Address} (h : s.Kept) {new : Option Nat}
    (hfits : s.Fits (.failing new)) : ({ s with phase := .failing new } : Worker Address).Kept :=
  ⟨h.numbered, hfits.congr rfl rfl rfl rfl rfl, h.halted⟩

/-- It fails under the lock, and the link is put back. -/
theorem kept_rollback {s : Worker Address} (h : s.Kept) {new : Nat} (hapart : s.Apart new) :
    (s.rollback new s.before).Kept := by
  refine ⟨?_, ⟨rfl, hapart⟩, h.halted⟩
  rintro n (hopen | hdealer | hbefore)
  · exact h.numbered n (.inl hopen)
  · exact h.numbered n (.inr (.inr hdealer))
  · exact h.numbered n (.inr (.inr hbefore))

theorem kept_finish {s : Worker Address} (h : s.Kept) (reconnected : Bool) :
    (s.finish reconnected).Kept :=
  ⟨h.numbered, trivial, h.halted⟩

/-- A reconnect returns and has only closed sockets. -/
theorem kept_closing_finish {s : Worker Address} (h : s.Kept) {f : Nat → Bool}
    (hf : ∀ n, f n = true → s.isOpen n = true) (reconnected : Bool) :
    (({ s with isOpen := f } : Worker Address).finish reconnected).Kept :=
  ⟨fun n hn => h.numbered n (hn.imp_left (hf n)), trivial, h.halted⟩

/-- A socket is made, open and apart from every other. -/
theorem kept_made {s : Worker Address} (h : s.Kept) {master : Address}
    (hlink : s.link = s.before) :
    ({ s with
      sockets := s.sockets + 1
      isOpen := Function.update s.isOpen s.sockets true
      phase := .connecting master s.sockets } : Worker Address).Kept := by
  refine ⟨?_, ⟨hlink, Nat.lt_succ_self _, ?_, Function.update_self _ _ _⟩, h.halted⟩
  · rintro n (hopen | hn)
    · simp only [Function.update_apply] at hopen
      split at hopen
      · rename_i hn
        rw [hn]
        exact Nat.lt_succ_self _
      · exact Nat.lt_succ_of_lt (h.numbered n (.inl hopen))
    · exact Nat.lt_succ_of_lt (h.numbered n (.inr hn))
  · exact fun hdealer => Nat.lt_irrefl _ (h.numbered s.sockets (.inr (.inr hdealer)))

theorem kept_step {s s' : Worker Address} {a : Action Address} (hstep : step s a = some s')
    (h : s.Kept) : s'.Kept := by
  have hfits := h.fits
  cases move_of_step hstep with
  | began hphase =>
    refine ⟨?_, rfl, h.halted⟩
    exact fun n hn => h.numbered n (hn.imp_right fun hd => .inl (hd.elim id id))
  | found master hphase =>
    rw [hphase] at hfits
    exact ⟨h.numbered, hfits, h.halted⟩
  | notFound hphase =>
    rw [hphase] at hfits
    exact kept_failing h hfits
  | made ok master hphase =>
    rw [hphase] at hfits
    exact kept_made h hfits
  | notMade ok master hphase =>
    rw [hphase] at hfits
    exact kept_failing h hfits
  | connected ok master new hphase =>
    rw [hphase] at hfits
    exact ⟨h.numbered, ⟨hfits.1, hfits.2, Function.update_self _ _ _⟩, h.halted⟩
  | notConnected ok master new hphase =>
    rw [hphase] at hfits
    exact kept_failing h hfits
  | acquired master new hphase =>
    rw [hphase] at hfits
    obtain ⟨hlink, hapart, hpeer⟩ := hfits
    refine ⟨?_, ⟨hlink, hapart, hpeer, rfl⟩, h.halted⟩
    rintro n (hopen | hdealer | hbefore)
    · exact h.numbered n (.inl hopen)
    · cases hdealer
      exact hapart.1
    · exact h.numbered n (.inr (.inr hbefore))
  | registered ok master new old hphase =>
    rw [hphase] at hfits
    obtain ⟨hold, hapart, hpeer, hdealer⟩ := hfits
    obtain ⟨messages, heq, -⟩ := send_eq s ok
    rw [heq]
    refine ⟨h.numbered, ⟨hold, hapart, hpeer, ?_⟩, h.halted⟩
    exact congrArg (Link.mk · master) hdealer
  | notRegistered ok master new old hphase =>
    rw [hphase] at hfits
    obtain ⟨rfl, hapart, -⟩ := hfits
    exact kept_rollback h hapart
  | swapped ok master new old f hphase hcloses hopen =>
    exact kept_closing_finish h (fun n hn => ((hopen n).mp hn).2) true
  | notClosed ok master new old hphase hcannot =>
    rw [hphase] at hfits
    obtain ⟨rfl, hapart, -⟩ := hfits
    exact kept_rollback h hapart
  | cleanedUp ok new hphase =>
    split
    · exact kept_closing_finish h (fun n hn => (isOpen_close.mp hn).2) false
    · exact kept_finish h false
  | abandoned ok hphase => exact kept_finish h false
  | sent ok ha => exact kept_send h ok
  | silent ok ha => exact h
  | stopped hunlocked => exact kept_stopped h hunlocked
  | terminated hterminating =>
    exact ⟨h.numbered, h.fits.congr rfl rfl rfl rfl rfl, fun _ => h.halted (.inl hterminating)⟩

/-! ## The owners, step by step -/

/-- A reconnect that has returned leaves no socket open when every open socket has an owner and the
dealer is closed. -/
theorem owned_of {s : Worker Address} (hsent : ∀ m ∈ s.sent, m.dealer = some m.socket)
    (hundone : ∀ a ∈ s.attempts, a.reconnected = false → Attempt.Undone a)
    (hdone : ∀ a ∈ s.attempts, a.reconnected = true → Attempt.Done a)
    (howner : ∀ n, s.isOpen n = true → s.standing.dealer = some n ∨ s.phase.created = some n)
    (hdown : s.running = false → ∀ n, s.standing.dealer = some n → s.isOpen n = false) :
    s.Owned := by
  refine ⟨hsent, hundone, hdone, ?_, howner, hdown⟩
  intro hstopped hidle n
  rw [Bool.eq_false_iff]
  intro hopen
  rcases howner n hopen with hdealer | hcreated
  · rw [hdown hstopped n hdealer] at hopen
    cases hopen
  · rw [hidle] at hcreated
    cases hcreated

/-- A step that leaves the sockets, the standing link and the record of the reconnects alone. -/
theorem Owned.frame {s s' : Worker Address} (h : s.Owned) (hsent : s'.sent = s.sent)
    (hattempts : s'.attempts = s.attempts) (hrunning : s'.running = s.running)
    (hopen : s'.isOpen = s.isOpen) (hstanding : s'.standing = s.standing)
    (hcreated : ∀ n, s.phase.created = some n → s'.phase.created = some n) : s'.Owned := by
  apply owned_of
  · rw [hsent]
    exact h.sent
  · rw [hattempts]
    exact h.undone
  · rw [hattempts]
    exact h.done
  · intro n hn
    rw [hopen] at hn
    rw [hstanding]
    exact (h.owner n hn).imp_right (hcreated n)
  · rw [hrunning, hopen, hstanding]
    exact h.down

theorem Owned.send {s : Worker Address} (h : s.Owned) (ok : Bool) : (s.send ok).Owned := by
  obtain ⟨messages, heq, hdealer⟩ := send_eq s ok
  rw [heq]
  refine owned_of ?_ h.undone h.done h.owner h.down
  intro m hm
  exact (List.mem_append.mp hm).elim (h.sent m) (hdealer m)

/-- Without the lock, the link is the one that stands. -/
theorem standing_of_unlocked {s : Worker Address} (hkept : s.Kept)
    (hunlocked : s.phase.locked = false) : s.standing = s.link := by
  have hfits := hkept.fits
  unfold standing
  cases hphase : s.phase with
  | idle => rfl
  | discovering => rw [hphase] at hfits; exact hfits.symm
  | creating master => rw [hphase] at hfits; exact hfits.symm
  | connecting master new => rw [hphase] at hfits; exact hfits.1.symm
  | acquiring master new => rw [hphase] at hfits; exact hfits.1.symm
  | registering master new old => rw [hphase] at hunlocked; cases hunlocked
  | closingOld master new old => rw [hphase] at hunlocked; cases hunlocked
  | failing new =>
    rw [hphase] at hfits
    cases new with
    | none => exact hfits.symm
    | some new => exact hfits.1.symm

/-- The locked section of `stop` closes the dealer, whatever a reconnect in progress is at. -/
theorem Owned.halt {s : Worker Address} (h : s.Owned) (hkept : s.Kept)
    (hunlocked : s.phase.locked = false) : s.stopped.Owned := by
  have hstanding := standing_of_unlocked hkept hunlocked
  unfold Worker.stopped
  dsimp only
  split
  · rename_i hnone
    refine owned_of h.sent h.undone h.done h.owner ?_
    intro _ n hn
    change s.standing.dealer = some n at hn
    rw [hstanding, hnone] at hn
    cases hn
  · rename_i d hd
    split
    · refine owned_of h.sent h.undone h.done ?_ ?_
      · exact fun n hn => h.owner n (isOpen_close.mp hn).2
      · intro _ n hn
        change s.standing.dealer = some n at hn
        rw [hstanding, hd] at hn
        cases hn
        exact Function.update_self _ _ _
    · rename_i hcannot
      refine owned_of h.sent h.undone h.done h.owner ?_
      intro _ n hn
      change s.standing.dealer = some n at hn
      show s.isOpen n = false
      have hn' := hn
      rw [hstanding, hd] at hn'
      cases hn'
      rw [Bool.eq_false_iff]
      intro hopen
      -- only a terminated context makes `setsockopt` raise, and then the dealer was closed before
      have hterminated : s.terminated = true := by
        simpa [hopen, works] using hcannot
      have hclosed := h.down (hkept.halted (.inr hterminated)) d hn
      rw [hclosed] at hopen
      cases hopen

/-- A reconnect returns, and its outcome is what it should be. -/
theorem Owned.finish {r s : Worker Address} (h : r.Owned) (hsent : s.sent = r.sent)
    (hattempts : s.attempts = r.attempts) {reconnected : Bool}
    (hundone : reconnected = false →
      Attempt.Undone ⟨reconnected, s.before, s.link, s.phase.created, s.isOpen, s.peer⟩)
    (hdone : reconnected = true →
      Attempt.Done ⟨reconnected, s.before, s.link, s.phase.created, s.isOpen, s.peer⟩)
    (howner : ∀ n, s.isOpen n = true → s.link.dealer = some n)
    (hdown : s.running = false → ∀ n, s.link.dealer = some n → s.isOpen n = false) :
    (s.finish reconnected).Owned := by
  have hmem {a : Attempt Address} (ha : a ∈ (s.finish reconnected).attempts) : a ∈ r.attempts ∨
      a = ⟨reconnected, s.before, s.link, s.phase.created, s.isOpen, s.peer⟩ := by
    rw [← hattempts]
    exact (List.mem_append.mp ha).imp_right List.mem_singleton.mp
  refine owned_of ?_ ?_ ?_ (fun n hn => .inl (howner n hn)) hdown
  · show ∀ m ∈ s.sent, _
    rw [hsent]
    exact h.sent
  · intro a ha hfalse
    rcases hmem ha with hold | rfl
    · exact h.undone a hold hfalse
    · exact hundone hfalse
  · intro a ha htrue
    rcases hmem ha with hold | rfl
    · exact h.done a hold htrue
    · exact hdone htrue

/-- The handler puts the link back; the new socket is still the reconnect's to close. -/
theorem Owned.rollback {s : Worker Address} (h : s.Owned) {new : Nat}
    (hbusy : s.phase ≠ .idle) (hnew : s.phase.created = some new) :
    (s.rollback new s.before).Owned := by
  have hstanding : s.standing = s.before := by
    unfold standing
    split
    · rename_i hidle
      exact absurd hidle hbusy
    · rfl
  refine h.frame rfl rfl rfl rfl hstanding.symm ?_
  intro n hn
  rw [hnew] at hn
  exact hn

/-- The last step of a reconnect that swapped the link: the sockets keep their owners exactly when
the worker has not been stopped. -/
theorem owned_swap_iff {s : Worker Address} (h : s.Owned) (hkept : s.Kept) {master : Address}
    {new : Nat} {old : Link Address} (hphase : s.phase = .closingOld master new old)
    {f : Nat → Bool}
    (hopen : ∀ n, f n = true ↔ s.before.dealer ≠ some n ∧ s.isOpen n = true) :
    (({ s with isOpen := f } : Worker Address).finish true).Owned ↔ s.running = true := by
  have hfits := hkept.fits
  rw [hphase] at hfits
  obtain ⟨-, ⟨-, hne, hnew⟩, hpeer, hlink⟩ := hfits
  constructor
  · intro howned
    by_contra hstopped
    -- the new socket is the dealer of a stopped worker, and open
    have hdown : s.running = false := by simpa using hstopped
    have hclosed := howned.down hdown new (congrArg Link.dealer hlink)
    change f new = false at hclosed
    rw [(hopen new).mpr ⟨hne, hnew⟩] at hclosed
    cases hclosed
  · intro hrunning
    refine Owned.finish (r := s) (s := { s with isOpen := f }) h rfl rfl
      (fun hfalse => by cases hfalse) ?_ ?_ ?_
    · intro _
      refine ⟨new, ?_, congrArg Link.dealer hlink, ?_, ?_⟩
      · show s.phase.created = some new
        rw [hphase]
        rfl
      · show s.peer new = some s.link.master
        rw [hlink]
        exact hpeer
      · intro d hd
        show f d = false
        rw [Bool.eq_false_iff]
        exact fun hstill => ((hopen d).mp hstill).1 hd
    · intro n hn
      obtain ⟨hnot, hold⟩ := (hopen n).mp hn
      have hstanding : s.standing = s.before := by
        unfold standing
        rw [hphase]
      rcases h.owner n hold with hdealer | hcreated
      · rw [hstanding] at hdealer
        exact absurd hdealer hnot
      · rw [hphase] at hcreated
        rw [← hcreated]
        exact congrArg Link.dealer hlink
    · intro hstopped
      change s.running = false at hstopped
      rw [hrunning] at hstopped
      cases hstopped

/-- The handler closes the new socket, or fails to. -/
theorem owned_cleanup_iff {s : Worker Address} (h : s.Owned) (hkept : s.Kept) {new : Nat}
    (hphase : s.phase = .failing (some new)) (ok : Bool) :
    (if s.link.dealer ≠ some new ∧ s.works ok then (s.close new).finish false
      else s.finish false).Owned ↔ s.works ok = true := by
  have hfits := hkept.fits
  rw [hphase] at hfits
  obtain ⟨hlink, -, hne, hnew⟩ := hfits
  have hnot : s.link.dealer ≠ some new := by
    rw [hlink]
    exact hne
  have hstanding : s.standing = s.link := standing_of_unlocked hkept (by rw [hphase]; rfl)
  by_cases hworks : s.works ok = true
  · rw [if_pos ⟨hnot, hworks⟩]
    refine iff_of_true (Owned.finish (r := s) (s := s.close new) h rfl rfl ?_
      (fun hfalse => by cases hfalse) ?_ ?_) hworks
    · intro _
      refine ⟨hlink, ?_⟩
      intro n hn
      change s.phase.created = some n at hn
      rw [hphase] at hn
      cases hn
      exact Function.update_self _ _ _
    · intro n hn
      obtain ⟨hnn, hold⟩ := isOpen_close.mp hn
      show s.link.dealer = some n
      rw [← hstanding]
      refine (h.owner n hold).resolve_right ?_
      intro hcreated
      rw [hphase] at hcreated
      cases hcreated
      exact hnn rfl
    · intro hstopped n hn
      rw [Bool.eq_false_iff]
      intro hopen
      change s.link.dealer = some n at hn
      rw [← hstanding] at hn
      have hclosed := h.down hstopped n hn
      rw [(isOpen_close.mp hopen).2] at hclosed
      cases hclosed
  · rw [if_neg fun hboth => hworks hboth.2]
    refine iff_of_false ?_ hworks
    intro howned
    -- the new socket is open and nobody's
    rcases howned.owner new hnew with hdealer | hcreated
    · exact hnot hdealer
    · cases hcreated

/-- A reconnect that made no socket returns. -/
theorem Owned.abandon {s : Worker Address} (h : s.Owned) (hkept : s.Kept)
    (hphase : s.phase = .failing none) : (s.finish false).Owned := by
  have hlink : s.link = s.before := by
    have hfits := hkept.fits
    rw [hphase] at hfits
    exact hfits
  have hstanding : s.standing = s.link := standing_of_unlocked hkept (by rw [hphase]; rfl)
  refine Owned.finish (r := s) (s := s) h rfl rfl ?_ (fun hfalse => by cases hfalse) ?_ ?_
  · intro _
    refine ⟨hlink, ?_⟩
    intro n hn
    change s.phase.created = some n at hn
    rw [hphase] at hn
    cases hn
  · intro n hn
    rw [← hstanding]
    refine (h.owner n hn).resolve_right ?_
    rw [hphase]
    exact nofun
  · rw [← hstanding]
    exact h.down

/-- A socket is made, and it is the one of the reconnect in progress. -/
theorem Owned.made {s : Worker Address} (h : s.Owned) (hkept : s.Kept) {master : Address}
    (hphase : s.phase = .creating master) :
    ({ s with
      sockets := s.sockets + 1
      isOpen := Function.update s.isOpen s.sockets true
      phase := .connecting master s.sockets } : Worker Address).Owned := by
  have hstanding : s.standing = s.before := by simp only [standing, hphase]
  refine owned_of h.sent h.undone h.done ?_ ?_
  · intro n hn
    simp only [Function.update_apply] at hn
    split at hn
    · rename_i hnew
      rw [hnew]
      exact .inr rfl
    · left
      have howner := (h.owner n hn).resolve_right (by rw [hphase]; exact nofun)
      rw [hstanding] at howner
      exact howner
  · intro hstopped n hn
    change s.before.dealer = some n at hn
    -- the socket that was just made is not the one that stands
    have hne : n ≠ s.sockets := Nat.ne_of_lt (hkept.numbered n (.inr (.inr hn)))
    show Function.update s.isOpen s.sockets true n = false
    rw [Function.update_of_ne hne]
    exact h.down hstopped n (hstanding ▸ hn)

/-- The address is swapped after the send, under the lock. -/
theorem Owned.registered {s : Worker Address} (h : s.Owned) {master : Address} {new : Nat}
    {old : Link Address} (hphase : s.phase = .registering master new old) (ok : Bool) :
    ({ s.send ok with
      link := { s.link with master := master }
      phase := .closingOld master new old } : Worker Address).Owned := by
  have hsend := h.send ok
  obtain ⟨messages, heq, -⟩ := send_eq s ok
  rw [heq] at hsend ⊢
  refine hsend.frame rfl rfl rfl rfl ?_ ?_
  · simp only [standing, hphase]
  · show ∀ n, s.phase.created = some n → _
    rw [hphase]
    exact fun n hn => hn

theorem keepsOwned_oldClosed {s : Worker Address} {master : Address} {new : Nat}
    {old : Link Address} (hphase : s.phase = .closingOld master new old) (ok : Bool) :
    s.keepsOwned (.oldClosed ok) ↔ (s.closesOld old ok = true → s.running = true) := by
  unfold keepsOwned
  rw [hphase]
  constructor
  · exact fun hkeeps => hkeeps master new old rfl
  · intro hkeeps m n old' hsame
    cases hsame
    exact hkeeps

theorem keepsOwned_cleanedUp {s : Worker Address} {new : Nat}
    (hphase : s.phase = .failing (some new)) (ok : Bool) :
    s.keepsOwned (.cleanedUp ok) ↔ s.works ok = true := by
  unfold keepsOwned
  rw [hphase]
  exact ⟨fun hkeeps => hkeeps new rfl, fun hworks _ _ => hworks⟩

/-- From a state in which sockets are owned, a step leads to one exactly when it meets the
condition. -/
theorem owned_step_iff {s s' : Worker Address} {a : Action Address} (hstep : step s a = some s')
    (hkept : s.Kept) (h : s.Owned) : s'.Owned ↔ s.keepsOwned a := by
  have hfits := hkept.fits
  cases move_of_step hstep with
  | began hphase =>
    refine iff_of_true (h.frame rfl rfl rfl rfl ?_ ?_) trivial
    · simp only [standing, hphase]
    · rw [hphase]
      exact nofun
  | found master hphase =>
    refine iff_of_true (h.frame rfl rfl rfl rfl ?_ ?_) trivial
    · simp only [standing, hphase]
    · rw [hphase]
      exact nofun
  | notFound hphase =>
    refine iff_of_true (h.frame rfl rfl rfl rfl ?_ ?_) trivial
    · simp only [standing, hphase]
    · rw [hphase]
      exact nofun
  | made ok master hphase => exact iff_of_true (h.made hkept hphase) trivial
  | notMade ok master hphase =>
    refine iff_of_true (h.frame rfl rfl rfl rfl ?_ ?_) trivial
    · simp only [standing, hphase]
    · rw [hphase]
      exact nofun
  | connected ok master new hphase =>
    refine iff_of_true (h.frame rfl rfl rfl rfl ?_ ?_) trivial
    · simp only [standing, hphase]
    · rw [hphase]
      exact fun n hn => hn
  | notConnected ok master new hphase =>
    refine iff_of_true (h.frame rfl rfl rfl rfl ?_ ?_) trivial
    · simp only [standing, hphase]
    · rw [hphase]
      exact fun n hn => hn
  | acquired master new hphase =>
    refine iff_of_true (h.frame rfl rfl rfl rfl ?_ ?_) trivial
    · simp only [standing, hphase]
    · rw [hphase]
      exact fun n hn => hn
  | registered ok master new old hphase => exact iff_of_true (h.registered hphase ok) trivial
  | notRegistered ok master new old hphase =>
    rw [hphase] at hfits
    obtain ⟨rfl, -⟩ := hfits
    exact iff_of_true (h.rollback (by simp [hphase]) (by rw [hphase]; rfl)) trivial
  | swapped ok master new old f hphase hcloses hopen =>
    rw [hphase] at hfits
    obtain ⟨rfl, -⟩ := hfits
    rw [keepsOwned_oldClosed hphase, imp_iff_right hcloses]
    exact owned_swap_iff h hkept hphase hopen
  | notClosed ok master new old hphase hcannot =>
    rw [keepsOwned_oldClosed hphase]
    rw [hphase] at hfits
    obtain ⟨rfl, -⟩ := hfits
    exact iff_of_true (h.rollback (by simp [hphase]) (by rw [hphase]; rfl))
      fun hcloses => absurd hcloses hcannot
  | cleanedUp ok new hphase =>
    rw [keepsOwned_cleanedUp hphase]
    exact owned_cleanup_iff h hkept hphase ok
  | abandoned ok hphase =>
    refine iff_of_true (h.abandon hkept hphase) ?_
    unfold keepsOwned
    rw [hphase]
    exact nofun
  | sent ok ha =>
    refine iff_of_true (h.send ok) ?_
    rcases ha with rfl | rfl | rfl <;> trivial
  | silent ok ha =>
    refine iff_of_true h ?_
    rcases ha with rfl | rfl <;> trivial
  | stopped hunlocked => exact iff_of_true (h.halt hkept hunlocked) trivial
  | terminated hterminating =>
    exact iff_of_true (h.frame rfl rfl rfl rfl rfl fun n hn => hn) trivial

/-! ## Every interleaving -/

theorem owned_init (master : Address) : (init master).Owned := by
  refine owned_of nofun nofun nofun ?_ nofun
  intro n hn
  simp only [init, decide_eq_true_eq] at hn
  subst hn
  exact .inl rfl

/-- Sockets are owned after every step of an interleaving exactly when every step meets the
condition. -/
theorem owned_iff (master : Address) (actions : List (Action Address)) :
    (∀ k s, Machine.exec step (init master) (actions.take k) = some s → s.Owned)
      ↔ Machine.Along step (fun s a => (step s a).isSome = true → s.keepsOwned a) (init master)
          actions := by
  apply Machine.always_iff_along_of_step (J := Kept) (kept_init master)
  · exact fun s a s' hs hstep => kept_step hstep hs
  · exact fun s a hstep henabled => by simp [hstep] at henabled
  · intro s a s' hs howned hstep
    have henabled : (step s a).isSome = true := by rw [hstep]; rfl
    rw [owned_step_iff hstep hs howned, imp_iff_right henabled]
  · exact owned_init master

/-- `stop` runs while the reconnect is on its way to the lock. -/
def stoppedOnTheWay : List (Action Nat) :=
  [.reconnect, .discovered (some 1), .socketMade true, .connected true, .stop, .acquired,
    .registered true, .oldClosed true]

theorem open_after_stop :
    ¬ ∀ k s, Machine.exec step (init 0) (stoppedOnTheWay.take k) = some s → s.Owned := by
  intro hall
  have hend : (Machine.exec step (init 0) stoppedOnTheWay).map
      (fun s => (s.running, s.link.dealer, s.isOpen 1, s.attempts.map Attempt.reconnected))
        = some (false, some 1, true, [true]) := by rfl
  have hidle : (Machine.exec step (init 0) stoppedOnTheWay).map Worker.phase = some .idle := by rfl
  obtain ⟨s, hs, hphase⟩ := Option.map_eq_some_iff.mp hidle
  rw [hs, Option.map_some, Option.some.injEq] at hend
  simp only [Prod.mk.injEq] at hend
  have hclosed := (hall 8 s hs).stopped hend.1 hphase 1
  rw [hend.2.2.1] at hclosed
  cases hclosed

end Worker

end NexusN3.WorkerLink
