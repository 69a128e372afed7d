import NexusN3.Plugins.RecoveryBarrier

/-!
# Late writes

A recovery retires the requests that were sent before it was called. Those that are not quiet then
can still write, whatever happened before: whoever holds the lock can finish, and nothing that a
request checks is in its way.

* **`Calm`** — steps that do not lift the quarantine.
* **`Spares`** — no such steps lead to a late write.
* **`writesLate_of_not_quiet`** — from a retired request that is not quiet they do.
* **`recovery_barrier_iff`** — every state of a run spares its retired requests exactly when the
  recoveries that return are quiesced.
-/

namespace NexusN3.Plugins.Runtime

open Lib

/-! ## What is left of a write -/

namespace Write

variable {c : Core} {operation : Option Nat} {write : Write}

/-- How many steps there are to its answer. -/
def rank : Write → Nat
  | .sent => 6
  | .received => 5
  | .current => 4
  | .notQuarantined => 3
  | .notAborted => 2
  | .scheduled _ => 1
  | .performed | .refused => 0

/-- No check of the operation stops the write. -/
def Open (c : Core) (operation : Option Nat) (write : Write) : Prop :=
  write.passed = true ∨ write.answered = false ∧ c.check operation = true

/-- A write that is not answered goes on, or waits on the loop. -/
theorem advance_of_open (h : write.answered = false) (c : Core) (operation : Option Nat) :
    (∃ giveUp, write = .scheduled giveUp) ∨
      ∃ write', write.advance c operation = some write' ∧ write'.rank < write.rank := by
  cases write with
  | sent => exact .inr ⟨_, rfl, by split <;> decide⟩
  | received => exact .inr ⟨_, rfl, by split <;> decide⟩
  | current => exact .inr ⟨_, rfl, by split <;> decide⟩
  | notQuarantined => exact .inr ⟨_, rfl, by split <;> decide⟩
  | notAborted => exact .inr ⟨_, rfl, Nat.lt_succ_self 1⟩
  | scheduled giveUp => exact .inl ⟨giveUp, rfl⟩
  | performed => cases h
  | refused => cases h

theorem Open.answered (h : write.Open c operation) : write.answered = false := by
  rcases h with hpassed | ⟨hopen, -⟩
  · cases write <;> first | rfl | cases hpassed
  · exact hopen

/-- With no quarantine and no abort, no check is left that stops it. -/
theorem Open.advance (h : write.Open c operation) (hquarantined : c.physicalStopQuarantined = false)
    (haborted : c.cleanupAborted = false) {write' : Write}
    (hadvance : write.advance c operation = some write') : write'.Open c operation := by
  cases write with
  | sent =>
    rcases h with hpassed | ⟨-, hcheck⟩
    · cases hpassed
    · cases hadvance
      exact .inr ⟨by simp [hcheck, Write.answered], hcheck⟩
  | received =>
    rcases h with hpassed | ⟨-, hcheck⟩
    · cases hpassed
    · cases hadvance
      exact .inl (by simp [hcheck, passed])
  | current =>
    cases hadvance
    exact .inl (by simp [hquarantined, passed])
  | notQuarantined =>
    cases hadvance
    exact .inl (by simp [haborted, passed])
  | notAborted =>
    cases hadvance
    exact .inl rfl
  | scheduled giveUp => cases hadvance
  | performed => cases hadvance
  | refused => cases hadvance

end Write

namespace Proxy

/-! ## Calm steps -/

/-- No step on the way may lift the quarantine. -/
abbrev Calm (s t : Proxy) : Prop := Machine.Run step (fun _ a => a.lifts = false) s t

def WritesLate (s : Proxy) : Prop :=
  ∃ t, s.Calm t ∧ ∃ req ∈ t.requests, req.wroteLate = true

/-- What the threads of one request do while no other thread runs. -/
structure Drives (s : Proxy) (r : Nat) (t : Proxy) : Prop where
  calm : s.Calm t
  core : t.toCore = s.toCore
  others : ∀ j, j ≠ r → t.requests[j]? = s.requests[j]?

variable {s t u : Proxy} {r : Nat} {req req' : Request} {turn : Turn}

theorem Drives.refl (s : Proxy) (r : Nat) : s.Drives r s := ⟨.refl, rfl, fun _ _ => rfl⟩

theorem Drives.trans (h : s.Drives r t) (h' : t.Drives r u) : s.Drives r u :=
  ⟨h.calm.trans h'.calm, h'.core.trans h.core,
    fun j hj => (h'.others j hj).trans (h.others j hj)⟩

theorem WritesLate.of_calm (h : s.Calm t) (hlate : t.WritesLate) : s.WritesLate := by
  obtain ⟨u, hcalm, hreq⟩ := hlate
  exact ⟨u, h.trans hcalm, hreq⟩

theorem drives_turn (hreq : s.requests[r]? = some req)
    (hturn : req.turn s.toCore s.lock.isNone turn = some req') :
    s.Drives r (s.afterTurn r turn req') := by
  refine ⟨.tail (.request r turn) .refl rfl ?_, rfl, ?_⟩
  · simp only [step, hreq, Option.bind_some, requestTurn, hturn, Option.map_some]
  · exact fun j hj => List.getElem?_set_ne (Ne.symm hj)

theorem get_afterTurn (hreq : s.requests[r]? = some req) (turn : Turn) (req' : Request) :
    (s.afterTurn r turn req').requests[r]? = some req' := by
  obtain ⟨hlt, -⟩ := List.getElem?_eq_some_iff.mp hreq
  exact List.getElem?_set_self hlt

theorem get_setWrite {i : Nat} {write : Write} (hwrite : req.writes[i]? = some write)
    (write' : Write) : (req.setWrite i write').writes[i]? = some write' := by
  obtain ⟨hlt, -⟩ := List.getElem?_eq_some_iff.mp hwrite
  exact List.getElem?_set_self hlt

theorem turn_advance {i : Nat} {write write' : Write} (hwrite : req.writes[i]? = some write)
    (hadvance : write.advance s.toCore req.operation = some write') :
    req.turn s.toCore s.lock.isNone (.advance i) = some (req.setWrite i write') := by
  simp only [Request.turn, hwrite, Option.bind_some, hadvance, Option.map_some]

/-! ## The lock is let go -/

/-- A write is answered. Induction on the steps it has left. -/
theorem drives_answered {n i : Nat} {write : Write} (hrank : write.rank ≤ n)
    (hreq : s.requests[r]? = some req) (hwrite : req.writes[i]? = some write) :
    ∃ t req' write', s.Drives r t ∧ t.requests[r]? = some req' ∧ req'.phase = req.phase ∧
      req'.writes.length = req.writes.length ∧ req'.writes[i]? = some write' ∧
      write'.answered = true := by
  induction n generalizing s req write with
  | zero =>
    refine ⟨s, req, write, .refl s r, hreq, rfl, rfl, hwrite, ?_⟩
    cases write <;> first | rfl | cases hrank
  | succ n ih =>
    cases hanswered : write.answered with
    | true => exact ⟨s, req, write, .refl s r, hreq, rfl, rfl, hwrite, hanswered⟩
    | false =>
      rcases Write.advance_of_open hanswered s.toCore req.operation with
        ⟨giveUp, rfl⟩ | ⟨write', hadvance, hless⟩
      · have hturn : req.turn s.toCore s.lock.isNone (.perform i) = some
            { req.setWrite i .performed with
              wroteLate := req.wroteLate || (req.retired && req.method.physical) } := by
          simp only [Request.turn, hwrite]
        exact ⟨_, _, .performed, drives_turn hreq hturn, get_afterTurn hreq _ _, rfl,
          List.length_set, get_setWrite hwrite .performed, rfl⟩
      · have hturn := turn_advance hwrite hadvance
        obtain ⟨t, req', last, hdrives, hreq', hphase, hlength, hlast, hdone⟩ :=
          ih (by omega) (get_afterTurn hreq (.advance i) _) (get_setWrite hwrite write')
        exact ⟨t, req', last, (drives_turn hreq hturn).trans hdrives, hreq', hphase,
          hlength.trans List.length_set, hlast, hdone⟩

/-- A handler that is executing finishes. -/
theorem drives_unlocked (hreq : s.requests[r]? = some req) (hwellformed : req.Wellformed)
    (hholds : req.phase.holds = true) : ∃ t, s.Drives r t ∧ t.lock = none := by
  have hfinish {s : Proxy} {req : Request} (hreq : s.requests[r]? = some req)
      (hphase : req.phase = .running) : ∃ t, s.Drives r t ∧ t.lock = none := by
    have hturn : req.turn s.toCore s.lock.isNone (.finish true)
        = some { req with phase := .finished true } := by
      simp only [Request.turn, hphase]
    exact ⟨_, drives_turn hreq hturn, rfl⟩
  cases hphase : req.phase with
  | running => exact hfinish hreq hphase
  | writing giveUp =>
    have hlength : 0 < req.writes.length := List.length_pos_iff.mpr (hwellformed giveUp hphase)
    have hlast : req.writes[req.writes.length - 1]? = some (req.writes[req.writes.length - 1]) :=
      List.getElem?_eq_getElem (by omega)
    obtain ⟨t, req', write', hdrives, hreq', hphase', hsame, hwrite', hanswered⟩ :=
      drives_answered (Nat.le_refl _) hreq hlast
    have hturn : req'.turn t.toCore t.lock.isNone .answered
        = some { req' with phase := .running } := by
      simp only [Request.turn, hphase', hphase, List.getLast?_eq_getElem?, hsame, hwrite',
        hanswered, if_true]
    have hrunning : (t.afterTurn r .answered { req' with phase := .running }).requests[r]?
        = some { req' with phase := .running } := get_afterTurn hreq' .answered _
    obtain ⟨u, hdrives', hlock⟩ := hfinish hrunning rfl
    exact ⟨u, (hdrives.trans (drives_turn hreq' hturn)).trans hdrives', hlock⟩
  | sent => rw [hphase] at hholds; cases hholds
  | checked => rw [hphase] at hholds; cases hholds
  | finished ok => rw [hphase] at hholds; cases hholds

/-! ## A retired request that is not quiet -/

/-- Nothing but its operation stands in the way of a request. -/
structure Free (s : Proxy) (r : Nat) (req : Request) : Prop where
  quarantined : s.physicalStopQuarantined = false
  aborted : s.cleanupAborted = false
  request : s.requests[r]? = some req
  retired : req.retired = true
  physical : req.method.physical = true

theorem Free.after (h : s.Free r req) (hturn : req.turn s.toCore s.lock.isNone turn = some req') :
    (s.afterTurn r turn req').Free r req' := by
  have hsame : req'.retired = req.retired ∧ req'.method = req.method := by
    cases Request.move_of_turn hturn <;> exact ⟨rfl, rfl⟩
  refine ⟨h.quarantined, h.aborted, get_afterTurn h.request turn req', ?_, ?_⟩
  · rw [hsame.1]
    exact h.retired
  · rw [hsame.2]
    exact h.physical

/-- An open write is performed. Induction on the steps it has left. -/
theorem writesLate_of_open {n i : Nat} {write : Write} (h : s.Free r req) (hrank : write.rank ≤ n)
    (hwrite : req.writes[i]? = some write) (hopen : write.Open s.toCore req.operation) :
    s.WritesLate := by
  induction n generalizing s req write with
  | zero =>
    have hanswered := hopen.answered
    cases write with
    | performed => cases hanswered
    | refused => cases hanswered
    | _ => cases hrank
  | succ n ih =>
    rcases Write.advance_of_open hopen.answered s.toCore req.operation with
      ⟨giveUp, rfl⟩ | ⟨write', hadvance, hless⟩
    · have hturn : req.turn s.toCore s.lock.isNone (.perform i) = some
          { req.setWrite i .performed with
            wroteLate := req.wroteLate || (req.retired && req.method.physical) } := by
        simp only [Request.turn, hwrite]
      refine ⟨_, (drives_turn h.request hturn).calm, _,
        List.mem_of_getElem? (get_afterTurn h.request _ _), ?_⟩
      simp only [h.retired, h.physical, Bool.and_self, Bool.or_true]
    · have hturn := turn_advance hwrite hadvance
      exact .of_calm (drives_turn h.request hturn).calm
        (ih (h.after hturn) (by omega) (get_setWrite hwrite write')
          (hopen.advance h.quarantined h.aborted hadvance))

theorem writesLate_of_running (h : s.Free r req) (hcheck : s.check req.operation = true)
    (hphase : req.phase = .running) : s.WritesLate := by
  have hturn : req.turn s.toCore s.lock.isNone .write = some { req with
      phase := .writing (s.now + s.patience req.operation)
      writes := req.writes ++ [.sent] } := by
    simp only [Request.turn, hphase, Core.aheadOf_of_check hcheck, if_true]
  have hwrite : (req.writes ++ [Write.sent])[req.writes.length]? = some .sent := by simp
  exact .of_calm (drives_turn h.request hturn).calm
    (writesLate_of_open (h.after hturn) (Nat.le_refl _) hwrite (.inr ⟨rfl, hcheck⟩))

theorem writesLate_of_acquired (h : s.Free r req) (hcheck : s.check req.operation = true)
    (hphase : req.phase = .checked) (hlock : s.lock = none) : s.WritesLate := by
  have hturn : req.turn s.toCore s.lock.isNone .acquire = some { req with phase := .running } := by
    simp only [Request.turn, hphase, hlock, Option.isNone_none, if_true]
  exact .of_calm (drives_turn h.request hturn).calm
    (writesLate_of_running (h.after hturn) hcheck rfl)

theorem writesLate_of_checked (hs : s.Sane) (h : s.Free r req)
    (hcheck : s.check req.operation = true) (hphase : req.phase = .checked) : s.WritesLate := by
  cases hlock : s.lock with
  | none => exact writesLate_of_acquired h hcheck hphase hlock
  | some holder =>
    obtain ⟨other, hother, hholds⟩ := hs.held holder hlock
    have hne : r ≠ holder := by
      rintro rfl
      cases h.request.symm.trans hother
      rw [hphase] at hholds
      cases hholds
    obtain ⟨t, hdrives, hunlocked⟩ :=
      drives_unlocked hother (hs.wellformed other (List.mem_of_getElem? hother)) hholds
    have hfree : t.Free r req := by
      refine ⟨?_, ?_, (hdrives.others r hne).trans h.request, h.retired, h.physical⟩
      · rw [hdrives.core]
        exact h.quarantined
      · rw [hdrives.core]
        exact h.aborted
    have hcheck' : t.check req.operation = true := by
      rw [hdrives.core]
      exact hcheck
    exact .of_calm hdrives.calm (writesLate_of_acquired hfree hcheck' hphase hunlocked)

/-- A retired request that is not quiet writes late, if the others let it. -/
theorem writesLate_of_not_quiet (hs : s.Sane) (h : s.Free r req) (hquiet : ¬ req.Quiet s.toCore) :
    s.WritesLate := by
  have hopen {write : Write} (hwrite : write ∈ req.writes)
      (hopen : write.Open s.toCore req.operation) : s.WritesLate := by
    obtain ⟨i, hi⟩ := List.getElem?_of_mem hwrite
    exact writesLate_of_open h (Nat.le_refl _) hi hopen
  by_cases hfences : s.toCore.Fences req.operation
  · -- its operation is over, so a write is past the last check of it
    have hpassed : ∃ write ∈ req.writes, write.passed = true := by
      by_contra hnone
      apply hquiet
      refine .inr ⟨hfences, ?_⟩
      intro write hwrite
      rw [← Bool.not_eq_true]
      exact fun hpassed => hnone ⟨write, hwrite, hpassed⟩
    obtain ⟨write, hwrite, hpassed⟩ := hpassed
    exact hopen hwrite (.inl hpassed)
  · have hcheck : s.check req.operation = true := by
      rw [Core.fences_iff, Bool.not_eq_false] at hfences
      exact hfences
    by_cases hanswered : ∀ write ∈ req.writes, write.answered = true
    · have hlast (giveUp : Nat) (hphase : req.phase = .writing giveUp) :
          ∃ write, req.writes.getLast? = some write ∧ write.answered = true := by
        have hne := hs.wellformed req (List.mem_of_getElem? h.request) giveUp hphase
        exact ⟨_, List.getLast?_eq_some_getLast hne, hanswered _ (List.getLast_mem hne)⟩
      cases hphase : req.phase with
      | sent =>
        have hturn : req.turn s.toCore s.lock.isNone .check
            = some { req with phase := .checked } := by
          simp only [Request.turn, hphase, Core.aheadOf_of_check hcheck, if_true]
        exact .of_calm (drives_turn h.request hturn).calm
          (writesLate_of_checked ((kept_afterTurn h.request hturn).sane hs)
            (h.after hturn) hcheck rfl)
      | checked => exact writesLate_of_checked hs h hcheck hphase
      | running => exact writesLate_of_running h hcheck hphase
      | writing giveUp =>
        obtain ⟨write, hwrite, hdone⟩ := hlast giveUp hphase
        have hturn : req.turn s.toCore s.lock.isNone .answered
            = some { req with phase := .running } := by
          simp only [Request.turn, hphase, hwrite, hdone, if_true]
        exact .of_calm (drives_turn h.request hturn).calm
          (writesLate_of_running (h.after hturn) hcheck rfl)
      | finished ok => exact absurd (.inl ⟨by rw [hphase]; rfl, hanswered⟩) hquiet
    · push Not at hanswered
      obtain ⟨write, hwrite, hwaits⟩ := hanswered
      exact hopen hwrite (.inr ⟨Bool.not_eq_true _ ▸ hwaits, hcheck⟩)

/-! ## Every run -/

/-- However the run goes on without another recovery, no retired request writes. -/
def Spares (s : Proxy) : Prop := ∀ t, s.Calm t → ∀ req ∈ t.requests, req.wroteLate = false

theorem Silent.spares (hs : s.Silent) : s.Spares := by
  intro t hcalm req hreq
  have ht : t.Silent := hcalm.invariant hs
    fun r a r' hlifts hstep hr => (kept_step hstep hlifts).silent hr
  exact (ht req hreq).notLate

/-- Where a recovery has just returned, sparing is being silent. -/
theorem silent_of_spares {a : Action} {n : Nat} (hstep : step s a = some t)
    (hsane : s.Sane) (hretires : s.retires a = some n) (hspares : t.Spares) : t.Silent := by
  have htsane := sane_step hstep hsane
  cases hlifts : a.lifts with
  | false =>
    rw [retires_of_not_lifts hlifts] at hretires
    cases hretires
  | true =>
    cases lift_step hstep hlifts with
    | other _ hnone =>
      rw [hnone] at hretires
      cases hretires
    | retires sentBefore _ _ hcore hrequests hlock =>
      intro req hreq
      refine ⟨hspares t .refl req hreq, ?_⟩
      intro hretired hphysical
      by_contra hquiet
      obtain ⟨r, hr⟩ := List.getElem?_of_mem hreq
      have hfree : t.Free r req := by
        refine ⟨?_, ?_, hr, hretired, hphysical⟩
        · rw [hcore]
          rfl
        · rw [hcore]
          rfl
      obtain ⟨u, hcalm, late, hlate, hwrote⟩ := writesLate_of_not_quiet htsane hfree hquiet
      rw [hspares u hcalm late hlate] at hwrote
      cases hwrote

/-- **The recovery barrier.** The quarantine is lifted by a recovery that returns, a reconcile that
completes or an operator's confirmation. After every prefix of a run, however it goes on without
another of these, no request that was sent before a recovery was called writes after the recovery
has returned, exactly when all recoveries that return in the run are quiesced. -/
theorem recovery_barrier_iff (actions : List Action) :
    (∀ k s, Machine.exec step init (actions.take k) = some s → s.Spares ∧
        ∀ a s', step s a = some s' → s.physicalStopQuarantined = true →
          s'.physicalStopQuarantined = false → a.lifts = true) ↔
      Machine.Along step Quiesced init actions := by
  have hsilent : (∀ k s, Machine.exec step init (actions.take k) = some s → s.Silent) ↔
      Machine.Along step Quiesced init actions := by
    apply Machine.always_iff_along_of_step (J := Sane) sane_init
    · exact fun s a s' hs hstep => sane_step hstep hs
    · exact fun s a hstep henabled => by simp [hstep] at henabled
    · exact fun s a s' _ hs hstep => silent_step_iff hstep hs
    · exact silent_init
  rw [← hsilent]
  constructor
  · intro hall
    have hboth : ∀ k s, Machine.exec step init (actions.take k) = some s → s.Silent ∧ s.Sane := by
      intro k
      induction k with
      | zero =>
        intro s hs
        cases hs
        exact ⟨silent_init, sane_init⟩
      | succ k ih =>
        intro s hexec
        cases ha : actions[k]? with
        | none =>
          have hshort := List.getElem?_eq_none_iff.mp ha
          rw [List.take_of_length_le (by omega)] at hexec
          exact ih s (by rw [List.take_of_length_le hshort]; exact hexec)
        | some a =>
          have hspares := (hall (k + 1) s hexec).1
          rw [Machine.exec_take_succ ha] at hexec
          obtain ⟨r, hr, hstep⟩ := Option.bind_eq_some_iff.mp hexec
          obtain ⟨hrsilent, hrsane⟩ := ih r hr
          refine ⟨?_, sane_step hstep hrsane⟩
          cases hretires : r.retires a with
          | none =>
            refine (silent_step_iff hstep hrsilent).mpr fun _ => ?_
            rw [hretires]
            exact nofun
          | some n => exact silent_of_spares hstep hrsane hretires hspares
    exact fun k s hexec => (hboth k s hexec).1
  · intro hall k s hexec
    refine ⟨(hall k s hexec).spares, ?_⟩
    intro a s' hstep hbefore hafter
    by_contra hlifts
    have hkept := (kept_step hstep (by simpa using hlifts)).quarantined hbefore
    rw [hafter] at hkept
    cases hkept

/-! ## Two runs -/

/-- `stop_stream` without an operation, up to the request that it sends. -/
def stopSent : List Action :=
  [.stopStream none, .worker 0 .begin, .request 0 .check, .request 0 .acquire,
    .request 0 (.finish true), .worker 0 .receive, .worker 0 .send]

/-- Its handler, up to a write. -/
def stopHandled : List Action :=
  [.request 1 .check, .request 1 .acquire, .request 1 .write] ++
    List.replicate 5 (.request 1 (.advance 0)) ++ [.request 1 (.perform 0)]

/-- Some component isolates the sensor, and a recovery returns. -/
def recoveredAfter : List Action :=
  [.quarantine, .prepareRecovery none, .barrierSends 0, .barrierSamples 0 false,
    .recoveryReturns 0]

/-- The host has handled the request when the recovery is called. -/
example : Machine.Along step Quiesced init (stopSent ++ stopHandled ++
    [.request 1 .answered, .request 1 (.finish true), .worker 0 .receive] ++ recoveredAfter) := by
  decide

/-- The request times out before a thread of the host has taken it up. The worker is done and the
host idle. -/
def timedOutStop : List Action :=
  stopSent ++ [.tick 30000, .worker 0 .timeOut] ++ recoveredAfter ++ stopHandled

theorem timedOutStop_writes_late :
    ∃ s, Machine.exec step init timedOutStop = some s ∧
      ∃ req ∈ s.requests, req.wroteLate = true := by
  have hrun : (Machine.exec step init timedOutStop).map
      (fun s => decide (∃ req ∈ s.requests, req.wroteLate = true)) = some true := by decide
  obtain ⟨s, hs, hlate⟩ := Option.map_eq_some_iff.mp hrun
  exact ⟨s, hs, of_decide_eq_true hlate⟩

end Proxy

end NexusN3.Plugins.Runtime
