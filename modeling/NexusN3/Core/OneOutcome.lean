import NexusN3.Core.Outcomes

/-!
# When a start has one outcome

In their locked sections the gate and the retry are safe: the token and the phase are looked at
where they are acted on. What they do with the lock released is not, since a stop, a start or
another opening of the gate can come before it.

* **`fenced_iff_inForce`** — a step is fenced exactly if what it does late it does in force.
* **`Spent`** — the invariant: a gate that is observed has one outcome, as an armed shot has one
  payment, and an outcome still to be emitted is its ticket.
* **`spent_step`** — every timely step keeps it.
* **`oneOutcome_of_timely`** — runs of timely steps have one outcome for each start.
* **`not_oneOutcome_lateReady`** — READY of a start that was stopped, after the failure of the next.
-/

namespace NexusN3

open Lib Machine NexusN3.Core

namespace Startup

/-! ## A thread whose token is not current -/

/-- In its section it sees so, and leaves it at that. -/
theorem outdated_section {c c' : Core} {env : SectionEnv} {t t' : Thread} {events : List CoreEvent}
    {k : Nat} (htoken : t.startupToken? = some k) (hk : k ≠ c.startupGateToken)
    (h : t.advance c env = some (c', t', events)) :
    t.marks c env = [] ∧ c'.streamPhase = c.streamPhase := by
  cases t with
  | gate token =>
    cases htoken
    have hdecide : c.gateDecide k env.activation = (c, .stale) := if_pos (.inl hk)
    simp only [Thread.advance, hdecide] at h
    cases h
    simp only [Thread.marks, hdecide, and_self]
  | gatePreparing token =>
    have hpace := pace_prepare c env.activation.outputFailure
    refine ⟨rfl, ?_⟩
    simp only [Thread.advance] at h
    split at h <;> rename_i heq <;> rw [heq] at hpace <;> cases h <;>
      exact (Prod.mk.inj (Prod.mk.inj hpace).2).1
  | gatePrepared token failure =>
    cases htoken
    refine ⟨rfl, ?_⟩
    cases failure with
    | some e =>
      cases h
      rw [gatePrepareFailed, if_pos (.inl hk)]
    | none =>
      have hready : c.gateReady k = none := if_pos (.inl hk)
      simp only [Thread.advance, hready] at h
      cases h
      rfl
  | retry token =>
    cases htoken
    cases h
    refine ⟨rfl, ?_⟩
    rw [retryStartup, if_pos hk]
  | _ => cases htoken

/-- The emission of READY has nothing to wait for. -/
theorem discharge_enabled {s : Startup} (h : Linked s) {i : Nat} {d : Duty} (hd : s.left i = some d)
    (env : SectionEnv) : ∃ s', s.discharge i env d = some s' := by
  cases hact : d.act with
  | emitReady =>
    obtain ⟨sid, ht⟩ := h.ready i d hd hact
    obtain ⟨w, hw, -, -⟩ := World.step_of_advance env ht rfl
    exact ⟨_, by simp only [discharge, hact, hw, Option.map_some]; rfl⟩
  | emitFailed | stopSensors | startSensors _ =>
    exact ⟨_, by simp only [discharge, hact]; rfl⟩

/-- **When a step is fenced.** -/
theorem fenced_iff_inForce {s : Startup} (h : Linked s) (a : Action) :
    (∀ s', s.step a = some s' → Fenced s a s') ↔ s.InForce a := by
  constructor
  · intro hfenced
    cases a with
    | advance i env =>
      intro d hd
      rw [Option.mem_def] at hd
      by_contra hstale
      obtain ⟨s', hdischarge⟩ := discharge_enabled h hd env
      have hactor : s.actor (.advance i env) = some d.token := by
        simp only [actor, hd]
      have hstep : s.step (.advance i env) = some s' := by
        simp only [step, hd, hdischarge]
      have hlog := (hfenced s' hstep d.token hactor hstale).2
      rw [(discharge_eq hdischarge).1] at hlog
      simp at hlog
    | _ => trivial
  · intro hforce s' hstep k hactor hk
    rcases step_cases hstep with
      ⟨i, env, d, rfl, hd, -⟩ | ⟨i, env, t, w, rfl, hnone, ht, hw, rfl⟩ | ⟨w, ha, hw, rfl⟩
    · simp only [actor, hd] at hactor
      cases hactor
      exact absurd (hforce d hd) hk
    · simp only [actor, hnone, ht, Option.bind_some] at hactor
      obtain ⟨c, t', events, hadv, hcore, -, -⟩ := threads_of_advance ht hw
      obtain ⟨hmarks, hphase⟩ := outdated_section hactor hk hadv
      refine ⟨?_, ?_⟩
      · show w.core.streamPhase = s.world.core.streamPhase
        rw [hcore]
        exact hphase
      · show s.log ++ t.marks s.world.core env = s.log
        rw [hmarks, List.append_nil]
    · cases a with
      | gateTimeout i =>
        simp only [World.step] at hw
        split at hw
        · rename_i token ht
          cases hw
          simp only [actor, ht, Option.bind_some] at hactor
          cases hactor
          have houtdated : s.world.core.gateTimeout k = s.world.core := if_pos (.inl hk)
          have hmarks : s.world.core.timeoutMarks k = [] := if_pos (.inl hk)
          refine ⟨?_, ?_⟩
          · show (s.world.core.gateTimeout k).streamPhase = _
            rw [houtdated]
          · show s.log ++ s.world.marks (.gateTimeout i) = s.log
            simp only [World.marks, ht, hmarks, List.append_nil]
        · cases hw
      | advance i env => exact absurd rfl (ha i env)
      | _ => cases hactor

/-! ## The outcome of an opening -/

/-- The outcomes that are still to be emitted, by the turn they were decided in. -/
def tickets (s : Startup) (i : Nat) : Option Nat := (s.left i).bind Duty.ticket

def Spent (s : Startup) : Prop :=
  OneShot tariff s.log (s.world.core.streamPhase.gated = true) s.tickets

theorem spent_init (policy : StartupPolicy) : Spent (init policy) :=
  (OneShot.start tariff Nat).mono nofun fun _ _ h => h

section Tickets

variable {s s' : Startup} {i : Nat} {next : Option Duty}

theorem tickets_self (hleft : s'.left = Function.update s.left i next) :
    s'.tickets i = next.bind Duty.ticket := by
  rw [tickets, hleft, Function.update_self]

theorem tickets_other (hleft : s'.left = Function.update s.left i next) {j : Nat} (hj : j ≠ i) :
    s'.tickets j = s.tickets j := by
  rw [tickets, hleft, Function.update_of_ne hj, tickets]

/-- Nothing to emit is left at the place. -/
theorem tickets_lost (hleft : s'.left = Function.update s.left i next)
    (hnext : next.bind Duty.ticket = none) {j n : Nat} (h : s'.tickets j = some n) :
    j ≠ i ∧ s.tickets j = some n := by
  have hj : j ≠ i := by
    rintro rfl
    rw [tickets_self hleft, hnext] at h
    cases h
  exact ⟨hj, (tickets_other hleft hj).symm.trans h⟩

end Tickets

theorem gateDecide_official {c c' : Core} {k : Nat} {env : ActivationEnv}
    (h : c.gateDecide k env = (c', .official)) :
    c.streamPhase = .warmingUp ∧ c'.streamPhase = .officialStreaming := by
  unfold gateDecide at h
  split at h
  · cases h
  · rename_i hfresh
    rw [not_or, not_not, not_not] at hfresh
    refine ⟨hfresh.2, ?_⟩
    split at h
    · cases h
    · split at h
      · cases h
      · split at h <;> cases h
        rfl

/-- **What a section makes of an opening.** It emits no outcome, or it ends the observation and
emits one, or it ends it and leaves one to emit. -/
theorem section_cases {c c' : Core} {env : SectionEnv} {t t' : Thread} {events : List CoreEvent}
    (h : t.advance c env = some (c', t', events)) (n : Nat) :
    t.marks c env = [] ∧ (t.leaves c n).bind Duty.ticket = none
      ∨ c.streamPhase.gated = true ∧ c'.streamPhase.gated = false
        ∧ t.marks c env = [.officialStarted] ∧ (t.leaves c n).bind Duty.ticket = none
      ∨ c.streamPhase.gated = true ∧ c'.streamPhase.gated = false
        ∧ t.marks c env = [] ∧ (t.leaves c n).bind Duty.ticket = some n := by
  cases t with
  | gate token =>
    cases hdecide : c.gateDecide token env.activation with
    | mk d verdict =>
      simp only [Thread.advance, hdecide] at h
      cases verdict with
      | official =>
        cases h
        obtain ⟨hwarm, hofficial⟩ := gateDecide_official hdecide
        refine .inr (.inl ⟨?_, ?_, ?_, rfl⟩)
        · rw [hwarm]
          rfl
        · rw [hofficial]
          rfl
        · simp only [Thread.marks, hdecide]
      | stale | unstable | prepare | raised _ =>
        refine .inl ⟨?_, rfl⟩
        simp only [Thread.marks, hdecide]
  | gatePrepared token failure =>
    cases failure with
    | some e =>
      cases h
      by_cases hstale : token ≠ c.startupGateToken ∨ c.streamPhase ≠ .preparingOfficial
      · refine .inl ⟨rfl, ?_⟩
        rw [Thread.leaves, if_pos hstale]
        rfl
      · refine .inr (.inr ⟨?_, ?_, rfl, ?_⟩)
        · rw [not_or, not_not, not_not] at hstale
          rw [hstale.2]
          rfl
        · rw [gatePrepareFailed, if_neg hstale]
          rfl
        · rw [Thread.leaves, if_neg hstale]
          rfl
    | none =>
      simp only [Thread.advance] at h
      simp only [Thread.leaves]
      by_cases hstale : token ≠ c.startupGateToken ∨ c.streamPhase ≠ .preparingOfficial
      · have hready : c.gateReady token = none := if_pos hstale
        rw [hready]
        exact .inl ⟨rfl, rfl⟩
      · have hready : c.gateReady token = some (c.setPhase .readyForOfficial) := if_neg hstale
        rw [hready] at h ⊢
        cases h
        refine .inr (.inr ⟨?_, rfl, rfl, rfl⟩)
        rw [not_or, not_not, not_not] at hstale
        rw [hstale.2]
        rfl
  | retry token =>
    refine .inl ⟨rfl, ?_⟩
    simp only [Thread.leaves]
    split
    · rfl
    · split <;> rfl
  | _ => exact .inl ⟨rfl, rfl⟩

/-- What the other steps do, and to the observation. -/
theorem marks_cases {w w' : World} {a : Action} (h : w.step a = some w')
    (ha : ∀ i env, a ≠ .advance i env) :
    w.marks a = [] ∧ (w'.core.streamPhase.gated = true → w.core.streamPhase.gated = true)
      ∨ w.marks a = [.startCommand] ∧ w'.core.streamPhase.gated = false
      ∨ w.marks a = [.gateOpened]
      ∨ (∃ addresses, w.marks a = [.startupRetry, .stopSpecific addresses]
          ∧ w'.core.streamPhase.gated = false)
      ∨ ∃ addresses, w.marks a = [.startupFailed, .stopSpecific addresses]
          ∧ w.core.streamPhase.gated = true ∧ w'.core.streamPhase.gated = false := by
  cases a with
  | startStream p | startStreamForSubjects p =>
    cases h
    unfold World.acceptStart
    simp only [World.marks]
    cases haccept : w.core.startAccept with
    | error e => exact .inl ⟨rfl, id⟩
    | ok c =>
      refine .inr (.inl ⟨rfl, ?_⟩)
      by_cases hadmitted : w.core.StartAdmitted
      · rw [startAccept_of_admitted hadmitted] at haccept
        cases haccept
        rfl
      · obtain ⟨e, he⟩ := startAccept_of_not_admitted hadmitted
        rw [he] at haccept
        cases haccept
  | onStreamStarted =>
    cases h
    simp only [World.marks]
    rcases onStreamStarted_pace w.core with ⟨hnone, hpace⟩ | ⟨hsome, -⟩
    · refine .inl ⟨by rw [hnone]; rfl, ?_⟩
      show w.core.onStreamStarted.streamPhase.gated = true → _
      rw [(Prod.mk.inj (Prod.mk.inj hpace).2).1]
      exact id
    · exact .inr (.inr (.inl (by rw [hsome]; rfl)))
  | gateTimeout i =>
    have hpaces := World.paces_step h fun heq => by cases heq
    simp only [World.step] at h
    split at h
    · rename_i token ht
      cases h
      simp only [World.marks, ht]
      by_cases hstale : token ≠ w.core.startupGateToken ∨ w.core.streamPhase ≠ .warmingUp
      · exact .inl ⟨if_pos hstale, hpaces.gated⟩
      · have hwarm : w.core.streamPhase = .warmingUp := by
          by_contra hne
          exact hstale (.inr hne)
        rw [timeoutMarks, if_neg hstale]
        by_cases hleft : w.core.startupAttempt < w.core.policy.maxAttempts
        · refine .inr (.inr (.inr (.inl ⟨_, if_pos hleft, ?_⟩)))
          show (w.core.gateTimeout token).streamPhase.gated = false
          rw [gateTimeout, if_neg hstale, if_pos hleft]
          rfl
        · refine .inr (.inr (.inr (.inr ⟨_, if_neg hleft, ?_, ?_⟩)))
          · rw [hwarm]
            rfl
          · show (w.core.gateTimeout token).streamPhase.gated = false
            rw [gateTimeout, if_neg hstale, if_neg hleft]
            rfl
    · cases h
  | advance i env => exact absurd rfl (ha i env)
  | _ => exact .inl ⟨rfl, (World.paces_step h fun heq => by cases heq).gated⟩

/-- An act that was left, in time. -/
theorem Spent.discharge {s s' : Startup} (h : Spent s) {i : Nat} {env : SectionEnv} {d : Duty}
    (hd : s.left i = some d) (hturn : d.act.isOutcome = true → d.turn = s.turn)
    (hdischarge : s.discharge i env d = some s') : Spent s' := by
  obtain ⟨hlog, hleft, hworld⟩ := discharge_eq hdischarge
  have hgated : s'.world.core.streamPhase.gated = true → s.world.core.streamPhase.gated = true := by
    rcases hworld with ⟨-, hw⟩ | ⟨-, hw⟩
    · exact (World.paces_step hw nofun).gated
    · rw [hw]
      exact id
  have hnext : d.next.bind Duty.ticket = none := by
    unfold Duty.next
    split <;> rfl
  unfold Spent
  rw [hlog]
  cases hact : d.act.isOutcome with
  | true =>
    have hticket : s.tickets i = some (tariff.turn s.log) := by
      simp only [tickets, hd, Option.bind_some, Duty.ticket, hact, if_true, hturn hact]
      rfl
    have hpays : tariff.pays (d.act.mark s.world.core) = true := by
      cases hkind : d.act <;> rw [hkind] at hact <;> first | rfl | cases hact
    exact h.redeem hticket hpays hgated fun j n hj => tickets_lost hleft hnext hj
  | false =>
    have hmark : tariff.renews (d.act.mark s.world.core) = false
        ∧ tariff.pays (d.act.mark s.world.core) = false := by
      cases hkind : d.act <;> rw [hkind] at hact <;> first | exact ⟨rfl, rfl⟩ | cases hact
    have hnoted := h.note hmark.1 hmark.2
    exact hnoted.mono hgated fun j n hj => (tickets_lost hleft hnext hj).2

/-- A section, with what it leaves. -/
theorem Spent.advance {s s' : Startup} (h : Spent s) {i : Nat} {env : SectionEnv} {t : Thread}
    (ht : s.world.threads[i]? = some t) (hw : s.world.step (.advance i env) = some s'.world)
    (hleft : s'.left = Function.update s.left i (t.leaves s.world.core s.turn))
    (hlog : s'.log = s.log ++ t.marks s.world.core env) : Spent s' := by
  obtain ⟨c, t', events, hadv, hcore, -, -⟩ := threads_of_advance ht hw
  have hgated := (World.paces_step hw nofun).gated
  have hnever : c.streamPhase.gated = false → s'.world.core.streamPhase.gated = true → False := by
    intro hafter
    rw [hcore, hafter]
    nofun
  unfold Spent
  rw [hlog]
  rcases section_cases hadv s.turn with
    ⟨hmarks, hnone⟩ | ⟨hbefore, hafter, hmarks, hnone⟩ | ⟨hbefore, hafter, hmarks, hsome⟩
  · rw [hmarks, List.append_nil]
    exact h.mono hgated fun j n hj => (tickets_lost hleft hnone hj).2
  · rw [hmarks]
    have hspent := h.spend hbefore (e := Mark.officialStarted) rfl
    exact hspent.mono (hnever hafter) fun j n hj => (tickets_lost hleft hnone hj).2
  · rw [hmarks, List.append_nil]
    have hissued := h.issue hbefore ((tickets_self hleft).trans hsome) fun j hj =>
      tickets_other hleft hj
    exact hissued.mono (hnever hafter) fun _ _ hj => hj

/-- The steps that are no section. -/
theorem Spent.other {s : Startup} (h : Spent s) {a : Action} {w : World}
    (ha : ∀ i env, a ≠ .advance i env) (hw : s.world.step a = some w) :
    Spent { s with world := w, log := s.log ++ s.world.marks a } := by
  have hnever : w.core.streamPhase.gated = false → w.core.streamPhase.gated = true → False := by
    intro hafter
    rw [hafter]
    nofun
  rcases marks_cases hw ha with ⟨hmarks, hgated⟩ | ⟨hmarks, hafter⟩ | hmarks
    | ⟨addresses, hmarks, hafter⟩ | ⟨addresses, hmarks, hbefore, hafter⟩
  · rw [hmarks, List.append_nil]
    exact h.mono hgated fun _ _ hj => hj
  · rw [hmarks]
    exact h.renew rfl fun _ hg => absurd hg (hnever hafter)
  · rw [hmarks]
    exact h.renew rfl nofun
  · rw [hmarks, List.append_cons]
    have hnoted := (h.note (e := Mark.startupRetry) rfl rfl).note
      (e := Mark.stopSpecific addresses) rfl rfl
    exact hnoted.mono (fun hg => absurd hg (hnever hafter)) fun _ _ hj => hj
  · rw [hmarks, List.append_cons]
    have hspent := (h.spend hbefore (e := Mark.startupFailed) rfl).note
      (e := Mark.stopSpecific addresses) rfl rfl
    exact hspent.mono (hnever hafter) fun _ _ hj => hj

/-- **Every timely step** keeps the invariant. -/
theorem spent_step {s s' : Startup} {a : Action} (htimely : s.Timely a) (h : Spent s)
    (hstep : s.step a = some s') : Spent s' := by
  rcases step_cases hstep with
    ⟨i, env, d, rfl, hd, hdischarge⟩ | ⟨i, env, t, w, rfl, -, ht, hw, rfl⟩ | ⟨w, ha, hw, rfl⟩
  · exact h.discharge hd (htimely.2 d hd) hdischarge
  · exact h.advance ht hw rfl rfl
  · exact h.other ha hw

/-- **A run is fenced exactly if all that is done late is done in force.** -/
theorem along_fenced_iff (policy : StartupPolicy) (actions : List Action) :
    Along step (fun s a => ∀ s', step s a = some s' → Fenced s a s') (init policy) actions ↔
      Along step InForce (init policy) actions := by
  refine along_iff_along (I := fun _ => True) (J := Linked) (linked_init policy) trivial ?_ ?_ ?_
  · exact fun r a r' hr hstep => hr.step hstep
  · exact fun r a hr _ => fenced_iff_inForce hr a
  · exact fun _ _ _ _ => trivial

/-- **One outcome for each start**, whatever the interleaving, as long as what a thread has left
after its locked section is done in time. -/
theorem oneOutcome_of_timely (policy : StartupPolicy) (hpolicy : 1 ≤ policy.maxAttempts)
    (actions : List Action) (h : Along step Timely (init policy) actions) :
    OneOutcome policy actions := by
  refine ⟨(along_fenced_iff policy actions).mpr (h.mono fun _ _ htimely => htimely.1), ?_⟩
  intro k s hs
  have hspent : Spent s := by
    refine (h.take k).invariant (I := Spent) (spent_init policy) ?_ hs
    exact fun r a r' htimely hstep hr => spent_step htimely hr hstep
  have hreach : World.Reachable policy s.world := world_reachable (reach_of_exec _ hs)
  exact ⟨hspent.apart, World.startupAttempt_le_of_reachable hpolicy hreach⟩

/-! ## READY in time, and late -/

def readyInTime : List Action := warmedUp coordinatedStart ++ sectionsOf 1 4

theorem oneOutcome_of_timely_readyInTime :
    (exec step (init {}) readyInTime).map log =
        some [.startCommand, .gateOpened, .readyForOfficial]
      ∧ OneOutcome {} readyInTime :=
  ⟨by decide +kernel, oneOutcome_of_timely {} (by decide) readyInTime (by decide +kernel)⟩

/-- The gate is ready, and before it says so the stream is stopped and started again, the gate is
opened and its window closes. -/
def lateReady : List Action :=
  warmedUp coordinatedStart ++ sectionsOf 1 3
    ++ [.stopStream none { physical := .nothing }, .startStream coordinatedStart]
    ++ sectionsOf 3 2 ++ [.onStreamStarted, .gateTimeout 4, .advance 1 {}]

/-- **READY of the first start follows the failure of the second**, from a thread whose token is not
current. -/
theorem not_oneOutcome_lateReady :
    (exec step (init {}) lateReady).map log =
        some [.startCommand, .gateOpened, .startCommand, .gateOpened, .startupFailed,
          .stopSpecific ["AA"], .readyForOfficial]
      ∧ ¬ Along step InForce (init {}) lateReady ∧ ¬ OneOutcome {} lateReady := by
  have hlog : (exec step (init {}) lateReady).map log =
      some [.startCommand, .gateOpened, .startCommand, .gateOpened, .startupFailed,
        .stopSpecific ["AA"], .readyForOfficial] := by
    decide +kernel
  refine ⟨hlog, by decide +kernel, ?_⟩
  rintro ⟨-, hruns⟩
  obtain ⟨s, hs, hend⟩ := Option.map_eq_some_iff.mp hlog
  have hapart := (hruns lateReady.length s (by rwa [List.take_length])).1
  rw [hend] at hapart
  have hdue : tariff.Due ([.startCommand, .gateOpened, .startCommand, .gateOpened]
      ++ [.startupFailed] ++ [.stopSpecific ["AA"]]) := hapart _ .readyForOfficial [] rfl rfl
  rw [Tariff.due_snoc, Tariff.due_snoc] at hdue
  rcases hdue with hstop | ⟨hfailed | ⟨-, hfailed⟩, -⟩
  · cases hstop
  · cases hfailed
  · cases hfailed

end Startup

end NexusN3
