import NexusN3.Core.Attempts
import NexusN3.Lib.OneShot
import NexusN3.Lib.Unwinding

/-!
# One outcome for each start

The gate thread and the retry thread look at their token and at the phase under the startup lock,
and do some of what they decided there only after they have let go of it: the gate emits that the
node is ready, or emits the failure of the file preparation and then stops the sensors; the retry
commands the sensors to start.

* **`Startup`** — a world with what its threads have left to do and what they have done.
* **`Startup.step`** — a step of the world, or one act a thread had left.
* **`Fenced`** — a thread whose token is not current moves no phase and does nothing.
* **`Timely`** — what was left is done under a current token, and an outcome before the gate is
  opened again.
* **`OneOutcome`** — every step is fenced, no outcome follows another of the same opening and start,
  and the attempts stay within the configured number.
-/

namespace NexusN3

open Lib Machine

namespace Startup

/-- What the node's events and the sensors see of a startup. The outcomes are three; the official
start is the one of the local gate. -/
inductive Mark where
  | startCommand
  | gateOpened
  | readyForOfficial
  | startupFailed
  | officialStarted
  | startupRetry
  | stopSpecific (addresses : List String)
  | startSpecific (addresses : List String)
  deriving DecidableEq

def Mark.renews : Mark → Bool
  | .startCommand | .gateOpened => true
  | _ => false

def Mark.opens : Mark → Bool
  | .gateOpened => true
  | _ => false

def Mark.isOutcome : Mark → Bool
  | .readyForOfficial | .startupFailed | .officialStarted => true
  | _ => false

/-- A start or an opening of the gate allows one outcome. -/
def tariff : Tariff Mark where
  renews := Mark.renews
  opens := Mark.opens
  pays := Mark.isOutcome
  renews_of_opens := by
    intro e he
    cases e <;> first | rfl | cases he
  pays_of_renews := by
    intro e he
    cases e <;> first | rfl | cases he

/-- What a thread does with the lock released. -/
inductive Act where
  | emitReady
  | emitFailed
  | stopSensors
  | startSensors (addresses : List String)
  deriving DecidableEq

def Act.isOutcome : Act → Bool
  | .emitReady | .emitFailed => true
  | _ => false

/-- An act a thread has left, with the thread's token and the turn of the gate it decided in. -/
structure Duty where
  act : Act
  token : Nat
  turn : Nat
  deriving DecidableEq

def Duty.ticket (d : Duty) : Option Nat := if d.act.isOutcome then some d.turn else none

end Startup

structure Startup where
  world : World
  left : Nat → Option Startup.Duty := fun _ => none
  log : List Startup.Mark := []

/-- The token a gate thread or a retry thread was created with. -/
def Thread.startupToken? : Thread → Option Nat
  | .gate k | .gatePreparing k | .gatePrepared k _ | .retry k => some k
  | _ => none

/-- A thread of the world that has let go of the lock: it emits READY, or it has ended. -/
def Thread.released : Thread → Bool
  | .gateReady _ | .done => true
  | _ => false

/-- What the locked section of a gate or retry thread leaves to do. -/
def Thread.leaves (c : Core) (turn : Nat) : Thread → Option Startup.Duty
  | .gatePrepared token (some _) =>
    if token ≠ c.startupGateToken ∨ c.streamPhase ≠ .preparingOfficial then none
    else some ⟨.emitFailed, token, turn⟩
  | .gatePrepared token none => (c.gateReady token).map fun _ => ⟨.emitReady, token, turn⟩
  | .retry token =>
    if token ≠ c.startupGateToken then none
    else if c.startupManualStop = true ∨ c.streamPhase ≠ .retryingStartup then none
    else some ⟨.startSensors c.startupAddresses, token, turn⟩
  | _ => none

/-- What a section does inside the lock: the local gate announces the official start there. -/
def Thread.marks (c : Core) (env : SectionEnv) : Thread → List Startup.Mark
  | .gate token =>
    match (c.gateDecide token env.activation).2 with
    | .official => [.officialStarted]
    | _ => []
  | _ => []

/-- What the closing of a window does inside the lock. -/
def Core.timeoutMarks (c : Core) (token : Nat) : List Startup.Mark :=
  if token ≠ c.startupGateToken ∨ c.streamPhase ≠ .warmingUp then []
  else if c.startupAttempt < c.policy.maxAttempts then
    [.startupRetry, .stopSpecific c.startupAddresses]
  else [.startupFailed, .stopSpecific c.startupAddresses]

/-- What a step of the world does that the startup is about. -/
def World.marks (w : World) : Action → List Startup.Mark
  | .startStream _ | .startStreamForSubjects _ =>
    match w.core.startAccept with
    | .ok _ => [.startCommand]
    | .error _ => []
  | .onStreamStarted => if w.core.gateStarted.isSome then [.gateOpened] else []
  | .advance i env =>
    match w.threads[i]? with
    | some t => t.marks w.core env
    | none => []
  | .gateTimeout i =>
    match w.threads[i]? with
    | some (.gate token) => w.core.timeoutMarks token
    | _ => []
  | _ => []

namespace Startup

/-- How often the gate has been opened. -/
def turn (s : Startup) : Nat := tariff.turn s.log

/-- The thread at place `i` does the act it has left. The emission of READY ends a thread of the
world; the threads of the other acts have ended there with their locked section. -/
def discharge (s : Startup) (i : Nat) (env : SectionEnv) (d : Duty) : Option Startup :=
  match d.act with
  | .emitReady => (s.world.step (.advance i env)).map fun w =>
    { world := w, left := Function.update s.left i none, log := s.log ++ [.readyForOfficial] }
  | .emitFailed => some { s with
      left := Function.update s.left i (some { d with act := .stopSensors })
      log := s.log ++ [.startupFailed] }
  -- the addresses are read again when the command is given
  | .stopSensors => some { s with
      left := Function.update s.left i none
      log := s.log ++ [.stopSpecific s.world.core.startupAddresses] }
  | .startSensors addresses => some { s with
      left := Function.update s.left i none
      log := s.log ++ [.startSpecific addresses] }

def step (s : Startup) : Action → Option Startup
  | .advance i env =>
    match s.left i with
    | some d => s.discharge i env d
    | none => (s.world.step (.advance i env)).map fun w =>
      { world := w
        left := Function.update s.left i
          ((s.world.threads[i]?).bind (Thread.leaves s.world.core s.turn))
        log := s.log ++ s.world.marks (.advance i env) }
  | a => (s.world.step a).map fun w => { s with world := w, log := s.log ++ s.world.marks a }

/-- A Core before its configuration. -/
def init (policy : StartupPolicy) : Startup := { world := { core := { policy := policy } } }

/-- The token of the gate or retry thread that an action lets run. -/
def actor (s : Startup) : Action → Option Nat
  | .advance i _ =>
    match s.left i with
    | some d => some d.token
    | none => (s.world.threads[i]?).bind Thread.startupToken?
  | .gateTimeout i => (s.world.threads[i]?).bind Thread.startupToken?
  | _ => none

/-- A thread whose token is not current leaves the phase, emits nothing and commands no sensor. -/
def Fenced (s : Startup) (a : Action) (s' : Startup) : Prop :=
  ∀ k, s.actor a = some k → k ≠ s.world.core.startupGateToken →
    s'.world.core.streamPhase = s.world.core.streamPhase ∧ s'.log = s.log

/-- **The property**, of a run. -/
def OneOutcome (policy : StartupPolicy) (actions : List Action) : Prop :=
  Along step (fun s a => ∀ s', step s a = some s' → Fenced s a s') (init policy) actions
    ∧ ∀ k s, exec step (init policy) (actions.take k) = some s →
      tariff.Apart s.log ∧ s.world.core.startupAttempt ≤ policy.maxAttempts

/-- What the thread at this place has left to do is done while its token is current. -/
def InForce (s : Startup) : Action → Prop
  | .advance i _ => ∀ d ∈ s.left i, d.token = s.world.core.startupGateToken
  | _ => True

/-- **The condition on a step**: moreover an outcome is emitted before the gate is opened again. -/
def Timely (s : Startup) (a : Action) : Prop :=
  s.InForce a ∧ match a with
    | .advance i _ => ∀ d ∈ s.left i, d.act.isOutcome = true → d.turn = s.turn
    | _ => True

instance (s : Startup) (a : Action) : Decidable (s.InForce a) :=
  match a with
  | .advance i _ => inferInstanceAs (Decidable (∀ d ∈ s.left i, _))
  | .startStream _ | .startStreamForSubjects _ | .startOfficialStream _ | .stopStream _ _
  | .stopStreamForSubjects _ _ _ | .initCore _ | .resetSession _ | .resetFinished _
  | .onStreamStarted | .onStreamStopped | .onData _ _ | .gateTimeout _ | .stopRaise _ =>
    inferInstanceAs (Decidable True)

instance (s : Startup) (a : Action) : Decidable (s.Timely a) :=
  match a with
  | .advance i _ => inferInstanceAs (Decidable (_ ∧ ∀ d ∈ s.left i, _ → _))
  | .startStream _ | .startStreamForSubjects _ | .startOfficialStream _ | .stopStream _ _
  | .stopStreamForSubjects _ _ _ | .initCore _ | .resetSession _ | .resetFinished _
  | .onStreamStarted | .onStreamStopped | .onData _ _ | .gateTimeout _ | .stopRaise _ =>
    inferInstanceAs (Decidable (_ ∧ True))

/-! ## A step and what it does -/

section Step

variable {s s' : Startup} {a : Action}

/-- An act of a thread, a section with what it leaves, or a step that is not a thread's. -/
theorem step_cases (h : s.step a = some s') :
    (∃ i env d, a = .advance i env ∧ s.left i = some d ∧ s.discharge i env d = some s')
      ∨ (∃ i env t w, a = .advance i env ∧ s.left i = none ∧ s.world.threads[i]? = some t
          ∧ s.world.step a = some w ∧ s' =
            { world := w, left := Function.update s.left i (t.leaves s.world.core s.turn)
              log := s.log ++ t.marks s.world.core env })
      ∨ ∃ w, (∀ i env, a ≠ .advance i env) ∧ s.world.step a = some w
          ∧ s' = { s with world := w, log := s.log ++ s.world.marks a } := by
  cases a with
  | advance i env =>
    unfold step at h
    dsimp only at h
    split at h
    · rename_i d hd
      exact .inl ⟨i, env, d, rfl, hd, h⟩
    · rename_i hnone
      obtain ⟨w, hw, rfl⟩ := Option.map_eq_some_iff.mp h
      obtain ⟨t, -, -, -, ht, -, -⟩ := World.step_advance hw
      refine .inr (.inl ⟨i, env, t, w, rfl, hnone, ht, hw, ?_⟩)
      simp only [World.marks, ht, Option.bind_some]
  | _ =>
    simp only [step] at h
    obtain ⟨w, hw, rfl⟩ := Option.map_eq_some_iff.mp h
    exact .inr (.inr ⟨w, nofun, hw, rfl⟩)

/-- What an act is to a reader. -/
def Act.mark (c : Core) : Act → Mark
  | .emitReady => .readyForOfficial
  | .emitFailed => .startupFailed
  | .stopSensors => .stopSpecific c.startupAddresses
  | .startSensors addresses => .startSpecific addresses

def Duty.next (d : Duty) : Option Duty :=
  if d.act = .emitFailed then some { d with act := .stopSensors } else none

/-- An act is recorded, and only the emission of READY is a step of the world. -/
theorem discharge_eq {i : Nat} {env : SectionEnv} {d : Duty} (h : s.discharge i env d = some s') :
    s'.log = s.log ++ [d.act.mark s.world.core] ∧ s'.left = Function.update s.left i d.next
      ∧ (d.act = .emitReady ∧ s.world.step (.advance i env) = some s'.world
        ∨ d.act ≠ .emitReady ∧ s'.world = s.world) := by
  obtain ⟨act, token, n⟩ := d
  unfold discharge at h
  cases act with
  | emitReady =>
    obtain ⟨w, hw, rfl⟩ := Option.map_eq_some_iff.mp h
    exact ⟨rfl, rfl, .inl ⟨rfl, hw⟩⟩
  | emitFailed | stopSensors | startSensors _ =>
    cases h
    exact ⟨rfl, rfl, .inr ⟨nofun, rfl⟩⟩

/-- **The machine is the world.** A step takes the world one step on, or leaves it. -/
theorem world_of_step (h : s.step a = some s') :
    s.world.step a = some s'.world ∨ s'.world = s.world := by
  rcases step_cases h with
    ⟨i, env, d, rfl, -, hd⟩ | ⟨i, env, t, w, rfl, -, -, hw, rfl⟩ | ⟨w, -, hw, rfl⟩
  · rcases (discharge_eq hd).2.2 with ⟨-, hw⟩ | ⟨-, hw⟩
    · exact .inl hw
    · exact .inr hw
  · exact .inl hw
  · exact .inl hw

theorem world_reachable {policy : StartupPolicy} (h : Reach step (init policy) s) :
    World.Reachable policy s.world := by
  refine Run.invariant (I := fun s : Startup => World.Reachable policy s.world) ?_ ?_ h
  · exact .refl
  · intro r a r' _ hstep hr
    rcases world_of_step hstep with hw | hw
    · exact .tail a hr trivial hw
    · rw [hw]
      exact hr

end Step

/-! ## Which threads have something left -/

/-- The threads past their locked section stay as they are, and no other one gets there. -/
structure KeepsReleased (ts ts' : List Thread) : Prop where
  kept : ∀ (i : Nat) (t : Thread), ts[i]? = some t → t.released = true → ts'[i]? = some t
  fresh : ∀ (i : Nat) (sid : Option String),
    ts'[i]? = some (.gateReady sid) → ts[i]? = some (.gateReady sid)

theorem KeepsReleased.refl (ts : List Thread) : KeepsReleased ts ts :=
  ⟨fun _ _ ht _ => ht, fun _ _ ht => ht⟩

theorem keepsReleased_append {ts us : List Thread} (hus : ∀ t ∈ us, ∀ sid, t ≠ .gateReady sid) :
    KeepsReleased ts (ts ++ us) := by
  constructor
  · intro i t ht _
    rw [List.getElem?_append_left (List.getElem?_eq_some_iff.mp ht).1]
    exact ht
  · intro i sid ht
    by_cases hi : i < ts.length
    · rwa [List.getElem?_append_left hi] at ht
    · rw [List.getElem?_append_right (Nat.le_of_not_lt hi)] at ht
      exact absurd rfl (hus _ (List.mem_of_getElem? ht) sid)

theorem keepsReleased_set {ts : List Thread} {i : Nat} {t t' : Thread} (ht : ts[i]? = some t)
    (hheld : t.released = false) (hnext : ∀ sid, t' ≠ .gateReady sid) :
    KeepsReleased ts (ts.set i t') := by
  constructor
  · intro j u hu hreleased
    by_cases hij : i = j
    · subst hij
      rw [ht] at hu
      cases hu
      rw [hheld] at hreleased
      cases hreleased
    · rwa [List.getElem?_set_ne hij]
  · intro j sid hj
    by_cases hij : i = j
    · subst hij
      rw [List.getElem?_set_self (List.getElem?_eq_some_iff.mp ht).1] at hj
      exact absurd (Option.some.inj hj) (hnext sid)
    · rwa [List.getElem?_set_ne hij] at hj

/-- Every step but a section. -/
theorem keepsReleased_step {w w' : World} {a : Action} (h : w.step a = some w')
    (ha : ∀ i env, a ≠ .advance i env) : KeepsReleased w.threads w'.threads := by
  cases a with
  | startStream p | startStreamForSubjects p =>
    cases h
    unfold World.acceptStart
    split
    · exact .refl _
    · apply keepsReleased_append
      simp
  | startOfficialStream p =>
    simp only [World.step] at h
    split at h <;> cases h
    · apply keepsReleased_append
      simp
    · exact .refl _
    · exact .refl _
    · exact .refl _
  | stopStream sid env =>
    cases h
    apply keepsReleased_append
    simp
  | stopStreamForSubjects ids sid env =>
    simp only [World.step] at h
    split at h <;> cases h
    · apply keepsReleased_append
      simp
    · exact .refl _
  | onStreamStarted =>
    cases h
    apply keepsReleased_append
    simp
  | onStreamStopped =>
    cases h
    apply keepsReleased_append
    split <;> simp
  | advance i env => exact absurd rfl (ha i env)
  | gateTimeout i =>
    simp only [World.step] at h
    split at h
    · rename_i token ht
      cases h
      exact keepsReleased_set ht rfl fun _ heq => (by cases heq)
    · cases h
  | stopRaise i =>
    simp only [World.step] at h
    split at h
    · rename_i r env full stage ht
      split at h <;> cases h
      exact keepsReleased_set ht rfl fun _ heq => (by cases heq)
    · cases h
  | resetFinished report =>
    simp only [World.step] at h
    split at h <;> cases h
    exact .refl _
  | initCore _ | resetSession _ | onData _ _ =>
    cases h
    exact .refl _

/-- A section leaves the emission of READY exactly if its thread goes on to it, and another act only
if its thread ends. -/
theorem leaves_of_advance {c c' : Core} {env : SectionEnv} {t t' : Thread} {events : List CoreEvent}
    (h : t.advance c env = some (c', t', events)) (n : Nat) :
    (∀ d, t.leaves c n = some d →
        d.act = .emitReady ∧ (∃ sid, t' = .gateReady sid) ∨ d.act ≠ .emitReady ∧ t' = .done)
      ∧ ∀ sid, t' = .gateReady sid → ∃ d, t.leaves c n = some d ∧ d.act = .emitReady := by
  cases t with
  | gatePrepared token failure =>
    cases failure with
    | some e =>
      cases h
      refine ⟨?_, fun _ heq => (by cases heq)⟩
      intro d hd
      simp only [Thread.leaves] at hd
      split at hd <;> cases hd
      exact .inr ⟨fun heq => (by cases heq), rfl⟩
    | none =>
      simp only [Thread.advance] at h
      simp only [Thread.leaves]
      cases hready : c.gateReady token with
      | none =>
        rw [hready] at h
        cases h
        exact ⟨fun _ heq => (by cases heq), fun _ heq => (by cases heq)⟩
      | some d =>
        rw [hready] at h
        cases h
        refine ⟨?_, fun _ _ => ⟨_, rfl, rfl⟩⟩
        intro d hd
        cases hd
        exact .inl ⟨rfl, _, rfl⟩
  | retry token =>
    cases h
    refine ⟨?_, fun _ heq => (by cases heq)⟩
    intro d hd
    simp only [Thread.leaves] at hd
    split at hd
    · cases hd
    · split at hd <;> cases hd
      exact .inr ⟨fun heq => (by cases heq), rfl⟩
  | startAccepted p specific =>
    cases specific with
    | false =>
      cases h
      exact ⟨fun _ heq => (by cases heq), fun _ heq => (by cases heq)⟩
    | true =>
      simp only [Thread.advance] at h
      split at h <;> cases h <;> exact ⟨fun _ heq => (by cases heq), fun _ heq => (by cases heq)⟩
  | gate _ | gatePreparing _ | commit _ | stop _ _ _ _ =>
    simp only [Thread.advance] at h
    split at h <;> cases h <;> exact ⟨fun _ heq => (by cases heq), fun _ heq => (by cases heq)⟩
  | done => cases h
  | _ =>
    cases h
    exact ⟨fun _ heq => (by cases heq), fun _ heq => (by cases heq)⟩

/-- What a thread has left fits where it stands in the world. -/
structure Linked (s : Startup) : Prop where
  ready : ∀ i d, s.left i = some d → d.act = .emitReady →
    ∃ sid, s.world.threads[i]? = some (.gateReady sid)
  ended : ∀ i d, s.left i = some d → d.act ≠ .emitReady → s.world.threads[i]? = some .done
  announced : ∀ (i : Nat) (sid : Option String), s.world.threads[i]? = some (.gateReady sid) →
    ∃ d, s.left i = some d ∧ d.act = .emitReady

theorem Linked.of_keepsReleased {s : Startup} (h : Linked s) {w : World} {log : List Mark}
    (hkeeps : KeepsReleased s.world.threads w.threads) :
    Linked { s with world := w, log := log } where
  ready := by
    intro i d hd hact
    obtain ⟨sid, ht⟩ := h.ready i d hd hact
    exact ⟨sid, hkeeps.kept i _ ht rfl⟩
  ended := fun i d hd hact => hkeeps.kept i _ (h.ended i d hd hact) rfl
  announced := fun i sid ht => h.announced i sid (hkeeps.fresh i sid ht)

/-- At one place the thread moves on, with what it then has left. -/
theorem Linked.move {s s' : Startup} (h : Linked s) {i : Nat} {t' : Thread} {next : Option Duty}
    (hleft : s'.left = Function.update s.left i next) (hself : s'.world.threads[i]? = some t')
    (hother : ∀ j, j ≠ i → s'.world.threads[j]? = s.world.threads[j]?)
    (hnext : ∀ d, next = some d →
      d.act = .emitReady ∧ (∃ sid, t' = .gateReady sid) ∨ d.act ≠ .emitReady ∧ t' = .done)
    (hready : ∀ sid, t' = .gateReady sid → ∃ d, next = some d ∧ d.act = .emitReady) :
    Linked s' := by
  have hleftself : s'.left i = next := by
    rw [hleft, Function.update_self]
  have hleftother : ∀ j, j ≠ i → s'.left j = s.left j := by
    intro j hj
    rw [hleft, Function.update_of_ne hj]
  constructor
  · intro j d hd hact
    by_cases hj : j = i
    · subst hj
      rcases hnext d (hleftself.symm.trans hd) with ⟨-, sid, rfl⟩ | ⟨hne, -⟩
      · exact ⟨sid, hself⟩
      · exact absurd hact hne
    · obtain ⟨sid, ht⟩ := h.ready j d ((hleftother j hj).symm.trans hd) hact
      exact ⟨sid, (hother j hj).trans ht⟩
  · intro j d hd hact
    by_cases hj : j = i
    · subst hj
      rcases hnext d (hleftself.symm.trans hd) with ⟨heq, -⟩ | ⟨-, rfl⟩
      · exact absurd heq hact
      · exact hself
    · exact (hother j hj).trans (h.ended j d ((hleftother j hj).symm.trans hd) hact)
  · intro j sid ht
    by_cases hj : j = i
    · subst hj
      obtain ⟨d, hd, hact⟩ := hready sid (Option.some.inj (hself.symm.trans ht))
      exact ⟨d, hleftself.trans hd, hact⟩
    · obtain ⟨d, hd, hact⟩ := h.announced j sid ((hother j hj).symm.trans ht)
      exact ⟨d, (hleftother j hj).trans hd, hact⟩

/-- Where a section leaves the threads: its own goes on, the others stay. -/
theorem threads_of_advance {w w' : World} {i : Nat} {env : SectionEnv} {t : Thread}
    (ht : w.threads[i]? = some t) (h : w.step (.advance i env) = some w') :
    ∃ c t' events, t.advance w.core env = some (c, t', events) ∧ w'.core = c
      ∧ w'.threads[i]? = some t' ∧ ∀ j, j ≠ i → w'.threads[j]? = w.threads[j]? := by
  obtain ⟨u, c, t', events, hu, hadv, rfl⟩ := World.step_advance h
  obtain rfl : t = u := Option.some.inj (ht.symm.trans hu)
  refine ⟨c, t', events, hadv, World.noteStop_core _ _, ?_, ?_⟩
  · rw [World.noteStop_threads]
    exact List.getElem?_set_self (List.getElem?_eq_some_iff.mp ht).1
  · intro j hj
    rw [World.noteStop_threads]
    exact List.getElem?_set_ne hj.symm

theorem Linked.step {s s' : Startup} {a : Action} (h : Linked s) (hstep : s.step a = some s') :
    Linked s' := by
  rcases step_cases hstep with
    ⟨i, env, d, rfl, hd, hdischarge⟩ | ⟨i, env, t, w, rfl, hnone, ht, hw, rfl⟩ | ⟨w, ha, hw, rfl⟩
  · obtain ⟨-, hleft, hworld⟩ := discharge_eq hdischarge
    rcases hworld with ⟨hact, hw⟩ | ⟨hact, hw⟩
    · obtain ⟨sid, ht⟩ := h.ready i d hd hact
      obtain ⟨c, t', events, hadv, -, hself, hother⟩ := threads_of_advance ht hw
      cases hadv
      refine h.move hleft hself hother ?_ nofun
      intro d' hd'
      simp [Duty.next, hact] at hd'
    · have hdone : s'.world.threads[i]? = some .done := by
        rw [hw]
        exact h.ended i d hd hact
      refine h.move hleft hdone (fun j _ => by rw [hw]) ?_ nofun
      intro d' hd'
      unfold Duty.next at hd'
      split at hd' <;> cases hd'
      exact .inr ⟨nofun, rfl⟩
  · obtain ⟨c, t', events, hadv, -, hself, hother⟩ := threads_of_advance ht hw
    obtain ⟨hnext, hready⟩ := leaves_of_advance hadv s.turn
    exact h.move rfl hself hother hnext hready
  · exact h.of_keepsReleased (keepsReleased_step hw ha)

theorem linked_init (policy : StartupPolicy) : Linked (init policy) := ⟨nofun, nofun, nofun⟩

/-- **Nor does the machine hold the world up**: every step of the world is one of it. -/
theorem step_of_world {s : Startup} (h : Linked s) {a : Action} {w : World}
    (hw : s.world.step a = some w) : ∃ s', s.step a = some s' ∧ s'.world = w := by
  cases a with
  | advance i env =>
    cases hd : s.left i with
    | none => exact ⟨_, by simp only [step, hd, hw, Option.map_some]; rfl, rfl⟩
    | some d =>
      by_cases hact : d.act = .emitReady
      · refine ⟨{ world := w, left := Function.update s.left i none
                  log := s.log ++ [.readyForOfficial] }, ?_, rfl⟩
        simp only [step, hd, discharge, hact, hw, Option.map_some]
      · -- such a thread has ended in the world
        rw [World.step_advance_idle env (.inr (h.ended i d hd hact))] at hw
        cases hw
  | _ => exact ⟨_, by simp only [step, hw, Option.map_some]; rfl, rfl⟩

end Startup

end NexusN3
