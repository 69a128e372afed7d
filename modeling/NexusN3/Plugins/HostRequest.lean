import Mathlib.Data.List.Basic
import NexusN3.Lib.Machine

/-!
# A lifecycle request and its adapter writes

A request that the proxy has sent is handled by a thread of the host, whenever that comes to run,
and its adapter writes by threads of Core. Each of them checks the operation that the request runs
under, if it has one. Times are in milliseconds.

* **`Write.advance`** — one step of the Core thread that handles a write.
* **`Request.turn`** — one step of any thread that works on a request.
* **`Request.Move`** — what such a step does.
* **`Request.Quiet`** — the request writes no more, whatever thread runs next.
* **`Silent.turn`** — no step makes a retired request write.
-/

namespace NexusN3.Plugins.Runtime

/-- The methods behind `lifecycle_call`. -/
inductive Method where
  | bindSensor
  | setup
  | startStream
  | stopStream
  | identify
  | consumeInput
  | connectSensor
  | disconnectSensor
  deriving DecidableEq

/-- The methods that act on the measurement. -/
def Method.physical : Method → Bool
  | .setup | .startStream | .stopStream => true
  | _ => false

/-- `SensorOperation`, as Core has it. -/
structure Operation where
  deadline : Nat
  cancelled : Bool

/-- What the threads of Core look at. -/
structure Core where
  now : Nat
  operations : List Operation
  physicalStopQuarantined : Bool
  cleanupAborted : Bool

/-- `SensorOperation.check`, where it does not raise. -/
def Operation.check (now : Nat) (operation : Operation) : Bool :=
  !operation.cancelled && decide (now < operation.deadline)

namespace Core

/-- `current_operation.get()` is checked where there is one. -/
def check (c : Core) : Option Nat → Bool
  | none => true
  | some i => (c.operations[i]?).elim true (Operation.check c.now)

/-- The deadline is ahead. It is all that the host checks: its copy of an operation is never
cancelled. -/
def aheadOf (c : Core) : Option Nat → Bool
  | none => true
  | some i => (c.operations[i]?).elim true fun operation => decide (c.now < operation.deadline)

/-- How long a request and an adapter future are waited for. -/
def patience (c : Core) : Option Nat → Nat
  | none => 30000
  | some i => (c.operations[i]?).elim 30000 fun operation => min 30000 (operation.deadline - c.now)

end Core

/-! ## A write -/

/-- An `adapter.write` request, on its way through Core. -/
inductive Write where
  /-- the host has sent it -/
  | sent
  /-- `_handle_request` has checked the operation -/
  | received
  /-- `_wait_for_adapter` has checked the operation -/
  | current
  /-- it has looked at `physical_stop_quarantined` -/
  | notQuarantined
  /-- and at `_cleanup_aborted` -/
  | notAborted
  /-- the coroutine is on the manager loop -/
  | scheduled (giveUp : Nat)
  | performed
  | refused
  deriving DecidableEq

namespace Write

/-- `_handle_request` and `_wait_for_adapter`, one check after another. -/
def advance (c : Core) (operation : Option Nat) : Write → Option Write
  | .sent => some (if c.check operation then .received else .refused)
  | .received => some (if c.check operation then .current else .refused)
  | .current => some (if c.physicalStopQuarantined then .refused else .notQuarantined)
  | .notQuarantined => some (if c.cleanupAborted then .refused else .notAborted)
  | .notAborted => some (.scheduled (c.now + max 1 (c.patience operation)))
  | .scheduled _ | .performed | .refused => none

def answered : Write → Bool
  | .performed | .refused => true
  | _ => false

/-- It is to be performed, and no check of the operation is left. -/
def passed : Write → Bool
  | .current | .notQuarantined | .notAborted | .scheduled _ => true
  | _ => false

/-- `future.cancel()`, where the write has a future. -/
def cancel : Write → Write
  | .scheduled _ => .refused
  | write => write

end Write

/-! ## A request -/

inductive Phase where
  /-- in the pipe, or its thread has not run -/
  | sent
  /-- `_handle_request` has checked the operation -/
  | checked
  /-- it has the lock -/
  | running
  /-- it waits for its last write -/
  | writing (giveUp : Nat)
  /-- the reply is out -/
  | finished (ok : Bool)
  deriving DecidableEq

def Phase.isFinished : Phase → Bool
  | .finished _ => true
  | _ => false

/-- The handler is executing. -/
def Phase.holds : Phase → Bool
  | .running | .writing _ => true
  | _ => false

structure Request where
  method : Method
  operation : Option Nat
  phase : Phase
  writes : List Write
  /-- sent before a `prepare_recovery` that has returned -/
  retired : Bool
  /-- a write has been performed after it was retired -/
  wroteLate : Bool

def Request.new (method : Method) (operation : Option Nat) : Request where
  method := method
  operation := operation
  phase := .sent
  writes := []
  retired := false
  wroteLate := false

/-- The threads that work on a request, and where they are. -/
inductive Turn where
  | check
  | acquire
  /-- `HostAdapterProxy.write` -/
  | write
  /-- the answer to the last write comes -/
  | answered
  | waitEnds
  /-- the handler returns or raises -/
  | finish (ok : Bool)
  | advance (i : Nat)
  /-- `_adapter_request` has no adapter, client or loop -/
  | unbound (i : Nat)
  | perform (i : Nat)
  | giveUp (i : Nat)
  deriving DecidableEq

namespace Request

def setWrite (req : Request) (i : Nat) (write : Write) : Request :=
  { req with writes := req.writes.set i write }

def turn (c : Core) (lockFree : Bool) (req : Request) : Turn → Option Request
  | .check =>
    match req.phase with
    | .sent =>
      some { req with phase := if c.aheadOf req.operation then .checked else .finished false }
    | _ => none
  | .acquire =>
    match req.phase with
    | .checked => some { req with phase := if lockFree then .running else .finished false }
    | _ => none
  | .write =>
    match req.phase with
    | .running =>
      if c.aheadOf req.operation then
        some { req with
          phase := .writing (c.now + c.patience req.operation)
          writes := req.writes ++ [.sent] }
      else none
    | _ => none
  | .answered =>
    match req.phase, req.writes.getLast? with
    | .writing _, some write => if write.answered then some { req with phase := .running } else none
    | _, _ => none
  | .waitEnds =>
    match req.phase with
    | .writing giveUp => if giveUp ≤ c.now then some { req with phase := .running } else none
    | _ => none
  | .finish ok =>
    match req.phase with
    | .running => some { req with phase := .finished ok }
    | _ => none
  | .advance i =>
    ((req.writes[i]?).bind (Write.advance c req.operation)).map (req.setWrite i)
  | .unbound i =>
    match req.writes[i]? with
    | some .received => some (req.setWrite i .refused)
    | _ => none
  | .perform i =>
    match req.writes[i]? with
    | some (.scheduled _) =>
      some { req.setWrite i .performed with
        wroteLate := req.wroteLate || (req.retired && req.method.physical) }
    | _ => none
  | .giveUp i =>
    match req.writes[i]? with
    | some (.scheduled giveUp) =>
      if giveUp ≤ c.now then some (req.setWrite i .refused) else none
    | _ => none

/-- Where the futures of the writes are cancelled. -/
def cancelWrites (req : Request) : Request := { req with writes := req.writes.map Write.cancel }

/-- The host ends: no thread of it is left. -/
def kill (req : Request) : Request :=
  { req with phase := if req.phase.isFinished then req.phase else .finished false }

def retire (req : Request) : Request := { req with retired := true }

end Request

/-! ## What a turn does -/

namespace Request

/-- What a turn does to a request. -/
inductive Move (c : Core) (req : Request) : Request → Prop where
  | phase (phase : Phase) (hphase : req.phase.isFinished = false)
    (hwriting : ∀ giveUp, phase ≠ .writing giveUp) : Move c req { req with phase := phase }
  | send (phase : Phase) (hphase : req.phase.isFinished = false) :
    Move c req { req with phase := phase, writes := req.writes ++ [.sent] }
  | advance (i : Nat) (write write' : Write) (hwrite : req.writes[i]? = some write)
    (hadvance : write.advance c req.operation = some write') : Move c req (req.setWrite i write')
  | drop (i : Nat) (write : Write) (hwrite : req.writes[i]? = some write)
    (hopen : write.answered = false) : Move c req (req.setWrite i .refused)
  | perform (i giveUp : Nat) (hwrite : req.writes[i]? = some (.scheduled giveUp)) :
    Move c req { req.setWrite i .performed with
      wroteLate := req.wroteLate || (req.retired && req.method.physical) }

theorem move_of_turn {c : Core} {lockFree : Bool} {req req' : Request} {t : Turn}
    (hturn : req.turn c lockFree t = some req') : Move c req req' := by
  cases t with
  | check =>
    simp only [turn] at hturn
    split at hturn
    · rename_i hphase
      cases hturn
      refine .phase _ (by rw [hphase]; rfl) ?_
      split <;> exact nofun
    · cases hturn
  | acquire =>
    simp only [turn] at hturn
    split at hturn
    · rename_i hphase
      cases hturn
      refine .phase _ (by rw [hphase]; rfl) ?_
      split <;> exact nofun
    · cases hturn
  | write =>
    simp only [turn] at hturn
    split at hturn
    · rename_i hphase
      split at hturn
      · cases hturn
        exact .send _ (by rw [hphase]; rfl)
      · cases hturn
    · cases hturn
  | answered =>
    simp only [turn] at hturn
    split at hturn
    · rename_i hphase _
      split at hturn
      · cases hturn
        exact .phase _ (by rw [hphase]; rfl) nofun
      · cases hturn
    · cases hturn
  | waitEnds =>
    simp only [turn] at hturn
    split at hturn
    · rename_i hphase
      split at hturn
      · cases hturn
        exact .phase _ (by rw [hphase]; rfl) nofun
      · cases hturn
    · cases hturn
  | finish ok =>
    simp only [turn] at hturn
    split at hturn
    · rename_i hphase
      cases hturn
      exact .phase _ (by rw [hphase]; rfl) nofun
    · cases hturn
  | advance i =>
    obtain ⟨write', hadvance, rfl⟩ := Option.map_eq_some_iff.mp hturn
    obtain ⟨write, hwrite, hadvance⟩ := Option.bind_eq_some_iff.mp hadvance
    exact .advance i write write' hwrite hadvance
  | unbound i =>
    simp only [turn] at hturn
    split at hturn
    · rename_i hwrite
      cases hturn
      exact .drop i _ hwrite rfl
    · cases hturn
  | perform i =>
    simp only [turn] at hturn
    split at hturn
    · rename_i giveUp hwrite
      cases hturn
      exact .perform i giveUp hwrite
    · cases hturn
  | giveUp i =>
    simp only [turn] at hturn
    split at hturn
    · rename_i giveUp hwrite
      split at hturn
      · cases hturn
        exact .drop i _ hwrite rfl
      · cases hturn
    · cases hturn

end Request

/-! ## Fences -/

namespace Core

/-- The operation is over: cancelled or past its deadline. -/
def Fences (c : Core) : Option Nat → Prop
  | none => False
  | some i => ∃ operation, c.operations[i]? = some operation ∧ operation.check c.now = false

instance (c : Core) : ∀ operation, Decidable (c.Fences operation)
  | none => inferInstanceAs (Decidable False)
  | some i =>
    match h : c.operations[i]? with
    | none => isFalse (by simp [Fences, h])
    | some operation => decidable_of_iff (operation.check c.now = false) (by simp [Fences, h])

variable {c c' : Core} {operation : Option Nat}

theorem fences_iff : c.Fences operation ↔ c.check operation = false := by
  cases operation with
  | none => simp [Fences, check]
  | some i =>
    cases hoperation : c.operations[i]? with
    | none => simp [Fences, check, hoperation]
    | some o => simp [Fences, check, hoperation]

theorem aheadOf_of_check (h : c.check operation = true) : c.aheadOf operation = true := by
  cases operation with
  | none => rfl
  | some i =>
    cases hoperation : c.operations[i]? with
    | none => simp [aheadOf, hoperation]
    | some o =>
      simp only [check, hoperation, Option.elim_some, Operation.check, Bool.and_eq_true] at h
      simp [aheadOf, hoperation, of_decide_eq_true h.2]

/-- Time goes on, and operations are made and cancelled. -/
structure Later (c c' : Core) : Prop where
  now : c.now ≤ c'.now
  operations : ∀ (i : Nat) (o : Operation), c.operations[i]? = some o →
    ∃ o' : Operation, c'.operations[i]? = some o' ∧ o'.deadline = o.deadline ∧
      (o.cancelled = true → o'.cancelled = true)

theorem later_of_eq (hnow : c.now ≤ c'.now) (hoperations : c'.operations = c.operations) :
    c.Later c' :=
  ⟨hnow, fun _ o ho => ⟨o, hoperations ▸ ho, rfl, id⟩⟩

theorem Fences.later (h : c.Fences operation) (hlater : c.Later c') : c'.Fences operation := by
  cases operation with
  | none => exact h
  | some i =>
    obtain ⟨o, ho, hover⟩ := h
    obtain ⟨o', ho', hdeadline, hcancelled⟩ := hlater.operations i o ho
    refine ⟨o', ho', ?_⟩
    have hnow := hlater.now
    simp only [Operation.check, Bool.and_eq_false_iff, Bool.not_eq_eq_eq_not, Bool.not_false,
      decide_eq_false_iff_not, Nat.not_lt] at hover ⊢
    rcases hover with hcancel | hexpired
    · exact .inl (hcancelled hcancel)
    · exact .inr (by omega)

end Core

/-! ## Quiet requests -/

namespace Write

variable {c : Core} {operation : Option Nat} {write write' : Write}

theorem advance_of_answered (h : write.answered = true) : write.advance c operation = none := by
  cases write <;> first | rfl | cases h

/-- With the operation over, the checks that are left stop the write. -/
theorem passed_advance (hcheck : c.check operation = false) (h : write.passed = false)
    (hadvance : write.advance c operation = some write') : write'.passed = false := by
  cases write with
  | sent =>
    simp only [advance, hcheck] at hadvance
    cases hadvance
    rfl
  | received =>
    simp only [advance, hcheck] at hadvance
    cases hadvance
    rfl
  | current => cases h
  | notQuarantined => cases h
  | notAborted => cases h
  | scheduled giveUp => cases h
  | performed => cases hadvance
  | refused => cases hadvance

end Write

namespace Request

/-- The host is done with the request, and Core with its writes. -/
structure Done (req : Request) : Prop where
  finished : req.phase.isFinished = true
  answered : ∀ write ∈ req.writes, write.answered = true

/-- Its operation is over, and no write is past the last check of it. -/
structure Fenced (c : Core) (req : Request) : Prop where
  fences : c.Fences req.operation
  stopped : ∀ write ∈ req.writes, write.passed = false

def Quiet (c : Core) (req : Request) : Prop := req.Done ∨ req.Fenced c

instance (req : Request) : Decidable req.Done :=
  decidable_of_iff (req.phase.isFinished = true ∧ ∀ write ∈ req.writes, write.answered = true)
    ⟨fun h => ⟨h.1, h.2⟩, fun h => ⟨h.1, h.2⟩⟩

instance (c : Core) (req : Request) : Decidable (req.Fenced c) :=
  decidable_of_iff (c.Fences req.operation ∧ ∀ write ∈ req.writes, write.passed = false)
    ⟨fun h => ⟨h.1, h.2⟩, fun h => ⟨h.1, h.2⟩⟩

instance (c : Core) (req : Request) : Decidable (req.Quiet c) :=
  inferInstanceAs (Decidable (_ ∨ _))

variable {c c' : Core} {lockFree : Bool} {req req' : Request} {t : Turn}

theorem Quiet.later (h : req.Quiet c) (hlater : c.Later c') : req.Quiet c' :=
  h.imp_right fun hfenced => ⟨hfenced.fences.later hlater, hfenced.stopped⟩

theorem Fenced.setWrite (h : req.Fenced c) (i : Nat) {write : Write}
    (hwrite : write.passed = false) : (req.setWrite i write).Fenced c where
  fences := h.fences
  stopped w hw := by
    rcases List.mem_or_eq_of_mem_set hw with hold | rfl
    · exact h.stopped w hold
    · exact hwrite

/-- No thread has anything left to do. -/
theorem Done.not_move (h : req.Done) : ¬ req.Move c req' := by
  have hanswered {i : Nat} {write : Write} (hwrite : req.writes[i]? = some write) :
      write.answered = true := h.answered write (List.mem_of_getElem? hwrite)
  intro hmove
  cases hmove with
  | phase phase hphase hwriting =>
    exact absurd h.finished (by rw [hphase]; exact Bool.false_ne_true)
  | send phase hphase => exact absurd h.finished (by rw [hphase]; exact Bool.false_ne_true)
  | advance i write write' hwrite hadvance =>
    rw [Write.advance_of_answered (hanswered hwrite)] at hadvance
    cases hadvance
  | drop i write hwrite hopen =>
    rw [hanswered hwrite] at hopen
    cases hopen
  | perform i giveUp hwrite => cases hanswered hwrite

/-- The checks that are left stop every write. -/
theorem Fenced.move (h : req.Fenced c) (hmove : req.Move c req') :
    req'.Fenced c ∧ req'.wroteLate = req.wroteLate := by
  have hpassed {i : Nat} {write : Write} (hwrite : req.writes[i]? = some write) :
      write.passed = false := h.stopped write (List.mem_of_getElem? hwrite)
  cases hmove with
  | phase phase hphase hwriting => exact ⟨⟨h.fences, h.stopped⟩, rfl⟩
  | send phase hphase =>
    refine ⟨⟨h.fences, ?_⟩, rfl⟩
    intro w hw
    rcases List.mem_append.mp hw with hold | hnew
    · exact h.stopped w hold
    · cases List.mem_singleton.mp hnew
      rfl
  | advance i write write' hwrite hadvance =>
    have hcheck : c.check req.operation = false := Core.fences_iff.mp h.fences
    exact ⟨h.setWrite i (Write.passed_advance hcheck (hpassed hwrite) hadvance), rfl⟩
  | drop i write hwrite hopen => exact ⟨h.setWrite i rfl, rfl⟩
  | perform i giveUp hwrite => cases hpassed hwrite

/-- A quiet request stays quiet and writes no more, whatever thread runs. -/
theorem Quiet.move (h : req.Quiet c) (hmove : req.Move c req') :
    req'.Quiet c ∧ req'.wroteLate = req.wroteLate := by
  rcases h with hdone | hfenced
  · exact absurd hmove hdone.not_move
  · obtain ⟨hquiet, hlate⟩ := hfenced.move hmove
    exact ⟨.inr hquiet, hlate⟩

theorem Quiet.cancelWrites (h : req.Quiet c) : req.cancelWrites.Quiet c := by
  rcases h with ⟨hfinished, hanswered⟩ | ⟨hfences, hstopped⟩
  · refine .inl ⟨hfinished, ?_⟩
    intro w hw
    obtain ⟨write, hwrite, rfl⟩ := List.mem_map.mp hw
    have hold := hanswered write hwrite
    cases write <;> first | rfl | cases hold
  · refine .inr ⟨hfences, ?_⟩
    intro w hw
    obtain ⟨write, hwrite, rfl⟩ := List.mem_map.mp hw
    have hold := hstopped write hwrite
    cases write <;> first | rfl | cases hold

theorem Quiet.kill (h : req.Quiet c) : req.kill.Quiet c := by
  rcases h with ⟨hfinished, hanswered⟩ | ⟨hfences, hstopped⟩
  · refine .inl ⟨?_, hanswered⟩
    unfold Request.kill
    rw [if_pos hfinished]
    exact hfinished
  · exact .inr ⟨hfences, hstopped⟩

theorem Quiet.retire (h : req.Quiet c) : req.retire.Quiet c := by
  rcases h with hdone | hfenced
  · exact .inl ⟨hdone.finished, hdone.answered⟩
  · exact .inr ⟨hfenced.fences, hfenced.stopped⟩

/-- Once retired, a physical request writes no more. -/
structure Silent (c : Core) (req : Request) : Prop where
  notLate : req.wroteLate = false
  quiet : req.retired = true → req.method.physical = true → req.Quiet c

theorem Silent.later (h : req.Silent c) (hlater : c.Later c') : req.Silent c' :=
  ⟨h.notLate, fun hretired hphysical => (h.quiet hretired hphysical).later hlater⟩

theorem Silent.turn (h : req.Silent c) (hturn : req.turn c lockFree t = some req') :
    req'.Silent c := by
  have hmove := move_of_turn hturn
  by_cases hasked : req.retired = true ∧ req.method.physical = true
  · obtain ⟨hquiet, hlate⟩ := (h.quiet hasked.1 hasked.2).move hmove
    exact ⟨hlate.trans h.notLate, fun _ _ => hquiet⟩
  · have hnot : (req.retired && req.method.physical) = false := by
      rw [Bool.and_eq_false_iff, ← Bool.not_eq_true, ← Bool.not_eq_true, ← not_and_or]
      exact hasked
    cases hmove with
    | phase phase hphase hwriting => exact ⟨h.notLate, fun hr hp => absurd ⟨hr, hp⟩ hasked⟩
    | send phase hphase => exact ⟨h.notLate, fun hr hp => absurd ⟨hr, hp⟩ hasked⟩
    | advance i write write' hwrite hadvance =>
      exact ⟨h.notLate, fun hr hp => absurd ⟨hr, hp⟩ hasked⟩
    | drop i write hwrite hopen => exact ⟨h.notLate, fun hr hp => absurd ⟨hr, hp⟩ hasked⟩
    | perform i giveUp hwrite =>
      refine ⟨?_, fun hr hp => absurd ⟨hr, hp⟩ hasked⟩
      show (req.wroteLate || (req.retired && req.method.physical)) = false
      rw [h.notLate, hnot]
      rfl

theorem Silent.cancelWrites (h : req.Silent c) : req.cancelWrites.Silent c :=
  ⟨h.notLate, fun hretired hphysical => (h.quiet hretired hphysical).cancelWrites⟩

theorem Silent.kill (h : req.Silent c) : req.kill.Silent c :=
  ⟨h.notLate, fun hretired hphysical => (h.quiet hretired hphysical).kill⟩

/-- Retiring shows nothing but what is promised. -/
theorem silent_retire_iff (h : req.Silent c) :
    req.retire.Silent c ↔ (req.method.physical = true → req.Quiet c) := by
  constructor
  · intro hretired hphysical
    rcases hretired.quiet rfl hphysical with hdone | hfenced
    · exact .inl ⟨hdone.finished, hdone.answered⟩
    · exact .inr ⟨hfenced.fences, hfenced.stopped⟩
  · exact fun hquiet => ⟨h.notLate, fun _ hphysical => (hquiet hphysical).retire⟩

theorem silent_new (c : Core) (method : Method) (operation : Option Nat) :
    (Request.new method operation).Silent c :=
  ⟨rfl, fun hretired => absurd hretired Bool.false_ne_true⟩

/-! ## What a handler keeps -/

/-- A request waits only for a write that it has made. -/
def Wellformed (req : Request) : Prop :=
  ∀ giveUp, req.phase = .writing giveUp → req.writes ≠ []

theorem Wellformed.setWrite (h : req.Wellformed) (i : Nat) (write : Write) :
    (req.setWrite i write).Wellformed := by
  intro giveUp hphase hnil
  apply h giveUp hphase
  simpa [Request.setWrite] using hnil

theorem Wellformed.move (h : req.Wellformed) (hmove : req.Move c req') : req'.Wellformed := by
  cases hmove with
  | phase phase hphase hwriting => exact fun giveUp heq => absurd heq (hwriting giveUp)
  | send phase hphase =>
    exact fun _ _ => List.append_ne_nil_of_right_ne_nil _ (List.cons_ne_nil _ _)
  | advance i write write' hwrite hadvance => exact h.setWrite i write'
  | drop i write hwrite hopen => exact h.setWrite i .refused
  | perform i giveUp hwrite => exact h.setWrite i .performed

/-- A handler holds the lock until it finishes. -/
theorem holds_turn (h : req.phase.holds = true) (hturn : req.turn c lockFree t = some req')
    (hfinish : ∀ ok, t ≠ .finish ok) : req'.phase.holds = true := by
  cases t with
  | check =>
    simp only [Request.turn] at hturn
    split at hturn
    · rename_i hphase
      rw [hphase] at h
      cases h
    · cases hturn
  | acquire =>
    simp only [Request.turn] at hturn
    split at hturn
    · rename_i hphase
      rw [hphase] at h
      cases h
    · cases hturn
  | write =>
    simp only [Request.turn] at hturn
    split at hturn
    · split at hturn
      · cases hturn
        rfl
      · cases hturn
    · cases hturn
  | answered =>
    simp only [Request.turn] at hturn
    split at hturn
    · split at hturn
      · cases hturn
        rfl
      · cases hturn
    · cases hturn
  | waitEnds =>
    simp only [Request.turn] at hturn
    split at hturn
    · split at hturn
      · cases hturn
        rfl
      · cases hturn
    · cases hturn
  | finish ok => exact absurd rfl (hfinish ok)
  | advance i =>
    obtain ⟨write', -, rfl⟩ := Option.map_eq_some_iff.mp hturn
    exact h
  | unbound i =>
    simp only [Request.turn] at hturn
    split at hturn
    · cases hturn
      exact h
    · cases hturn
  | perform i =>
    simp only [Request.turn] at hturn
    split at hturn
    · cases hturn
      exact h
    · cases hturn
  | giveUp i =>
    simp only [Request.turn] at hturn
    split at hturn
    · split at hturn
      · cases hturn
        exact h
      · cases hturn
    · cases hturn

/-- Whoever acquires the free lock executes. -/
theorem holds_of_acquire (hturn : req.turn c true .acquire = some req') :
    req'.phase.holds = true := by
  simp only [Request.turn, if_true] at hturn
  split at hturn
  · cases hturn
    rfl
  · cases hturn

end Request

end NexusN3.Plugins.Runtime
