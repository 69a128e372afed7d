import NexusN3.Core.SessionArchive
import NexusN3.Master.DrainOutcome
import NexusN3.Master.Streams

/-!
# Finalizing a distributed session

The master role of `run_async_server` in `nexus_n3_server.py`: the node, the Core of the
server's own handler, and `_finalize_distributed_session`, the callback that hands the session
of the last drain to that Core. The timestamp comes from the acknowledgements; the Core
compares it with its own, which it only has from a START that reached it.

* **`MasterServer`** — the node and the Core side by side. A START the node admits runs on the
  Core before the dispatch goes on, if one of its subjects is the master's.
* **`MasterServer.InSession`** — the steps after a START that put no other session in the
  Core: the sections of any call, stops, acknowledgements, STARTs of other nodes.
* **`MasterServer.FinalizedOnce`** — the callback of the last drain succeeds, the session is
  archived once, and the aggregate says `ok` when every node did.
* **`finalizedOnce_iff`** — that is so exactly when the master took part in the START, or its
  Core carried the timestamp from an earlier one.
-/

namespace NexusN3

open Lib

/-- What the master role runs: the node, and the Core of its handler (`server.handler.si`),
absent until the first setup. -/
structure MasterServer where
  node : Master
  si : Option World := none

inductive ServerAction where
  -- `CMD_SYSTEM_SETUP`
  | systemSetup (policy : StartupPolicy)
  -- `now` is the time a START reads that the node hands to its own Core
  | node (action : MasterAction) (now : ℚ)
  | core (action : Action)
  -- the callback of a call that has come to it
  | callback (i : Nat)

namespace MasterServer

/-- `_finalize_distributed_session`: the Core after it, and the exception it raises. -/
def finalizeDistributedSession (si : Option World) (r : DrainResult) :
    Option World × Option String :=
  match truthy r.sessionTimestamp with
  | none => (si, some "Distributed drain acknowledgements did not identify one shared session")
  | some ts =>
    match si with
    | none => (none, none)
    | some w =>
      match w.core.finalizeDistributedSession (some ts) with
      | (c, .ok ()) => (some (w.setCore c), none)
      | (c, .error e) => (some (w.setCore c), some e)

/-- The start an action has the node hand to its own Core, with the clock it reads. -/
def localStart (s : MasterServer) (a : MasterAction) : Option (StartMessage × String) :=
  match s.node.startedBy a with
  | none => none
  | some (specific, p, env) =>
    ((s.node.startMessages specific p env).find? fun m => decide (m.target = masterId)).map
      fun m => (m, env.clock)

/-- `_handle_local` on what an action hands to the own Core. -/
def handleLocal (s : MasterServer) (a : MasterAction) (now : ℚ) : Option World :=
  match s.localStart a with
  | none => s.si
  | some (m, clock) =>
    s.si.map fun w => w.runStart m.payload m.specific { clock := clock, now := now }

/-- The callback is registered before the node hears anything, and a call that has come to it
waits for the server. -/
def leavesToNode (s : MasterServer) : MasterAction → Bool
  | .drainAck _ _ callbackRegistered => callbackRegistered
  | .drainAdvance i _ => s.node.desk.inFlight[i]?.all fun f => decide (f.stage ≠ .callback)
  | _ => true

def step (lower : String → String) (s : MasterServer) : ServerAction → Option MasterServer
  | .systemSetup policy => some { s with si := some { core := { policy := policy } } }
  | .node a now =>
    if s.leavesToNode a then
      (s.node.step lower a).map fun node => { node := node, si := s.handleLocal a now }
    else none
  | .core a =>
    if a.isStart then none
    else s.si.bind fun w => (w.step a).map fun w' => { s with si := some w' }
  | .callback i =>
    match s.node.desk.inFlight[i]? with
    | none => none
    | some f =>
      if f.stage = .callback then
        let (si, error) := finalizeDistributedSession s.si f.result
        (s.node.step lower (.drainAdvance i error)).map fun node => { node := node, si := si }
      else none

def boot (entry : NodeEntry) : MasterServer := { node := Master.boot entry }

def Reachable (lower : String → String) (entry : NodeEntry) (s : MasterServer) : Prop :=
  Machine.Reach (step lower) (boot entry) s

/-! ## One session -/

/-- What the Core knows of its session; without a Core, nothing. -/
def session (s : MasterServer) : SessionRecord :=
  match s.si with
  | none => { timestamp := none, archivedTimestamp := none, archives := [] }
  | some w => w.core.session

/-- The START reaches the Core, which admits it: one of its subjects is the master's. -/
def TakesPart (s : MasterServer) (specific : Bool) (p : StartCommand) : Prop :=
  masterId ∈ s.node.targetNodes p.ids
    ∧ ∃ w ∈ s.si, w.core.StartAdmitted ∧ (specific = true → p.subjectIds ≠ none)

instance (s : MasterServer) (specific : Bool) (p : StartCommand) :
    Decidable (s.TakesPart specific p) :=
  inferInstanceAs (Decidable (_ ∧ _))

/-- A step that puts no other session in the Core. -/
def InSession (s : MasterServer) : ServerAction → Prop
  | .systemSetup _ => False
  | .node a _ => s.localStart a = none
  | .core a => a.leavesSession = true
  | .callback _ => True

instance (s : MasterServer) : (a : ServerAction) → Decidable (s.InSession a)
  | .systemSetup _ => inferInstanceAs (Decidable False)
  | .node a _ => inferInstanceAs (Decidable (s.localStart a = none))
  | .core a => inferInstanceAs (Decidable (a.leavesSession = true))
  | .callback _ => inferInstanceAs (Decidable True)

end MasterServer

/-- The call an acknowledgement starts when it takes the last active stream out. -/
def DrainDesk.lastDrain (d : DrainDesk) (node : NodeId) (ev : DrainEvent) : Option Finalization :=
  match d.book.drainAck node ev with
  | (_, .finalize record result true) => some (finalizationOf record result true true)
  | _ => none

namespace MasterServer

variable (lower : String → String)

/-- A START in a reachable state, any run of its session, and the acknowledgement that takes
the last active stream out and leads to `r`: the acknowledgements of its record all report the
session's timestamp, and `i` is the call it starts. -/
structure DrainedSession (entry : NodeEntry) (s : MasterServer) (specific : Bool)
    (p : StartCommand) (env : DispatchEnv) (r : MasterServer) (i : Nat) (f : Finalization) :
    Prop where
  reachable : Reachable lower entry s
  run : ∃ a now s₁, s.node.startedBy a = some (specific, p, env)
    ∧ s.step lower (.node a now) = some s₁
    ∧ ∃ q node ev now', Machine.Run (step lower) InSession s₁ q
      ∧ q.node.desk.lastDrain node ev = some f
      ∧ q.step lower (.node (.drainAck node ev true) now') = some r
      ∧ i = q.node.desk.inFlight.length
  acks : ∀ n ack, f.atAck.acks.get? n = some ack →
    truthy ack.sessionTimestamp = some (Master.sessionTimestampOf p env)

/-- The call `i`, at its callback, finalizes the session of the timestamp, archived `before`
times so far. -/
structure FinalizedOnce (s : MasterServer) (i : Nat) (f : Finalization) (ts : String)
    (before : Nat) : Prop where
  succeeds : (finalizeDistributedSession s.si f.result).2 = none
  archived : ∀ s' t, s.step lower (.callback i) = some s' →
    Machine.Run (step lower) InSession s' t → t.session.made ts = before + 1
  reported : ∀ now, ∃ t x, Machine.exec (step lower) s [.callback i,
      .node (.drainAdvance i none) now, .node (.drainAdvance i none) now] = some t
    ∧ t.node.desk.issued = s.node.desk.issued ++ [x] ∧ x.kind = .aggregate
    ∧ x.allStreamsDrained = true
    ∧ (x.result.status = "ok" ↔ ∀ n ack, f.atAck.acks.get? n = some ack → ack.status = "ok")

/-! ## The Core in a step of the server -/

def NoStartPending (s : MasterServer) : Prop := ∀ w, s.si = some w → w.NoStartPending

theorem session_of_si {s : MasterServer} {w : World} (h : s.si = some w) :
    s.session = w.core.session := by
  unfold session
  rw [h]

/-- The session stays, or it is archived. -/
def Outlives (s s' : MasterServer) : Prop :=
  s'.session = s.session ∨ s'.session = s.session.archive

theorem outlives_of_keeps {s s' : MasterServer} {w w' : World} (hs : s.si = some w)
    (hs' : s'.si = some w') (h : Core.KeepsSession w.core w'.core) : s.Outlives s' := by
  unfold Outlives
  rw [session_of_si hs, session_of_si hs']
  exact h

/-- The callback changes nothing of the Core but that it archives. -/
theorem finalizeDistributedSession_si (si : Option World) (r : DrainResult) :
    (finalizeDistributedSession si r).1 = si
      ∨ ∃ w ts, si = some w ∧ (finalizeDistributedSession si r).1
        = some (w.setCore (w.core.finalizeDistributedSession (some ts)).1) := by
  unfold finalizeDistributedSession
  split
  · exact .inl rfl
  · rename_i ts _
    cases si with
    | none => exact .inl rfl
    | some w =>
      refine .inr ⟨w, ts, rfl, ?_⟩
      dsimp only
      split <;> rename_i heq <;> rw [heq]

/-- The callback of a call: what the Core makes of the result is what the node goes on with. -/
theorem callback_of_step {lower : String → String} {s s' : MasterServer} {i : Nat}
    (h : s.step lower (.callback i) = some s') :
    ∃ f, s.node.desk.inFlight[i]? = some f ∧ f.stage = .callback
      ∧ s'.si = (finalizeDistributedSession s.si f.result).1
      ∧ s.node.step lower (.drainAdvance i (finalizeDistributedSession s.si f.result).2)
        = some s'.node := by
  unfold step at h
  dsimp only at h
  split at h
  · cases h
  · rename_i f hf
    split at h
    · rename_i hstage
      obtain ⟨node, hnode, rfl⟩ := Option.map_eq_some_iff.mp h
      exact ⟨f, hf, hstage, rfl, hnode⟩
    · cases h

theorem node_of_step {lower : String → String} {s s' : MasterServer} {a : MasterAction} {now : ℚ}
    (h : s.step lower (.node a now) = some s') :
    s.leavesToNode a = true ∧ s.node.step lower a = some s'.node ∧ s'.si = s.handleLocal a now := by
  unfold step at h
  dsimp only at h
  split at h
  · rename_i hleaves
    obtain ⟨node, hnode, rfl⟩ := Option.map_eq_some_iff.mp h
    exact ⟨hleaves, hnode, rfl⟩
  · cases h

theorem core_of_step {lower : String → String} {s s' : MasterServer} {a : Action}
    (h : s.step lower (.core a) = some s') : a.isStart = false ∧ ∃ w w', s.si = some w
      ∧ w.step a = some w' ∧ s' = { s with si := some w' } := by
  unfold step at h
  dsimp only at h
  split at h
  · cases h
  · rename_i hstart
    obtain ⟨w, hw, hmap⟩ := Option.bind_eq_some_iff.mp h
    obtain ⟨w', hw', rfl⟩ := Option.map_eq_some_iff.mp hmap
    exact ⟨by simpa using hstart, w, w', hw, hw', rfl⟩

/-- A step of the server leaves no start pending, and one in session leaves the session. -/
theorem outlives_step {lower : String → String} {s s' : MasterServer} {a : ServerAction}
    (hs : s.NoStartPending) (h : s.step lower a = some s') :
    (s.InSession a → s.Outlives s') ∧ s'.NoStartPending := by
  cases a with
  | systemSetup policy =>
    cases h
    refine ⟨False.elim, fun w hw t ht => ?_⟩
    cases hw
    cases ht
  | node a now =>
    obtain ⟨-, -, hsi⟩ := node_of_step h
    unfold handleLocal at hsi
    split at hsi
    · refine ⟨fun _ => ?_, fun w hw => hs w (hsi ▸ hw)⟩
      left
      unfold session
      rw [hsi]
    · rename_i m clock hlocal
      refine ⟨fun hin => ?_, fun w hw => ?_⟩
      · -- in session no START runs on this Core
        have hnone : s.localStart a = none := hin
        rw [hlocal] at hnone
        cases hnone
      · obtain ⟨w₀, hw₀, rfl⟩ := Option.map_eq_some_iff.mp (hsi ▸ hw)
        exact (World.runStart_session (hs w₀ hw₀) _ _ _).2
  | core a =>
    obtain ⟨hstart, w, w', hw, hw', rfl⟩ := core_of_step h
    refine ⟨fun hin => ?_, fun v hv => ?_⟩
    · exact outlives_of_keeps hw rfl (World.keepsSession_step hw' hin (hs w hw))
    · cases hv
      exact World.noStartPending_step hw' hstart (hs w hw)
  | callback i =>
    obtain ⟨f, -, -, hsi, -⟩ := callback_of_step h
    rcases finalizeDistributedSession_si s.si f.result with hsame | ⟨w, ts, hw, hfin⟩
    · rw [hsame] at hsi
      refine ⟨fun _ => .inl ?_, fun w hw => hs w (hsi ▸ hw)⟩
      unfold session
      rw [hsi]
    · rw [hfin] at hsi
      refine ⟨fun _ => outlives_of_keeps hw hsi (Core.keepsSession_finalize w.core _), ?_⟩
      intro v hv
      cases hsi.symm.trans hv
      exact hs w hw

theorem noStartPending_of_reachable {lower : String → String} {entry : NodeEntry}
    {s : MasterServer} (h : Reachable lower entry s) : s.NoStartPending :=
  h.invariant (I := NoStartPending) (fun w hw => by cases hw)
    fun _ _ _ _ hstep hs => (outlives_step hs hstep).2

/-- What a run in session leaves of the session: its timestamp, the count of its archives with
one that is due, and that none is due when none was. -/
structure Continues (ts : String) (s t : MasterServer) : Prop where
  timestamp : t.session.timestamp = s.session.timestamp
  settled : t.session.settled ts = s.session.settled ts
  due : t.session.Due ts → s.session.Due ts

theorem Outlives.continues {s s' : MasterServer} (h : s.Outlives s') {ts : String} (hts : ts ≠ "") :
    Continues ts s s' := by
  rcases h with h | h
  · exact ⟨by rw [h], by rw [h], fun hdue => h ▸ hdue⟩
  · refine ⟨?_, ?_, fun hdue => ?_⟩
    · rw [h, SessionRecord.archive_timestamp]
    · rw [h, SessionRecord.settled_archive _ hts]
    · rw [h] at hdue
      exact absurd hdue (SessionRecord.not_due_archive _ hts)

theorem continues_run {lower : String → String} {s t : MasterServer} (hs : s.NoStartPending)
    {ts : String} (hts : ts ≠ "") (hrun : Machine.Run (step lower) InSession s t) :
    Continues ts s t ∧ t.NoStartPending := by
  refine hrun.invariant (I := fun t => Continues ts s t ∧ t.NoStartPending)
    ⟨⟨rfl, rfl, id⟩, hs⟩ fun r a r' hin hstep ⟨hcont, hquiet⟩ => ?_
  obtain ⟨hout, hquiet'⟩ := outlives_step hquiet hstep
  have hnext := (hout hin).continues hts
  exact ⟨⟨hnext.timestamp.trans hcont.timestamp, hnext.settled.trans hcont.settled,
    fun hdue => hcont.due (hnext.due hdue)⟩, hquiet'⟩

end MasterServer

/-! ## The START -/

/-- The nodes of a START are the ones it sends messages to. -/
theorem Master.mem_targetNodes_iff (w : Master) (specific : Bool) (p : StartCommand)
    (env : DispatchEnv) {node : NodeId} :
    node ∈ w.targetNodes p.ids ↔ ∃ m ∈ w.startMessages specific p env, m.target = node := by
  have htargets : (w.startMessages specific p env).map StartMessage.target
      = (w.targetNodes p.ids).dedup := by
    unfold startMessages
    rw [List.map_map]
    exact List.map_id _
  rw [← List.mem_dedup, ← htargets, List.mem_map]

namespace MasterServer

section Start

variable {s : MasterServer} {a : MasterAction} {specific : Bool} {p : StartCommand}
  {env : DispatchEnv} (hstart : s.node.startedBy a = some (specific, p, env))

include hstart

theorem localStart_eq_none (hnot : masterId ∉ s.node.targetNodes p.ids) : s.localStart a = none := by
  have hfind : ((s.node.startMessages specific p env).find? fun m => decide (m.target = masterId))
      = none := by
    rw [List.find?_eq_none]
    intro m hm hmaster
    have hmaster : m.target = masterId := of_decide_eq_true hmaster
    exact hnot ((s.node.mem_targetNodes_iff specific p env).mpr ⟨m, hm, hmaster⟩)
  unfold localStart
  rw [hstart]
  simp only [hfind, Option.map_none]

/-- The message to the master itself carries the session timestamp, and names ids exactly when
the command does. -/
theorem localStart_eq_some (hmem : masterId ∈ s.node.targetNodes p.ids) :
    ∃ m, s.localStart a = some (m, env.clock) ∧ m.specific = specific
      ∧ m.payload.sessionTimestamp = some (some (Master.sessionTimestampOf p env))
      ∧ (m.payload.subjectIds = none ↔ p.subjectIds = none) := by
  cases hfind : (s.node.startMessages specific p env).find? fun m => decide (m.target = masterId) with
  | none =>
    rw [List.find?_eq_none] at hfind
    obtain ⟨m, hm, hmaster⟩ := (s.node.mem_targetNodes_iff specific p env).mp hmem
    exact absurd (decide_eq_true hmaster) (hfind m hm)
  | some m =>
    have hlocal : s.localStart a = some (m, env.clock) := by
      unfold localStart
      rw [hstart]
      simp only [hfind, Option.map_some]
    obtain ⟨node, -, rfl⟩ := List.mem_map.mp (List.mem_of_find?_eq_some hfind)
    refine ⟨_, hlocal, rfl, rfl, ?_⟩
    show (if p.ids = [] then p.subjectIds else some _) = none ↔ _
    split
    · exact Iff.rfl
    · rename_i hids
      refine ⟨nofun, fun hnone => ?_⟩
      exact absurd (by rw [StartCommand.ids, hnone]; rfl) hids

/-- **What a START does to the session of the master's Core.** -/
theorem session_of_start {lower : String → String} {s₁ : MasterServer} {now : ℚ}
    (hs : s.NoStartPending) (hstep : s.step lower (.node a now) = some s₁) :
    (s.TakesPart specific p ∧ s₁.session
        = s.session.opened (some (Master.sessionTimestampOf p env)))
      ∨ (¬ s.TakesPart specific p ∧ s₁.session = s.session) := by
  obtain ⟨-, -, hsi⟩ := node_of_step hstep
  unfold handleLocal at hsi
  by_cases hmem : masterId ∈ s.node.targetNodes p.ids
  · obtain ⟨m, hlocal, hspecific, htimestamp, hids⟩ := localStart_eq_some hstart hmem
    rw [hlocal] at hsi
    simp only at hsi
    cases hw : s.si with
    | none =>
      refine .inr ⟨fun htakes => ?_, ?_⟩
      · obtain ⟨-, w, hw', -⟩ := htakes
        rw [hw] at hw'
        cases hw'
      · unfold session
        rw [hsi, hw]
        rfl
    | some w =>
      rw [hw] at hsi
      have hrun := (World.runStart_session (hs w hw) m.payload m.specific
        { clock := env.clock, now := now }).1
      rw [htimestamp] at hrun
      -- the node took the START in; the Core still has to accept it
      have htakes : s.TakesPart specific p ↔ w.core.WritesSession m.payload m.specific := by
        refine ⟨fun ⟨_, v, hv, hadmitted, hnamed⟩ => ?_, fun ⟨hadmitted, hnamed⟩ => ?_⟩
        · cases hw.symm.trans hv
          exact ⟨hadmitted, fun hsp hnone => hnamed (hspecific ▸ hsp) (hids.mp hnone)⟩
        · exact ⟨hmem, w, hw, hadmitted,
            fun hsp hnone => hnamed (hspecific.trans hsp) (hids.mpr hnone)⟩
      rw [session_of_si hsi, session_of_si hw, hrun, htakes]
      split
      · rename_i hwrites
        exact .inl ⟨hwrites, rfl⟩
      · rename_i hwrites
        exact .inr ⟨hwrites, rfl⟩
  · rw [localStart_eq_none hstart hmem] at hsi
    refine .inr ⟨fun htakes => hmem htakes.1, ?_⟩
    unfold session
    rw [hsi]

end Start

end MasterServer

/-! ## The last drain -/

theorem ne_of_truthy {value : Option String} {text : String} (h : truthy value = some text) :
    text ≠ "" := by
  unfold truthy at h
  exact of_decide_eq_true (Option.filter_eq_some_iff.mp h).2

theorem truthy_of_ne {text : String} (h : text ≠ "") : truthy (some text) = some text := by
  simp [truthy, h]

/-- The call the last drain starts stands at its callback, with the record as this
acknowledgement completed it. -/
theorem DrainDesk.lastDrain_eq_some {d : DrainDesk} {node : NodeId} {ev : DrainEvent}
    {f : Finalization} (h : d.lastDrain node ev = some f) : f.stage = .callback
      ∧ f.allStreamsDrained = true ∧ (d.ack node ev true).inFlight = d.inFlight ++ [f]
      ∧ f.atAck.acks.get? node = some ev.ack ∧ ∃ sid, f.result = f.atAck.result sid := by
  unfold lastDrain at h
  split at h
  · rename_i b record result heq
    cases h
    have hcalls : (d.ack node ev true).inFlight
        = d.inFlight ++ [finalizationOf record result true true] := by
      unfold ack
      rw [heq]
      exact launch_inFlight _ _
    rcases d.book.drainAck_cases node ev with hignored | ⟨sid, r, -, -, ⟨-, hrec⟩ | ⟨-, hdone⟩⟩
    · rw [heq] at hignored
      cases hignored
    · rw [heq] at hrec
      cases hrec
    · rw [heq] at hdone
      simp only [DrainBook.completeDrain, Prod.mk.injEq, AckOutcome.finalize.injEq] at hdone
      obtain ⟨-, rfl, rfl, -⟩ := hdone
      exact ⟨rfl, rfl, hcalls, Dict.get?_set_self _ _ _, sid, rfl⟩
  · cases h

/-- Acknowledgements that all report one timestamp identify the session. -/
theorem DrainRecord.aggregateTimestamp_of_acks {r : DrainRecord} {node : NodeId} {ack : DrainAck}
    (hget : r.acks.get? node = some ack) {ts : String}
    (hacks : ∀ n a, r.acks.get? n = some a → truthy a.sessionTimestamp = some ts) :
    r.aggregateTimestamp = some ts := by
  rw [aggregateTimestamp_eq_some_iff]
  ext x
  rw [Finset.mem_singleton, mem_timestamps]
  constructor
  · rintro ⟨n, a, ha, hx⟩
    rw [hacks n a ha] at hx
    exact (Option.some.inj hx).symm
  · rintro rfl
    exact ⟨node, ack, hget, hacks node ack hget⟩

namespace MasterServer

/-- A Core that carries the timestamp of the result archives it, and the callback returns. -/
theorem finalizeDistributedSession_carried {si : Option World} {w : World} {r : DrainResult}
    {ts : String} (hts : truthy r.sessionTimestamp = some ts) (hw : si = some w)
    (hcarries : w.core.sessionTimestamp = some ts) :
    finalizeDistributedSession si r = (some (w.setCore w.core.finalizeSessionArchive), none) := by
  unfold finalizeDistributedSession
  rw [hts, hw]
  dsimp only
  rw [Core.finalizeDistributedSession_carried hcarries]

/-- A section of a call that is not at its callback is the node's own. -/
theorem step_drainAdvance (lower : String → String) {s : MasterServer} {i : Nat} {f : Finalization}
    {d : DrainDesk} (now : ℚ) (hcall : s.node.desk.inFlight[i]? = some f)
    (hstage : f.stage ≠ .callback) (h : s.node.desk.advanceCall i f none = some d) :
    s.step lower (.node (.drainAdvance i none) now)
      = some { s with node := { s.node with desk := d } } := by
  have hleaves : s.leavesToNode (.drainAdvance i none) = true := by
    show (s.node.desk.inFlight[i]?.all fun f => decide (f.stage ≠ .callback)) = true
    rw [hcall]
    exact decide_eq_true hstage
  have hnode : s.node.step lower (.drainAdvance i none) = some { s.node with desk := d } := by
    show (s.node.desk.inFlight[i]?.bind fun f => s.node.desk.advanceCall i f none).map _ = _
    rw [hcall]
    show (s.node.desk.advanceCall i f none).map _ = _
    rw [h]
    rfl
  unfold step
  simp only [hleaves, if_true, hnode, Option.map_some]
  rfl

theorem step_callback (lower : String → String) {s : MasterServer} {i : Nat} {f : Finalization}
    (hcall : s.node.desk.inFlight[i]? = some f) (hstage : f.stage = .callback)
    (hok : (finalizeDistributedSession s.si f.result).2 = none) :
    s.step lower (.callback i) = some
      { node := { s.node with desk := s.node.desk.setCall i (f.at .finish) }
        si := (finalizeDistributedSession s.si f.result).1 } := by
  have hnode : s.node.step lower (.drainAdvance i none)
      = some { s.node with desk := s.node.desk.setCall i (f.at .finish) } := by
    show (s.node.desk.inFlight[i]?.bind fun f => s.node.desk.advanceCall i f none).map _ = _
    rw [hcall]
    show (s.node.desk.advanceCall i f none).map _ = _
    unfold DrainDesk.advanceCall
    rw [hstage]
    rfl
  unfold step
  simp only [hcall, hstage, if_true, hok, hnode, Option.map_some]

/-- After a callback that returned, the call emits the aggregate of its record. -/
theorem reports_of_success (lower : String → String) {s : MasterServer} {i : Nat} {f : Finalization}
    (hcall : s.node.desk.inFlight[i]? = some f) (hstage : f.stage = .callback)
    (hok : (finalizeDistributedSession s.si f.result).2 = none) (now : ℚ) :
    ∃ t, Machine.exec (step lower) s [.callback i, .node (.drainAdvance i none) now,
        .node (.drainAdvance i none) now] = some t
      ∧ t.node.desk.issued = s.node.desk.issued ++ [f.issue .aggregate f.result] := by
  have hlt : i < s.node.desk.inFlight.length := (List.getElem?_eq_some_iff.mp hcall).1
  have hcallback := step_callback lower hcall hstage hok
  -- the section behind the callback, then the report of the aggregate
  obtain ⟨d₂, hfinish, hcall₂, hissued₂⟩ : ∃ d₂,
      (s.node.desk.setCall i (f.at .finish)).advanceCall i (f.at .finish) none = some d₂
        ∧ d₂.inFlight[i]? = some (f.at .report) ∧ d₂.issued = s.node.desk.issued := by
    refine ⟨_, rfl, List.getElem?_set_self ?_, rfl⟩
    show i < (s.node.desk.inFlight.set i _).length
    rw [List.length_set]
    exact hlt
  obtain ⟨d₃, hreport, hissued₃⟩ : ∃ d₃, d₂.advanceCall i (f.at .report) none = some d₃
      ∧ d₃.issued = d₂.issued ++ [f.issue .aggregate f.result] := ⟨_, rfl, rfl⟩
  have hstep₂ := step_drainAdvance lower now (f := f.at .finish)
    (s := { node := { s.node with desk := s.node.desk.setCall i (f.at .finish) }
            si := (finalizeDistributedSession s.si f.result).1 })
    (List.getElem?_set_self hlt) nofun hfinish
  have hstep₃ := step_drainAdvance lower now (f := f.at .report)
    (s := { node := { s.node with desk := d₂ }
            si := (finalizeDistributedSession s.si f.result).1 }) hcall₂ nofun hreport
  have hexec : Machine.exec (step lower) s [.callback i, .node (.drainAdvance i none) now,
      .node (.drainAdvance i none) now] = some
        { node := { s.node with desk := d₃ }
          si := (finalizeDistributedSession s.si f.result).1 } := by
    rw [Machine.exec_cons, hcallback, Option.bind_some, Machine.exec_cons, hstep₂,
      Option.bind_some, Machine.exec_cons, hstep₃]
    rfl
  refine ⟨_, hexec, ?_⟩
  show d₃.issued = _
  rw [hissued₃, hissued₂]

/-- A Core that carries the timestamp, with one archive more to come than before, finalizes
the session. -/
theorem finalizedOnce_of_carried {lower : String → String} {s : MasterServer} {i : Nat}
    {f : Finalization} {sid ts : String} {before : Nat} (hs : s.NoStartPending)
    (hcall : s.node.desk.inFlight[i]? = some f) (hstage : f.stage = .callback)
    (hall : f.allStreamsDrained = true) (hresult : f.result = f.atAck.result sid)
    (hts : truthy f.result.sessionTimestamp = some ts)
    (hcarries : s.session.timestamp = some ts) (hsettled : s.session.settled ts = before + 1) :
    s.FinalizedOnce lower i f ts before := by
  have hne := ne_of_truthy hts
  obtain ⟨w, hw, hcore⟩ : ∃ w, s.si = some w ∧ w.core.sessionTimestamp = some ts := by
    unfold session at hcarries
    split at hcarries
    · cases hcarries
    · rename_i w hw
      exact ⟨w, hw, hcarries⟩
  have hfin := finalizeDistributedSession_carried hts hw hcore
  have hok : (finalizeDistributedSession s.si f.result).2 = none := by rw [hfin]
  refine ⟨hok, fun s' t hstep hrun => ?_, fun now => ?_⟩
  · obtain ⟨g, hg, -, hsi, -⟩ := callback_of_step hstep
    cases hcall.symm.trans hg
    rw [hfin] at hsi
    -- the callback archived, so nothing is due, and nothing will be
    have hsession : s'.session = s.session.archive := by
      rw [session_of_si hsi, session_of_si hw]
      exact w.core.finalizeSessionArchive_session
    have hquiet := (outlives_step hs hstep).2
    obtain ⟨hcont, -⟩ := continues_run hquiet hne hrun
    have hdue : ¬ t.session.Due ts := by
      intro hdue
      have hdue' := hcont.due hdue
      rw [hsession] at hdue'
      exact SessionRecord.not_due_archive _ hne hdue'
    have hmade : t.session.settled ts = t.session.made ts := by
      rw [SessionRecord.settled, if_neg hdue]
      rfl
    rw [← hmade, hcont.settled, hsession, SessionRecord.settled_archive _ hne, hsettled]
  · obtain ⟨t, hexec, hissued⟩ := reports_of_success lower hcall hstage hok now
    refine ⟨t, _, hexec, hissued, rfl, hall, ?_⟩
    show f.result.status = "ok" ↔ _
    rw [hresult]
    show f.atAck.aggregateStatus = "ok" ↔ _
    rw [DrainRecord.aggregateStatus_eq_ok_iff, DrainRecord.Failing]
    push Not
    exact Iff.rfl

/-- A session that was finalized once had one archive more to come. -/
theorem FinalizedOnce.settled {lower : String → String} {s : MasterServer} {i : Nat}
    {f : Finalization} {ts : String} {before : Nat} (hs : s.NoStartPending) (hts : ts ≠ "")
    (h : s.FinalizedOnce lower i f ts before) : before + 1 ≤ s.session.settled ts := by
  obtain ⟨t, x, hexec, -⟩ := h.reported 0
  rw [Machine.exec_cons] at hexec
  obtain ⟨s', hstep, -⟩ := Option.bind_eq_some_iff.mp hexec
  have hmade := h.archived s' s' hstep .refl
  have hcont := ((outlives_step hs hstep).1 trivial).continues hts
  have hle := s'.session.made_le_settled ts
  rw [hcont.settled] at hle
  omega

/-- The session a START leaves in the Core, when it left one that will be archived once more. -/
theorem settled_of_start {lower : String → String} {s s₁ : MasterServer} {a : MasterAction}
    {now : ℚ} {specific : Bool} {p : StartCommand} {env : DispatchEnv} (hs : s.NoStartPending)
    (hstart : s.node.startedBy a = some (specific, p, env))
    (hstep : s.step lower (.node a now) = some s₁) {ts : String}
    (hts : ts = Master.sessionTimestampOf p env) :
    (s.TakesPart specific p ∨ s.session.Due ts →
        s₁.session.timestamp = some ts ∧ s₁.session.settled ts = s.session.made ts + 1)
      ∧ (s.session.made ts + 1 ≤ s₁.session.settled ts →
        s.TakesPart specific p ∨ s.session.Due ts) := by
  rcases session_of_start hstart hs hstep with ⟨htakes, hsession⟩ | ⟨hnot, hsession⟩
  · refine ⟨fun _ => ?_, fun _ => .inl htakes⟩
    rw [hsession, ← hts]
    have hdue : (s.session.opened (some ts)).Due ts := ⟨rfl, nofun⟩
    refine ⟨rfl, ?_⟩
    rw [SessionRecord.settled, if_pos hdue]
    rfl
  · rw [hsession]
    refine ⟨fun h => ?_, fun h => ?_⟩
    · have hdue := h.resolve_left hnot
      refine ⟨hdue.1, ?_⟩
      rw [SessionRecord.settled, if_pos hdue]
    · by_contra hneither
      have hdue : ¬ s.session.Due ts := fun hdue => hneither (.inr hdue)
      rw [SessionRecord.settled, if_neg hdue] at h
      omega

end MasterServer

/-- **When a distributed session is finalized once**: if and only if the START reached the
master's own Core, or that Core carried the timestamp from before and had not archived it. -/
theorem finalizedOnce_iff {lower : String → String} {entry : NodeEntry} {s r : MasterServer}
    {specific : Bool} {p : StartCommand} {env : DispatchEnv} {i : Nat} {f : Finalization}
    (h : MasterServer.DrainedSession lower entry s specific p env r i f) :
    (∀ t, Machine.Run (MasterServer.step lower) MasterServer.InSession r t →
        t.node.desk.inFlight[i]? = some f →
        t.FinalizedOnce lower i f (Master.sessionTimestampOf p env)
          (s.session.made (Master.sessionTimestampOf p env)))
      ↔ s.TakesPart specific p ∨ s.session.Due (Master.sessionTimestampOf p env) := by
  obtain ⟨a, now, s₁, hstart, hstep, q, node, ev, now', hrun, hlast, hack, rfl⟩ := h.run
  obtain ⟨hstage, hall, hcalls, hget, sid, hresult⟩ := DrainDesk.lastDrain_eq_some hlast
  have hacks := h.acks
  generalize hts : Master.sessionTimestampOf p env = ts at hacks ⊢
  have hne := ne_of_truthy (hacks node ev.ack hget)
  have htimestamp : truthy f.result.sessionTimestamp = some ts := by
    rw [hresult]
    show truthy f.atAck.aggregateTimestamp = some ts
    rw [DrainRecord.aggregateTimestamp_of_acks hget hacks, truthy_of_ne hne]
  have hquiet := MasterServer.noStartPending_of_reachable h.reachable
  have hquiet₁ := (MasterServer.outlives_step hquiet hstep).2
  obtain ⟨hgives, honly⟩ := MasterServer.settled_of_start hquiet hstart hstep hts.symm
  -- the acknowledgement is a step of the session like the others
  have hrun' : Machine.Run (MasterServer.step lower) MasterServer.InSession s₁ r :=
    .tail _ hrun (by rfl) hack
  constructor
  · intro hevery
    have hin : r.node.desk.inFlight[q.node.desk.inFlight.length]? = some f := by
      obtain ⟨-, hnode, -⟩ := MasterServer.node_of_step hack
      have hdesk : { q.node with desk := q.node.desk.ack node ev true } = r.node :=
        Option.some.inj hnode
      rw [← hdesk]
      show (q.node.desk.ack node ev true).inFlight[_]? = some f
      rw [hcalls]
      exact List.getElem?_concat_length
    obtain ⟨hcont, hquiet'⟩ := MasterServer.continues_run hquiet₁ hne hrun'
    have hsettled := (hevery r .refl hin).settled hquiet' hne
    rw [hcont.settled] at hsettled
    exact honly hsettled
  · intro hcond t hrunt hin
    obtain ⟨hcarries, hsettled⟩ := hgives hcond
    obtain ⟨hcont, hquiett⟩ := MasterServer.continues_run hquiet₁ hne (hrun'.trans hrunt)
    exact MasterServer.finalizedOnce_of_carried hquiett hin hstage hall hresult htimestamp
      (hcont.timestamp.trans hcarries) (hcont.settled.trans hsettled)

/-! ## A session of two nodes, and one of the worker alone

The runs that are evaluated: an INIT that is installed, a START of all subjects, their STOP and
the acknowledgements. -/

namespace MasterServer

/-- A worker joins, and an INIT gives `mine` to the master and `theirs` to the worker. -/
def installed (subjects : List SubjectConf) (mine theirs : List String) : List ServerAction :=
  let reply (ids : List String) : InitReply :=
    { initializationId := some "init-1", correlationId := some "c-1"
      configurationState := some "installed", subjectIds := some ids }
  [.systemSetup {},
    .node (.registerNode "worker"
      { identity := some "worker", capabilities := { supportedSensors := ["H10"] } }) 0,
    .node (.dispatch (.initSystem (some subjects))
      { correlationId := some "c-1", initializationId := "init-1" }) 0,
    .core (.initCore (.installed (mine.map fun sid => { subjectId := sid, sensors := [] }))),
    .node (.reply masterId .nodeInitialized (reply mine)) 0,
    .node (.reply "worker" .nodeInitialized (reply theirs)) 0,
    .node .dispatchEnds 0]

def sessionStart : StartCommand :=
  { sessionTimestamp := some "20260910_120000", startSessionId := some "start-1" }

def sessionStop : ServerAction :=
  .node (.dispatch (.stopStreamForAll { stopSessionId := some "p" }) {}) 0

def sessionDrained (ids : List String) : DrainEvent :=
  { stopSessionId := some "p", subjectIds := ids, sessionTimestamp := some "20260910_120000" }

/-- The states at the START and after the last drain, and the call it starts. -/
def runSession (setup drains : List ServerAction) (node : NodeId) (ev : DrainEvent) :
    Option (MasterServer × MasterServer × Nat × Finalization) :=
  (Machine.exec (step id) (boot {}) setup).bind fun s =>
    (s.step id (.node (.dispatch (.startStreamForAll sessionStart) {}) 0)).bind fun s₁ =>
      (Machine.execOk (step id) InSession s₁ drains).bind fun q =>
        (q.node.desk.lastDrain node ev).bind fun f =>
          (q.step id (.node (.drainAck node ev true) 0)).map fun r =>
            (s, r, q.node.desk.inFlight.length, f)

theorem drainedSession_of_runSession {setup drains : List ServerAction} {node : NodeId}
    {ev : DrainEvent} {s r : MasterServer} {i : Nat} {f : Finalization}
    (h : runSession setup drains node ev = some (s, r, i, f)) (hopen : s.node.unsettled = false)
    (hacks : ∀ e ∈ f.atAck.acks.entries, truthy e.2.sessionTimestamp = some "20260910_120000") :
    DrainedSession id {} s false sessionStart {} r i f := by
  obtain ⟨s, hs, h⟩ := Option.bind_eq_some_iff.mp h
  obtain ⟨s₁, hs₁, h⟩ := Option.bind_eq_some_iff.mp h
  obtain ⟨q, hq, h⟩ := Option.bind_eq_some_iff.mp h
  obtain ⟨f, hf, h⟩ := Option.bind_eq_some_iff.mp h
  obtain ⟨r, hr, h⟩ := Option.map_eq_some_iff.mp h
  cases h
  refine ⟨Machine.reach_of_exec setup hs, ⟨_, 0, s₁, ?_, hs₁, q, node, ev, 0,
    Machine.Run.of_execOk drains hq, hf, hr, rfl⟩, ?_⟩
  · show (if s.node.unsettled then none else some (false, sessionStart, ({} : DispatchEnv))) = _
    rw [hopen]
    rfl
  · intro n ack hack
    exact hacks (n, ack) (Dict.get?_eq_some_iff.mp hack)

end MasterServer

open MasterServer

/-- Each node has one subject; the master drains first. -/
theorem finalizedOnce_iff_twoNodes : ∃ s r i f,
    DrainedSession id {} s false sessionStart {} r i f ∧ s.node.registry.subjects.entries
        = [("s1", masterId), ("s2", "worker")]
      ∧ r.FinalizedOnce id i f "20260910_120000" 0 := by
  have hrun : (runSession (installed
          [{ subjectId := some "s1", sensors := [{}] }, { subjectId := some "s2", sensors := [{}] }]
          ["s1"] ["s2"])
        [sessionStop, .node (.drainAck masterId (sessionDrained ["s1"]) true) 0] "worker"
        (sessionDrained ["s2"])).map
      (fun (s, r, i, f) => decide (s.node.unsettled = false
        ∧ s.node.registry.subjects.entries = [("s1", masterId), ("s2", "worker")]
        ∧ s.TakesPart false sessionStart ∧ s.session.made "20260910_120000" = 0
        ∧ r.node.desk.inFlight[i]? = some f
        ∧ ∀ e ∈ f.atAck.acks.entries, truthy e.2.sessionTimestamp = some "20260910_120000"))
      = some true := by
    decide +kernel
  obtain ⟨⟨s, r, i, f⟩, hsession, hfields⟩ := Option.map_eq_some_iff.mp hrun
  obtain ⟨hopen, hmap, htakes, hmade, hin, hacks⟩ := of_decide_eq_true hfields
  have h := drainedSession_of_runSession hsession hopen hacks
  have honce := (finalizedOnce_iff h).mpr (.inl htakes) r .refl hin
  rw [show Master.sessionTimestampOf sessionStart {} = "20260910_120000" from rfl, hmade] at honce
  exact ⟨s, r, i, f, h, hmap, honce⟩

/-- The one subject needs a sensor only the worker has. -/
theorem workerSession_not_finalized : ∃ s r i f,
    DrainedSession id {} s false sessionStart {} r i f
      ∧ s.node.registry.subjects.entries = [("s1", "worker")]
      ∧ r.node.desk.inFlight[i]? = some f ∧ f.result.status = "ok"
      ∧ (finalizeDistributedSession r.si f.result).2 = some
        "Refusing to finalize distributed session '20260910_120000'; active session is None"
      ∧ ¬ r.FinalizedOnce id i f "20260910_120000" (s.session.made "20260910_120000") := by
  have hrun : (runSession (installed
          [{ subjectId := some "s1", sensors := [{ localName := some "H10" }] }] [] ["s1"])
        [sessionStop] "worker" (sessionDrained ["s1"])).map
      (fun (s, r, i, f) => decide (s.node.unsettled = false
        ∧ s.node.registry.subjects.entries = [("s1", "worker")]
        ∧ r.node.desk.inFlight[i]? = some f ∧ f.result.status = "ok"
        ∧ (finalizeDistributedSession r.si f.result).2 = some
          "Refusing to finalize distributed session '20260910_120000'; active session is None"
        ∧ ∀ e ∈ f.atAck.acks.entries, truthy e.2.sessionTimestamp = some "20260910_120000"))
      = some true := by
    decide +kernel
  obtain ⟨⟨s, r, i, f⟩, hsession, hfields⟩ := Option.map_eq_some_iff.mp hrun
  obtain ⟨hopen, hmap, hin, hstatus, herror, hacks⟩ := of_decide_eq_true hfields
  refine ⟨s, r, i, f, drainedSession_of_runSession hsession hopen hacks, hmap, hin, hstatus,
    herror, fun honce => ?_⟩
  have hsucceeds := honce.succeeds
  rw [herror] at hsucceeds
  cases hsucceeds

end NexusN3
