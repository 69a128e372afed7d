import NexusN3.Distributed.Cluster

/-!
# The distributed official-start barrier

No node acquires for a coordinated start before every participant of that start was ready.
The flag that lets a Core admit samples goes back to a commit the master sent, the commit to
a record whose participants had all been heard, and each of those to a READY its Core had
emitted:

* **`RecordInv`** — what the master's current record knows is true of the Cores;
* **`CommitInv`** — every commit in flight, and every flag a Core holds, is for a start whose
  participants were all ready.

Both speak of what has been emitted, which only grows, so a record that a newer START has
replaced keeps its commits valid.
-/

namespace NexusN3

open Lib

namespace Cluster

/-- The node emitted READY for this start, with this timestamp. -/
def ReadyEmitted (c : Cluster) (node : NodeId) (sid timestamp : String) : Prop :=
  ∃ ev ∈ (c.cores node).emitted, ev.kind = .readyForOfficial ∧ ev.startSessionId = some sid
    ∧ Core.pyStr ev.sessionTimestamp = timestamp

/-- Every participant of the start emitted READY for it. -/
def AllReady (c : Cluster) (sid : String) : Prop :=
  ∃ record, c.snapshots.get? sid = some record
    ∧ ∀ node ∈ record.expectedNodes, c.ReadyEmitted node sid record.sessionTimestamp

/-- The ids that were announced ready. -/
def announcedIds (c : Cluster) : List String :=
  c.master.official.announced.map ReadyAnnouncement.startSessionId

/-- The tracked records, against what has happened. -/
structure RecordInv (c : Cluster) : Prop where
  single : ∀ s s' r r', c.master.official.tracking.get? s = some r →
    c.master.official.tracking.get? s' = some r' → s = s'
  snapshot : ∀ s r, c.master.official.tracking.get? s = some r →
    ∃ r₀, c.snapshots.get? s = some r₀ ∧ r.expectedNodes = r₀.expectedNodes
      ∧ r.sessionTimestamp = r₀.sessionTimestamp
  ready : ∀ s r, c.master.official.tracking.get? s = some r →
    ∀ node ∈ r.readyNodes, c.ReadyEmitted node s r.sessionTimestamp
  silent : ∀ s r, c.master.official.tracking.get? s = some r → r.readyAnnounced = false →
    s ∉ c.announcedIds
  once : c.announcedIds.Nodup
  complete : ∀ m ∈ c.master.official.announced, m.readyNodes = m.expectedNodes
    ∧ ∃ r₀, c.snapshots.get? m.startSessionId = some r₀ ∧ m.expectedNodes = r₀.expectedNodes

/-- The commits in flight, and those the Cores hold. -/
structure CommitInv (c : Cluster) : Prop where
  sent : ∀ m ∈ c.master.commits, ∃ s, m.payload.startSessionId = some s ∧ c.AllReady s
  held : ∀ node, (c.cores node).core.officialStartMode = .coordinated →
    (c.cores node).core.officialCommitReceived = true →
    ∃ s, (c.cores node).core.startSessionId = some s ∧ c.AllReady s

variable {lower : String → String} {c c' : Cluster}

/-! ## What has happened stays -/

/-- Nothing emitted or recorded is forgotten. -/
structure Grows (c c' : Cluster) : Prop where
  emitted : ∀ node, (c.cores node).emitted ⊆ (c'.cores node).emitted
  snapshots : ∀ s r, c.snapshots.get? s = some r → c'.snapshots.get? s = some r

theorem grows_of_step {a : ClusterAction} (h : c.step lower a = some c') : Grows c c' := by
  cases a with
  | master a =>
    obtain ⟨-, hcores, -, hsnap⟩ := master_of_step h
    refine ⟨fun node => by rw [hcores]; exact List.Subset.refl _, ?_⟩
    intro s r hr
    rcases hsnap with ⟨-, hsame⟩ | ⟨specific, p, env, record, -, hfresh, -, hset⟩
    · rw [hsame]
      exact hr
    · -- the id of a new start is nobody else's
      have hne : Master.startSessionIdOf p env ≠ s := by
        intro heq
        rw [heq, hr] at hfresh
        cases hfresh
      rw [hset, Dict.get?_set_ne _ _ hne]
      exact hr
  | core node a =>
    obtain ⟨-, -, hsnap, hstep, hother⟩ := core_of_step h
    refine ⟨?_, fun s r hr => by rw [hsnap]; exact hr⟩
    intro n
    by_cases hn : n = node
    · rw [hn]
      exact World.emitted_step hstep
    · rw [hother n hn]
      exact List.Subset.refl _

theorem ReadyEmitted.mono {node : NodeId} {sid timestamp : String} (hgrows : Grows c c')
    (h : c.ReadyEmitted node sid timestamp) : c'.ReadyEmitted node sid timestamp := by
  obtain ⟨ev, hev, hkind⟩ := h
  exact ⟨ev, hgrows.emitted node hev, hkind⟩

theorem AllReady.mono {sid : String} (hgrows : Grows c c') (h : c.AllReady sid) : c'.AllReady sid := by
  obtain ⟨record, hrecord, hall⟩ := h
  exact ⟨record, hgrows.snapshots sid record hrecord, fun node hnode => (hall node hnode).mono hgrows⟩

/-- A record that counts all its participants stands for a start that is ready. -/
theorem RecordInv.allReady (h : RecordInv c) {s : String} {r : OfficialRecord}
    (hr : c.master.official.tracking.get? s = some r) (hready : r.readyNodes = r.expectedNodes) :
    c.AllReady s := by
  obtain ⟨r₀, hr₀, hexp, hts⟩ := h.snapshot s r hr
  refine ⟨r₀, hr₀, ?_⟩
  intro node hnode
  rw [← hexp, ← hready] at hnode
  rw [← hts]
  exact h.ready s r hr node hnode

/-! ## The records -/

/-- Nothing the master does to a record: what it knows stays true. -/
theorem RecordInv.of_same (hgrows : Grows c c') (hsame : c'.master.official = c.master.official)
    (h : RecordInv c) : RecordInv c' := by
  have hids : c'.announcedIds = c.announcedIds := by
    unfold announcedIds
    rw [hsame]
  constructor
  · rw [hsame]
    exact h.single
  · intro s r hr
    rw [hsame] at hr
    obtain ⟨r₀, hr₀, hrest⟩ := h.snapshot s r hr
    exact ⟨r₀, hgrows.snapshots s r₀ hr₀, hrest⟩
  · intro s r hr node hnode
    rw [hsame] at hr
    exact (h.ready s r hr node hnode).mono hgrows
  · rw [hsame, hids]
    exact h.silent
  · rw [hids]
    exact h.once
  · intro m hm
    rw [hsame] at hm
    obtain ⟨hready, r₀, hr₀, hexp⟩ := h.complete m hm
    exact ⟨hready, r₀, hgrows.snapshots _ r₀ hr₀, hexp⟩

/-- What a rewritten record announces: nothing, or itself, complete and for the first time. -/
def Announces (s : String) (r r' : OfficialRecord) (new : List ReadyAnnouncement) : Prop :=
  (new = [] ∧ r'.readyAnnounced = r.readyAnnounced)
    ∨ (new = [r'.announcement s] ∧ r.readyAnnounced = false ∧ r'.readyAnnounced = true
      ∧ r'.readyNodes = r'.expectedNodes)

/-- The tracked record is rewritten, for the same participants and timestamp. -/
theorem RecordInv.put {s : String} {r r' : OfficialRecord} {new : List ReadyAnnouncement} (h : RecordInv c)
    (hgrows : Grows c c') (hr : c.master.official.tracking.get? s = some r)
    (hofficial : c'.master.official = { c.master.official.putRecord s r' with
      announced := c.master.official.announced ++ new })
    (hnew : Announces s r r' new) (hexp : r'.expectedNodes = r.expectedNodes)
    (hts : r'.sessionTimestamp = r.sessionTimestamp)
    (hready : ∀ node ∈ r'.readyNodes, c'.ReadyEmitted node s r.sessionTimestamp) : RecordInv c' := by
  -- there is one record, so what is tracked afterwards is the rewritten one
  have hget : ∀ t q, c'.master.official.tracking.get? t = some q → t = s ∧ q = r' := by
    intro t q hq
    rw [hofficial] at hq
    dsimp only [OfficialDesk.putRecord] at hq
    rw [Dict.get?_set] at hq
    split at hq
    · rename_i heq
      cases hq
      exact ⟨heq.symm, rfl⟩
    · rename_i hne
      exact absurd (h.single s t r q hr hq) hne
  have hids : c'.announcedIds = c.announcedIds ++ new.map ReadyAnnouncement.startSessionId := by
    unfold announcedIds
    rw [hofficial, List.map_append]
  obtain ⟨r₀, hr₀, hexp₀, hts₀⟩ := h.snapshot s r hr
  constructor
  · intro t t' q q' hq hq'
    rw [(hget t q hq).1, (hget t' q' hq').1]
  · intro t q hq
    obtain ⟨rfl, rfl⟩ := hget t q hq
    exact ⟨r₀, hgrows.snapshots t r₀ hr₀, hexp.trans hexp₀, hts.trans hts₀⟩
  · intro t q hq
    obtain ⟨rfl, rfl⟩ := hget t q hq
    rw [hts]
    exact hready
  · intro t q hq hsilent
    obtain ⟨rfl, rfl⟩ := hget t q hq
    -- a record that has just been announced is not silent
    rcases hnew with ⟨rfl, hann⟩ | ⟨-, -, hann, -⟩
    · rw [hids, List.map_nil, List.append_nil]
      exact h.silent t r hr (hann ▸ hsilent)
    · rw [hann] at hsilent
      cases hsilent
  · rw [hids]
    rcases hnew with ⟨rfl, -⟩ | ⟨rfl, hquiet, -, -⟩
    · rw [List.map_nil, List.append_nil]
      exact h.once
    · refine List.nodup_append.mpr ⟨h.once, List.nodup_singleton _, ?_⟩
      rintro t ht _ ht' rfl
      have hts' : t = s := List.mem_singleton.mp ht'
      exact h.silent s r hr hquiet (hts' ▸ ht)
  · intro m hm
    rw [hofficial] at hm
    rcases List.mem_append.mp hm with hold | hlast
    · obtain ⟨hfull, r₁, hr₁, hexp₁⟩ := h.complete m hold
      exact ⟨hfull, r₁, hgrows.snapshots _ r₁ hr₁, hexp₁⟩
    · rcases hnew with ⟨rfl, -⟩ | ⟨rfl, -, -, hfull⟩
      · cases hlast
      · rw [List.mem_singleton.mp hlast]
        exact ⟨hfull, r₀, hgrows.snapshots s r₀ hr₀, hexp.trans hexp₀⟩

/-- A record that is rewritten without being announced. -/
theorem RecordInv.putQuiet {s : String} {r r' : OfficialRecord} (h : RecordInv c)
    (hgrows : Grows c c') (hr : c.master.official.tracking.get? s = some r)
    (hofficial : c'.master.official = c.master.official.putRecord s r')
    (hann : r'.readyAnnounced = r.readyAnnounced) (hexp : r'.expectedNodes = r.expectedNodes)
    (hts : r'.sessionTimestamp = r.sessionTimestamp)
    (hready : ∀ node ∈ r'.readyNodes, c'.ReadyEmitted node s r.sessionTimestamp) : RecordInv c' := by
  have hnothing : c'.master.official = { c.master.official.putRecord s r' with
      announced := c.master.official.announced ++ [] } := by
    rw [hofficial, List.append_nil]
    rfl
  exact h.put hgrows hr hnothing (.inl ⟨rfl, hann⟩) hexp hts hready

/-- A START replaces the tracking by its own record, which nobody has answered. -/
theorem RecordInv.start {s ts : String} {ids : List String} {nodes : List NodeId} {record : OfficialRecord}
    (h : RecordInv c) (hgrows : Grows c c') (hfresh : c.snapshots.get? s = none)
    (hofficial : c'.master.official = c.master.official.createOfficialStartRecord s ts ids nodes)
    (hrecord : c'.master.official.tracking.get? s = some record)
    (hsnap : c'.snapshots = c.snapshots.set s record) : RecordInv c' := by
  have hget : ∀ t q, c'.master.official.tracking.get? t = some q →
      t = s ∧ q.readyNodes = ∅ ∧ q = record := by
    intro t q hq
    have hone := hq
    rw [hofficial] at hone
    simp only [OfficialDesk.createOfficialStartRecord, Dict.get?_single] at hone
    split at hone <;> cases hone
    rename_i heq
    subst heq
    rw [hrecord] at hq
    cases hq
    exact ⟨rfl, rfl, rfl⟩
  have hann : c'.master.official.announced = c.master.official.announced := by
    rw [hofficial]
    rfl
  have hids : c'.announcedIds = c.announcedIds := congrArg (List.map _) hann
  constructor
  · intro t t' q q' hq hq'
    rw [(hget t q hq).1, (hget t' q' hq').1]
  · intro t q hq
    obtain ⟨rfl, -, rfl⟩ := hget t q hq
    exact ⟨q, by rw [hsnap, Dict.get?_set_self], rfl, rfl⟩
  · intro t q hq node hnode
    rw [(hget t q hq).2.1] at hnode
    cases hnode
  · -- an announced id has a snapshot, and this one had none
    intro t q hq _ hmem
    obtain ⟨rfl, -, -⟩ := hget t q hq
    rw [hids] at hmem
    obtain ⟨m, hm, rfl⟩ := List.mem_map.mp hmem
    obtain ⟨-, r₀, hr₀, -⟩ := h.complete m hm
    rw [hr₀] at hfresh
    cases hfresh
  · rw [hids]
    exact h.once
  · intro m hm
    rw [hann] at hm
    obtain ⟨hfull, r₀, hr₀, hexp₀⟩ := h.complete m hm
    exact ⟨hfull, r₀, hgrows.snapshots _ r₀ hr₀, hexp₀⟩

/-- A READY of a participant: the record counts it, and announces itself when it was the last
one missing. -/
theorem RecordInv.heardReady {s : String} {r : OfficialRecord} {node : NodeId} (h : RecordInv c)
    (hgrows : Grows c c') (hr : c.master.official.tracking.get? s = some r)
    (hofficial : c'.master.official = c.master.official.recordReady s r node)
    (hemitted : c'.ReadyEmitted node s r.sessionTimestamp) : RecordInv c' := by
  have hready : ∀ n ∈ (r.addReady node).readyNodes, c'.ReadyEmitted n s r.sessionTimestamp := by
    intro n hn
    rcases Finset.mem_insert.mp hn with rfl | hold
    · exact hemitted
    · exact (h.ready s r hr n hold).mono hgrows
  unfold OfficialDesk.recordReady at hofficial
  dsimp only at hofficial
  split at hofficial
  · rename_i hannounces
    simp only [OfficialRecord.announces, Bool.and_eq_true, decide_eq_true_eq, Bool.not_eq_true'] at hannounces
    exact h.put hgrows hr hofficial (.inr ⟨rfl, hannounces.2, rfl, hannounces.1⟩) rfl rfl hready
  · exact h.putQuiet hgrows hr hofficial rfl rfl rfl hready

theorem recordInv_step {a : ClusterAction} (hstep : c.step lower a = some c') (h : RecordInv c) :
    RecordInv c' := by
  have hgrows := grows_of_step hstep
  cases a with
  | core node a =>
    obtain ⟨-, hmaster, -⟩ := core_of_step hstep
    exact h.of_same hgrows (by rw [hmaster])
  | master a =>
    obtain ⟨hflight, hcores, hmaster, hsnap⟩ := master_of_step hstep
    cases Master.streamMove_of_step hmaster with
    | none hstart hdrain hstreams => exact h.of_same hgrows (congrArg (fun x => x.2.1) hstreams)
    | start specific p env hstart hdrain hw =>
      rcases hsnap with ⟨hnone, -⟩ | ⟨specific', p', env', record, hsome, hfresh, hrecord, hset⟩
      · rw [hnone] at hstart
        cases hstart
      · rw [hsome] at hstart
        cases hstart
        exact h.start hgrows hfresh (by rw [hw]; rfl) hrecord hset
    | commit sid official commits hstart hdrain hok hw =>
      obtain ⟨s, r, hr, -, rfl, -⟩ := OfficialDesk.dispatchCommit_eq_ok hok
      have hofficial : c'.master.official
          = c.master.official.putRecord s { r with commitDispatched := true } := by
        rw [hw]
      refine h.putQuiet hgrows hr hofficial rfl rfl rfl ?_
      intro node hnode
      exact (h.ready s r hr node hnode).mono hgrows
    | drain b desk hstart hdrain hdesk hw => exact h.of_same hgrows (by rw [hw])
    | official node ev ha hw =>
      subst ha
      have hofficial : c'.master.official = c.master.official.recordOfficialStartEvent node ev := by
        rw [hw]
      rcases c.master.official.recordOfficialStartEvent_cases node ev with
        hsame | ⟨s, r, hsid, hr, -, hts, ⟨hkind, heq⟩ | heq⟩
      · exact h.of_same hgrows (hofficial.trans hsame)
      · -- the event is in flight, so its Core has emitted it
        refine h.heardReady hgrows hr (hofficial.trans heq) ?_
        have hev : ev ∈ (c.cores node).emitted := by simpa [inFlight] using hflight
        exact ⟨ev, hgrows.emitted node hev, hkind, hsid, hts⟩
      · refine h.putQuiet hgrows hr (hofficial.trans heq) rfl rfl rfl ?_
        intro n hn
        exact (h.ready s r hr n hn).mono hgrows

/-! ## The commits -/

theorem commitInv_step {a : ClusterAction} (hstep : c.step lower a = some c') (hrec : RecordInv c)
    (h : CommitInv c) : CommitInv c' := by
  have hgrows := grows_of_step hstep
  have hkept : ∀ m ∈ c.master.commits, ∃ s, m.payload.startSessionId = some s ∧ c'.AllReady s := by
    intro m hm
    obtain ⟨s, hs, hall⟩ := h.sent m hm
    exact ⟨s, hs, hall.mono hgrows⟩
  cases a with
  | master a =>
    obtain ⟨-, hcores, hmaster, -⟩ := master_of_step hstep
    constructor
    · cases Master.streamMove_of_step hmaster with
      | none hstart hdrain hstreams =>
        have hsame : c'.master.commits = c.master.commits := congrArg (fun x => x.2.2.2) hstreams
        rw [hsame]
        exact hkept
      | start specific p env hstart hdrain hw =>
        rw [hw]
        exact hkept
      | commit sid official commits hstart hdrain hok hw =>
        obtain ⟨s, r, hr, hfull, -, hids⟩ := OfficialDesk.dispatchCommit_eq_ok hok
        rw [hw]
        intro m hm
        rcases List.mem_append.mp hm with hold | hnew
        · exact hkept m hold
        · exact ⟨s, hids m hnew, (hrec.allReady hr hfull).mono hgrows⟩
      | drain b desk hstart hdrain hdesk hw =>
        rw [hw]
        exact hkept
      | official node ev ha hw =>
        rw [hw]
        exact hkept
    · intro node hmode hflag
      rw [hcores] at hmode hflag ⊢
      obtain ⟨s, hs, hall⟩ := h.held node hmode hflag
      exact ⟨s, hs, hall.mono hgrows⟩
  | core node a =>
    obtain ⟨hflight, hmaster, -, hcore, hother⟩ := core_of_step hstep
    constructor
    · rw [hmaster]
      exact hkept
    · intro n hmode hflag
      by_cases hn : n = node
      · subst hn
        rcases World.keepsCommit_step hcore with (hkey | hdown) | ⟨p, rfl, hbegin⟩
        · -- the flag, its mode and its start are the old ones
          simp only [Core.commitKey, Prod.mk.injEq] at hkey
          rw [hkey.2.2]
          rw [hkey.1] at hflag
          rw [hkey.2.1] at hmode
          obtain ⟨s, hs, hall⟩ := h.held n hmode hflag
          exact ⟨s, hs, hall.mono hgrows⟩
        · rw [hdown] at hflag
          cases hflag
        · -- the commit it begins was sent, and its id is the Core's own
          obtain ⟨-, hid, -, -, hafter⟩ := Core.commitBegin_eq_begin hbegin
          have hsent : (⟨n, p⟩ : CommitMessage) ∈ c.master.commits := by simpa [inFlight] using hflight
          obtain ⟨s, hs, hall⟩ := hkept _ hsent
          refine ⟨s, ?_, hall⟩
          rw [hafter]
          exact hid.symm.trans hs
      · rw [hother n hn] at hmode hflag ⊢
        obtain ⟨s, hs, hall⟩ := h.held n hmode hflag
        exact ⟨s, hs, hall.mono hgrows⟩

/-! ## The barrier -/

/-- The barrier, in one state. -/
structure BarrierHolds (c : Cluster) : Prop where
  -- a Core that keeps samples of a coordinated start: all its participants were ready
  admission : ∀ node address, (c.cores node).core.officialStartMode = .coordinated →
    (c.cores node).core.admits address = true →
    ∃ s, (c.cores node).core.startSessionId = some s ∧ c.AllReady s
  -- one announcement for a start, and a complete one
  once : c.announcedIds.Nodup
  complete : ∀ m ∈ c.master.official.announced, m.readyNodes = m.expectedNodes
    ∧ ∃ record, c.snapshots.get? m.startSessionId = some record ∧ m.expectedNodes = record.expectedNodes
  -- an event of another start, another timestamp or an outsider changes nothing
  foreign : ∀ s record, c.master.official.tracking.get? s = some record → ∀ node ev,
    ev.startSessionId ≠ some s ∨ Core.pyStr ev.sessionTimestamp ≠ record.sessionTimestamp
      ∨ node ∉ record.expectedNodes →
    c.master.official.recordOfficialStartEvent node ev = c.master.official

theorem recordInv_boot (entry : NodeEntry) (policy : NodeId → StartupPolicy) :
    RecordInv (boot entry policy) := by
  constructor
  · intro s s' r r' hr
    cases hr
  · intro s r hr
    cases hr
  · intro s r hr
    cases hr
  · intro s r hr
    cases hr
  · exact List.nodup_nil
  · intro m hm
    cases hm

theorem commitInv_boot (entry : NodeEntry) (policy : NodeId → StartupPolicy) :
    CommitInv (boot entry policy) := by
  constructor
  · intro m hm
    cases hm
  · intro node hmode
    cases hmode

theorem inv_of_reachable {entry : NodeEntry} {policy : NodeId → StartupPolicy}
    (h : Reachable lower entry policy c) : RecordInv c ∧ CommitInv c :=
  h.invariant (I := fun c => RecordInv c ∧ CommitInv c)
    ⟨recordInv_boot entry policy, commitInv_boot entry policy⟩
    fun _ _ _ _ hstep hinv =>
      ⟨recordInv_step hstep hinv.1, commitInv_step hstep hinv.1 hinv.2⟩

/-- An admitted sample of a coordinated start needs the commit. -/
theorem committed_of_admits {k : Core} {address : Option String} (hmode : k.officialStartMode = .coordinated)
    (h : k.admits address = true) : k.officialCommitReceived = true := by
  unfold Core.admits Core.officialStreaming at h
  simp only [Bool.and_eq_true, Bool.or_eq_true, hmode] at h
  simpa using h.1.2

/-- **The distributed official-start barrier**, in every state the master and its Cores can
get into, with their messages reordered, duplicated and lost. -/
theorem officialBarrier_of_reachable {entry : NodeEntry} {policy : NodeId → StartupPolicy}
    (h : Reachable lower entry policy c) : BarrierHolds c := by
  obtain ⟨hrec, hcommit⟩ := inv_of_reachable h
  refine ⟨?_, hrec.once, hrec.complete, ?_⟩
  · intro node address hmode hadmits
    exact hcommit.held node hmode (committed_of_admits hmode hadmits)
  · intro s record hrecord node ev hforeign
    rcases c.master.official.recordOfficialStartEvent_cases node ev with
      hsame | ⟨s', r, hsid, hr, hnode, hts, -⟩
    · exact hsame
    · -- an event that is not dropped is about the one record there is
      obtain rfl := hrec.single s s' record r hrecord hr
      rw [hrecord] at hr
      cases hr
      rcases hforeign with hne | hne | hne
      · exact absurd hsid hne
      · exact absurd hts hne
      · exact absurd hnode hne

/-! ## A start of two nodes

A worker joins, the INIT gives one subject to each node, and both are started. Each Core
warms up and emits READY; the second one the master hears completes the record. -/

def twoNodesInstalled : List MasterAction :=
  let installed (ids : List String) : InitReply :=
    { initializationId := some "init-1", correlationId := some "c-1"
      configurationState := some "installed", subjectIds := some ids }
  [.registerNode "worker" { identity := some "worker" },
    .dispatch (.initSystem (some [{ subjectId := some "s1", sensors := [{}] },
        { subjectId := some "s2", sensors := [{}] }]))
      { correlationId := some "c-1", initializationId := "init-1" },
    .reply masterId .nodeInitialized (installed ["s1"]),
    .reply "worker" .nodeInitialized (installed ["s2"]),
    .dispatchEnds]

def startBoth : MasterAction :=
  .dispatch (.startStreamForAll
    { sessionTimestamp := some "20260910_120000", startSessionId := some "start-1" }) {}

def readyEvent : CoreEvent :=
  ⟨.readyForOfficial, some "start-1", some "20260910_120000"⟩

/-- The Core is configured and started, and its gate gets to READY. -/
def becomesReady (node : NodeId) : List ClusterAction :=
  (warmedUp coordinatedStart ++ sectionsOf 1 4).map (.core node)

/-- The commit comes back to the master's own Core, which runs it to its end. -/
def twoNodeStart : List ClusterAction :=
  twoNodesInstalled.map .master ++ [.master startBoth] ++ becomesReady "worker" ++ becomesReady masterId
    ++ [.master (.officialEvent masterId readyEvent), .master (.officialEvent "worker" readyEvent),
      .master (.dispatch (.startOfficialStream (some "start-1")) {}),
      .core masterId (.startOfficialStream
        { startSessionId := some "start-1", sessionTimestamp := some "20260910_120000" })]
    ++ (sectionsOf 2 4).map (.core masterId)

theorem officialBarrier_of_reachable_twoNodeStart :
    ∃ c, Reachable String.toLower {} (fun _ => {}) c
      ∧ (c.cores masterId).core.admits (some "AA") = true
      ∧ (c.cores masterId).core.startSessionId = some "start-1"
      ∧ (c.snapshots.get? "start-1").map OfficialRecord.expectedNodes = some {masterId, "worker"}
      ∧ c.announcedIds = ["start-1"] ∧ BarrierHolds c := by
  have hrun : (Machine.exec (step String.toLower) (boot {} fun _ => {}) twoNodeStart).map
      (fun c => ((c.cores masterId).core.admits (some "AA"), (c.cores masterId).core.startSessionId,
        (c.snapshots.get? "start-1").map OfficialRecord.expectedNodes, c.announcedIds))
      = some (true, some "start-1", some {masterId, "worker"}, ["start-1"]) := by decide +kernel
  obtain ⟨c, hc, hfields⟩ := Option.map_eq_some_iff.mp hrun
  simp only [Prod.mk.injEq] at hfields
  obtain ⟨hadmits, hsid, hexp, hann⟩ := hfields
  have hreach : Reachable String.toLower {} (fun _ => {}) c := Machine.reach_of_exec twoNodeStart hc
  exact ⟨c, hreach, hadmits, hsid, hexp, hann, officialBarrier_of_reachable hreach⟩

end Cluster

end NexusN3
