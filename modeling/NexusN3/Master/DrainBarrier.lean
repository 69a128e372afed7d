import NexusN3.Master.Drain

/-!
# Safety of the drain barrier

One record, watched through any interleaving of acknowledgements (of this stop and of
others), callbacks and new starts. Its two flags are a count of the calls in flight:
`finalizing` says that one call is between its first section and the callback's end,
`finalized` that one non-failure aggregate was emitted or is about to be (`BarrierInv`). What
the barrier makes known follows from it (`drainBarrier_safe`).
-/

namespace NexusN3

open Lib

namespace DrainBook

/-- What the first section of an acknowledgement does to the book. -/
theorem drainAck_cases (b : DrainBook) (node : NodeId) (ev : DrainEvent) :
    b.drainAck node ev = (b, .ignored)
      ∨ ∃ sid record, truthy ev.stopSessionId = some sid ∧ b.tracking.get? sid = some record
        ∧ (((record.recordAck node ev.ack).shouldFinalize = false
            ∧ b.drainAck node ev = (b.putRecord sid (record.recordAck node ev.ack), .recorded))
          ∨ ((record.recordAck node ev.ack).shouldFinalize = true
            ∧ b.drainAck node ev = b.completeDrain sid (record.recordAck node ev.ack))) := by
  unfold drainAck
  cases hsid : truthy ev.stopSessionId with
  | none => exact .inl rfl
  | some sid =>
    cases hrec : b.tracking.get? sid with
    | none =>
      dsimp only
      rw [hrec]
      exact .inl rfl
    | some record =>
      refine .inr ⟨sid, record, rfl, hrec, ?_⟩
      dsimp only
      rw [hrec]
      dsimp only
      cases hfin : (record.recordAck node ev.ack).shouldFinalize with
      | false => exact .inl ⟨rfl, rfl⟩
      | true => exact .inr ⟨rfl, rfl⟩

@[simp] theorem get?_putRecord_self (b : DrainBook) (sid : String) (r : DrainRecord) :
    (b.putRecord sid r).tracking.get? sid = some r :=
  Dict.get?_set_self _ _ _

theorem get?_putRecord_ne (b : DrainBook) {sid sid' : String} (r : DrainRecord) (h : sid ≠ sid') :
    (b.putRecord sid r).tracking.get? sid' = b.tracking.get? sid' :=
  Dict.get?_set_ne _ _ h

theorem drainAck_of_get? {b : DrainBook} {sid : String} {r : DrainRecord} (node : NodeId)
    {ev : DrainEvent} (hsid : truthy ev.stopSessionId = some sid) (hr : b.tracking.get? sid = some r) :
    b.drainAck node ev = if (r.recordAck node ev.ack).shouldFinalize
      then b.completeDrain sid (r.recordAck node ev.ack)
      else (b.putRecord sid (r.recordAck node ev.ack), .recorded) := by
  unfold DrainBook.drainAck
  rw [hsid]
  dsimp only
  rw [hr]

theorem finishDrain_active (b : DrainBook) (sid : String) :
    (b.finishDrain sid).active = b.active := by
  unfold DrainBook.finishDrain
  split <;> rfl

theorem failDrain_active (b : DrainBook) (sid : String) :
    (b.failDrain sid).active = b.active := by
  unfold DrainBook.failDrain
  split <;> rfl

end DrainBook

/-- The desk after an acknowledgement that completed the record `r`. -/
def DrainDesk.completed (d : DrainDesk) (sid : String) (r : DrainRecord) (callback : Bool) : DrainDesk :=
  let all := decide (d.book.active \ r.drainedSubjects = ∅)
  let done := { r with finalizing := all, finalized := !all }
  (d.setBook (d.book.completeDrain sid r).1).launch (finalizationOf done (done.result sid) all callback)

theorem DrainDesk.ack_of_get? {d : DrainDesk} {sid : String} {r : DrainRecord} (node : NodeId)
    {ev : DrainEvent} (callback : Bool) (hsid : truthy ev.stopSessionId = some sid)
    (hr : d.book.tracking.get? sid = some r) :
    d.ack node ev callback = if (r.recordAck node ev.ack).shouldFinalize
      then d.completed sid (r.recordAck node ev.ack) callback
      else d.setBook (d.book.putRecord sid (r.recordAck node ev.ack)) := by
  unfold DrainDesk.ack
  rw [DrainBook.drainAck_of_get? node hsid hr]
  cases (r.recordAck node ev.ack).shouldFinalize <;> rfl

/-- A call whose record is waiting for the callback. -/
def Finalization.isOpen (f : Finalization) : Bool :=
  match f.stage with
  | .callback | .finish | .fail _ => true
  | _ => false

/-- One section of a call moves that call; an open one may set flags of its own record. -/
theorem DrainDesk.advanceCall_cases {d d' : DrainDesk} {i : Nat} {f : Finalization}
    {callbackError : Option String} (h : d.advanceCall i f callbackError = some d') :
    (∃ stage, d'.inFlight = d.inFlight.set i (f.at stage)
        ∧ ((f.at stage).isOpen = true → f.isOpen = true))
      ∧ (d'.book = d.book ∨ f.isOpen = true ∧ (d'.book = d.book.finishDrain f.stopSessionId
        ∨ d'.book = d.book.failDrain f.stopSessionId)) := by
  unfold DrainDesk.advanceCall at h
  split at h
  · rename_i hstage
    have hopen : f.isOpen = true := by simp [Finalization.isOpen, hstage]
    split at h <;> cases h <;> exact ⟨⟨_, rfl, fun _ => hopen⟩, .inl rfl⟩
  · rename_i hstage
    have hopen : f.isOpen = true := by simp [Finalization.isOpen, hstage]
    cases h
    exact ⟨⟨_, rfl, fun _ => hopen⟩, .inr ⟨hopen, .inl rfl⟩⟩
  · rename_i hstage
    have hopen : f.isOpen = true := by simp [Finalization.isOpen, hstage]
    cases h
    exact ⟨⟨_, rfl, fun _ => hopen⟩, .inr ⟨hopen, .inr rfl⟩⟩
  · cases h
    exact ⟨⟨_, rfl, nofun⟩, .inl rfl⟩
  · cases h
    exact ⟨⟨_, rfl, nofun⟩, .inl rfl⟩
  · cases h

theorem DrainDesk.advanceCall_active {d d' : DrainDesk} {i : Nat} {f : Finalization}
    {callbackError : Option String} (h : d.advanceCall i f callbackError = some d') :
    d'.book.active = d.book.active := by
  obtain ⟨-, hbook | ⟨-, hbook | hbook⟩⟩ := DrainDesk.advanceCall_cases h <;> rw [hbook]
  · exact d.book.finishDrain_active _
  · exact d.book.failDrain_active _

/-! ## Counting calls -/

/-- Replacing one element moves a count by that element alone. -/
theorem countP_set_add {α : Type} {p : α → Bool} {l : List α} {i : Nat} {x a : α}
    (h : l[i]? = some x) : (l.set i a).countP p + (if p x then 1 else 0)
      = l.countP p + (if p a then 1 else 0) := by
  obtain ⟨hi, hx⟩ := List.getElem?_eq_some_iff.mp h
  have hset := List.countP_set (p := p) (a := a) hi
  rw [hx] at hset
  have hpos : p x = true → 0 < l.countP p := by
    intro hp
    exact List.countP_pos_iff.mpr ⟨x, List.mem_of_getElem? h, hp⟩
  by_cases hp : p x = true
  · have hcount := hpos hp
    rw [if_pos hp] at hset ⊢
    omega
  · rw [if_neg hp] at hset ⊢
    omega

/-- A call about to emit the aggregate. -/
def Finalization.isReporting (f : Finalization) : Bool := decide (f.stage = .report)

def opens (sid : String) (f : Finalization) : Bool := decide (f.stopSessionId = sid) && f.isOpen

def reports (sid : String) (f : Finalization) : Bool :=
  decide (f.stopSessionId = sid) && f.isReporting

/-- An aggregate that is no report of a callback's failure. -/
def aggregates (sid : String) (x : Issue) : Bool :=
  decide (x.stopSessionId = sid) && decide (x.kind = .aggregate)

/-- The calls ever launched for a stop: calls are never taken off the list. -/
def launched (sid : String) (d : DrainDesk) : Nat :=
  d.inFlight.countP fun f => decide (f.stopSessionId = sid)

/-- The flags of a record as counts of the calls that stand behind them. -/
structure FlagsCount (sid : String) (d : DrainDesk) (r : DrainRecord) : Prop where
  finalizing : d.inFlight.countP (opens sid) = if r.finalizing then 1 else 0
  finalized : d.inFlight.countP (reports sid) + d.issued.countP (aggregates sid)
    = if r.finalized then 1 else 0
  exclusive : ¬ (r.finalizing = true ∧ r.finalized = true)

structure BarrierInv (sid : String) (expected : Finset NodeId) (d : DrainDesk) : Prop where
  record : ∃ r, d.book.tracking.get? sid = some r ∧ r.expectedNodes = expected ∧ FlagsCount sid d r
  calls : ∀ f ∈ d.inFlight, f.stopSessionId = sid →
    f.atAck.Complete ∧ f.atAck.expectedNodes = expected
  issued : ∀ x ∈ d.issued, x.stopSessionId = sid →
    x.atAck.Complete ∧ x.atAck.expectedNodes = expected

/-- The stop's record is not opened a second time. -/
def NotReopened (sid : String) (_ : DrainDesk) (a : DrainAction) : Prop :=
  ∀ scope subjectIds nodes, a ≠ .create sid scope subjectIds nodes

/-- A step that leaves the record and the calls of the stop alone. -/
theorem BarrierInv.frame {sid : String} {expected : Finset NodeId} {d d' : DrainDesk}
    (h : BarrierInv sid expected d)
    (hrecord : d'.book.tracking.get? sid = d.book.tracking.get? sid)
    (hcalls : d'.inFlight = d.inFlight) (hissued : d'.issued = d.issued) :
    BarrierInv sid expected d' := by
  obtain ⟨r, hr, hexp, hflags⟩ := h.record
  refine ⟨⟨r, hrecord.trans hr, hexp, ?_⟩, ?_, ?_⟩
  · exact ⟨hcalls ▸ hflags.finalizing, hcalls ▸ hissued ▸ hflags.finalized, hflags.exclusive⟩
  · rw [hcalls]
    exact h.calls
  · rw [hissued]
    exact h.issued

/-! ## Acknowledgements -/

/-- An acknowledgement that does not complete a record. -/
theorem barrierInv_recorded {sid sid' : String} {expected : Finset NodeId} {d : DrainDesk}
    (h : BarrierInv sid expected d) {record : DrainRecord}
    (hrec : d.book.tracking.get? sid' = some record) (node : NodeId) (ack : DrainAck) :
    BarrierInv sid expected (d.setBook (d.book.putRecord sid' (record.recordAck node ack))) := by
  by_cases hsid : sid' = sid
  · subst hsid
    obtain ⟨r, hr, hexp, hflags⟩ := h.record
    rw [hrec] at hr
    cases hr
    exact ⟨⟨_, DrainBook.get?_putRecord_self _ _ _, hexp,
      ⟨hflags.finalizing, hflags.finalized, hflags.exclusive⟩⟩, h.calls, h.issued⟩
  · exact h.frame (DrainBook.get?_putRecord_ne _ _ hsid) rfl rfl

theorem launch_inFlight (d : DrainDesk) (f : Finalization) :
    (d.launch f).inFlight = d.inFlight ++ [f] := by
  unfold DrainDesk.launch
  dsimp only
  split <;> rfl

theorem launch_book (d : DrainDesk) (f : Finalization) : (d.launch f).book = d.book := by
  unfold DrainDesk.launch
  dsimp only
  split <;> rfl

theorem mem_launch_issued {d : DrainDesk} {f : Finalization} {x : Issue}
    (h : x ∈ (d.launch f).issued) : x ∈ d.issued ∨ x = f.issue .callback f.result := by
  unfold DrainDesk.launch at h
  dsimp only at h
  split at h
  · rcases List.mem_append.mp h with hold | hnew
    · exact .inl hold
    · exact .inr (List.mem_singleton.mp hnew)
  · exact .inl h

theorem launch_aggregates (sid : String) (d : DrainDesk) (f : Finalization) :
    (d.launch f).issued.countP (aggregates sid) = d.issued.countP (aggregates sid) := by
  unfold DrainDesk.launch
  dsimp only
  split
  · show (d.issued ++ [f.issue .callback f.result]).countP (aggregates sid) = _
    rw [List.countP_append]
    simp [aggregates, Finalization.issue]
  · rfl

/-- The record that completes is the stop's own, or another one: `r'` is that record as the
acknowledgement leaves it, and `f` the call it launches. -/
theorem barrierInv_completed {sid sid' : String} {expected : Finset NodeId} {d : DrainDesk}
    (h : BarrierInv sid expected d) {record r' : DrainRecord} {b : DrainBook} {all callback : Bool}
    (hrec : d.book.tracking.get? sid' = some record) (hidle : record.finalizing = false)
    (hopen : record.finalized = false) (hcomplete : r'.Complete)
    (hexp : r'.expectedNodes = record.expectedNodes) (hfinalizing : r'.finalizing = all)
    (hfinalized : r'.finalized = !all) (hself : b.tracking.get? sid' = some r')
    (hother : sid' ≠ sid → b.tracking.get? sid = d.book.tracking.get? sid) :
    BarrierInv sid expected
      ((d.setBook b).launch (finalizationOf r' (r'.result sid') all callback)) := by
  generalize hf : finalizationOf r' (r'.result sid') all callback = f
  have hfsid : f.stopSessionId = sid' := by rw [← hf]; rfl
  have hfat : f.atAck = r' := by rw [← hf]; rfl
  obtain ⟨r, hr, hexpected, hflags⟩ := h.record
  have hfinal : sid' = sid → r'.Complete ∧ r'.expectedNodes = expected := by
    rintro rfl
    rw [hrec] at hr
    cases hr
    exact ⟨hcomplete, hexp.trans hexpected⟩
  refine ⟨?_, ?_, ?_⟩
  · rw [launch_book]
    by_cases hsid : sid' = sid
    · subst hsid
      rw [hrec] at hr
      cases hr
      refine ⟨r', hself, (hfinal rfl).2, ?_⟩
      have hopens := hflags.finalizing
      have hreports := hflags.finalized
      rw [hidle, if_neg (by simp)] at hopens
      rw [hopen, if_neg (by simp)] at hreports
      -- exactly one of the two counts grows, by the call that was launched
      have hopenf : opens sid' f = all := by
        rw [← hf]
        cases all <;> cases callback <;> simp [opens, finalizationOf, Finalization.stopSessionId,
          DrainRecord.result, Finalization.isOpen]
      have hreportf : reports sid' f = !all := by
        rw [← hf]
        cases all <;> cases callback <;> simp [reports, finalizationOf, Finalization.stopSessionId,
          DrainRecord.result, Finalization.isReporting]
      refine ⟨?_, ?_, ?_⟩
      · rw [launch_inFlight, List.countP_append, DrainDesk.setBook_inFlight, hopens,
          List.countP_singleton, hopenf, hfinalizing, Nat.zero_add]
      · rw [launch_inFlight, launch_aggregates, List.countP_append, DrainDesk.setBook_inFlight,
          DrainDesk.setBook_issued, List.countP_singleton, hreportf, hfinalized]
        omega
      · rw [hfinalizing, hfinalized]
        cases all <;> simp
    · refine ⟨r, (hother hsid).trans hr, hexpected, ?_⟩
      have hne : f.stopSessionId ≠ sid := hfsid ▸ hsid
      refine ⟨?_, ?_, hflags.exclusive⟩
      · rw [launch_inFlight, List.countP_append, List.countP_singleton, DrainDesk.setBook_inFlight]
        simpa [opens, hne] using hflags.finalizing
      · rw [launch_inFlight, launch_aggregates, List.countP_append, List.countP_singleton,
          DrainDesk.setBook_inFlight, DrainDesk.setBook_issued]
        simpa [reports, hne] using hflags.finalized
  · intro g hg hgsid
    rw [launch_inFlight] at hg
    rcases List.mem_append.mp hg with hold | hnew
    · exact h.calls g hold hgsid
    · rw [List.mem_singleton.mp hnew] at hgsid ⊢
      rw [hfat]
      exact hfinal (hfsid.symm.trans hgsid)
  · intro x hx hxsid
    rcases mem_launch_issued hx with hold | hnew
    · exact h.issued x hold hxsid
    · subst hnew
      rw [show (f.issue .callback f.result).atAck = f.atAck from rfl, hfat]
      exact hfinal (hfsid.symm.trans hxsid)

theorem barrierInv_ack {sid : String} {expected : Finset NodeId} {d : DrainDesk}
    (h : BarrierInv sid expected d) (node : NodeId) (ev : DrainEvent) (callback : Bool) :
    BarrierInv sid expected (d.ack node ev callback) := by
  unfold DrainDesk.ack
  rcases d.book.drainAck_cases node ev with heq | ⟨sid', record, -, hrec, ⟨-, heq⟩ | ⟨hfin, heq⟩⟩
  · rw [heq]
    exact h.frame rfl rfl rfl
  · rw [heq]
    exact barrierInv_recorded h hrec node ev.ack
  · rw [heq]
    obtain ⟨hcomplete, hidle, hopen⟩ := (DrainRecord.shouldFinalize_iff _).mp hfin
    refine barrierInv_completed h hrec hidle hopen ?_ rfl rfl rfl
      (DrainBook.get?_putRecord_self _ _ _) fun hne => DrainBook.get?_putRecord_ne _ _ hne
    exact hcomplete

/-! ## Calls in flight -/

/-- A section of a call of another stop. -/
theorem barrierInv_other {sid : String} {expected : Finset NodeId} {d : DrainDesk}
    (h : BarrierInv sid expected d) {i : Nat} {f : Finalization} (f' : Finalization)
    {b : DrainBook} {xs : List Issue} (hf : d.inFlight[i]? = some f) (hne : f.stopSessionId ≠ sid) (hne' : f'.stopSessionId ≠ sid)
    (hb : b.tracking.get? sid = d.book.tracking.get? sid)
    (hxs : ∀ x ∈ xs, x.stopSessionId ≠ sid) :
    BarrierInv sid expected { book := b, inFlight := d.inFlight.set i f', issued := d.issued ++ xs } := by
  obtain ⟨r, hr, hexp, hflags⟩ := h.record
  -- the call that moves is not one of this stop, so the counts stay
  have hopens := countP_set_add (p := opens sid) (a := f') hf
  have hreports := countP_set_add (p := reports sid) (a := f') hf
  have hxs0 : xs.countP (aggregates sid) = 0 := by
    rw [List.countP_eq_zero]
    intro x hx
    simp [aggregates, hxs x hx]
  simp only [opens, reports, hne, hne', decide_false, Bool.false_and, Bool.false_eq_true, if_false,
    Nat.add_zero] at hopens hreports
  refine ⟨⟨r, hb.trans hr, hexp, ?_, ?_, hflags.exclusive⟩, ?_, ?_⟩
  · exact hopens.trans hflags.finalizing
  · rw [List.countP_append, hxs0, Nat.add_zero]
    have hold := hflags.finalized
    have hset : (d.inFlight.set i f').countP (reports sid) = d.inFlight.countP (reports sid) := hreports
    rw [hset]
    exact hold
  · intro g hg hgsid
    rcases List.mem_or_eq_of_mem_set hg with hold | rfl
    · exact h.calls g hold hgsid
    · exact absurd hgsid hne'
  · intro x hx hxsid
    rcases List.mem_append.mp hx with hold | hnew
    · exact h.issued x hold hxsid
    · exact absurd hxsid (hxs x hnew)

/-- A section of a call of this stop: the counts are what has to be checked. -/
theorem barrierInv_own {sid : String} {expected : Finset NodeId} {d : DrainDesk}
    (h : BarrierInv sid expected d) {i : Nat} {f : Finalization} (stage : FinalizationStage)
    (r' : DrainRecord) (xs : List Issue) {b : DrainBook} (hf : d.inFlight[i]? = some f)
    (hsid : f.stopSessionId = sid) (hb : b.tracking.get? sid = some r')
    (hexp : r'.expectedNodes = expected) (hxs : ∀ x ∈ xs, x.atAck = f.atAck)
    (hcount : FlagsCount sid
      { book := b, inFlight := d.inFlight.set i (f.at stage), issued := d.issued ++ xs } r') :
    BarrierInv sid expected
      { book := b, inFlight := d.inFlight.set i (f.at stage), issued := d.issued ++ xs } := by
  have hcall := h.calls f (List.mem_of_getElem? hf) hsid
  refine ⟨⟨r', hb, hexp, hcount⟩, ?_, ?_⟩
  · intro g hg hgsid
    rcases List.mem_or_eq_of_mem_set hg with hold | rfl
    · exact h.calls g hold hgsid
    · exact hcall
  · intro x hx hxsid
    rcases List.mem_append.mp hx with hold | hnew
    · exact h.issued x hold hxsid
    · rw [hxs x hnew]
      exact hcall

/-- How the counts of a stop move with one section of one of its calls. -/
theorem counts_at {sid : String} {d : DrainDesk} {i : Nat} {f : Finalization}
    (stage : FinalizationStage) (hf : d.inFlight[i]? = some f) (hsid : f.stopSessionId = sid) :
    (d.inFlight.set i (f.at stage)).countP (opens sid) + (if f.isOpen then 1 else 0)
        = d.inFlight.countP (opens sid) + (if (f.at stage).isOpen then 1 else 0)
      ∧ (d.inFlight.set i (f.at stage)).countP (reports sid) + (if f.isReporting then 1 else 0)
        = d.inFlight.countP (reports sid) + (if (f.at stage).isReporting then 1 else 0) := by
  have hsid' : (f.at stage).stopSessionId = sid := hsid
  have hopens := countP_set_add (p := opens sid) (a := f.at stage) hf
  have hreports := countP_set_add (p := reports sid) (a := f.at stage) hf
  simp only [opens, hsid, hsid', decide_true, Bool.true_and] at hopens
  simp only [reports, hsid, hsid', decide_true, Bool.true_and] at hreports
  exact ⟨hopens, hreports⟩

/-- The record of a stop one of whose calls is open is being finalized. -/
theorem BarrierInv.finalizing_of_open {sid : String} {expected : Finset NodeId} {d : DrainDesk}
    (h : BarrierInv sid expected d) {f : Finalization} (hf : f ∈ d.inFlight)
    (hsid : f.stopSessionId = sid) (hopen : f.isOpen = true) {r : DrainRecord}
    (hr : d.book.tracking.get? sid = some r) : r.finalizing = true ∧ r.finalized = false := by
  obtain ⟨r₀, hr₀, -, hflags⟩ := h.record
  rw [hr] at hr₀
  cases hr₀
  have hpos : 0 < d.inFlight.countP (opens sid) :=
    List.countP_pos_iff.mpr ⟨f, hf, by simp [opens, hsid, hopen]⟩
  have hcount := hflags.finalizing
  have hfin : r.finalizing = true := by
    by_contra hne
    rw [if_neg hne] at hcount
    omega
  refine ⟨hfin, ?_⟩
  by_contra hne
  rw [Bool.not_eq_false] at hne
  exact hflags.exclusive ⟨hfin, hne⟩

/-- The counts after one section of one of the stop's calls, from what the section does to the
record's flags, to the call and to the aggregates. -/
theorem flagsCount_at {sid : String} {d : DrainDesk} {r r' : DrainRecord} {i : Nat} {f : Finalization}
    {stage : FinalizationStage} {xs : List Issue} {b : DrainBook} (h : FlagsCount sid d r)
    (hf : d.inFlight[i]? = some f) (hsid : f.stopSessionId = sid)
    (hopen : (if r'.finalizing then 1 else 0) + (if f.isOpen then 1 else 0)
      = (if r.finalizing then 1 else 0) + (if (f.at stage).isOpen then 1 else 0))
    (hreport : (if r'.finalized then 1 else 0) + (if f.isReporting then 1 else 0)
      = (if r.finalized then 1 else 0) + (if (f.at stage).isReporting then 1 else 0)
        + xs.countP (aggregates sid))
    (hexcl : ¬ (r'.finalizing = true ∧ r'.finalized = true)) :
    FlagsCount sid { book := b, inFlight := d.inFlight.set i (f.at stage), issued := d.issued ++ xs } r' := by
  obtain ⟨hopens, hreports⟩ := counts_at stage hf hsid
  have hfinalizing := h.finalizing
  have hfinalized := h.finalized
  refine ⟨?_, ?_, hexcl⟩
  · dsimp only
    omega
  · dsimp only
    rw [List.countP_append]
    omega

/-- Nothing new issued, said the way the lemmas above have it. -/
theorem issued_append_nil (d : DrainDesk) : d = { d with issued := d.issued ++ [] } := by
  rw [List.append_nil]

/-- A section of one of the stop's own calls. -/
theorem barrierInv_ownCall {sid : String} {expected : Finset NodeId} {d d' : DrainDesk}
    (h : BarrierInv sid expected d) {i : Nat} {f : Finalization} {callbackError : Option String}
    (hf : d.inFlight[i]? = some f) (hsid : f.stopSessionId = sid)
    (hadv : d.advanceCall i f callbackError = some d') : BarrierInv sid expected d' := by
  obtain ⟨r, hr, hexp, hflags⟩ := h.record
  have hmem : f ∈ d.inFlight := List.mem_of_getElem? hf
  unfold DrainDesk.advanceCall at hadv
  cases hstage : f.stage with
  | callback =>
    -- the callback has ended: the call stays open until its locked section
    have hwait : ∀ stage, (f.at stage).isOpen = true → (f.at stage).isReporting = false →
        BarrierInv sid expected (d.setCall i (f.at stage)) := by
      intro stage hopen hreport
      rw [issued_append_nil (d.setCall i (f.at stage))]
      refine barrierInv_own h stage r [] hf hsid hr hexp (List.forall_mem_nil _) (flagsCount_at hflags hf hsid ?_ ?_
        hflags.exclusive)
      · simp [Finalization.isOpen, hstage] at hopen ⊢
        simp [hopen]
      · simp [Finalization.isReporting, hstage] at hreport ⊢
        simp [hreport]
    rw [hstage] at hadv
    cases callbackError with
    | none =>
      cases hadv
      exact hwait .finish rfl rfl
    | some e =>
      cases hadv
      exact hwait (.fail e) rfl rfl
  | finish =>
    rw [hstage] at hadv
    cases hadv
    have hopen : f.isOpen = true := by simp [Finalization.isOpen, hstage]
    obtain ⟨hfin, hnotdone⟩ := h.finalizing_of_open hmem hsid hopen hr
    rw [issued_append_nil (DrainDesk.setCall _ _ _)]
    refine barrierInv_own h .report { r with finalizing := false, finalized := true } [] hf hsid
      ?_ hexp (List.forall_mem_nil _) (flagsCount_at hflags hf hsid ?_ ?_ (by simp))
    · show (d.book.finishDrain f.stopSessionId).tracking.get? sid = _
      unfold DrainBook.finishDrain
      rw [hsid, hr]
      exact DrainBook.get?_putRecord_self _ _ _
    · rw [hfin, hopen]
      rfl
    · rw [hnotdone, show f.isReporting = false by simp [Finalization.isReporting, hstage]]
      rfl
  | fail e =>
    rw [hstage] at hadv
    cases hadv
    have hopen : f.isOpen = true := by simp [Finalization.isOpen, hstage]
    obtain ⟨hfin, -⟩ := h.finalizing_of_open hmem hsid hopen hr
    rw [issued_append_nil (DrainDesk.setCall _ _ _)]
    refine barrierInv_own h (.reportFailure e) { r with finalizing := false } [] hf hsid ?_
      hexp (List.forall_mem_nil _) (flagsCount_at hflags hf hsid ?_ ?_ (by simp))
    · show (d.book.failDrain f.stopSessionId).tracking.get? sid = _
      unfold DrainBook.failDrain
      rw [hsid, hr]
      exact DrainBook.get?_putRecord_self _ _ _
    · rw [hfin, hopen]
      rfl
    · rw [show f.isReporting = false by simp [Finalization.isReporting, hstage]]
      rfl
  | report =>
    rw [hstage] at hadv
    cases hadv
    have hagg : [f.issue .aggregate f.result].countP (aggregates sid) = 1 := by
      have hid : (f.issue .aggregate f.result).stopSessionId = sid := hsid
      rw [List.countP_singleton]
      simp only [aggregates, hid]
      rfl
    refine barrierInv_own h .done r [f.issue .aggregate f.result] hf hsid hr hexp ?_
      (flagsCount_at hflags hf hsid ?_ ?_ hflags.exclusive)
    · intro x hx
      rw [List.mem_singleton.mp hx]
      rfl
    · rw [show f.isOpen = false by simp [Finalization.isOpen, hstage]]
      rfl
    · rw [hagg, show f.isReporting = true by simp [Finalization.isReporting, hstage]]
      rfl
  | reportFailure e =>
    rw [hstage] at hadv
    cases hadv
    have hagg : [f.issue .failureReport { f.result with status := "error", reason := some e }].countP
        (aggregates sid) = 0 := by
      rw [List.countP_singleton]
      simp [aggregates, Finalization.issue]
    refine barrierInv_own h .done r [f.issue .failureReport
      { f.result with status := "error", reason := some e }] hf hsid hr hexp ?_
      (flagsCount_at hflags hf hsid ?_ ?_ hflags.exclusive)
    · intro x hx
      rw [List.mem_singleton.mp hx]
      rfl
    · rw [show f.isOpen = false by simp [Finalization.isOpen, hstage]]
      rfl
    · rw [hagg, show f.isReporting = false by simp [Finalization.isReporting, hstage]]
      rfl
  | done =>
    rw [hstage] at hadv
    cases hadv

/-- A section of a call of another stop: it touches its own record only. -/
theorem barrierInv_otherCall {sid : String} {expected : Finset NodeId} {d d' : DrainDesk}
    (h : BarrierInv sid expected d) {i : Nat} {f : Finalization} {callbackError : Option String}
    (hf : d.inFlight[i]? = some f) (hsid : f.stopSessionId ≠ sid)
    (hadv : d.advanceCall i f callbackError = some d') : BarrierInv sid expected d' := by
  -- a record is written under the id of its own call
  have hfinish : (d.book.finishDrain f.stopSessionId).tracking.get? sid
      = d.book.tracking.get? sid := by
    unfold DrainBook.finishDrain
    split
    · rfl
    · exact DrainBook.get?_putRecord_ne _ _ hsid
  have hfail : (d.book.failDrain f.stopSessionId).tracking.get? sid
      = d.book.tracking.get? sid := by
    unfold DrainBook.failDrain
    split
    · rfl
    · exact DrainBook.get?_putRecord_ne _ _ hsid
  have hissue : ∀ kind (result : DrainResult), result.stopSessionId = f.stopSessionId →
      ∀ x ∈ [f.issue kind result], x.stopSessionId ≠ sid := by
    intro kind result hresult x hx
    rw [List.mem_singleton.mp hx]
    exact fun hc => hsid (hresult.symm.trans hc)
  unfold DrainDesk.advanceCall at hadv
  split at hadv
  · split at hadv <;> cases hadv <;> rw [issued_append_nil (d.setCall _ _)]
    · exact barrierInv_other h _ hf hsid hsid rfl (List.forall_mem_nil _)
    · exact barrierInv_other h _ hf hsid hsid rfl (List.forall_mem_nil _)
  · cases hadv
    rw [issued_append_nil (DrainDesk.setCall _ _ _)]
    exact barrierInv_other h _ hf hsid hsid hfinish (List.forall_mem_nil _)
  · cases hadv
    rw [issued_append_nil (DrainDesk.setCall _ _ _)]
    exact barrierInv_other h _ hf hsid hsid hfail (List.forall_mem_nil _)
  · cases hadv
    exact barrierInv_other h (f.at .done) hf hsid hsid rfl (hissue _ _ rfl)
  · cases hadv
    exact barrierInv_other h (f.at .done) hf hsid hsid rfl (hissue _ _ rfl)
  · cases hadv

theorem barrierInv_advance {sid : String} {expected : Finset NodeId} {d d' : DrainDesk}
    (h : BarrierInv sid expected d) {i : Nat} {f : Finalization} {callbackError : Option String}
    (hf : d.inFlight[i]? = some f) (hadv : d.advanceCall i f callbackError = some d') :
    BarrierInv sid expected d' := by
  by_cases hsid : f.stopSessionId = sid
  · exact barrierInv_ownCall h hf hsid hadv
  · exact barrierInv_otherCall h hf hsid hadv

theorem barrierInv_step {sid : String} {expected : Finset NodeId} {d d' : DrainDesk}
    {a : DrainAction} (hok : NotReopened sid d a) (hstep : d.step a = some d')
    (h : BarrierInv sid expected d) : BarrierInv sid expected d' := by
  cases a with
  | create sid' scope subjectIds nodes =>
    cases hstep
    have hne : sid' ≠ sid := by
      rintro rfl
      exact hok scope subjectIds nodes rfl
    exact h.frame (DrainBook.get?_putRecord_ne _ _ hne) rfl rfl
  | start subjectIds =>
    cases hstep
    exact h.frame rfl rfl rfl
  | ack node ev callback =>
    cases hstep
    exact barrierInv_ack h node ev callback
  | advance i callbackError =>
    obtain ⟨f, hf, hadv⟩ := Option.bind_eq_some_iff.mp hstep
    exact barrierInv_advance h hf hadv

/-! ## The result -/

/-- A record as a STOP opens it, with no call of its own in flight. -/
structure FreshRecord (sid : String) (expected : Finset NodeId) (d : DrainDesk) : Prop where
  record : ∃ r, d.book.tracking.get? sid = some r ∧ r.expectedNodes = expected
    ∧ r.finalizing = false ∧ r.finalized = false
  calls : ∀ f ∈ d.inFlight, f.stopSessionId ≠ sid
  issued : ∀ x ∈ d.issued, x.stopSessionId ≠ sid

/-- What the barrier guarantees of one stop in a state `d` of any run. -/
structure BarrierSafe (sid : String) (expected : Finset NodeId) (d : DrainDesk) : Prop where
  -- a callback or an aggregate stems from an ack that left the record complete
  issued : ∀ x ∈ d.issued, x.stopSessionId = sid →
    x.atAck.Complete ∧ x.atAck.expectedNodes = expected
  -- a subject leaves the active set at such an ack only
  leaves : ∀ a d', d.step a = some d' → ∀ s ∈ d.book.active, s ∉ d'.book.active →
    ∃ node ev callback sid' r', a = .ack node ev callback ∧ truthy ev.stopSessionId = some sid'
      ∧ d'.book.tracking.get? sid' = some r' ∧ r'.Complete
  -- once the record is finalized no later ack launches a call for it
  finalized : ∀ r, d.book.tracking.get? sid = some r → r.finalized = true →
    ∀ t, Machine.Run DrainDesk.step (NotReopened sid) d t → launched sid t = launched sid d
  -- at most one aggregate is no report of a failure
  once : d.issued.countP (aggregates sid) ≤ 1
  -- after a failed callback the next ack that finds the record complete tries again
  retry : ∀ i f e callbackError d', d.inFlight[i]? = some f → f.stopSessionId = sid →
    f.stage = .fail e → d.step (.advance i callbackError) = some d' →
    ∃ r', d'.book.tracking.get? sid = some r' ∧ r'.finalizing = false ∧ r'.finalized = false
      ∧ ∀ node ev callback, truthy ev.stopSessionId = some sid →
        (r'.recordAck node ev.ack).Complete →
        launched sid (d'.ack node ev callback) = launched sid d' + 1

theorem FreshRecord.barrierInv {sid : String} {expected : Finset NodeId} {d : DrainDesk}
    (h : FreshRecord sid expected d) : BarrierInv sid expected d := by
  obtain ⟨r, hr, hexp, hfin, hdone⟩ := h.record
  have hopens : d.inFlight.countP (opens sid) = 0 := by
    rw [List.countP_eq_zero]
    intro f hf
    simp [opens, h.calls f hf]
  have hreports : d.inFlight.countP (reports sid) = 0 := by
    rw [List.countP_eq_zero]
    intro f hf
    simp [reports, h.calls f hf]
  have hagg : d.issued.countP (aggregates sid) = 0 := by
    rw [List.countP_eq_zero]
    intro x hx
    simp [aggregates, h.issued x hx]
  refine ⟨⟨r, hr, hexp, ?_, ?_, ?_⟩, ?_, ?_⟩
  · rw [hopens, hfin]
    rfl
  · rw [hreports, hagg, hdone]
    rfl
  · simp [hfin]
  · intro f hf hsid
    exact absurd hsid (h.calls f hf)
  · intro x hx hsid
    exact absurd hsid (h.issued x hx)

/-- The active set shrinks at an ack that completes a record. -/
theorem leaves_at_complete {d d' : DrainDesk} {a : DrainAction} (hstep : d.step a = some d')
    {s : String} (hin : s ∈ d.book.active) (hout : s ∉ d'.book.active) :
    ∃ node ev callback sid' r', a = .ack node ev callback ∧ truthy ev.stopSessionId = some sid'
      ∧ d'.book.tracking.get? sid' = some r' ∧ r'.Complete := by
  cases a with
  | create sid' scope subjectIds nodes =>
    cases hstep
    exact absurd hin hout
  | start subjectIds =>
    cases hstep
    exact absurd (Finset.mem_union_left _ hin) hout
  | ack node ev callback =>
    cases hstep
    unfold DrainDesk.ack at hout ⊢
    rcases d.book.drainAck_cases node ev with heq | ⟨sid', record, hsid, hrec, ⟨-, heq⟩ | ⟨hfin, heq⟩⟩
    · rw [heq] at hout
      exact absurd hin hout
    · rw [heq] at hout
      exact absurd hin hout
    · -- the one place where the set shrinks
      refine ⟨node, ev, callback, sid', ?_⟩
      rw [heq]
      dsimp only [DrainBook.completeDrain]
      rw [launch_book]
      exact ⟨_, rfl, hsid, DrainBook.get?_putRecord_self _ _ _,
        ((DrainRecord.shouldFinalize_iff _).mp hfin).1⟩
  | advance i callbackError =>
    obtain ⟨f, -, hadv⟩ := Option.bind_eq_some_iff.mp hstep
    rw [DrainDesk.advanceCall_active hadv] at hout
    exact absurd hin hout

theorem launched_launch (sid : String) (d : DrainDesk) (f : Finalization) :
    launched sid (d.launch f) = launched sid d + if f.stopSessionId = sid then 1 else 0 := by
  unfold launched
  rw [launch_inFlight, List.countP_append, List.countP_singleton]
  simp only [decide_eq_true_eq]

/-- The last sections of a call leave a finalized record finalized, their own or another. -/
theorem finalized_finishDrain {sid : String} {b : DrainBook} {r : DrainRecord} (sid' : String)
    (hr : b.tracking.get? sid = some r) (hdone : r.finalized = true) :
    ∃ r', (b.finishDrain sid').tracking.get? sid = some r' ∧ r'.finalized = true := by
  unfold DrainBook.finishDrain
  split
  · exact ⟨r, hr, hdone⟩
  · by_cases hsid : sid' = sid
    · subst hsid
      exact ⟨_, DrainBook.get?_putRecord_self _ _ _, rfl⟩
    · exact ⟨r, (DrainBook.get?_putRecord_ne _ _ hsid).trans hr, hdone⟩

theorem finalized_failDrain {sid : String} {b : DrainBook} {r : DrainRecord} (sid' : String)
    (hr : b.tracking.get? sid = some r) (hdone : r.finalized = true) :
    ∃ r', (b.failDrain sid').tracking.get? sid = some r' ∧ r'.finalized = true := by
  unfold DrainBook.failDrain
  split
  · exact ⟨r, hr, hdone⟩
  · rename_i x hx
    by_cases hsid : sid' = sid
    · subst hsid
      rw [hr] at hx
      cases hx
      exact ⟨_, DrainBook.get?_putRecord_self _ _ _, hdone⟩
    · exact ⟨r, (DrainBook.get?_putRecord_ne _ _ hsid).trans hr, hdone⟩

/-- A finalized record stays finalized, and no call is launched for it. -/
theorem finalized_step {sid : String} {d d' : DrainDesk} {a : DrainAction} {r : DrainRecord}
    (hok : NotReopened sid d a) (hstep : d.step a = some d')
    (hr : d.book.tracking.get? sid = some r) (hdone : r.finalized = true) :
    (∃ r', d'.book.tracking.get? sid = some r' ∧ r'.finalized = true)
      ∧ launched sid d' = launched sid d := by
  cases a with
  | create sid' scope subjectIds nodes =>
    cases hstep
    have hne : sid' ≠ sid := by
      rintro rfl
      exact hok scope subjectIds nodes rfl
    exact ⟨⟨r, (DrainBook.get?_putRecord_ne _ _ hne).trans hr, hdone⟩, rfl⟩
  | start subjectIds =>
    cases hstep
    exact ⟨⟨r, hr, hdone⟩, rfl⟩
  | ack node ev callback =>
    cases hstep
    unfold DrainDesk.ack
    rcases d.book.drainAck_cases node ev with heq | ⟨sid', record, -, hrec, ⟨-, heq⟩ | ⟨hfin, heq⟩⟩
    · rw [heq]
      exact ⟨⟨r, hr, hdone⟩, rfl⟩
    · rw [heq]
      refine ⟨?_, rfl⟩
      by_cases hsid : sid' = sid
      · subst hsid
        rw [hr] at hrec
        cases hrec
        exact ⟨_, DrainBook.get?_putRecord_self _ _ _, hdone⟩
      · exact ⟨r, (DrainBook.get?_putRecord_ne _ _ hsid).trans hr, hdone⟩
    · have hsid : sid' ≠ sid := by
        rintro rfl
        rw [hr] at hrec
        cases hrec
        -- a finalized record would not complete again
        have hopen := ((DrainRecord.shouldFinalize_iff _).mp hfin).2.2
        rw [show (r.recordAck node ev.ack).finalized = r.finalized from rfl, hdone] at hopen
        cases hopen
      rw [heq]
      dsimp only [DrainBook.completeDrain]
      refine ⟨⟨r, ?_, hdone⟩, ?_⟩
      · rw [launch_book]
        exact (DrainBook.get?_putRecord_ne _ _ hsid).trans hr
      · rw [launched_launch]
        exact (congrArg (launched sid d + ·) (if_neg hsid)).trans (Nat.add_zero _)
  | advance i callbackError =>
    obtain ⟨f, hf, hadv⟩ := Option.bind_eq_some_iff.mp hstep
    obtain ⟨⟨stage, hcalls, -⟩, hbook⟩ := DrainDesk.advanceCall_cases hadv
    refine ⟨?_, ?_⟩
    · rcases hbook with hbook | ⟨-, hbook | hbook⟩ <;> rw [hbook]
      · exact ⟨r, hr, hdone⟩
      · exact finalized_finishDrain _ hr hdone
      · exact finalized_failDrain _ hr hdone
    · have hset := countP_set_add (p := fun g : Finalization => decide (g.stopSessionId = sid))
        (a := f.at stage) hf
      unfold launched
      rw [hcalls]
      exact Nat.add_right_cancel hset

theorem finalized_run {sid : String} {d t : DrainDesk} {r : DrainRecord}
    (hr : d.book.tracking.get? sid = some r) (hdone : r.finalized = true)
    (hrun : Machine.Run DrainDesk.step (NotReopened sid) d t) :
    launched sid t = launched sid d := by
  have hinv : (∃ r', t.book.tracking.get? sid = some r' ∧ r'.finalized = true)
      ∧ launched sid t = launched sid d := by
    refine hrun.invariant (I := fun t => (∃ r', t.book.tracking.get? sid = some r'
      ∧ r'.finalized = true) ∧ launched sid t = launched sid d) ⟨⟨r, hr, hdone⟩, rfl⟩ ?_
    rintro s a s' hok hstep ⟨⟨r', hr', hdone'⟩, hcount⟩
    obtain ⟨hrec, hsame⟩ := finalized_step hok hstep hr' hdone'
    exact ⟨hrec, hsame.trans hcount⟩
  exact hinv.2

/-- An ack that completes a record with both flags down launches a call. -/
theorem launched_of_complete {sid : String} {d : DrainDesk} {r : DrainRecord} {node : NodeId}
    {ev : DrainEvent} (hr : d.book.tracking.get? sid = some r) (hidle : r.finalizing = false)
    (hopen : r.finalized = false) (hsid : truthy ev.stopSessionId = some sid)
    (hcomplete : (r.recordAck node ev.ack).Complete) (callback : Bool) :
    launched sid (d.ack node ev callback) = launched sid d + 1 := by
  have hfin : (r.recordAck node ev.ack).shouldFinalize = true :=
    (DrainRecord.shouldFinalize_iff _).mpr ⟨hcomplete, hidle, hopen⟩
  have heq : d.book.drainAck node ev = d.book.completeDrain sid (r.recordAck node ev.ack) := by
    unfold DrainBook.drainAck
    rw [hsid]
    dsimp only
    rw [hr]
    dsimp only
    rw [if_pos hfin]
  unfold DrainDesk.ack
  rw [heq]
  dsimp only [DrainBook.completeDrain]
  rw [launched_launch]
  exact congrArg (launched sid d + ·) (if_pos rfl)

/-- **Safety of the drain barrier.** Whatever acknowledgements, callbacks, starts and other
stops are interleaved with it. -/
theorem drainBarrier_safe {sid : String} {expected : Finset NodeId} {d₀ d : DrainDesk}
    (hfresh : FreshRecord sid expected d₀)
    (hrun : Machine.Run DrainDesk.step (NotReopened sid) d₀ d) : BarrierSafe sid expected d := by
  have hinv : BarrierInv sid expected d :=
    hrun.invariant hfresh.barrierInv fun _ _ _ hok hstep h => barrierInv_step hok hstep h
  refine ⟨hinv.issued, ?_, ?_, ?_, ?_⟩
  · intro a d' hstep s hin hout
    exact leaves_at_complete hstep hin hout
  · intro r hr hdone t hrun'
    exact finalized_run hr hdone hrun'
  · obtain ⟨r, -, -, hflags⟩ := hinv.record
    have hcount := hflags.finalized
    split at hcount <;> omega
  · intro i f e callbackError d' hf hsid hstage hstep
    obtain ⟨r, hr, -, -⟩ := hinv.record
    -- a failed call was still open, so its record was not finalized
    have hopen : f.isOpen = true := by simp [Finalization.isOpen, hstage]
    obtain ⟨-, hnotdone⟩ := hinv.finalizing_of_open (List.mem_of_getElem? hf) hsid hopen hr
    have hd' : d' = (d.setBook (d.book.failDrain sid)).setCall i (f.at (.reportFailure e)) := by
      have hadv : d.inFlight[i]?.bind (fun g => d.advanceCall i g callbackError) = some d' := hstep
      rw [hf, Option.bind_some] at hadv
      unfold DrainDesk.advanceCall at hadv
      rw [hstage, hsid] at hadv
      cases hadv
      rfl
    have hr' : d'.book.tracking.get? sid = some { r with finalizing := false } := by
      rw [hd']
      show (d.book.failDrain sid).tracking.get? sid = _
      unfold DrainBook.failDrain
      rw [hr]
      exact DrainBook.get?_putRecord_self _ _ _
    refine ⟨_, hr', rfl, hnotdone, ?_⟩
    intro node ev callback hev hcomplete
    exact launched_of_complete hr' rfl hnotdone hev hcomplete callback

instance (sid : String) (d : DrainDesk) (a : DrainAction) : Decidable (NotReopened sid d a) :=
  match a with
  | .create sid' scope subjectIds nodes =>
    decidable_of_iff (sid' ≠ sid) ⟨fun h _ _ _ heq => h (DrainAction.create.inj heq).1,
      fun h heq => h scope subjectIds nodes (heq ▸ rfl)⟩
  | .start _ => isTrue nofun
  | .ack _ _ _ => isTrue nofun
  | .advance _ _ => isTrue nofun

/-- The acknowledgements of a stop of two nodes, and the call that the second one launches. -/
def twoNodeStop : List DrainAction :=
  [.ack "n1" { stopSessionId := some "stop-1", subjectIds := ["s1"] } true,
    .ack "n2" { stopSessionId := some "stop-1", subjectIds := ["s2"] } true,
    .advance 0 none, .advance 0 none, .advance 0 none]

theorem drainBarrier_safe_twoNodeStop :
    ∃ d₀ d, FreshRecord "stop-1" {"n1", "n2"} d₀ ∧ d.issued.map Issue.kind = [.callback, .aggregate]
      ∧ BarrierSafe "stop-1" {"n1", "n2"} d := by
  let d₀ : DrainDesk :=
    { book := (({} : DrainBook).activate ["s1", "s2"]).createDrainRecord "stop-1" "all" ["s1", "s2"]
        ["n1", "n2"] }
  have hfresh : FreshRecord "stop-1" {"n1", "n2"} d₀ :=
    ⟨⟨{ scope := "all", subjectIds := ["s1", "s2"], expectedNodes := {"n1", "n2"} }, by decide +kernel,
      rfl, rfl, rfl⟩, List.forall_mem_nil _, List.forall_mem_nil _⟩
  have hissued : (Machine.execOk DrainDesk.step (NotReopened "stop-1") d₀ twoNodeStop).map
      (fun d => d.issued.map Issue.kind) = some [.callback, .aggregate] := by decide +kernel
  obtain ⟨d, hexec, hkinds⟩ := Option.map_eq_some_iff.mp hissued
  exact ⟨d₀, d, hfresh, hkinds, drainBarrier_safe hfresh (.of_execOk twoNodeStop hexec)⟩

end NexusN3
