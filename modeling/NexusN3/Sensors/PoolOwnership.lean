import NexusN3.Sensors.AdapterPool

/-!
# Adapters are shut down once and never forgotten

* **`Good`** — what is promised of a world.
* **`Kept`** — that without the attempts; `Cleaned.kept_iff` says when a cleanup keeps it.
* **`spares`** — the condition on a step.
* **`pool_good_iff`** — all worlds of a run are good exactly when each step meets the condition.
-/

namespace NexusN3.Sensors.Pool

open Lib

/-! ## What is promised -/

/-- A `shutdown_all` in which nothing raises comes to the adapter. -/
def Reached (pool : AdapterPool) (a : Adapter) : Prop :=
  ∃ succeeded, Event.shutdown a succeeded ∈ (pool.shutdownAll fun _ => false).2

structure Kept (w : World) : Prop where
  /-- An adapter is shut down with success at most once. -/
  once : ∀ a, w.events.count (.shutdown a true) ≤ 1
  /-- Between two initializations of an adapter it has been shut down. -/
  between : Justified (fun before e => ∀ a, e = .initialized a true → running a before = false)
    w.events
  /-- An adapter whose shutdown has not succeeded is owned, and within reach. -/
  kept : ∀ a ∈ w.created, a.needsShutdown = true →
    ShutDown w.events a ∨ a ∈ w.pool.owned ∧ Reached w.pool a

structure Good (w : World) : Prop extends Kept w where
  /-- Every `shutdown_all` has attempted all adapters not shut down by then. -/
  attempted : w.missed = []

/-- What a step may not do. A retired adapter's shutdown may not raise. When all are closed, no
`close` may raise, and every retired adapter needs one. A `close` in a reset has to succeed, unless
the adapter has been shut down before: then it has to raise. -/
def spares (w : World) : Action → Prop
  | .getOrCreate _ _ => True
  | .reset preserveTypes raises =>
    ∀ e ∈ w.pool.adapters.entries, e.1 ∉ preserveTypes → e.2.hasShutdown = false →
      e.2.hasClose = true → (raises e.2 = true ↔ e.2.address ∈ w.pool.shutdownIds)
  | .initializeAll raisesShutdown _ =>
    ∀ a ∈ w.pool.retired, a.address ∉ w.pool.shutdownIds → raisesShutdown a = false
  | .shutdownAll raises =>
    ∀ a ∈ w.pool.retired, a.address ∉ w.pool.shutdownIds → raises a = false
  | .closeAll raises =>
    (∀ a ∈ w.pool.owned, a.address ∉ w.pool.shutdownIds → a.hasClose = true → raises a = false) ∧
      ∀ a ∈ w.pool.retired, a.address ∉ w.pool.shutdownIds → a.hasClose = true

/-! ## Who is attempted -/

section Attempts

variable {w w' : World} {t : AdapterPool.Treatment} {as : List Adapter}

theorem tries_shutting {raises : Adapter → Bool} {pool : AdapterPool} {a : Adapter} :
    (AdapterPool.shutting raises).tries pool a = true ↔ a.address ∉ pool.shutdownIds := by
  simp [AdapterPool.Treatment.tries, AdapterPool.shutting]

theorem Cleaned.events_eq {result : AdapterPool × List Event}
    (h : Cleaned t as w (w.next result)) :
    result.2 = (tried t w.pool as).map (shutdownEvent t) :=
  List.append_cancel_left h.events

theorem exists_shutdownEvent {a : Adapter} :
    (∃ succeeded, Event.shutdown a succeeded ∈ as.map (shutdownEvent t)) ↔ a ∈ as := by
  constructor
  · rintro ⟨succeeded, hin⟩
    obtain ⟨b, hb, heq⟩ := List.mem_map.mp hin
    obtain ⟨rfl, -⟩ := Event.shutdown.inj heq
    exact hb
  · intro ha
    exact ⟨t.succeeds a, List.mem_map.mpr ⟨a, ha, rfl⟩⟩

/-- A retired adapter is not active. -/
theorem Tracked.not_active (h : Tracked w) {a : Adapter} (ha : a ∈ w.pool.retired) :
    a ∉ w.pool.adapters.values := by
  intro hactive
  exact (List.nodup_append.mp (owned_nodup h)).2.2 a ha a hactive rfl

/-- The cleanup of the retired adapters goes through. -/
theorem retiredFailed_iff (h : Tracked w) (raises : Adapter → Bool) :
    retiredFailed w raises = false ↔
      ∀ a ∈ w.pool.retired, a.address ∉ w.pool.shutdownIds → raises a = false := by
  unfold retiredFailed
  rw [(cleaned_retired h raises).events_eq, List.any_eq_false]
  constructor
  · intro hnone a ha hunmarked
    have htried : a ∈ tried (AdapterPool.shutting raises) w.pool w.pool.retired.reverse :=
      mem_tried.mpr ⟨List.mem_reverse.mpr ha, tries_shutting.mpr hunmarked⟩
    have hevent := hnone _ (List.mem_map_of_mem htried)
    have hneeds : a.needsShutdown = true := by simp [Adapter.needsShutdown, h.retired a ha]
    simpa [shutdownEvent, AdapterPool.Event.failed, AdapterPool.shutting, hneeds] using hevent
  · intro hquiet e he
    obtain ⟨a, ha, rfl⟩ := List.mem_map.mp he
    obtain ⟨hretired, htries⟩ := mem_tried.mp ha
    have hok := hquiet a (List.mem_reverse.mp hretired) (tries_shutting.mp htries)
    simp [shutdownEvent, AdapterPool.Event.failed, AdapterPool.shutting, hok]

/-- Retired adapters do not mark active ones. -/
theorem marked_retiring (h : Tracked w) (raises : Adapter → Bool) {a : Adapter}
    (ha : a ∈ w.pool.adapters.values) : (w.retiring raises).marked a ↔ w.marked a := by
  have howned : a ∈ w.pool.owned := List.mem_append_right _ ha
  rw [World.retiring, (cleaned_retired h raises).marked_iff h howned]
  refine or_iff_left fun hboth => ?_
  exact h.not_active (List.mem_reverse.mp (mem_tried.mp hboth.1).1) ha

theorem adapters_retiring (h : Tracked w) (raises : Adapter → Bool) :
    (w.retiring raises).pool.owned = w.pool.adapters.values ∧
      (w.retiring raises).pool.adapters = w.pool.adapters := by
  have hnodup : ((w.pool.retired.reverse).map Adapter.address).Nodup := by
    rw [List.map_reverse, List.nodup_reverse]
    exact h.nodup_split.1
  have hrun := @attempted_attempt (AdapterPool.shutting raises) { w.pool with retired := [] } _
    hnodup
  exact ⟨hrun.owned, hrun.adapters⟩

/-- A `shutdown_all` in which no retired adapter raises attempts all that is owned and unmarked. -/
theorem attempts_shutdownAll (h : Tracked w) {raises : Adapter → Bool}
    (hquiet : retiredFailed w raises = false) (a : Adapter) :
    (∃ succeeded, Event.shutdown a succeeded ∈ (w.pool.shutdownAll raises).2) ↔
      a ∈ w.pool.owned ∧ ¬ w.marked a := by
  have hretired := cleaned_retired h raises
  have hactive := cleaned_active (h.retiring raises) raises
  have hadapters := (adapters_retiring h raises).2
  have hevents : (w.pool.shutdownAll raises).2 = (w.pool.shutdownRetired raises).2 ++
      ((w.retiring raises).pool.attempt (AdapterPool.shutting raises)
        (w.retiring raises).pool.adapters.values.reverse).2 := by
    have hquiet' : (w.pool.shutdownRetired raises).2.any AdapterPool.Event.failed = false := hquiet
    unfold AdapterPool.shutdownAll
    dsimp only
    rw [hquiet']
    rfl
  have hsplit : (∃ succeeded, Event.shutdown a succeeded ∈ (w.pool.shutdownAll raises).2) ↔
      a ∈ tried (AdapterPool.shutting raises) w.pool w.pool.retired.reverse ∨
        a ∈ tried (AdapterPool.shutting raises) (w.retiring raises).pool
          (w.retiring raises).pool.adapters.values.reverse := by
    rw [hevents, hretired.events_eq, hactive.events_eq]
    simp only [List.mem_append, exists_or, exists_shutdownEvent]
  rw [hsplit, mem_tried, mem_tried, tries_shutting, tries_shutting, hadapters, List.mem_reverse,
    List.mem_reverse, AdapterPool.owned, List.mem_append, or_and_right]
  apply or_congr Iff.rfl
  exact and_congr_right fun ha => not_congr (marked_retiring h raises ha)

theorem reached_iff (h : Tracked w) (a : Adapter) :
    Reached w.pool a ↔ a ∈ w.pool.owned ∧ ¬ w.marked a :=
  attempts_shutdownAll h ((retiredFailed_iff h _).mpr fun _ _ _ => rfl) a

end Attempts

/-! ## What a cleanup keeps -/

section Cleanups

variable {w w' : World} {t : AdapterPool.Treatment} {as : List Adapter}

/-- What is promised of an adapter, in terms of what the pool has marked. -/
theorem kept_or_unmarked (h : Tracked w) (a : Adapter) :
    (ShutDown w.events a ∨ a ∈ w.pool.owned ∧ Reached w.pool a) ↔
      ShutDown w.events a ∨ a ∈ w.pool.owned ∧ ¬ w.marked a := by
  rw [reached_iff h]
  tauto

/-- An owned adapter that has something to call is marked exactly when it has been shut down. -/
theorem Kept.marked_iff (hkept : Kept w) (h : Tracked w) {a : Adapter} (ha : a ∈ w.pool.owned)
    (hneeds : a.needsShutdown = true) : w.marked a ↔ ShutDown w.events a := by
  refine ⟨fun hmarked => ?_, h.marked a ha⟩
  rcases (kept_or_unmarked h a).mp (hkept.kept a (h.created a ha) hneeds) with hdown | ⟨_, hnot⟩
  · exact hdown
  · exact absurd hmarked hnot

theorem count_shutdownEvents (hnodup : as.Nodup) (a : Adapter) :
    (as.map (shutdownEvent t)).count (.shutdown a true)
      = if a ∈ as ∧ t.succeeds a = true then 1 else 0 := by
  have hinj : (as.map (shutdownEvent t)).Nodup :=
    hnodup.map fun a b heq => (Event.shutdown.inj heq).1
  rw [hinj.count]
  congr 1
  have hshut := @shutDown_append_shutdowns t [] as a
  unfold ShutDown at hshut
  simpa using hshut

/-- Nobody is shut down again. -/
theorem Cleaned.once_iff (hcleaned : Cleaned t as w w') (hnodup : as.Nodup)
    (honce : ∀ a, w.events.count (.shutdown a true) ≤ 1) :
    (∀ a, w'.events.count (.shutdown a true) ≤ 1) ↔
      ∀ a ∈ tried t w.pool as, t.succeeds a = true → ¬ ShutDown w.events a := by
  have htried : (tried t w.pool as).Nodup := hnodup.filter _
  have hcount (a : Adapter) : w'.events.count (.shutdown a true) =
      w.events.count (.shutdown a true) +
        if a ∈ tried t w.pool as ∧ t.succeeds a = true then 1 else 0 := by
    rw [hcleaned.events, List.count_append, count_shutdownEvents htried]
  constructor
  · intro hafter a ha hsucceeds hdown
    have hle := hafter a
    rw [hcount, if_pos ⟨ha, hsucceeds⟩] at hle
    have hpos : 0 < w.events.count (.shutdown a true) := List.count_pos_iff.mpr hdown
    omega
  · intro hnew a
    rw [hcount]
    split
    · rename_i hboth
      have hzero : w.events.count (.shutdown a true) = 0 :=
        List.count_eq_zero.mpr (hnew a hboth.1 hboth.2)
      omega
    · exact honce a

/-- A cleanup keeps what is promised exactly when it shuts nobody down twice and loses nobody who
has something left to call. -/
theorem Cleaned.kept_iff (hcleaned : Cleaned t as w w') (hplain : t.Plain) (hnodup : as.Nodup)
    (h : Tracked w) (hkept : Kept w) :
    Kept w' ↔ (∀ a ∈ tried t w.pool as, t.succeeds a = true → ¬ ShutDown w.events a) ∧
      ∀ a ∈ w.pool.owned, a.needsShutdown = true → ¬ w.marked a →
        a ∈ tried t w.pool as ∧ t.succeeds a = true ∨
          a ∈ w'.pool.owned ∧ ¬ (a ∈ tried t w.pool as ∧ t.marks a = true) := by
  have hafter : Tracked w' := h.cleaned hplain hcleaned
  have hmarked {a : Adapter} (ha : a ∈ w.pool.owned) (hunmarked : ¬ w.marked a) :
      w'.marked a ↔ a ∈ tried t w.pool as ∧ t.marks a = true := by
    rw [hcleaned.marked_iff h ha, or_iff_right hunmarked]
  rw [← hcleaned.once_iff hnodup hkept.once]
  constructor
  · intro hkept'
    refine ⟨hkept'.once, fun a ha hneeds hunmarked => ?_⟩
    have hcreated : a ∈ w'.created := hcleaned.created ▸ h.created a ha
    have hnot : ¬ ShutDown w.events a := fun hdown => hunmarked (h.marked a ha hdown)
    rcases (kept_or_unmarked hafter a).mp (hkept'.kept a hcreated hneeds) with hdown | ⟨hin, hm⟩
    · exact .inl (((hcleaned.shutDown_iff a).mp hdown).resolve_left hnot)
    · exact .inr ⟨hin, (hmarked ha hunmarked).not.mp hm⟩
  · rintro ⟨honce, howned⟩
    refine ⟨honce, hafter.between, fun a ha hneeds => ?_⟩
    rw [kept_or_unmarked hafter, hcleaned.shutDown_iff]
    rw [hcleaned.created] at ha
    rcases (kept_or_unmarked h a).mp (hkept.kept a ha hneeds) with hdown | ⟨hin, hunmarked⟩
    · exact .inl (.inl hdown)
    · rcases howned a hin hneeds hunmarked with hshut | ⟨hin', hm⟩
      · exact .inl (.inr hshut)
      · exact .inr ⟨hin', (hmarked hin hunmarked).not.mpr hm⟩

end Cleanups

/-! ## The steps -/

section Steps

variable {w : World}

/-- Only unmarked adapters are shut down, and these have not been shut down. -/
theorem not_shutDown_of_tried (h : Tracked w) {t : AdapterPool.Treatment}
    (hchecked : t.checked = true)
    {as : List Adapter} (has : ∀ a ∈ as, a ∈ w.pool.owned) :
    ∀ a ∈ tried t w.pool as, t.succeeds a = true → ¬ ShutDown w.events a := by
  intro a ha _ hdown
  obtain ⟨hin, htries⟩ := mem_tried.mp ha
  have hmarked := h.marked a (has a hin) hdown
  unfold World.marked at hmarked
  simp [AdapterPool.Treatment.tries, hchecked, hmarked] at htries

theorem kept_retiring_iff (h : Tracked w) (hkept : Kept w) (raises : Adapter → Bool) :
    Kept (w.retiring raises) ↔
      ∀ a ∈ w.pool.retired, a.address ∉ w.pool.shutdownIds → raises a = false := by
  have hcleaned := cleaned_retired h raises
  have hnodup : w.pool.retired.reverse.Nodup :=
    List.nodup_reverse.mpr (List.nodup_append.mp (owned_nodup h)).1
  have howned : (w.next (w.pool.shutdownRetired raises)).pool.owned = w.pool.adapters.values :=
    (adapters_retiring h raises).1
  rw [World.retiring, hcleaned.kept_iff (plain_shutting raises) hnodup h hkept,
    and_iff_right (not_shutDown_of_tried h rfl hcleaned.attempts), howned]
  constructor
  · intro hall a ha hunmarked
    have hneeds : a.needsShutdown = true := by simp [Adapter.needsShutdown, h.retired a ha]
    rcases hall a (List.mem_append_left _ ha) hneeds hunmarked with ⟨-, hsucceeds⟩ | ⟨hin, -⟩
    · simpa [AdapterPool.shutting, hneeds] using hsucceeds
    · exact absurd hin (h.not_active ha)
  · intro hquiet a ha hneeds hunmarked
    rcases List.mem_append.mp ha with hretired | hactive
    · refine .inl ⟨mem_tried.mpr ⟨List.mem_reverse.mpr hretired, tries_shutting.mpr hunmarked⟩, ?_⟩
      simp [AdapterPool.shutting, hquiet a hretired hunmarked]
    · refine .inr ⟨hactive, fun hboth => ?_⟩
      exact h.not_active (List.mem_reverse.mp (mem_tried.mp hboth.1).1) hactive

/-- The active adapters stay where they are, and are marked only when they have been shut down. -/
theorem kept_active (h : Tracked w) (hkept : Kept w) (raises : Adapter → Bool) :
    Kept (w.next
      (w.pool.attempt (AdapterPool.shutting raises) w.pool.adapters.values.reverse)) := by
  have hcleaned := cleaned_active h raises
  have hnodup : w.pool.adapters.values.reverse.Nodup :=
    List.nodup_reverse.mpr (List.nodup_append.mp (owned_nodup h)).2.1
  have hrun := @attempted_attempt (AdapterPool.shutting raises) w.pool
    w.pool.adapters.values.reverse (by
      rw [List.map_reverse, List.nodup_reverse]
      exact h.nodup_split.2)
  rw [hcleaned.kept_iff (plain_shutting raises) hnodup h hkept]
  refine ⟨not_shutDown_of_tried h rfl hcleaned.attempts, fun a ha _ _ => ?_⟩
  by_cases hboth : a ∈ tried (AdapterPool.shutting raises) w.pool w.pool.adapters.values.reverse ∧
      (AdapterPool.shutting raises).marks a = true
  · exact .inl hboth
  · refine .inr ⟨?_, hboth⟩
    have hafter : (w.next (w.pool.attempt (AdapterPool.shutting raises)
        w.pool.adapters.values.reverse)).pool.owned = w.pool.owned := hrun.owned
    rw [hafter]
    exact ha

theorem kept_closeAll_iff (h : Tracked w) (hkept : Kept w) (raises : Adapter → Bool) :
    Kept (w.next (w.pool.closeAll raises)) ↔ spares w (.closeAll raises) := by
  have hcleaned := cleaned_closeAll h raises
  have hrun := @attempted_attempt (AdapterPool.closing raises) { w.pool with retired := [] } _
    h.distinct
  have howned : (w.next (w.pool.closeAll raises)).pool.owned = w.pool.adapters.values := hrun.owned
  have htries {a : Adapter} : a ∈ tried (AdapterPool.closing raises) w.pool w.pool.owned ↔
      a ∈ w.pool.owned ∧ a.hasClose = true ∧ ¬ w.marked a := by
    rw [mem_tried]
    simp [AdapterPool.Treatment.tries, AdapterPool.closing, World.marked]
  rw [hcleaned.kept_iff (plain_closing raises) (owned_nodup h) h hkept,
    and_iff_right (not_shutDown_of_tried h rfl hcleaned.attempts), howned]
  have hsucceeds (a : Adapter) : (AdapterPool.closing raises).succeeds a = true ↔
      raises a = false := by simp [AdapterPool.closing]
  have hmarks (a : Adapter) : (AdapterPool.closing raises).marks a = true := rfl
  simp only [htries, hsucceeds, hmarks, and_true]
  constructor
  · intro hall
    refine ⟨fun a ha hunmarked hclose => ?_, fun a ha hunmarked => ?_⟩
    · have hneeds : a.needsShutdown = true := by simp [Adapter.needsShutdown, hclose]
      rcases hall a ha hneeds hunmarked with ⟨-, hquiet⟩ | ⟨-, hnot⟩
      · exact hquiet
      · exact absurd ⟨ha, hclose, hunmarked⟩ hnot
    · have hneeds : a.needsShutdown = true := by simp [Adapter.needsShutdown, h.retired a ha]
      rcases hall a (List.mem_append_left _ ha) hneeds hunmarked with ⟨htried, -⟩ | ⟨hin, -⟩
      · exact htried.2.1
      · exact absurd hin (h.not_active ha)
  · rintro ⟨hquiet, hretired⟩ a ha _ hunmarked
    by_cases hclose : a.hasClose = true
    · exact .inl ⟨⟨ha, hclose, hunmarked⟩, hquiet a ha hunmarked hclose⟩
    · refine .inr ⟨?_, fun hboth => hclose hboth.2.1⟩
      rcases List.mem_append.mp ha with hin | hin
      · exact absurd (hretired a hin hunmarked) hclose
      · exact hin

theorem nodup_droppedBy (h : Tracked w) (preserveTypes : List String) :
    (droppedBy w.pool preserveTypes ++
      (w.pool.adapters.restrict fun key => decide (key ∈ preserveTypes)).values).Nodup :=
  (droppedBy_perm w.pool preserveTypes).nodup_iff.mpr (List.nodup_append.mp (owned_nodup h)).2.1

/-- A dropped adapter stays owned if it is retired. -/
theorem mem_owned_reset (h : Tracked w) (preserveTypes : List String) (raises : Adapter → Bool)
    {a : Adapter} (ha : a ∈ w.pool.owned) :
    a ∈ (w.next (w.pool.reset preserveTypes raises)).pool.owned ↔
      (a ∈ droppedBy w.pool preserveTypes → a.hasShutdown = true) := by
  have hparts : a ∈ (w.next (w.pool.reset preserveTypes raises)).pool.owned ↔
      (a ∈ w.pool.retired ∨ a ∈ droppedBy w.pool preserveTypes ∧ a.hasShutdown = true) ∨
        a ∈ (w.pool.adapters.restrict fun key => decide (key ∈ preserveTypes)).values := by
    show a ∈ (w.pool.retired ++ (droppedBy w.pool preserveTypes).filter _) ++ _ ↔ _
    rw [List.mem_append, List.mem_append, List.mem_filter]
    rfl
  have hdisjoint := (List.nodup_append.mp (nodup_droppedBy h preserveTypes)).2.2
  rw [hparts]
  constructor
  · rintro ((hretired | ⟨-, hshutdown⟩) | hkept) hdropped
    · have hactive := (droppedBy_perm w.pool preserveTypes).mem_iff.mp
        (List.mem_append_left _ hdropped)
      exact absurd hactive (h.not_active hretired)
    · exact hshutdown
    · exact absurd rfl (hdisjoint a hdropped a hkept)
  · intro hshutdown
    rcases List.mem_append.mp ha with hretired | hactive
    · exact .inl (.inl hretired)
    · rcases List.mem_append.mp ((droppedBy_perm w.pool preserveTypes).mem_iff.mpr hactive) with
        hdropped | hkept
      · exact .inl (.inr ⟨hdropped, hshutdown hdropped⟩)
      · exact .inr hkept

theorem kept_reset_iff (h : Tracked w) (hkept : Kept w) (preserveTypes : List String)
    (raises : Adapter → Bool) :
    Kept (w.next (w.pool.reset preserveTypes raises)) ↔
      spares w (.reset preserveTypes raises) := by
  have hcleaned := cleaned_reset h preserveTypes raises
  have htries {a : Adapter} :
      a ∈ tried (AdapterPool.dropping raises) w.pool (droppedBy w.pool preserveTypes) ↔
        a ∈ droppedBy w.pool preserveTypes ∧ a.hasShutdown = false ∧ a.hasClose = true := by
    rw [mem_tried]
    simp [AdapterPool.Treatment.tries, AdapterPool.dropping]
  have hsucceeds (a : Adapter) : (AdapterPool.dropping raises).succeeds a = true ↔
      raises a = false := by simp [AdapterPool.dropping]
  have hmarks (a : Adapter) : (AdapterPool.dropping raises).marks a = true := rfl
  have hspares : spares w (.reset preserveTypes raises) ↔
      ∀ a ∈ droppedBy w.pool preserveTypes, a.hasShutdown = false → a.hasClose = true →
        (raises a = true ↔ w.marked a) := by
    constructor
    · intro hall a ha
      obtain ⟨e, he, hkey, rfl⟩ := mem_droppedBy.mp ha
      exact hall e he hkey
    · intro hall e he hkey
      exact hall e.2 (mem_droppedBy.mpr ⟨e, he, hkey, rfl⟩)
  rw [hcleaned.kept_iff (plain_dropping raises)
    (List.nodup_append.mp (nodup_droppedBy h preserveTypes)).1 h hkept, hspares]
  simp only [htries, hsucceeds, hmarks, and_true]
  constructor
  · rintro ⟨honce, howned⟩ a ha hshutdown hclose
    have hin := droppedBy_owned ha
    have hneeds : a.needsShutdown = true := by simp [Adapter.needsShutdown, hclose]
    constructor
    · intro hraises
      by_contra hunmarked
      rcases howned a hin hneeds hunmarked with ⟨-, hquiet⟩ | ⟨-, hnot⟩
      · rw [hraises] at hquiet
        cases hquiet
      · exact hnot ⟨ha, hshutdown, hclose⟩
    · intro hmarked
      by_contra hquiet
      exact honce a ⟨ha, hshutdown, hclose⟩ (Bool.eq_false_of_not_eq_true hquiet)
        ((hkept.marked_iff h hin hneeds).mp hmarked)
  · intro hall
    refine ⟨fun a htried hquiet hdown => ?_, fun a ha hneeds hunmarked => ?_⟩
    · obtain ⟨ha, hshutdown, hclose⟩ := htried
      have hmarked := h.marked a (droppedBy_owned ha) hdown
      rw [(hall a ha hshutdown hclose).mpr hmarked] at hquiet
      cases hquiet
    · by_cases hdropped : a ∈ droppedBy w.pool preserveTypes ∧ a.hasShutdown = false ∧
          a.hasClose = true
      · refine .inl ⟨hdropped, Bool.eq_false_of_not_eq_true fun hraises => hunmarked ?_⟩
        exact (hall a hdropped.1 hdropped.2.1 hdropped.2.2).mp hraises
      · refine .inr ⟨(mem_owned_reset h preserveTypes raises ha).mpr fun hin => ?_, hdropped⟩
        by_contra hshutdown
        have hno : a.hasShutdown = false := Bool.eq_false_of_not_eq_true hshutdown
        refine hdropped ⟨hin, hno, ?_⟩
        simpa [Adapter.needsShutdown, hno] using hneeds

/-- The loop of `initialize_all` changes what counts as initialized only. -/
theorem initializeActive_frame (raises : Adapter → Bool) (pool : AdapterPool) (as : List Adapter) :
    (pool.initializeActive raises as).1.adapters = pool.adapters ∧
      (pool.initializeActive raises as).1.retired = pool.retired ∧
      (pool.initializeActive raises as).1.shutdownIds = pool.shutdownIds ∧
      ∀ a succeeded, Event.shutdown a succeeded ∉ (pool.initializeActive raises as).2 := by
  induction as generalizing pool with
  | nil => exact ⟨rfl, rfl, rfl, nofun⟩
  | cons a as ih =>
    unfold AdapterPool.initializeActive
    split
    · exact ih pool
    · split
      · exact ⟨rfl, rfl, rfl, by simp⟩
      · obtain ⟨hadapters, hretired, hids, hevents⟩ :=
          ih { pool with initializedIds := insert a.address pool.initializedIds }
        refine ⟨hadapters, hretired, hids, fun b succeeded hin => ?_⟩
        dsimp only at hin
        split at hin
        · exact hevents b succeeded (by simpa using hin)
        · exact hevents b succeeded hin

/-- Initializations change nothing of what is promised. -/
theorem kept_initializeActive (h : Tracked w) (hkept : Kept w) (raises : Adapter → Bool)
    {as : List Adapter} (has : ∀ a ∈ as, a ∈ w.pool.owned) :
    Kept (w.next (w.pool.initializeActive raises as)) := by
  have hafter := h.initializeActive raises has
  obtain ⟨hadapters, hretired, hids, hevents⟩ := initializeActive_frame raises w.pool as
  refine ⟨fun a => ?_, hafter.between, fun a ha hneeds => ?_⟩
  · show (w.events ++ _).count _ ≤ 1
    rw [List.count_append, List.count_eq_zero.mpr (hevents a true)]
    exact hkept.once a
  · rw [kept_or_unmarked hafter]
    have howned : (w.next (w.pool.initializeActive raises as)).pool.owned = w.pool.owned := by
      show AdapterPool.retired _ ++ Dict.values (AdapterPool.adapters _) = _
      unfold World.next
      rw [hadapters, hretired]
      rfl
    have hmarked : (w.next (w.pool.initializeActive raises as)).marked a ↔ w.marked a := by
      show a.address ∈ (w.pool.initializeActive raises as).1.shutdownIds ↔ _
      rw [hids]
      rfl
    rw [howned, hmarked]
    rcases (kept_or_unmarked h a).mp (hkept.kept a ha hneeds) with hdown | hkeeps
    · exact .inl (List.mem_append_left _ hdown)
    · exact .inr hkeeps

theorem kept_getOrCreate (h : Tracked w) (hkept : Kept w) {key : String} {made : Option Adapter}
    {w' : World} (hstep : w.getOrCreate key made = some w') : Kept w' := by
  have hafter : Tracked w' := @Tracked.step _ h (.getOrCreate key made) _ hstep
  unfold World.getOrCreate at hstep
  split at hstep
  · cases hstep
    exact hkept
  · cases hstep
    exact hkept
  · rename_i made hkey
    split at hstep
    · cases hstep
    · cases hstep
      refine ⟨hkept.once, hafter.between, fun a ha hneeds => ?_⟩
      have howned : ∀ b, b ∈ w.pool.owned ∨ b = { made with serial := w.created.length } →
          b ∈ w.pool.retired ++
            (w.pool.adapters.set key { made with serial := w.created.length }).values := by
        intro b hb
        show b ∈ w.pool.retired ++ (Dict.setEntries key _ w.pool.adapters.entries).map Prod.snd
        rw [Dict.setEntries_of_notMem (Dict.get?_eq_none_iff.mp hkey), List.map_append,
          ← List.append_assoc, List.mem_append]
        exact hb.imp id List.mem_singleton.mpr
      rw [kept_or_unmarked hafter]
      rcases List.mem_append.mp ha with hold | hnew
      · rcases (kept_or_unmarked h a).mp (hkept.kept a hold hneeds) with hdown | ⟨hin, hunmarked⟩
        · exact .inl hdown
        · exact .inr ⟨howned a (.inl hin), fun hm => hunmarked (Finset.mem_of_mem_erase hm)⟩
      · obtain rfl := List.mem_singleton.mp hnew
        exact .inr ⟨howned _ (.inr rfl), Finset.notMem_erase _ _⟩

/-- A `shutdown_all` is good exactly if no retired adapter raises. -/
theorem kept_shutdownAll_iff (h : Tracked w) (hkept : Kept w) (raises : Adapter → Bool) :
    Kept (w.next (w.pool.shutdownAll raises)) ↔ retiredFailed w raises = false := by
  have hretiring := kept_retiring_iff h hkept raises
  rw [← retiredFailed_iff h] at hretiring
  rw [next_shutdownAll]
  cases hfailed : retiredFailed w raises with
  | true =>
    rw [if_pos rfl, hretiring, hfailed]
  | false =>
    rw [if_neg Bool.false_ne_true]
    exact iff_of_true (kept_active (h.retiring raises) (hretiring.mpr hfailed) raises) rfl

theorem kept_initializeAll_iff (h : Tracked w) (hkept : Kept w)
    (raisesShutdown raisesInitialize : Adapter → Bool) :
    Kept (w.next (w.pool.initializeAll raisesShutdown raisesInitialize)) ↔
      retiredFailed w raisesShutdown = false := by
  have hretiring := kept_retiring_iff h hkept raisesShutdown
  rw [← retiredFailed_iff h] at hretiring
  rw [next_initializeAll]
  cases hfailed : retiredFailed w raisesShutdown with
  | true =>
    rw [if_pos rfl, hretiring, hfailed]
  | false =>
    rw [if_neg Bool.false_ne_true]
    exact iff_of_true (kept_initializeActive (h.retiring raisesShutdown) (hretiring.mpr hfailed)
      raisesInitialize fun a ha => List.mem_append_right _ ha) rfl

/-- Nobody is missed by a `shutdown_all` in which no retired adapter raises. -/
theorem missed_eq_nil (h : Tracked w) (hkept : Kept w) {raises : Adapter → Bool}
    (hquiet : retiredFailed w raises = false) :
    (w.pool.owned.filter fun a => !decide (ShutDown w.events a) &&
      !attempted (w.pool.shutdownAll raises).2 a) = [] := by
  rw [List.filter_eq_nil_iff]
  intro a ha hmissed
  obtain ⟨hnot, hnone⟩ := (Bool.and_eq_true _ _).mp hmissed
  have hdown : ¬ ShutDown w.events a := by simpa using hnot
  have hunmarked : ¬ w.marked a := by
    intro hmarked
    cases hneeds : a.needsShutdown with
    | true => exact hdown ((hkept.marked_iff h ha hneeds).mp hmarked)
    | false => exact hdown (h.idle a ha hneeds hmarked)
  obtain ⟨succeeded, hin⟩ := (attempts_shutdownAll h hquiet a).mpr ⟨ha, hunmarked⟩
  unfold attempted at hnone
  cases succeeded with
  | true => simp [hin] at hnone
  | false => simp [hin] at hnone

/-- The step lemma: exactly the steps that meet the condition keep what is promised. -/
theorem good_step_iff (h : Tracked w) (hgood : Good w) {action : Action} {w' : World}
    (hstep : step w action = some w') : Good w' ↔ spares w action := by
  cases action with
  | getOrCreate key made =>
    have hmissed : w'.missed = w.missed := by
      have hmade : w.getOrCreate key made = some w' := hstep
      unfold World.getOrCreate at hmade
      split at hmade
      · cases hmade
        rfl
      · cases hmade
        rfl
      · split at hmade
        · cases hmade
        · cases hmade
          rfl
    exact iff_of_true ⟨kept_getOrCreate h hgood.toKept hstep, hmissed.trans hgood.attempted⟩ trivial
  | reset preserveTypes raises =>
    cases hstep
    rw [← kept_reset_iff h hgood.toKept]
    exact ⟨Good.toKept, fun hkept => ⟨hkept, hgood.attempted⟩⟩
  | initializeAll raisesShutdown raisesInitialize =>
    cases hstep
    have hiff := kept_initializeAll_iff h hgood.toKept raisesShutdown raisesInitialize
    rw [retiredFailed_iff h] at hiff
    exact ⟨fun hafter => hiff.mp hafter.toKept, fun hok => ⟨hiff.mpr hok, hgood.attempted⟩⟩
  | shutdownAll raises =>
    cases hstep
    have hiff := kept_shutdownAll_iff h hgood.toKept raises
    have hquiet := retiredFailed_iff h raises
    constructor
    · intro hafter
      have hnext : Kept (w.next (w.pool.shutdownAll raises)) :=
        ⟨hafter.once, hafter.between, hafter.kept⟩
      exact hquiet.mp (hiff.mp hnext)
    · intro hok
      have hnext := hiff.mpr (hquiet.mpr hok)
      refine ⟨⟨hnext.once, hnext.between, hnext.kept⟩, ?_⟩
      show w.missed ++ _ = []
      rw [missed_eq_nil h hgood.toKept (hquiet.mpr hok), hgood.attempted]
      rfl
  | closeAll raises =>
    cases hstep
    rw [← kept_closeAll_iff h hgood.toKept]
    exact ⟨Good.toKept, fun hkept => ⟨hkept, hgood.attempted⟩⟩

theorem good_init : Good init := ⟨⟨fun _ => Nat.zero_le _, justified_nil _, nofun⟩, rfl⟩

end Steps

/-- **Once and never forgotten**: exactly in the runs whose steps all meet the condition. -/
theorem pool_good_iff (actions : List Action) :
    (∀ k w, Machine.exec step init (actions.take k) = some w → Good w) ↔
      Machine.Along step spares init actions := by
  apply Machine.always_iff_along_of_step (J := Tracked) tracked_init
  · exact fun _ _ _ h hstep => h.step hstep
  · intro w action hnone
    cases action with
    | getOrCreate key made => trivial
    | reset preserveTypes raises => cases hnone
    | initializeAll raisesShutdown raisesInitialize => cases hnone
    | shutdownAll raises => cases hnone
    | closeAll raises => cases hnone
  · exact fun _ _ _ h hgood hstep => good_step_iff h hgood hstep
  · exact good_init

/-- A retired adapter whose `shutdown` raises once. -/
def stubborn : List Action :=
  [.getOrCreate "WIFI" (some ⟨0, 7, true, true, true⟩), .reset [] fun _ => false,
    .shutdownAll fun _ => true]

/-- The pool has let go of it: no later `shutdown_all` or `close_all` reaches it. -/
theorem pool_not_good :
    ¬ ∀ actions k w, Machine.exec step init (List.take k actions) = some w → Good w := by
  intro hall
  have hgood := (pool_good_iff stubborn).mp (hall stubborn)
  have hquiet := ((hgood.2 _ rfl).2 _ rfl).1
  exact absurd (hquiet ⟨0, 7, true, true, true⟩ (by decide) (by decide)) (by decide)

end NexusN3.Sensors.Pool
