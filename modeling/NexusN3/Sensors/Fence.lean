import NexusN3.Sensors.Manager

/-!
# The fence around an unresolved STOP

Once a stop or a cleanup has left a sensor unresolved, nothing connects it or starts it until a
recovery has released its address. The manager keeps this with `recovery_obligations`; it fails
where a client raises between the results and their entry there.

* **`Sound`** — the invariant: every fence that is up has its obligation.
* **`Heard`** — the turns in which no unresolved result is lost.
* **`fenced_of_heard`** — over a run of such turns the log is fenced.
-/

namespace NexusN3.Sensors

open Lib Lib.Jobs Lib.Fence Lib.Program Handler

variable {upper norm : String → String}

/-! ## The invariant -/

namespace Manager

/-- Every fence that is up has its obligation, and none has been crossed. -/
structure Sound (m : Manager) : Prop where
  owed : ∀ k, Up Deed.role m.log k → k ∈ m.recoveryObligations.keys
  fenced : Fenced Deed.role m.log

/-- Results are out and not all entered: `unresolved` are the addresses still to be entered, each
of an installed sensor. -/
structure Owing (upper : String → String) (unresolved : List (Option String)) (m : Manager) :
    Prop where
  owed : ∀ k, Up Deed.role m.log k →
    k ∈ m.recoveryObligations.keys ∨ k ∈ unresolved.map (addressKey upper)
  fenced : Fenced Deed.role m.log
  installed : ∀ a ∈ unresolved, ∃ i ∈ m.sensors, (m.heap i).address = a

/-- Each of the addresses has its obligation. -/
def Entered (upper : String → String) (unresolved : List (Option String)) (m : Manager) : Prop :=
  ∀ a ∈ unresolved, addressKey upper a ∈ m.recoveryObligations.keys

/-- Where what is owed has its obligation already, the fences are sound. -/
theorem Owing.sound {m : Manager} {unresolved : List (Option String)}
    (h : m.Owing upper unresolved) (hentered : m.Entered upper unresolved) : m.Sound where
  owed k hk := by
    rcases h.owed k hk with hk | hk
    · exact hk
    · obtain ⟨a, ha, rfl⟩ := List.mem_map.mp hk
      exact hentered a ha
  fenced := h.fenced

/-- The log is the same and no obligation is lost. -/
structure Quiet (m m' : Manager) : Prop where
  log : m'.log = m.log
  kept : ∀ k ∈ m.recoveryObligations.keys, k ∈ m'.recoveryObligations.keys

instance : IsPreorder Manager Quiet where
  refl _ := ⟨rfl, fun _ => id⟩
  trans _ _ _ h h' := ⟨h'.log.trans h.log, fun k hk => h'.kept k (h.kept k hk)⟩

theorem Quiet.sound {m m' : Manager} (h : Quiet m m') (hm : m.Sound) : m'.Sound where
  owed k hk := h.kept k (hm.owed k (by rwa [← h.log]))
  fenced := by
    rw [h.log]
    exact hm.fenced

theorem quiet_update (m : Manager) (i : SensorId) (f : Sensor → Sensor) : Quiet m (m.update i f) :=
  ⟨rfl, fun _ => id⟩

theorem quiet_retain (m : Manager) (key : String) (sensor : Option SensorId) :
    Quiet m (m.retain key sensor) := by
  unfold retain
  split
  · exact refl_of Quiet m
  · exact ⟨rfl, fun k hk => Dict.mem_keys_set.mpr (.inr hk)⟩

theorem quiet_foldl {τ : Type} {f : Manager → τ → Manager} (hf : ∀ m a, Quiet m (f m a))
    (as : List τ) (m : Manager) : Quiet m (as.foldl f m) := by
  induction as generalizing m with
  | nil => exact refl_of Quiet m
  | cons a as ih => exact trans_of Quiet (hf m a) (ih _)

/-! ### Entering obligations -/

/-- The obligation of an installed sensor is entered, and that is all. -/
theorem Owing.oblige {m : Manager} {a : Option String} {as : List (Option String)}
    (h : m.Owing upper (a :: as)) : (m.oblige upper a).Owing upper as := by
  obtain ⟨i, hi, haddress⟩ := h.installed a (.head _)
  unfold Manager.oblige
  split
  · rename_i j hfind
    have hj : (m.heap j).address = a := by simpa using List.find?_some hfind
    refine ⟨fun k hk => ?_, h.fenced, fun b hb => h.installed b (.tail _ hb)⟩
    rw [Dict.mem_keys_set, keyOf, hj]
    rcases h.owed k hk with hk | hk
    · exact .inl (.inr hk)
    · rcases List.mem_cons.mp hk with hk | hk
      · exact .inl (.inl hk)
      · exact .inr hk
  · rename_i hnone
    exact absurd (decide_eq_true haddress) (by simpa using List.find?_eq_none.mp hnone i hi)

theorem Owing.obligeAll {m : Manager} {as : List (Option String)} (h : m.Owing upper as) :
    (m.obligeAll upper as).Sound := by
  induction as generalizing m with
  | nil => exact h.sound (List.forall_mem_nil _)
  | cons a as ih => exact ih h.oblige

/-- Results come out: what they leave unresolved is owed. -/
theorem Sound.produced {m : Manager} (h : m.Sound) {as : List (Option String)} {heap : Heap}
    (hinstalled : ∀ a ∈ as, ∃ i ∈ m.sensors, (heap i).address = a) :
    ({ m.produced upper as with heap := heap }).Owing upper as := by
  have hraises : ∀ d ∈ as.map fun a => Deed.unresolved (addressKey upper a),
      ∃ k, d.role = (.raises, k) := by
    intro d hd
    obtain ⟨a, -, rfl⟩ := List.mem_map.mp hd
    exact ⟨_, rfl⟩
  obtain ⟨hfenced, hup⟩ := append_raises h.fenced hraises
  refine ⟨fun k hk => (hup k hk).imp (h.owed k) ?_, hfenced, hinstalled⟩
  rintro ⟨d, hd, hrole⟩
  obtain ⟨a, ha, rfl⟩ := List.mem_map.mp hd
  cases hrole
  exact List.mem_map_of_mem ha

end Manager

open Manager

/-! ## Stop and cleanup -/

theorem map_fst_withAwaits {τ : Type} (ids : List SensorId) (awaits : Nat → τ) :
    (withAwaits ids awaits).map Prod.fst = ids := by
  simp [withAwaits, List.map_map, Function.comp_def]

theorem mem_of_mem_addressed {m : Manager} {ids : List SensorId} {i : SensorId}
    {addresses : Option (List String)} (h : i ∈ m.addressed ids addresses) : i ∈ ids := by
  cases addresses with
  | none => exact h
  | some addresses => exact (List.mem_filter.mp h).1

/-- What a complete list of results leaves unresolved are addresses of installed sensors. -/
theorem installed_of_complete {τ ρ : Type} {address : ρ → Option String} {m : Manager}
    {targets : List (SensorId × τ)} {reports : List (SensorId × ρ)} {heap' : Heap}
    (htargets : ∀ i ∈ targets.map Prod.fst, i ∈ m.sensors)
    (hcomplete : Complete address m.heap targets reports)
    (hfollows : ∀ i, Follows (m.heap i) (heap' i)) {e : SensorId × ρ} (he : e ∈ reports) :
    ∃ i ∈ m.sensors, (heap' i).address = address e.2 :=
  ⟨e.1, htargets _ (hcomplete.perm.mem_iff.mp (List.mem_map_of_mem he)),
    (hfollows e.1).address.trans (hcomplete.addresses e he).symm⟩

/-- No unresolved result of the stop is lost: the client returns, or all of them have their
obligation already. The client is not called when the routing did not drain. -/
def StopCall.Heard (upper : String → String) (c : StopCall) (m : Manager) : Prop :=
  c.routingError.isSome ∨ c.client = none ∨ m.Entered upper (c.unresolved m)

/-- No unresolved result of the cleanup is lost: the `on_disconnected` client returns, or all of
them have their obligation already. -/
def CleanupCall.Heard (upper : String → String) (c : CleanupCall) (m : Manager) : Prop :=
  c.onDisconnected = none ∨ m.Entered upper (c.unresolved upper m)

theorem StopCall.targets_installed (c : StopCall) (m : Manager) :
    ∀ i ∈ (c.targets m).map Prod.fst, i ∈ m.sensors := by
  intro i hi
  rw [StopCall.targets, map_fst_withAwaits] at hi
  exact mem_of_mem_addressed hi

/-- Only what is unresolved in the results is owed. -/
theorem StopCall.unresolved_owing (c : StopCall) {m : Manager} (hm : m.Sound)
    {results : List (SensorId × StopResult)} {heap' : Heap}
    (hrun : stopTargets c.pool (c.targets m) m.heap = (.ok results, heap')) :
    ({ m.produced upper (unresolvedStops results) with heap := heap' }).Owing upper
      (unresolvedStops results) := by
  obtain ⟨hcomplete, hfollows⟩ := stopTargets_complete hrun
  refine hm.produced fun a ha => ?_
  obtain ⟨e, he, hea⟩ := List.mem_filterMap.mp ha
  split at hea
  · cases hea
  · rw [← Option.some.inj hea]
    exact installed_of_complete (c.targets_installed m) hcomplete hfollows he

/-- The service, heard out, leaves every unresolved sensor owed. -/
theorem StopCall.dispatch_owing (c : StopCall) {m : Manager} (hm : m.Sound)
    (hheard : c.client = none ∨ m.Entered upper (c.unresolved m)) :
    match (c.dispatch upper).exec m with
    | (.ok results, m') => m'.Owing upper (unresolvedStops results)
    | (.error _, m') => m'.Sound := by
  have hexec : (c.dispatch upper).exec m = ((stop c.pool c.client (c.targets m) m.heap).1,
      { m.produced upper (c.unresolved m) with
        heap := (stop c.pool c.client (c.targets m) m.heap).2 }) := rfl
  rw [hexec]
  unfold StopCall.unresolved stop at *
  match hrun : stopTargets c.pool (c.targets m) m.heap with
  | (.error e, heap') => exact (hm.produced (List.forall_mem_nil _)).sound (List.forall_mem_nil _)
  | (.ok results, heap') =>
    have howing : Owing upper (unresolvedStops results) _ := c.unresolved_owing hm hrun
    cases hclient : c.client with
    | none => exact howing
    | some e =>
      rw [hrun, hclient] at hheard
      exact howing.sound (hheard.resolve_left nofun)

theorem update_sensors (ids : List SensorId) (f : Sensor → Sensor)
    (hf : ∀ s, (f s).address = s.address) (m : Manager) :
    (ids.foldl (fun m i => m.update i f) m).sensors = m.sensors ∧
      ∀ j, ((ids.foldl (fun m i => m.update i f) m).heap j).address = (m.heap j).address := by
  induction ids generalizing m with
  | nil => exact ⟨rfl, fun _ => rfl⟩
  | cons i ids ih =>
    obtain ⟨hsensors, hheap⟩ := ih (m.update i f)
    refine ⟨hsensors, fun j => (hheap j).trans ?_⟩
    by_cases hij : j = i
    · subst hij
      simp [Manager.update, hf]
    · simp [Manager.update, hij]

theorem StopCall.isolate_owing (c : StopCall) (error : String) {m : Manager} (hm : m.Sound) :
    match (c.isolate upper error).exec m with
    | (.ok results, m') => m'.Owing upper (unresolvedStops results)
    | (.error _, m') => m'.Sound := by
  have hquiet := quiet_foldl (fun m i => quiet_update m i Sensor.quarantined)
    (m.addressed m.sensors c.addresses) m
  obtain ⟨hsensors, hheap⟩ :=
    update_sensors (m.addressed m.sensors c.addresses) Sensor.quarantined (fun _ => rfl) m
  refine (hquiet.sound hm).produced fun a ha => ?_
  obtain ⟨e, he, hea⟩ := List.mem_filterMap.mp ha
  obtain ⟨i, hi, rfl⟩ := List.mem_map.mp he
  rw [hsensors]
  exact ⟨i, mem_of_mem_addressed hi, (hheap i).trans (Option.some.inj hea)⟩

/-- A stop that is heard out keeps the fences. -/
theorem stopSensors_sound (c : StopCall) {m : Manager} (hm : m.Sound) (hheard : c.Heard upper m) :
    ((stopSensors upper c).exec m).2.Sound := by
  have hresults : match (c.results upper).exec m with
      | (.ok results, m') => m'.Owing upper (unresolvedStops results)
      | (.error _, m') => m'.Sound := by
    unfold StopCall.results
    cases hrouting : c.routingError with
    | some error => exact c.isolate_owing error hm
    | none => exact c.dispatch_owing hm (hheard.resolve_left (by simp [hrouting]))
  rw [stopSensors, exec_bind]
  match hrun : (c.results upper).exec m with
  | (.ok results, m') =>
    rw [hrun] at hresults
    exact hresults.obligeAll
  | (.error e, m') =>
    rw [hrun] at hresults
    exact hresults

theorem CleanupCall.targets_installed (c : CleanupCall) (m : Manager) :
    ∀ i ∈ (c.targets upper m).map Prod.fst, i ∈ m.sensors := by
  intro i hi
  rw [CleanupCall.targets, map_fst_withAwaits] at hi
  exact (List.mem_filter.mp hi).1

theorem CleanupCall.dispatch_owing (c : CleanupCall) {m : Manager} (hm : m.Sound) :
    match (c.dispatch upper).exec m with
    | (.ok results, m') =>
      m'.Owing upper (unresolvedCleanups results) ∧
        unresolvedCleanups results = c.unresolved upper m
    | (.error _, m') => m'.Sound := by
  refine ⟨hm.produced fun a ha => ?_, rfl⟩
  obtain ⟨e, he, hea⟩ := List.mem_filterMap.mp ha
  split at hea
  · rw [← Option.some.inj hea]
    exact installed_of_complete (c.targets_installed m) (cleanup_truthful _ m.heap).1
      (each_keeps follows_cleanupTarget _ m.heap) he
  · cases hea

/-- A cleanup that is heard out keeps the fences. -/
theorem cleanupSensors_sound (c : CleanupCall) {m : Manager} (hm : m.Sound)
    (hheard : c.Heard upper m) : ((cleanupSensors upper c).exec m).2.Sound := by
  have hdispatch : match (c.dispatch upper).exec m with
      | (.ok results, m') =>
        m'.Owing upper (unresolvedCleanups results) ∧
          unresolvedCleanups results = c.unresolved upper m
      | (.error _, m') => m'.Sound := c.dispatch_owing hm
  obtain ⟨howing, hunresolved⟩ := hdispatch
  rw [cleanupSensors, exec_bind]
  cases hfirst : c.onDisconnected with
  | some e =>
    rw [hunresolved] at howing
    exact howing.sound (hheard.resolve_left (by simp [hfirst]))
  | none => cases c.onCleanupComplete <;> exact howing.obligeAll

/-! ## Commands that record nothing -/

section Quiet

variable {α : Type}

theorem quiet_modify {f : Manager → Manager} (hf : ∀ m, Quiet m (f m)) :
    Keeps Quiet (modify f : Handler PUnit) := hf

theorem quiet_get : Keeps Quiet (get : Handler Manager) := fun m => refl_of Quiet m

theorem quiet_call (e : Option Raised) : Keeps Quiet (call e) := by
  cases e with
  | none => exact Keeps.pure _
  | some e => exact Keeps.throw _

theorem quiet_settle (ending : Ending α) : Keeps Quiet (settle ending) := by
  cases ending with
  | returned value => exact Keeps.pure _
  | raised e => exact Keeps.throw _
  | expired => exact Keeps.bind (quiet_modify fun _ => ⟨rfl, fun _ => id⟩) fun _ => Keeps.throw _

theorem quiet_boundedSettle (ending : Ending α) : Keeps Quiet (boundedSettle ending) := by
  cases ending with
  | returned value => exact Keeps.pure _
  | raised e => exact Keeps.throw _
  | expired => exact Keeps.throw _

theorem quiet_grouped {τ : Type} (pool : AdapterPool) (targets : List (SensorId × τ)) :
    Keeps Quiet (grouped pool targets) := fun m => refl_of Quiet m

theorem quiet_assign (ids : List SensorId) (addresses excluded : List String) :
    Keeps Quiet (assign norm ids addresses excluded) := by
  induction ids generalizing addresses excluded with
  | nil => exact Keeps.pure _
  | cons i ids ih =>
    cases addresses with
    | nil => exact Keeps.pure _
    | cons address addresses =>
      refine Keeps.ite (Keeps.throw _) ?_
      exact Keeps.bind (quiet_modify fun m => quiet_update m i _) fun _ => ih addresses _

theorem quiet_discoverGroups (d : DiscoverCall) (groups : List (String × List (SensorId × Unit)))
    (excluded : List String) (discovered : List SensorId) :
    Keeps Quiet (discoverGroups norm d groups excluded discovered) := by
  induction groups generalizing excluded discovered with
  | nil => exact Keeps.bind (quiet_call _) fun _ => Keeps.pure _
  | cons group groups ih =>
    refine Keeps.ite (ih _ _) (Keeps.bind (quiet_settle _) fun matched => ?_)
    cases matched with
    | none => exact Keeps.bind (quiet_call _) fun _ => Keeps.pure _
    | some addresses => exact Keeps.bind (quiet_assign _ _ _) fun _ => ih _ _

theorem quiet_discover (d : DiscoverCall) : Keeps Quiet (discover upper norm d) := by
  refine Keeps.bind quiet_get fun m => Keeps.ite (Keeps.pure _) ?_
  exact Keeps.bind (quiet_grouped _ _) fun _ => quiet_discoverGroups _ _ _ _

theorem quiet_disconnectOld (target : SensorId × Option (Awaited Bool)) :
    Keeps Quiet (disconnectOld target) := by
  unfold disconnectOld
  split
  · exact Keeps.pure _
  · refine Keeps.bind (quiet_modify fun m => quiet_update m _ _) fun _ =>
      Keeps.bind (quiet_boundedSettle _) fun _ => Keeps.ite ?_ (Keeps.pure _)
    exact quiet_modify fun m => quiet_update m _ _

theorem quiet_replaceConfiguration (c : ReinitializeCall) :
    Keeps Quiet (replaceConfiguration upper c) := by
  refine Keeps.bind (quiet_boundedSettle _) fun _ => Keeps.bind quiet_get fun m =>
    Keeps.bind (Keeps.forM fun target _ => quiet_disconnectOld target) fun _ => ?_
  refine Keeps.bind (quiet_modify fun m => quiet_foldl (fun m i => ?_) _ m) fun _ =>
    Keeps.bind (quiet_modify fun _ => ⟨rfl, fun _ => id⟩) fun _ => quiet_boundedSettle _
  split
  · exact refl_of Quiet m
  · exact quiet_update m i _

/-- A reconfiguration only adds obligations. -/
theorem quiet_reinitializeSensors (c : ReinitializeCall) :
    Keeps Quiet (reinitializeSensors upper c) := by
  refine Keeps.bind quiet_get fun previous => Keeps.bind (quiet_modify fun m =>
    quiet_foldl (fun m i => ?_) _ m) fun _ =>
      Keeps.tryCatch (quiet_replaceConfiguration c) fun e => ?_
  · split
    · exact quiet_retain m _ _
    · exact refl_of Quiet m
  · exact Keeps.bind (quiet_modify fun _ => ⟨rfl, fun _ => id⟩) fun _ => Keeps.throw _

end Quiet

/-! ## Connects and starts -/

/-- Only sensors of the list were connected or started, under the addresses they have, and no
obligation changed. -/
structure Uses (upper : String → String) (ids : List SensorId) (m m' : Manager) : Prop where
  obligations : m'.recoveryObligations = m.recoveryObligations
  addresses : ∀ i, (m'.heap i).address = (m.heap i).address
  log : ∃ deeds, m'.log = m.log ++ deeds ∧
    ∀ d ∈ deeds, ∃ i ∈ ids, d.role = (.crosses, m.keyOf upper i)

instance (ids : List SensorId) : IsPreorder Manager (Uses upper ids) where
  refl m := ⟨rfl, fun _ => rfl, [], (List.append_nil _).symm, List.forall_mem_nil _⟩
  trans m m' m'' h h' := by
    obtain ⟨deeds, hlog, hdeeds⟩ := h.log
    obtain ⟨deeds', hlog', hdeeds'⟩ := h'.log
    refine ⟨h'.obligations.trans h.obligations, fun i => (h'.addresses i).trans (h.addresses i),
      deeds ++ deeds', by rw [hlog', hlog, List.append_assoc], fun d hd => ?_⟩
    rcases List.mem_append.mp hd with hd | hd
    · exact hdeeds d hd
    · obtain ⟨i, hi, hrole⟩ := hdeeds' d hd
      exact ⟨i, hi, by rw [hrole, keyOf, keyOf, h.addresses i]⟩

/-- Sensors without an obligation may be used. -/
theorem Uses.sound {ids : List SensorId} {m m' : Manager} (h : Uses upper ids m m')
    (hm : m.Sound) (hfree : ∀ i ∈ ids, m.obliged upper i = false) : m'.Sound := by
  obtain ⟨deeds, hlog, hdeeds⟩ := h.log
  have hdown : ∀ d ∈ deeds, ∃ k, d.role = (.crosses, k) ∧ ¬Up Deed.role m.log k := by
    intro d hd
    obtain ⟨i, hi, hrole⟩ := hdeeds d hd
    exact ⟨_, hrole, fun hup => of_decide_eq_false (hfree i hi) (hm.owed _ hup)⟩
  obtain ⟨hfenced, hup⟩ := append_crossings hm.fenced hdown
  refine ⟨fun k hk => ?_, by rwa [hlog]⟩
  rw [h.obligations]
  rw [hlog, hup] at hk
  exact hm.owed k hk

section Uses

variable {α : Type} {ids : List SensorId}

theorem uses_modify {f : Manager → Manager} (hf : ∀ m, Uses upper ids m (f m)) :
    Keeps (Uses upper ids) (modify f : Handler PUnit) := hf

theorem uses_get : Keeps (Uses upper ids) (get : Handler Manager) :=
  fun m => refl_of (Uses upper ids) m

theorem uses_update (m : Manager) (i : SensorId) {f : Sensor → Sensor}
    (hf : ∀ s, (f s).address = s.address) : Uses upper ids m (m.update i f) := by
  refine ⟨rfl, fun j => ?_, [], (List.append_nil _).symm, List.forall_mem_nil _⟩
  by_cases hj : j = i
  · subst hj
    simp [Manager.update, hf]
  · simp [Manager.update, hj]

theorem uses_call (e : Option Raised) : Keeps (Uses upper ids) (call e) := by
  cases e with
  | none => exact Keeps.pure _
  | some e => exact Keeps.throw _

theorem uses_settle (ending : Ending α) : Keeps (Uses upper ids) (settle ending) := by
  cases ending with
  | returned value => exact Keeps.pure _
  | raised e => exact Keeps.throw _
  | expired =>
    refine Keeps.bind (uses_modify fun m => ?_) fun _ => Keeps.throw _
    exact ⟨rfl, fun _ => rfl, [], (List.append_nil _).symm, List.forall_mem_nil _⟩

theorem uses_awaitOn (i : SensorId) (a : Awaited α) : Keeps (Uses upper ids) (awaitOn i a) :=
  Keeps.bind (uses_modify fun m => uses_update m i fun _ => rfl) fun _ => uses_settle _

theorem uses_note {deed : String → Deed} (hdeed : ∀ k, (deed k).role = (.crosses, k))
    {i : SensorId} (hi : i ∈ ids) : Keeps (Uses upper ids) (note upper deed i) :=
  uses_modify fun m => ⟨rfl, fun _ => rfl, [deed (m.keyOf upper i)], rfl, fun d hd => by
    rw [List.mem_singleton.mp hd]
    exact ⟨i, hi, hdeed _⟩⟩

theorem uses_setUpConnected (target : SensorId × ConnectAwaits) :
    Keeps (Uses upper ids) (setUpConnected target) :=
  Keeps.bind uses_get fun _ => Keeps.ite (uses_awaitOn _ _) (Keeps.pure _)

theorem uses_connectGroup (c : ConnectCall) (group : String × List (SensorId × ConnectAwaits))
    (hgroup : ∀ target ∈ group.2, target.1 ∈ ids) :
    Keeps (Uses upper ids) (connectGroup upper c group) := by
  have hnote : ∀ target ∈ group.2, Keeps (Uses upper ids) (note upper .connected target.1) :=
    fun target htarget => uses_note (fun _ => rfl) (hgroup target htarget)
  refine Keeps.ite (Keeps.pure _) (Keeps.ite ?_ ?_)
  · refine Keeps.forM fun target htarget => Keeps.bind (hnote target htarget) fun _ => ?_
    exact Keeps.bind (uses_awaitOn _ _) fun _ => Keeps.ite (uses_setUpConnected _) (Keeps.pure _)
  · refine Keeps.bind (Keeps.forM fun target htarget =>
      Keeps.bind (hnote target htarget) fun _ => ?_) fun _ => Keeps.bind (uses_settle _) fun _ =>
        Keeps.forM fun target _ => uses_setUpConnected _
    exact uses_modify fun m => uses_update m _ fun _ => rfl

theorem uses_startOne (target : SensorId × Awaited Unit) (htarget : target.1 ∈ ids) :
    Keeps (Uses upper ids) (startOne upper target) := by
  have hnote : Keeps (Uses upper ids) (note upper .started target.1) :=
    uses_note (fun _ => rfl) htarget
  refine Keeps.bind uses_get fun m => Keeps.ite (Keeps.throw _) ?_
  refine Keeps.bind (uses_modify fun m => uses_update m _ fun _ => rfl) fun _ => Keeps.ite ?_ ?_
  · exact Keeps.bind hnote fun _ => uses_awaitOn _ _
  · exact Keeps.ite hnote (Keeps.pure _)

theorem uses_startGroup (c : StartCall) (group : String × List (SensorId × Awaited Unit))
    (hgroup : ∀ target ∈ group.2, target.1 ∈ ids) :
    Keeps (Uses upper ids) (startGroup upper c group) :=
  Keeps.bind (uses_call _) fun _ =>
    Keeps.forM fun target htarget => uses_startOne target (hgroup target htarget)

end Uses

/-- A group of targets holds targets only. -/
theorem grouped_mem {τ : Type} {pool : AdapterPool} {targets : List (SensorId × τ)}
    (P : Manager → Prop) :
    Triple P (grouped pool targets)
      (fun groups m => (∀ group ∈ groups, ∀ target ∈ group.2, target ∈ targets) ∧ P m)
      fun _ => P := by
  intro m hm
  have hexec : (grouped pool targets).exec m =
      ((pool.groupSensors m.heap targets).map Dict.entries, m) := rfl
  rw [hexec]
  cases hgroups : pool.groupSensors m.heap targets with
  | error e => exact hm
  | ok groups =>
    obtain rfl : groupBy (fun target => pool.key (m.heap target.1)) targets = groups :=
      Except.ok.inj ((AdapterPool.groupSensors_ok
        (AdapterPool.serves_of_groupSensors hgroups)).symm.trans hgroups)
    refine ⟨fun group hgroup target htarget => ?_, hm⟩
    exact (mem_flat_groupBy fun i => pool.key (m.heap i)).mp
      (List.mem_flatMap.mpr ⟨group, hgroup, htarget⟩)

/-- Sound, and none of the sensors has an obligation. -/
def Free (upper : String → String) (ids : List SensorId) (m : Manager) : Prop :=
  m.Sound ∧ ∀ i ∈ ids, m.obliged upper i = false

theorem Free.of_uses {ids : List SensorId} {m m' : Manager} (h : Uses upper ids m m')
    (hm : Free upper ids m) : Free upper ids m' :=
  ⟨h.sound hm.1 hm.2, fun i hi => by
    rw [obliged, keyOf, h.obligations, h.addresses i]
    exact hm.2 i hi⟩

/-- A command on groups of sensors without obligations. -/
theorem groups_sound {τ : Type} {pool : AdapterPool} {ids : List SensorId} {awaits : Nat → τ}
    {act : String × List (SensorId × τ) → Handler Unit} {client : Option Raised}
    (hact : ∀ group, (∀ target ∈ group.2, target.1 ∈ ids) → Keeps (Uses upper ids) (act group)) :
    Triple (Free upper ids)
      (do
        let groups ← grouped pool (withAwaits ids awaits)
        groups.forM act
        call client)
      (fun _ => Sound) fun _ => Sound := by
  have hends : ∀ m, Free upper ids m → m.Sound := fun m h => h.1
  refine ((grouped_mem _).weaken (fun _ h => h) (fun _ _ h => h) fun _ => hends).bind fun groups =>
    Triple.assume fun hgroups => ?_
  have hin : ∀ group ∈ groups, ∀ target ∈ group.2, target.1 ∈ ids := by
    intro group hgroup target htarget
    have hmem := List.mem_map_of_mem (f := Prod.fst) (hgroups group hgroup target htarget)
    rwa [map_fst_withAwaits] at hmem
  have hkeeps : Keeps (Uses upper ids) (do groups.forM act; call client : Handler Unit) :=
    Keeps.bind (Keeps.forM fun group hgroup => hact group (hin group hgroup)) fun _ => uses_call _
  exact (hkeeps.triple fun _ _ => Free.of_uses).weaken (fun _ h => h) (fun _ => hends)
    fun _ => hends

theorem ensureReconciled_free (ids : List SensorId) :
    Triple Sound (ensureReconciled upper ids) (fun _ => Free upper ids) fun _ => Sound := by
  refine Triple.bind Triple.get fun m => ?_
  cases hfind : ids.find? (m.obliged upper) with
  | some i => exact Triple.throw _ fun _ h => h.1
  | none =>
    refine Triple.pure _ fun m' hm' => ⟨hm'.1, fun i hi => ?_⟩
    rw [← hm'.2]
    simpa using List.find?_eq_none.mp hfind i hi

theorem connectSensors_sound (c : ConnectCall) (ids : List SensorId) :
    Keeps (Maintains Sound) (connectSensors upper c ids) :=
  ((ensureReconciled_free ids).bind fun _ =>
    groups_sound fun group hgroup => uses_connectGroup c group hgroup).maintains

theorem Keeps.quiet {α : Type} {m : Handler α} (h : Keeps Quiet m) : Keeps (Maintains Sound) m :=
  h.mono fun _ _ => Quiet.sound

theorem connect_sound (c : ConnectCall) (addresses : Option (List String)) :
    Keeps (Maintains Sound) (connect upper c addresses) :=
  Keeps.bind (Keeps.quiet quiet_get) fun _ => Keeps.ite (Keeps.pure _) (connectSensors_sound c _)

theorem discoverAndConnect_sound (d : DiscoverCall) (c : ConnectCall) :
    Keeps (Maintains Sound) (discoverAndConnect upper norm d c) :=
  Keeps.bind (Keeps.quiet (quiet_discover d)) fun _ =>
    Keeps.ite (Keeps.pure _) (connectSensors_sound c _)

theorem startSensors_sound (c : StartCall) :
    Keeps (Maintains Sound) (startSensors upper c) := by
  refine Triple.maintains (Triple.bind Triple.get fun m => ?_)
  refine Triple.pre (groups_sound fun group hgroup => uses_startGroup c group hgroup) ?_
  rintro m' ⟨hm', rfl⟩
  refine ⟨hm', fun i hi => ?_⟩
  have hconnected := (List.mem_filter.mp (mem_of_mem_addressed hi)).2
  simpa using (Bool.and_eq_true_iff.mp hconnected).2

/-! ## Recovery -/

/-- A release takes the obligation out and the fence down. -/
theorem release_sound (key : String) : Keeps (Maintains Sound) (release key) := by
  intro m hm
  refine ⟨fun k hk => ?_, fenced_snoc.mpr ⟨hm.fenced, nofun⟩⟩
  rcases up_snoc.mp hk with hraises | ⟨hup, hkept⟩
  · cases hraises
  · refine Dict.mem_keys_erase.mpr ⟨fun heq => hkept ?_, hm.owed k hup⟩
    rw [heq]
    rfl

theorem targetAt_sound (targets : Dict String (Option SensorId)) (key : String) :
    Keeps (Maintains Sound) (targetAt targets key) := by
  unfold targetAt
  split
  · exact Keeps.pure _
  · exact Keeps.throw _

theorem settleResult_sound (targets : Dict String (Option SensorId))
    (report : SensorId × RecoveryReport) :
    Keeps (Maintains Sound) (settleResult upper targets report) := by
  refine Keeps.ite ?_ ?_
  · exact Keeps.bind (release_sound _) fun _ =>
      Keeps.bind (targetAt_sound _ _) fun _ => Keeps.pure _
  · refine Keeps.bind (targetAt_sound _ _) fun sensor => Keeps.quiet (quiet_modify fun m => ?_)
    exact ⟨rfl, fun k hk => Dict.mem_keys_set.mpr (.inr hk)⟩

theorem retainLinks_sound (c : RecoverCall) (targets : Dict String (Option SensorId))
    (gateway : GatewayReport) : Keeps (Maintains Sound) (retainLinks upper c targets gateway) := by
  refine Keeps.quiet (quiet_modify fun m => quiet_foldl (fun m address => ?_) _ m)
  split
  · exact quiet_retain m _ _
  · exact refl_of Quiet m

theorem recover_sound (c : RecoverCall) : Keeps (Maintains Sound) (recover upper c) := by
  have hdispatch : Keeps Quiet (c.dispatch upper) := fun m => ⟨rfl, fun _ => id⟩
  refine Keeps.bind (Keeps.quiet quiet_get) fun m =>
    Keeps.bind (Keeps.quiet hdispatch) fun payload =>
      Keeps.bind (Keeps.forM fun report _ => settleResult_sound _ report) fun _ =>
        Keeps.bind (Keeps.forM fun gateway _ => retainLinks_sound c _ gateway) fun _ =>
          Keeps.bind (Keeps.quiet quiet_get) fun m' => Keeps.forM fun entry _ => ?_
  exact Keeps.ite (release_sound _) (Keeps.pure _)

/-! ## Runs -/

/-- No unresolved result of the turn is lost. -/
def Heard (upper : String → String) (m : Manager) : Turn → Prop
  | .message ⟨.stop c, _, _⟩ => c.Heard upper m
  | .message ⟨.cleanup c, _, _⟩ => c.Heard upper m
  | _ => True

theorem handle_sound (msg : Message) {m : Manager} (hm : m.Sound)
    (hheard : Heard upper m (.message msg)) :
    ((handle upper norm msg.command).exec m).2.Sound := by
  obtain ⟨command, completion, onError⟩ := msg
  cases command with
  | stop c => exact stopSensors_sound c hm hheard
  | cleanup c => exact cleanupSensors_sound c hm hheard
  | discover d => exact Keeps.quiet (Keeps.bind (quiet_discover d) fun _ => Keeps.pure _) m hm
  | connect c addresses => exact connect_sound c addresses m hm
  | discoverAndConnect d c => exact discoverAndConnect_sound d c m hm
  | start c => exact startSensors_sound c m hm
  | reinitializeSensors c => exact Keeps.quiet (quiet_reinitializeSensors c) m hm
  | recover c => exact recover_sound c m hm
  | other ending => exact Keeps.quiet (quiet_settle ending) m hm

/-- One turn keeps the fences. -/
theorem step_sound {m m' : Manager} {turn : Turn} (hheard : Heard upper m turn)
    (hstep : step upper norm m turn = some m') (hm : m.Sound) : m'.Sound := by
  cases turn with
  | touch i t =>
    cases hstep
    exact (quiet_update m i _).sound hm
  | message msg =>
    have hhandled : ((handle upper norm msg.command).exec m).2.Sound := handle_sound msg hm hheard
    simp only [step] at hstep
    split at hstep
    · cases hstep
    split at hstep
    · rename_i hrun
      rw [hrun] at hhandled
      rwa [← Option.some.inj hstep]
    · rename_i hrun
      rw [hrun] at hhandled
      split at hstep
      · rwa [← Option.some.inj hstep]
      · rw [← Option.some.inj hstep]
        exact ⟨hhandled.owed, hhandled.fenced⟩

/-- A manager before its first command, with any configuration. -/
def Manager.start (heap : Heap) (sensors : List SensorId) : Manager where
  heap := heap
  sensors := sensors

/-- **An unresolved STOP is fenced**, in every run whose turns lose no unresolved result. -/
theorem fenced_of_heard (upper norm : String → String) (heap : Heap) (sensors : List SensorId)
    {m : Manager} (hrun : Machine.Run (step upper norm) (Heard upper) (.start heap sensors) m) :
    Fenced Deed.role m.log := by
  have hstart : (Manager.start heap sensors).Sound := ⟨fun k hk => absurd hk not_up_nil, fenced_nil⟩
  exact (hrun.invariant hstart fun _ _ _ hheard hstep hm => step_sound hheard hstep hm).fenced

/-- A sensor that is measuring. -/
def measuringSensor : Sensor where
  address := some "AA:01"
  name := "imu"
  connectionStatus := .CONNECTED
  hasClient := true
  measurementCleanupPending := true

/-- The plugin refuses the STOP; the client may raise on `on_stream_stopped`. -/
def refusedStop (client : Option Raised) : Turn :=
  .message {
    command := .stop {
      pool := { upper := id }
      awaits := fun _ => { stopStream := ⟨.returned false, {}⟩ }
      client := client }
    completion := true }

def startAll : Turn := .message { command := .start { pool := { upper := id } } }

/-- With a client that returns, the start after a refused STOP finds nothing to start. -/
theorem fenced_of_heard_refusedStop :
    ∃ m, Machine.Reach (step id id) (.start (fun _ => measuringSensor) [0]) m ∧
      m.log = [.unresolved "AA:01"] ∧ Fenced Deed.role m.log := by
  refine ⟨_, .tail startAll (.tail (refusedStop none) .refl trivial rfl) trivial rfl, rfl, ?_⟩
  refine fenced_of_heard id id (fun _ => measuringSensor) [0] ?_
  exact .tail startAll (.tail (refusedStop none) .refl (.inr (.inl rfl)) rfl) trivial rfl

/-- With a client that raises, the start after a refused STOP starts the sensor. -/
theorem lostStop_started :
    ∃ m, Machine.Reach (step id id) (.start (fun _ => measuringSensor) [0]) m ∧
      m.log = [.unresolved "AA:01", .started "AA:01"] ∧ ¬Fenced Deed.role m.log := by
  refine ⟨_, .tail startAll (.tail (refusedStop (some (runtimeError "client"))) .refl trivial rfl)
    trivial rfl, rfl, fun hfenced => ?_⟩
  refine hfenced [.unresolved "AA:01"] (.started "AA:01") [] rfl "AA:01" rfl ?_
  exact ⟨[], .unresolved "AA:01", [], rfl, rfl, List.forall_mem_nil _⟩

end NexusN3.Sensors
