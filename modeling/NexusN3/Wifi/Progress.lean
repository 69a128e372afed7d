import NexusN3.Lib.Transcript
import NexusN3.Wifi.Provisioning

/-!
# A discovery that provisions makes progress

* **`Progressive`** — what is promised of a call.
* **`Ran`** — the invariant of the state that the rounds share; `Ran.provisionRound` is its step.
* **`provisionGroup_rule`** — the rule of the loop, by the devices that are missing.
* **`SparesRejoined`** — the condition on the drivers.
* **`progressive_iff`** — a call keeps its promises exactly under the condition.
-/

namespace NexusN3.Wifi.Provisioning

open Lib

/-! ## What is promised -/

/-- The identity has not been shown before: not by the first polls, by a poll after a provisioning
or by a provisioning. -/
def Unshown (call : Call) (before : List Iteration) (identity : String) : Prop :=
  (∀ group ∈ call.groups, identity ∉ call.initial group.key) ∧
    ∀ earlier ∈ before, identity ∉ earlier.polls.flatten ∧
      earlier.session.provisioned ≠ some identity

/-- The candidate that a round connected to. -/
def Iteration.connectedTo (iteration : Iteration) : Option CandidateKey :=
  iteration.session.connection.map Prod.fst

structure Progressive (a : WifiAdapter) (env : Environment) (call : Call) : Prop where
  /-- No group has more provisionings than it has devices missing at first. -/
  bounded : ∀ group ∈ call.groups, call.iterations.countP (fun it => it.group = group.key)
    ≤ requestedCount group - (call.initial group.key).length
  once : (call.iterations.filterMap Iteration.connectedTo).Nodup
  unambiguous : ∀ it ∈ call.iterations, ∀ connection, it.session.connection = some connection →
    ∀ key ∈ connection.2, ∀ other ∈ connection.2, key = other
  fresh : Justified (fun before it => ∀ identity, it.session.provisioned = some identity →
    Unshown call before identity) call.iterations
  distinct : ∀ recorded, call.recorded = some recorded →
    (recorded.flatMap fun r => r.2.map Prod.fst).Nodup ∧
      call.adapter.discovered.keys = recorded.flatMap fun r => r.2.map Prod.fst
  delivered : ∀ recorded, call.recorded = some recorded → env.apPassword = true →
    ∀ group ∈ call.groups, hasSensor group = true →
      ∃ devices, (group, devices) ∈ recorded ∧ requestedCount group ≤ devices.length
  unchanged : call.recorded = none → call.adapter.discovered = a.discovered

/-- A driver that can provision identifies no device that a poll after a provisioning has reported,
unless the first polls had reported it or a driver had identified it before. -/
def SparesRejoined (env : Environment) (call : Call) : Prop :=
  Justified (fun before it => ∀ identity, it.session.identified = some identity →
    (env.rounds before.length).provision ≠ .missing →
    (∃ earlier ∈ before, identity ∈ earlier.polls.flatten) →
    (∃ group ∈ call.groups, identity ∈ call.initial group.key) ∨
      ∃ earlier ∈ before, earlier.session.identified = some identity) call.iterations

/-! ## The transcript -/

/-- What holds of a round, given those before it. -/
structure Entry (env : Environment) (initial : List String) (before : List Iteration)
    (it : Iteration) : Prop where
  unattempted : ∀ key, it.connectedTo = some key → key ∉ before.filterMap Iteration.connectedTo
  unambiguous : ∀ connection, it.session.connection = some connection →
    ∀ key ∈ connection.2, ∀ other ∈ connection.2, key = other
  provisioned_iff : ∀ identity, it.session.provisioned = some identity ↔
    it.session.identified = some identity ∧ (env.rounds before.length).provision ≠ .missing ∧
      identity ∉ initial ∧ ∀ earlier ∈ before, earlier.session.identified ≠ some identity

/-- The rounds so far. The first polls reported `initial`. -/
structure Ran (env : Environment) (initial : List String) (shared : Shared) : Prop where
  known : ∀ identity, identity ∈ shared.knownIdentities ↔
    identity ∈ initial ∨ ∃ it ∈ shared.iterations, it.session.identified = some identity
  attempted : ∀ key ∈ shared.iterations.filterMap Iteration.connectedTo,
    key ∈ shared.attemptedCandidates
  entries : Justified (Entry env initial) shared.iterations

section Rounds

variable {env : Environment} {initial : List String} {allGroups : List RequestGroup}
  {group : RequestGroup} {shared shared' : Shared} {devices devices' : List String}

/-- What a session does next is an entry. -/
theorem Ran.entry (hran : Ran env initial shared)
    {result : Session × List CandidateKey × Option String}
    (h : ProvisionsOnce (env.rounds shared.iterations.length) shared.knownIdentities
      shared.attemptedCandidates result) (key : GroupKey) (polls : List (List String)) :
    Entry env initial shared.iterations ⟨key, result.1, polls⟩ := by
  refine ⟨fun candidate hcandidate hold => ?_, fun connection hconnection =>
    (h.unattempted connection hconnection).2, fun identity => ?_⟩
  · obtain ⟨connection, hconnection, rfl⟩ := Option.map_eq_some_iff.mp hcandidate
    exact (h.unattempted connection hconnection).1 (hran.attempted _ hold)
  · rw [h.provisioned_iff, hran.known, not_or]
    simp only [not_exists, not_and]

/-- The step lemma: a round adds an entry, and where it goes through, the invariant holds again. -/
theorem Ran.provisionRound (hran : Ran env initial shared) (allGroups : List RequestGroup)
    (group : RequestGroup) (devices : List String) :
    let result := provisionRound env allGroups group shared devices
    (∃ it, it.group = group.key ∧ result.1.iterations = shared.iterations ++ [it]) ∧
      Justified (Entry env initial) result.1.iterations ∧
      ∀ devices', result.2 = some devices' → Ran env initial result.1 := by
  have hspec := provisionOne_spec (env.rounds shared.iterations.length) allGroups group.key
    shared.knownIdentities shared.attemptedCandidates
  unfold Provisioning.provisionRound
  dsimp only
  generalize provisionOne (env.rounds shared.iterations.length) allGroups group.key
    shared.knownIdentities shared.attemptedCandidates = result at hspec
  obtain ⟨session, attempted, identity⟩ := result
  have hentry (polls : List (List String)) := hran.entry hspec group.key polls
  cases identity with
  | none =>
    refine ⟨⟨_, rfl, rfl⟩, justified_snoc.mpr ⟨hran.entries, hentry []⟩, nofun⟩
  | some identity =>
    dsimp only
    generalize waitForGroupRejoin group identity _ _ = waited
    refine ⟨⟨_, rfl, rfl⟩, justified_snoc.mpr ⟨hran.entries, hentry waited.1⟩, fun _ _ => ?_⟩
    refine ⟨fun other => ?_, fun key hkey => ?_, justified_snoc.mpr ⟨hran.entries, hentry _⟩⟩
    · have hidentified : session.identified = some identity := hspec.identified identity rfl
      rw [List.mem_cons, hran.known]
      simp only [List.mem_append, List.mem_singleton]
      constructor
      · rintro (rfl | hinitial | ⟨it, hit, heq⟩)
        · exact .inr ⟨_, .inr rfl, hidentified⟩
        · exact .inl hinitial
        · exact .inr ⟨it, .inl hit, heq⟩
      · rintro (hinitial | ⟨it, hit | rfl, heq⟩)
        · exact .inr (.inl hinitial)
        · exact .inr (.inr ⟨it, hit, heq⟩)
        · exact .inl (Option.some.inj (heq.symm.trans hidentified))
    · have hattempts : attempted = (session.connection.map Prod.fst).toList
          ++ shared.attemptedCandidates := hspec.attempts
      rw [List.filterMap_append, List.mem_append] at hkey
      show key ∈ attempted
      rw [hattempts, List.mem_append]
      rcases hkey with hold | hnew
      · exact .inr (hran.attempted key hold)
      · obtain ⟨it, hit, heq⟩ := List.mem_filterMap.mp hnew
        rw [List.mem_singleton] at hit
        subst hit
        exact .inl (Option.mem_toList.mpr heq)

theorem nodup_of_discoverGroup {poll : GroupPoll} (h : discoverGroup group poll = some devices) :
    devices.Nodup := by
  unfold discoverGroup at h
  split at h
  · cases h
  · split at h
    · cases h
    · cases h
      exact (List.mergeSort_perm _ _).nodup_iff.mpr (List.nodup_dedup _)

theorem nodup_of_rejoined {identity : String} {count : Nat} {polls : List GroupPoll}
    (h : (waitForGroupRejoin group identity count polls).2 = some devices) : devices.Nodup := by
  induction polls with
  | nil => cases h
  | cons poll polls ih =>
    unfold waitForGroupRejoin at h
    cases hpoll : discoverGroup group poll with
    | none =>
      rw [hpoll] at h
      cases h
    | some reported =>
      rw [hpoll] at h
      dsimp only at h
      split at h
      · cases h
        exact nodup_of_discoverGroup hpoll
      · exact ih h

theorem nodup_of_provisionRound
    (h : (provisionRound env allGroups group shared devices).2 = some devices') :
    devices'.Nodup := by
  unfold provisionRound at h
  dsimp only at h
  split at h
  · cases h
  · exact nodup_of_rejoined h

/-- Another round is made while the group is too small and may be provisioned. -/
def mayProvision (env : Environment) (group : RequestGroup) : Bool :=
  env.apPassword && hasSensor group

/-- What holds of a result: `I` where it goes through, `Q` where it raises. -/
def Ends (I : Shared → List String → Prop) (Q : Shared → Prop) :
    Shared × Option (List String) → Prop
  | (shared, none) => Q shared
  | (shared, some devices) => I shared devices

/-- The loop rule, by induction on the devices missing. -/
theorem provisionGroup_rule {I : Shared → List String → Prop} {Q : Shared → Prop}
    (hround : ∀ shared devices, I shared devices → devices.length < requestedCount group →
      Ends I Q (provisionRound env allGroups group shared devices))
    (hinit : I shared devices) :
    Ends (fun shared devices => I shared devices ∧
        (mayProvision env group = true → requestedCount group ≤ devices.length)) Q
      (provisionGroup env allGroups group shared devices) := by
  induction hmissing : requestedCount group - devices.length using Nat.strong_induction_on
    generalizing shared devices with
  | _ missing ih =>
    rw [provisionGroup]
    split
    · rename_i hfew
      split
      · rename_i hstop
        refine ⟨hinit, fun hmay => ?_⟩
        obtain ⟨hpassword, hsensor⟩ := (Bool.and_eq_true _ _).mp hmay
        rw [hpassword, hsensor] at hstop
        simp at hstop
      · have hnext := hround shared devices hinit hfew
        split
        · rename_i shared' hresult
          rw [hresult] at hnext
          exact hnext
        · rename_i shared' devices' hresult
          rw [hresult] at hnext
          have hlonger := length_of_provisionRound hresult
          exact ih _ (by omega) hnext rfl
    · rename_i henough
      exact ⟨hinit, fun _ => Nat.le_of_not_lt henough⟩

/-- How many rounds were made for a group. -/
def roundsFor (key : GroupKey) (shared : Shared) : Nat :=
  shared.iterations.countP fun it => it.group = key

/-- The rounds after those of `before`: at most `bound` of them, and all for one group. -/
structure Logged (env : Environment) (initial : List String) (key : GroupKey) (bound : Nat)
    (before after : Shared) : Prop where
  entries : Justified (Entry env initial) after.iterations
  others : ∀ other, other ≠ key → roundsFor other after = roundsFor other before
  own : roundsFor key after ≤ roundsFor key before + bound

/-- The loop of a group makes at most as many rounds as devices are missing. -/
theorem provisionGroup_spec (hran : Ran env initial shared) (hnodup : devices.Nodup) :
    Ends (fun shared' devices' =>
        (Ran env initial shared' ∧ devices'.Nodup ∧
          Logged env initial group.key (requestedCount group - devices.length) shared shared') ∧
        (mayProvision env group = true → requestedCount group ≤ devices'.length))
      (Logged env initial group.key (requestedCount group - devices.length) shared)
      (provisionGroup env allGroups group shared devices) := by
  -- the rounds made and those still allowed are no more than the devices missing at first
  have hrule := @provisionGroup_rule env allGroups group shared devices
    (fun shared' devices' => Ran env initial shared' ∧ devices'.Nodup ∧
      (∀ other, other ≠ group.key → roundsFor other shared' = roundsFor other shared) ∧
      roundsFor group.key shared' + (requestedCount group - devices'.length)
        ≤ roundsFor group.key shared + (requestedCount group - devices.length))
    (Logged env initial group.key (requestedCount group - devices.length) shared) ?_
    ⟨hran, hnodup, fun _ _ => rfl, Nat.le_refl _⟩
  · revert hrule
    cases provisionGroup env allGroups group shared devices with
    | mk shared' result =>
      cases result with
      | none => exact id
      | some devices' =>
        rintro ⟨⟨hran', hnodup', hothers, hown⟩, henough⟩
        exact ⟨⟨hran', hnodup', hran'.entries, hothers, by omega⟩, henough⟩
  · rintro shared' devices' ⟨hran', -, hothers, hown⟩ hfew
    obtain ⟨⟨it, hgroup, hiterations⟩, hentries, hnext⟩ :=
      hran'.provisionRound allGroups group devices'
    have hrounds (key : GroupKey) :
        roundsFor key (provisionRound env allGroups group shared' devices').1
          = roundsFor key shared' + if group.key = key then 1 else 0 := by
      unfold roundsFor
      rw [hiterations, List.countP_append, List.countP_singleton, hgroup]
      simp
    have hothers' (key : GroupKey) (hkey : key ≠ group.key) :
        roundsFor key (provisionRound env allGroups group shared' devices').1
          = roundsFor key shared := by
      rw [hrounds, if_neg (Ne.symm hkey), hothers key hkey, Nat.add_zero]
    have hown' := hrounds group.key
    rw [if_pos rfl] at hown'
    cases hresult : provisionRound env allGroups group shared' devices' with
    | mk shared'' result =>
      rw [hresult] at hentries hnext hothers' hown'
      dsimp only at hentries hothers' hown'
      cases result with
      | none => exact ⟨hentries, hothers', by omega⟩
      | some devices'' =>
        have hlonger := length_of_provisionRound hresult
        refine ⟨hnext devices'' rfl, nodup_of_provisionRound (congrArg Prod.snd hresult),
          hothers', ?_⟩
        omega

/-- After the groups: what was logged, and what each group of sensors has. -/
structure Provisioned (env : Environment) (initial : List String) (shared : Shared)
    (devices : GroupKey → List String) (groups : List RequestGroup)
    (result : Shared × Option (GroupKey → List String)) : Prop where
  entries : Justified (Entry env initial) result.1.iterations
  others : ∀ key, key ∉ groups.map RequestGroup.key →
    roundsFor key result.1 = roundsFor key shared
  own : ∀ group ∈ groups, roundsFor group.key result.1
    ≤ roundsFor group.key shared + (requestedCount group - (devices group.key).length)
  nodup : ∀ devices', result.2 = some devices' → ∀ key, (devices' key).Nodup
  kept : ∀ devices', result.2 = some devices' → ∀ key, key ∉ groups.map RequestGroup.key →
    devices' key = devices key
  enough : ∀ devices', result.2 = some devices' → ∀ group ∈ groups,
    mayProvision env group = true → requestedCount group ≤ (devices' group.key).length

/-- The groups one after another, each in its own rounds. -/
theorem provisionGroups_spec {groups : List RequestGroup} {devices : GroupKey → List String}
    (hran : Ran env initial shared) (hkeys : (groups.map RequestGroup.key).Nodup)
    (hnodup : ∀ key, (devices key).Nodup) :
    Provisioned env initial shared devices groups
      (provisionGroups env allGroups shared devices groups) := by
  induction groups generalizing shared devices with
  | nil =>
    refine ⟨hran.entries, fun _ _ => rfl, nofun, ?_, ?_, fun _ _ => nofun⟩
    · rintro _ ⟨⟩
      exact hnodup
    · rintro _ ⟨⟩ _ _
      rfl
  | cons group groups ih =>
    rw [List.map_cons, List.nodup_cons] at hkeys
    obtain ⟨hnotin, hrestkeys⟩ := hkeys
    have hgroup := @provisionGroup_spec env initial allGroups group shared (devices group.key) hran
      (hnodup group.key)
    have hne {other : RequestGroup} (hother : other ∈ groups) : other.key ≠ group.key :=
      fun heq => hnotin (heq ▸ List.mem_map_of_mem hother)
    unfold provisionGroups
    cases hresult : provisionGroup env allGroups group shared (devices group.key) with
    | mk shared' result =>
      rw [hresult] at hgroup
      cases result with
      | none =>
        have hlogged : Logged _ _ _ _ _ _ := hgroup
        refine ⟨hlogged.entries, fun key hkey => ?_, fun other hother => ?_, nofun, nofun, nofun⟩
        · rw [List.map_cons, List.mem_cons, not_or] at hkey
          exact hlogged.others key hkey.1
        · rcases List.mem_cons.mp hother with rfl | hother
          · exact hlogged.own
          · dsimp only
            rw [hlogged.others other.key (hne hother)]
            exact Nat.le_add_right _ _
      | some rejoined =>
        obtain ⟨⟨hran', hrejoined, hlogged⟩, henough⟩ := hgroup
        have hnodup' (key : GroupKey) : (Function.update devices group.key rejoined key).Nodup := by
          by_cases hkey : key = group.key
          · rw [hkey, Function.update_self]
            exact hrejoined
          · rw [Function.update_of_ne hkey]
            exact hnodup key
        have hrest := ih hran' hrestkeys hnodup'
        refine ⟨hrest.entries, fun key hkey => ?_, fun other hother => ?_, hrest.nodup,
          fun devices' hdevices key hkey => ?_, fun devices' hdevices other hother hmay => ?_⟩
        · rw [List.map_cons, List.mem_cons, not_or] at hkey
          exact (hrest.others key hkey.2).trans (hlogged.others key hkey.1)
        · rcases List.mem_cons.mp hother with rfl | hother
          · exact (hrest.others _ hnotin).le.trans hlogged.own
          · have hown := hrest.own other hother
            rw [hlogged.others other.key (hne hother), Function.update_of_ne (hne hother)] at hown
            exact hown
        · rw [List.map_cons, List.mem_cons, not_or] at hkey
          rw [hrest.kept devices' hdevices key hkey.2, Function.update_of_ne hkey.1]
        · rcases List.mem_cons.mp hother with rfl | hother
          · rw [hrest.kept devices' hdevices _ hnotin, Function.update_self]
            exact henough hmay
          · exact hrest.enough devices' hdevices other hother hmay

end Rounds

/-! ## The call -/

theorem nodup_of_discoverGroups {poll : GroupKey → GroupPoll} {groups : List RequestGroup}
    {devices : GroupKey → List String} (h : discoverGroups poll groups = some devices)
    (key : GroupKey) : (devices key).Nodup := by
  induction groups generalizing devices with
  | nil =>
    cases h
    exact List.nodup_nil
  | cons group groups ih =>
    unfold discoverGroups at h
    split at h
    · rename_i own rest hown hrest
      cases h
      by_cases hkey : key = group.key
      · rw [hkey, Function.update_self]
        exact nodup_of_discoverGroup hown
      · rw [Function.update_of_ne hkey]
        exact ih hrest
    · cases h

theorem groups_of_cached {devices : RequestGroup → List String} {c : Caching}
    {groups : List RequestGroup} {recorded : Recorded}
    (h : (cacheGroups devices c groups).2 = some recorded) : recorded.map Prod.fst = groups := by
  induction groups generalizing c recorded with
  | nil =>
    cases h
    rfl
  | cons group groups ih =>
    unfold cacheGroups at h
    split at h
    · cases h
    · obtain ⟨rest, hrest, rfl⟩ := Option.map_eq_some_iff.mp h
      rw [List.map_cons, ih hrest]

/-- A discovery that raises leaves the records, and one that goes through records each group. -/
theorem discoverDevices_cases (a : WifiAdapter) (requested : List Requested) (poll : Poll) :
    ((a.discoverDevices requested poll).2 = none ∧
      (a.discoverDevices requested poll).1.discovered = a.discovered) ∨
    ∃ recorded, (a.discoverDevices requested poll).2 = some recorded ∧
      (resolveGroups a.drivers [] requested).2 = some (recorded.map Prod.fst) := by
  unfold WifiAdapter.discoverDevices
  cases resolveGroups a.drivers [] requested with
  | mk drivers resolved =>
    cases resolved with
    | none => exact .inl ⟨rfl, rfl⟩
    | some groups =>
      cases groups with
      | nil => exact .inr ⟨[], rfl, rfl⟩
      | cons group groups =>
        cases poll with
        | none => exact .inl ⟨rfl, rfl⟩
        | some reported =>
          dsimp only
          split
          · exact .inl ⟨rfl, rfl⟩
          · split
            · exact .inl ⟨rfl, rfl⟩
            · rename_i recorded hcached
              refine .inr ⟨recorded, rfl, ?_⟩
              rw [groups_of_cached (congrArg Prod.snd hcached)]

/-- Without a last poll only an empty request goes through. -/
theorem not_recorded {a : WifiAdapter} {requested : List Requested} {groups : List RequestGroup}
    (hgroups : (resolveGroups a.drivers [] requested).2 = some groups) {recorded : Recorded}
    (h : (a.discoverDevices requested none).2 = some recorded) {group : RequestGroup} :
    group ∉ groups := by
  unfold WifiAdapter.discoverDevices at h
  generalize resolveGroups a.drivers [] requested = resolution at *
  obtain ⟨drivers, resolved⟩ := resolution
  cases hgroups
  cases groups with
  | nil => exact List.not_mem_nil
  | cons first groups => cases h

theorem addresses_recordedOf (identityDrivers : GroupKey → String → Option Nat)
    (devices : RequestGroup → List String) (groups : List RequestGroup) :
    ((recordedOf identityDrivers devices groups).flatMap fun r => r.2.map Prod.fst)
      = groups.flatMap devices := by
  unfold recordedOf
  rw [List.flatMap_map]
  congr 1
  funext group
  exact map_fst_zip_choices identityDrivers group (devices group)

/-- What a discovery records has distinct addresses, and these are the keys of the records. -/
theorem distinct_of_recorded {a : WifiAdapter} {requested : List Requested} {poll : Poll}
    {recorded : Recorded} (h : (a.discoverDevices requested poll).2 = some recorded) :
    (recorded.flatMap fun r => r.2.map Prod.fst).Nodup ∧
      (a.discoverDevices requested poll).1.discovered.keys
        = recorded.flatMap fun r => r.2.map Prod.fst := by
  by_cases hdiscovers : ∃ groups reported, a.Discovers requested poll groups reported
  · obtain ⟨groups, reported, hdiscovers⟩ := hdiscovers
    obtain ⟨hrecorded, hentries⟩ := hdiscovers.eq
    obtain rfl := Option.some.inj (h.symm.trans hrecorded)
    refine ⟨?_, ?_⟩
    · rw [addresses_recordedOf]
      exact hdiscovers.disjoint
    · unfold Dict.keys
      rw [hentries, List.map_flatMap]
      congr 1
      funext r
      exact map_fst_entriesOf r.1 r.2
  · simp only [not_exists] at hdiscovers
    rcases WifiAdapter.discoverDevices_of_not hdiscovers with hnone | ⟨hempty, hkeys⟩
    · rw [hnone] at h
      cases h
    · obtain rfl := Option.some.inj (h.symm.trans hempty)
      rw [hkeys]
      exact ⟨List.nodup_nil, rfl⟩

/-- A group has as many devices recorded as its last poll reported. -/
theorem recorded_of_reported {a : WifiAdapter} {requested : List Requested}
    {groups : List RequestGroup} (hgroups : (resolveGroups a.drivers [] requested).2 = some groups)
    {reported : GroupKey → List String} {recorded : Recorded}
    (h : (a.discoverDevices requested (some reported)).2 = some recorded)
    (hnodup : ∀ key, (reported key).Nodup) {group : RequestGroup} (hgroup : group ∈ groups) :
    ∃ devices, (group, devices) ∈ recorded ∧ devices.length = (reported group.key).length := by
  by_cases hdiscovers : ∃ groups reported', a.Discovers requested (some reported) groups reported'
  · obtain ⟨groups', reported', hdiscovers⟩ := hdiscovers
    obtain rfl := Option.some.inj (hgroups.symm.trans hdiscovers.resolved)
    obtain rfl := Option.some.inj hdiscovers.polled
    obtain rfl := Option.some.inj (h.symm.trans hdiscovers.eq.1)
    refine ⟨_, List.mem_map_of_mem hgroup, ?_⟩
    rw [← List.length_map (f := Prod.fst), map_fst_zip_choices]
    unfold devicesOf
    rw [List.length_mergeSort, (hnodup group.key).dedup]
  · simp only [not_exists] at hdiscovers
    rcases WifiAdapter.discoverDevices_of_not hdiscovers with hnone | ⟨hempty, -⟩
    · rw [hnone] at h
      cases h
    · obtain rfl := Option.some.inj (h.symm.trans hempty)
      rcases discoverDevices_cases a requested (some reported) with ⟨hnone, -⟩ | ⟨_, hsome, hall⟩
      · rw [hnone] at h
        cases h
      · obtain rfl := Option.some.inj (h.symm.trans hsome)
        obtain rfl := Option.some.inj (hgroups.symm.trans hall)
        cases hgroup

/-- Whoever is provisioned has been identified. -/
theorem identified_of_provisioned {env : Environment} {initial : List String}
    {iterations : List Iteration} (hentries : Justified (Entry env initial) iterations) :
    ∀ it ∈ iterations, ∀ identity, it.session.provisioned = some identity →
      it.session.identified = some identity :=
  (hentries.mono fun _ _ hentry identity hprovisioned =>
    ((hentry.provisioned_iff identity).mp hprovisioned).1).forall_mem

/-- No provisioning repeats what has been shown exactly if the drivers spare what has rejoined. -/
theorem fresh_iff {env : Environment} {initial : List String} {call : Call}
    (hentries : Justified (Entry env initial) call.iterations)
    (hinitial : ∀ identity, identity ∈ initial ↔
      ∃ group ∈ call.groups, identity ∈ call.initial group.key) :
    Justified (fun before it => ∀ identity, it.session.provisioned = some identity →
      Unshown call before identity) call.iterations ↔ SparesRejoined env call := by
  apply justified_congr
  intro before it after heq
  have hentry := hentries before it after heq
  apply forall_congr'
  intro identity
  rw [hentry.provisioned_iff, hinitial]
  constructor
  · rintro hfresh hidentified hcan ⟨earlier, hearlier, hreported⟩
    by_contra hnew
    obtain ⟨hnotinitial, hnotbefore⟩ := not_or.mp hnew
    have hunshown := hfresh ⟨hidentified, hcan, hnotinitial,
      fun other hother hsame => hnotbefore ⟨other, hother, hsame⟩⟩
    exact (hunshown.2 earlier hearlier).1 hreported
  · rintro hspares ⟨hidentified, hcan, hnotinitial, hnotbefore⟩
    refine ⟨fun group hgroup hshown => hnotinitial ⟨group, hgroup, hshown⟩,
      fun earlier hearlier => ⟨fun hreported => ?_, fun hprovisioned => ?_⟩⟩
    · rcases hspares hidentified hcan ⟨earlier, hearlier, hreported⟩ with hshown | hidentified'
      · exact hnotinitial hshown
      · obtain ⟨other, hother, hsame⟩ := hidentified'
        exact hnotbefore other hother hsame
    · have hin : earlier ∈ call.iterations := heq ▸ List.mem_append_left _ hearlier
      exact hnotbefore earlier hearlier
        (identified_of_provisioned hentries earlier hin identity hprovisioned)

/-- What holds of every call: all that is promised but for the identities, and the entries. -/
structure Sound (a : WifiAdapter) (env : Environment) (call : Call) : Prop where
  entries : Justified (Entry env (call.groups.flatMap fun group => call.initial group.key))
    call.iterations
  bounded : ∀ group ∈ call.groups, call.iterations.countP (fun it => it.group = group.key)
    ≤ requestedCount group - (call.initial group.key).length
  distinct : ∀ recorded, call.recorded = some recorded →
    (recorded.flatMap fun r => r.2.map Prod.fst).Nodup ∧
      call.adapter.discovered.keys = recorded.flatMap fun r => r.2.map Prod.fst
  delivered : ∀ recorded, call.recorded = some recorded → env.apPassword = true →
    ∀ group ∈ call.groups, hasSensor group = true →
      ∃ devices, (group, devices) ∈ recorded ∧ requestedCount group ≤ devices.length
  unchanged : call.recorded = none → call.adapter.discovered = a.discovered

theorem Sound.iff_spares {a : WifiAdapter} {env : Environment} {call : Call}
    (h : Sound a env call) : Progressive a env call ↔ SparesRejoined env call := by
  rw [← fresh_iff h.entries fun identity => List.mem_flatMap]
  constructor
  · exact Progressive.fresh
  · intro hfresh
    have honce : (call.iterations.filterMap Iteration.connectedTo).Nodup :=
      (h.entries.mono fun _ _ hentry => hentry.unattempted).nodup
    have hunambiguous := (h.entries.mono fun _ _ hentry => hentry.unambiguous).forall_mem
    exact ⟨h.bounded, honce, hunambiguous, hfresh, h.distinct, h.delivered, h.unchanged⟩

theorem sound_ofPoll {a : WifiAdapter} {requested : List Requested} (env : Environment) :
    Sound a env (.ofPoll (a.discoverDevices requested none)) := by
  refine ⟨justified_nil _, nofun, fun recorded => distinct_of_recorded, fun _ _ _ => nofun, ?_⟩
  intro hnone
  rcases discoverDevices_cases a requested none with ⟨-, hkept⟩ | ⟨recorded, hsome, -⟩
  · exact hkept
  · cases hnone.symm.trans hsome

theorem sound_discoverDevices (a : WifiAdapter) (env : Environment) (requested : List Requested) :
    Sound a env (discoverDevices a env requested) := by
  unfold discoverDevices
  split
  · exact ⟨justified_nil _, nofun, nofun, nofun, fun _ => rfl⟩
  · cases hgroups : (resolveGroups a.drivers [] requested).2 with
    | none => exact sound_ofPoll env
    | some groups =>
      dsimp only
      cases hinitial : discoverGroups env.initial groups with
      | none => exact sound_ofPoll env
      | some initial =>
        dsimp only
        have hran : Ran env (groups.flatMap fun group => initial group.key)
            ⟨groups.flatMap fun group => initial group.key, [], []⟩ :=
          ⟨fun identity => by simp, nofun, justified_nil _⟩
        have hspec := @provisionGroups_spec env _ groups _ groups initial hran
          (resolveGroups_nodup (by simp) hgroups) (nodup_of_discoverGroups hinitial)
        generalize provisionGroups env groups _ initial groups = result at hspec
        obtain ⟨shared, devices⟩ := result
        refine ⟨hspec.entries, fun group hgroup => ?_, fun recorded => distinct_of_recorded,
          fun recorded hrecorded hpassword group hgroup hsensor => ?_, fun hnone => ?_⟩
        · have hown := hspec.own group hgroup
          rwa [show roundsFor group.key ⟨_, [], []⟩ = 0 from rfl, Nat.zero_add] at hown
        · have hmay : mayProvision env group = true := by
            rw [mayProvision, hpassword, hsensor]
            rfl
          dsimp only at hrecorded hspec
          cases hpoll : devices.bind fun devices =>
              if countNotMet env devices groups then none else some devices with
          | none =>
            rw [hpoll] at hrecorded
            exact absurd hgroup (not_recorded hgroups hrecorded)
          | some reported =>
            rw [hpoll] at hrecorded
            obtain ⟨devices', rfl, hmet⟩ := Option.bind_eq_some_iff.mp hpoll
            split at hmet
            · cases hmet
            · cases hmet
              obtain ⟨recordedDevices, hin, hlen⟩ := recorded_of_reported hgroups hrecorded
                (hspec.nodup reported rfl) hgroup
              exact ⟨recordedDevices, hin, hlen ▸ hspec.enough reported rfl group hgroup hmay⟩
        · rcases discoverDevices_cases a requested _ with ⟨-, hkept⟩ | ⟨recorded, hsome, -⟩
          · exact hkept
          · cases hnone.symm.trans hsome

/-- **A call keeps its promises** exactly if the drivers spare what has rejoined. -/
theorem progressive_iff (a : WifiAdapter) (env : Environment) (requested : List Requested) :
    Progressive a env (discoverDevices a env requested) ↔
      SparesRejoined env (discoverDevices a env requested) :=
  (sound_discoverDevices a env requested).iff_spares

/-- A round that provisions a device for the group of a sensor. -/
def plainRound (name ssid address : String) (polls : List (List String)) : Round where
  opened := true
  classify := fun key => .claims (if key.2 = name then [⟨⟨"", ssid, ssid, 0⟩, 0⟩] else [])
  connected := true
  identify := .identified address
  provision := .provisioned none
  restored := true
  polls := polls.map fun devices _ => some devices

/-- After the first provisioning a device is reported that is then identified for the other group.
-/
def sharedEnvironment : Environment where
  ready := true
  apPassword := true
  initial := fun _ _ => some []
  rounds := fun n =>
    if n = 0 then plainRound "S" "x" "A" [["B"], ["A"]] else plainRound "T" "y" "B" [["B"]]

def sharedCall : Call :=
  discoverDevices ⟨fun _ => none, Dict.empty, fun _ _ => none⟩ sharedEnvironment
    [.sensor ⟨"S", "p", [], 1, none, false, none⟩, .sensor ⟨"T", "p", [], 2, none, false, none⟩]

/-- A device that a poll has reported is provisioned all the same. -/
theorem not_progressive : ¬ ∀ a env requested,
    Progressive a env (discoverDevices a env requested) := by
  intro h
  have hfresh : Justified (fun before it => ∀ identity, it.session.provisioned = some identity →
      Unshown sharedCall before identity) sharedCall.iterations := (h _ _ _).fresh
  have hshape : sharedCall.iterations.map (fun it => (it.session.provisioned, it.polls.flatten))
      = [(some "A", ["B", "A"]), (some "B", ["B"])] := by decide +kernel
  obtain ⟨first, rest, heq, hfirst, hrest⟩ := List.map_eq_cons_iff.mp hshape
  obtain ⟨second, rest, rfl, hsecond, -⟩ := List.map_eq_cons_iff.mp hrest
  have hunshown := hfresh [first] second rest heq "B" (congrArg Prod.fst hsecond)
  have hpolls : first.polls.flatten = ["B", "A"] := congrArg Prod.snd hfirst
  apply (hunshown.2 first (List.mem_singleton_self first)).1
  rw [hpolls]
  decide

end NexusN3.Wifi.Provisioning
