import NexusN3.Sensors.Discovery

/-!
# Discovery, in order

* **`Ran`** — a part of a discovery, with the sensors that it has given something.
* **`assign_ran`**, **`assignAll_ran`**, **`discoverAdapter_ran`**, **`discoverGroups_ran`** — one
  sensor, the sensors of an adapter, an adapter, and one adapter after another.
* **`discover_orderly`** — a discovery, however it ends.
-/

namespace NexusN3.Sensors.Discovery

open Lib Matching

variable {w : Surroundings}

/-- The sensors after what they have been given. -/
def giveAll (slots : List Slot) (assigned : List Assigned) : List Slot :=
  assigned.foldl (fun slots a => slots.modify a.slot a.give) slots

section Give

variable {slots : List Slot} {assigned : List Assigned} {i : Nat}

theorem getElem?_giveAll_of_notMem (h : i ∉ assigned.map Assigned.slot) :
    (giveAll slots assigned)[i]? = slots[i]? := by
  induction assigned generalizing slots with
  | nil => rfl
  | cons a assigned ih =>
    rw [List.map_cons, List.mem_cons, not_or] at h
    show (giveAll (slots.modify a.slot a.give) assigned)[i]? = _
    rw [ih h.2, List.getElem?_modify_ne _ _ (Ne.symm h.1)]

theorem getElem?_giveAll {a : Assigned} (hnodup : (assigned.map Assigned.slot).Nodup)
    (ha : a ∈ assigned) : (giveAll slots assigned)[a.slot]? = (slots[a.slot]?).map a.give := by
  induction assigned generalizing slots with
  | nil => cases ha
  | cons b assigned ih =>
    rw [List.map_cons, List.nodup_cons] at hnodup
    show (giveAll (slots.modify b.slot b.give) assigned)[a.slot]? = _
    rcases List.mem_cons.mp ha with rfl | hin
    · rw [getElem?_giveAll_of_notMem hnodup.1, List.getElem?_modify_eq]
      rfl
    · have hne : b.slot ≠ a.slot := fun heq => hnodup.1 (heq ▸ List.mem_map_of_mem hin)
      rw [ih hnodup.2 hin, List.getElem?_modify_ne _ _ hne]

end Give

/-! ## Parts of a discovery -/

structure Ran (w : Surroundings) (state state' : State) (assigned : List Assigned) : Prop where
  slots : state'.slots = giveAll state.slots assigned
  excluded : ∀ x, x ∈ state'.excludedAddresses ↔
    x ∈ state.excludedAddresses ∨ x ∈ assigned.map fun a => normalize w a.address
  fresh : ∀ a ∈ assigned, normalize w a.address ∉ state.excludedAddresses
  distinct : (assigned.map fun a => normalize w a.address).Nodup

theorem Ran.refl (state : State) : Ran w state state [] :=
  ⟨rfl, fun _ => by simp, nofun, List.nodup_nil⟩

theorem Ran.trans {state state' state'' : State} {first second : List Assigned}
    (h : Ran w state state' first) (h' : Ran w state' state'' second) :
    Ran w state state'' (first ++ second) where
  slots := by
    rw [h'.slots, h.slots]
    exact List.foldl_append.symm
  excluded := fun x => by rw [h'.excluded, h.excluded, List.map_append, List.mem_append, or_assoc]
  fresh := fun a ha => by
    rcases List.mem_append.mp ha with hfirst | hsecond
    · exact h.fresh a hfirst
    · exact fun hin => h'.fresh a hsecond ((h.excluded _).mpr (.inl hin))
  distinct := by
    rw [List.map_append]
    refine List.nodup_append.mpr ⟨h.distinct, h'.distinct, fun x hx y hy heq => ?_⟩
    obtain ⟨a, ha, rfl⟩ := List.mem_map.mp hy
    exact h'.fresh a ha ((h.excluded _).mpr (.inr (heq ▸ hx)))

/-- One sensor that is given something. -/
theorem Ran.single {state state' : State} {a : Assigned}
    (hslots : state'.slots = state.slots.modify a.slot a.give)
    (hexcluded : state'.excludedAddresses = normalize w a.address :: state.excludedAddresses)
    (hfresh : normalize w a.address ∉ state.excludedAddresses) : Ran w state state' [a] where
  slots := hslots
  excluded := fun x => by
    rw [hexcluded, List.mem_cons, List.map_singleton, List.mem_singleton, or_comm]
  fresh := fun b hb => by rwa [List.mem_singleton.mp hb]
  distinct := List.nodup_singleton _

/-- `register` changes neither the sensors nor the addresses. -/
theorem register_frame (state : State) (slot : Nat) :
    (register w state slot).1.slots = state.slots ∧
      (register w state slot).1.excludedAddresses = state.excludedAddresses ∧
      ((register w state slot).2 = true →
        (register w state slot).1.discoveredSensors = state.discoveredSensors ++ [slot]) := by
  unfold register
  split
  · exact ⟨rfl, rfl, fun _ => rfl⟩
  · exact ⟨rfl, rfl, nofun⟩

theorem mem_dropLast_append {α : Type} {xs ys : List α} {x : α} (h : x ∈ (xs ++ ys).dropLast) :
    x ∈ xs ∨ x ∈ ys.dropLast := by
  rcases List.eq_nil_or_concat ys with rfl | ⟨init, last, rfl⟩
  · rw [List.append_nil] at h
    exact .inl (List.mem_of_mem_dropLast h)
  · rw [List.concat_eq_append, ← List.append_assoc, List.dropLast_concat] at h
    rw [List.concat_eq_append, List.dropLast_concat]
    exact List.mem_append.mp h

/-- What an assignment of some of the sensors of a list leaves, and what it does when it goes
through. -/
structure Gave (w : Surroundings) (create : Option (Nat → Option Nat)) (slots : List Nat)
    (state : State) (result : State × Bool) (assigned : List Assigned) : Prop where
  ran : Ran w state result.1 assigned
  inOrder : assigned.map Assigned.slot <+: slots
  last : ∀ a ∈ assigned.dropLast, a.madeBy create
  through : result.2 = true → assigned.map Assigned.slot = slots ∧
    (∀ a ∈ assigned, a.madeBy create) ∧
      result.1.discoveredSensors = state.discoveredSensors ++ slots

theorem assign_gave (create : Option (Nat → Option Nat)) (state : State) (slot : Nat)
    (address : Option String) :
    ∃ assigned, Gave w create [slot] state (assign w create state slot address) assigned := by
  unfold assign
  split
  · exact ⟨[], .refl state, List.nil_prefix, nofun, nofun⟩
  · rename_i hfresh
    cases create with
    | none =>
      obtain ⟨hslots, hexcluded, hthrough⟩ :=
        @register_frame w (takeAddress w state slot address) slot
      refine ⟨[⟨slot, address, none⟩], .single hslots hexcluded hfresh, List.prefix_rfl, nofun,
        fun hok => ⟨rfl, ?_, hthrough hok⟩⟩
      intro a ha
      cases List.mem_singleton.mp ha
      rfl
    | some create =>
      dsimp only
      cases hclient : create slot with
      | none =>
        refine ⟨[⟨slot, address, none⟩], .single rfl rfl hfresh, List.prefix_rfl, ?_, ?_⟩
        · exact fun a ha => absurd ha List.not_mem_nil
        · exact fun hok => absurd hok Bool.false_ne_true
      | some client =>
        obtain ⟨hslots, hexcluded, hthrough⟩ :=
          @register_frame w (setTransportClient (takeAddress w state slot address) slot client) slot
        refine ⟨[⟨slot, address, some client⟩], .single ?_ hexcluded hfresh, List.prefix_rfl, nofun,
          fun hok => ⟨rfl, ?_, hthrough hok⟩⟩
        · exact hslots.trans (List.modify_modify_eq _ _ _ _)
        · intro a ha
          cases List.mem_singleton.mp ha
          exact ⟨client, hclient, rfl⟩

theorem assignAll_gave (create : Option (Nat → Option Nat)) (state : State)
    (pairs : List (Nat × Option String)) :
    ∃ assigned, Gave w create (pairs.map Prod.fst) state (assignAll w create state pairs)
      assigned := by
  induction pairs generalizing state with
  | nil =>
    exact ⟨[], .refl state, List.nil_prefix, nofun, fun _ => ⟨rfl, nofun, (List.append_nil _).symm⟩⟩
  | cons pair rest ih =>
    obtain ⟨slot, address⟩ := pair
    obtain ⟨first, hfirst⟩ := assign_gave (w := w) create state slot address
    unfold assignAll
    generalize assign w create state slot address = result at hfirst
    obtain ⟨state', succeeded⟩ := result
    cases succeeded with
    | false =>
      exact ⟨first, hfirst.ran, hfirst.inOrder.trans (List.prefix_append [slot] _), hfirst.last,
        nofun⟩
    | true =>
      obtain ⟨hslot, hmade, hdiscovered⟩ := hfirst.through rfl
      obtain ⟨second, hsecond⟩ := ih state'
      refine ⟨first ++ second, hfirst.ran.trans hsecond.ran, ?_, fun a ha => ?_, fun hthrough => ?_⟩
      · rw [List.map_append, hslot]
        exact (List.prefix_append_right_inj [slot]).mpr hsecond.inOrder
      · rcases mem_dropLast_append ha with hin | hin
        · exact hmade a hin
        · exact hsecond.last a hin
      · obtain ⟨hslots, hmade', hdiscovered'⟩ := hsecond.through hthrough
        refine ⟨?_, fun a ha => ?_, ?_⟩
        · rw [List.map_append, hslot, hslots]
          rfl
        · rcases List.mem_append.mp ha with hin | hin
          · exact hmade a hin
          · exact hmade' a hin
        · rw [hdiscovered', hdiscovered, List.append_assoc]
          rfl

/-! ## One adapter -/

/-- A list of matches that is valid has one for every sensor. -/
theorem attempt_slots {excludedAddresses : List String} {group : List Pending} {scan : Scan}
    {pairs : List (Nat × Option String)}
    (h : attempt w excludedAddresses group scan = .ok pairs) :
    pairs.map Prod.fst = group.map Prod.snd := by
  unfold attempt at h
  dsimp only at h
  split at h
  · rename_i hvalid
    cases h
    obtain ⟨own, hown⟩ := valid_iff.mp hvalid
    have hlength := congrArg List.length hown
    unfold chosen at hlength
    rw [length_serialChoice, List.length_map, List.length_map, List.length_map] at hlength
    have hkeys : (own.map some).reduceOption = own := by
      unfold List.reduceOption
      rw [List.filterMap_map]
      exact List.filterMap_some
    rw [hown, hkeys]
    apply List.map_fst_zip
    rw [List.length_map, List.length_map, hlength]
  · cases h

/-- The sensors that an adapter discovers, if it discovers. -/
def turn (adapter : Adapter) (group : List Pending) : List Nat :=
  if adapter.scans.isSome then group.map Prod.snd else []

structure Turned (w : Surroundings) (adapter : Adapter) (group : List Pending) (state : State)
    (result : State × Option Outcome) (assigned : List Assigned) : Prop where
  ran : Ran w state result.1 assigned
  inOrder : assigned.map Assigned.slot <+: turn adapter group
  last : ∀ a ∈ assigned.dropLast, a.madeBy adapter.create
  through : result.2 = none → assigned.map Assigned.slot = turn adapter group ∧
    (∀ a ∈ assigned, a.madeBy adapter.create) ∧
      result.1.discoveredSensors = state.discoveredSensors ++ turn adapter group
  /-- An adapter whose scans fail gives nothing. -/
  failed : ∀ outcome, result.2 = some outcome → outcome ≠ .assignRaised → assigned = []
  noSuccess : ∀ slots, result.2 ≠ some (.discovered slots)

theorem Turned.nothing {adapter : Adapter} {group : List Pending} {state : State}
    {outcome : Outcome} (houtcome : ∀ slots, outcome ≠ .discovered slots) :
    Turned w adapter group state (state, some outcome) [] :=
  ⟨.refl state, List.nil_prefix, nofun, nofun, fun _ _ _ => rfl,
    fun slots heq => houtcome slots (Option.some.inj heq)⟩

theorem giveOut_turned {adapter : Adapter} {group : List Pending} (hscans : adapter.scans.isSome)
    (state : State) {pairs : List (Nat × Option String)}
    (hpairs : pairs.map Prod.fst = group.map Prod.snd) :
    ∃ assigned, Turned w adapter group state (giveOut w adapter state pairs) assigned := by
  obtain ⟨assigned, hgave⟩ := assignAll_gave (w := w) adapter.create state pairs
  have hturn : turn adapter group = pairs.map Prod.fst := by rw [turn, if_pos hscans, hpairs]
  refine ⟨assigned, ?_⟩
  unfold giveOut
  generalize assignAll w adapter.create state pairs = result at hgave
  obtain ⟨state', succeeded⟩ := result
  cases succeeded with
  | true =>
    refine ⟨hgave.ran, hturn ▸ hgave.inOrder, hgave.last, fun _ => ?_, nofun, nofun⟩
    rw [hturn]
    exact hgave.through rfl
  | false =>
    refine ⟨hgave.ran, hturn ▸ hgave.inOrder, hgave.last, nofun, fun outcome heq hne => ?_, nofun⟩
    exact absurd (Option.some.inj heq).symm hne

theorem discoverAdapter_turned (adapter : Adapter) (group : List Pending) (state : State) :
    ∃ assigned, Turned w adapter group state (discoverAdapter w state adapter group) assigned := by
  unfold discoverAdapter
  cases hscans : adapter.scans with
  | none =>
    have hturn : turn adapter group = [] := by rw [turn, hscans]; rfl
    refine ⟨[], .refl state, List.nil_prefix, nofun, fun _ => ⟨hturn.symm, nofun, ?_⟩, nofun, nofun⟩
    rw [hturn, List.append_nil]
  | some scans =>
    have hsome : adapter.scans.isSome = true := by rw [hscans]; rfl
    obtain ⟨first, second⟩ := scans
    cases first with
    | none => exact ⟨[], .nothing nofun⟩
    | some first =>
      dsimp only
      cases hfirst : attempt w state.excludedAddresses group first with
      | ok pairs => exact giveOut_turned hsome state (attempt_slots hfirst)
      | error _ =>
        cases second with
        | none => exact ⟨[], .nothing nofun⟩
        | some second =>
          dsimp only
          cases hsecond : attempt w state.excludedAddresses group second with
          | ok pairs => exact giveOut_turned hsome state (attempt_slots hsecond)
          | error missing => exact ⟨[], .nothing nofun⟩

/-! ## One adapter after another -/

/-- The sensors whose turn comes. -/
def turns (w : Surroundings) (groups : List (String × List Pending)) : List Nat :=
  groups.flatMap fun e => turn (w.adapters e.1) e.2

def MadeIn (w : Surroundings) (groups : List (String × List Pending)) (a : Assigned) : Prop :=
  ∃ e ∈ groups, a.slot ∈ e.2.map Prod.snd ∧ a.madeBy (w.adapters e.1).create

structure Went (w : Surroundings) (groups : List (String × List Pending)) (state : State)
    (result : State × Outcome) (assigned : List Assigned) : Prop where
  ran : Ran w state result.1 assigned
  inOrder : assigned.map Assigned.slot <+: turns w groups
  last : ∀ a ∈ assigned.dropLast, MadeIn w groups a
  made : result.2 ≠ .assignRaised → ∀ a ∈ assigned, MadeIn w groups a
  whole : result.2 ≠ .assignRaised →
    ∃ done, done <+: groups ∧ assigned.map Assigned.slot = turns w done
  complete : ∀ slots, result.2 = .discovered slots → assigned.map Assigned.slot = turns w groups ∧
    slots = state.discoveredSensors ++ turns w groups

theorem mem_group_of_turn {adapter : Adapter} {group : List Pending} {i : Nat}
    (h : i ∈ turn adapter group) : i ∈ group.map Prod.snd := by
  unfold turn at h
  split at h
  · exact h
  · cases h

theorem MadeIn.tail {e : String × List Pending} {groups : List (String × List Pending)}
    {a : Assigned} (h : MadeIn w groups a) : MadeIn w (e :: groups) a := by
  obtain ⟨e', he', hmade⟩ := h
  exact ⟨e', List.mem_cons_of_mem _ he', hmade⟩

theorem discoverGroups_went (groups : List (String × List Pending)) (state : State) :
    ∃ assigned, Went w groups state (discoverGroups w state groups) assigned := by
  induction groups generalizing state with
  | nil =>
    refine ⟨[], .refl state, List.nil_prefix, nofun, fun _ => nofun, fun _ => ⟨[], ?_⟩, ?_⟩
    · exact ⟨List.nil_prefix, rfl⟩
    · intro slots hslots
      cases hslots
      exact ⟨rfl, (List.append_nil _).symm⟩
  | cons e rest ih =>
    obtain ⟨key, group⟩ := e
    obtain ⟨first, hfirst⟩ := discoverAdapter_turned (w := w) (w.adapters key) group state
    have hin {a : Assigned} (ha : a ∈ first) (hmade : a.madeBy (w.adapters key).create) :
        MadeIn w ((key, group) :: rest) a := by
      have hturn : a.slot ∈ turn (w.adapters key) group :=
        hfirst.inOrder.subset (List.mem_map_of_mem ha)
      exact ⟨_, List.mem_cons_self, mem_group_of_turn hturn, hmade⟩
    unfold discoverGroups
    generalize discoverAdapter w state (w.adapters key) group = result at hfirst
    obtain ⟨state', ended⟩ := result
    cases ended with
    | some outcome =>
      refine ⟨first, hfirst.ran, hfirst.inOrder.trans (List.prefix_append _ _), fun a ha => ?_,
        fun hne a ha => ?_, fun hne => ⟨[], List.nil_prefix, ?_⟩, fun slots heq => ?_⟩
      · exact hin (List.mem_of_mem_dropLast ha) (hfirst.last a ha)
      · rw [hfirst.failed outcome rfl hne] at ha
        cases ha
      · rw [hfirst.failed outcome rfl hne]
        rfl
      · exact absurd (congrArg some heq) (hfirst.noSuccess slots)
    | none =>
      obtain ⟨hslots, hmade, hdiscovered⟩ := hfirst.through rfl
      obtain ⟨second, hsecond⟩ := ih state'
      have hall {a : Assigned} (ha : a ∈ first) : MadeIn w ((key, group) :: rest) a :=
        hin ha (hmade a ha)
      refine ⟨first ++ second, hfirst.ran.trans hsecond.ran, ?_, fun a ha => ?_, fun hne a ha => ?_,
        fun hne => ?_, fun slots heq => ?_⟩
      · rw [List.map_append, hslots]
        exact (List.prefix_append_right_inj _).mpr hsecond.inOrder
      · rcases mem_dropLast_append ha with hold | hnew
        · exact hall hold
        · exact (hsecond.last a hnew).tail
      · rcases List.mem_append.mp ha with hold | hnew
        · exact hall hold
        · exact (hsecond.made hne a hnew).tail
      · obtain ⟨done, hdone, heq⟩ := hsecond.whole hne
        refine ⟨(key, group) :: done, (List.prefix_cons_inj _).mpr hdone, ?_⟩
        rw [List.map_append, hslots, heq]
        rfl
      · obtain ⟨hturns, hlist⟩ := hsecond.complete slots heq
        rw [List.map_append, hslots, hturns, hlist, hdiscovered, List.append_assoc]
        exact ⟨rfl, rfl⟩

/-! ## Whole discoveries -/

section Requests

variable {request : Request} {slots : List Slot}

theorem mem_pending {p : Pending} : p ∈ slots.zipIdx.filter request.pending ↔
    slots[p.2]? = some p.1 ∧ request.pending p = true := by
  rw [List.mem_filter, List.mem_zipIdx_iff_getElem?]

/-- The groups of a request. -/
def groupsOf (request : Request) (slots : List Slot) : List (String × List Pending) :=
  (Jobs.groupBy (fun p : Pending => p.1.adapter) (slots.zipIdx.filter request.pending)).entries

theorem mem_group_iff {e : String × List Pending} (he : e ∈ groupsOf request slots) {i : Nat} :
    i ∈ e.2.map Prod.snd ↔
      ∃ s, slots[i]? = some s ∧ request.pending (s, i) = true ∧ s.adapter = e.1 := by
  rw [Jobs.mem_groupBy he, List.mem_map]
  constructor
  · rintro ⟨⟨s, j⟩, hin, rfl⟩
    obtain ⟨hpending, hkey⟩ := List.mem_filter.mp hin
    obtain ⟨hs, hp⟩ := mem_pending.mp hpending
    exact ⟨s, hs, hp, of_decide_eq_true hkey⟩
  · rintro ⟨s, hs, hp, hkey⟩
    exact ⟨(s, i), List.mem_filter.mpr ⟨mem_pending.mpr ⟨hs, hp⟩, decide_eq_true hkey⟩, rfl⟩

/-- A sensor has its turn with its adapter exactly if it is asked for. -/
theorem mem_turn_iff {e : String × List Pending} (he : e ∈ groupsOf request slots) {i : Nat} :
    i ∈ turn (w.adapters e.1) e.2 ↔
      Asked w request slots i ∧ ∃ s, slots[i]? = some s ∧ s.adapter = e.1 := by
  unfold turn
  split
  · rename_i hscans
    rw [mem_group_iff he]
    constructor
    · rintro ⟨s, hs, hp, hkey⟩
      exact ⟨⟨s, hs, hp, hkey ▸ hscans⟩, s, hs, hkey⟩
    · rintro ⟨⟨s, hs, hp, -⟩, t, ht, hkey⟩
      cases hs.symm.trans ht
      exact ⟨s, hs, hp, hkey⟩
  · rename_i hnone
    refine iff_of_false List.not_mem_nil ?_
    rintro ⟨⟨s, hs, -, hscans⟩, t, ht, hkey⟩
    cases hs.symm.trans ht
    exact hnone (hkey ▸ hscans)

theorem mem_turns_iff {i : Nat} :
    i ∈ turns w (groupsOf request slots) ↔ Asked w request slots i := by
  unfold turns
  rw [List.mem_flatMap]
  constructor
  · rintro ⟨e, he, hi⟩
    exact ((mem_turn_iff he).mp hi).1
  · intro hasked
    obtain ⟨s, hs, hp, hscans⟩ := hasked
    obtain ⟨group, hgroup⟩ := @Jobs.exists_groupBy _ _ _ (fun p : Pending => p.1.adapter) _ _
      (mem_pending.mpr ⟨hs, hp⟩)
    exact ⟨_, hgroup, (mem_turn_iff hgroup).mpr ⟨⟨s, hs, hp, hscans⟩, s, hs, rfl⟩⟩

theorem nodup_turns : (turns w (groupsOf request slots)).Nodup := by
  apply Jobs.nodup_groups (f := fun key group => turn (w.adapters key) group) (g := Prod.snd)
  · intro key group
    unfold turn
    split
    · exact .inl rfl
    · exact .inr rfl
  · apply List.Nodup.sublist (List.filter_sublist.map Prod.snd)
    rw [List.zipIdx_map_snd]
    exact List.nodup_range'

/-- Adapters have their turn with all of their sensors. -/
theorem whole_turns {done : List (String × List Pending)} (hdone : done <+: groupsOf request slots)
    {i j : Nat} {s t : Slot} (hs : slots[i]? = some s) (ht : slots[j]? = some t)
    (hsame : s.adapter = t.adapter) (hj : Asked w request slots j) (hi : i ∈ turns w done) :
    j ∈ turns w done := by
  obtain ⟨e, he, hin⟩ := List.mem_flatMap.mp hi
  have hentry := hdone.subset he
  obtain ⟨-, s', hs', hkey⟩ := (mem_turn_iff hentry).mp hin
  cases hs.symm.trans hs'
  exact List.mem_flatMap.mpr ⟨e, he, (mem_turn_iff hentry).mpr ⟨hj, t, ht, hsame ▸ hkey⟩⟩

theorem furnished_of_madeIn {a : Assigned} (h : MadeIn w (groupsOf request slots) a) :
    a.furnished w slots := by
  obtain ⟨e, he, hin, hmade⟩ := h
  obtain ⟨s, hs, -, hkey⟩ := (mem_group_iff he).mp hin
  exact ⟨s, hs, hkey ▸ hmade⟩

/-- What is excluded by the request, and the addresses in use. -/
theorem mem_connectedAddresses {x : String} : x ∈ connectedAddresses w request slots ↔
    (∃ i s y, slots[i]? = some s ∧ request.settled (s, i) = true ∧ s.givenAddress = some y ∧
      w.upper y = x) ∨ ∃ y ∈ request.excluded, w.upper (strip y) = x := by
  unfold connectedAddresses
  rw [List.mem_append, List.mem_filterMap, List.mem_map]
  apply or_congr_left
  constructor
  · rintro ⟨⟨s, i⟩, hin, hx⟩
    obtain ⟨hs, hsettled⟩ := List.mem_filter.mp hin
    obtain ⟨y, hy, rfl⟩ := Option.map_eq_some_iff.mp hx
    exact ⟨i, s, y, List.mem_zipIdx_iff_getElem?.mp hs, hsettled, hy, rfl⟩
  · rintro ⟨i, s, y, hs, hsettled, hy, rfl⟩
    refine ⟨(s, i), List.mem_filter.mpr ⟨List.mem_zipIdx_iff_getElem?.mpr hs, hsettled⟩, ?_⟩
    rw [hy]
    rfl

theorem orderly_nothing {outcome : Outcome} (hsuccess : ∀ found, outcome = .discovered found →
    found = [] ∧ ∀ i, ¬ Asked w request slots i) :
    Orderly w request slots slots outcome [] where
  asked := nofun
  once := List.nodup_nil
  given := nofun
  unchanged := fun _ _ => rfl
  distinct := List.nodup_nil
  notExcluded := nofun
  notSettled := nofun
  complete := fun found heq =>
    ⟨(hsuccess found heq).1, fun i hi => absurd hi ((hsuccess found heq).2 i)⟩
  furnished := fun _ => nofun
  whole := fun _ _ _ _ _ _ _ _ _ _ => nofun
  last := nofun

theorem orderly_of_went {result : State × Outcome} {assigned : List Assigned}
    (h : Went w (groupsOf request slots) ⟨slots, connectedAddresses w request slots, []⟩ result
      assigned) : Orderly w request slots result.1.slots result.2 assigned := by
  have hnodup : (assigned.map Assigned.slot).Nodup := nodup_turns.sublist h.inOrder.sublist
  have hfresh := h.ran.fresh
  rw [h.ran.slots]
  refine ⟨fun a ha => ?_, hnodup, fun a ha => getElem?_giveAll hnodup ha,
    fun i hi => getElem?_giveAll_of_notMem hi, h.ran.distinct, fun a ha x hx heq => ?_,
    fun a ha i s x hs hsettled hx heq => ?_, fun found hfound => ?_, fun hne a ha => ?_,
    fun hne i j s t hs ht hsame _ hj hi => ?_, fun a ha => furnished_of_madeIn (h.last a ha)⟩
  · exact mem_turns_iff.mp (h.inOrder.subset (List.mem_map_of_mem ha))
  · exact hfresh a ha (mem_connectedAddresses.mpr (.inr ⟨x, hx, heq.symm⟩))
  · exact hfresh a ha (mem_connectedAddresses.mpr (.inl ⟨i, s, x, hs, hsettled, hx, heq.symm⟩))
  · obtain ⟨hslots, hlist⟩ := h.complete found hfound
    rw [List.nil_append] at hlist
    exact ⟨hlist.trans hslots.symm, fun i hi => hlist ▸ mem_turns_iff.mpr hi⟩
  · exact furnished_of_madeIn (h.made hne a ha)
  · obtain ⟨done, hdone, heq⟩ := h.whole hne
    rw [heq] at hi ⊢
    exact whole_turns hdone hs ht hsame hj hi

end Requests

/-- Everybody who is asked for has an address of its own, or nothing has changed. -/
def AllOrNothing (w : Surroundings) (request : Request) (before after : List Slot) : Prop :=
  (∀ i, Asked w request before i → ∃ s x, after[i]? = some s ∧ s.address = some x ∧
    (∀ j t y, j ≠ i → after[j]? = some t → t.address = some y → w.upper y ≠ w.upper x) ∧
    ∀ y ∈ request.excluded, w.upper y ≠ w.upper x) ∨ after = before

/-- Two sensors, the second one with an address from before. -/
def twoSlots (address : Option String) : List Slot :=
  [⟨⟨"dot", [], []⟩, "BLE", false, none, none, false⟩,
    ⟨⟨"belt", [], []⟩, "WIFI", false, address, none, false⟩]

/-- One device, which advertises nothing but its name. -/
def dotAlone : Scan where
  devices := ⟨[("AA", ⟨some "dot"⟩, ⟨none, []⟩)], by decide⟩
  address := some
  path := fun _ => none

/-- The first adapter finds its sensor, the second one does what is given. -/
def dotFound (second : Option (Option Scan × Option Scan)) : Surroundings where
  text := ⟨id, id⟩
  upper := id
  available := fun _ => true
  adapters := fun key =>
    if key = "BLE" then ⟨some (some dotAlone, none), none⟩ else ⟨second, none⟩
  registers := fun _ => true

end NexusN3.Sensors.Discovery
