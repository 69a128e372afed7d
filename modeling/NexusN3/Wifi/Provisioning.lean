import NexusN3.Wifi.Identities

/-!
# Provisioning the devices that are missing

A discovery polls the drivers of each group. As long as a group has fewer devices than it was asked
for, one more is provisioned: the drivers claim access points of a scan, the radio connects to one
that nobody else claims, the driver identifies the device there and provisions it, and the group is
polled until the device has rejoined.

* **`Environment`** — what the backend and the drivers answer; a provisioning has the answers of its
  round.
* **`provisionGroup`** — the loop of a group. Each round that goes through makes the group larger.
* **`Iteration`** — what a round did, for the transcript of the call.
* **`ProvisionsOnce`** — what one provisioning does (`provisionOne_spec`).
-/

namespace NexusN3.Wifi.Provisioning

open Lib

structure AccessPoint where
  id : String
  ssid : String
  bssid : String
  strength : Int
  deriving DecidableEq

/-- `WifiProvisioningCandidate`. -/
structure Candidate where
  accessPoint : AccessPoint
  confidence : Int
  deriving DecidableEq

abbrev CandidateKey := String × String

/-- `_candidate_key`. -/
def candidateKey (accessPoint : AccessPoint) : CandidateKey :=
  (accessPoint.ssid, if accessPoint.bssid = "" then accessPoint.id else accessPoint.bssid)

/-! ## The answers -/

/-- What the drivers of a group report in one poll, each the addresses of its devices; `none` when
it raises, takes too long or reports no iterable. -/
abbrev GroupPoll := Nat → Option (List String)

inductive Classification where
  /-- The driver has no `classify_access_points`. -/
  | missing
  /-- It raises, or names an invalid candidate. -/
  | raised
  | claims (candidates : List Candidate)

inductive Identification where
  | missing
  | raised
  | identified (address : String)

inductive Provision where
  | missing
  | raised
  | provisioned (device : Option String)
  deriving DecidableEq

/-- What one provisioning meets. -/
structure Round where
  /-- `begin_provisioning` -/
  opened : Bool
  classify : GroupKey → Classification
  /-- `connect_temporary` -/
  connected : Bool
  identify : Identification
  provision : Provision
  /-- `restore_ap` -/
  restored : Bool
  /-- the polls after it, those before the deadline -/
  polls : List GroupPoll

structure Environment where
  /-- `_ensure_ready` -/
  ready : Bool
  apPassword : Bool
  initial : GroupKey → GroupPoll
  rounds : Nat → Round

/-! ## One group's poll -/

/-- The devices merged by address, and sorted. -/
def sortedDevices (addresses : List String) : List String :=
  addresses.dedup.mergeSort fun a b => decide (a ≤ b)

/-- `_discover_group`. A device without an address is invalid. -/
def discoverGroup (group : RequestGroup) (poll : GroupPoll) : Option (List String) :=
  match group.drivers.eraseDups.mapM poll with
  | none => none
  | some reports => if "" ∈ reports.flatten then none else some (sortedDevices reports.flatten)

/-- `_discover_groups`. -/
def discoverGroups (initial : GroupKey → GroupPoll) :
    List RequestGroup → Option (GroupKey → List String)
  | [] => some fun _ => []
  | group :: groups =>
    match discoverGroup group (initial group.key), discoverGroups initial groups with
    | some devices, some rest => some (Function.update rest group.key devices)
    | _, _ => none

/-! ## One provisioning -/

abbrev Claims := Dict CandidateKey (List (GroupKey × Candidate))

/-- `claims.setdefault(candidate_key, []).append((group, candidate))`. -/
def addClaim (key : GroupKey) (claims : Claims) (candidate : Candidate) : Claims :=
  claims.set (candidateKey candidate.accessPoint)
    (((claims.get? (candidateKey candidate.accessPoint)).getD []) ++ [(key, candidate)])

/-- The groups' claims on the access points of the scan; `none` when a driver raises. -/
def collectClaims (classify : GroupKey → Classification) :
    Claims → List RequestGroup → Option Claims
  | claims, [] => some claims
  | claims, group :: groups =>
    match classify group.key with
    | .missing => collectClaims classify claims groups
    | .raised => none
    | .claims candidates =>
      collectClaims classify (candidates.foldl (addClaim group.key) claims) groups

/-- `len(claimed_groups) > 1`. -/
def claimedByMany (candidateClaims : List (GroupKey × Candidate)) : Bool :=
  decide (1 < (candidateClaims.map Prod.fst).dedup.length)

/-- Keys are compared text by text. -/
local instance : LawfulBEq CandidateKey := Prod.instLawfulBEq

def available (claims : Claims) (attempted : List CandidateKey) (target : GroupKey) :
    List Candidate :=
  (claims.entries.filter fun e => e.1 ∉ attempted).flatMap fun e =>
    (e.2.filter fun claim => claim.1 = target).map Prod.snd

/-- By strength, then by confidence, then by name. -/
def Candidate.less (a b : Candidate) : Bool :=
  decide (a.accessPoint.strength < b.accessPoint.strength) ||
    (decide (a.accessPoint.strength = b.accessPoint.strength) &&
      (decide (a.confidence < b.confidence) ||
        (decide (a.confidence = b.confidence) &&
          decide (a.accessPoint.ssid < b.accessPoint.ssid))))

/-- `max`: the first of the largest. -/
def best : Candidate → List Candidate → Candidate
  | candidate, [] => candidate
  | candidate, other :: rest => best (if candidate.less other then other else candidate) rest

/-- What a provisioning did. -/
structure Session where
  /-- The access point that the radio was connected to, and the groups that claim it. -/
  connection : Option (CandidateKey × List GroupKey) := none
  /-- Whom the driver identified there. -/
  identified : Option String := none
  /-- Whom `provision` was called for. -/
  provisioned : Option String := none

/-- The session once the driver has identified a device; the identity is `none` when it raises. -/
def provisionIdentified (round : Round) (session : Session) (known : List String)
    (address : String) : Session × Option String :=
  if address = "" then (session, none)
  else
    let session := { session with identified := some address }
    if address ∈ known then (session, none)
    else
      match round.provision with
      | .missing => (session, none)
      | .raised => ({ session with provisioned := some address }, none)
      | .provisioned device =>
        ({ session with provisioned := some address },
          if (∃ other ∈ device, other ≠ address) ∨ round.restored = false then none
          else some address)

/-- `_provision_one`, and `attempted_candidates` after it; no identity when it raises. -/
def provisionOne (round : Round) (allGroups : List RequestGroup) (target : GroupKey)
    (known : List String) (attempted : List CandidateKey) :
    Session × List CandidateKey × Option String :=
  if round.opened = false then ({}, attempted, none)
  else
    match collectClaims round.classify Dict.empty allGroups with
    | none => ({}, attempted, none)
    | some claims =>
      if claims.entries.any fun e => claimedByMany e.2 then ({}, attempted, none)
      else
        match available claims attempted target with
        | [] => ({}, attempted, none)
        | candidate :: rest =>
          let key := candidateKey (best candidate rest).accessPoint
          let session : Session :=
            { connection := some (key, ((claims.get? key).getD []).map Prod.fst) }
          let attempted := key :: attempted
          if round.connected = false then (session, attempted, none)
          else
            match round.identify with
            | .missing => (session, attempted, none)
            | .raised => (session, attempted, none)
            | .identified address =>
              let (session, identity) := provisionIdentified round session known address
              (session, attempted, identity)

/-- `_wait_for_group_rejoin`, and what the polls reported. -/
def waitForGroupRejoin (group : RequestGroup) (expectedIdentity : String) (expectedCount : Nat) :
    List GroupPoll → List (List String) × Option (List String)
  | [] => ([], none)
  | poll :: polls =>
    match discoverGroup group poll with
    | none => ([], none)
    | some devices =>
      if expectedIdentity ∈ devices ∧ expectedCount ≤ devices.length then ([devices], some devices)
      else
        let (reported, rejoined) := waitForGroupRejoin group expectedIdentity expectedCount polls
        (devices :: reported, rejoined)

/-! ## The loop -/

/-- One round of the loop, for the transcript. -/
structure Iteration where
  group : GroupKey
  session : Session
  /-- what the polls after it reported -/
  polls : List (List String)

/-- What the rounds of a call share. -/
structure Shared where
  knownIdentities : List String
  attemptedCandidates : List CandidateKey
  iterations : List Iteration

theorem length_of_rejoined {group : RequestGroup} {identity : String} {count : Nat}
    {polls : List GroupPoll} {devices : List String}
    (h : (waitForGroupRejoin group identity count polls).2 = some devices) :
    count ≤ devices.length := by
  induction polls with
  | nil => cases h
  | cons poll polls ih =>
    unfold waitForGroupRejoin at h
    cases hpoll : discoverGroup group poll with
    | none =>
      rw [hpoll] at h
      cases h
    | some reported =>
      rw [hpoll] at h
      dsimp only at h
      split at h
      · rename_i hall
        cases h
        exact hall.2
      · exact ih h

def requestedCount (group : RequestGroup) : Nat := group.members.length

/-- Whether some member is a sensor, not a name only. -/
def hasSensor (group : RequestGroup) : Bool := group.members.any fun member => member.sensor.isSome

/-- One round of the group's loop: the provisioning, and the polls after it. -/
def provisionRound (env : Environment) (allGroups : List RequestGroup) (group : RequestGroup)
    (shared : Shared) (devices : List String) : Shared × Option (List String) :=
  let round := env.rounds shared.iterations.length
  let (session, attempted, identity) := provisionOne round allGroups group.key
    shared.knownIdentities shared.attemptedCandidates
  match identity with
  | none =>
    (⟨shared.knownIdentities, attempted, shared.iterations ++ [⟨group.key, session, []⟩]⟩, none)
  | some identity =>
    let (reported, rejoined) := waitForGroupRejoin group identity
      (min (requestedCount group) (devices.length + 1)) round.polls
    (⟨identity :: shared.knownIdentities, attempted,
      shared.iterations ++ [⟨group.key, session, reported⟩]⟩, rejoined)

theorem length_of_provisionRound {env : Environment} {allGroups : List RequestGroup}
    {group : RequestGroup} {shared shared' : Shared} {devices devices' : List String}
    (h : provisionRound env allGroups group shared devices = (shared', some devices')) :
    min (requestedCount group) (devices.length + 1) ≤ devices'.length := by
  unfold provisionRound at h
  dsimp only at h
  split at h
  · cases h
  · exact length_of_rejoined (congrArg Prod.snd h)

/-- The loop of a group. A round that goes through leaves fewer devices missing. -/
def provisionGroup (env : Environment) (allGroups : List RequestGroup) (group : RequestGroup)
    (shared : Shared) (devices : List String) : Shared × Option (List String) :=
  if devices.length < requestedCount group then
    if env.apPassword = false ∨ hasSensor group = false then (shared, some devices)
    else
      match _h : provisionRound env allGroups group shared devices with
      | (shared, none) => (shared, none)
      | (shared, some devices) => provisionGroup env allGroups group shared devices
  else (shared, some devices)
termination_by requestedCount group - devices.length
decreasing_by
  have := length_of_provisionRound _h
  omega

def provisionGroups (env : Environment) (allGroups : List RequestGroup) :
    Shared → (GroupKey → List String) → List RequestGroup →
      Shared × Option (GroupKey → List String)
  | shared, devices, [] => (shared, some devices)
  | shared, devices, group :: groups =>
    match provisionGroup env allGroups group shared (devices group.key) with
    | (shared, none) => (shared, none)
    | (shared, some rejoined) =>
      provisionGroups env allGroups shared (Function.update devices group.key rejoined) groups

/-- Some group of sensors has fewer devices than it was asked for. -/
def countNotMet (env : Environment) (devices : GroupKey → List String)
    (groups : List RequestGroup) : Bool :=
  groups.any fun group => decide ((devices group.key).length < requestedCount group) &&
    (hasSensor group && env.apPassword)

/-- One call of `discover_devices`. -/
structure Call where
  adapter : WifiAdapter
  /-- what is returned; `none` when the call raises -/
  recorded : Option Recorded
  groups : List RequestGroup := []
  /-- what the first polls reported -/
  initial : GroupKey → List String := fun _ => []
  iterations : List Iteration := []

/-- A call that raises before its first polls are over. -/
def Call.ofPoll (result : WifiAdapter × Option Recorded) : Call :=
  { adapter := result.1, recorded := result.2 }

/-- `discover_devices`. -/
def discoverDevices (a : WifiAdapter) (env : Environment) (requested : List Requested) : Call :=
  if env.ready = false then { adapter := a, recorded := none }
  else
    match (resolveGroups a.drivers [] requested).2 with
    | none => .ofPoll (a.discoverDevices requested none)
    | some groups =>
      match discoverGroups env.initial groups with
      | none => .ofPoll (a.discoverDevices requested none)
      | some initial =>
        let (shared, devices) := provisionGroups env groups
          ⟨groups.flatMap fun group => initial group.key, [], []⟩ initial groups
        let poll := devices.bind fun devices =>
          if countNotMet env devices groups then none else some devices
        let result := a.discoverDevices requested poll
        { adapter := result.1
          recorded := result.2
          groups := groups
          initial := initial
          iterations := shared.iterations }

/-! ## The claims -/

/-- Every claim stands under the key of its access point. -/
def Keyed (claims : Claims) : Prop :=
  ∀ e ∈ claims.entries, ∀ claim ∈ e.2, candidateKey claim.2.accessPoint = e.1

theorem keyed_addClaim {claims : Claims} (hkeyed : Keyed claims) (key : GroupKey)
    (candidate : Candidate) : Keyed (addClaim key claims candidate) := by
  intro e he claim hclaim
  have hget := Dict.get?_eq_some_iff.mpr he
  unfold addClaim at hget
  rw [Dict.get?_set] at hget
  split at hget
  · rename_i hkey
    rw [← Option.some.inj hget, List.mem_append, List.mem_singleton] at hclaim
    rcases hclaim with hold | rfl
    · cases hfound : claims.get? (candidateKey candidate.accessPoint) with
      | none =>
        rw [hfound] at hold
        cases hold
      | some earlier =>
        rw [hfound] at hold
        rw [← hkey]
        exact hkeyed _ (Dict.get?_eq_some_iff.mp hfound) claim hold
    · exact hkey
  · exact hkeyed e (Dict.get?_eq_some_iff.mp hget) claim hclaim

theorem keyed_foldl {claims : Claims} (hkeyed : Keyed claims) (key : GroupKey)
    (candidates : List Candidate) : Keyed (candidates.foldl (addClaim key) claims) := by
  induction candidates generalizing claims with
  | nil => exact hkeyed
  | cons candidate candidates ih => exact ih (keyed_addClaim hkeyed key candidate)

theorem keyed_collectClaims {classify : GroupKey → Classification} {groups : List RequestGroup}
    {claims collected : Claims} (hkeyed : Keyed claims)
    (h : collectClaims classify claims groups = some collected) : Keyed collected := by
  induction groups generalizing claims with
  | nil =>
    cases h
    exact hkeyed
  | cons group groups ih =>
    unfold collectClaims at h
    split at h
    · exact ih hkeyed h
    · cases h
    · rename_i candidates _
      exact ih (keyed_foldl hkeyed group.key candidates) h

theorem best_mem (candidate : Candidate) (rest : List Candidate) :
    best candidate rest ∈ candidate :: rest := by
  induction rest generalizing candidate with
  | nil => exact List.mem_singleton_self candidate
  | cons other rest ih =>
    rw [best]
    split
    · exact List.mem_cons_of_mem _ (ih other)
    · rcases List.mem_cons.mp (ih candidate) with heq | hmem
      · rw [heq]
        exact List.mem_cons_self
      · exact List.mem_cons_of_mem _ (List.mem_cons_of_mem _ hmem)

/-- A candidate that is available has not been attempted. -/
theorem notMem_attempted {claims : Claims} (hkeyed : Keyed claims) {attempted : List CandidateKey}
    {target : GroupKey} {candidate : Candidate}
    (h : candidate ∈ available claims attempted target) :
    candidateKey candidate.accessPoint ∉ attempted := by
  obtain ⟨e, he, hcandidate⟩ := List.mem_flatMap.mp h
  obtain ⟨hentry, hfresh⟩ := List.mem_filter.mp he
  obtain ⟨claim, hclaim, rfl⟩ := List.mem_map.mp hcandidate
  rw [hkeyed e hentry claim (List.mem_of_mem_filter hclaim)]
  exact of_decide_eq_true hfresh

/-- The claimants of a candidate, where no candidate is claimed by many. -/
theorem claimants_eq {claims : Claims}
    (hone : (claims.entries.any fun e => claimedByMany e.2) = false) (key : CandidateKey) :
    ∀ g ∈ ((claims.get? key).getD []).map Prod.fst,
      ∀ g' ∈ ((claims.get? key).getD []).map Prod.fst, g = g' := by
  cases hfound : claims.get? key with
  | none => exact fun g hg => by cases hg
  | some candidateClaims =>
    have hfew := List.any_eq_false.mp hone _ (Dict.get?_eq_some_iff.mp hfound)
    intro g hg g' hg'
    rw [Option.getD_some] at hg hg'
    have hlen : (candidateClaims.map Prod.fst).dedup.length ≤ 1 := by
      simpa [claimedByMany] using hfew
    rw [← List.mem_dedup] at hg hg'
    match hgroups : (candidateClaims.map Prod.fst).dedup, hlen with
    | [], _ =>
      rw [hgroups] at hg
      cases hg
    | [only], _ =>
      rw [hgroups, List.mem_singleton] at hg hg'
      exact hg.trans hg'.symm

/-! ## One provisioning -/

/-- What a provisioning does, given the identities that are known and the candidates attempted. -/
structure ProvisionsOnce (round : Round) (known : List String) (attempted : List CandidateKey)
    (result : Session × List CandidateKey × Option String) : Prop where
  attempts : result.2.1 = (result.1.connection.map Prod.fst).toList ++ attempted
  unattempted : ∀ connection, result.1.connection = some connection →
    connection.1 ∉ attempted ∧ ∀ key ∈ connection.2, ∀ other ∈ connection.2, key = other
  provisioned_iff : ∀ identity, result.1.provisioned = some identity ↔
    result.1.identified = some identity ∧ round.provision ≠ .missing ∧ identity ∉ known
  identified : ∀ identity, result.2.2 = some identity → result.1.identified = some identity

theorem provisionIdentified_spec (round : Round) {session : Session} (known : List String)
    (address : String) (hidentified : session.identified = none)
    (hprovisioned : session.provisioned = none) :
    let result := provisionIdentified round session known address
    result.1.connection = session.connection ∧
      (∀ identity, result.1.provisioned = some identity ↔
        result.1.identified = some identity ∧ round.provision ≠ .missing ∧ identity ∉ known) ∧
      ∀ identity, result.2 = some identity → result.1.identified = some identity := by
  unfold provisionIdentified
  dsimp only
  split
  · refine ⟨rfl, fun identity => ?_, nofun⟩
    rw [hidentified, hprovisioned]
    exact iff_of_false nofun fun h => nomatch h.1
  · split
    · rename_i hknown
      refine ⟨rfl, fun identity => ?_, nofun⟩
      rw [hprovisioned]
      refine iff_of_false nofun fun ⟨heq, _, hnew⟩ => hnew ?_
      rwa [← Option.some.inj heq]
    · rename_i hnew
      have hboth {provision : Provision} (hcan : provision ≠ .missing) (identity : String) :
          some address = some identity ↔
            some address = some identity ∧ provision ≠ .missing ∧ identity ∉ known := by
        refine ⟨fun heq => ⟨heq, hcan, ?_⟩, And.left⟩
        rwa [← Option.some.inj heq]
      cases hprovision : round.provision with
      | missing =>
        refine ⟨rfl, fun identity => ?_, nofun⟩
        rw [hprovisioned]
        exact iff_of_false nofun fun h => h.2.1 rfl
      | raised => exact ⟨rfl, hboth nofun, nofun⟩
      | provisioned device =>
        refine ⟨rfl, hboth nofun, fun identity hidentity => ?_⟩
        dsimp only at hidentity
        split at hidentity
        · cases hidentity
        · exact hidentity

theorem provisionOne_spec (round : Round) (allGroups : List RequestGroup) (target : GroupKey)
    (known : List String) (attempted : List CandidateKey) :
    ProvisionsOnce round known attempted
      (provisionOne round allGroups target known attempted) := by
  have hnothing : ProvisionsOnce round known attempted ({}, attempted, none) :=
    ⟨rfl, nofun, fun _ => iff_of_false nofun (fun h => nomatch h.1), nofun⟩
  unfold provisionOne
  split
  · exact hnothing
  · split
    · exact hnothing
    · rename_i claims hclaims
      split
      · exact hnothing
      · rename_i hmany
        split
        · exact hnothing
        · rename_i candidate rest havailable
          have hkeyed : Keyed claims := keyed_collectClaims (fun e he => by cases he) hclaims
          have hunattempted := notMem_attempted hkeyed (havailable ▸ best_mem candidate rest)
          have hone := claimants_eq (Bool.not_eq_true _ ▸ hmany)
            (candidateKey (best candidate rest).accessPoint)
          generalize candidateKey (best candidate rest).accessPoint = key at *
          have hconnected : ProvisionsOnce round known attempted
              ({ connection := some (key, ((claims.get? key).getD []).map Prod.fst) },
                key :: attempted, none) := by
            refine ⟨rfl, fun connection hconnection => ?_,
              fun _ => iff_of_false nofun (fun h => nomatch h.1), nofun⟩
            cases hconnection
            exact ⟨hunattempted, hone⟩
          dsimp only
          split
          · exact hconnected
          · split
            · exact hconnected
            · exact hconnected
            · rename_i address _
              obtain ⟨hconnection, hiff, hidentity⟩ := @provisionIdentified_spec round
                { connection := some (key, ((claims.get? key).getD []).map Prod.fst) }
                known address rfl rfl
              refine ⟨?_, fun connection heq => ?_, hiff, hidentity⟩
              · rw [hconnection]
                rfl
              · rw [hconnection] at heq
                exact hconnected.unattempted connection heq

end NexusN3.Wifi.Provisioning
