import NexusN3.Gateway.LinkState
import NexusN3.Lib.Merging
import Mathlib.Data.List.ReduceOption

/-!
# What a scan returns

`GatewaySerialClient.scan`. The gateway reports every advertisement and every scan response of
a device as a message of its own. The loop merges what it has of a device with the message,
writes the merged device, and then writes the device once more, with the merged name but with
the rssi and the service uuids of the message alone.

* **`onResult`**, **`scanOnce`** — the body of the loop, and the loop.
* **`Merges`** — what a scan is to return for the messages.
* **`scanOnce_merges_iff`** — when it does: for each device, the last message has an rssi
  unless none has, and lists the uuids of the earlier ones first.

`_wait_for_message` ends the loop with a `TimeoutError` when nothing more comes in time; that
is the end of the queue here. Case conversion is a parameter, as it is in Unicode.
-/

namespace NexusN3.Gateway.Scan

open Lib Lib.Merging Lib.Jobs

/-! ## Messages -/

/-- The fields of a `scan_result` that the loop reads. -/
structure ScanResult (R : Type) where
  /-- The name as text; `none` when the message has no name. -/
  name : Option String
  address : Option String
  /-- `none` for an entry that is no text. -/
  serviceUuids : Option (List (Option String))
  rssi : Option R

inductive Message (R : Type) where
  | scanResult (requestId : String) (result : ScanResult R)
  | scanComplete (requestId : String)
  | other

structure DiscoveredDevice (R : Type) where
  address : String
  name : String
  rssi : Option R
  serviceUuids : List String
  raw : ScanResult R

/-! ## The loop -/

section Loop

variable {R : Type} (norm lower : String → String)

/-- `tuple(str(value).lower() for value in .. if isinstance(value, str))`. -/
def ScanResult.uuids (msg : ScanResult R) : List String :=
  (msg.serviceUuids.getD []).reduceOption.map lower

/-- The device as it is merged with what is there of it. -/
def merged (existing : Option (DiscoveredDevice R)) (address : String) (msg : ScanResult R) :
    DiscoveredDevice R :=
  let name := msg.name.getD ""
  match existing with
  | some device =>
    { address
      name := if name = "" then device.name else name
      rssi := if msg.rssi.isSome then msg.rssi else device.rssi
      serviceUuids := (device.serviceUuids ++ msg.uuids lower).eraseDups
      raw := msg }
  | none => { address, name, rssi := msg.rssi, serviceUuids := msg.uuids lower, raw := msg }

/-- The body of the loop at a `scan_result` of the request. -/
def onResult (nameFilter namePrefixFilter : Option String)
    (found : Dict String (DiscoveredDevice R)) (msg : ScanResult R) :
    Dict String (DiscoveredDevice R) :=
  let name := msg.name.getD ""
  if nameFilter.any (fun wanted => name ≠ wanted) then found
  else if namePrefixFilter.any (fun start => !start.toList.isPrefixOf name.toList) then found
  else
    let address := LinkState.normalizeAddress norm msg.address
    if address = "" then found
    else
      let device := merged lower (found.get? address) address msg
      let found := found.set address device
      -- only the name survives of the merging
      found.set address
        { address, name := device.name, rssi := msg.rssi, serviceUuids := msg.uuids lower
          raw := msg }

/-- `_scan_once` on the messages that come before the deadline; `none` is the `TimeoutError`. -/
def scanOnce (requestId : String) (nameFilter namePrefixFilter : Option String) :
    Dict String (DiscoveredDevice R) → List (Message R) → Option (List (DiscoveredDevice R))
  | _, [] => none
  | found, .scanResult id msg :: queue =>
    if id = requestId then
      scanOnce requestId nameFilter namePrefixFilter
        (onResult norm lower nameFilter namePrefixFilter found msg) queue
    else scanOnce requestId nameFilter namePrefixFilter found queue
  | found, .scanComplete id :: queue =>
    if id = requestId then some found.values
    else scanOnce requestId nameFilter namePrefixFilter found queue
  | found, .other :: queue => scanOnce requestId nameFilter namePrefixFilter found queue

end Loop

/-! ## What it is for -/

section Spec

variable {R : Type} (norm lower : String → String)

/-- The messages that name a device, with its address. -/
def sightings (results : List (ScanResult R)) : List (String × ScanResult R) :=
  results.filterMap fun msg =>
    let address := LinkState.normalizeAddress norm msg.address
    if address = "" then none else some (address, msg)

/-- The last value that is one. -/
def lastSome (values : List (Option R)) : Option R := values.reduceOption.getLast?

/-- The last name that is not empty, if there is one. -/
def lastName (messages : List (ScanResult R)) : String :=
  ((messages.map fun msg => msg.name.getD "").filter fun name => name ≠ "").getLast?.getD ""

/-- **Advertisements are merged**: one device for each address, in the order in which they
first came up, with all that the messages about it have said. -/
structure Merges (results : List (ScanResult R)) (devices : List (DiscoveredDevice R)) : Prop where
  addresses : devices.map DiscoveredDevice.address
    = ((sightings norm results).map Prod.fst).eraseDups
  serviceUuids : ∀ device ∈ devices, device.serviceUuids
    = ((about device.address (sightings norm results)).flatMap (ScanResult.uuids lower)).eraseDups
  rssi : ∀ device ∈ devices, device.rssi
    = lastSome ((about device.address (sightings norm results)).map ScanResult.rssi)
  name : ∀ device ∈ devices, device.name = lastName (about device.address (sightings norm results))

/-- The last of the messages about a device says all that the earlier ones say: it has an
rssi unless none has, repeats no uuid, and begins with theirs. -/
def LastSaysAll (messages : List (ScanResult R)) : Prop :=
  ∀ last ∈ messages.getLast?,
    (last.rssi ≠ none ∨ ∀ msg ∈ messages, msg.rssi = none)
      ∧ (last.uuids lower).Nodup
      ∧ (messages.dropLast.flatMap (ScanResult.uuids lower)).eraseDups <+: last.uuids lower

end Spec

/-! ## The loop is a merge -/

section Merge

variable {R : Type} (norm lower : String → String)

/-- The device that stays of a message about it. -/
def kept (existing : Option (DiscoveredDevice R)) (msg : ScanResult R) : DiscoveredDevice R :=
  let address := LinkState.normalizeAddress norm msg.address
  { address, name := (merged lower existing address msg).name, rssi := msg.rssi
    serviceUuids := msg.uuids lower, raw := msg }

theorem onResult_eq (found : Dict String (DiscoveredDevice R)) (msg : ScanResult R) :
    onResult norm lower none none found msg =
      let address := LinkState.normalizeAddress norm msg.address
      if address = "" then found
      else found.set address (kept norm lower (found.get? address) msg) := by
  rw [onResult, Option.any_none, if_neg (by decide), Option.any_none, if_neg (by decide)]
  simp only
  split
  · rfl
  · rw [found.set_set]
    rfl

/-- Without a filter, the loop over the messages of a request is a merge. -/
theorem scanOnce_eq (requestId : String) (results : List (ScanResult R))
    (found : Dict String (DiscoveredDevice R)) :
    scanOnce norm lower requestId none none found
        (results.map (.scanResult requestId) ++ [.scanComplete requestId])
      = some (merge (kept norm lower) found (sightings norm results)).values := by
  induction results generalizing found with
  | nil => exact if_pos rfl
  | cons msg results ih =>
      rw [List.map_cons, List.cons_append, scanOnce, if_pos rfl, ih, onResult_eq, sightings,
        sightings, List.filterMap_cons]
      by_cases haddress : LinkState.normalizeAddress norm msg.address = ""
      · simp only [if_pos haddress]
      · simp only [if_neg haddress]
        rfl

/-! ## One device -/

theorem kept_name (existing : Option (DiscoveredDevice R)) (msg : ScanResult R) :
    (kept norm lower existing msg).name = if msg.name.getD "" = "" then
      (existing.map DiscoveredDevice.name).getD "" else msg.name.getD "" := by
  cases existing with
  | none =>
      show msg.name.getD "" = _
      split
      · rename_i hname
        exact hname
      · rfl
  | some device => rfl

theorem lastName_concat (messages : List (ScanResult R)) (msg : ScanResult R) :
    lastName (messages ++ [msg])
      = if msg.name.getD "" = "" then lastName messages else msg.name.getD "" := by
  unfold lastName
  rw [List.map_append, List.filter_append, List.map_singleton]
  split
  · rename_i hname
    rw [List.filter_cons_of_neg (by simpa using hname), List.filter_nil, List.append_nil]
  · rename_i hname
    rw [List.filter_cons_of_pos (by simpa using hname), List.filter_nil, List.getLast?_concat]
    rfl

theorem lastSome_concat (values : List (Option R)) (value : Option R) :
    lastSome (values ++ [value]) = if value.isSome then value else lastSome values := by
  unfold lastSome
  rw [List.reduceOption_append]
  cases value with
  | none => exact congrArg List.getLast? (List.append_nil _)
  | some x => exact List.getLast?_concat

theorem lastSome_eq_none_iff {values : List (Option R)} :
    lastSome values = none ↔ ∀ value ∈ values, value = none := by
  rw [lastSome, List.getLast?_eq_none_iff]
  induction values with
  | nil => exact ⟨fun _ => nofun, fun _ => rfl⟩
  | cons value values ih =>
      cases value with
      | none => simp [ih]
      | some x => simp

theorem combineAll_concat (messages : List (ScanResult R)) (msg : ScanResult R) :
    combineAll (kept norm lower) none (messages ++ [msg])
      = some (kept norm lower (combineAll (kept norm lower) none messages) msg) :=
  List.foldl_concat ..

/-- The name is the only thing that reaches back. Induction on the messages, the last one
first. -/
theorem combineAll_name (messages : List (ScanResult R)) :
    ((combineAll (kept norm lower) none messages).map DiscoveredDevice.name).getD ""
      = lastName messages := by
  induction messages using List.reverseRecOn with
  | nil => rfl
  | append_singleton messages msg ih =>
      rw [combineAll_concat, Option.map_some, Option.getD_some, kept_name, ih, lastName_concat]

/-- The last message alone says what all of them say. -/
theorem lastSaysAll_concat_iff (messages : List (ScanResult R)) (msg : ScanResult R) :
    LastSaysAll lower (messages ++ [msg])
      ↔ msg.rssi = lastSome ((messages ++ [msg]).map ScanResult.rssi)
        ∧ msg.uuids lower
          = ((messages ++ [msg]).flatMap (ScanResult.uuids lower)).eraseDups := by
  have hrssi : msg.rssi = lastSome ((messages ++ [msg]).map ScanResult.rssi)
      ↔ msg.rssi ≠ none ∨ ∀ m ∈ messages ++ [msg], m.rssi = none := by
    rw [List.map_append, List.map_singleton, lastSome_concat]
    cases h : msg.rssi with
    | some x => simp
    | none =>
        have hnone : none = lastSome (messages.map ScanResult.rssi)
            ↔ ∀ m ∈ messages, m.rssi = none := by
          rw [eq_comm, lastSome_eq_none_iff, List.forall_mem_map]
        simp [hnone, h, or_imp, forall_and]
  have huuids : msg.uuids lower = ((messages ++ [msg]).flatMap (ScanResult.uuids lower)).eraseDups
      ↔ (msg.uuids lower).Nodup
        ∧ (messages.flatMap (ScanResult.uuids lower)).eraseDups <+: msg.uuids lower := by
    rw [List.flatMap_append, List.flatMap_singleton, eq_comm, eraseDups_append_eq_right_iff]
  rw [hrssi, huuids, LastSaysAll]
  simp only [List.getLast?_concat, List.dropLast_concat, Option.mem_def, Option.some.injEq,
    forall_eq']

/-! ## All of them -/

theorem address_of_mem {a : String} {msg : ScanResult R} {results : List (ScanResult R)}
    (h : (a, msg) ∈ sightings norm results) :
    LinkState.normalizeAddress norm msg.address = a := by
  obtain ⟨m, -, hm⟩ := List.mem_filterMap.mp h
  by_cases haddress : LinkState.normalizeAddress norm m.address = ""
  · simp only [if_pos haddress] at hm
    cases hm
  · simp only [if_neg haddress] at hm
    cases hm
    rfl

/-- An entry of the scan is what stays of the last message about its address. -/
theorem entry_eq {results : List (ScanResult R)} {a : String} {device : DiscoveredDevice R}
    (h : (a, device) ∈ (merge (kept norm lower) Dict.empty (sightings norm results)).entries) :
    ∃ messages msg, about a (sightings norm results) = messages ++ [msg]
      ∧ device = kept norm lower (combineAll (kept norm lower) none messages) msg
      ∧ device.address = a := by
  have hget := Dict.get?_eq_some_iff.mpr h
  rw [get?_merge, Dict.get?_empty] at hget
  rcases List.eq_nil_or_concat (about a (sightings norm results)) with hnil | ⟨messages, msg, hms⟩
  · rw [hnil] at hget
    cases hget
  · rw [List.concat_eq_append] at hms
    rw [hms, combineAll_concat] at hget
    cases hget
    refine ⟨messages, msg, hms, rfl, ?_⟩
    apply address_of_mem norm
    rw [← mem_about, hms]
    exact List.mem_append_right _ List.mem_cons_self

/-- **A scan merges the advertisements** it hears exactly when the last message about each
device says all that the earlier ones say of its rssi and its uuids. -/
theorem scanOnce_merges_iff (requestId : String) (results : List (ScanResult R)) :
    ∃ devices, scanOnce norm lower requestId none none Dict.empty
        (results.map (.scanResult requestId) ++ [.scanComplete requestId]) = some devices
      ∧ (Merges norm lower results devices
        ↔ ∀ a ∈ (sightings norm results).map Prod.fst,
          LastSaysAll lower (about a (sightings norm results))) := by
  refine ⟨_, scanOnce_eq norm lower requestId results Dict.empty, ?_⟩
  have hkeys := keys_merge (kept norm lower) (sightings norm results)
  generalize hfound : merge (kept norm lower) Dict.empty (sightings norm results) = found at hkeys ⊢
  have hentry {a : String} {device : DiscoveredDevice R} (h : (a, device) ∈ found.entries) :=
    entry_eq norm lower (hfound ▸ h)
  constructor
  · intro h a ha
    -- the address is a key, and the device under it is returned
    have hin : a ∈ found.keys := by
      rw [hkeys, List.mem_eraseDups]
      exact ha
    obtain ⟨⟨_, device⟩, hmem, rfl⟩ := List.mem_map.mp hin
    obtain ⟨messages, msg, hms, hdevice, haddress⟩ := hentry hmem
    have hvalue : device ∈ found.values := Dict.mem_values_iff.mpr ⟨_, hmem⟩
    have hrssi := h.rssi device hvalue
    have huuids := h.serviceUuids device hvalue
    rw [haddress, hms, hdevice] at hrssi huuids
    show LastSaysAll lower (about _ _)
    rw [hms]
    exact (lastSaysAll_concat_iff lower messages msg).mpr ⟨hrssi, huuids⟩
  · intro h
    have hall {device : DiscoveredDevice R} (hvalue : device ∈ found.values) :
        device.serviceUuids = ((about device.address (sightings norm results)).flatMap
            (ScanResult.uuids lower)).eraseDups
          ∧ device.rssi = lastSome ((about device.address (sightings norm results)).map
            ScanResult.rssi)
          ∧ device.name = lastName (about device.address (sightings norm results)) := by
      obtain ⟨a, hmem⟩ := Dict.mem_values_iff.mp hvalue
      obtain ⟨messages, msg, hms, hdevice, haddress⟩ := hentry hmem
      have hsays := h a (by
        rw [← List.mem_eraseDups, ← hkeys]
        exact List.mem_map.mpr ⟨_, hmem, rfl⟩)
      rw [hms] at hsays
      obtain ⟨hrssi, huuids⟩ := (lastSaysAll_concat_iff lower messages msg).mp hsays
      rw [haddress, hms, hdevice]
      refine ⟨huuids, hrssi, ?_⟩
      have hname := combineAll_name norm lower (messages ++ [msg])
      rw [combineAll_concat] at hname
      exact hname
    refine ⟨?_, fun d hd => (hall hd).1, fun d hd => (hall hd).2.1, fun d hd => (hall hd).2.2⟩
    rw [← hkeys]
    show (found.entries.map Prod.snd).map DiscoveredDevice.address = found.entries.map Prod.fst
    rw [List.map_map]
    apply List.map_congr_left
    rintro ⟨a, device⟩ hmem
    obtain ⟨-, -, -, -, haddress⟩ := hentry hmem
    exact haddress

end Merge

/-! ## A device that advertises and answers -/

/-- An advertisement with the uuid, and a scan response with the name. -/
def heard : List (ScanResult Int) :=
  [⟨none, some "A", some [some "180d"], some (-60)⟩, ⟨some "Strap", some "A", none, none⟩]

theorem not_merges_heard :
    ¬ ∀ (requestId : String) (results : List (ScanResult Int)),
      ∃ devices, scanOnce id id requestId none none Dict.empty
          (results.map (.scanResult requestId) ++ [.scanComplete requestId]) = some devices
        ∧ Merges id id results devices := by
  intro hall
  obtain ⟨devices, hscan, hmerges⟩ := hall "scan" heard
  have hreturned : scanOnce id id "scan" none none Dict.empty
      (heard.map (.scanResult "scan") ++ [.scanComplete "scan"])
      = some [⟨"A", "Strap", none, [], ⟨some "Strap", some "A", none, none⟩⟩] := by rfl
  rw [hreturned] at hscan
  cases hscan
  have hrssi := hmerges.rssi _ List.mem_cons_self
  exact absurd hrssi (by decide)

end NexusN3.Gateway.Scan
