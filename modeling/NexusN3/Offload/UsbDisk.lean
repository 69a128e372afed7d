import NexusN3.Lib.Machine
import NexusN3.Lib.Transcript

/-!
# The USB disk of a host

Where the outputs of a host go: to the disk at the hotplug path while there is one, else to the
fallback directory. A monitor thread looks for the disk now and then; every reader of `usb_path`
checks the path that is cached, and drops it when the disk does not answer. What the monitor last
saw is its own, so it does not notice what a reader drops.

* **`Manager`** — the manager with its disk, its monitor and the calls that are under way.
* **`step`** — what the disk, the callers and the monitor can do, one at a time.
* **`FollowsDisk`** — the outputs follow the disk, in every run whose steps meet a condition.
* **`stepped_of_step`** — what a step is for the monitor; **`Coherent.step`**, **`Kept.step`** — what
  it keeps; **`followsDisk_of_admitted`** — what whole runs keep.
-/

namespace NexusN3.Offload

open Lib

variable {P : Type}

/-- What is at the hotplug path. -/
structure Disk (P : Type) where
  mounted : Bool
  accessible : Bool
  writable : Bool
  /-- the output directory is there -/
  prepared : Bool
  /-- what the path of the output directory resolves to -/
  output : P
  deriving DecidableEq

/-- Mounted, accessible and writable. -/
def Disk.available (d : Disk P) : Bool := d.mounted && d.accessible && d.writable

structure Host (P : Type) where
  supportsHotdisk : Bool
  hotplugPath : P
  fallbackDir : P
  parent : P → P

/-- `_detect_usb_mount`. -/
def Host.detectUsbMount (host : Host P) (d : Disk P) : Option P :=
  if host.supportsHotdisk && d.mounted && d.accessible then some host.hotplugPath else none

/-- `_prepare_output_dir`: the disk with the output directory, if it can be written to. -/
def Disk.prepareOutputDir (d : Disk P) : Option (Disk P) :=
  if d.accessible && d.writable then some { d with prepared := true } else none

theorem detectUsbMount_eq_some {host : Host P} {d : Disk P} {path : P}
    (h : host.detectUsbMount d = some path) : path = host.hotplugPath ∧ d.mounted = true := by
  unfold Host.detectUsbMount at h
  split at h
  · rename_i hall
    simp only [Bool.and_eq_true] at hall
    exact ⟨(Option.some.inj h).symm, hall.1.2⟩
  · cases h

theorem detectUsbMount_of_available {host : Host P} {d : Disk P}
    (hhost : host.supportsHotdisk = true) (h : d.available = true) :
    host.detectUsbMount d = some host.hotplugPath := by
  simp only [Disk.available, Bool.and_eq_true] at h
  rw [Host.detectUsbMount, hhost, h.1.1, h.1.2]
  rfl

theorem prepareOutputDir_eq_some {d d' : Disk P} :
    d.prepareOutputDir = some d' ↔
      (d.accessible = true ∧ d.writable = true) ∧ d' = { d with prepared := true } := by
  unfold Disk.prepareOutputDir
  split
  · rename_i hall
    rw [Option.some.injEq, eq_comm]
    exact (and_iff_right (by simpa using hall)).symm
  · rename_i hall
    exact ⟨nofun, fun h => absurd (by simpa using h.1) hall⟩

/-- What has been found and prepared is the disk, with its directory. -/
theorem prepareOutputDir_of_detect {host : Host P} {d d' : Disk P}
    (h : ((host.detectUsbMount d).bind fun _ => d.prepareOutputDir) = some d') :
    d' = { d with prepared := true } := by
  obtain ⟨_, _, hprepare⟩ := Option.bind_eq_some_iff.mp h
  exact (prepareOutputDir_eq_some.mp hprepare).2

inductive Monitor (P : Type) where
  | unstarted
  /-- between its two reads of `_usb_output_path` -/
  | starting
  | running (lastPath : Option P)
  | ended
  deriving DecidableEq

/-- A call that is under way, by what it does next. -/
inductive Call (P : Type) where
  /-- `usb_path`, also where `local_path` reads it -/
  | read
  /-- `usb_path`, which has found that the path is stale -/
  | clear
  | refresh
  /-- `refresh`, which knows what to assign -/
  | assign (path : Option P)
  deriving DecidableEq

inductive Entry (P : Type) where
  | startup (path : P)
  /-- an insertion, and how many callbacks were called -/
  | inserted (path : P) (called : Nat)
  | removed (called : Nat)
  deriving DecidableEq

structure Manager (P : Type) where
  disk : Disk P
  /-- `_usb_output_path` -/
  usbOutputPath : Option P
  monitor : Monitor P
  /-- how many callbacks are registered for an insertion -/
  insertedCallbacks : Nat
  removedCallbacks : Nat
  calls : List (Call P)
  log : List (Entry P)
  deriving DecidableEq

inductive Action (P : Type) where
  | mount (disk : Disk P)
  | unmount
  | access (accessible writable : Bool)
  | read
  | refresh
  /-- a call does what it does next -/
  | proceed (index : Nat)
  | registerInserted
  | registerRemoved
  | start
  | enter
  /-- an iteration of the monitor's loop, and the callback that raises if any does -/
  | tick (raising : Option Nat)
  | stop

/-- `for cb in callbacks: cb()`: how many are called, and whether the loop ends. -/
def runCallbacks (callbacks : Nat) : Option Nat → Nat × Bool
  | some k => if k < callbacks then (k + 1, false) else (callbacks, true)
  | none => (callbacks, true)

namespace Manager

variable [DecidableEq P] (host : Host P)

/-- What `usb_path` returns. -/
def usbPath (m : Manager P) : Option P :=
  m.usbOutputPath.filter fun cached =>
    host.supportsHotdisk
      && decide ((host.detectUsbMount m.disk).map (fun _ => m.disk.output) = some cached)
      && (m.disk.accessible && m.disk.prepared)

/-- What `local_path` returns. -/
def localPath (m : Manager P) : P := (m.usbPath host).getD host.fallbackDir

/-- `usb_path` has a path, and the disk does not answer. -/
def stale (m : Manager P) : Bool :=
  m.usbOutputPath.isSome && host.supportsHotdisk && (m.usbPath host).isNone

/-- What a call does next, and what it has still to do after it. -/
def proceed (m : Manager P) : Call P → Manager P × Option (Call P)
  | .read => (m, if m.stale host then some .clear else none)
  | .clear => ({ m with usbOutputPath := none }, none)
  | .refresh =>
    match (host.detectUsbMount m.disk).bind fun _ => m.disk.prepareOutputDir with
    | some disk => ({ m with disk := disk }, some (.assign (some disk.output)))
    | none => (m, some (.assign none))
  | .assign path => ({ m with usbOutputPath := path }, some .read)

/-- An iteration of the loop of `_monitor_usb`. -/
def monitorUsb (m : Manager P) (lastPath : Option P) (raising : Option Nat) : Manager P :=
  if host.detectUsbMount m.disk = lastPath then m
  else match host.detectUsbMount m.disk with
    | some mount =>
      match m.disk.prepareOutputDir with
      | some disk =>
        { m with
          disk := disk
          usbOutputPath := some disk.output
          monitor := if (runCallbacks m.insertedCallbacks raising).2
            then .running (some mount) else .ended
          log := m.log ++ [.inserted disk.output (runCallbacks m.insertedCallbacks raising).1] }
      | none => { m with usbOutputPath := none, monitor := .running none }
    | none =>
      { m with
        usbOutputPath := none
        monitor := if (runCallbacks m.removedCallbacks raising).2 then .running none else .ended
        log := m.log ++ [.removed (runCallbacks m.removedCallbacks raising).1] }

end Manager

/-- A manager behind its constructor, with `_initial_usb_detection`. -/
def construct (host : Host P) (disk : Disk P) : Manager P :=
  match (host.detectUsbMount disk).bind fun _ => disk.prepareOutputDir with
  | some disk => ⟨disk, some disk.output, .unstarted, 0, 0, [], [.startup disk.output]⟩
  | none => ⟨disk, none, .unstarted, 0, 0, [], []⟩

def step [DecidableEq P] (host : Host P) : Machine (Manager P) (Action P)
  | m, .mount disk =>
    if m.disk.mounted then none else some { m with disk := { disk with mounted := true } }
  | m, .unmount => some { m with disk := { m.disk with mounted := false } }
  | m, .access accessible writable =>
    some { m with disk := { m.disk with accessible := accessible, writable := writable } }
  | m, .read => some { m with calls := m.calls ++ [.read] }
  | m, .refresh => some { m with calls := m.calls ++ [.refresh] }
  | m, .proceed index =>
    (m.calls[index]?).map fun call =>
      { (m.proceed host call).1 with
        calls := m.calls.eraseIdx index ++ (m.proceed host call).2.toList }
  | m, .registerInserted => some { m with insertedCallbacks := m.insertedCallbacks + 1 }
  | m, .registerRemoved => some { m with removedCallbacks := m.removedCallbacks + 1 }
  | m, .start =>
    if host.supportsHotdisk = true ∧ m.monitor = .unstarted then
      some { m with monitor := if m.usbOutputPath.isSome then .starting else .running none }
    else none
  | m, .enter =>
    if m.monitor = .starting then
      some { m with monitor := match m.usbOutputPath with
        | some path => .running (some (host.parent path))
        | none => .ended }
    else none
  | m, .tick raising =>
    match m.monitor with
    | .running lastPath => some (m.monitorUsb host lastPath raising)
    | _ => none
  | m, .stop => some { m with monitor := .ended }

/-! ## Following the disk -/

def Entry.opens : Entry P → Prop
  | .removed _ => False
  | _ => True

def Entry.closes : Entry P → Prop
  | .removed _ => True
  | _ => False

/-- The callbacks for a removal are called only after an insertion or a detection at startup that
no removal has followed. -/
def Allowed (before : List (Entry P)) : Entry P → Prop
  | .removed _ => Standing Entry.opens Entry.closes before
  | _ => True

section Following

variable [DecidableEq P] (host : Host P)

/-- The outputs follow the disk, in every run whose steps meet the condition. -/
structure FollowsDisk (disk : Disk P) (ok : Manager P → Action P → Prop) : Prop where
  /-- After a tick that has found the disk available `usb_path` is its output directory, until it is
  no longer available. -/
  selects : ∀ (m m' t : Manager P) raising, Machine.Run (step host) ok (construct host disk) m →
    ok m (.tick raising) → step host m (.tick raising) = some m' → m'.monitor ≠ .ended →
    m.disk.available = true →
    Machine.Run (step host) (fun r a => ok r a ∧ r.disk.available = true) m' t →
    t.disk.available = true → t.usbPath host = some t.disk.output
  /-- After a tick that has found no disk `local_path` is the fallback directory, until there is
  one. -/
  fallsBack : ∀ (m m' t : Manager P) raising, Machine.Run (step host) ok (construct host disk) m →
    ok m (.tick raising) → step host m (.tick raising) = some m' → m.disk.mounted = false →
    Machine.Run (step host) (fun r a => ok r a ∧ r.disk.mounted = false) m' t →
    t.disk.mounted = false → t.localPath host = host.fallbackDir
  matched : ∀ m, Machine.Run (step host) ok (construct host disk) m → Justified Allowed m.log

/-- The monitor has the disk as the last that it saw. -/
def Manager.seen (m : Manager P) : Prop := m.monitor = .running (some host.hotplugPath)

/-- The path of this disk is cached, and the disk has the directory. -/
def Manager.caches (m : Manager P) (d : Disk P) : Prop :=
  m.usbOutputPath = some d.output ∧ d.prepared = true

/-- What a call is about to assign to `_usb_output_path`. -/
def Call.assigns : Call P → Option (Option P)
  | .clear => some none
  | .assign path => some path
  | _ => none

/-- Nobody drops the path of the disk without the monitor noticing: when the disk becomes available
while the monitor still has it as the last that it saw, its path is cached; while it is available
no late call drops it; and the monitor starts with what the startup has detected. -/
def Admitted (m : Manager P) : Action P → Prop
  | .mount disk => disk.accessible = true → disk.writable = true → m.seen host → m.caches disk
  | .access accessible writable => m.disk.mounted = true → accessible = true → writable = true →
      m.seen host → m.caches m.disk
  | .proceed index => ∀ call ∈ m.calls[index]?, ∀ path ∈ call.assigns,
      m.disk.available = true → m.caches m.disk → path = some m.disk.output
  | .enter => ∀ path ∈ m.usbOutputPath, m.log ≠ [] ∧
      (m.disk.available = true → host.parent path = host.hotplugPath → m.caches m.disk)
  | _ => True

instance (m : Manager P) : DecidablePred (Admitted host m)
  | .mount d => inferInstanceAs (Decidable (d.accessible = true → d.writable = true →
      m.monitor = .running (some host.hotplugPath) →
      m.usbOutputPath = some d.output ∧ d.prepared = true))
  | .access accessible writable => inferInstanceAs (Decidable (m.disk.mounted = true →
      accessible = true → writable = true → m.monitor = .running (some host.hotplugPath) →
      m.usbOutputPath = some m.disk.output ∧ m.disk.prepared = true))
  | .proceed index => inferInstanceAs (Decidable (∀ call ∈ m.calls[index]?, ∀ path ∈ call.assigns,
      m.disk.available = true → m.usbOutputPath = some m.disk.output ∧ m.disk.prepared = true →
      path = some m.disk.output))
  | .enter => inferInstanceAs (Decidable (∀ path ∈ m.usbOutputPath, m.log ≠ [] ∧
      (m.disk.available = true → host.parent path = host.hotplugPath →
        m.usbOutputPath = some m.disk.output ∧ m.disk.prepared = true)))
  | .unmount => isTrue trivial
  | .read => isTrue trivial
  | .refresh => isTrue trivial
  | .registerInserted => isTrue trivial
  | .registerRemoved => isTrue trivial
  | .start => isTrue trivial
  | .tick _ => isTrue trivial
  | .stop => isTrue trivial

/-! ## What holds along such runs -/

variable {host : Host P} {m m' : Manager P}

/-- What the manager keeps up under the condition. -/
structure Coherent (host : Host P) (m : Manager P) : Prop where
  selected : m.seen host → m.disk.available = true → m.caches m.disk
  supported : ∀ last, m.monitor = .running last → host.supportsHotdisk = true
  /-- A removal can be reported only where something is open. -/
  standing : ∀ path, m.monitor = .running (some path) → Standing Entry.opens Entry.closes m.log
  early : m.monitor = .unstarted ∨ m.monitor = .starting →
    m.log = [] ∨ Standing Entry.opens Entry.closes m.log
  starting : m.monitor = .starting → host.supportsHotdisk = true
  matched : Justified Allowed m.log

/-- A call changes only the output directory of the disk and the cached path. -/
theorem proceed_eq (host : Host P) (m : Manager P) (call : Call P) :
    ∃ disk, (disk = m.disk ∨ disk = { m.disk with prepared := true }) ∧
      (m.proceed host call).1
        = { m with disk := disk, usbOutputPath := call.assigns.getD m.usbOutputPath } := by
  cases call with
  | read => exact ⟨m.disk, .inl rfl, rfl⟩
  | clear => exact ⟨m.disk, .inl rfl, rfl⟩
  | assign path => exact ⟨m.disk, .inl rfl, rfl⟩
  | refresh =>
    unfold Manager.proceed
    cases hready : (host.detectUsbMount m.disk).bind fun _ => m.disk.prepareOutputDir with
    | none => exact ⟨m.disk, .inl rfl, rfl⟩
    | some disk => exact ⟨disk, .inr (prepareOutputDir_of_detect hready), rfl⟩

/-- A call that does not drop the path leaves it cached. -/
theorem caches_proceed (h : m.caches m.disk) {call : Call P}
    (hkeep : ∀ path ∈ call.assigns, path = some m.disk.output) :
    (m.proceed host call).1.caches (m.proceed host call).1.disk := by
  obtain ⟨disk, hdisk, heq⟩ := proceed_eq host m call
  have hpath : call.assigns.getD m.usbOutputPath = some m.disk.output := by
    cases hassigns : call.assigns with
    | none => exact h.1
    | some path => exact hkeep path hassigns
  rw [heq]
  rcases hdisk with rfl | rfl
  · exact ⟨hpath, h.2⟩
  · exact ⟨hpath, rfl⟩

theorem available_proceed (host : Host P) (m : Manager P) (call : Call P) :
    (m.proceed host call).1.disk.available = m.disk.available := by
  obtain ⟨disk, hdisk, heq⟩ := proceed_eq host m call
  rw [heq]
  rcases hdisk with rfl | rfl <;> rfl

/-- What an iteration of the monitor can do. -/
inductive Ticked (host : Host P) (m : Manager P) (last : Option P) : Manager P → Prop where
  | unchanged (hmount : host.detectUsbMount m.disk = last) : Ticked host m last m
  | inserted {monitor : Monitor P} (called : Nat)
      (hmonitor : monitor = .running (some host.hotplugPath) ∨ monitor = .ended) :
      Ticked host m last { m with
        disk := { m.disk with prepared := true }
        usbOutputPath := some m.disk.output
        monitor := monitor
        log := m.log ++ [.inserted m.disk.output called] }
  | notWritable (hprepare : m.disk.prepareOutputDir = none) :
      Ticked host m last { m with usbOutputPath := none, monitor := .running none }
  | removed {monitor : Monitor P} (called : Nat) {path : P} (hlast : last = some path)
      (hmount : host.detectUsbMount m.disk = none)
      (hmonitor : monitor = .running none ∨ monitor = .ended) :
      Ticked host m last { m with
        usbOutputPath := none
        monitor := monitor
        log := m.log ++ [.removed called] }

theorem ticked_monitorUsb (host : Host P) (m : Manager P) (last : Option P) (raising : Option Nat) :
    Ticked host m last (m.monitorUsb host last raising) := by
  have hended (b : Bool) (monitor : Monitor P) :
      (if b then monitor else .ended) = monitor ∨ (if b then monitor else .ended) = .ended := by
    cases b
    · exact .inr rfl
    · exact .inl rfl
  unfold Manager.monitorUsb
  split
  · rename_i hsame
    exact .unchanged hsame
  · rename_i hnew
    split
    · rename_i mount hmount
      obtain ⟨rfl, -⟩ := detectUsbMount_eq_some hmount
      split
      · rename_i disk hprepare
        obtain ⟨-, rfl⟩ := prepareOutputDir_eq_some.mp hprepare
        exact .inserted _ (hended _ _)
      · rename_i hprepare
        exact .notWritable hprepare
    · rename_i hmount
      cases last with
      | none => exact absurd hmount hnew
      | some path => exact .removed _ rfl hmount (hended _ _)

omit [DecidableEq P] in
/-- A step of the disk or of a call. -/
theorem Coherent.of_eq (h : Coherent host m) (hmonitor : m'.monitor = m.monitor)
    (hlog : m'.log = m.log)
    (hselected : m.seen host → m'.disk.available = true → m'.caches m'.disk) :
    Coherent host m' where
  selected := fun hseen => hselected (hmonitor.symm.trans hseen)
  supported := hmonitor ▸ h.supported
  standing := by
    rw [hmonitor, hlog]
    exact h.standing
  early := by
    rw [hmonitor, hlog]
    exact h.early
  starting := hmonitor ▸ h.starting
  matched := hlog ▸ h.matched

omit [DecidableEq P] in
theorem Coherent.tick (h : Coherent host m) {last : Option P}
    (hrunning : m.monitor = .running last) (hticked : Ticked host m last m') :
    Coherent host m' := by
  have hhost := h.supported last hrunning
  cases hticked with
  | unchanged => exact h
  | inserted called hmonitor =>
    refine ⟨fun _ _ => ⟨rfl, rfl⟩, fun _ _ => hhost,
      fun _ _ => standing_snoc.mpr (.inl trivial), fun _ => .inr (standing_snoc.mpr (.inl trivial)),
      fun _ => hhost, justified_snoc.mpr ⟨h.matched, trivial⟩⟩
  | notWritable hprepare => exact ⟨nofun, fun _ _ => hhost, nofun, nofun, nofun, h.matched⟩
  | removed called hlast hmount hmonitor =>
    have hstanding := h.standing _ (hlast ▸ hrunning)
    refine ⟨fun hseen => ?_, fun _ _ => hhost, fun path heq => ?_, fun heq => ?_, fun _ => hhost,
      justified_snoc.mpr ⟨h.matched, hstanding⟩⟩
    · rcases hmonitor with rfl | rfl <;> cases hseen
    · rcases hmonitor with rfl | rfl <;> cases heq
    · rcases hmonitor with rfl | rfl <;> rcases heq with heq | heq <;> cases heq

/-- What a step is for the monitor: it starts, looks, ends or is not concerned. -/
inductive Stepped (host : Host P) (m : Manager P) : Action P → Manager P → Prop where
  | other {a : Action P} {m' : Manager P} (hmonitor : m'.monitor = m.monitor)
      (hlog : m'.log = m.log)
      (hcaches : Admitted host m a → m.seen host ∨ m.disk.available = true →
        (m.disk.available = true → m.caches m.disk) → m'.disk.available = true →
        m'.caches m'.disk) :
      Stepped host m a m'
  | started {monitor : Monitor P} (hhost : host.supportsHotdisk = true)
      (hunstarted : m.monitor = .unstarted)
      (hmonitor : monitor = .starting ∨ monitor = .running none) :
      Stepped host m .start { m with monitor := monitor }
  | entered {monitor : Monitor P} (hstarting : m.monitor = .starting)
      (hmonitor : monitor = .ended ∨ ∃ path, m.usbOutputPath = some path ∧
        monitor = .running (some (host.parent path))) :
      Stepped host m .enter { m with monitor := monitor }
  | ticked {raising : Option Nat} {last : Option P} {m' : Manager P}
      (hrunning : m.monitor = .running last) (hticked : Ticked host m last m') :
      Stepped host m (.tick raising) m'
  | stopped : Stepped host m .stop { m with monitor := .ended }

theorem stepped_of_step {a : Action P} (hstep : step host m a = some m') :
    Stepped host m a m' := by
  cases a with
  | mount disk =>
    simp only [step] at hstep
    split at hstep
    · cases hstep
    · rename_i hnot
      cases hstep
      refine .other rfl rfl fun hok hmonitor _ havailable => ?_
      simp only [Disk.available, Bool.and_eq_true] at havailable hmonitor
      exact hok havailable.1.2 havailable.2 (hmonitor.resolve_right fun h => hnot h.1.1)
  | unmount =>
    cases hstep
    exact .other rfl rfl fun _ _ _ => nofun
  | access accessible writable =>
    cases hstep
    refine .other rfl rfl fun hok hmonitor hbefore havailable => ?_
    rcases hmonitor with hseen | hstood
    · simp only [Disk.available, Bool.and_eq_true] at havailable
      exact hok havailable.1.1 havailable.1.2 havailable.2 hseen
    · exact hbefore hstood
  | read | refresh | registerInserted | registerRemoved =>
    cases hstep
    exact .other rfl rfl fun _ _ hbefore => hbefore
  | proceed index =>
    obtain ⟨call, hcall, rfl⟩ := Option.map_eq_some_iff.mp hstep
    obtain ⟨disk, -, heq⟩ := proceed_eq host m call
    have hmonitor : (m.proceed host call).1.monitor = m.monitor := by rw [heq]
    have hlog : (m.proceed host call).1.log = m.log := by rw [heq]
    refine .other hmonitor hlog fun hok _ hbefore havailable => ?_
    have hstood : m.disk.available = true := (available_proceed host m call).symm.trans havailable
    have hcaches := hbefore hstood
    exact caches_proceed hcaches fun path hpath => hok call hcall path hpath hstood hcaches
  | start =>
    simp only [step] at hstep
    split at hstep
    · rename_i hstart
      cases hstep
      refine .started hstart.1 hstart.2 ?_
      cases m.usbOutputPath with
      | none => exact .inr rfl
      | some path => exact .inl rfl
    · cases hstep
  | enter =>
    simp only [step] at hstep
    split at hstep
    · rename_i hstarting
      cases hstep
      refine .entered hstarting ?_
      cases m.usbOutputPath with
      | none => exact .inl rfl
      | some path => exact .inr ⟨path, rfl, rfl⟩
    · cases hstep
  | tick raising =>
    simp only [step] at hstep
    split at hstep
    · rename_i last hrunning
      cases hstep
      exact .ticked hrunning (ticked_monitorUsb host m last raising)
    · cases hstep
  | stop =>
    cases hstep
    exact .stopped

/-- **The step.** -/
theorem Coherent.step (h : Coherent host m) {a : Action P} (hok : Admitted host m a)
    (hstep : step host m a = some m') : Coherent host m' := by
  cases stepped_of_step hstep with
  | other hmonitor hlog hcaches =>
    exact h.of_eq hmonitor hlog fun hseen => hcaches hok (.inl hseen) (h.selected hseen)
  | started hhost hunstarted hmonitor =>
    have hearly := h.early (.inl hunstarted)
    rcases hmonitor with rfl | rfl
    · exact ⟨nofun, nofun, nofun, fun _ => hearly, fun _ => hhost, h.matched⟩
    · exact ⟨nofun, fun _ _ => hhost, nofun, fun _ => hearly, nofun, h.matched⟩
  | entered hstarting hmonitor =>
    have hhost := h.starting hstarting
    rcases hmonitor with rfl | ⟨path, hcached, rfl⟩
    · exact ⟨nofun, nofun, nofun, nofun, nofun, h.matched⟩
    · obtain ⟨hlog, hcaches⟩ := hok path hcached
      have hstanding := (h.early (.inr hstarting)).resolve_left hlog
      refine ⟨fun hseen havailable => ?_, fun _ _ => hhost, fun _ _ => hstanding, nofun, nofun,
        h.matched⟩
      exact hcaches havailable (Option.some.inj (Monitor.running.inj hseen))
  | ticked hrunning hticked => exact h.tick hrunning hticked
  | stopped => exact ⟨nofun, nofun, nofun, nofun, nofun, h.matched⟩

omit [DecidableEq P] in
theorem coherent_construct (host : Host P) (disk : Disk P) :
    Coherent host (construct host disk) := by
  unfold construct
  split
  · rename_i disk _
    have hstanding : Standing Entry.opens Entry.closes ([] ++ [Entry.startup disk.output]) :=
      standing_snoc.mpr (.inl trivial)
    have hmatched : Justified Allowed ([] ++ [Entry.startup disk.output]) :=
      justified_snoc.mpr ⟨justified_nil _, trivial⟩
    exact ⟨nofun, nofun, nofun, fun _ => .inr hstanding, nofun, hmatched⟩
  · exact ⟨nofun, nofun, nofun, fun _ => .inl rfl, nofun, justified_nil _⟩

theorem Coherent.run {disk : Disk P}
    (hrun : Machine.Run (Offload.step host) (Admitted host) (construct host disk) m) :
    Coherent host m :=
  hrun.invariant (coherent_construct host disk) fun _ _ _ hok hstep h => h.step hok hstep

/-! ## From a tick on -/

/-- While the disk is available its path is cached, and the monitor does not look for another. -/
def Kept (host : Host P) (m : Manager P) : Prop :=
  m.disk.available = true → m.caches m.disk ∧ (m.seen host ∨ m.monitor = .ended)

omit [DecidableEq P] in
/-- An iteration of the monitor finds the disk as it has it, or inserts it. -/
theorem Coherent.kept_of_ticked (h : Coherent host m) {last : Option P}
    (hrunning : m.monitor = .running last) (havailable : m.disk.available = true)
    (hticked : Ticked host m last m') :
    m'.caches m'.disk ∧ (m'.seen host ∨ m'.monitor = .ended) := by
  have hdetect := detectUsbMount_of_available (h.supported last hrunning) havailable
  cases hticked with
  | unchanged hmount =>
    have hseen : m.seen host := by rw [Manager.seen, hrunning, ← hmount, hdetect]
    exact ⟨h.selected hseen havailable, .inl hseen⟩
  | inserted called hmonitor => exact ⟨⟨rfl, rfl⟩, hmonitor⟩
  | notWritable hprepare =>
    simp only [Disk.available, Bool.and_eq_true] at havailable
    rw [Disk.prepareOutputDir, havailable.1.2, havailable.2] at hprepare
    cases hprepare
  | removed called hlast hmount hmonitor => cases hdetect.symm.trans hmount

theorem Kept.step (h : Kept host m) (hcoherent : Coherent host m) {a : Action P}
    (hok : Admitted host m a) (havailable : m.disk.available = true)
    (hstep : step host m a = some m') : Kept host m' := by
  obtain ⟨hcaches, hmonitor⟩ := h havailable
  intro hstill
  cases stepped_of_step hstep with
  | other hsame _ hkeep =>
    have hkept := hkeep hok (.inr havailable) (fun _ => hcaches) hstill
    exact ⟨hkept, hmonitor.imp hsame.trans hsame.trans⟩
  | started _ hunstarted _ =>
    rcases hmonitor with hseen | hended
    · cases hseen.symm.trans hunstarted
    · cases hended.symm.trans hunstarted
  | entered hstarting _ =>
    rcases hmonitor with hseen | hended
    · cases hseen.symm.trans hstarting
    · cases hended.symm.trans hstarting
  | ticked hrunning hticked => exact hcoherent.kept_of_ticked hrunning havailable hticked
  | stopped => exact ⟨hcaches, .inr rfl⟩

/-- Of a disk that is available `usb_path` returns the output directory if that is cached. -/
theorem usbPath_eq_iff (hhost : host.supportsHotdisk = true)
    (havailable : m.disk.available = true) :
    m.usbPath host = some m.disk.output ↔ m.caches m.disk := by
  have hdetect := detectUsbMount_of_available hhost havailable
  simp only [Disk.available, Bool.and_eq_true] at havailable
  rw [Manager.usbPath, Option.filter_eq_some_iff, hhost, hdetect, havailable.1.2]
  simp [Manager.caches]

theorem localPath_of_not_mounted (h : m.disk.mounted = false) :
    m.localPath host = host.fallbackDir := by
  have hdetect : host.detectUsbMount m.disk = none := by
    unfold Host.detectUsbMount
    rw [h]
    simp
  rw [Manager.localPath, Manager.usbPath, hdetect]
  cases m.usbOutputPath with
  | none => rfl
  | some path => simp [Option.filter_some]

/-- A disk that the monitor has and whose path is gone stays out of use: a tick changes nothing. -/
theorem dropped_of_tick (hhost : host.supportsHotdisk = true) (hseen : m.seen host)
    (havailable : m.disk.available = true) (hgone : ¬ m.caches m.disk) (raising : Option Nat) :
    step host m (.tick raising) = some m ∧ m.usbPath host ≠ some m.disk.output := by
  have hdetect := detectUsbMount_of_available hhost havailable
  constructor
  · simp only [step]
    rw [hseen]
    show some (m.monitorUsb host _ raising) = _
    rw [Manager.monitorUsb, if_pos hdetect]
  · exact fun hpath => hgone ((usbPath_eq_iff hhost havailable).mp hpath)

/-- **The outputs follow the disk**, in every run whose steps meet the condition. -/
theorem followsDisk_of_admitted (host : Host P) (disk : Disk P) :
    FollowsDisk host disk (Admitted host) where
  selects := by
    intro m m' t raising hrun hok hstep hcompleted havailable hlater hstill
    have hcoherent := Coherent.run hrun
    simp only [step] at hstep
    split at hstep
    · rename_i last hrunning
      cases hstep
      have hhost := hcoherent.supported last hrunning
      have hticked := ticked_monitorUsb host m last raising
      have hstart : Coherent host (m.monitorUsb host last raising) ∧
          Kept host (m.monitorUsb host last raising) :=
        ⟨hcoherent.tick hrunning hticked,
          fun _ => hcoherent.kept_of_ticked hrunning havailable hticked⟩
      have hend : Coherent host t ∧ Kept host t := by
        refine Machine.Run.invariant (I := fun r => Coherent host r ∧ Kept host r) hstart
          (fun r a r' hok hstep h => ?_) hlater
        exact ⟨h.1.step hok.1 hstep, h.2.step h.1 hok.1 hok.2 hstep⟩
      exact (usbPath_eq_iff hhost hstill).mpr (hend.2 hstill).1
    · cases hstep
  fallsBack := fun _ _ _ _ _ _ _ _ _ hstill => localPath_of_not_mounted hstill
  matched := fun _ hrun => (Coherent.run hrun).matched

end Following

/-! ## A disk that is dropped -/

/-- A host whose hotplug path is `/exports/nexus_n3_data`. -/
def exports : Host (List String) where
  supportsHotdisk := true
  hotplugPath := ["exports", "nexus_n3_data"]
  fallbackDir := ["nexus_n3_outputs"]
  parent := List.dropLast

def stick : Disk (List String) :=
  ⟨true, true, true, true, ["exports", "nexus_n3_data", "nexus_n3_outputs"]⟩

/-- A reader meets a failure that has passed when the monitor looks again. -/
def glitch : List (Action (List String)) :=
  [.start, .enter, .access false true, .read, .proceed 0, .proceed 0, .access true true]

/-- The disk is there, the monitor has it, and its path is gone. -/
def dropped : Manager (List String) :=
  ⟨stick, none, .running (some exports.hotplugPath), 0, 0, [], [.startup stick.output]⟩

theorem not_followsDisk : ¬ FollowsDisk exports stick fun _ _ => True := by
  intro h
  have hrun : Machine.Reach (step exports) (construct exports stick) dropped :=
    Machine.reach_of_exec glitch (by decide)
  have htick : step exports dropped (.tick none) = some dropped := by decide
  have hpath := h.selects dropped dropped dropped none hrun trivial htick nofun rfl .refl rfl
  exact absurd hpath (by decide)

/-- Where the monitor looks while the failure lasts, the disk comes back into use. -/
example : ((Machine.execOk (step exports) (Admitted exports) (construct exports stick)
    [.start, .enter, .access false true, .read, .proceed 0, .proceed 0, .tick none,
      .access true true, .tick none]).map fun m => (m.usbPath exports, m.log)) =
    some (some stick.output, [.startup stick.output, .removed 0, .inserted stick.output 0]) := by
  decide

end NexusN3.Offload
