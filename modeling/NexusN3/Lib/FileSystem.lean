import NexusN3.Lib.Dict
import NexusN3.Lib.Keeps

/-!
# File systems in which every operation may fail

A file system is a dictionary from places to nodes; a place is the list of names that leads to
it from the root. Programs act on a `World`: the file system as it is, and every file system
that was there after an operation so far. An environment decides which operations fail, and
what a failing one leaves behind.

* **`attempt`** — one operation: it fails when the environment says so, or when the file system
  does not allow it.
* **`Footprint`** — trees, files and links that a program may change.
* **`Footprint.Within`** — the file system has changed inside the footprint only; besides, a
  directory may have been made on the way to it.
* **`Footprint.Always`** — the same for every moment of a program. One lemma for each operation,
  and the rules of `Program.Keeps` do the rest.
-/

namespace NexusN3.Lib

/-- A place: the names from the root. -/
abbrev Place := List String

inductive Node (γ : Type) where
  | dir
  | file (content : γ)
  | link (target : String)
  deriving DecidableEq

abbrev FileSystem (γ : Type) := Dict Place (Node γ)

namespace FileSystem

variable {γ : Type} (fs : FileSystem γ)

/-- Take away `p` and everything under it, except what is `spared`. -/
def removeTree (p : Place) (spared : Place → Bool) : FileSystem γ :=
  fs.restrict fun q => !decide (p <+: q) || spared q

/-- Put `nodes` at the places relative to `p`. -/
def graft (p : Place) (nodes : List (Place × Node γ)) : FileSystem γ :=
  nodes.foldl (fun fs node => fs.set (p ++ node.1) node.2) fs

/-- What is at `p` and under it, by relative place. -/
def subtree (p : Place) : List (Place × Node γ) :=
  (fs.entries.filter fun e => p <+: e.1).map fun e => (e.1.drop p.length, e.2)

/-- `rename` of a directory to a place where nothing is. -/
def moveTree (src dst : Place) : FileSystem γ :=
  (fs.removeTree src fun _ => false).graft dst (fs.subtree src)

def isDir (p : Place) : Bool :=
  match fs.get? p with
  | some .dir => true
  | _ => false

theorem get?_of_isDir {p : Place} (h : fs.isDir p = true) : fs.get? p = some .dir := by
  unfold isDir at h
  split at h
  · assumption
  · cases h

/-- `mkdir` of one directory that may be there already. -/
def makeDir (fs : FileSystem γ) (p : Place) : Except String (FileSystem γ) :=
  match fs.get? p with
  | none => .ok (fs.set p .dir)
  | some (.file _) => .error "File exists"
  | some _ => .ok fs

/-- `mkdir -p`: the first `limit` directories on the way to `p`. -/
def makeDirs (limit : Nat) (p : Place) : Except String (FileSystem γ) :=
  ((List.range limit).map fun k => p.take (k + 1)).foldlM makeDir fs

theorem get?_removeTree (p q : Place) (spared : Place → Bool) :
    (fs.removeTree p spared).get? q = if p <+: q ∧ spared q = false then none else fs.get? q := by
  rw [removeTree, Dict.get?_restrict]
  by_cases hp : p <+: q <;> cases hs : spared q <;> simp [hp]

theorem get?_graft_of_outside {p q : Place} (nodes : List (Place × Node γ)) (h : ¬ p <+: q) :
    (fs.graft p nodes).get? q = fs.get? q := by
  unfold graft
  induction nodes generalizing fs with
  | nil => rfl
  | cons node nodes ih =>
    rw [List.foldl_cons, ih, Dict.get?_set_ne]
    rintro rfl
    exact h (List.prefix_append _ _)

/-- What is put at one place, when nothing else is put there. -/
theorem get?_graft {p r : Place} {n : Node γ} {nodes : List (Place × Node γ)}
    (hall : ∀ node ∈ nodes, node.1 = r → node.2 = n)
    (hsome : fs.get? (p ++ r) = some n ∨ ∃ node ∈ nodes, node.1 = r) :
    (fs.graft p nodes).get? (p ++ r) = some n := by
  unfold graft
  induction nodes generalizing fs with
  | nil =>
    rcases hsome with hthere | ⟨node, hmem, -⟩
    · exact hthere
    · cases hmem
  | cons node nodes ih =>
    obtain ⟨hone, hrest⟩ := List.forall_mem_cons.mp hall
    rw [List.foldl_cons]
    refine ih _ hrest ?_
    by_cases hnode : node.1 = r
    · exact Or.inl (by rw [hnode, hone hnode, Dict.get?_set_self])
    · rcases hsome with hthere | ⟨node', hmem, hnode'⟩
      · refine Or.inl ?_
        rw [Dict.get?_set_ne, hthere]
        exact fun heq => hnode (List.append_cancel_left heq)
      · rcases List.mem_cons.mp hmem with rfl | hmem
        · exact absurd hnode' hnode
        · exact Or.inr ⟨node', hmem, hnode'⟩

/-- A directory that was moved is at its new place. -/
theorem get?_moveTree {src dst : Place} {n : Node γ} (h : fs.get? src = some n) :
    (fs.moveTree src dst).get? dst = some n := by
  have hmoved : ([], n) ∈ fs.subtree src := by
    refine List.mem_map.mpr ⟨(src, n), List.mem_filter.mpr ⟨Dict.get?_eq_some_iff.mp h, ?_⟩, ?_⟩
    · simp
    · simp
  have hall : ∀ node ∈ fs.subtree src, node.1 = [] → node.2 = n := by
    intro node hnode hroot
    obtain ⟨e, he, rfl⟩ := List.mem_map.mp hnode
    obtain ⟨hmem, hprefix⟩ := List.mem_filter.mp he
    have hsrc : e.1 = src := by
      have hprefix := of_decide_eq_true hprefix
      obtain ⟨rest, hrest⟩ := hprefix
      have hnil : rest = [] := by
        have hdrop : e.1.drop src.length = [] := hroot
        rwa [← hrest, List.drop_left] at hdrop
      rw [← hrest, hnil, List.append_nil]
    have hget : fs.get? src = some e.2 := Dict.get?_eq_some_iff.mpr (hsrc ▸ hmem)
    exact Option.some.inj (hget.symm.trans h)
  have hget := @get?_graft γ (fs.removeTree src fun _ => false) dst [] n _ hall
    (Or.inr ⟨_, hmoved, rfl⟩)
  rwa [List.append_nil] at hget

theorem get?_makeDir {p : Place} {fs fs' : FileSystem γ} (h : fs.makeDir p = .ok fs')
    (q : Place) :
    fs'.get? q = fs.get? q ∨ (fs.get? q = none ∧ fs'.get? q = some .dir ∧ q = p) := by
  unfold makeDir at h
  split at h
  · rename_i hnone
    cases h
    by_cases hq : p = q
    · subst hq
      exact Or.inr ⟨hnone, Dict.get?_set_self _ _ _, rfl⟩
    · exact Or.inl (Dict.get?_set_ne _ _ hq)
  · cases h
  · cases h
    exact Or.inl rfl

/-- Making directories changes nothing that is there, and makes directories on the way only. -/
theorem get?_makeDirs {limit : Nat} {p : Place} {fs fs' : FileSystem γ}
    (h : fs.makeDirs limit p = .ok fs') (q : Place) :
    fs'.get? q = fs.get? q ∨ (fs.get? q = none ∧ fs'.get? q = some .dir ∧ q <+: p) := by
  unfold makeDirs at h
  generalize List.range limit = ways at h
  induction ways generalizing fs with
  | nil =>
    cases h
    exact Or.inl rfl
  | cons k ways ih =>
    rw [List.map_cons, List.foldlM_cons] at h
    cases hfirst : fs.makeDir (p.take (k + 1)) with
    | error text =>
      rw [hfirst] at h
      cases h
    | ok fs₁ =>
      rw [hfirst] at h
      have hway : p.take (k + 1) <+: p := List.take_prefix _ _
      rcases get?_makeDir hfirst q, ih h with ⟨heq | ⟨hnone, hdir, rfl⟩, hrest⟩
      · rwa [heq] at hrest
      · rcases hrest with hsame | ⟨hnone', -, -⟩
        · exact Or.inr ⟨hnone, hsame.trans hdir, hway⟩
        · rw [hdir] at hnone'
          cases hnone'

end FileSystem

/-! ## Operations -/

structure World (γ : Type) where
  fs : FileSystem γ
  /-- the file system after each operation so far -/
  trail : List (FileSystem γ) := []

/-- How an operation fails, and what it leaves behind. -/
structure Fault (γ : Type) where
  text : String
  /-- what a recursive removal had not yet removed -/
  spared : Place → Bool := fun _ => true
  /-- how many directories `mkdir -p` had looked at -/
  made : Nat := 0
  /-- what a broken write left in the file -/
  junk : Option γ := none
  /-- what an external command left in the directory it works in -/
  left : Option (List (Place × Node γ)) := none

/-- Which operations fail: the `n`-th one of the program, when `faults n` is a fault. -/
structure Environment (γ : Type) where
  faults : Nat → Option (Fault γ)

namespace Files

variable {γ : Type} {α : Type}

/-- One operation, by what it does and by what it does when it fails half-way. -/
def attempt (env : Environment γ) (partly : Fault γ → FileSystem γ → FileSystem γ)
    (act : FileSystem γ → Except String (FileSystem γ)) : Program (World γ) Raised PUnit :=
  .of fun w =>
    match env.faults w.trail.length with
    | some fault =>
      (.error ⟨"OSError", fault.text⟩, ⟨partly fault w.fs, w.trail ++ [partly fault w.fs]⟩)
    | none =>
      match act w.fs with
      | .ok fs => (.ok ⟨⟩, ⟨fs, w.trail ++ [fs]⟩)
      | .error text => (.error ⟨"OSError", text⟩, ⟨w.fs, w.trail ++ [w.fs]⟩)

/-- Look at the file system; nothing can go wrong. -/
def look (f : FileSystem γ → α) : Program (World γ) Raised α :=
  .of fun w => (.ok (f w.fs), w)

/-- Read from the file system; where an operation would fail, so does the read. -/
def read (env : Environment γ) (f : FileSystem γ → Except Raised α) :
    Program (World γ) Raised α :=
  .of fun w =>
    match env.faults w.trail.length with
    | some fault => (.error ⟨"OSError", fault.text⟩, w)
    | none => (f w.fs, w)

/-- `os.path.exists`: a link counts when something is at its target. -/
def existsAt (target : Place → String → Place) (p : Place) (fs : FileSystem γ) : Bool :=
  match fs.get? p with
  | none => false
  | some (.link text) => (fs.get? (target p.dropLast text)).isSome
  | some _ => true

def mkdirs (env : Environment γ) (p : Place) : Program (World γ) Raised PUnit :=
  attempt env
    (fun fault fs =>
      match fs.makeDirs fault.made p with
      | .ok fs => fs
      | .error _ => fs)
    fun fs => fs.makeDirs p.length p

/-- `mkdir` of a directory that must be new, in a directory that must be there. -/
def mkdir (env : Environment γ) (p : Place) : Program (World γ) Raised PUnit :=
  attempt env (fun _ fs => fs) fun fs =>
    if (fs.get? p).isSome then .error "File exists"
    else if !fs.isDir p.dropLast then .error "No such file or directory"
    else .ok (fs.set p .dir)

/-- `shutil.rmtree`, which refuses a link. -/
def rmtree (env : Environment γ) (p : Place) : Program (World γ) Raised PUnit :=
  attempt env
    (fun fault fs => if fs.isDir p then fs.removeTree p fault.spared else fs)
    fun fs =>
      match fs.get? p with
      | some .dir => .ok (fs.removeTree p fun _ => false)
      | some (.link _) => .error "Cannot call rmtree on a symbolic link"
      | some (.file _) => .error "Not a directory"
      | none => .error "No such file or directory"

/-- Open for writing and write; a directory cannot be opened. -/
def writeFile (env : Environment γ) (p : Place) (content : γ) :
    Program (World γ) Raised PUnit :=
  attempt env
    (fun fault fs =>
      match fs.get? p, fault.junk with
      | some .dir, _ => fs
      | _, none => fs
      | _, some junk => fs.set p (.file junk))
    fun fs =>
      if fs.isDir p then .error "Is a directory"
      else if (fs.get? p.dropLast).isNone then .error "No such file or directory"
      else .ok (fs.set p (.file content))

/-- `os.replace` of a file. -/
def renameFile (env : Environment γ) (src dst : Place) : Program (World γ) Raised PUnit :=
  attempt env (fun _ fs => fs) fun fs =>
    match fs.get? src with
    | some (.file content) =>
      if fs.isDir dst then .error "Is a directory"
      else .ok ((fs.erase src).set dst (.file content))
    | _ => .error "No such file or directory"

/-- `os.replace` of a directory. -/
def renameDir (env : Environment γ) (src dst : Place) : Program (World γ) Raised PUnit :=
  attempt env (fun _ fs => fs) fun fs =>
    if !fs.isDir src then .error "No such file or directory"
    else if (fs.get? dst).isSome then .error "Directory not empty"
    else if (fs.get? dst.dropLast).isNone then .error "No such file or directory"
    else .ok (fs.moveTree src dst)

def unlink (env : Environment γ) (p : Place) : Program (World γ) Raised PUnit :=
  attempt env (fun _ fs => fs) fun fs =>
    match fs.get? p with
    | none => .error "No such file or directory"
    | some .dir => .error "Is a directory"
    | some _ => .ok (fs.erase p)

def symlink (env : Environment γ) (target : String) (p : Place) :
    Program (World γ) Raised PUnit :=
  attempt env (fun _ fs => fs) fun fs =>
    if (fs.get? p).isSome then .error "File exists"
    else if (fs.get? p.dropLast).isNone then .error "No such file or directory"
    else .ok (fs.set p (.link target))

/-- A command that works in the directory `p` and leaves `nodes` there. -/
def command (env : Environment γ) (p : Place) (nodes : List (Place × Node γ)) :
    Program (World γ) Raised PUnit :=
  attempt env
    (fun fault fs =>
      match fault.left with
      | none => fs
      | some nodes => (fs.removeTree p fun _ => false).graft p nodes)
    fun fs => .ok ((fs.removeTree p fun _ => false).graft p nodes)

end Files

/-! ## Footprints -/

/-- What a program may change: whole trees, files, and links. -/
structure Footprint where
  trees : List Place
  files : List Place
  links : List Place

namespace Footprint

variable {γ : Type} (F : Footprint)

/-- A place the program owns. -/
def Owns (q : Place) : Prop := q ∈ F.files ∨ ∃ t ∈ F.trees, t <+: q

/-- A place on the way to one the program owns. -/
def Way (q : Place) : Prop := ∃ home ∈ F.trees ++ F.files, q <+: home

/-- A place the program has nothing to do with. -/
def Apart (q : Place) : Prop := ¬ F.Owns q ∧ q ∉ F.links ∧ ¬ F.Way q

/-- What has changed at one place is the program's to change. A link is replaced, never a
directory in its place. -/
def Within (fs fs' : FileSystem γ) : Prop :=
  ∀ q, fs'.get? q = fs.get? q ∨ F.Owns q ∨ (q ∈ F.links ∧ fs.get? q ≠ some .dir) ∨
    (fs.get? q = none ∧ fs'.get? q = some .dir ∧ F.Way q)

theorem Within.refl (fs : FileSystem γ) : F.Within fs fs := fun _ => Or.inl rfl

variable {F}

theorem Within.trans {fs fs₁ fs₂ : FileSystem γ} (h : F.Within fs fs₁) (h' : F.Within fs₁ fs₂) :
    F.Within fs fs₂ := by
  intro q
  rcases h q with heq | hown | hlink | ⟨hnone, hdir, hway⟩
  · have hnext := h' q
    rwa [heq] at hnext
  · exact Or.inr (Or.inl hown)
  · exact Or.inr (Or.inr (Or.inl hlink))
  · -- the directory was made just now, and stays
    rcases h' q with heq' | hown | ⟨-, hne⟩ | ⟨hnone', -, -⟩
    · exact Or.inr (Or.inr (Or.inr ⟨hnone, heq'.trans hdir, hway⟩))
    · exact Or.inr (Or.inl hown)
    · exact absurd hdir hne
    · rw [hdir] at hnone'
      cases hnone'

theorem Within.eq_of_apart {fs fs' : FileSystem γ} {q : Place} (h : F.Within fs fs')
    (hq : F.Apart q) : fs'.get? q = fs.get? q := by
  rcases h q with heq | hown | ⟨hlink, -⟩ | ⟨-, -, hway⟩
  · exact heq
  · exact absurd hown hq.1
  · exact absurd hlink hq.2.1
  · exact absurd hway hq.2.2

/-- A directory that is not owned stays one. -/
theorem Within.get?_dir {fs fs' : FileSystem γ} {q : Place} (h : F.Within fs fs')
    (hdir : fs.get? q = some .dir) (hq : ¬ F.Owns q) : fs'.get? q = some .dir := by
  rcases h q with heq | hown | ⟨-, hne⟩ | ⟨hnone, -, -⟩
  · exact heq.trans hdir
  · exact absurd hown hq
  · exact absurd hdir hne
  · rw [hdir] at hnone
    cases hnone

theorem apart_of {q : Place} (htrees : ∀ t ∈ F.trees, ¬ t <+: q ∧ ¬ q <+: t)
    (hfiles : ∀ f ∈ F.files, ¬ q <+: f) (hlink : q ∉ F.links) : F.Apart q := by
  refine ⟨?_, hlink, ?_⟩
  · rintro (hfile | ⟨t, ht, hprefix⟩)
    · exact hfiles q hfile List.prefix_rfl
    · exact (htrees t ht).1 hprefix
  · rintro ⟨home, hhome, hprefix⟩
    rcases List.mem_append.mp hhome with htree | hfile
    · exact (htrees home htree).2 hprefix
    · exact hfiles home hfile hprefix

/-- The way to a place that is owned. -/
theorem owns_or_way {p q : Place} (hp : F.Owns p) (hq : q <+: p) : F.Owns q ∨ F.Way q := by
  rcases hp with hfile | ⟨t, ht, hprefix⟩
  · exact Or.inr ⟨p, List.mem_append_right _ hfile, hq⟩
  · rcases List.prefix_or_prefix_of_prefix hprefix hq with hbelow | habove
    · exact Or.inl (Or.inr ⟨t, ht, hbelow⟩)
    · exact Or.inr ⟨t, List.mem_append_left _ ht, habove⟩

/-- A change at one place. -/
theorem Within.at {fs fs' : FileSystem γ} {p : Place}
    (hp : F.Owns p ∨ (p ∈ F.links ∧ fs.get? p ≠ some .dir))
    (hother : ∀ q, p ≠ q → fs'.get? q = fs.get? q) : F.Within fs fs' := by
  intro q
  by_cases hq : p = q
  · subst hq
    rcases hp with hown | hlink
    · exact Or.inr (Or.inl hown)
    · exact Or.inr (Or.inr (Or.inl hlink))
  · exact Or.inl (hother q hq)

/-- A change under one place. -/
theorem Within.under {fs fs' : FileSystem γ} {p : Place} (hp : ∃ t ∈ F.trees, t <+: p)
    (hother : ∀ q, ¬ p <+: q → fs'.get? q = fs.get? q) : F.Within fs fs' := by
  intro q
  by_cases hq : p <+: q
  · obtain ⟨t, ht, hprefix⟩ := hp
    exact Or.inr (Or.inl (Or.inr ⟨t, ht, hprefix.trans hq⟩))
  · exact Or.inl (hother q hq)

theorem Within.removeTree {fs : FileSystem γ} {p : Place} (hp : ∃ t ∈ F.trees, t <+: p)
    (spared : Place → Bool) : F.Within fs (fs.removeTree p spared) :=
  Within.under hp fun q hq => by rw [FileSystem.get?_removeTree, if_neg fun h => hq h.1]

theorem Within.graft {fs : FileSystem γ} {p : Place} (hp : ∃ t ∈ F.trees, t <+: p)
    (nodes : List (Place × Node γ)) : F.Within fs (fs.graft p nodes) :=
  Within.under hp fun _ hq => FileSystem.get?_graft_of_outside fs nodes hq

variable (F) in
/-- At every moment of a program the file system has changed within the footprint only. -/
def Always (w w' : World γ) : Prop :=
  ∃ more, w'.trail = w.trail ++ more ∧ F.Within w.fs w'.fs ∧ ∀ fs ∈ more, F.Within w.fs fs

instance : IsPreorder (World γ) F.Always where
  refl w := ⟨[], (List.append_nil _).symm, Within.refl F _, List.forall_mem_nil _⟩
  trans _ _ _ := by
    rintro ⟨more, htrail, hfs, hmore⟩ ⟨more', htrail', hfs', hmore'⟩
    refine ⟨more ++ more', by rw [htrail', htrail, List.append_assoc], hfs.trans hfs', ?_⟩
    rw [List.forall_mem_append]
    exact ⟨hmore, fun fs hmem => hfs.trans (hmore' fs hmem)⟩

theorem keeps_of_exec {α : Type} {m : Program (World γ) Raised α} {w w' : World γ}
    {r : Except Raised α} (h : Program.Keeps F.Always m) (hrun : m.exec w = (r, w')) :
    F.Within w.fs w'.fs := by
  obtain ⟨_, -, hfs, -⟩ := h w
  rwa [hrun] at hfs

/-! ### One lemma for each operation -/

section Operations

open Program Files

variable {α : Type} {env : Environment γ}

theorem keeps_attempt {partly : Fault γ → FileSystem γ → FileSystem γ}
    {act : FileSystem γ → Except String (FileSystem γ)}
    (hpartly : ∀ fault fs, F.Within fs (partly fault fs))
    (hact : ∀ fs fs', act fs = .ok fs' → F.Within fs fs') :
    Keeps F.Always (attempt env partly act) := by
  intro w
  simp only [attempt, exec_of]
  split
  · rename_i fault _
    exact ⟨[_], rfl, hpartly fault w.fs, List.forall_mem_singleton.mpr (hpartly fault w.fs)⟩
  · split
    · rename_i fs hfs
      exact ⟨[fs], rfl, hact w.fs fs hfs, List.forall_mem_singleton.mpr (hact w.fs fs hfs)⟩
    · exact ⟨[w.fs], rfl, Within.refl F _, List.forall_mem_singleton.mpr (Within.refl F _)⟩

theorem keeps_look (f : FileSystem γ → α) : Keeps F.Always (look f) :=
  fun w => refl_of F.Always w

theorem keeps_read (f : FileSystem γ → Except Raised α) : Keeps F.Always (Files.read env f) := by
  intro w
  simp only [Files.read, exec_of]
  split <;> exact refl_of F.Always w

theorem within_makeDirs {fs fs' : FileSystem γ} {limit : Nat} {p : Place}
    (h : fs.makeDirs limit p = .ok fs') (hp : ∀ q, q <+: p → F.Owns q ∨ F.Way q) :
    F.Within fs fs' := by
  intro q
  rcases FileSystem.get?_makeDirs h q with heq | ⟨hnone, hdir, hprefix⟩
  · exact Or.inl heq
  · rcases hp q hprefix with hown | hway
    · exact Or.inr (Or.inl hown)
    · exact Or.inr (Or.inr (Or.inr ⟨hnone, hdir, hway⟩))

/-- Directories may be made on the way to what is owned, and inside it. -/
theorem keeps_mkdirs {p : Place} (hp : ∀ q, q <+: p → F.Owns q ∨ F.Way q) :
    Keeps F.Always (mkdirs env p) := by
  refine keeps_attempt (fun fault fs => ?_) fun fs fs' h => within_makeDirs h hp
  split
  · rename_i fs' h
    exact within_makeDirs h hp
  · exact Within.refl F fs

theorem keeps_mkdir {p : Place} (hp : F.Owns p) : Keeps F.Always (mkdir env p) := by
  refine keeps_attempt (fun _ fs => Within.refl F fs) fun fs fs' h => ?_
  split at h
  · cases h
  · split at h
    · cases h
    · cases h
      exact Within.at (Or.inl hp) fun _ => Dict.get?_set_ne _ _

theorem keeps_rmtree {p : Place} (hp : ∃ t ∈ F.trees, t <+: p) :
    Keeps F.Always (rmtree env p) := by
  refine keeps_attempt (fun fault fs => ?_) fun fs fs' h => ?_
  · split
    · exact Within.removeTree hp _
    · exact Within.refl F fs
  · split at h
    · cases h
      exact Within.removeTree hp _
    · cases h
    · cases h
    · cases h

theorem keeps_writeFile {p : Place} (hp : F.Owns p) (content : γ) :
    Keeps F.Always (writeFile env p content) := by
  refine keeps_attempt (fun fault fs => ?_) fun fs fs' h => ?_
  · split
    · exact Within.refl F fs
    · exact Within.refl F fs
    · exact Within.at (Or.inl hp) fun _ => Dict.get?_set_ne _ _
  · split at h
    · cases h
    · split at h
      · cases h
      · cases h
        exact Within.at (Or.inl hp) fun _ => Dict.get?_set_ne _ _

theorem keeps_renameFile {src dst : Place} (hsrc : F.Owns src) (hdst : F.Owns dst) :
    Keeps F.Always (renameFile env src dst) := by
  refine keeps_attempt (fun _ fs => Within.refl F fs) fun fs fs' h => ?_
  split at h
  · split at h
    · cases h
    · cases h
      have hgone : F.Within fs (fs.erase src) :=
        Within.at (Or.inl hsrc) fun _ hne => Dict.get?_erase_ne _ (Ne.symm hne)
      exact hgone.trans (Within.at (Or.inl hdst) fun _ => Dict.get?_set_ne _ _)
  · cases h

theorem keeps_renameDir {src dst : Place} (hsrc : ∃ t ∈ F.trees, t <+: src)
    (hdst : ∃ t ∈ F.trees, t <+: dst) : Keeps F.Always (renameDir env src dst) := by
  refine keeps_attempt (fun _ fs => Within.refl F fs) fun fs fs' h => ?_
  split at h
  · cases h
  · split at h
    · cases h
    · split at h
      · cases h
      · cases h
        exact (Within.removeTree hsrc _).trans (Within.graft hdst _)

theorem keeps_unlink {p : Place} (hp : p ∈ F.links) : Keeps F.Always (unlink env p) := by
  refine keeps_attempt (fun _ fs => Within.refl F fs) fun fs fs' h => ?_
  split at h
  · cases h
  · cases h
  · rename_i node hdir hnode
    cases h
    have hne : fs.get? p ≠ some .dir := fun h => hdir (Option.some.inj (hnode.symm.trans h))
    exact Within.at (Or.inr ⟨hp, hne⟩) fun _ hne => Dict.get?_erase_ne _ (Ne.symm hne)

theorem keeps_symlink {p : Place} (hp : p ∈ F.links) (target : String) :
    Keeps F.Always (symlink env target p) := by
  refine keeps_attempt (fun _ fs => Within.refl F fs) fun fs fs' h => ?_
  split at h
  · cases h
  · rename_i hnone
    split at h
    · cases h
    · cases h
      have hne : fs.get? p ≠ some .dir := by
        intro hdir
        rw [hdir] at hnone
        exact hnone rfl
      exact Within.at (Or.inr ⟨hp, hne⟩) fun _ => Dict.get?_set_ne _ _

theorem keeps_command {p : Place} (hp : ∃ t ∈ F.trees, t <+: p)
    (nodes : List (Place × Node γ)) : Keeps F.Always (command env p nodes) := by
  have hdone (fs : FileSystem γ) (nodes : List (Place × Node γ)) :
      F.Within fs ((fs.removeTree p fun _ => false).graft p nodes) :=
    (Within.removeTree hp _).trans (Within.graft hp nodes)
  refine keeps_attempt (fun fault fs => ?_) fun fs fs' h => ?_
  · split
    · exact Within.refl F fs
    · exact hdone fs _
  · cases h
    exact hdone fs nodes

end Operations

end Footprint

end NexusN3.Lib
