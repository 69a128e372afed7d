import NexusN3.Lib.FileRuns
import NexusN3.Lib.Triple

/-!
# Archiving a session directory

`archive_session_directory` writes every file of the session into a zip archive and then removes the
directory. Each operation on the way may fail and leave something behind; the archive is closed also
when an exception ends the loop over the files.

* **`archiveSessionDirectory`** — the function, on a file system whose operations fail.
* **`Same`**, **`Archived`** — the directory is as it was, or the archive can be read and holds
  exactly its files.
* **`never_lost`** — at every moment it is one or the other, and both what is returned and what is
  left elsewhere are as they should be.
-/

namespace NexusN3.Storage.ArchiveDirectory

open Lib Lib.Program

variable {γ : Type}

/-- A zip archive: what the file holds before it is closed and after, and what is read of it. -/
structure Zip (γ : Type) where
  unfinished : List (Place × γ) → γ
  closed : List (Place × γ) → γ
  read : γ → Option (List (Place × γ))
  read_closed : ∀ members, read (closed members) = some members

structure SessionArchiveResult where
  archivePath : Place
  archiveName : String
  sourceDir : Place
  deriving DecidableEq

/-! ## The function -/

variable (env : Environment γ) (z : Zip γ)

def isFile (fs : FileSystem γ) (p : Place) : Bool :=
  match fs.get? p with
  | some (.file _) => true
  | _ => false

theorem isFile_of_get? {fs : FileSystem γ} {p : Place} {content : γ}
    (h : fs.get? p = some (.file content)) : isFile fs p = true := by
  rw [isFile, h]

def readFile (p : Place) : Program (Lib.World γ) Raised γ :=
  Files.read env fun fs =>
    match fs.get? p with
    | some (.file content) => .ok content
    | _ => .error ⟨"FileNotFoundError", "No such file or directory"⟩

/-- `zipf.close()`. -/
def close (archive : Place) (members : List (Place × γ)) : Program (Lib.World γ) Raised PUnit :=
  Files.writeFile env archive (z.closed members)

/-- The `with` block around a part of its body: an exception closes the archive on its way. -/
def closing {α : Type} (archive : Place) (members : List (Place × γ))
    (m : Program (Lib.World γ) Raised α) : Program (Lib.World γ) Raised α :=
  tryCatch m fun e => do
    close env z archive members
    throw e

/-- `zipf.write(file_path, arcname)`. -/
def writeMember (source archive : Place) (members : List (Place × γ)) (arcname : Place) :
    Program (Lib.World γ) Raised (List (Place × γ)) := do
  let content ← readFile env (source ++ arcname)
  Files.writeFile env archive (z.unfinished (members ++ [(arcname, content)]))
  return members ++ [(arcname, content)]

/-- The loop over `rglob`, with what has been written so far. -/
def writeMembers (source archive : Place) :
    List (Place × γ) → List Place → Program (Lib.World γ) Raised (List (Place × γ))
  | members, [] => return members
  | members, arcname :: rest => do
    if ← Files.look fun fs => isFile fs (source ++ arcname) then
      let members ← closing env z archive members (writeMember env z source archive members arcname)
      writeMembers source archive members rest
    else writeMembers source archive members rest

/-- `source_dir.rglob("*")`, by the paths below the directory. -/
def rglob (source : Place) : Program (Lib.World γ) Raised (List Place) :=
  Files.read env fun fs => .ok (((fs.subtree source).map Prod.fst).filter (· ≠ []))

/-- `if remove_source: shutil.rmtree(source_dir)`. -/
def remove (source : Place) (removeSource : Bool) : Program (Lib.World γ) Raised PUnit :=
  if removeSource then Files.rmtree env source else pure ⟨⟩

def archiveSessionDirectory (sessionDir archivePath : Place) (removeSource : Bool) :
    Program (Lib.World γ) Raised SessionArchiveResult := do
  if ← Files.look fun fs => fs.isDir sessionDir then
    Files.mkdirs env archivePath.dropLast
    Files.writeFile env archivePath (z.unfinished [])
    let paths ← closing env z archivePath [] (rglob env sessionDir)
    let members ← writeMembers env z sessionDir archivePath [] paths
    close env z archivePath members
    remove env sessionDir removeSource
    return ⟨archivePath, archivePath.getLastD "", sessionDir⟩
  else throw ⟨"FileNotFoundError", "Session directory not found"⟩

/-! ## What is kept -/

variable (before : FileSystem γ) (source archive : Place)

/-- The directory is as it was. -/
def Same (fs : FileSystem γ) : Prop := ∀ p, source <+: p → fs.get? p = before.get? p

/-- The members are the files that the directory had. -/
def Exact (members : List (Place × γ)) : Prop :=
  ∀ arcname content, (arcname, content) ∈ members ↔
    before.get? (source ++ arcname) = some (.file content)

/-- The archive is there, can be read and holds exactly the files that the directory had. -/
def Archived (fs : FileSystem γ) : Prop :=
  ∃ content members, fs.get? archive = some (.file content) ∧ z.read content = some members
    ∧ Exact before source members

def Kept (fs : FileSystem γ) : Prop := Same before source fs ∨ Archived z before source archive fs

/-- So far nothing has been lost, and the directory is still there. -/
def Whole (w : Lib.World γ) : Prop :=
  Same before source w.fs ∧ ∀ fs ∈ w.trail, Kept z before source archive fs

/-- So far nothing has been lost, and the archive is complete. -/
def Complete (w : Lib.World γ) : Prop :=
  Archived z before source archive w.fs ∧ ∀ fs ∈ w.trail, Kept z before source archive fs

/-- What may change while the archive is written. -/
def writing (archive : Place) : Footprint := ⟨[], [archive], []⟩

/-- What may change while the directory is removed. -/
def removing (source : Place) : Footprint := ⟨[source], [], []⟩

section Stable

variable {z before source archive} {fs fs' : FileSystem γ} {w w' : Lib.World γ}

theorem Same.within (h : Same before source fs) (hapart : ¬ source <+: archive)
    (hwithin : (writing archive).Within fs fs') : Same before source fs' := by
  intro p hp
  have hp' : (writing archive).Apart p := by
    refine Footprint.apart_of (by simp [writing]) (fun f hf => ?_) (by simp [writing])
    rw [show f = archive from by simpa [writing] using hf]
    exact fun hpf => hapart (hp.trans hpf)
  rw [hwithin.eq_of_apart hp', h p hp]

theorem Archived.within (h : Archived z before source archive fs) (hapart : ¬ source <+: archive)
    (hwithin : (removing source).Within fs fs') : Archived z before source archive fs' := by
  obtain ⟨content, members, hfile, hread, hexact⟩ := h
  refine ⟨content, members, ?_, hread, hexact⟩
  rcases hwithin archive with heq | hown | ⟨hlink, _⟩ | ⟨hnone, _, _⟩
  · rw [heq, hfile]
  · rcases hown with hown | ⟨t, ht, hprefix⟩
    · simp [removing] at hown
    · rw [show t = source from by simpa [removing] using ht] at hprefix
      exact absurd hprefix hapart
  · simp [removing] at hlink
  · rw [hfile] at hnone
    cases hnone

theorem Whole.always (hapart : ¬ source <+: archive) (hrun : (writing archive).Always w w')
    (h : Whole z before source archive w) : Whole z before source archive w' := by
  obtain ⟨more, htrail, hfs, hmore⟩ := hrun
  refine ⟨h.1.within hapart hfs, fun fs hmem => ?_⟩
  rw [htrail] at hmem
  rcases List.mem_append.mp hmem with hold | hnew
  · exact h.2 fs hold
  · exact .inl (h.1.within hapart (hmore fs hnew))

theorem Complete.always (hapart : ¬ source <+: archive) (hrun : (removing source).Always w w')
    (h : Complete z before source archive w) : Complete z before source archive w' := by
  obtain ⟨more, htrail, hfs, hmore⟩ := hrun
  refine ⟨h.1.within hapart hfs, fun fs hmem => ?_⟩
  rw [htrail] at hmem
  rcases List.mem_append.mp hmem with hold | hnew
  · exact h.2 fs hold
  · exact .inr (h.1.within hapart (hmore fs hnew))

end Stable

/-! ## The loop -/

section Loop

variable {env z before source archive} {α : Type}

/-- What changes only the archive keeps the directory whole. -/
theorem whole_of_keeps (hapart : ¬ source <+: archive) {m : Program (Lib.World γ) Raised α}
    (h : Keeps (writing archive).Always m) :
    Triple (Whole z before source archive) m (fun _ => Whole z before source archive)
      fun _ => Whole z before source archive :=
  h.triple fun _ _ hrun hwhole => hwhole.always hapart hrun

theorem owns_archive (archive : Place) : (writing archive).Owns archive :=
  .inl (List.mem_singleton_self archive)

theorem keeps_close (members : List (Place × γ)) :
    Keeps (writing archive).Always (close env z archive members) :=
  Footprint.keeps_writeFile (owns_archive archive) _

theorem keeps_closing {members : List (Place × γ)} {m : Program (Lib.World γ) Raised α}
    (h : Keeps (writing archive).Always m) :
    Keeps (writing archive).Always (closing env z archive members m) :=
  Keeps.tryCatch h fun e => Keeps.bind (keeps_close members) fun _ => Keeps.throw e

theorem keeps_writeMember (members : List (Place × γ)) (arcname : Place) :
    Keeps (writing archive).Always (writeMember env z source archive members arcname) :=
  Keeps.bind (Footprint.keeps_read _) fun _ =>
    Keeps.bind (Footprint.keeps_writeFile (owns_archive archive) _) fun _ => Keeps.pure _

/-- The exception of a part of the body, if there is one, comes out of the block. -/
theorem closing_ok {members : List (Place × γ)} {m : Program (Lib.World γ) Raised α}
    {w w' : Lib.World γ} {a : α} (h : (closing env z archive members m).exec w = (.ok a, w')) :
    m.exec w = (.ok a, w') := by
  unfold closing at h
  rw [exec_tryCatch] at h
  cases hm : m.exec w with
  | mk r s =>
    rw [hm] at h
    cases r with
    | ok a' => exact h
    | error e =>
        obtain ⟨_, _, _, hthrow⟩ := exec_bind_ok h
        cases hthrow

/-- A member is added with the content that its file had. -/
theorem writeMember_ok {members members' : List (Place × γ)} {arcname : Place} {w w' : Lib.World γ}
    (h : (writeMember env z source archive members arcname).exec w = (.ok members', w')) :
    ∃ content, w.fs.get? (source ++ arcname) = some (.file content)
      ∧ members' = members ++ [(arcname, content)] := by
  obtain ⟨content, w₁, hread, hrest⟩ := exec_bind_ok h
  obtain ⟨hfile, _⟩ := Files.read_ok hread
  obtain ⟨_, w₂, _, hreturn⟩ := exec_bind_ok hrest
  obtain ⟨hmembers, _⟩ := exec_pure_ok hreturn
  refine ⟨content, ?_, hmembers⟩
  split at hfile
  · rename_i content' hget
    rw [hget, Except.ok.inj hfile]
  · cases hfile

/-- One turn for a file. -/
theorem triple_writeMember (hapart : ¬ source <+: archive) (members : List (Place × γ))
    (arcname : Place) :
    Triple (Whole z before source archive)
      (closing env z archive members (writeMember env z source archive members arcname))
      (fun members' w => Whole z before source archive w ∧
        ∃ content, before.get? (source ++ arcname) = some (.file content)
          ∧ members' = members ++ [(arcname, content)])
      fun _ => Whole z before source archive := by
  intro w hw
  have hkeeps : Keeps (writing archive).Always
      (closing env z archive members (writeMember env z source archive members arcname)) :=
    keeps_closing (keeps_writeMember members arcname)
  have hend := whole_of_keeps hapart hkeeps w hw
  cases hrun : (closing env z archive members
    (writeMember env z source archive members arcname)).exec w with
  | mk r w' =>
    rw [hrun] at hend
    cases r with
    | ok members' =>
        obtain ⟨content, hfile, hmembers⟩ := writeMember_ok (closing_ok hrun)
        rw [hw.1 _ (List.prefix_append source arcname)] at hfile
        exact ⟨hend, content, hfile, hmembers⟩
    | error e => exact hend

/-- What the loop adds to the members: the files among the paths. Induction on the paths. -/
theorem triple_writeMembers (hapart : ¬ source <+: archive) (members : List (Place × γ))
    (paths : List Place) :
    Triple (Whole z before source archive) (writeMembers env z source archive members paths)
      (fun members' w => Whole z before source archive w ∧
        ∀ arcname content, (arcname, content) ∈ members' ↔ (arcname, content) ∈ members ∨
          arcname ∈ paths ∧ before.get? (source ++ arcname) = some (.file content))
      fun _ => Whole z before source archive := by
  induction paths generalizing members with
  | nil => exact Triple.pure members fun w hw => ⟨hw, fun arcname content => by simp⟩
  | cons path rest ih =>
      unfold writeMembers
      have hlook : Triple (Whole z before source archive)
          (Files.look fun fs => isFile fs (source ++ path))
          (fun b w => Whole z before source archive w ∧ b = isFile before (source ++ path))
          fun _ => Whole z before source archive := by
        intro w hw
        refine ⟨hw, ?_⟩
        show isFile w.fs (source ++ path) = isFile before (source ++ path)
        rw [isFile, isFile, hw.1 _ (List.prefix_append source path)]
      refine Triple.bind hlook fun b => Triple.ite (fun _ => ?_) fun hb => ?_
      · refine Triple.bind ((triple_writeMember hapart members path).pre fun w hw => hw.1)
          fun members' => ?_
        intro w hw
        obtain ⟨hwhole, content, hfile, rfl⟩ := hw
        refine (ih (members ++ [(path, content)])).post (fun members' w' hw' => ?_) w hwhole
        refine ⟨hw'.1, fun arcname content' => ?_⟩
        rw [hw'.2, List.mem_append, List.mem_singleton, List.mem_cons, Prod.mk.injEq]
        constructor
        · rintro ((hold | ⟨rfl, rfl⟩) | ⟨hmem, hget⟩)
          · exact .inl hold
          · exact .inr ⟨.inl rfl, hfile⟩
          · exact .inr ⟨.inr hmem, hget⟩
        · rintro (hold | ⟨rfl | hmem, hget⟩)
          · exact .inl (.inl hold)
          · rw [hfile] at hget
            cases hget
            exact .inl (.inr ⟨rfl, rfl⟩)
          · exact .inr ⟨hmem, hget⟩
      · intro w hw
        refine (ih members).post (fun members' w' hw' => ?_) w hw.1
        refine ⟨hw'.1, fun arcname content => ?_⟩
        rw [hw'.2, List.mem_cons]
        constructor
        · rintro (hold | ⟨hmem, hget⟩)
          · exact .inl hold
          · exact .inr ⟨.inr hmem, hget⟩
        · rintro (hold | ⟨rfl | hmem, hget⟩)
          · exact .inl hold
          -- the path is no file
          · rw [hw.2, isFile_of_get? hget] at hb
            exact absurd rfl hb
          · exact .inr ⟨hmem, hget⟩

/-- Every file of the directory is among the paths. -/
theorem triple_rglob (hapart : ¬ source <+: archive) (hdir : before.isDir source = true) :
    Triple (Whole z before source archive) (closing env z archive [] (rglob env source))
      (fun paths w => Whole z before source archive w ∧
        ∀ arcname content, before.get? (source ++ arcname) = some (.file content) →
          arcname ∈ paths)
      fun _ => Whole z before source archive := by
  intro w hw
  have hkeeps : Keeps (writing archive).Always (closing env z archive [] (rglob env source)) :=
    keeps_closing (Footprint.keeps_read _)
  have hend := whole_of_keeps hapart hkeeps w hw
  cases hrun : (closing env z archive [] (rglob env source)).exec w with
  | mk r w' =>
    rw [hrun] at hend
    cases r with
    | error e => exact hend
    | ok paths =>
        refine ⟨hend, fun arcname content hget => ?_⟩
        obtain ⟨hpaths, _⟩ := Files.read_ok (closing_ok hrun)
        rw [← Except.ok.inj hpaths, List.mem_filter, decide_eq_true_eq]
        constructor
        · rw [← hw.1 _ (List.prefix_append source arcname), Dict.get?_eq_some_iff] at hget
          refine List.mem_map.mpr ⟨(arcname, .file content), ?_, rfl⟩
          unfold FileSystem.subtree
          refine List.mem_map.mpr ⟨(source ++ arcname, .file content), ?_, ?_⟩
          · exact List.mem_filter.mpr ⟨hget, by simp⟩
          · simp
        · rintro rfl
          rw [List.append_nil, FileSystem.get?_of_isDir before hdir] at hget
          cases hget

/-- The end of the `with` block. -/
theorem triple_close (hapart : ¬ source <+: archive) {members : List (Place × γ)}
    (hexact : Exact before source members) :
    Triple (Whole z before source archive) (close env z archive members)
      (fun _ w => Whole z before source archive w ∧ Complete z before source archive w)
      fun _ => Whole z before source archive := by
  intro w hw
  have hkeeps : Keeps (writing archive).Always (close env z archive members) := keeps_close members
  have hend := whole_of_keeps hapart hkeeps w hw
  cases hrun : (close env z archive members).exec w with
  | mk r w' =>
    rw [hrun] at hend
    cases r with
    | error e => exact hend
    | ok u =>
        obtain ⟨_, hfs⟩ := Files.writeFile_ok hrun
        refine ⟨hend, ⟨z.closed members, members, ?_, z.read_closed members, hexact⟩, hend.2⟩
        rw [hfs, Dict.get?_set_self]

/-- Removing the directory, completely or up to where it fails. -/
theorem triple_rmtree (hapart : ¬ source <+: archive) :
    Triple (Complete z before source archive) (Files.rmtree env source)
      (fun _ w => Complete z before source archive w ∧ ∀ p, source <+: p → w.fs.get? p = none)
      fun _ => Complete z before source archive := by
  intro w hw
  have hkeeps : Keeps (removing source).Always (Files.rmtree env source) :=
    Footprint.keeps_rmtree ⟨source, List.mem_singleton_self source, List.prefix_rfl⟩
  have hend := hkeeps.triple (fun _ _ hrun hc => Complete.always hapart hrun hc) w hw
  cases hrun : (Files.rmtree env source).exec w with
  | mk r w' =>
    rw [hrun] at hend
    cases r with
    | error e => exact hend
    | ok u =>
        refine ⟨hend, fun p hp => ?_⟩
        have hact := Files.attempt_ok hrun
        split at hact
        · rw [← Except.ok.inj hact, FileSystem.get?_removeTree, if_pos]
          simp [hp]
        · cases hact
        · cases hact
        · cases hact

end Loop

/-! ## The function keeps the session -/

section Function

variable {env z before source archive}

/-- What holds when the function has returned. -/
def Done (z : Zip γ) (before : FileSystem γ) (source archive : Place) (removeSource : Bool)
    (w : Lib.World γ) : Prop :=
  Complete z before source archive w ∧ (removeSource = true → ∀ p, source <+: p →
    w.fs.get? p = none) ∧ (removeSource = false → Same before source w.fs)

/-- What holds when it has raised. -/
def Failed (z : Zip γ) (before : FileSystem γ) (source archive : Place) (w : Lib.World γ) : Prop :=
  Whole z before source archive w ∨ Complete z before source archive w

/-- The part after the `with` block. -/
theorem triple_remove (hapart : ¬ source <+: archive) (removeSource : Bool) :
    Triple (fun w => Whole z before source archive w ∧ Complete z before source archive w)
      (remove env source removeSource)
      (fun _ => Done z before source archive removeSource)
      fun _ => Failed z before source archive := by
  refine Triple.ite (fun htrue => ?_) fun hfalse => ?_
  · refine ((triple_rmtree hapart).pre fun _ hw => hw.2).weaken (fun _ hw => hw) (fun _ w hw => ?_)
      fun _ _ hw => .inr hw
    exact ⟨hw.1, fun _ => hw.2, fun hfalse => by rw [htrue] at hfalse; cases hfalse⟩
  · exact Triple.pure _ fun w hw => ⟨hw.2, fun htrue => absurd htrue hfalse, fun _ => hw.1.1⟩

theorem triple_archiveSessionDirectory (hapart : ¬ source <+: archive) (removeSource : Bool) :
    Triple (Whole z before source archive)
      (archiveSessionDirectory env z source archive removeSource)
      (fun _ => Done z before source archive removeSource)
      fun _ => Failed z before source archive := by
  have hlook : Triple (Whole z before source archive)
      (Files.look fun fs => fs.isDir source)
      (fun b w => Whole z before source archive w ∧ b = before.isDir source)
      fun _ => Failed z before source archive := by
    intro w hw
    refine ⟨hw, ?_⟩
    show w.fs.isDir source = before.isDir source
    rw [FileSystem.isDir, FileSystem.isDir, hw.1 source List.prefix_rfl]
  have hmkdirs : Keeps (writing archive).Always (Files.mkdirs env archive.dropLast) := by
    refine Footprint.keeps_mkdirs fun q hq => .inr ⟨archive, ?_, ?_⟩
    · exact List.mem_singleton_self archive
    · exact hq.trans (List.dropLast_prefix archive)
  have hopen : Keeps (writing archive).Always (Files.writeFile env archive (z.unfinished [])) :=
    Footprint.keeps_writeFile (owns_archive archive) _
  have hwhole : ∀ {α : Type} {m : Program (Lib.World γ) Raised α} {Q : α → Lib.World γ → Prop},
      Triple (Whole z before source archive) m Q (fun _ => Whole z before source archive) →
      Triple (Whole z before source archive) m Q fun _ => Failed z before source archive :=
    fun h => h.weaken (fun _ hw => hw) (fun _ _ hw => hw) fun _ _ hw => .inl hw
  unfold archiveSessionDirectory
  refine Triple.bind hlook fun b => Triple.ite (fun hb => ?_) fun _ => ?_
  · intro w hw
    obtain ⟨hstart, hdir⟩ := hw
    rw [hb] at hdir
    refine Triple.bind (hwhole (whole_of_keeps hapart hmkdirs)) (fun _ => ?_) w hstart
    refine Triple.bind (hwhole (whole_of_keeps hapart hopen)) fun _ => ?_
    refine Triple.bind (hwhole (triple_rglob hapart hdir.symm)) fun paths => ?_
    intro w₁ hw₁
    refine Triple.bind (hwhole (triple_writeMembers hapart [] paths)) (fun members => ?_) w₁ hw₁.1
    intro w₂ hw₂
    have hexact : Exact before source members := by
      intro arcname content
      rw [hw₂.2]
      constructor
      · rintro (hnil | ⟨_, hget⟩)
        · cases hnil
        · exact hget
      · exact fun hget => .inr ⟨hw₁.2 arcname content hget, hget⟩
    refine Triple.bind (hwhole (triple_close hapart hexact)) (fun _ => ?_) w₂ hw₂.1
    exact Triple.bind (triple_remove hapart removeSource) fun _ => Triple.pure _ fun _ hw => hw
  · exact Triple.throw _ fun w hw => .inl hw.1

/-- What the function may change at all. -/
theorem keeps_archiveSessionDirectory (removeSource : Bool) :
    Keeps (Footprint.Always ⟨[source], [archive], []⟩)
      (archiveSessionDirectory env z source archive removeSource) := by
  have harchive : Footprint.Owns ⟨[source], [archive], []⟩ archive :=
    .inl (List.mem_singleton_self archive)
  have hclose : ∀ members : List (Place × γ),
      Keeps (Footprint.Always ⟨[source], [archive], []⟩) (close env z archive members) :=
    fun members => Footprint.keeps_writeFile harchive _
  have hclosing : ∀ {α : Type} {members : List (Place × γ)} {m : Program (Lib.World γ) Raised α},
      Keeps (Footprint.Always ⟨[source], [archive], []⟩) m →
      Keeps (Footprint.Always ⟨[source], [archive], []⟩) (closing env z archive members m) :=
    fun hm => Keeps.tryCatch hm fun e => Keeps.bind (hclose _) fun _ => Keeps.throw e
  have hmembers : ∀ (members : List (Place × γ)) (paths : List Place),
      Keeps (Footprint.Always ⟨[source], [archive], []⟩)
        (writeMembers env z source archive members paths) := by
    intro members paths
    induction paths generalizing members with
    | nil => exact Keeps.pure members
    | cons path rest ih =>
        refine Keeps.bind (Footprint.keeps_look _) fun b => Keeps.ite ?_ (ih members)
        refine Keeps.bind (hclosing ?_) fun members' => ih members'
        exact Keeps.bind (Footprint.keeps_read _) fun _ =>
          Keeps.bind (Footprint.keeps_writeFile harchive _) fun _ => Keeps.pure _
  unfold archiveSessionDirectory
  refine Keeps.bind (Footprint.keeps_look _) fun b => Keeps.ite ?_ (Keeps.throw _)
  refine Keeps.bind (Footprint.keeps_mkdirs fun q hq => ?_) fun _ => ?_
  · exact Footprint.owns_or_way harchive (hq.trans (List.dropLast_prefix archive))
  refine Keeps.bind (Footprint.keeps_writeFile harchive _) fun _ => ?_
  refine Keeps.bind (hclosing (Footprint.keeps_read _)) fun paths => ?_
  refine Keeps.bind (hmembers [] paths) fun members => ?_
  refine Keeps.bind (hclose members) fun _ => Keeps.bind ?_ fun _ => Keeps.pure _
  have hsource : ∃ t ∈ [source], t <+: source :=
    ⟨source, List.mem_singleton_self source, List.prefix_rfl⟩
  exact Keeps.ite (Footprint.keeps_rmtree hsource) (Keeps.pure _)

end Function

/-! ## A removal that fails -/

/-- Contents for a file system with archives. -/
inductive Content where
  | raw (n : Nat)
  | zip (closed : Bool) (members : List (Place × Content))

def Content.members? : Content → Option (List (Place × Content))
  | zip true members => some members
  | _ => none

def contentZip : Zip Content where
  unfinished := .zip false
  closed := .zip true
  read := Content.members?
  read_closed _ := rfl

/-- The file of a session. -/
def rawFile : Place := ["sessions", "walk", "raw.csv"]

def oneFile : FileSystem Content :=
  (((Dict.single ["sessions"] .dir).set ["sessions", "walk"] .dir).set rawFile (.file (.raw 7)))

/-- The removal of the directory fails when the file is gone. -/
def rmtreeFails : Environment Content where
  faults n := if n = 4 then some { text := "Permission denied", spared := (· ≠ rawFile) } else none

end NexusN3.Storage.ArchiveDirectory
