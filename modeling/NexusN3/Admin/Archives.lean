import NexusN3.Lib.Base64
import NexusN3.Lib.Dict
import NexusN3.Lib.Value
import NexusN3.Storage.Paths
import Mathlib.Data.String.Basic

/-!
# The archives that can be listed and fetched

`FileManager.archive_session` writes archives, `ArchiveService` lists and resolves them. Both
derive the directory from the site, each with a sanitizer of its own; names in the directory are
whatever the disk holds.

* **`Directory`** — names, also such as no text stands for, with what they name.
* **`ArchiveService.listArchives`**, **`ArchiveService.resolveArchive`** — the two readers.
* **`archiveSession`** — the writer.
* **`sanitizeSite_eq`** — both sides mean the same directory.
* **`listArchives_eq_ok_iff`**, **`resolveArchive_eq_ok_iff`** — what each of the readers returns.
* **`archives_exact_iff`** — when what is listed is what can be fetched.
-/

namespace NexusN3.Admin

open Lib Storage

/-! ## Directories -/

/-- A name on disk. Bytes that are no UTF-8 are read as codes, lone surrogates among them, which
no text has. -/
inductive FileName where
  | text (name : String)
  | undecodable (codes : List Nat)
  deriving DecidableEq

def FileName.codes : FileName → List Nat
  | text name => name.toList.map Char.toNat
  | undecodable codes => codes

/-- `PurePath.suffix` of a name: from its last dot on, unless the dot is at one of the ends. -/
def suffix (codes : List Nat) : List Nat :=
  let ending := (codes.reverse.takeWhile (· ≠ '.'.toNat)).reverse
  if ending.length + 1 < codes.length ∧ ending ≠ [] then '.'.toNat :: ending else []

/-- `str.lower` as far as `.zip` goes: no character outside of ASCII becomes one of its letters. -/
def lowerCode (code : Nat) : Nat :=
  if 'A'.toNat ≤ code ∧ code ≤ 'Z'.toNat then code + 32 else code

/-- `path.suffix.lower() == ".zip"`. -/
def FileName.isZip (name : FileName) : Bool :=
  decide ((suffix name.codes).map lowerCode = ".zip".toList.map Char.toNat)

/-- Where a link leads in the end. -/
inductive LinkTarget where
  | sibling (name : FileName)
  -- below the directory or outside of it, at a directory or not
  | away (below : Bool) (isDirectory : Bool)
  deriving DecidableEq

inductive Entry where
  | file (size : Nat) (mtime : Int)
  | directory
  | link (target : LinkTarget)
  -- a pipe, a socket or a device
  | special
  deriving DecidableEq

/-- What the system takes for the name of an entry. -/
def EntryName (name : String) : Prop := Path.IsName name ∧ '\x00' ∉ name.toList

instance (name : String) : Decidable (EntryName name) := by
  unfold EntryName
  infer_instance

def FileName.Proper : FileName → Prop
  | text name => EntryName name
  | undecodable _ => True

instance (name : FileName) : Decidable name.Proper := by
  cases name <;> unfold FileName.Proper <;> infer_instance

structure Directory where
  entries : Dict FileName Entry
  proper : ∀ name ∈ entries.keys, name.Proper

namespace Directory

def get? (d : Directory) (name : FileName) : Option Entry := d.entries.get? name

def erase (d : Directory) (name : FileName) : Directory where
  entries := d.entries.erase name
  proper := fun other h => d.proper other (Dict.mem_keys_erase.mp h).2

/-- A file is written, over the one of that name if there is one. -/
def write (d : Directory) (name : FileName) (size : Nat) (mtime : Int) (h : name.Proper) :
    Directory where
  entries := d.entries.set name (.file size mtime)
  proper := fun other hother => by
    rcases Dict.mem_keys_set.mp hother with rfl | hmem
    · exact h
    · exact d.proper other hmem

/-- Where a name leads in the end; `none` is away from the directory. -/
def follow (d : Directory) (name : FileName) : Option FileName :=
  match d.get? name with
  | some (.link (.sibling other)) => some other
  | some (.link (.away _ _)) => none
  | _ => some name

/-- `path.is_dir()`. -/
def isDir (d : Directory) (name : FileName) : Bool :=
  match d.get? name with
  | some .directory => true
  | some (.link (.sibling other)) => decide (d.get? other = some .directory)
  | some (.link (.away _ isDirectory)) => isDirectory
  | _ => false

/-- `shutil.rmtree` of what a name leads to. -/
def removeTree (d : Directory) (name : FileName) : Directory :=
  match d.follow name with
  | some other => d.erase other
  | none => d

/-- `ZipFile(path, "w")` at what a name leads to; `none` when it raises. -/
def writeArchive (d : Directory) (name : FileName) (size : Nat) (now : Int) :
    Option (Option FileName × Directory) :=
  match d.follow name with
  | none => some (none, d)
  | some target =>
    match d.get? target with
    | none | some (.file _ _) =>
      if h : target.Proper then some (some target, d.write target size now h) else none
    | _ => none

end Directory

/-! ## The service -/

inductive StorageSource where
  | internal
  | usb
  deriving DecidableEq

structure Disk where
  -- the path in `status["usb_disk"]`, where it is present and a directory
  usb : Option (List String)
  internalRoot : List String
  internalAvailable : Bool
  -- A directory that is missing is made, and empty; `none` where making or reading it fails.
  read : List String → Option Directory

inductive ArchiveError where
  | storageUnavailable
  | siteChanged
  | sourceChanged
  | invalidArchiveId
  | archiveNotFound
  -- What nothing catches: a name that cannot be encoded, a NUL in a path, a time out of range.
  | unicodeEncodeError
  | embeddedNull
  | timestampError
  deriving DecidableEq

structure ArchiveFile where
  archiveId : String
  filename : FileName
  directory : List String
  sizeBytes : Nat
  modifiedAt : String
  deriving DecidableEq

/-- `_encode_id`. -/
def encodeId : FileName → Except ArchiveError String
  | .text name => .ok (Base64.encodeText name)
  | .undecodable _ => .error .unicodeEncodeError

/-- `_decode_id`. -/
def decodeId (archiveId : String) : Except ArchiveError String :=
  if archiveId = "" ∨ (archiveId.toList.any fun c => decide (c ∉ Base64.alphabet)) = true then
    .error .invalidArchiveId
  else
    match Base64.decodeText archiveId with
    | none => .error .invalidArchiveId
    | some decoded =>
      if Base64.encodeText decoded ≠ archiveId then .error .invalidArchiveId else .ok decoded

/-- `_sanitize_site`. -/
def sanitizeSite (site : String) : String :=
  let cleaned := stripDots (replaceRuns false site.toList)
  if cleaned = [] ∨ cleaned = ['.'] ∨ cleaned = ['.', '.'] then "local"
  else if isReserved cleaned then String.ofList ('_' :: cleaned)
  else String.ofList cleaned

structure ArchiveService where
  site : String
  siteDirectory : String

namespace ArchiveService

/-- `__init__`. -/
def new (site : Option String) : ArchiveService :=
  let stripped := strip ((site.filter (· ≠ "")).getD "local")
  let site := if stripped = "" then "local" else stripped
  { site := site, siteDirectory := sanitizeSite site }

def activeRoot (disk : Disk) : Except ArchiveError (StorageSource × List String) :=
  match disk.usb with
  | some path => .ok (.usb, path)
  | none =>
    if disk.internalAvailable then .ok (.internal, disk.internalRoot)
    else .error .storageUnavailable

variable (svc : ArchiveService) (disk : Disk)

/-- `archive_root`, with what the directory holds. -/
def archiveRoot (requestedSite : String) :
    Except ArchiveError (StorageSource × List String × Directory) := do
  if requestedSite ≠ svc.site then throw .siteChanged
  let (source, storageRoot) ← activeRoot disk
  let root := Path.join (Path.join storageRoot svc.siteDirectory) "sessions"
  match disk.read root with
  | none => throw .storageUnavailable
  | some directory => return (source, root, directory)

-- `datetime.fromtimestamp(mtime, utc)` and its text; `none` where `datetime` has no such time
variable (isoformat : Int → Option String)

def timeText (mtime : Int) : Except ArchiveError String :=
  match isoformat mtime with
  | none => .error .timestampError
  | some text => .ok text

/-- The body of the loop over the entries. -/
def listEntry (root : List String) (e : FileName × Entry) :
    Except ArchiveError (Option ArchiveFile) :=
  match e.2 with
  | .file size mtime =>
    if e.1.isZip then do
      let modifiedAt ← timeText isoformat mtime
      let archiveId ← encodeId e.1
      return some ⟨archiveId, e.1, root, size, modifiedAt⟩
    else return none
  | _ => return none

/-- The newest first, and of the same time the last name. -/
def newestFirst (a b : ArchiveFile) : Bool :=
  decide (b.modifiedAt < a.modifiedAt)
    || decide (b.modifiedAt = a.modifiedAt) && decide (b.filename.codes ≤ a.filename.codes)

def listArchives (requestedSite : String) :
    Except ArchiveError (StorageSource × List ArchiveFile) := do
  let (source, root, directory) ← svc.archiveRoot disk requestedSite
  let archives ← directory.entries.entries.mapM (listEntry isoformat root)
  return (source, (archives.filterMap id).mergeSort newestFirst)

def resolveArchive (archiveId : String) (storageSource : StorageSource) (requestedSite : String) :
    Except ArchiveError ArchiveFile := do
  let (activeSource, root, directory) ← svc.archiveRoot disk requestedSite
  if storageSource ≠ activeSource then throw .sourceChanged
  let filename ← decodeId archiveId
  if Path.name filename ≠ filename ∨ (FileName.text filename).isZip = false then
    throw .invalidArchiveId
  if '\x00' ∈ filename.toList then throw .embeddedNull
  match directory.get? (.text filename) with
  | some (.link (.away false _)) => throw .invalidArchiveId
  | some (.file size mtime) => do
    let modifiedAt ← timeText isoformat mtime
    return ⟨archiveId, .text filename, root, size, modifiedAt⟩
  | _ => throw .archiveNotFound

end ArchiveService

/-! ## The writer -/

/-- `archive_session` in the directory `base_dir`: where the archive is, and what the directory
holds then. -/
def archiveSession (isalnum : Char → Bool) (fm : FileManager) (sessionIndex : String)
    (d : Directory) (size : Nat) (now : Int) : Option (Option FileName × Directory) :=
  let sessionDir := FileName.text (fm.buildSessionId sessionIndex)
  let name := buildSessionArchiveName isalnum fm.sessionName (some sessionIndex)
  -- the `ValueError` of an empty index, the `FileNotFoundError` of a missing directory
  if sessionIndex = "" ∨ d.isDir sessionDir = false then none
  else (d.writeArchive (.text name) size now).map fun w => (w.1, w.2.removeTree sessionDir)

/-! ## Both readers see the same archives -/

/-- A name that can be put into an identifier, and a time that can be told. -/
def Good (isoformat : Int → Option String) (name : FileName) (mtime : Int) : Prop :=
  (∃ text, name = .text text) ∧ (isoformat mtime).isSome

namespace Directory

variable (d : Directory) (isoformat : Int → Option String) (root : List String)

/-- A regular file that is called `.zip`. -/
def Archive (name : FileName) (size : Nat) (mtime : Int) : Prop :=
  d.get? name = some (.file size mtime) ∧ name.isZip = true

def AllGood : Prop := ∀ name size mtime, d.Archive name size mtime → Good isoformat name mtime

def NoneGood : Prop := ∀ name size mtime, d.Archive name size mtime → ¬ Good isoformat name mtime

/-- What a reader returns of the archives that are there. -/
def Holds (item : ArchiveFile) : Prop :=
  ∃ text mtime, item.filename = .text text ∧ item.archiveId = Base64.encodeText text ∧
    item.directory = root ∧ d.Archive item.filename item.sizeBytes mtime ∧
    isoformat mtime = some item.modifiedAt

variable {d isoformat root}

theorem Archive.of_holds {item : ArchiveFile} (h : d.Holds isoformat root item) :
    ∃ mtime, d.Archive item.filename item.sizeBytes mtime ∧
      Good isoformat item.filename mtime := by
  obtain ⟨text, mtime, hname, -, -, harchive, htime⟩ := h
  exact ⟨mtime, harchive, ⟨text, hname⟩, by rw [htime]; rfl⟩

theorem Archive.holds {name : FileName} {size : Nat} {mtime : Int} (h : d.Archive name size mtime)
    (hgood : Good isoformat name mtime) :
    ∃ item, d.Holds isoformat root item ∧ item.filename = name := by
  obtain ⟨⟨text, rfl⟩, htime⟩ := hgood
  obtain ⟨time, htime⟩ := Option.isSome_iff_exists.mp htime
  exact ⟨⟨Base64.encodeText text, .text text, root, size, time⟩,
    ⟨text, mtime, rfl, rfl, rfl, h, htime⟩, rfl⟩

theorem noneGood_iff : d.NoneGood isoformat ↔ ¬ ∃ item, d.Holds isoformat root item := by
  constructor
  · rintro h ⟨item, hitem⟩
    obtain ⟨mtime, harchive, hgood⟩ := Archive.of_holds hitem
    exact h _ _ _ harchive hgood
  · intro h name size mtime harchive hgood
    obtain ⟨item, hitem, -⟩ := harchive.holds hgood
    exact h ⟨item, hitem⟩

end Directory

namespace ArchiveService

variable {isoformat : Int → Option String} {root : List String}

theorem listEntry_eq_ok_some_iff {e : FileName × Entry} {item : ArchiveFile} :
    listEntry isoformat root e = .ok (some item) ↔
      ∃ text mtime, item.filename = .text text ∧ item.archiveId = Base64.encodeText text ∧
        item.directory = root ∧ isoformat mtime = some item.modifiedAt ∧
        e = (item.filename, .file item.sizeBytes mtime) ∧ item.filename.isZip = true := by
  obtain ⟨name, entry⟩ := e
  constructor
  · intro h
    unfold listEntry at h
    dsimp only at h
    split at h
    · rename_i size mtime
      split at h
      · rename_i hzip
        unfold timeText at h
        cases htime : isoformat mtime with
        | none =>
          rw [htime] at h
          cases h
        | some time =>
          rw [htime] at h
          cases name with
          | undecodable codes => cases h
          | text text =>
            cases h
            exact ⟨text, mtime, rfl, rfl, rfl, htime, rfl, hzip⟩
      · cases h
    · cases h
  · rintro ⟨text, mtime, hname, hid, hroot, htime, heq, hzip⟩
    obtain ⟨archiveId, filename, directory, size, time⟩ := item
    dsimp only at hname hid hroot htime heq hzip
    cases heq
    rw [hname] at hzip ⊢
    unfold listEntry timeText
    dsimp only
    rw [if_pos hzip, htime, hid, hroot]
    rfl

/-- The loop goes past an entry unless it is an archive that is not good. -/
theorem exists_listEntry_eq_ok_iff {e : FileName × Entry} :
    (∃ r, listEntry isoformat root e = .ok r) ↔
      ∀ size mtime, e.2 = .file size mtime → e.1.isZip = true → Good isoformat e.1 mtime := by
  obtain ⟨name, entry⟩ := e
  unfold listEntry
  dsimp only
  split
  · rename_i size mtime
    by_cases hzip : name.isZip = true
    · rw [if_pos hzip]
      unfold timeText
      cases htime : isoformat mtime with
      | none =>
        refine iff_of_false (fun ⟨r, hr⟩ => by cases hr) fun h => ?_
        have hgood := (h size mtime rfl hzip).2
        rw [htime] at hgood
        cases hgood
      | some time =>
        cases name with
        | undecodable codes =>
          refine iff_of_false (fun ⟨r, hr⟩ => by cases hr) fun h => ?_
          obtain ⟨⟨text, heq⟩, -⟩ := h size mtime rfl hzip
          cases heq
        | text text =>
          refine iff_of_true ⟨_, rfl⟩ fun size' mtime' heq _ => ?_
          cases heq
          exact ⟨⟨text, rfl⟩, by rw [htime]; rfl⟩
    · rw [if_neg hzip]
      exact iff_of_true ⟨_, rfl⟩ fun _ _ _ h => absurd h hzip
  · rename_i hfile
    exact iff_of_true ⟨_, rfl⟩ fun size mtime heq => absurd heq (hfile size mtime)

variable {svc : ArchiveService} {disk : Disk} {site : String} {source : StorageSource}

/-- The listing raises on one archive that is not good; otherwise it is what the directory holds. -/
theorem listArchives_of_archiveRoot {d : Directory}
    (hroot : svc.archiveRoot disk site = .ok (source, root, d)) :
    (∀ found items, svc.listArchives disk isoformat site = .ok (found, items) →
      found = source ∧ d.AllGood isoformat ∧ ∀ item, item ∈ items ↔ d.Holds isoformat root item) ∧
    (d.AllGood isoformat →
      ∃ items, svc.listArchives disk isoformat site = .ok (source, items)) := by
  constructor
  · intro found items h
    unfold listArchives at h
    rw [hroot] at h
    simp only [bind, Except.bind] at h
    cases hrun : d.entries.entries.mapM (listEntry isoformat root) with
    | error e =>
      rw [hrun] at h
      cases h
    | ok archives =>
      rw [hrun] at h
      cases h
      obtain ⟨hseen, hfrom⟩ := exists_mem_of_mapM_ok hrun
      refine ⟨rfl, ?_, fun item => ?_⟩
      · rintro name size mtime ⟨hget, hzip⟩
        obtain ⟨r, -, hr⟩ := hseen _ (Dict.get?_eq_some_iff.mp hget)
        exact exists_listEntry_eq_ok_iff.mp ⟨r, hr⟩ size mtime rfl hzip
      · rw [List.mem_mergeSort, List.mem_filterMap]
        constructor
        · rintro ⟨_, hmem, rfl⟩
          obtain ⟨e, he, hitem⟩ := hfrom _ hmem
          obtain ⟨text, mtime, hname, hid, hdir, htime, rfl, hzip⟩ :=
            listEntry_eq_ok_some_iff.mp hitem
          exact ⟨text, mtime, hname, hid, hdir, ⟨Dict.get?_eq_some_iff.mpr he, hzip⟩, htime⟩
        · rintro ⟨text, mtime, hname, hid, hdir, ⟨hget, hzip⟩, htime⟩
          obtain ⟨r, hr, hitem⟩ := hseen _ (Dict.get?_eq_some_iff.mp hget)
          have hsome :=
            listEntry_eq_ok_some_iff.mpr ⟨text, mtime, hname, hid, hdir, htime, rfl, hzip⟩
          rw [hsome, Except.ok.injEq] at hitem
          exact ⟨r, hr, hitem.symm⟩
  · intro hgood
    obtain ⟨archives, hrun⟩ := exists_mapM_ok (f := listEntry isoformat root)
      (l := d.entries.entries) fun e he => exists_listEntry_eq_ok_iff.mpr fun size mtime heq hzip =>
        hgood e.1 size mtime ⟨Dict.get?_eq_some_iff.mpr (heq ▸ he), hzip⟩
    unfold listArchives
    rw [hroot]
    simp only [bind, Except.bind]
    rw [hrun]
    exact ⟨_, rfl⟩

theorem encodeText_eq_empty_iff {text : String} : Base64.encodeText text = "" ↔ text = "" :=
  @Base64.encodeText_inj text ""

/-- The identifier of a name is read back, and nothing else is. -/
theorem decodeId_eq_ok_iff {archiveId text : String} :
    decodeId archiveId = .ok text ↔ text ≠ "" ∧ archiveId = Base64.encodeText text := by
  unfold decodeId
  split
  · rename_i hbad
    refine iff_of_false (fun h => by cases h) fun ⟨hne, heq⟩ => ?_
    rcases hbad with hempty | hout
    · exact hne (encodeText_eq_empty_iff.mp (heq.symm.trans hempty))
    · obtain ⟨c, hc, hout⟩ := List.any_eq_true.mp hout
      rw [heq, Base64.encodeText, String.toList_ofList] at hc
      exact of_decide_eq_true hout (Base64.mem_alphabet_of_mem_encode hc)
  · rename_i hplain
    have hne : archiveId ≠ "" := fun heq => hplain (Or.inl heq)
    constructor
    · intro h
      cases hdecode : Base64.decodeText archiveId with
      | none =>
        rw [hdecode] at h
        cases h
      | some decoded =>
        rw [hdecode] at h
        dsimp only at h
        split at h
        · cases h
        · rename_i hsame
          cases h
          have heq := not_not.mp hsame
          exact ⟨fun hempty => hne (heq ▸ encodeText_eq_empty_iff.mpr hempty), heq.symm⟩
    · rintro ⟨-, rfl⟩
      rw [Base64.decodeText_encodeText]
      exact if_neg (not_not.mpr rfl)

theorem name_of_isName {text : String} (h : Path.IsName text) : Path.name text = text := by
  rw [Path.name, Path.components_of_isName h]
  rfl

/-- Resolving gives what the directory holds under the name that the identifier stands for. -/
theorem resolveArchive_eq_ok_iff {archiveId : String} {item : ArchiveFile} :
    svc.resolveArchive disk isoformat archiveId source site = .ok item ↔
      ∃ root d, svc.archiveRoot disk site = .ok (source, root, d) ∧
        d.Holds isoformat root item ∧ item.archiveId = archiveId := by
  unfold resolveArchive
  cases hroot : svc.archiveRoot disk site with
  | error e => exact iff_of_false (fun h => by cases h) fun ⟨_, _, h, _⟩ => by cases h
  | ok found =>
    obtain ⟨active, root, d⟩ := found
    simp only [bind, Except.bind, pure, Except.pure]
    constructor
    · intro h
      split at h
      · cases h
      · rename_i hsource
        obtain rfl : source = active := not_not.mp hsource
        split at h
        · cases h
        · rename_i text hdecode
          obtain ⟨-, hid⟩ := decodeId_eq_ok_iff.mp hdecode
          split at h
          · cases h
          · rename_i hname
            rw [not_or, not_not, Bool.not_eq_false] at hname
            split at h
            · cases h
            · split at h
              · cases h
              · rename_i size mtime hget
                unfold timeText at h
                cases htime : isoformat mtime with
                | none =>
                  rw [htime] at h
                  cases h
                | some time =>
                  rw [htime] at h
                  cases h
                  exact ⟨root, d, rfl, ⟨text, mtime, rfl, hid, rfl, ⟨hget, hname.2⟩, htime⟩, rfl⟩
              · cases h
    · rintro ⟨root', d', heq, ⟨text, mtime, hname, hid, hdir, ⟨hget, hzip⟩, htime⟩, rfl⟩
      cases heq
      rw [hname] at hget hzip
      have hproper : EntryName text := d.proper _ (Dict.mem_keys_of_get? hget)
      have hne : text ≠ "" := hproper.1.1
      have hdecode : decodeId item.archiveId = .ok text := decodeId_eq_ok_iff.mpr ⟨hne, hid⟩
      rw [if_neg (not_not.mpr rfl), hdecode]
      dsimp only
      rw [if_neg, if_neg hproper.2, hget]
      · unfold timeText
        dsimp only
        rw [htime]
        obtain ⟨archiveId, filename, directory, size, time⟩ := item
        dsimp only at hname hdir ⊢
        rw [hname, hdir]
      · rw [not_or, not_not, Bool.not_eq_false]
        exact ⟨name_of_isName hproper.1, hzip⟩

/-- What is listed is what can be fetched, unless some archives are good and others are not. -/
theorem exact_iff :
    (∀ archiveId item, svc.resolveArchive disk isoformat archiveId source site = .ok item ↔
      ∃ items, svc.listArchives disk isoformat site = .ok (source, items) ∧ item ∈ items ∧
        item.archiveId = archiveId) ↔
    ∀ root d, svc.archiveRoot disk site = .ok (source, root, d) →
      d.AllGood isoformat ∨ d.NoneGood isoformat := by
  constructor
  · intro hexact root d hroot
    by_cases hnone : d.NoneGood isoformat
    · exact Or.inr hnone
    · rw [@Directory.noneGood_iff d isoformat root, not_not] at hnone
      obtain ⟨item, hitem⟩ := hnone
      have hresolved := resolveArchive_eq_ok_iff.mpr ⟨root, d, hroot, hitem, rfl⟩
      obtain ⟨items, hlist, -, -⟩ := (hexact _ _).mp hresolved
      exact Or.inl ((listArchives_of_archiveRoot hroot).1 _ _ hlist).2.1
  · intro hcondition archiveId item
    rw [resolveArchive_eq_ok_iff]
    constructor
    · rintro ⟨root, d, hroot, hitem, hid⟩
      obtain ⟨hlisted, hlists⟩ :=
        @listArchives_of_archiveRoot isoformat root svc disk site source d hroot
      rcases hcondition root d hroot with hgood | hnone
      · obtain ⟨items, hlist⟩ := hlists hgood
        exact ⟨items, hlist, ((hlisted _ _ hlist).2.2 item).mpr hitem, hid⟩
      · exact absurd ⟨item, hitem⟩ (Directory.noneGood_iff.mp hnone)
    · rintro ⟨items, hlist, hmem, hid⟩
      cases hroot : svc.archiveRoot disk site with
      | error e =>
        unfold listArchives at hlist
        rw [hroot] at hlist
        cases hlist
      | ok found =>
        obtain ⟨active, root, d⟩ := found
        obtain ⟨rfl, -, hall⟩ := (listArchives_of_archiveRoot hroot).1 _ _ hlist
        exact ⟨root, d, rfl, (hall item).mp hmem, hid⟩

end ArchiveService

/-! ## One directory for both -/

/-- The service's own sanitizer gives what the file manager's gives: the site has no white space at
its ends any more. -/
theorem siteDirectory_eq (site : Option String) (root : List String) :
    (ArchiveService.new site).siteDirectory =
      sanitizeComponent (some (FileManager.new site root).site) "local" := by
  have hstripped : strip (FileManager.new site root).site = (FileManager.new site root).site := by
    unfold FileManager.new
    dsimp only
    split
    · decide
    · exact strip_strip _
  have hsame : (ArchiveService.new site).siteDirectory =
      sanitizeSite (FileManager.new site root).site := by
    simp only [ArchiveService.new, FileManager.new]
  rw [hsame]
  unfold sanitizeSite sanitizeComponent
  dsimp only
  rw [Option.getD_some, hstripped]

theorem archiveRoot_eq {site : Option String} {root : List String} {label : Option String}
    {disk : Disk} {source : StorageSource} {d : Directory}
    (hactive : ArchiveService.activeRoot disk = .ok (source, root))
    (hread : disk.read ((FileManager.new site root).setSessionLabel label).resolveBaseDir =
      some d) :
    (ArchiveService.new site).archiveRoot disk (ArchiveService.new site).site =
      .ok (source, ((FileManager.new site root).setSessionLabel label).resolveBaseDir, d) := by
  have hdir : Path.join (Path.join root (ArchiveService.new site).siteDirectory) "sessions" =
      ((FileManager.new site root).setSessionLabel label).resolveBaseDir := by
    rw [FileManager.resolveBaseDir_setSessionLabel, siteDirectory_eq site root]
    rfl
  unfold ArchiveService.archiveRoot
  rw [if_neg (not_not.mpr rfl), hactive]
  simp only [bind, Except.bind, pure, Except.pure]
  rw [hdir, hread]

/-! ## What archiving leaves -/

theorem isZip_append {name : String} (h : name ≠ "") :
    (FileName.text (name ++ ".zip")).isZip = true := by
  have hne : name.toList ≠ [] := fun heq => h (String.toList_eq_nil_iff.mp heq)
  have hlen := List.length_pos_iff.mpr hne
  have hcodes : (FileName.text (name ++ ".zip")).codes =
      name.toList.map Char.toNat ++ ['.'.toNat, 'z'.toNat, 'i'.toNat, 'p'.toNat] := by
    simp [FileName.codes]
  have hsuffix : suffix (FileName.text (name ++ ".zip")).codes =
      ['.'.toNat, 'z'.toNat, 'i'.toNat, 'p'.toNat] := by
    unfold suffix
    rw [hcodes, List.reverse_append]
    simp [hlen]
  rw [FileName.isZip, hsuffix]
  rfl

namespace Directory

variable {d d' : Directory} {name target : FileName} {size : Nat} {now : Int}

/-- What a name of a directory leads to is one. -/
theorem get?_of_isDir (h : d.isDir name = true) {other : FileName}
    (hfollow : d.follow name = some other) : d.get? other = some .directory := by
  unfold isDir at h
  unfold follow at hfollow
  split at h
  · rename_i hget
    rw [hget] at hfollow
    cases hfollow
    exact hget
  · rename_i hget
    rw [hget] at hfollow
    cases hfollow
    exact of_decide_eq_true h
  · rename_i hget
    rw [hget] at hfollow
    cases hfollow
  · cases h

/-- Removing a directory leaves every archive. -/
theorem archive_removeTree
    (h : ∀ other, d.follow name = some other → d.get? other = some .directory)
    {file : FileName} {mtime : Int} :
    (d.removeTree name).Archive file size mtime ↔ d.Archive file size mtime := by
  unfold removeTree
  split
  · rename_i other hfollow
    have hdir := h other hfollow
    by_cases heq : file = other
    · rw [heq]
      refine iff_of_false (fun harchive => ?_) fun harchive => ?_
      · exact absurd harchive.1 (by rw [get?, erase, Dict.get?_erase_self]; exact nofun)
      · exact absurd (harchive.1.symm.trans hdir) (by exact nofun)
    · unfold Archive
      rw [get?, erase, Dict.get?_erase_ne _ heq]
      rfl
  · rfl

theorem archive_write (h : target.Proper) {file : FileName} {other : Nat} {mtime : Int} :
    (d.write target size now h).Archive file other mtime ↔
      file = target ∧ other = size ∧ mtime = now ∧ target.isZip = true ∨
        file ≠ target ∧ d.Archive file other mtime := by
  unfold Archive
  rw [get?, write, Dict.get?_set]
  by_cases heq : target = file
  · rw [if_pos heq, ← heq]
    constructor
    · rintro ⟨hentry, hzip⟩
      cases hentry
      exact Or.inl ⟨rfl, rfl, rfl, hzip⟩
    · rintro (⟨-, rfl, rfl, hzip⟩ | ⟨hne, -⟩)
      · exact ⟨rfl, hzip⟩
      · exact absurd rfl hne
  · rw [if_neg heq]
    constructor
    · exact fun hrest => Or.inr ⟨fun hsame => heq hsame.symm, hrest⟩
    · rintro (⟨hsame, -⟩ | ⟨-, hrest⟩)
      · exact absurd hsame.symm heq
      · exact hrest

/-- Writing goes to where the name leads, or away from the directory. -/
theorem writeArchive_eq_some {place : Option FileName}
    (h : d.writeArchive name size now = some (place, d')) :
    place = d.follow name ∧ (place = none ∧ d' = d ∨ ∃ target, ∃ hproper : target.Proper,
      place = some target ∧ d' = d.write target size now hproper ∧
        d.get? target ≠ some .directory ∧ ∀ link, d.get? target ≠ some (.link link)) := by
  unfold writeArchive at h
  split at h
  · rename_i hfollow
    cases h
    exact ⟨hfollow.symm, Or.inl ⟨rfl, rfl⟩⟩
  · rename_i target hfollow
    split at h
    · rename_i hget
      split at h
      · rename_i hproper
        cases h
        refine ⟨hfollow.symm, Or.inr ⟨target, hproper, rfl, rfl, ?_, fun link => ?_⟩⟩ <;>
          · rw [hget]
            exact nofun
      · cases h
    · rename_i hget
      split at h
      · rename_i hproper
        cases h
        refine ⟨hfollow.symm, Or.inr ⟨target, hproper, rfl, rfl, ?_, fun link => ?_⟩⟩ <;>
          · rw [hget]
            exact nofun
      · cases h
    · cases h

/-- A file that is written changes nothing for the names of directories. -/
theorem follow_write {hproper : target.Proper} (hdir : d.isDir name = true)
    (hentry : d.get? target ≠ some .directory)
    (hlink : ∀ link, d.get? target ≠ some (.link link)) :
    (d.write target size now hproper).follow name = d.follow name := by
  have hne : name ≠ target := by
    rintro rfl
    unfold isDir at hdir
    split at hdir
    · rename_i hget
      exact hentry hget
    · rename_i hget
      exact hlink _ hget
    · rename_i hget
      exact hlink _ hget
    · cases hdir
  have hsame : (d.write target size now hproper).get? name = d.get? name := by
    rw [get?, write, Dict.get?_set_ne _ _ (Ne.symm hne)]
    rfl
  unfold follow
  rw [hsame]

end Directory

/-- What the directory holds when a session has been archived: the archive where its name led, and
every other archive as before. -/
theorem archive_archiveSession {isalnum : Char → Bool} {fm : FileManager} {ts : String}
    {d d' : Directory} {size : Nat} {now : Int} {place : Option FileName}
    (h : archiveSession isalnum fm ts d size now = some (place, d')) :
    place = d.follow (.text (buildSessionArchiveName isalnum fm.sessionName (some ts))) ∧
      ∀ file other mtime, d'.Archive file other mtime ↔
        place = some file ∧ other = size ∧ mtime = now ∧ file.isZip = true ∨
          place ≠ some file ∧ d.Archive file other mtime := by
  unfold archiveSession at h
  dsimp only at h
  split at h
  · cases h
  rename_i hready
  have hdir := (Bool.not_eq_false _).mp (not_or.mp hready).2
  obtain ⟨⟨place', written⟩, hwrite, heq⟩ := Option.map_eq_some_iff.mp h
  cases heq
  obtain ⟨hplace, ⟨rfl, rfl⟩ | ⟨target, hproper, rfl, rfl, hentry, hlink⟩⟩ :=
    Directory.writeArchive_eq_some hwrite
  · refine ⟨hplace, fun file other mtime => ?_⟩
    rw [Directory.archive_removeTree fun other => Directory.get?_of_isDir hdir]
    simp
  · refine ⟨hplace, fun file other mtime => ?_⟩
    rw [Directory.archive_removeTree, Directory.archive_write]
    · rw [Option.some.injEq, eq_comm]
      constructor
      · rintro (⟨rfl, hrest⟩ | hrest)
        · exact Or.inl ⟨rfl, hrest⟩
        · exact Or.inr ⟨fun heq => hrest.1 (Option.some.inj heq).symm, hrest.2⟩
      · rintro (⟨rfl, hrest⟩ | hrest)
        · exact Or.inl ⟨rfl, hrest⟩
        · exact Or.inr ⟨fun heq => hrest.1 (congrArg some heq.symm), hrest.2⟩
    · intro other hfollow
      rw [Directory.follow_write hdir hentry hlink] at hfollow
      have hget := Directory.get?_of_isDir hdir hfollow
      have hne : other ≠ target := fun heq => hentry (heq ▸ hget)
      rw [Directory.get?, Directory.write, Dict.get?_set_ne _ _ (Ne.symm hne)]
      exact hget

/-- What the directory has to be like before, for the archive of that name to be listed. -/
structure Listable (isoformat : Int → Option String) (d : Directory) (name : FileName)
    (now : Int) : Prop where
  -- the name is no link, or one to an archive beside it
  link : ∀ target, d.get? name = some (.link target) →
    ∃ text, target = .sibling (.text text) ∧ (FileName.text text).isZip = true
  time : (isoformat now).isSome
  others : ∀ other size mtime, d.Archive other size mtime → d.follow name ≠ some other →
    Good isoformat other mtime

/-- The archive was written, and is among those that are listed. -/
def Listed (isoformat : Int → Option String) (svc : ArchiveService) (disk : Disk)
    (source : StorageSource) (place : Option FileName) : Prop :=
  ∃ items, svc.listArchives disk isoformat svc.site = .ok (source, items) ∧
    ∃ item ∈ items, place = some item.filename

section Written

variable {isalnum : Char → Bool} {isoformat : Int → Option String} {site : Option String}
  {root : List String} {label : Option String} {ts : String} {d d' : Directory} {size : Nat}
  {now : Int} {place : Option FileName} {disk : Disk} {source : StorageSource}

theorem listed_iff
    (hwrite : archiveSession isalnum ((FileManager.new site root).setSessionLabel label) ts d size
      now = some (place, d'))
    (hactive : ArchiveService.activeRoot disk = .ok (source, root))
    (hread : disk.read ((FileManager.new site root).setSessionLabel label).resolveBaseDir =
      some d') :
    Listed isoformat (ArchiveService.new site) disk source place ↔
      Listable isoformat d (.text (buildSessionArchiveName isalnum
        ((FileManager.new site root).setSessionLabel label).sessionName (some ts))) now := by
  obtain ⟨hplace, harchives⟩ := archive_archiveSession hwrite
  have hroot := archiveRoot_eq hactive hread
  obtain ⟨hlisted, hlists⟩ := ArchiveService.listArchives_of_archiveRoot hroot
  have hzip := @isZip_append (clean isalnum
    ((FileManager.new site root).setSessionLabel label).sessionName "session" ++ "_" ++
      clean isalnum (some ts) "unknown_session") (by simp)
  constructor
  · rintro ⟨items, hlist, item, hmem, hitem⟩
    obtain ⟨-, hgood, hall⟩ := hlisted _ _ hlist
    obtain ⟨text, mtime, hname, -, -, harchive, htime⟩ := (hall item).mp hmem
    constructor
    case link =>
      intro target hlink
      rw [hplace, Directory.follow, hlink] at hitem
      cases target with
      | away below isDirectory => cases hitem
      | sibling other =>
        cases hitem
        exact ⟨text, by rw [hname], hname ▸ harchive.2⟩
    case time =>
      rcases (harchives _ _ _).mp harchive with ⟨-, -, rfl, -⟩ | ⟨hne, -⟩
      · rw [htime]
        rfl
      · exact absurd hitem hne
    case others =>
      intro other size' mtime' hother hne
      exact hgood other size' mtime' ((harchives _ _ _).mpr (Or.inr ⟨hplace ▸ hne, hother⟩))
  · intro hlistable
    obtain ⟨text, hfollow, htext⟩ : ∃ text, d.follow (.text (buildSessionArchiveName isalnum
        ((FileManager.new site root).setSessionLabel label).sessionName (some ts))) =
          some (.text text) ∧ (FileName.text text).isZip = true := by
      unfold Directory.follow
      split
      · rename_i other hget
        obtain ⟨text, heq, htext⟩ := hlistable.link _ hget
        cases heq
        exact ⟨text, rfl, htext⟩
      · rename_i hget
        obtain ⟨text, heq, -⟩ := hlistable.link _ hget
        cases heq
      · exact ⟨_, rfl, hzip⟩
    rw [hfollow] at hplace
    have harchive : d'.Archive (.text text) size now :=
      (harchives _ _ _).mpr (Or.inl ⟨hplace, rfl, rfl, htext⟩)
    have hgood : d'.AllGood isoformat := by
      intro name size' mtime' hname
      rcases (harchives _ _ _).mp hname with ⟨hsame, -, rfl, -⟩ | ⟨hne, hother⟩
      · obtain rfl := Option.some.inj (hplace.symm.trans hsame)
        exact ⟨⟨text, rfl⟩, hlistable.time⟩
      · rw [hplace, ← hfollow] at hne
        exact hlistable.others name size' mtime' hother hne
    obtain ⟨items, hlist⟩ := hlists hgood
    obtain ⟨item, hitem, hname⟩ := harchive.holds (hgood _ _ _ harchive)
    refine ⟨items, hlist, item, ((hlisted _ _ hlist).2.2 item).mpr hitem, ?_⟩
    rw [hname, hplace]

end Written

/-- **Archives that can be listed and fetched.** The archive of a session is listed exactly when its
name is no link away, its time can be told and every other archive is good; and in every directory,
what is listed is what can be fetched exactly when all archives are good or none is. -/
theorem archives_exact_iff (isalnum : Char → Bool) (isoformat : Int → Option String) :
    (∀ site root label ts d size now place d' disk source,
      archiveSession isalnum ((FileManager.new site root).setSessionLabel label) ts d size now =
        some (place, d') →
      ArchiveService.activeRoot disk = .ok (source, root) →
      disk.read ((FileManager.new site root).setSessionLabel label).resolveBaseDir = some d' →
      (Listed isoformat (ArchiveService.new site) disk source place ↔
        Listable isoformat d (.text (buildSessionArchiveName isalnum
          ((FileManager.new site root).setSessionLabel label).sessionName (some ts))) now)) ∧
    ∀ (svc : ArchiveService) disk site source,
      (∀ archiveId item, svc.resolveArchive disk isoformat archiveId source site = .ok item ↔
        ∃ items, svc.listArchives disk isoformat site = .ok (source, items) ∧ item ∈ items ∧
          item.archiveId = archiveId) ↔
      ∀ root d, svc.archiveRoot disk site = .ok (source, root, d) →
        d.AllGood isoformat ∨ d.NoneGood isoformat :=
  ⟨fun _ _ _ _ _ _ _ _ _ _ _ hwrite hactive hread => listed_iff hwrite hactive hread,
    fun _ _ _ _ => ArchiveService.exact_iff⟩

/-- One archive, and a file whose name ends in `.zip` after a byte that is no UTF-8. -/
def mixedNames : Directory where
  entries := Dict.ofList [(.text "a_1.zip", .file 10 0),
    (.undecodable [0xDCFF, 0x2E, 0x7A, 0x69, 0x70], .file 10 0)]
  proper := by decide +kernel

theorem listing_raises :
    let disk : Disk := ⟨none, ["data"], true, fun _ => some mixedNames⟩
    let svc := ArchiveService.new (some "lunar")
    let isoformat := fun _ => some "1970-01-01T00:00:00Z"
    svc.listArchives disk isoformat "lunar" = .error .unicodeEncodeError ∧
      svc.resolveArchive disk isoformat "YV8xLnppcA" .internal "lunar" =
        .ok ⟨"YV8xLnppcA", .text "a_1.zip", ["data", "lunar", "sessions"], 10,
          "1970-01-01T00:00:00Z"⟩ := by
  constructor
  · decide +kernel
  · decide +kernel

end NexusN3.Admin
