import NexusN3.Lib.FileRuns
import NexusN3.Lib.Text
import NexusN3.Plugins.Bundle
import Mathlib.Data.List.Find

/-!
# What is verified and what is extracted

`validate_bundle` looks at the members of an archive by their names as they stand there;
`extract_bundle` writes each of them to the path that its name is read as. Contents are any bytes
here, and what the checks use of the standard library is given from outside.

* **`validateBundle`** — every check, in the order of the source; `validateBundle_ok` says what a
  bundle that passed them has.
* **`extractInfos_ok`** — after the extraction each path holds what the last member at it held.
* **`InstalledAsVerified`** — the promise to the manifest and the artifacts.
* **`verified_installed_iff`** — when a bundle keeps it.
-/

namespace NexusN3.Plugins

open Lib

/-! ## Archives -/

/-- One entry of an archive, with its bytes. -/
structure ZipInfo (γ : Type) where
  filename : String
  bytes : γ
  /-- the file mode says it is a symbolic link -/
  isLink : Bool := false

section Names

variable {γ : Type}

def ZipInfo.isDir (info : ZipInfo γ) : Bool :=
  decide (info.filename.toList.getLast? = some '/')

/-- The entry without its bytes. -/
def ZipInfo.toMember (info : ZipInfo γ) : Member := ⟨info.filename, .other "", info.isLink⟩

end Names

/-! ## Versions -/

inductive Token where
  | number (n : Nat)
  | word (text : String)
  deriving DecidableEq

/-- `left >= right` for two of them; a number and a word have no order. -/
def Token.gte : Token → Token → Except Raised Bool
  | number m, number n => .ok (decide (n ≤ m))
  | word s, word t => .ok (decide (t ≤ s))
  | _, _ => .error ⟨"TypeError", "'>=' not supported"⟩

/-- `left >= right` for tuples: what differs first decides. -/
def tokensGte : List Token → List Token → Except Raised Bool
  | _, [] => .ok true
  | [], _ :: _ => .ok false
  | a :: as, b :: bs => if a = b then tokensGte as bs else a.gte b

/-! ## The checks -/

/-- What the checks use of the standard library, and what they read of the host. -/
structure Checks (γ : Type) where
  sha256 : γ → String
  -- `json.loads` of the bytes as UTF-8
  jsonLoads : γ → Except Raised Value
  -- `==` of two values
  same : Value → Value → Bool
  strOf : Value → String
  lower : String → String
  -- `isdigit` and `int` of one token of a version
  readToken : String → Except Raised Token
  currentCoreVersion : String
  hostOs : String
  hostMachine : String
  hostPythonVersion : String
  hostImplementation : String
  hostAbi : Option String

namespace Checks

variable {γ : Type} (c : Checks γ)

def normalizeVersion (raw : String) : Except Raised (List Token) :=
  let tokens := ((raw.toList.map fun ch => if ch = '-' then '.' else ch).splitOn '.').map
    String.ofList
  (tokens.filter (· ≠ "")).mapM c.readToken

/-- `version_gte(CURRENT_CORE_VERSION, min_version)`. -/
def versionGte (minVersion : Value) : Except Raised Bool := do
  let left ← c.normalizeVersion c.currentCoreVersion
  match minVersion with
  | .str text => tokensGte left (← c.normalizeVersion text)
  | _ => .error ⟨"AttributeError", "replace"⟩

/-- `_load_json_member`: of the last entry of that name. -/
def loadJsonMember (infos : List (ZipInfo γ)) (name : String) : Except Raised Value :=
  match infos.reverse.find? fun info => info.filename = name with
  | none => .error ⟨"KeyError", name⟩
  | some info => c.jsonLoads info.bytes

/-- The loop of `_validate_checksums`. -/
def validateChecksums (checksums : Fields) : List (ZipInfo γ) → Except Raised Unit
  | [] => .ok ()
  | info :: rest =>
    if info.isDir ∨ info.filename = "checksums.json" then validateChecksums checksums rest
    else
      let expected := Value.get checksums info.filename
      if !expected.truthy then
        .error (bundleError s!"missing checksum for archive entry: {info.filename}")
      else if !expected.isText (c.sha256 info.bytes) then
        .error (bundleError s!"checksum mismatch for {info.filename}")
      else validateChecksums checksums rest

/-- The loop of `_validate_artifacts`, with the paths it has seen. -/
def validateArtifacts (checksums : Fields) (names : List String) :
    List Value → Except Raised (List String)
  | [] => .ok []
  | artifact :: rest => do
    let some fields := artifact.asDict | throw ⟨"AttributeError", "get"⟩
    let path := Value.get fields "path"
    if !path.truthy then throw (bundleError "artifact entry missing path")
    match path with
    | .str path =>
      if path ∉ names then throw (bundleError s!"artifact not found in archive: {path}")
      let declared := Value.get fields "sha256"
      let actual := Value.get checksums path
      if declared.truthy && actual.truthy && !c.same declared actual then
        throw (bundleError s!"artifact sha256 mismatch for {path}")
      return path :: (← validateArtifacts checksums names rest)
    | _ => throw (bundleError "artifact not found in archive")

/-- The machines a named target runs on; the host is named by its lower-case names. -/
def targetFits (targetId : String) : Bool :=
  if targetId = "rpi" then
    decide (c.hostOs = "linux") && decide (c.hostMachine ∈ ["aarch64", "arm64", "armv7l"])
  else if targetId = "jetson" then
    decide (c.hostOs = "linux") && decide (c.hostMachine ∈ ["aarch64", "arm64"])
  else if targetId = "win" then decide (c.hostOs = "windows")
  else true

/-- `expected and expected != actual` for one key of the target. -/
def targetClash (target : Fields) (key actual : String) : Bool :=
  (Value.get target key).truthy && !(Value.get target key).isText actual

def validateBundleTarget (manifest : Fields) : Except Raised Unit :=
  let target := Value.get manifest "target"
  if !target.truthy then .ok ()
  else
    match target.asDict with
    | none => .error (bundleError "manifest target must be a JSON object")
    | some target =>
      let targetId := c.lower (strip (c.strOf (Value.getD target "id" (.str ""))))
      if !c.targetFits targetId then
        .error (bundleError (s!"bundle target '{targetId}' is incompatible with host "
          ++ s!"{c.hostOs}/{c.hostMachine}"))
      else if targetClash target "python_version" c.hostPythonVersion then
        .error (bundleError "bundle target python_version is incompatible")
      else if targetClash target "implementation" c.hostImplementation then
        .error (bundleError "bundle target implementation is incompatible")
      else
        match c.hostAbi with
        | some abi =>
          if abi ≠ "" ∧ targetClash target "abi" abi = true then
            .error (bundleError "bundle target abi is incompatible")
          else .ok ()
        | none => .ok ()

end Checks

/-- `ValidatedBundle`, with the entries that its archive has. -/
structure VerifiedBundle (γ : Type) where
  infos : List (ZipInfo γ)
  manifest : Fields
  checksums : Fields
  artifactMembers : List String

/-- `validate_bundle` of an archive that could be opened; `suffix` is that of its path. -/
def validateBundle {γ : Type} (c : Checks γ) (suffix : String) (infos : List (ZipInfo γ)) :
    Except Raised (VerifiedBundle γ) := do
  if suffix ≠ ".rsnxplugin" then
    throw (bundleError "bundle must use the .rsnxplugin extension")
  validateMemberNames [] (infos.map ZipInfo.toMember)
  let names := infos.map ZipInfo.filename
  if "manifest.json" ∉ names then
    throw (bundleError "manifest.json must exist at archive root")
  if "checksums.json" ∉ names then
    throw (bundleError "checksums.json must exist at archive root")
  let manifest ← c.loadJsonMember infos "manifest.json"
  let checksums ← c.loadJsonMember infos "checksums.json"
  -- a manifest that is no object fails one way or another
  let some manifest := manifest.asDict | throw ⟨"TypeError", ""⟩
  validateManifest manifest
  let some checksums := checksums.asDict
    | throw (bundleError "checksums.json must be a JSON object")
  c.validateChecksums checksums infos
  let artifacts := ((Value.get manifest "artifacts").iter).getD []
  let artifactMembers ← c.validateArtifacts checksums names artifacts
  if !(← c.versionGte (Value.get manifest "min_nexus_n3_core_version")) then
    throw (bundleError "bundle requires a newer nexus-n3-core")
  c.validateBundleTarget manifest
  return ⟨infos, manifest, checksums, artifactMembers⟩

/-! ## Extraction -/

section Extraction

variable {γ : Type}

/-- One turn of the loop in `extract_bundle`. -/
def extractInfo (env : Environment γ) (targetDir : Place) (info : ZipInfo γ) :
    Program (Lib.World γ) Raised PUnit := do
  let destination := Path.join targetDir info.filename
  Lib.Files.mkdirs env destination.dropLast
  if info.isDir then Lib.Files.mkdirs env destination
  else Lib.Files.writeFile env destination info.bytes

def extractInfos (env : Environment γ) (targetDir : Place) :
    List (ZipInfo γ) → Program (Lib.World γ) Raised PUnit
  | [] => pure ⟨⟩
  | info :: rest => do
    extractInfo env targetDir info
    extractInfos env targetDir rest

def VerifiedBundle.extract (bundle : VerifiedBundle γ) (env : Environment γ) (targetDir : Place) :
    Program (Lib.World γ) Raised PUnit := do
  Lib.Files.mkdirs env targetDir
  extractInfos env targetDir bundle.infos

end Extraction

/-! ## What a bundle that passed the checks has -/

section Validation

variable {γ : Type} {c : Checks γ} {infos : List (ZipInfo γ)}

/-- No two entries have one name. -/
theorem validateMemberNames_nodup {seen : List String} {members : List Member}
    (h : validateMemberNames seen members = .ok ()) :
    (members.map Member.filename).Nodup ∧ ∀ m ∈ members, m.filename ∉ seen := by
  induction members generalizing seen with
  | nil => exact ⟨List.nodup_nil, List.forall_mem_nil _⟩
  | cons m rest ih =>
    unfold validateMemberNames at h
    split at h
    · cases h
    · rename_i hnew
      split at h
      · cases h
      · split at h
        · cases h
        · split at h
          · cases h
          · obtain ⟨hnodup, hunseen⟩ := ih h
            constructor
            · rw [List.map_cons, List.nodup_cons]
              refine ⟨fun hmem => ?_, hnodup⟩
              obtain ⟨m', hm', heq⟩ := List.mem_map.mp hmem
              exact hunseen m' hm' (heq ▸ List.mem_cons_self)
            · rw [List.forall_mem_cons]
              exact ⟨hnew, fun m' hm' hmem => hunseen m' hm' (List.mem_cons_of_mem _ hmem)⟩

theorem validateChecksums_ok {checksums : Fields}
    (h : c.validateChecksums checksums infos = .ok ()) :
    ∀ info ∈ infos, info.isDir = false → info.filename ≠ "checksums.json" →
      checksums.lookup info.filename = some (.str (c.sha256 info.bytes)) := by
  induction infos with
  | nil => exact List.forall_mem_nil _
  | cons info rest ih =>
    unfold Checks.validateChecksums at h
    split at h
    · rename_i hskip
      rw [List.forall_mem_cons]
      refine ⟨fun hdir hname => ?_, ih h⟩
      rcases hskip with hskip | hskip
      · rw [hdir] at hskip
        cases hskip
      · exact absurd hskip hname
    · dsimp only at h
      split at h
      · cases h
      · split at h
        · cases h
        · rename_i htruthy hdigest
          rw [List.forall_mem_cons]
          refine ⟨fun _ _ => ?_, ih h⟩
          rw [Bool.not_eq_true', Bool.not_eq_false] at hdigest
          unfold Value.get Value.getD at hdigest
          cases hlookup : checksums.lookup info.filename with
          | none =>
            rw [hlookup] at hdigest
            cases hdigest
          | some v =>
            rw [hlookup, Option.getD_some] at hdigest
            cases v with
            | str text => rw [of_decide_eq_true hdigest]
            | _ => cases hdigest

theorem validateArtifacts_ok {checksums : Fields} {names : List String} {artifacts : List Value}
    {paths : List String} (h : c.validateArtifacts checksums names artifacts = .ok paths) :
    ∀ p ∈ paths, p ∈ names := by
  induction artifacts generalizing paths with
  | nil =>
    cases h
    exact List.forall_mem_nil _
  | cons artifact rest ih =>
    unfold Checks.validateArtifacts at h
    simp only [bind, Except.bind, pure, Except.pure] at h
    split at h
    · split at h
      · cases h
      · split at h
        · split at h
          · cases h
          · rename_i hmem
            split at h
            · cases h
            · split at h
              · cases h
              · rename_i hrest
                cases h
                exact List.forall_mem_cons.mpr ⟨not_not.mp hmem, ih hrest⟩
        · cases h
    · cases h

/-- Every check that extraction relies on. -/
theorem validateBundle_ok {suffix : String} {bundle : VerifiedBundle γ}
    (h : validateBundle c suffix infos = .ok bundle) :
    bundle.infos = infos ∧ validateMemberNames [] (infos.map ZipInfo.toMember) = .ok () ∧
      "manifest.json" ∈ infos.map ZipInfo.filename ∧
      c.validateChecksums bundle.checksums infos = .ok () ∧
      ∀ p ∈ bundle.artifactMembers, p ∈ infos.map ZipInfo.filename := by
  unfold validateBundle at h
  simp only [bind, Except.bind, pure, Except.pure] at h
  split at h
  · cases h
  split at h
  · cases h
  rename_i hnames
  split at h
  · cases h
  rename_i hmanifest
  split at h
  · cases h
  split at h
  · cases h
  split at h
  · cases h
  split at h
  · split at h
    · cases h
    split at h
    · split at h
      · cases h
      rename_i hchecksums
      split at h
      · cases h
      rename_i hartifacts
      split at h
      · cases h
      split at h
      · cases h
      split at h
      · cases h
      cases h
      exact ⟨rfl, hnames, not_not.mp hmanifest, hchecksums, validateArtifacts_ok hartifacts⟩
    · cases h
  · cases h

end Validation

/-! ## What extraction leaves -/

section Extraction

variable {γ : Type} {env : Environment γ} {targetDir : Place} {w w' : Lib.World γ}

/-- The last entry that is written to a place. -/
def lastInfoAt (targetDir q : Place) (infos : List (ZipInfo γ)) : Option (ZipInfo γ) :=
  infos.reverse.find? fun info => !info.isDir && decide (Path.join targetDir info.filename = q)

theorem lastInfoAt_cons {q : Place} (info : ZipInfo γ) (rest : List (ZipInfo γ)) :
    lastInfoAt targetDir q (info :: rest) = (lastInfoAt targetDir q rest).or
      (if !info.isDir && decide (Path.join targetDir info.filename = q) then some info
        else none) := by
  unfold lastInfoAt
  rw [List.reverse_cons, List.find?_append, List.find?_singleton]

/-- A place holds what it held, or is a directory that was made. -/
def Grown (q : Place) (fs fs' : FileSystem γ) : Prop :=
  fs'.get? q = fs.get? q ∨ (fs.get? q = none ∧ fs'.get? q = some .dir)

theorem Grown.trans {q : Place} {fs fs₁ fs₂ : FileSystem γ} (h : Grown q fs fs₁)
    (h' : Grown q fs₁ fs₂) : Grown q fs fs₂ := by
  rcases h with heq | ⟨hnone, hmade⟩
  · unfold Grown at h' ⊢
    rwa [heq] at h'
  · rcases h' with hsame | ⟨hfree, -⟩
    · exact Or.inr ⟨hnone, hsame.trans hmade⟩
    · rw [hmade] at hfree
      cases hfree

theorem Grown.file {q : Place} {fs fs' : FileSystem γ} {bytes : γ} (h : Grown q fs fs')
    (hfile : fs.get? q = some (.file bytes)) : fs'.get? q = some (.file bytes) := by
  rcases h with heq | ⟨hnone, -⟩
  · exact heq.trans hfile
  · rw [hfile] at hnone
    cases hnone

theorem grown_mkdirs {p : Place} {u : PUnit}
    (h : (Lib.Files.mkdirs env p).exec w = (.ok u, w')) (q : Place) : Grown q w.fs w'.fs := by
  rcases Lib.Files.mkdirs_ok h q with heq | ⟨hnone, hmade, -⟩
  · exact Or.inl heq
  · exact Or.inr ⟨hnone, hmade⟩

/-- What a place holds in the end: what was written there last, or what it held. -/
def Holds (q : Place) (written : Option (ZipInfo γ)) (fs fs' : FileSystem γ) : Prop :=
  match written with
  | some info => fs'.get? q = some (.file info.bytes)
  | none => Grown q fs fs'

theorem Holds.of_grown {q : Place} {written : Option (ZipInfo γ)} {fs fs₁ fs₂ : FileSystem γ}
    (h : Grown q fs fs₁) (h' : Holds q written fs₁ fs₂) : Holds q written fs fs₂ := by
  cases written with
  | some info => exact h'
  | none => exact h.trans h'

/-- One entry: its own place holds it, every other place keeps what it holds. -/
theorem extractInfo_ok {info : ZipInfo γ} {u : PUnit}
    (h : (extractInfo env targetDir info).exec w = (.ok u, w')) (q : Place) :
    Holds q (if !info.isDir && decide (Path.join targetDir info.filename = q) then some info
      else none) w.fs w'.fs := by
  unfold extractInfo at h
  obtain ⟨_, w₁, hparent, hrest⟩ := Program.exec_bind_ok h
  refine Holds.of_grown (grown_mkdirs hparent q) ?_
  cases hdir : info.isDir with
  | true =>
    rw [hdir, if_pos rfl] at hrest
    exact grown_mkdirs hrest q
  | false =>
    rw [hdir, if_neg Bool.false_ne_true] at hrest
    obtain ⟨-, hfs⟩ := Lib.Files.writeFile_ok hrest
    simp only [Bool.not_false, Bool.true_and, decide_eq_true_eq]
    by_cases hq : Path.join targetDir info.filename = q
    · rw [if_pos hq]
      change w'.fs.get? q = _
      rw [hfs, hq, Dict.get?_set_self]
    · rw [if_neg hq]
      refine Or.inl ?_
      rw [hfs, Dict.get?_set_ne _ _ hq]

/-- After the loop a place holds what the last entry at it holds; where there is none, what it held
before, or a directory. -/
theorem extractInfos_ok {infos : List (ZipInfo γ)} {u : PUnit}
    (h : (extractInfos env targetDir infos).exec w = (.ok u, w')) (q : Place) :
    Holds q (lastInfoAt targetDir q infos) w.fs w'.fs := by
  induction infos generalizing w with
  | nil =>
    cases h
    exact Or.inl rfl
  | cons info rest ih =>
    unfold extractInfos at h
    obtain ⟨_, w₁, hfirst, hrest⟩ := Program.exec_bind_ok h
    have hone := extractInfo_ok hfirst q
    have hlater := ih hrest
    rw [lastInfoAt_cons]
    cases hlast : lastInfoAt targetDir q rest with
    | some last =>
      rw [hlast] at hlater
      exact hlater
    | none =>
      rw [hlast] at hlater
      rw [Option.none_or]
      split at hone
      · -- the file that was just written stays
        rename_i hhere
        rw [if_pos hhere]
        exact Grown.file hlater hone
      · rename_i hhere
        rw [if_neg hhere]
        exact Grown.trans hone hlater

theorem extract_ok {bundle : VerifiedBundle γ} {u : PUnit}
    (h : (bundle.extract env targetDir).exec w = (.ok u, w')) (q : Place) :
    Holds q (lastInfoAt targetDir q bundle.infos) w.fs w'.fs := by
  unfold VerifiedBundle.extract at h
  obtain ⟨_, w₁, hdir, hrest⟩ := Program.exec_bind_ok h
  exact Holds.of_grown (grown_mkdirs hdir q) (extractInfos_ok hrest q)

/-- The target directory with everything below it, and nothing else. -/
def targetOnly (targetDir : Place) : Footprint := ⟨[targetDir], [], []⟩

theorem keeps_extract {bundle : VerifiedBundle γ}
    (hvalid : ∀ info ∈ bundle.infos, Path.isAbsolute info.filename = false ∧
      ".." ∉ Path.components info.filename) :
    Program.Keeps (targetOnly targetDir).Always (bundle.extract env targetDir) := by
  have htree : targetDir ∈ (targetOnly targetDir).trees := List.mem_cons_self
  have hinfos (infos : List (ZipInfo γ)) (hall : ∀ info ∈ infos,
      Path.isAbsolute info.filename = false ∧ ".." ∉ Path.components info.filename) :
      Program.Keeps (targetOnly targetDir).Always (extractInfos env targetDir infos) := by
    induction infos with
    | nil => exact .pure _
    | cons info rest ih =>
      obtain ⟨hone, hrest⟩ := List.forall_mem_cons.mp hall
      have hbelow := @prefix_join targetDir _ hone.1 hone.2
      have hown : (targetOnly targetDir).Owns (Path.join targetDir info.filename) :=
        Or.inr ⟨_, htree, hbelow⟩
      refine .bind (.bind (Footprint.keeps_mkdirs fun q hq => ?_) fun _ => ?_) fun _ => ih hrest
      · exact Footprint.owns_or_way hown (hq.trans (List.dropLast_prefix _))
      · exact .ite (Footprint.keeps_mkdirs fun _ => Footprint.owns_or_way hown)
          (Footprint.keeps_writeFile hown _)
  exact .bind (Footprint.keeps_mkdirs fun _ =>
    Footprint.owns_or_way (Or.inr ⟨_, htree, List.prefix_rfl⟩)) fun _ => hinfos _ hvalid

/-- For the contents of the installer's file system it is the installer's extraction. -/
theorem extractMembers_eq (env : Environment Content) (targetDir : Place) (members : List Member) :
    extractMembers env targetDir members =
      extractInfos env targetDir (members.map fun m => ⟨m.filename, m.content, m.isLink⟩) := by
  induction members with
  | nil => rfl
  | cons m rest ih =>
    rw [extractMembers, ih]
    rfl

end Extraction

/-! ## What is installed is what was verified -/

section Promise

variable {γ : Type} {c : Checks γ} {bundle : VerifiedBundle γ}

/-- The entry of that name whose checksum was verified. -/
def VerifiedBundle.Verified (c : Checks γ) (bundle : VerifiedBundle γ) (p : String)
    (info : ZipInfo γ) : Prop :=
  info ∈ bundle.infos ∧ info.filename = p ∧ info.isDir = false ∧ p ≠ "checksums.json" ∧
    bundle.checksums.lookup p = some (.str (c.sha256 info.bytes))

/-- The manifest and every artifact are there with the bytes that were verified. -/
def InstalledAsVerified (c : Checks γ) (bundle : VerifiedBundle γ) (targetDir : Place)
    (fs : FileSystem γ) : Prop :=
  ∀ p ∈ "manifest.json" :: bundle.artifactMembers,
    ∃ info, bundle.Verified c p info ∧ fs.get? (Path.join targetDir p) = some (.file info.bytes)

/-- The last file entry whose name is read as the same path. -/
def VerifiedBundle.lastNamed (bundle : VerifiedBundle γ) (p : String) : Option (ZipInfo γ) :=
  bundle.infos.reverse.find? fun info =>
    !info.isDir && decide (Path.components info.filename = Path.components p)

/-- The path names a file entry, not the list of checksums, and the last entry that is written to it
has the same bytes. -/
def VerifiedBundle.Unshadowed (bundle : VerifiedBundle γ) (p : String) : Prop :=
  p ≠ "checksums.json" ∧ ∃ info ∈ bundle.infos, info.filename = p ∧ info.isDir = false ∧
    ∀ last, bundle.lastNamed p = some last → last.bytes = info.bytes

theorem join_of_valid (targetDir : Place) {name : String} (habsolute : Path.isAbsolute name = false)
    (hup : ".." ∉ Path.components name) :
    Path.join targetDir name = targetDir ++ Path.components name := by
  rw [Path.join, habsolute, if_neg Bool.false_ne_true, foldl_walk_of_down hup]

variable (hvalid : ∀ info ∈ bundle.infos, Path.isAbsolute info.filename = false ∧
  ".." ∉ Path.components info.filename)

include hvalid

theorem lastInfoAt_eq (targetDir : Place) {info : ZipInfo γ} (hinfo : info ∈ bundle.infos) :
    lastInfoAt targetDir (Path.join targetDir info.filename) bundle.infos =
      bundle.lastNamed info.filename := by
  have hplace (other : ZipInfo γ) (hother : other ∈ bundle.infos) :
      Path.join targetDir other.filename = targetDir ++ Path.components other.filename :=
    join_of_valid targetDir (hvalid other hother).1 (hvalid other hother).2
  unfold lastInfoAt VerifiedBundle.lastNamed
  rw [hplace info hinfo]
  refine List.find?_congr fun other hother => ?_
  rw [hplace other (List.mem_reverse.mp hother)]
  simp only [List.append_cancel_left_eq]

omit hvalid in
theorem mem_of_lastInfoAt {targetDir q : Place} {info : ZipInfo γ}
    (h : lastInfoAt targetDir q bundle.infos = some info) :
    info ∈ bundle.infos ∧ Path.join targetDir info.filename = q := by
  have hfound := List.find?_some h
  simp only [Bool.and_eq_true, decide_eq_true_eq] at hfound
  exact ⟨List.mem_reverse.mp (List.mem_of_find?_eq_some h), hfound.2⟩

end Promise

/-- A file entry is found at its own path, itself or a later one. -/
theorem exists_lastNamed {γ : Type} {bundle : VerifiedBundle γ} {info : ZipInfo γ}
    (hinfo : info ∈ bundle.infos) (hfile : info.isDir = false) :
    ∃ last, bundle.lastNamed info.filename = some last := by
  refine Option.isSome_iff_exists.mp (List.find?_isSome.mpr ⟨info, List.mem_reverse.mpr hinfo, ?_⟩)
  rw [hfile]
  simp

/-- **What is installed is what was verified**, for the bundles whose manifest and artifacts are not
shadowed, and for no others. Extraction changes nothing outside of the target directory, at no
moment, and every file it leaves there is an entry's. -/
theorem verified_installed_iff {γ : Type} {c : Checks γ} {suffix : String}
    {infos : List (ZipInfo γ)} {bundle : VerifiedBundle γ}
    (hok : validateBundle c suffix infos = .ok bundle) (env : Environment γ) (targetDir : Place)
    (w : Lib.World γ) (hfresh : ∀ q, targetDir <+: q → w.fs.get? q = none) :
    (targetOnly targetDir).Always w ((bundle.extract env targetDir).exec w).2 ∧
      ∀ w', (bundle.extract env targetDir).exec w = (.ok ⟨⟩, w') →
        (∀ q bytes, targetDir <+: q → w'.fs.get? q = some (.file bytes) →
          ∃ info ∈ infos, Path.join targetDir info.filename = q ∧ bytes = info.bytes) ∧
        (InstalledAsVerified c bundle targetDir w'.fs ↔
          ∀ p ∈ "manifest.json" :: bundle.artifactMembers, bundle.Unshadowed p) := by
  obtain ⟨rfl, hnames, -, hchecksums, -⟩ := validateBundle_ok hok
  have hvalid : ∀ info ∈ bundle.infos, Path.isAbsolute info.filename = false ∧
      ".." ∉ Path.components info.filename := fun info hinfo =>
    validateMemberNames_ok hnames info.toMember (List.mem_map.mpr ⟨info, hinfo, rfl⟩)
  refine ⟨keeps_extract hvalid w, fun w' hrun => ⟨fun q bytes hbelow hfile => ?_, ?_⟩⟩
  · have hholds := extract_ok hrun q
    cases hlast : lastInfoAt targetDir q bundle.infos with
    | some info =>
      rw [hlast] at hholds
      obtain ⟨hmem, hplace⟩ := mem_of_lastInfoAt hlast
      refine ⟨info, hmem, hplace, ?_⟩
      cases hfile.symm.trans hholds
      rfl
    | none =>
      rw [hlast] at hholds
      rcases hholds with heq | ⟨-, hdir⟩
      · rw [heq, hfresh q hbelow] at hfile
        cases hfile
      · rw [hdir] at hfile
        cases hfile
  · have hheld {info : ZipInfo γ} (hinfo : info ∈ bundle.infos) (hfile : info.isDir = false) :
        ∃ last, bundle.lastNamed info.filename = some last ∧
          w'.fs.get? (Path.join targetDir info.filename) = some (.file last.bytes) := by
      obtain ⟨last, hlast⟩ := exists_lastNamed hinfo hfile
      have hholds := extract_ok hrun (Path.join targetDir info.filename)
      rw [lastInfoAt_eq hvalid targetDir hinfo, hlast] at hholds
      exact ⟨last, hlast, hholds⟩
    refine forall₂_congr fun p _ => ?_
    constructor
    · rintro ⟨info, ⟨hinfo, rfl, hfile, hne, -⟩, hthere⟩
      obtain ⟨last, hlast, hlastThere⟩ := hheld hinfo hfile
      refine ⟨hne, info, hinfo, rfl, hfile, fun last' hlast' => ?_⟩
      cases hlast.symm.trans hlast'
      have hsame := hlastThere.symm.trans hthere
      rw [Option.some.injEq, Node.file.injEq] at hsame
      exact hsame
    · rintro ⟨hne, info, hinfo, rfl, hfile, hagree⟩
      obtain ⟨last, hlast, hlastThere⟩ := hheld hinfo hfile
      have hdigest := validateChecksums_ok hchecksums info hinfo hfile hne
      refine ⟨info, ⟨hinfo, rfl, hfile, hne, hdigest⟩, ?_⟩
      rw [hlastThere, hagree last hlast]

/-! ## One path under two names -/

namespace TwoNames

def manifestText : String :=
  "\x7b\"plugin_id\": \"imu\", \"plugin_type\": \"sensor\", \"display_name\": \"IMU\", "
    ++ "\"version\": \"1.0\", \"sdk_version\": \"1\", \"min_nexus_n3_core_version\": \"0.1\", "
    ++ "\"runtime_protocol\": \"1\", \"entrypoint\": \x7b\x7d, "
    ++ "\"artifacts\": [\x7b\"path\": \"artifacts/imu.whl\"\x7d], \"spec\": \x7b\x7d, "
    ++ "\"capabilities\": [], \"inputs\": [], \"outputs\": [], \"adapter_requirements\": [], "
    ++ "\"permissions\": [], \"healthcheck\": \x7b\x7d\x7d"

def manifest : Value := .obj
    [("plugin_id", .str "imu"), ("plugin_type", .str "sensor"),
      ("display_name", .str "IMU"), ("version", .str "1.0"), ("sdk_version", .str "1"),
      ("min_nexus_n3_core_version", .str "0.1"), ("runtime_protocol", .str "1"),
      ("entrypoint", .obj []),
      ("artifacts", .arr [.obj [("path", .str "artifacts/imu.whl")]]), ("spec", .obj []),
      ("capabilities", .arr []), ("inputs", .arr []), ("outputs", .arr []),
      ("adapter_requirements", .arr []), ("permissions", .arr []), ("healthcheck", .obj [])]

def checksumsText : String :=
  "\x7b\"manifest.json\": \"f7954e89be45e5649becfc1c44d2b528017c3a0fee3bc0ce6c887d83aec1fcf7\", "
    ++ "\"artifacts/imu.whl\": "
    ++ "\"ba59926159d2aa256eb8739b8da7e2b574b960e1202c6d624cbe981cef996c91\", "
    ++ "\"./manifest.json\": "
    ++ "\"d9298a10d1b0735837dc4bd85dac641b0f3cef27a47e5d53a54f2f3f5b2fcffa\"\x7d"

def checksums : Value := .obj
    [("manifest.json", .str "f7954e89be45e5649becfc1c44d2b528017c3a0fee3bc0ce6c887d83aec1fcf7"),
      ("artifacts/imu.whl",
        .str "ba59926159d2aa256eb8739b8da7e2b574b960e1202c6d624cbe981cef996c91"),
      ("./manifest.json", .str "d9298a10d1b0735837dc4bd85dac641b0f3cef27a47e5d53a54f2f3f5b2fcffa")]

/-- The digests of the four texts, and the two that are JSON. -/
def checks : Checks String where
  sha256 text :=
    if text = manifestText then "f7954e89be45e5649becfc1c44d2b528017c3a0fee3bc0ce6c887d83aec1fcf7"
    else if text = "wheel" then "ba59926159d2aa256eb8739b8da7e2b574b960e1202c6d624cbe981cef996c91"
    else if text = "other" then "d9298a10d1b0735837dc4bd85dac641b0f3cef27a47e5d53a54f2f3f5b2fcffa"
    else ""
  jsonLoads text :=
    if text = manifestText then .ok manifest
    else if text = checksumsText then .ok checksums
    else .error ⟨"JSONDecodeError", "Expecting value"⟩
  same _ _ := false
  strOf _ := ""
  lower text := text
  readToken text := .ok (if text = "0" then .number 0 else .number 1)
  currentCoreVersion := "0.1"
  hostOs := "linux"
  hostMachine := "aarch64"
  hostPythonVersion := "3.12"
  hostImplementation := "cp"
  hostAbi := some "cp312"

def plain : List (ZipInfo String) :=
  [⟨"manifest.json", manifestText, false⟩, ⟨"checksums.json", checksumsText, false⟩,
    ⟨"artifacts/imu.whl", "wheel", false⟩]

/-- The same path once more, under another name and with other bytes. -/
def shadowed : List (ZipInfo String) := plain ++ [⟨"./manifest.json", "other", false⟩]

def staging : Lib.World String where
  fs := Dict.single ["stage"] .dir

def noFaults : Environment String := ⟨fun _ => none⟩

def bundleDir : Place := ["stage", "bundle"]

/-- What the extraction of the entries does, whatever else is known of them. -/
def extracted (infos : List (ZipInfo String)) : Except Raised PUnit × Lib.World String :=
  (VerifiedBundle.extract ⟨infos, [], [], []⟩ noFaults bundleDir).exec staging

/-- A bundle is accepted, with its artifact, and extracted. -/
theorem accepted {infos : List (ZipInfo String)}
    (hpaths : (validateBundle checks ".rsnxplugin" infos).toOption.map
      VerifiedBundle.artifactMembers = some ["artifacts/imu.whl"])
    (hrun : (extracted infos).1 = .ok ⟨⟩) :
    ∃ bundle, validateBundle checks ".rsnxplugin" infos = .ok bundle ∧ bundle.infos = infos ∧
      bundle.artifactMembers = ["artifacts/imu.whl"] ∧
      (bundle.extract noFaults bundleDir).exec staging = (.ok ⟨⟩, (extracted infos).2) := by
  cases hok : validateBundle checks ".rsnxplugin" infos with
  | error e =>
    rw [hok] at hpaths
    cases hpaths
  | ok bundle =>
    rw [hok] at hpaths
    have hinfos := (validateBundle_ok hok).1
    refine ⟨bundle, rfl, hinfos, Option.some.inj hpaths, ?_⟩
    rw [← hrun, VerifiedBundle.extract, hinfos]
    rfl

/-- A verified bundle whose manifest is overwritten by a later entry. -/
theorem manifest_overwritten : ∃ bundle w',
    validateBundle checks ".rsnxplugin" shadowed = .ok bundle ∧
    (bundle.extract noFaults bundleDir).exec staging = (.ok ⟨⟩, w') ∧
    w'.fs.get? (bundleDir ++ ["manifest.json"]) = some (.file "other") ∧
    ¬ InstalledAsVerified checks bundle bundleDir w'.fs := by
  obtain ⟨bundle, hok, hinfos, -, hrun⟩ :=
    @accepted shadowed (by decide +kernel) (by decide +kernel)
  have hthere : (extracted shadowed).2.fs.get? (Path.join bundleDir "manifest.json") =
      some (.file "other") := by decide +kernel
  refine ⟨bundle, _, hok, hrun, hthere, fun hall => ?_⟩
  obtain ⟨info, ⟨hinfo, hname, -⟩, hfile⟩ := hall "manifest.json" List.mem_cons_self
  have hbytes : ∀ info ∈ shadowed, info.filename = "manifest.json" → info.bytes ≠ "other" := by
    decide +kernel
  rw [hthere, Option.some.injEq, Node.file.injEq] at hfile
  exact hbytes info (hinfos ▸ hinfo) hname hfile.symm

theorem verified_installed_plain : ∃ bundle w',
    validateBundle checks ".rsnxplugin" plain = .ok bundle ∧
    (bundle.extract noFaults bundleDir).exec staging = (.ok ⟨⟩, w') ∧
    InstalledAsVerified checks bundle bundleDir w'.fs := by
  obtain ⟨bundle, hok, hinfos, hpaths, hrun⟩ :=
    @accepted plain (by decide +kernel) (by decide +kernel)
  have hfresh : ∀ q, bundleDir <+: q → staging.fs.get? q = none := by
    intro q hq
    refine (Dict.get?_set_ne Dict.empty _ ?_).trans rfl
    rintro rfl
    exact absurd hq (by decide)
  have hlast : ∀ p ∈ ["manifest.json", "artifacts/imu.whl"], p ≠ "checksums.json" ∧
      ∃ info ∈ plain, info.filename = p ∧ info.isDir = false ∧
        (VerifiedBundle.lastNamed ⟨plain, [], [], []⟩ p).map ZipInfo.bytes = some info.bytes := by
    decide +kernel
  refine ⟨bundle, _, hok, hrun, ?_⟩
  refine ((verified_installed_iff hok noFaults bundleDir staging hfresh).2 _ hrun).2.mpr ?_
  rw [hpaths]
  intro p hp
  obtain ⟨hne, info, hinfo, hname, hfile, hbytes⟩ := hlast p hp
  refine ⟨hne, info, hinfos ▸ hinfo, hname, hfile, fun last hfound => ?_⟩
  rw [VerifiedBundle.lastNamed, hinfos] at hfound
  rw [VerifiedBundle.lastNamed, hfound, Option.map_some, Option.some.injEq] at hbytes
  exact hbytes

end TwoNames

end NexusN3.Plugins
