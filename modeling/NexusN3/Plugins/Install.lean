import NexusN3.Lib.Text
import NexusN3.Plugins.Catalog

/-!
# Installing a bundle

`install_bundle` stages a bundle in the cache, moves it to `installed/<plugin_id>/<version>`,
sets the links of the plugin and records what it did. It may fail at any operation. What is left
at the place of the version by an earlier failure is removed first, with everything under it.

* **`installBundle`** — the program, with its two handlers.
* **`footprint`** — what an install of one version may change.
* **`keeps_installBundle`** — with proper names it changes nothing else, at no moment.
* **`Contained`** — the promise to the other plugins and versions.
* **`contained_iff`** — a bundle keeps it exactly when its id and its version are names.
-/

namespace NexusN3.Plugins

open Lib

/-! ## The program -/

def installError (text : String) : Raised := ⟨"PluginInstallError", text⟩

structure PluginInstallResult where
  pluginId : String
  version : String
  pluginRoot : Place
  installPath : Place
  runtimePath : Place
  activated : Bool

/-- `_safe_readlink(path)`: the name of the target. -/
def safeReadlink (p : Place) : Host (Option String) :=
  Lib.Files.look fun fs =>
    match fs.get? p with
    | some (.link target) => some ((Path.join p.dropLast target).getLast?.getD "")
    | _ => none

/-- `link.exists() or link.is_symlink()`, and then `link.unlink()`. -/
def dropLink (env : Environment Content) (link : Place) : Host PUnit := do
  if ← Lib.Files.look fun fs => (fs.get? link).isSome then Lib.Files.unlink env link

/-- `_activate`. -/
def activate (s : Setting) (layout : PluginLayout) (pluginId version : String)
    (previousTarget : Option String) : Host PUnit :=
  if s.windows then pure ⟨⟩
  else do
    dropLink s.env (layout.currentLink pluginId)
    Lib.Files.symlink s.env version (layout.currentLink pluginId)
    match previousTarget with
    | none => pure ⟨⟩
    | some target => do
      dropLink s.env (layout.previousLink pluginId)
      Lib.Files.symlink s.env target (layout.previousLink pluginId)

/-- Whether `_run_healthcheck` runs a command, or why it raises. -/
def healthcheck (s : Setting) (manifest : Fields) : Except Raised Bool :=
  match ((Value.get manifest "healthcheck").orElse (.obj [])).asDict with
  | none => .error ⟨"AttributeError", "get"⟩
  | some check =>
    match s.intOf (Value.getD check "timeout_seconds" (.num (.int 30))) with
    | none => .error ⟨"ValueError", ""⟩
    | some _ =>
      let command := Value.getD check "command" (.str "call")
      if !(Value.get check "module").truthy || !(Value.get check "callable").truthy then .ok false
      else if ["import_entrypoint", "call", "callable"].any fun name => command.isText name then
        .ok true
      else .error (installError "unsupported healthcheck command")

/-- The place that `mkdtemp` makes. -/
def stagingDir (s : Setting) (layout : PluginLayout) : Place :=
  layout.cacheDir ++ ["plugin-install-" ++ s.tempName]

/-- What happens in the staging directory. -/
def stageBundle (s : Setting) (layout : PluginLayout) (bundle : ValidatedBundle) : Host PUnit := do
  let staging := stagingDir s layout
  extractBundle s.env bundle (staging ++ ["bundle"])
  let venvDir := staging ++ ["runtime", ".venv"]
  Lib.Files.mkdirs s.env venvDir
  Lib.Files.command s.env venvDir s.runtime
  Lib.Files.command s.env venvDir s.artifacts
  Lib.Files.command s.env venvDir s.described
  match healthcheck s bundle.manifest with
  | .error e => throw e
  | .ok false => pure ⟨⟩
  | .ok true => Lib.Files.command s.env venvDir s.checked

/-- `shutil.copy2` of the manifest. -/
def copyManifest (s : Setting) (installDir : Place) : Host PUnit := do
  let manifest ← Lib.Files.read s.env fun fs =>
    match fs.get? (installDir ++ ["bundle", "manifest.json"]) with
    | some (.file content) => .ok content
    | _ => .error ⟨"FileNotFoundError", "manifest.json"⟩
  Lib.Files.writeFile s.env (installDir ++ ["manifest.json"]) manifest

/-- From the moved directory to the result. -/
def finishInstall (s : Setting) (layout : PluginLayout) (bundle : ValidatedBundle)
    (activated : Bool) (previousTarget : Option String) : Host PluginInstallResult := do
  let installDir := layout.versionDir bundle.pluginId bundle.version
  let runtimePath := installDir ++ ["runtime", ".venv"]
  copyManifest s installDir
  writeJson s.env (installDir ++ ["install.json"]) installDir
    (.obj [("plugin_id", .str bundle.pluginId), ("version", .str bundle.version),
      ("bundle_path", .str bundle.bundlePath), ("runtime_path", .str (placeText runtimePath)),
      ("state", .str "installed"), ("activated", .bool activated)])
  if activated then activate s layout bundle.pluginId bundle.version previousTarget
  updatePluginCatalog s layout bundle
    ⟨bundle.version, installDir, runtimePath, "installed", true, activated⟩
  return ⟨bundle.pluginId, bundle.version, layout.root, installDir, runtimePath, activated⟩

/-- `if path.exists(): shutil.rmtree(path, ignore_errors=True)`. -/
def discard (s : Setting) (p : Place) : Host PUnit := do
  if ← Lib.Files.look (Lib.Files.existsAt Path.join p) then
    tryCatch (Lib.Files.rmtree s.env p) fun _ => pure ⟨⟩

/-- The inner handler; `committed` once the staging directory has been moved. -/
def installFailed {α : Type} (s : Setting) (layout : PluginLayout) (bundle : ValidatedBundle)
    (committed : Bool) (e : Raised) : Host α := do
  recordInstallFailure s layout bundle e.text
  discard s (stagingDir s layout)
  if committed then discard s (layout.versionDir bundle.pluginId bundle.version)
  throw (installError e.text)

/-- `version in versions`: a key, an item or a part of a text. -/
def mentions (version : String) : Value → Option Bool
  | .obj versions => some (versions.lookup version).isSome
  | .arr versions => some (versions.any fun v => v.isText version)
  | .str text => some (find version.toList text.toList).isSome
  | _ => none

/-- A version that the catalog does not know is what a failed install left: it is removed. -/
def clearVersion (s : Setting) (layout : PluginLayout) (bundle : ValidatedBundle) :
    Host PUnit := do
  let installDir := layout.versionDir bundle.pluginId bundle.version
  if ← Lib.Files.look (Lib.Files.existsAt Path.join installDir) then
    let catalog ← readJson s.env (layout.pluginCatalogPath bundle.pluginId)
    match ((catalog.getD (.obj [])).orElse (.obj [])).asDict with
    | none => throw ⟨"AttributeError", "get"⟩
    | some catalog =>
      match mentions bundle.version ((Value.get catalog "versions").orElse (.obj [])) with
      | none => throw typeError
      | some true =>
        throw (installError
          s!"plugin version already installed: {bundle.pluginId} {bundle.version}")
      | some false => Lib.Files.rmtree s.env installDir

/-- The body of the outer `try`, for a bundle that has been validated. -/
def installValidated (s : Setting) (layout : PluginLayout) (bundle : ValidatedBundle)
    (activated : Bool) : Host PluginInstallResult := do
  let installDir := layout.versionDir bundle.pluginId bundle.version
  let previousTarget ← safeReadlink (layout.currentLink bundle.pluginId)
  clearVersion s layout bundle
  Lib.Files.mkdir s.env (stagingDir s layout)
  tryCatch (do
    stageBundle s layout bundle
    Lib.Files.mkdirs s.env (layout.versionParent bundle.pluginId bundle.version)
    Lib.Files.renameDir s.env (stagingDir s layout) installDir)
    (installFailed s layout bundle false)
  -- from here on a failure takes the moved directory away again
  tryCatch (finishInstall s layout bundle activated previousTarget)
    (installFailed s layout bundle true)

/-- `PluginInstaller.install_bundle` after `validate_bundle`. -/
def installBundle (s : Setting) (layout : PluginLayout) (bundle : ValidatedBundle)
    (activated : Bool) : Host PluginInstallResult :=
  tryCatch (installValidated s layout bundle activated) fun e =>
    if e.type = "PluginInstallError" then throw e
    else do
      recordInstallFailure s layout bundle e.text
      throw (installError e.text)

/-! ## The footprint of one version -/

/-- What an install of this bundle may change: its version and its staging directory, the records
and the two links. -/
def footprint (s : Setting) (layout : PluginLayout) (bundle : ValidatedBundle) : Footprint where
  trees := [layout.versionDir bundle.pluginId bundle.version, stagingDir s layout]
  files := [layout.pluginCatalogPath bundle.pluginId, layout.pluginsIndexPath,
      layout.installFailuresPath, layout.errorPath bundle.name].flatMap fun p => [p, tmpPath p]
  links := [layout.currentLink bundle.pluginId, layout.previousLink bundle.pluginId]

/-- The footprint has the two directories of an install and the records of a failed one. -/
structure HasScratch (F : Footprint) (s : Setting) (layout : PluginLayout)
    (bundle : ValidatedBundle) : Prop where
  version : layout.versionDir bundle.pluginId bundle.version ∈ F.trees
  staging : stagingDir s layout ∈ F.trees
  failures : F.Owns layout.installFailuresPath ∧ F.Owns (tmpPath layout.installFailuresPath)
  error : F.Owns (layout.errorPath bundle.name) ∧ F.Owns (tmpPath (layout.errorPath bundle.name))

section Stages

variable {F : Footprint} {s : Setting} {layout : PluginLayout} {bundle : ValidatedBundle}

open Program Lib.Footprint

theorem keeps_updatePluginsIndex (hown : F.Owns layout.pluginsIndexPath)
    (htmp : F.Owns (tmpPath layout.pluginsIndexPath)) :
    Keeps F.Always (updatePluginsIndex s layout) :=
  .bind (keeps_read _) fun _ => keeps_writeJson (List.prefix_append _ _) hown htmp _

theorem keeps_recordInstallFailure
    (hfailures : F.Owns layout.installFailuresPath ∧ F.Owns (tmpPath layout.installFailuresPath))
    (herror : F.Owns (layout.errorPath bundle.name) ∧
      F.Owns (tmpPath (layout.errorPath bundle.name))) (error : String) :
    Keeps F.Always (recordInstallFailure s layout bundle error) := by
  refine .bind (keeps_read _) fun failures => ?_
  dsimp only
  split
  · exact .bind (keeps_writeJson (List.prefix_append _ _) hfailures.1 hfailures.2 _) fun _ =>
      keeps_writeJson (List.prefix_append _ _) herror.1 herror.2 _
  · exact .throw _

theorem keeps_discard {p : Place} (hp : p ∈ F.trees) : Keeps F.Always (discard s p) := by
  refine .bind (keeps_look _) fun present => ?_
  split
  · exact .tryCatch (keeps_rmtree ⟨p, hp, List.prefix_rfl⟩) fun _ => .pure _
  · exact .pure _

theorem keeps_dropLink {env : Environment Content} {link : Place} (h : link ∈ F.links) :
    Keeps F.Always (dropLink env link) := by
  refine .bind (keeps_look _) fun present => ?_
  split
  · exact keeps_unlink h
  · exact .pure _

theorem keeps_activate {pluginId : String} (hcurrent : layout.currentLink pluginId ∈ F.links)
    (hprevious : layout.previousLink pluginId ∈ F.links) (version : String)
    (previousTarget : Option String) :
    Keeps F.Always (activate s layout pluginId version previousTarget) := by
  refine .ite (.pure _) (.bind (keeps_dropLink hcurrent) fun _ => .bind (keeps_symlink hcurrent _)
    fun _ => ?_)
  split
  · exact .pure _
  · exact .bind (keeps_dropLink hprevious) fun _ => keeps_symlink hprevious _

namespace HasScratch

theorem owns_version (h : HasScratch F s layout bundle) (more : Place) :
    F.Owns (layout.versionDir bundle.pluginId bundle.version ++ more) :=
  Or.inr ⟨_, h.version, List.prefix_append _ _⟩

theorem keeps_installFailed (h : HasScratch F s layout bundle) {α : Type} (committed : Bool)
    (e : Raised) : Keeps F.Always (installFailed s layout bundle committed e : Host α) := by
  refine .bind (keeps_recordInstallFailure h.failures h.error _) fun _ =>
    .bind (keeps_discard h.staging) fun _ => ?_
  split
  · exact .bind (keeps_discard h.version) fun _ => .throw _
  · exact .throw _

theorem keeps_stageBundle (h : HasScratch F s layout bundle) :
    Keeps F.Always (stageBundle s layout bundle) := by
  have hbelow (more : Place) : stagingDir s layout <+: stagingDir s layout ++ more :=
    List.prefix_append _ _
  have hvenv : ∃ t ∈ F.trees, t <+: stagingDir s layout ++ ["runtime", ".venv"] :=
    ⟨_, h.staging, hbelow _⟩
  refine .bind (keeps_extractBundle h.staging (hbelow _) _ _) fun _ => ?_
  refine .bind (keeps_mkdirs fun _ => owns_or_way (Or.inr hvenv)) fun _ => ?_
  refine .bind (keeps_command hvenv _) fun _ => .bind (keeps_command hvenv _) fun _ =>
    .bind (keeps_command hvenv _) fun _ => ?_
  split
  · exact .throw _
  · exact .pure _
  · exact keeps_command hvenv _

theorem keeps_copyManifest (h : HasScratch F s layout bundle) :
    Keeps F.Always (copyManifest s (layout.versionDir bundle.pluginId bundle.version)) :=
  .bind (keeps_read _) fun _ => keeps_writeFile (h.owns_version _) _

theorem keeps_installRecord (h : HasScratch F s layout bundle) (payload : Value) :
    Keeps F.Always (writeJson s.env
      (layout.versionDir bundle.pluginId bundle.version ++ ["install.json"])
      (layout.versionDir bundle.pluginId bundle.version) payload) := by
  have htmp : tmpPath (layout.versionDir bundle.pluginId bundle.version ++ ["install.json"]) =
      layout.versionDir bundle.pluginId bundle.version ++ ["install.json.tmp"] := by
    simp [tmpPath]
  refine keeps_writeJson (List.prefix_append _ _) (h.owns_version _) ?_ _
  rw [htmp]
  exact h.owns_version _

theorem keeps_clearVersion (h : HasScratch F s layout bundle) :
    Keeps F.Always (clearVersion s layout bundle) := by
  refine .bind (keeps_look _) fun present => ?_
  split
  · refine .bind (keeps_read _) fun catalog => ?_
    split
    · exact .throw _
    · split
      · exact .throw _
      · exact .throw _
      · exact keeps_rmtree ⟨_, h.version, List.prefix_rfl⟩
  · exact .pure _

end HasScratch

end Stages

/-! ## Proper names -/

theorem isName_append {text suffix : String} (h : Path.IsName text)
    (hlong : 2 < suffix.toList.length) (hslash : '/' ∉ suffix.toList) :
    Path.IsName (text ++ suffix) := by
  have hlen : ∀ short : String, short.toList.length ≤ 2 → text ++ suffix ≠ short := by
    intro short hshort heq
    have := congrArg (fun t : String => t.toList.length) heq
    simp only [String.toList_append, List.length_append] at this
    omega
  refine ⟨hlen _ (by decide), hlen _ (by decide), hlen _ (by decide), ?_⟩
  rw [String.toList_append, List.mem_append, not_or]
  exact ⟨h.2.2.2, hslash⟩

section Names

variable {layout : PluginLayout} {pluginId version : String}

theorem pluginDir_of_isName (hid : Path.IsName pluginId) :
    layout.pluginDir pluginId = layout.installedDir ++ [pluginId] := Path.join_of_isName _ hid

theorem versionDir_of_isName (hid : Path.IsName pluginId) (hversion : Path.IsName version) :
    layout.versionDir pluginId version = layout.installedDir ++ [pluginId, version] := by
  rw [PluginLayout.versionDir, Path.join_of_isName _ hversion, pluginDir_of_isName hid,
    List.append_assoc]
  rfl

theorem versionParent_of_isName (hversion : Path.IsName version) :
    layout.versionParent pluginId version = layout.pluginDir pluginId :=
  Path.joinParent_of_isName _ _ hversion

theorem isName_catalogFile (hid : Path.IsName pluginId) : Path.IsName (pluginId ++ ".json") :=
  isName_append hid (by decide) (by decide)

theorem pluginCatalogPath_of_isName (hid : Path.IsName pluginId) :
    layout.pluginCatalogPath pluginId = layout.catalogDir ++ [pluginId ++ ".json"] :=
  Path.join_of_isName _ (isName_catalogFile hid)

theorem pluginCatalogParent_of_isName (hid : Path.IsName pluginId) :
    layout.pluginCatalogParent pluginId = layout.catalogDir :=
  Path.joinParent_of_isName _ _ (isName_catalogFile hid)

end Names

section Frame

variable {s : Setting} {layout : PluginLayout} {bundle : ValidatedBundle}

open Program Lib.Footprint

/-- A record is owned together with its temporary file. -/
theorem owns_record {p : Place} (h : p ∈ [layout.pluginCatalogPath bundle.pluginId,
    layout.pluginsIndexPath, layout.installFailuresPath, layout.errorPath bundle.name]) :
    (footprint s layout bundle).Owns p ∧ (footprint s layout bundle).Owns (tmpPath p) := by
  refine ⟨Or.inl ?_, Or.inl ?_⟩
  · exact List.mem_flatMap.mpr ⟨p, h, List.mem_cons_self⟩
  · exact List.mem_flatMap.mpr ⟨p, h, List.mem_cons_of_mem _ List.mem_cons_self⟩

theorem hasScratch_footprint : HasScratch (footprint s layout bundle) s layout bundle where
  version := List.mem_cons_self
  staging := List.mem_cons_of_mem _ List.mem_cons_self
  failures := owns_record (by simp)
  error := owns_record (by simp)

theorem keeps_updatePluginCatalog (hid : Path.IsName bundle.pluginId) (update : CatalogUpdate) :
    Keeps (footprint s layout bundle).Always (updatePluginCatalog s layout bundle update) := by
  have ⟨hown, htmp⟩ := @owns_record s layout bundle (layout.pluginCatalogPath bundle.pluginId)
    (by simp)
  have ⟨hown', htmp'⟩ := @owns_record s layout bundle layout.pluginsIndexPath (by simp)
  refine .bind (keeps_read _) fun catalog => ?_
  dsimp only
  split
  · exact .throw _
  · refine .bind (keeps_writeJson ?_ hown htmp _) fun _ => keeps_updatePluginsIndex hown' htmp'
    rw [pluginCatalogParent_of_isName hid, pluginCatalogPath_of_isName hid]
    exact List.prefix_append _ _

theorem keeps_finishInstall (hid : Path.IsName bundle.pluginId) (activated : Bool)
    (previousTarget : Option String) :
    Keeps (footprint s layout bundle).Always
      (finishInstall s layout bundle activated previousTarget) := by
  have hcurrent : layout.currentLink bundle.pluginId ∈ (footprint s layout bundle).links :=
    List.mem_cons_self
  have hprevious : layout.previousLink bundle.pluginId ∈ (footprint s layout bundle).links :=
    List.mem_cons_of_mem _ List.mem_cons_self
  refine .bind hasScratch_footprint.keeps_copyManifest fun _ =>
    .bind (hasScratch_footprint.keeps_installRecord _) fun _ => ?_
  dsimp only
  split
  · exact .bind (keeps_activate hcurrent hprevious _ _) fun _ =>
      .bind (keeps_updatePluginCatalog hid _) fun _ => .pure _
  · exact .bind (keeps_updatePluginCatalog hid _) fun _ => .pure _

/-- **The frame.** When the id and the version are names, an install changes its own version,
its staging directory, its records and its links, and nothing else at any moment, whatever fails
on the way. -/
theorem keeps_installBundle (hid : Path.IsName bundle.pluginId)
    (hversion : Path.IsName bundle.version) (activated : Bool) :
    Keeps (footprint s layout bundle).Always (installBundle s layout bundle activated) := by
  have hscratch := @hasScratch_footprint s layout bundle
  have hparent : layout.versionParent bundle.pluginId bundle.version <+:
      layout.versionDir bundle.pluginId bundle.version ++ [] := by
    rw [versionParent_of_isName hversion, PluginLayout.versionDir, Path.join_of_isName _ hversion,
      List.append_nil]
    exact List.prefix_append _ _
  have hbody : Keeps (footprint s layout bundle).Always
      (installValidated s layout bundle activated) := by
    refine .bind (keeps_look _) fun previous => .bind hscratch.keeps_clearVersion fun _ =>
      .bind (keeps_mkdir (Or.inr ⟨_, hscratch.staging, List.prefix_rfl⟩)) fun _ =>
      .bind (.tryCatch ?_ fun e => hscratch.keeps_installFailed _ e) fun _ =>
      .tryCatch (keeps_finishInstall hid _ _) fun e => hscratch.keeps_installFailed _ e
    exact .bind hscratch.keeps_stageBundle fun _ =>
      .bind (keeps_mkdirs fun _ hq => owns_or_way (hscratch.owns_version []) (hq.trans hparent))
      fun _ => keeps_renameDir ⟨_, hscratch.staging, List.prefix_rfl⟩
        ⟨_, hscratch.version, List.prefix_rfl⟩
  refine .tryCatch hbody fun e => .ite (.throw _) ?_
  exact .bind (keeps_recordInstallFailure hscratch.failures hscratch.error _) fun _ => .throw _

end Frame

/-! ## The promise to the others -/

/-- The file system after each operation of an install, and at its end. -/
def moments (s : Setting) (layout : PluginLayout) (bundle : ValidatedBundle) (activated : Bool)
    (fs : Files) : List Files :=
  let w := ((installBundle s layout bundle activated).exec ⟨fs, []⟩).2
  w.fs :: w.trail

/-- `q` is strictly inside the directory `p`. -/
def Inside (p q : Place) : Prop := p <+: q ∧ p ≠ q

/-- An install touches only its own version: whatever the file system holds, and whatever fails. -/
structure Contained (layout : PluginLayout) (bundle : ValidatedBundle) : Prop where
  catalogInside : Inside layout.catalogDir (layout.pluginCatalogPath bundle.pluginId)
  pluginInside : Inside layout.installedDir (layout.pluginDir bundle.pluginId)
  versionInside : Inside (layout.pluginDir bundle.pluginId)
    (layout.versionDir bundle.pluginId bundle.version)
  /-- nothing outside the footprint is created, replaced or deleted -/
  frame : ∀ s activated fs, ∀ fs' ∈ moments s layout bundle activated fs,
    (footprint s layout bundle).Within fs fs'
  /-- the directory of another version stays as it is -/
  versions : ∀ s activated fs, ∀ fs' ∈ moments s layout bundle activated fs, ∀ p v,
    Path.IsName p → Path.IsName v → (p, v) ≠ (bundle.pluginId, bundle.version) →
      fs.get? (layout.installedDir ++ [p, v]) = some .dir →
        ∀ q, layout.installedDir ++ [p, v] <+: q → fs'.get? q = fs.get? q
  /-- no plugin is removed -/
  plugins : ∀ s activated fs, ∀ fs' ∈ moments s layout bundle activated fs, ∀ p,
    Path.IsName p → fs.get? (layout.installedDir ++ [p]) = some .dir →
      fs'.get? (layout.installedDir ++ [p]) = some .dir

theorem eq_of_prefix {p p' q : Place} (h : p <+: q) (h' : p' <+: q)
    (hlen : p.length = p'.length) : p = p' :=
  (List.prefix_of_prefix_length_le h h' hlen.le).eq_of_length hlen

section Others

variable {s : Setting} {layout : PluginLayout} {bundle : ValidatedBundle}

/-- The areas under the plugin root do not meet. -/
theorem area_eq {a b : String} {q : Place} (h : layout.root ++ [a] <+: q)
    (h' : layout.root ++ [b] <+: q) : a = b := by
  have heq := eq_of_prefix h h' (by simp)
  simpa using heq

theorem area_of_file (hid : Path.IsName bundle.pluginId) {p : Place}
    (hp : p ∈ (footprint s layout bundle).files) :
    layout.root ++ ["catalog"] <+: p ∨ layout.root ++ ["incoming"] <+: p := by
  have htmp (d : Place) (name : String) : d <+: tmpPath (d ++ [name]) := by
    simp [tmpPath]
  obtain ⟨record, hrecord, hp⟩ := List.mem_flatMap.mp hp
  -- the temporary file is in the directory of its record
  have hdir : ∀ d name, record = d ++ [name] → d <+: p := by
    rintro d name rfl
    rcases List.mem_cons.mp hp with rfl | hp
    · exact List.prefix_append _ _
    · rw [List.mem_singleton.mp hp]
      exact htmp d name
  rw [pluginCatalogPath_of_isName hid] at hrecord
  simp only [List.mem_cons, List.not_mem_nil, or_false] at hrecord
  rcases hrecord with rfl | rfl | rfl | rfl
  · exact Or.inl (hdir _ _ rfl)
  · exact Or.inl (hdir _ _ rfl)
  · exact Or.inl (hdir _ _ rfl)
  · exact Or.inr (hdir _ _ rfl)

/-- In the installed area an install owns its version only. -/
theorem owns_installed (hid : Path.IsName bundle.pluginId) {q : Place}
    (hq : layout.installedDir <+: q) (hown : (footprint s layout bundle).Owns q) :
    layout.versionDir bundle.pluginId bundle.version <+: q := by
  rcases hown with hfile | ⟨t, ht, hprefix⟩
  · rcases area_of_file hid hfile with harea | harea
    · exact absurd (area_eq hq harea) (by decide)
    · exact absurd (area_eq hq harea) (by decide)
  · rcases List.mem_cons.mp ht with rfl | ht
    · exact hprefix
    · rw [List.mem_singleton.mp ht] at hprefix
      have harea : layout.root ++ ["cache"] <+: q := (List.prefix_append _ _).trans hprefix
      exact absurd (area_eq hq harea) (by decide)

theorem way_installed (hid : Path.IsName bundle.pluginId) {q : Place}
    (hq : layout.installedDir <+: q) (hway : (footprint s layout bundle).Way q) :
    q <+: layout.versionDir bundle.pluginId bundle.version := by
  obtain ⟨home, hhome, hprefix⟩ := hway
  rcases List.mem_append.mp hhome with htree | hfile
  · rcases List.mem_cons.mp htree with rfl | htree
    · exact hprefix
    · rw [List.mem_singleton.mp htree] at hprefix
      have harea : layout.root ++ ["cache"] <+: stagingDir s layout := List.prefix_append _ _
      exact absurd (area_eq (hq.trans hprefix) harea) (by decide)
  · rcases area_of_file hid hfile with harea | harea
    · exact absurd (area_eq (hq.trans hprefix) harea) (by decide)
    · exact absurd (area_eq (hq.trans hprefix) harea) (by decide)

theorem versions_of_within (hid : Path.IsName bundle.pluginId)
    (hversion : Path.IsName bundle.version) {fs fs' : Files}
    (h : (footprint s layout bundle).Within fs fs') {p v : String}
    (hne : (p, v) ≠ (bundle.pluginId, bundle.version))
    (hdir : fs.get? (layout.installedDir ++ [p, v]) = some .dir) {q : Place}
    (hq : layout.installedDir ++ [p, v] <+: q) : fs'.get? q = fs.get? q := by
  have harea : layout.installedDir <+: q := (List.prefix_append _ _).trans hq
  have hown {r : Place} (hr : layout.installedDir ++ [p, v] <+: r)
      (hr' : layout.versionDir bundle.pluginId bundle.version <+: r) : False := by
    rw [versionDir_of_isName hid hversion] at hr'
    have heq := eq_of_prefix hr hr' (by simp)
    apply hne
    simpa using heq
  rcases h q with heq | howned | ⟨hlink, hnot⟩ | ⟨-, -, hway⟩
  · exact heq
  · exact (hown hq (owns_installed hid harea howned)).elim
  · -- a link of this plugin is not a directory of another version
    have hlen : q.length = (layout.installedDir ++ [p, v]).length := by
      simp only [footprint, PluginLayout.currentLink, PluginLayout.previousLink,
        pluginDir_of_isName hid, List.mem_cons, List.not_mem_nil, or_false] at hlink
      rcases hlink with rfl | rfl <;> simp
    rw [← hq.eq_of_length hlen.symm] at hnot
    exact absurd hdir hnot
  · exact (hown (hq.trans (way_installed hid harea hway)) List.prefix_rfl).elim

theorem plugins_of_within (hid : Path.IsName bundle.pluginId)
    (hversion : Path.IsName bundle.version) {fs fs' : Files}
    (h : (footprint s layout bundle).Within fs fs') {p : String}
    (hdir : fs.get? (layout.installedDir ++ [p]) = some .dir) :
    fs'.get? (layout.installedDir ++ [p]) = some .dir := by
  have harea : layout.installedDir <+: layout.installedDir ++ [p] := List.prefix_append _ _
  rcases h (layout.installedDir ++ [p]) with heq | howned | ⟨-, hnot⟩ | ⟨hnone, -, -⟩
  · rw [heq, hdir]
  · have hlong := (owns_installed hid harea howned).length_le
    rw [versionDir_of_isName hid hversion] at hlong
    simp at hlong
  · exact absurd hdir hnot
  · rw [hdir] at hnone
    cases hnone

end Others

theorem within_moments {s : Setting} {layout : PluginLayout} {bundle : ValidatedBundle}
    (hid : Path.IsName bundle.pluginId) (hversion : Path.IsName bundle.version)
    (activated : Bool) (fs : Files) :
    ∀ fs' ∈ moments s layout bundle activated fs, (footprint s layout bundle).Within fs fs' := by
  have hkeeps : Program.Keeps (footprint s layout bundle).Always
      (installBundle s layout bundle activated) := keeps_installBundle hid hversion activated
  obtain ⟨more, htrail, hend, hmore⟩ := hkeeps ⟨fs, []⟩
  refine List.forall_mem_cons.mpr ⟨hend, ?_⟩
  rw [htrail]
  exact hmore

theorem inside_append {p q : Place} (h : q ≠ []) : Inside p (p ++ q) :=
  ⟨List.prefix_append _ _, fun heq => h (List.append_right_eq_self.mp heq.symm)⟩

theorem contained_of_isName {layout : PluginLayout} {bundle : ValidatedBundle}
    (hid : Path.IsName bundle.pluginId) (hversion : Path.IsName bundle.version) :
    Contained layout bundle where
  catalogInside := by
    rw [pluginCatalogPath_of_isName hid]
    exact inside_append (List.cons_ne_nil _ _)
  pluginInside := by
    rw [pluginDir_of_isName hid]
    exact inside_append (List.cons_ne_nil _ _)
  versionInside := by
    rw [PluginLayout.versionDir, Path.join_of_isName _ hversion]
    exact inside_append (List.cons_ne_nil _ _)
  frame s activated fs := within_moments hid hversion activated fs
  versions s activated fs fs' hfs' _ _ _ _ hne hdir _ hq :=
    versions_of_within hid hversion (within_moments hid hversion activated fs fs' hfs') hne hdir hq
  plugins s activated fs fs' hfs' _ _ hdir :=
    plugins_of_within hid hversion (within_moments hid hversion activated fs fs' hfs') hdir

/-! ## A failed install of an improper name -/

/-- The directories on the way to `p`, and nothing else. -/
def dirsTo (p : Place) : Files :=
  (List.range (p.length + 1)).foldl (fun fs k => fs.set (p.take k) .dir) Dict.empty

theorem get?_dirsTo (p q : Place) : (dirsTo p).get? q = if q <+: p then some .dir else none := by
  have hfold (ks : List Nat) (fs : Files) :
      (ks.foldl (fun fs k => fs.set (p.take k) .dir) fs).get? q =
        if ∃ k ∈ ks, p.take k = q then some .dir else fs.get? q := by
    induction ks generalizing fs with
    | nil => simp
    | cons k ks ih =>
      rw [List.foldl_cons, ih, Dict.get?_set]
      by_cases hrest : ∃ k ∈ ks, p.take k = q
      · have hany : ∃ k' ∈ k :: ks, p.take k' = q := by
          obtain ⟨k', hk', heq⟩ := hrest
          exact ⟨k', List.mem_cons_of_mem _ hk', heq⟩
        rw [if_pos hrest, if_pos hany]
      · rw [if_neg hrest]
        by_cases hk : p.take k = q
        · rw [if_pos hk, if_pos ⟨k, List.mem_cons_self, hk⟩]
        · rw [if_neg hk, if_neg]
          rintro ⟨k', hk', heq⟩
          rcases List.mem_cons.mp hk' with rfl | hk'
          · exact hk heq
          · exact hrest ⟨k', hk', heq⟩
  rw [dirsTo, hfold]
  congr 1
  rw [eq_iff_iff]
  constructor
  · rintro ⟨k, -, rfl⟩
    exact List.take_prefix _ _
  · intro hq
    refine ⟨q.length, ?_, (List.prefix_iff_eq_take.mp hq).symm⟩
    rw [List.mem_range]
    exact Nat.lt_succ_of_le hq.length_le

/-- Every operation after the first one fails, and leaves nothing behind. -/
def broken : Setting where
  env := ⟨fun n => if n = 0 then none else some { text := "No space left on device" }⟩
  utcNow := ""
  tempName := ""
  runtime := []
  artifacts := []
  described := []
  checked := []
  intOf := fun _ => none

section Broken

variable {layout : PluginLayout} {bundle : ValidatedBundle}

/-- The catalog knows no version, so what stands at the place of the version is removed. -/
theorem clearVersion_broken {fs : Files}
    (hthere : fs.get? (layout.versionDir bundle.pluginId bundle.version) = some .dir)
    (hcatalog : fs.get? (layout.pluginCatalogPath bundle.pluginId) = none) :
    (clearVersion broken layout bundle).exec ⟨fs, []⟩ =
      (.ok ⟨⟩,
        ⟨fs.removeTree (layout.versionDir bundle.pluginId bundle.version) fun _ => false,
          [fs.removeTree (layout.versionDir bundle.pluginId bundle.version) fun _ => false]⟩) := by
  have hexists : Lib.Files.existsAt Path.join
      (layout.versionDir bundle.pluginId bundle.version) fs = true := by
    simp [Lib.Files.existsAt, hthere]
  have hread : (readJson broken.env (layout.pluginCatalogPath bundle.pluginId)).exec ⟨fs, []⟩ =
      (.ok none, ⟨fs, []⟩) := by
    simp [readJson, Lib.Files.read, broken, readNode, nodeAt, hcatalog]
  have hremove : (Lib.Files.rmtree broken.env
      (layout.versionDir bundle.pluginId bundle.version)).exec ⟨fs, []⟩ =
        (.ok ⟨⟩,
          ⟨fs.removeTree (layout.versionDir bundle.pluginId bundle.version) fun _ => false,
          [fs.removeTree (layout.versionDir bundle.pluginId bundle.version) fun _ => false]⟩) := by
    simp [Lib.Files.rmtree, Lib.Files.attempt, broken, hthere]
  rw [clearVersion, Program.exec_bind]
  simp only [Lib.Files.look, Program.exec_of, hexists, if_true]
  rw [Program.exec_bind, hread]
  exact hremove

/-- All that an install does to a version the catalog does not know, when nothing works after
that. -/
theorem moments_broken {fs : Files} (activated : Bool)
    (hthere : fs.get? (layout.versionDir bundle.pluginId bundle.version) = some .dir)
    (hcatalog : fs.get? (layout.pluginCatalogPath bundle.pluginId) = none) :
    fs.removeTree (layout.versionDir bundle.pluginId bundle.version) (fun _ => false) ∈
      moments broken layout bundle activated fs := by
  generalize hgone : fs.removeTree (layout.versionDir bundle.pluginId bundle.version)
    (fun _ => false) = gone
  have hmkdir : (Lib.Files.mkdir broken.env (stagingDir broken layout)).exec ⟨gone, [gone]⟩ =
      (.error ⟨"OSError", "No space left on device"⟩, ⟨gone, [gone, gone]⟩) := by
    simp [Lib.Files.mkdir, Lib.Files.attempt, broken]
  have hrecord (error : String) :
      (recordInstallFailure broken layout bundle error).exec ⟨gone, [gone, gone]⟩ =
        (.error ⟨"OSError", "No space left on device"⟩, ⟨gone, [gone, gone]⟩) := by
    rw [recordInstallFailure, Program.exec_bind]
    simp [readJson, Lib.Files.read, broken]
  have hbody : (installValidated broken layout bundle activated).exec ⟨fs, []⟩ =
      (.error ⟨"OSError", "No space left on device"⟩, ⟨gone, [gone, gone]⟩) := by
    rw [installValidated, Program.exec_bind]
    simp only [safeReadlink, Lib.Files.look, Program.exec_of]
    rw [Program.exec_bind, clearVersion_broken hthere hcatalog, hgone]
    simp only [Program.exec_bind, hmkdir]
  have hrun : (installBundle broken layout bundle activated).exec ⟨fs, []⟩ =
      (.error ⟨"OSError", "No space left on device"⟩, ⟨gone, [gone, gone]⟩) := by
    rw [installBundle, Program.exec_tryCatch, hbody]
    simp only [String.reduceEq, if_false]
    rw [Program.exec_bind, hrecord]
  simp only [moments, hrun]
  exact List.mem_cons_self

theorem isName_of_contained (h : Contained layout bundle) :
    Path.IsName bundle.pluginId ∧ Path.IsName bundle.version := by
  have hnames : ∀ c ∈ layout.versionDir bundle.pluginId bundle.version, Path.IsName c := by
    have hinstalled : ∀ c ∈ layout.installedDir, Path.IsName c := by
      rw [PluginLayout.installedDir, List.forall_mem_append]
      exact ⟨layout.names, List.forall_mem_singleton.mpr (by decide)⟩
    exact Path.isName_of_join (Path.isName_of_join hinstalled)
  -- the version is at least two names below the installed directory
  obtain ⟨t, ht⟩ := h.pluginInside.1
  obtain ⟨t', ht'⟩ := h.versionInside.1
  have htne : t ≠ [] := by
    rintro rfl
    exact h.pluginInside.2 (by rw [← ht, List.append_nil])
  have htne' : t' ≠ [] := by
    rintro rfl
    exact h.versionInside.2 (by rw [← ht', List.append_nil])
  obtain ⟨p, v, rest, hplace⟩ : ∃ p v rest, layout.versionDir bundle.pluginId bundle.version =
      layout.installedDir ++ [p, v] ++ rest := by
    rw [← ht', ← ht, List.append_assoc]
    match t, htne, t', htne' with
    | [p], _, v :: rest, _ => exact ⟨p, v, rest, by simp⟩
    | p :: v :: more, _, t', _ => exact ⟨p, v, more ++ t', by simp⟩
  rw [hplace, List.forall_mem_append, List.forall_mem_append] at hnames
  have hp : Path.IsName p := hnames.1.2 p List.mem_cons_self
  have hv : Path.IsName v := hnames.1.2 v (List.mem_cons_of_mem _ List.mem_cons_self)
  have hbelow : layout.installedDir ++ [p, v] <+:
      layout.versionDir bundle.pluginId bundle.version := hplace ▸ List.prefix_append _ _
  by_cases hsame : (p, v) = (bundle.pluginId, bundle.version)
  · cases hsame
    exact ⟨hp, hv⟩
  · -- the version stands in the directory of another one, and an install removes it there
    exfalso
    have hthere (q : Place) (hq : q <+: layout.versionDir bundle.pluginId bundle.version) :
        (dirsTo (layout.versionDir bundle.pluginId bundle.version)).get? q = some .dir := by
      rw [get?_dirsTo, if_pos hq]
    have hcatalog : (dirsTo (layout.versionDir bundle.pluginId bundle.version)).get?
        (layout.pluginCatalogPath bundle.pluginId) = none := by
      rw [get?_dirsTo, if_neg]
      intro hprefix
      have hcat := h.catalogInside.1.trans hprefix
      have hinst : layout.installedDir <+: layout.versionDir bundle.pluginId bundle.version :=
        (List.prefix_append _ _).trans hbelow
      exact absurd (area_eq hcat hinst) (by decide)
    have hkept := h.versions broken true _ _
      (moments_broken true (hthere _ List.prefix_rfl) hcatalog) p v hp hv hsame (hthere _ hbelow) _
      hbelow
    rw [hthere _ List.prefix_rfl, FileSystem.get?_removeTree,
      if_pos ⟨List.prefix_rfl, rfl⟩] at hkept
    cases hkept

end Broken

/-- A manifest with every required field. -/
def manifestOf (pluginId version : String) : Fields :=
  [("plugin_id", .str pluginId), ("version", .str version), ("artifacts", .arr [.obj []])] ++
    (requiredManifestFields.filter fun field =>
      decide (field ∉ ["plugin_id", "version", "artifacts"])).map fun field => (field, .str "")

theorem validateMemberNames_manifest (content : Content) :
    validateMemberNames [] [⟨"manifest.json", content, false⟩] = .ok () := by
  have hrelative : ¬ Path.isAbsolute "manifest.json" = true := by decide
  have hdown : ¬ ".." ∈ Path.components "manifest.json" := by decide
  rw [validateMemberNames, if_neg List.not_mem_nil, if_neg hrelative, if_neg hdown,
    if_neg Bool.false_ne_true]
  rfl

/-- Whatever its id and its version are, the bundle is valid. -/
def bundleOf (pluginId version : String) : ValidatedBundle where
  name := "imu.rsnxplugin"
  bundlePath := "/data/incoming/imu.rsnxplugin"
  members := [⟨"manifest.json", .json (.obj (manifestOf pluginId version)), false⟩]
  manifest := manifestOf pluginId version
  pluginId
  version
  membersValid := validateMemberNames_manifest _
  manifestValid := rfl
  pluginId_eq := rfl
  version_eq := rfl

def dataLayout : PluginLayout := ⟨["data"], by decide⟩

/-- A plugin root with one installed version. -/
def oneInstalled : Files :=
  [["data"], ["data", "cache"], ["data", "catalog"], ["data", "incoming"], ["data", "installed"],
    ["data", "installed", "emg"], ["data", "installed", "emg", "1.0"]].foldl
    (fun fs p => fs.set p .dir) Dict.empty

/-- Nothing fails. -/
def working : Setting :=
  { broken with env := ⟨fun _ => none⟩, tempName := "x", intOf := fun _ => some 30 }

end NexusN3.Plugins
