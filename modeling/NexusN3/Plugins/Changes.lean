import NexusN3.Plugins.Versions

/-!
# The steps of an install and of an activation

The two operations again, cut at the places where they change a link or the catalog. Before that
an install prepares its version; what it changes there is scratch. `_activate`, the catalog and
the index follow.

* **`prepareInstall`**, **`changeActive`** — the two parts of an install, and
  **`installBundle_ok`**, **`installBundle_of_prepare_error`** — what its handlers make of them.
* **`activateVersion_eq`** — an activation in the same parts.
* **`recordActivation_ok`**, **`recordActivation_error`** — its update of the catalog.
-/

namespace NexusN3.Plugins

open Lib

/-! ## Activating -/

section Link

variable {s : Setting} {layout : PluginLayout} {pluginId version : String}

/-- `_activate` after the link to the current version. -/
def linkPrevious (s : Setting) (layout : PluginLayout) (pluginId : String) :
    Option String → Host PUnit
  | none => pure ⟨⟩
  | some target => do
    dropLink s.env (layout.previousLink pluginId)
    Lib.Files.symlink s.env target (layout.previousLink pluginId)

theorem activate_eq (hposix : s.windows = false) (previousTarget : Option String) :
    activate s layout pluginId version previousTarget = (do
      dropLink s.env (layout.currentLink pluginId)
      Lib.Files.symlink s.env version (layout.currentLink pluginId)
      linkPrevious s layout pluginId previousTarget) := by
  unfold activate
  rw [hposix]
  cases previousTarget <;> rfl

theorem activate_of_windows (hwindows : s.windows = true) (previousTarget : Option String) :
    activate s layout pluginId version previousTarget = pure ⟨⟩ := by
  unfold activate
  rw [hwindows, if_pos rfl]

end Link

/-! ## The installs -/

/-- What an install records of its version. -/
def installUpdate (layout : PluginLayout) (bundle : ValidatedBundle) (activated : Bool) :
    CatalogUpdate :=
  ⟨bundle.version, layout.versionDir bundle.pluginId bundle.version,
    layout.versionDir bundle.pluginId bundle.version ++ ["runtime", ".venv"], "installed", true,
    activated⟩

/-- The bundle is staged, and moved to the place of its version. -/
def moveBundle (s : Setting) (layout : PluginLayout) (bundle : ValidatedBundle) : Host PUnit := do
  stageBundle s layout bundle
  Lib.Files.mkdirs s.env (layout.versionParent bundle.pluginId bundle.version)
  Lib.Files.renameDir s.env (stagingDir s layout)
    (layout.versionDir bundle.pluginId bundle.version)

/-- An install up to `_activate`, without its handlers. -/
def prepareInstall (s : Setting) (layout : PluginLayout) (bundle : ValidatedBundle)
    (activated : Bool) : Host PUnit := do
  let installDir := layout.versionDir bundle.pluginId bundle.version
  clearVersion s layout bundle
  Lib.Files.mkdir s.env (stagingDir s layout)
  moveBundle s layout bundle
  copyManifest s installDir
  writeJson s.env (installDir ++ ["install.json"]) installDir
    (.obj [("plugin_id", .str bundle.pluginId), ("version", .str bundle.version),
      ("bundle_path", .str bundle.bundlePath),
      ("runtime_path", .str (placeText (installDir ++ ["runtime", ".venv"]))),
      ("state", .str "installed"), ("activated", .bool activated)])

/-- What an install changes before its first change of a link or of the catalog. -/
def installScratch (s : Setting) (layout : PluginLayout) (bundle : ValidatedBundle) : Footprint :=
  scratch layout bundle.pluginId
    [layout.versionDir bundle.pluginId bundle.version, stagingDir s layout]
    (failureFiles layout bundle.name)

section Install

variable {s : Setting} {layout : PluginLayout} {bundle : ValidatedBundle} {activated : Bool}
  {w w' : Lib.World Content}

open Program Lib.Footprint

theorem owns_failureFile {pluginId : String} {trees : List Place} {p : Place}
    (h : p ∈ failureFiles layout bundle.name) :
    (scratch layout pluginId trees (failureFiles layout bundle.name)).Owns p :=
  Or.inl (List.mem_append_right _ h)

theorem hasScratch_installScratch :
    HasScratch (installScratch s layout bundle) s layout bundle where
  version := List.mem_cons_self
  staging := List.mem_cons_of_mem _ List.mem_cons_self
  failures := ⟨owns_failureFile (by simp [failureFiles]), owns_failureFile (by simp [failureFiles])⟩
  error := ⟨owns_failureFile (by simp [failureFiles]), owns_failureFile (by simp [failureFiles])⟩

/-- The trees of an install, as long as the catalog does not know the version. -/
theorem removable_installScratch (hversion : IsVersionName bundle.version) {P : String → Prop}
    (hP : P bundle.version) :
    ∀ t ∈ [layout.versionDir bundle.pluginId bundle.version, stagingDir s layout],
      Removable layout bundle.pluginId P t := by
  rw [List.forall_mem_cons, List.forall_mem_singleton]
  exact ⟨Or.inr ⟨_, hversion, hP, rfl⟩, Or.inl (List.prefix_append _ _)⟩

theorem raises_installFailed {α : Type} (committed : Bool) (e : Raised) :
    Raises (installFailed s layout bundle committed e : Host α) := by
  refine .bind _ fun _ => .bind _ fun _ => ?_
  dsimp only
  split
  · exact .bind _ fun _ => .throw _
  · exact .throw _

/-- A version in the catalog is refused, and nothing is touched. -/
theorem clearVersion_of_cataloged {windows : Bool}
    (h : Recorded layout bundle.pluginId windows w.fs)
    (hv : Cataloged layout bundle.pluginId w.fs bundle.version) :
    ∃ e, (clearVersion s layout bundle).exec w = (.error e, w) := by
  have hexists : Lib.Files.existsAt Path.join
      (layout.versionDir bundle.pluginId bundle.version) w.fs = true := by
    simp [Lib.Files.existsAt, (h.installed _ hv).2]
  have hlook : (Lib.Files.look (Lib.Files.existsAt Path.join
      (layout.versionDir bundle.pluginId bundle.version)) : Host Bool).exec w = (.ok true, w) := by
    simp [Lib.Files.look, hexists]
  rw [clearVersion, exec_bind_of_ok _ hlook, if_pos rfl]
  obtain ⟨catalog, versions, hcatalog⟩ := h.catalog
  obtain ⟨found, hfound, hvalue⟩ := hcatalog.readNode_ok
  cases hfault : s.env.faults w.trail.length with
  | some fault =>
    have hread : (readJson s.env (layout.pluginCatalogPath bundle.pluginId)).exec w =
        (.error ⟨"OSError", fault.text⟩, w) := by
      simp [readJson, Lib.Files.read, hfault]
    exact ⟨_, exec_bind_of_error _ hread⟩
  | none =>
    have hread : (readJson s.env (layout.pluginCatalogPath bundle.pluginId)).exec w =
        (.ok found, w) := by
      simp [readJson, Lib.Files.read, hfault, hfound]
    rw [exec_bind_of_ok _ hread, hvalue]
    unfold Cataloged at hv
    rw [hcatalog.versions_eq] at hv
    simp only [Value.asDict, versions_or_empty hcatalog.2, mentions, hv]
    exact ⟨_, rfl⟩

theorem keeps_prepareInstall (hversion : Path.IsName bundle.version) :
    Keeps (installScratch s layout bundle).Always (prepareInstall s layout bundle activated) := by
  have hscratch := @hasScratch_installScratch s layout bundle
  have hparent : layout.versionParent bundle.pluginId bundle.version <+:
      layout.versionDir bundle.pluginId bundle.version ++ [] := by
    rw [versionParent_of_isName hversion, versionDir_eq hversion, List.append_nil]
    exact List.prefix_append _ _
  have hmove : Keeps (installScratch s layout bundle).Always (moveBundle s layout bundle) :=
    .bind hscratch.keeps_stageBundle fun _ =>
      .bind (keeps_mkdirs fun _ hq => owns_or_way (hscratch.owns_version []) (hq.trans hparent))
        fun _ => keeps_renameDir ⟨_, hscratch.staging, List.prefix_rfl⟩
          ⟨_, hscratch.version, List.prefix_rfl⟩
  exact .bind hscratch.keeps_clearVersion fun _ =>
    .bind (keeps_mkdir (Or.inr ⟨_, hscratch.staging, List.prefix_rfl⟩)) fun _ =>
    .bind hmove fun _ => .bind hscratch.keeps_copyManifest fun _ => hscratch.keeps_installRecord _

theorem installValidated_eq : installValidated s layout bundle activated = (do
    let previousTarget ← safeReadlink (layout.currentLink bundle.pluginId)
    clearVersion s layout bundle
    Lib.Files.mkdir s.env (stagingDir s layout)
    tryCatch (moveBundle s layout bundle) (installFailed s layout bundle false)
    tryCatch (finishInstall s layout bundle activated previousTarget)
      (installFailed s layout bundle true)) := rfl

def installResult (layout : PluginLayout) (bundle : ValidatedBundle) (activated : Bool) :
    PluginInstallResult :=
  ⟨bundle.pluginId, bundle.version, layout.root,
    layout.versionDir bundle.pluginId bundle.version,
    layout.versionDir bundle.pluginId bundle.version ++ ["runtime", ".venv"], activated⟩

/-- `finishInstall` after `_activate`. -/
def recordInstall (s : Setting) (layout : PluginLayout) (bundle : ValidatedBundle)
    (activated : Bool) : Host PluginInstallResult := do
  updatePluginCatalog s layout bundle (installUpdate layout bundle activated)
  return installResult layout bundle activated

/-- `finishInstall` after the records of the version. -/
def changeActive (s : Setting) (layout : PluginLayout) (bundle : ValidatedBundle)
    (activated : Bool) (previousTarget : Option String) : Host PluginInstallResult := do
  if activated then activate s layout bundle.pluginId bundle.version previousTarget
  recordInstall s layout bundle activated

/-- The install raises when its body raises, and records that. -/
theorem installBundle_of_error {trees : List Place} {e : Raised}
    (h : (installValidated s layout bundle activated).exec w = (.error e, w')) :
    ∃ e' w'', (installBundle s layout bundle activated).exec w = (.error e', w'') ∧
      (scratch layout bundle.pluginId trees (failureFiles layout bundle.name)).Within
        w'.fs w''.fs := by
  rw [installBundle, exec_tryCatch_of_error _ h]
  have hrecord := @keeps_recordInstallFailure
    (scratch layout bundle.pluginId trees (failureFiles layout bundle.name)) s layout bundle
    ⟨owns_failureFile (by simp [failureFiles]), owns_failureFile (by simp [failureFiles])⟩
    ⟨owns_failureFile (by simp [failureFiles]), owns_failureFile (by simp [failureFiles])⟩
  split
  · exact ⟨_, _, rfl, Footprint.Within.refl _ _⟩
  · have hraises : Raises (do
        recordInstallFailure s layout bundle e.text
        throw (installError e.text) : Host PluginInstallResult) :=
      .bind _ fun _ => .throw _
    obtain ⟨e', w'', hrun⟩ := hraises w'
    exact ⟨e', w'', hrun, keeps_of_exec (.bind (hrecord _) fun _ => .throw _) hrun⟩

/-- A part of the body that raises inside its handler. -/
theorem handled_of_error {α : Type} {F : Footprint} (hF : HasScratch F s layout bundle)
    {m : Host α} {e : Raised} (h : m.exec w = (.error e, w')) (committed : Bool) :
    ∃ e' w'', (tryCatch m (installFailed s layout bundle committed)).exec w = (.error e', w'') ∧
      F.Within w'.fs w''.fs := by
  obtain ⟨e', w'', hrun⟩ := raises_installFailed (s := s) committed e w'
  refine ⟨e', w'', ?_, keeps_of_exec (hF.keeps_installFailed committed e) hrun⟩
  rw [exec_tryCatch_of_error _ h]
  exact hrun

/-- A failure before `_activate`: only scratch has changed when the install is over. -/
theorem installBundle_of_prepare_error (hversion : Path.IsName bundle.version) {e : Raised}
    (h : (prepareInstall s layout bundle activated).exec w = (.error e, w')) :
    ∃ e' w'', (installBundle s layout bundle activated).exec w = (.error e', w'') ∧
      (installScratch s layout bundle).Within w.fs w''.fs := by
  have hscratch := @hasScratch_installScratch s layout bundle
  have hwithin := keeps_of_exec (keeps_prepareInstall hversion) h
  have hread : (safeReadlink (layout.currentLink bundle.pluginId)).exec w = (.ok _, w) := rfl
  -- whatever failed, the body raises from where it failed or from after its handler
  have hbody : ∃ e' w'', (installValidated s layout bundle activated).exec w = (.error e', w'') ∧
      (installScratch s layout bundle).Within w'.fs w''.fs := by
    rw [installValidated_eq, exec_bind_of_ok _ hread]
    rcases exec_bind_error h with hfail | ⟨_, w₁, hclear, h⟩
    · exact ⟨e, w', exec_bind_of_error _ hfail, Footprint.Within.refl _ _⟩
    rw [exec_bind_of_ok _ hclear]
    rcases exec_bind_error h with hfail | ⟨_, w₂, hmkdir, h⟩
    · exact ⟨e, w', exec_bind_of_error _ hfail, Footprint.Within.refl _ _⟩
    rw [exec_bind_of_ok _ hmkdir]
    rcases exec_bind_error h with hfail | ⟨_, w₃, hmove, h⟩
    · obtain ⟨e', w'', hrun, hwithin'⟩ := handled_of_error hscratch hfail false
      exact ⟨e', w'', exec_bind_of_error _ hrun, hwithin'⟩
    rw [exec_bind_of_ok _ (exec_tryCatch_of_ok _ hmove)]
    rcases exec_bind_error h with hfail | ⟨_, w₄, hcopy, h⟩
    · exact handled_of_error hscratch (exec_bind_of_error _ hfail) true
    · exact handled_of_error hscratch
        ((exec_bind_of_ok _ hcopy).trans (exec_bind_of_error _ h)) true
  obtain ⟨e', w'', hrun, hwithin'⟩ := hbody
  obtain ⟨e₁, w₁, hraised, hrecorded⟩ := installBundle_of_error hrun
  exact ⟨e₁, w₁, hraised, (hwithin.trans hwithin').trans hrecorded⟩

/-- After the records of the version, an install is `changeActive` under its handler. -/
theorem installValidated_of_prepare_ok {u : PUnit} {previousTarget : Option String}
    (hread : (safeReadlink (layout.currentLink bundle.pluginId)).exec w =
      (.ok previousTarget, w))
    (h : (prepareInstall s layout bundle activated).exec w = (.ok u, w')) :
    ∃ w₀, (installValidated s layout bundle activated).exec w =
        (tryCatch (finishInstall s layout bundle activated previousTarget)
          (installFailed s layout bundle true)).exec w₀ ∧
      (finishInstall s layout bundle activated previousTarget).exec w₀ =
        (changeActive s layout bundle activated previousTarget).exec w' := by
  obtain ⟨_, w₁, hclear, h⟩ := exec_bind_ok h
  obtain ⟨_, w₂, hmkdir, h⟩ := exec_bind_ok h
  obtain ⟨_, w₃, hmove, h⟩ := exec_bind_ok h
  obtain ⟨_, w₄, hcopy, hrecord⟩ := exec_bind_ok h
  refine ⟨w₃, ?_, ?_⟩
  · rw [installValidated_eq, exec_bind_of_ok _ hread, exec_bind_of_ok _ hclear,
      exec_bind_of_ok _ hmkdir, exec_bind_of_ok _ (exec_tryCatch_of_ok _ hmove)]
  · rw [finishInstall, exec_bind_of_ok _ hcopy]
    exact exec_bind_of_ok _ hrecord

theorem recordInstall_eq : recordInstall s layout bundle activated =
    writeCatalog s layout bundle.pluginId bundle.manifest
        (installUpdate layout bundle activated) >>= fun _ =>
      updatePluginsIndex s layout >>= fun _ => pure (installResult layout bundle activated) := by
  rw [recordInstall, updatePluginCatalog_eq, bind_assoc]

/-- An install that returns has prepared its version and made it known. -/
theorem installBundle_ok (hversion : Path.IsName bundle.version)
    {previousTarget : Option String} {result : PluginInstallResult}
    (hread : (safeReadlink (layout.currentLink bundle.pluginId)).exec w =
      (.ok previousTarget, w))
    (h : (installBundle s layout bundle activated).exec w = (.ok result, w')) :
    ∃ w₁, (prepareInstall s layout bundle activated).exec w = (.ok ⟨⟩, w₁) ∧
      (changeActive s layout bundle activated previousTarget).exec w₁ = (.ok result, w') := by
  cases hprepare : (prepareInstall s layout bundle activated).exec w with
  | mk r w₁ =>
    cases r with
    | error e =>
      obtain ⟨e', w'', hraised, -⟩ := installBundle_of_prepare_error hversion hprepare
      rw [hraised] at h
      cases h
    | ok u =>
      refine ⟨w₁, rfl, ?_⟩
      obtain ⟨w₀, hbody, hfinish⟩ := installValidated_of_prepare_ok hread hprepare
      cases hrun : (changeActive s layout bundle activated previousTarget).exec w₁ with
      | mk r w₂ =>
        rw [hrun] at hfinish
        cases r with
        | ok result' =>
          rw [installBundle,
            exec_tryCatch_of_ok _ (hbody.trans (exec_tryCatch_of_ok _ hfinish))] at h
          exact h
        | error e =>
          obtain ⟨e', w₃, hhandled, -⟩ :=
            handled_of_error (@hasScratch_installScratch s layout bundle) hfinish true
          obtain ⟨e₁, w₄, hraised, -⟩ :=
            @installBundle_of_error s layout bundle activated w w₃ [] e' (hbody.trans hhandled)
          rw [hraised] at h
          cases h

end Install

/-! ## The activations -/

/-- `activate_version` after `_activate`, up to the index. -/
def recordActivation (s : Setting) (layout : PluginLayout) (repr : Value → String)
    (pluginId version : String) (payload manifest : Value) : Host PUnit :=
  match runtimePathOf payload with
  | .error e => throw e
  | .ok runtimePath =>
    writeCatalogOf s layout repr manifest
      ⟨version, layout.versionDir pluginId version, runtimePath, "installed", true, true⟩

section Activation

variable {s : Setting} {layout : PluginLayout} {repr : Value → String} {pluginId version : String}
  {payload : Value} {isActive : Bool} {w w' : Lib.World Content}

open Program Lib.Footprint

theorem keeps_findInstalled {F : Footprint} :
    Keeps F.Always (findInstalled s layout pluginId version) := by
  refine .bind (keeps_read _) fun catalog => ?_
  split
  · exact .throw _
  · dsimp only
    split
    · exact .throw _
    · refine .bind (keeps_look _) fun present => ?_
      split
      · exact .throw _
      · exact .pure _

/-- The version that was found is in the catalog. -/
theorem findInstalled_ok (h : ∃ catalog versions, HasCatalog layout pluginId w.fs catalog versions)
    (hrun : (findInstalled s layout pluginId version).exec w = (.ok (payload, isActive), w')) :
    w' = w ∧ Cataloged layout pluginId w.fs version ∧
      (isActive = false → activeVersion layout pluginId w.fs ≠ .str version) := by
  obtain ⟨catalog, versions, hcatalog⟩ := h
  obtain ⟨found', hread', hvalue⟩ := hcatalog.readNode_ok
  obtain ⟨found, w₁, hread, hrest⟩ := exec_bind_ok hrun
  obtain ⟨hfound, rfl⟩ := Lib.Files.read_ok hread
  rw [hread'] at hfound
  cases hfound
  rw [hvalue] at hrest
  simp only [Value.asDict, versions_or_empty hcatalog.2] at hrest
  obtain ⟨present, w₂, hlook, hdecide⟩ := exec_bind_ok hrest
  obtain ⟨-, rfl⟩ := Lib.Files.look_ok hlook
  split at hdecide
  · cases hdecide
  · rename_i hfine
    obtain ⟨hpair, rfl⟩ := exec_pure_ok hdecide
    cases hpair
    rw [Bool.or_eq_true, Bool.not_eq_true', Bool.not_eq_true', not_or, Bool.not_eq_false,
      Bool.not_eq_false] at hfine
    refine ⟨rfl, ?_, fun hinactive => ?_⟩
    · unfold Cataloged
      rw [hcatalog.versions_eq]
      cases hlookup : versions.lookup version with
      | none => simp [Value.get, Value.getD, hlookup, Value.truthy] at hfine
      | some v => rfl
    · rw [hcatalog.active_eq]
      intro hactive
      rw [hactive] at hinactive
      simp [Value.isText] at hinactive

/-- With a manifest of the plugin, an activation writes the catalog of the plugin or nothing. -/
theorem recordActivation_eq {manifest : Value} (hown : ∀ fields, manifest = .obj fields →
      ∀ v, fields.lookup "plugin_id" = some v → v = .str pluginId) :
    (∃ e, recordActivation s layout repr pluginId version payload manifest = throw e) ∨
      ∃ fields update, update.version = version ∧ update.active = true ∧
        recordActivation s layout repr pluginId version payload manifest =
          writeCatalog s layout pluginId fields update := by
  unfold recordActivation
  split
  · exact Or.inl ⟨_, rfl⟩
  · unfold writeCatalogOf
    split
    · rename_i fields
      split
      · exact Or.inl ⟨_, rfl⟩
      · rename_i v hlookup
        rw [hown fields rfl v hlookup]
        exact Or.inr ⟨_, _, rfl, rfl, rfl⟩
    · exact Or.inl ⟨_, rfl⟩

/-- What `read_json(manifest_path, default={}) or {}` gives is the manifest of the plugin. -/
theorem own_manifest {fs : Files} {found : Option Value}
    (hmanifests : ∀ manifest,
      readNode fs (layout.versionDir pluginId version ++ ["manifest.json"]) =
        .ok (some (.obj manifest)) → manifest.lookup "plugin_id" = some (.str pluginId))
    (hread : readNode fs (layout.versionDir pluginId version ++ ["manifest.json"]) = .ok found) :
    ∀ fields, (found.getD (.obj [])).orElse (.obj []) = .obj fields →
      ∀ v, fields.lookup "plugin_id" = some v → v = .str pluginId := by
  intro fields hvalue v hlookup
  rcases found with - | found
  · cases hvalue
    cases hlookup
  · rw [Option.getD_some, Value.orElse] at hvalue
    split at hvalue
    · rw [hvalue] at hread
      rw [hmanifests fields hread] at hlookup
      exact (Option.some.inj hlookup).symm
    · cases hvalue
      cases hlookup

section Record

variable {manifest : Value} (hown : ∀ fields, manifest = .obj fields →
  ∀ v, fields.lookup "plugin_id" = some v → v = .str pluginId)

include hown

theorem recordActivation_others {r : Except Raised PUnit}
    (h : (recordActivation s layout repr pluginId version payload manifest).exec w = (r, w'))
    (hid : Path.IsName pluginId) {q : Place} (hq : q ≠ layout.pluginCatalogPath pluginId)
    (hapart : (scratch layout pluginId [] []).Apart q) : w'.fs.get? q = w.fs.get? q := by
  rcases recordActivation_eq hown with ⟨e, heq⟩ | ⟨fields, update, -, -, heq⟩
  · rw [heq] at h
    cases h
    rfl
  · rw [heq] at h
    exact writeCatalog_others hid h hq hapart

theorem recordActivation_error {e : Raised}
    (h : (recordActivation s layout repr pluginId version payload manifest).exec w =
      (.error e, w')) (hid : Path.IsName pluginId) :
    (scratch layout pluginId [] []).Within w.fs w'.fs := by
  rcases recordActivation_eq hown with ⟨e', heq⟩ | ⟨fields, update, -, -, heq⟩
  · rw [heq] at h
    cases h
    exact Footprint.Within.refl _ _
  · rw [heq] at h
    exact writeCatalog_error hid h

theorem recordActivation_ok {u : PUnit}
    (h : (recordActivation s layout repr pluginId version payload manifest).exec w = (.ok u, w'))
    (hid : Path.IsName pluginId) {catalog versions : Fields}
    (hcatalog : HasCatalog layout pluginId w.fs catalog versions) :
    ∃ update catalog' versions', update.version = version ∧ update.active = true ∧
      HasCatalog layout pluginId w'.fs catalog' versions' ∧
      Updated update catalog versions catalog' versions' := by
  rcases recordActivation_eq hown with ⟨e', heq⟩ | ⟨fields, update, hupdate, hactive, heq⟩
  · rw [heq] at h
    cases h
  · rw [heq] at h
    obtain ⟨catalog', versions', hcatalog', hupdated, -⟩ :=
      @writeCatalog_ok s layout pluginId _ _ [] [] _ _ _ _ hid hcatalog _ h
    exact ⟨update, catalog', versions', hupdate, hactive, hcatalog', hupdated⟩

end Record

/-- `activate_version` after `_activate`. -/
def finishActivation (s : Setting) (layout : PluginLayout) (repr : Value → String)
    (pluginId version : String) (payload manifest : Value) : Host PluginActivationResult := do
  recordActivation s layout repr pluginId version payload manifest
  updatePluginsIndex s layout
  return ⟨pluginId, version, true⟩

theorem activateVersion_eq : activateVersion s layout repr pluginId version = (do
    let found ← findInstalled s layout pluginId version
    if found.2 then return ⟨pluginId, version, false⟩
    else do
      let manifest ← readJson s.env (layout.versionDir pluginId version ++ ["manifest.json"])
      let previousTarget ← safeReadlink (layout.currentLink pluginId)
      activate s layout pluginId version previousTarget
      finishActivation s layout repr pluginId version found.1
        ((manifest.getD (.obj [])).orElse (.obj []))) := by
  unfold activateVersion
  refine congrArg (findInstalled s layout pluginId version >>= ·) (funext fun found => ?_)
  obtain ⟨payload, isActive⟩ := found
  dsimp only
  congr 1
  refine congrArg (readJson s.env _ >>= ·) (funext fun manifest => ?_)
  refine congrArg (safeReadlink _ >>= ·) (funext fun previousTarget => ?_)
  refine congrArg (activate s layout pluginId version previousTarget >>= ·) (funext fun _ => ?_)
  unfold finishActivation recordActivation updateCatalog
  cases runtimePathOf payload with
  | error e => rfl
  | ok runtimePath => exact bind_assoc _ _ _

end Activation

end NexusN3.Plugins
