import NexusN3.Lib.FileRuns
import NexusN3.Plugins.Install

/-!
# The versions of one plugin

Besides `install_bundle`, two operations change what the catalog of a plugin says:
`activate_version` makes an installed version the active one, and `prune_inactive_versions`
removes the others. Which version is active is written down three times: as a field of the
catalog, as a flag of each version and, on POSIX, as the target of a link.

* **`activateVersion`**, **`pruneInactiveVersions`** — the programs.
* **`catalogAt`**, **`Cataloged`**, **`activeVersion`** — what the catalog says.
* **`updatedCatalog_ok`** — what an update does to it.
* **`Recorded`** — the links and the directories agree with the catalog.
-/

namespace NexusN3.Plugins

open Lib

/-! ## The programs -/

structure PluginActivationResult where
  pluginId : String
  version : String
  changed : Bool

structure PluginPruneResult where
  pluginId : String
  activeVersion : String
  removedVersions : List String

/-- `update_plugin_catalog` up to the index. -/
def writeCatalog (s : Setting) (layout : PluginLayout) (pluginId : String) (manifest : Fields)
    (update : CatalogUpdate) : Host PUnit := do
  let catalog ← readJson s.env (layout.pluginCatalogPath pluginId)
  match updatedCatalog layout manifest update s.utcNow
    ((catalog.getD (.obj [])).orElse (.obj [])) with
  | .error e => throw e
  | .ok catalog =>
    writeJson s.env (layout.pluginCatalogPath pluginId) (layout.pluginCatalogParent pluginId)
      catalog

theorem updatePluginCatalog_eq (s : Setting) (layout : PluginLayout) (bundle : ValidatedBundle)
    (update : CatalogUpdate) :
    updatePluginCatalog s layout bundle update = (do
      writeCatalog s layout bundle.pluginId bundle.manifest update
      updatePluginsIndex s layout) := by
  unfold updatePluginCatalog writeCatalog
  rw [bind_assoc]
  refine congrArg (readJson s.env (layout.pluginCatalogPath bundle.pluginId) >>= ·) ?_
  funext catalog
  dsimp only
  cases updatedCatalog layout bundle.manifest update s.utcNow
    ((catalog.getD (.obj [])).orElse (.obj [])) <;> rfl

/-- `str(value)`. -/
def strOf (repr : Value → String) : Value → String
  | .str text => text
  | v => repr v

/-- `path.is_file()`. -/
def isFile (p : Place) (fs : Files) : Bool :=
  match nodeAt fs p with
  | some (.file _) => true
  | _ => false

/-- `writeCatalog` for the manifest of an installed version; the id in it is any value. -/
def writeCatalogOf (s : Setting) (layout : PluginLayout) (repr : Value → String)
    (manifest : Value) (update : CatalogUpdate) : Host PUnit :=
  match manifest with
  | .obj manifest =>
    match manifest.lookup "plugin_id" with
    | none => throw ⟨"KeyError", "plugin_id"⟩
    | some pluginId => writeCatalog s layout (strOf repr pluginId) manifest update
  | _ => throw typeError

/-- `update_plugin_catalog` of such a manifest. -/
def updateCatalog (s : Setting) (layout : PluginLayout) (repr : Value → String)
    (manifest : Value) (update : CatalogUpdate) : Host PUnit := do
  writeCatalogOf s layout repr manifest update
  updatePluginsIndex s layout

/-- `Path(version_payload["runtime_path"])`; the path was written as an absolute one. -/
def runtimePathOf (payload : Value) : Except Raised Place :=
  match payload with
  | .obj payload =>
    match payload.lookup "runtime_path" with
    | none => .error ⟨"KeyError", "runtime_path"⟩
    | some (.str path) => .ok (Path.components path)
    | some _ => .error typeError
  | _ => .error typeError

/-- The checks of `activate_version`: what the catalog has for the version, and whether it is the
active one. -/
def findInstalled (s : Setting) (layout : PluginLayout) (pluginId version : String) :
    Host (Value × Bool) := do
  let catalog ← readJson s.env (layout.pluginCatalogPath pluginId)
  match ((catalog.getD (.obj [])).orElse (.obj [])).asDict with
  | none => throw ⟨"AttributeError", "get"⟩
  | some catalog =>
    match ((Value.get catalog "versions").orElse (.obj [])).asDict with
    | none => throw ⟨"AttributeError", "get"⟩
    | some versions =>
      let payload := Value.get versions version
      let present ← Lib.Files.look
        (isFile (layout.versionDir pluginId version ++ ["manifest.json"]))
      if !payload.truthy || !present then
        throw (installError s!"plugin version is not installed: {pluginId} {version}")
      else return (payload, (Value.get catalog "active_version").isText version)

/-- `PluginInstaller.activate_version`. -/
def activateVersion (s : Setting) (layout : PluginLayout) (repr : Value → String)
    (pluginId version : String) : Host PluginActivationResult := do
  let (payload, isActive) ← findInstalled s layout pluginId version
  if isActive then return ⟨pluginId, version, false⟩
  else do
    let installDir := layout.versionDir pluginId version
    let manifest ← readJson s.env (installDir ++ ["manifest.json"])
    let manifest := (manifest.getD (.obj [])).orElse (.obj [])
    let previousTarget ← safeReadlink (layout.currentLink pluginId)
    activate s layout pluginId version previousTarget
    match runtimePathOf payload with
    | .error e => throw e
    | .ok runtimePath =>
      updateCatalog s layout repr manifest
        ⟨version, installDir, runtimePath, "installed", true, true⟩
      return ⟨pluginId, version, true⟩

/-- The checks of `prune_inactive_versions`: the catalog, its versions and what to remove. -/
def findInactive (s : Setting) (layout : PluginLayout) (repr : Value → String)
    (pluginId keepVersion : String) : Host (Fields × Value × List String) := do
  let catalog ← readJson s.env (layout.pluginCatalogPath pluginId)
  match ((catalog.getD (.obj [])).orElse (.obj [])).asDict with
  | none => throw ⟨"AttributeError", "get"⟩
  | some catalog =>
    let activeVersion := strOf repr ((Value.get catalog "active_version").orElse (.str ""))
    if activeVersion = "" then
      throw (installError s!"plugin has no active version: {pluginId}")
    else if activeVersion ≠ keepVersion then
      throw (installError (s!"refusing to prune {pluginId}: "
        ++ s!"active version is {activeVersion}, expected {keepVersion}"))
    else
      let versions := (Value.get catalog "versions").orElse (.obj [])
      match mentions keepVersion versions, versions.iter with
      | some true, some items =>
        let others := items.filter fun v => !v.isText keepVersion
        -- a path cannot be made of anything but a text
        match others.mapM Value.asText with
        | none => throw typeError
        | some others => return (catalog, versions, others.mergeSort fun a b => decide (a ≤ b))
      | some false, _ =>
        throw (installError
          s!"active plugin version is missing from catalog: {pluginId} {keepVersion}")
      | _, _ => throw typeError

/-- The loop over the removed versions; only a dictionary can give one of them up. -/
def dropVersions (s : Setting) (layout : PluginLayout) (pluginId : String) :
    List String → Value → Host Value
  | [], versions => pure versions
  | version :: rest, versions => do
    if ← Lib.Files.look (Lib.Files.existsAt Path.join (layout.versionDir pluginId version)) then
      Lib.Files.rmtree s.env (layout.versionDir pluginId version)
    match versions with
    | .obj fields =>
      dropVersions s layout pluginId rest
        (.obj (fields.filter fun field => decide (field.1 ≠ version)))
    | .arr _ => throw typeError
    | _ => throw ⟨"AttributeError", "pop"⟩

/-- The link to the previous version does not outlive its version. -/
def dropPrevious (s : Setting) (layout : PluginLayout) (pluginId : String)
    (removed : List String) : Host PUnit := do
  let previousTarget ← safeReadlink (layout.previousLink pluginId)
  if previousTarget.any fun target => decide (target ∈ removed) then
    Lib.Files.unlink s.env (layout.previousLink pluginId)

/-- The catalog without the removed versions. -/
def recordPruned (s : Setting) (layout : PluginLayout) (pluginId : String) (catalog : Fields)
    (versions : Value) : Host PUnit := do
  writeJson s.env (layout.pluginCatalogPath pluginId) (layout.pluginCatalogParent pluginId)
    (.obj (Value.setField "updated_at" (.str s.utcNow)
      (Value.setField "versions" versions catalog)))
  updatePluginsIndex s layout

/-- `PluginInstaller.prune_inactive_versions`. -/
def pruneInactiveVersions (s : Setting) (layout : PluginLayout) (repr : Value → String)
    (pluginId keepVersion : String) : Host PluginPruneResult := do
  let (catalog, versions, removed) ← findInactive s layout repr pluginId keepVersion
  let versions ← dropVersions s layout pluginId removed versions
  dropPrevious s layout pluginId removed
  if removed ≠ [] then recordPruned s layout pluginId catalog versions
  return ⟨pluginId, keepVersion, removed⟩

/-! ## What the catalog says -/

section Views

variable (layout : PluginLayout) (pluginId : String) (fs : Files)

/-- The catalog, as the operations read it. -/
def catalogAt : Option Fields :=
  match readNode fs (layout.pluginCatalogPath pluginId) with
  | .ok catalog => ((catalog.getD (.obj [])).orElse (.obj [])).asDict
  | .error _ => none

/-- The versions in the catalog, with what it says of each. -/
def catalogedVersions : Fields :=
  ((Value.getD ((catalogAt layout pluginId fs).getD []) "versions" (.obj [])).asDict).getD []

def Cataloged (version : String) : Prop :=
  ((catalogedVersions layout pluginId fs).lookup version).isSome = true

def activeVersion : Value := Value.get ((catalogAt layout pluginId fs).getD []) "active_version"

/-- `payload["active"]`, for a version of the catalog. -/
def activeFlag (version : String) : Value :=
  match (catalogedVersions layout pluginId fs).lookup version with
  | some (.obj payload) => Value.get payload "active"
  | _ => .null

/-- There is no catalog yet, or it is a file with a dictionary of versions. -/
def HasCatalog (catalog versions : Fields) : Prop :=
  (fs.get? (layout.pluginCatalogPath pluginId) = none ∧ catalog = [] ∨
    fs.get? (layout.pluginCatalogPath pluginId) = some (.file (.json (.obj catalog)))) ∧
  Value.getD catalog "versions" (.obj []) = .obj versions

end Views

/-- The dictionary of versions, as `catalog.get("versions") or {}` gives it. -/
theorem versions_or_empty {catalog versions : Fields}
    (h : Value.getD catalog "versions" (.obj []) = .obj versions) :
    (Value.get catalog "versions").orElse (.obj []) = .obj versions := by
  unfold Value.get Value.getD at *
  cases hlookup : catalog.lookup "versions" with
  | none =>
    rw [hlookup, Option.getD_none] at h
    rw [Option.getD_none]
    exact h
  | some v =>
    rw [hlookup, Option.getD_some] at h
    rw [Option.getD_some, h]
    cases versions <;> rfl

namespace HasCatalog

variable {layout : PluginLayout} {pluginId : String} {fs fs' : Files} {catalog versions : Fields}

theorem congr (h : HasCatalog layout pluginId fs catalog versions)
    (heq : fs'.get? (layout.pluginCatalogPath pluginId) =
      fs.get? (layout.pluginCatalogPath pluginId)) :
    HasCatalog layout pluginId fs' catalog versions := by
  unfold HasCatalog
  rwa [heq]

/-- What every operation reads. -/
theorem readNode_ok (h : HasCatalog layout pluginId fs catalog versions) :
    ∃ found, readNode fs (layout.pluginCatalogPath pluginId) = .ok found ∧
      (found.getD (.obj [])).orElse (.obj []) = .obj catalog := by
  rcases h.1 with ⟨hnone, rfl⟩ | hfile
  · exact ⟨none, by simp [readNode, nodeAt, hnone], rfl⟩
  · refine ⟨some (.obj catalog), by simp [readNode, nodeAt, hfile], ?_⟩
    cases catalog <;> rfl

theorem catalogAt_eq (h : HasCatalog layout pluginId fs catalog versions) :
    catalogAt layout pluginId fs = some catalog := by
  obtain ⟨found, hread, hfound⟩ := h.readNode_ok
  rw [catalogAt, hread]
  dsimp only
  rw [hfound]
  rfl

theorem versions_eq (h : HasCatalog layout pluginId fs catalog versions) :
    catalogedVersions layout pluginId fs = versions := by
  rw [catalogedVersions, h.catalogAt_eq, Option.getD_some, h.2]
  rfl

theorem active_eq (h : HasCatalog layout pluginId fs catalog versions) :
    activeVersion layout pluginId fs = Value.get catalog "active_version" := by
  rw [activeVersion, h.catalogAt_eq, Option.getD_some]

end HasCatalog

/-! ## What an update does -/

/-- The flags of all versions but the updated one are taken away. -/
theorem lookup_deactivateOthers {version : String} {versions versions' : Fields}
    (h : deactivateOthers version versions = .ok versions') (k : String) :
    (k = version → versions'.lookup k = versions.lookup k) ∧
    ((versions'.lookup k).isSome = (versions.lookup k).isSome) ∧
    (k ≠ version → ∀ v, versions'.lookup k = some v →
      ∃ payload, v = .obj payload ∧ Value.get payload "active" = .bool false) := by
  have hall := forall₂_of_mapM_ok h
  clear h
  induction hall with
  | nil => simp
  | @cons entry entry' versions versions' hone _ ih =>
    obtain ⟨key, v⟩ := entry
    -- the loop keeps the key, and clears the flag of another version
    have hentry : entry'.1 = key ∧ (key = version → entry'.2 = v) ∧ (key ≠ version →
        ∃ payload, entry'.2 = .obj payload ∧ Value.get payload "active" = .bool false) := by
      dsimp only at hone
      split at hone
      · rename_i hkey
        cases hone
        exact ⟨rfl, fun _ => rfl, fun hne => absurd hkey hne⟩
      · rename_i hkey
        cases v with
        | obj payload =>
          dsimp only at hone
          split at hone
          · cases hone
          · split at hone
            · cases hone
              refine ⟨rfl, fun heq => absurd heq hkey, fun _ => ⟨_, rfl, ?_⟩⟩
              rw [Value.get, Value.getD, Value.lookup_setField, if_neg (by decide),
                Value.lookup_setField, if_pos rfl, Option.getD_some]
            · cases hone
              refine ⟨rfl, fun heq => absurd heq hkey, fun _ => ⟨_, rfl, ?_⟩⟩
              rw [Value.get, Value.getD, Value.lookup_setField, if_pos rfl, Option.getD_some]
        | _ => cases hone
    obtain ⟨key', v'⟩ := entry'
    obtain ⟨rfl, hsame, hcleared⟩ := hentry
    rw [List.lookup_cons, List.lookup_cons]
    by_cases hk : k = key'
    · subst hk
      simp only [BEq.rfl, Option.isSome_some, Option.some.injEq]
      refine ⟨hsame, trivial, fun hne w hw => ?_⟩
      rw [← hw]
      exact hcleared hne
    · rw [beq_false_of_ne hk]
      exact ih

/-- What an update of one version leaves of the versions and of the active one. -/
structure Updated (update : CatalogUpdate) (catalog versions catalog' versions' : Fields) :
    Prop where
  cataloged : ∀ k, (versions'.lookup k).isSome = true ↔
    k = update.version ∨ (versions.lookup k).isSome = true
  own : ∃ payload, versions'.lookup update.version = some (.obj payload) ∧
    Value.get payload "active" = .bool update.active
  others : ∀ k ≠ update.version, ∀ v, versions'.lookup k = some v →
    ∃ payload, v = .obj payload ∧ Value.get payload "active" = .bool false
  active : Value.get catalog' "active_version" =
    if update.active then .str update.version else Value.get catalog "active_version"

theorem updatedCatalog_ok {layout : PluginLayout} {manifest : Fields} {update : CatalogUpdate}
    {utcNow : String} {catalog versions : Fields} {v : Value}
    (hversions : Value.getD catalog "versions" (.obj []) = .obj versions)
    (h : updatedCatalog layout manifest update utcNow (.obj catalog) = .ok v) :
    ∃ catalog' versions', v = .obj catalog' ∧
      Value.getD catalog' "versions" (.obj []) = .obj versions' ∧
      Updated update catalog versions catalog' versions' := by
  unfold updatedCatalog at h
  simp only [Value.asDict, Option.map_some, Option.getD_some, hversions, bind, Except.bind, pure,
    Except.pure] at h
  split at h
  · cases h
  · rename_i versions' hothers
    cases h
    refine ⟨_, versions', rfl, ?_, ?_, ?_, ?_, ?_⟩
    · simp [Value.getD, Value.lookup_setField]
    · intro k
      rw [(lookup_deactivateOthers hothers k).2.1, Value.lookup_setField]
      by_cases hk : update.version = k
      · simp [hk]
      · simp [hk, Ne.symm hk]
    · obtain ⟨payload, hpayload, hactive⟩ : ∃ payload,
          versionPayload manifest update utcNow = .obj payload ∧
            Value.get payload "active" = .bool update.active := ⟨_, rfl, rfl⟩
      refine ⟨payload, ?_, hactive⟩
      rw [(lookup_deactivateOthers hothers update.version).1 rfl, Value.lookup_setField, if_pos rfl,
        hpayload]
    · exact fun k hk => (lookup_deactivateOthers hothers k).2.2 hk
    · simp [Value.get, Value.getD, Value.lookup_setField]

/-! ## Where it says so -/

/-- A name that is not one of the links beside the versions. -/
def IsVersionName (version : String) : Prop :=
  Path.IsName version ∧ version ≠ "current" ∧ version ≠ "previous"

/-- A name whose catalog is not one of the other records. -/
def IsPluginName (pluginId : String) : Prop :=
  Path.IsName pluginId ∧ pluginId ≠ "plugins" ∧ pluginId ≠ "install_failures"

instance (version : String) : Decidable (IsVersionName version) := by
  unfold IsVersionName
  infer_instance

instance (pluginId : String) : Decidable (IsPluginName pluginId) := by
  unfold IsPluginName
  infer_instance

/-- The catalog and the links of a plugin. -/
def records (layout : PluginLayout) (pluginId : String) : List Place :=
  [layout.pluginCatalogPath pluginId, layout.currentLink pluginId, layout.previousLink pluginId]

/-- The files that record a failed install. -/
def failureFiles (layout : PluginLayout) (bundleName : String) : List Place :=
  [layout.installFailuresPath, tmpPath layout.installFailuresPath, layout.errorPath bundleName,
    tmpPath (layout.errorPath bundleName)]

/-- What the operations write besides the records: temporary files, the index, and what they are
given. -/
def scratch (layout : PluginLayout) (pluginId : String) (trees files : List Place) : Footprint where
  trees
  files := [tmpPath (layout.pluginCatalogPath pluginId), layout.pluginsIndexPath,
    tmpPath layout.pluginsIndexPath] ++ files
  links := []

theorem not_prefix_of_sibling {d q f : Place} {x y : String} (hq : d ++ [x] <+: q)
    (hf : d ++ [y] <+: f) (hne : x ≠ y) : ¬ q <+: f := by
  intro h
  have heq := eq_of_prefix (hq.trans h) hf (by simp)
  exact hne (by simpa using heq)

@[simp] theorem tmpPath_append (d : Place) (name : String) :
    tmpPath (d ++ [name]) = d ++ [name ++ ".tmp"] := by
  simp [tmpPath]

section Apart

variable {layout : PluginLayout} {pluginId version : String} {trees files : List Place}

theorem versionDir_eq (hversion : Path.IsName version) :
    layout.versionDir pluginId version = layout.pluginDir pluginId ++ [version] :=
  Path.join_of_isName _ hversion

theorem installed_below (hid : Path.IsName pluginId) (x : String) :
    layout.root ++ ["installed"] <+: layout.pluginDir pluginId ++ [x] := by
  rw [pluginDir_of_isName hid, PluginLayout.installedDir, List.append_assoc]
  exact List.prefix_append _ _

/-- The catalog is not in the directory of the plugin. -/
theorem pluginDir_ne_catalog (hid : Path.IsName pluginId) (x : String) :
    layout.pluginDir pluginId ++ [x] ≠ layout.pluginCatalogPath pluginId := by
  rw [pluginCatalogPath_of_isName hid]
  intro heq
  exact not_prefix_of_sibling (installed_below hid x)
    (List.prefix_append (layout.root ++ ["catalog"]) [pluginId ++ ".json"]) (by decide)
    (heq ▸ List.prefix_rfl)

/-- No file of the scratch area is in the installed area. -/
theorem not_prefix_scratch_file (hid : Path.IsName pluginId) {bundleName : String}
    (hfiles : ∀ f ∈ files, f ∈ failureFiles layout bundleName) {q : Place}
    (hq : layout.root ++ ["installed"] <+: q) :
    ∀ f ∈ (scratch layout pluginId trees files).files, ¬ q <+: f := by
  have hcatalog (name : String) : ¬ q <+: layout.catalogDir ++ [name] :=
    not_prefix_of_sibling hq (List.prefix_append _ _) (by decide)
  have hincoming (name : String) : ¬ q <+: layout.incomingDir ++ [name] :=
    not_prefix_of_sibling hq (List.prefix_append _ _) (by decide)
  intro f hf
  simp only [scratch, pluginCatalogPath_of_isName hid, PluginLayout.pluginsIndexPath,
    tmpPath_append, List.cons_append, List.nil_append, List.mem_cons] at hf
  rcases hf with rfl | rfl | rfl | hf
  · exact hcatalog _
  · exact hcatalog _
  · exact hcatalog _
  · have hf := hfiles f hf
    simp only [failureFiles, PluginLayout.installFailuresPath, PluginLayout.errorPath,
      tmpPath_append, List.mem_cons, List.not_mem_nil, or_false] at hf
    rcases hf with rfl | rfl | rfl | rfl
    · exact hcatalog _
    · exact hcatalog _
    · exact hincoming _
    · exact hincoming _

/-- The trees are in the cache, or are directories of versions with `P`. -/
def Removable (layout : PluginLayout) (pluginId : String) (P : String → Prop) (t : Place) : Prop :=
  layout.cacheDir <+: t ∨ ∃ v, IsVersionName v ∧ P v ∧ t = layout.versionDir pluginId v

/-- Nothing but the files of an operation in the directories of other versions. -/
theorem apart_version (hid : Path.IsName pluginId) (hversion : IsVersionName version)
    {P : String → Prop} (hP : ¬ P version)
    (htrees : ∀ t ∈ trees, Removable layout pluginId P t) {bundleName : String}
    (hfiles : ∀ f ∈ files, f ∈ failureFiles layout bundleName) {q : Place}
    (hq : layout.versionDir pluginId version <+: q) :
    (scratch layout pluginId trees files).Apart q := by
  rw [versionDir_eq hversion.1] at hq
  have harea : layout.root ++ ["installed"] <+: q := (installed_below hid version).trans hq
  refine Footprint.apart_of (fun t ht => ?_) (not_prefix_scratch_file hid hfiles harea)
    List.not_mem_nil
  rcases htrees t ht with hcache | ⟨v, hv, hPv, rfl⟩
  · exact ⟨not_prefix_of_sibling hcache harea (by decide),
      not_prefix_of_sibling harea hcache (by decide)⟩
  · rw [versionDir_eq hv.1]
    have hne : v ≠ version := fun heq => hP (heq ▸ hPv)
    exact ⟨not_prefix_of_sibling List.prefix_rfl hq hne,
      not_prefix_of_sibling hq List.prefix_rfl (Ne.symm hne)⟩

/-- The records are not part of it. -/
theorem apart_record (hid : IsPluginName pluginId) {P : String → Prop}
    (htrees : ∀ t ∈ trees, Removable layout pluginId P t) {bundleName : String}
    (hfiles : ∀ f ∈ files, f ∈ failureFiles layout bundleName) {q : Place}
    (hq : q ∈ records layout pluginId) : (scratch layout pluginId trees files).Apart q := by
  have hlink (name : String) (hname : ∀ v, IsVersionName v → v ≠ name) :
      (scratch layout pluginId trees files).Apart (layout.pluginDir pluginId ++ [name]) := by
    have harea := @installed_below layout pluginId hid.1 name
    refine Footprint.apart_of (fun t ht => ?_) (not_prefix_scratch_file hid.1 hfiles harea)
      List.not_mem_nil
    rcases htrees t ht with hcache | ⟨v, hv, -, rfl⟩
    · exact ⟨not_prefix_of_sibling hcache harea (by decide),
        not_prefix_of_sibling harea hcache (by decide)⟩
    · rw [versionDir_eq hv.1]
      exact ⟨not_prefix_of_sibling List.prefix_rfl List.prefix_rfl (hname v hv),
        not_prefix_of_sibling List.prefix_rfl List.prefix_rfl (Ne.symm (hname v hv))⟩
  simp only [records, List.mem_cons, List.not_mem_nil, or_false] at hq
  rcases hq with rfl | rfl | rfl
  · rw [pluginCatalogPath_of_isName hid.1]
    have harea : layout.root ++ ["catalog"] <+: layout.catalogDir ++ [pluginId ++ ".json"] :=
      List.prefix_append _ _
    refine Footprint.apart_of (fun t ht => ?_) ?_ List.not_mem_nil
    · rcases htrees t ht with hcache | ⟨v, hv, -, rfl⟩
      · exact ⟨not_prefix_of_sibling hcache harea (by decide),
          not_prefix_of_sibling harea hcache (by decide)⟩
      · rw [versionDir_eq hv.1]
        have hversion := @installed_below layout pluginId hid.1 v
        exact ⟨not_prefix_of_sibling hversion harea (by decide),
          not_prefix_of_sibling harea hversion (by decide)⟩
    · -- the files beside the catalog have other names
      have hbeside (name : String) (hne : pluginId ++ ".json" ≠ name) :
          ¬ layout.catalogDir ++ [pluginId ++ ".json"] <+: layout.catalogDir ++ [name] :=
        not_prefix_of_sibling List.prefix_rfl List.prefix_rfl hne
      have hend (name : String) : pluginId ++ ".json" ≠ name ++ ".tmp" := by
        intro heq
        have hlast := congrArg (fun text : String => text.toList.getLast?) heq
        simp [String.toList_append] at hlast
      have hother (name : String) (hne : pluginId ≠ name) : pluginId ++ ".json" ≠ name ++ ".json" :=
        fun heq => hne (by simpa using heq)
      intro f hf
      simp only [scratch, pluginCatalogPath_of_isName hid.1, PluginLayout.pluginsIndexPath,
        tmpPath_append, List.cons_append, List.nil_append, List.mem_cons] at hf
      rcases hf with rfl | rfl | rfl | hf
      · exact hbeside _ (hend _)
      · exact hbeside _ (hother "plugins" hid.2.1)
      · exact hbeside _ (hend "plugins.json")
      · have hf := hfiles f hf
        simp only [failureFiles, PluginLayout.installFailuresPath, PluginLayout.errorPath,
          tmpPath_append, List.mem_cons, List.not_mem_nil, or_false] at hf
        rcases hf with rfl | rfl | rfl | rfl
        · exact hbeside _ (hother "install_failures" hid.2.2)
        · exact hbeside _ (hend "install_failures.json")
        · exact not_prefix_of_sibling harea (List.prefix_append _ _) (by decide)
        · exact not_prefix_of_sibling harea (List.prefix_append _ _) (by decide)
  · exact hlink "current" fun v hv => hv.2.1
  · exact hlink "previous" fun v hv => hv.2.2

/-- The same when nothing else is scratch. -/
theorem apart_record_nil (hid : IsPluginName pluginId) {q : Place}
    (hq : q ∈ records layout pluginId) : (scratch layout pluginId [] []).Apart q :=
  @apart_record layout pluginId [] [] hid (fun _ => False) (List.forall_mem_nil _) ""
    (List.forall_mem_nil _) q hq

end Apart

/-! ## Writing a record -/

section Writes

variable {F : Footprint} {env : Environment Content} {p parent : Place} {payload : Value}
  {w w' : Lib.World Content}

open Program Lib.Footprint

/-- A record that was written: before the last step nothing but its temporary file is there. -/
theorem writeJson_ok (hparent : parent <+: tmpPath p) (htmp : F.Owns (tmpPath p)) {u : PUnit}
    (h : (writeJson env p parent payload).exec w = (.ok u, w')) :
    ∃ fs₁, F.Within w.fs fs₁ ∧
      w'.fs = (fs₁.erase (tmpPath p)).set p (.file (.json payload)) := by
  obtain ⟨_, w₁, hdirs, h⟩ := exec_bind_ok h
  obtain ⟨_, w₂, hwrite, h⟩ := exec_bind_ok h
  have hkeep₁ := keeps_of_exec (keeps_mkdirs fun _ hq => owns_or_way htmp (hq.trans hparent)) hdirs
  have hkeep₂ := keeps_of_exec (keeps_writeFile htmp _) hwrite
  obtain ⟨content, hcontent, -, hfs⟩ := Lib.Files.renameFile_ok h
  obtain ⟨-, hwritten⟩ := Lib.Files.writeFile_ok hwrite
  refine ⟨w₂.fs, hkeep₁.trans hkeep₂, ?_⟩
  rw [hwritten, Dict.get?_set_self] at hcontent
  cases hcontent
  exact hfs

/-- A record that could not be written is as it was. -/
theorem writeJson_error (hparent : parent <+: tmpPath p) (htmp : F.Owns (tmpPath p)) {e : Raised}
    (h : (writeJson env p parent payload).exec w = (.error e, w')) : F.Within w.fs w'.fs := by
  have hdirs : Keeps F.Always (Lib.Files.mkdirs env parent) :=
    keeps_mkdirs fun _ hq => owns_or_way htmp (hq.trans hparent)
  rcases exec_bind_error h with h | ⟨_, w₁, hmade, h⟩
  · exact keeps_of_exec hdirs h
  · refine (keeps_of_exec hdirs hmade).trans ?_
    rcases exec_bind_error h with h | ⟨_, w₂, hwrite, h⟩
    · exact keeps_of_exec (keeps_writeFile htmp _) h
    · rw [Lib.Files.attempt_error h]
      exact keeps_of_exec (keeps_writeFile htmp _) hwrite

end Writes

section Catalog

variable {s : Setting} {layout : PluginLayout} {pluginId : String} {manifest : Fields}
  {update : CatalogUpdate} {trees files : List Place} {catalog versions : Fields}
  {w w' : Lib.World Content}

open Program Lib.Footprint

theorem owns_scratch {p : Place} (h : p ∈ [tmpPath (layout.pluginCatalogPath pluginId),
    layout.pluginsIndexPath, tmpPath layout.pluginsIndexPath]) :
    (scratch layout pluginId trees files).Owns p :=
  Or.inl (List.mem_append_left _ h)

theorem catalogParent_below (hid : Path.IsName pluginId) :
    layout.pluginCatalogParent pluginId <+: tmpPath (layout.pluginCatalogPath pluginId) := by
  rw [pluginCatalogParent_of_isName hid, pluginCatalogPath_of_isName hid, tmpPath_append]
  exact List.prefix_append _ _

/-- The index and its temporary file are scratch. -/
theorem keeps_index (s : Setting) :
    Keeps (scratch layout pluginId trees files).Always (updatePluginsIndex s layout) :=
  keeps_updatePluginsIndex (owns_scratch (by simp)) (owns_scratch (by simp))

/-- What writing a catalog changes. -/
structure CatalogWritten (layout : PluginLayout) (pluginId : String) (trees files : List Place)
    (payload : Value) (fs fs' : Files) : Prop where
  catalog : fs'.get? (layout.pluginCatalogPath pluginId) = some (.file (.json payload))
  others : ∀ q, q ≠ layout.pluginCatalogPath pluginId →
    (scratch layout pluginId trees files).Apart q → fs'.get? q = fs.get? q

theorem writePluginCatalog_ok (hid : Path.IsName pluginId) {payload : Value} {u : PUnit}
    (h : (writeJson s.env (layout.pluginCatalogPath pluginId)
      (layout.pluginCatalogParent pluginId) payload).exec w = (.ok u, w')) :
    CatalogWritten layout pluginId trees files payload w.fs w'.fs := by
  obtain ⟨fs₁, hwithin, hfs⟩ :=
    writeJson_ok (catalogParent_below hid) (@owns_scratch layout pluginId trees files _
      List.mem_cons_self) h
  refine ⟨by rw [hfs, Dict.get?_set_self], fun q hq hapart => ?_⟩
  have htmp : q ≠ tmpPath (layout.pluginCatalogPath pluginId) := by
    rintro rfl
    exact hapart.1 (owns_scratch List.mem_cons_self)
  rw [hfs, Dict.get?_set_ne _ _ (Ne.symm hq), Dict.get?_erase_ne _ htmp]
  exact hwithin.eq_of_apart hapart

theorem writeCatalog_ok (hid : Path.IsName pluginId)
    (hcatalog : HasCatalog layout pluginId w.fs catalog versions) {u : PUnit}
    (h : (writeCatalog s layout pluginId manifest update).exec w = (.ok u, w')) :
    ∃ catalog' versions', HasCatalog layout pluginId w'.fs catalog' versions' ∧
      Updated update catalog versions catalog' versions' ∧
      CatalogWritten layout pluginId trees files (.obj catalog') w.fs w'.fs := by
  obtain ⟨found, w₁, hread, hrest⟩ := exec_bind_ok h
  obtain ⟨hfound, rfl⟩ := Lib.Files.read_ok hread
  obtain ⟨found', hread', hvalue⟩ := hcatalog.readNode_ok
  rw [hread'] at hfound
  cases hfound
  rw [hvalue] at hrest
  split at hrest
  · cases hrest
  · rename_i payload hpayload
    obtain ⟨catalog', versions', rfl, hversions, hupdated⟩ := updatedCatalog_ok hcatalog.2 hpayload
    have hwritten := @writePluginCatalog_ok s layout pluginId trees files _ _ hid _ _ hrest
    exact ⟨catalog', versions', ⟨Or.inr hwritten.catalog, hversions⟩, hupdated, hwritten⟩

/-- A catalog that could not be written is as it was. -/
theorem writeCatalog_error (hid : Path.IsName pluginId) {e : Raised}
    (h : (writeCatalog s layout pluginId manifest update).exec w = (.error e, w')) :
    (scratch layout pluginId trees files).Within w.fs w'.fs := by
  rcases exec_bind_error h with h | ⟨found, w₁, hread, h⟩
  · exact keeps_of_exec (keeps_read _) h
  · refine (keeps_of_exec (keeps_read _) hread).trans ?_
    split at h
    · cases h
      exact Footprint.Within.refl _ _
    · exact writeJson_error (catalogParent_below hid) (owns_scratch List.mem_cons_self) h

/-- However writing a catalog ends, the rest is as it was. -/
theorem writeCatalog_others (hid : Path.IsName pluginId) {r : Except Raised PUnit}
    (h : (writeCatalog s layout pluginId manifest update).exec w = (r, w')) {q : Place}
    (hq : q ≠ layout.pluginCatalogPath pluginId)
    (hapart : (scratch layout pluginId trees files).Apart q) : w'.fs.get? q = w.fs.get? q := by
  cases r with
  | error e => exact (writeCatalog_error hid h).eq_of_apart hapart
  | ok u =>
    obtain ⟨found, w₁, hread, hrest⟩ := exec_bind_ok h
    obtain ⟨-, rfl⟩ := Lib.Files.read_ok hread
    split at hrest
    · cases hrest
    · exact (writePluginCatalog_ok hid hrest).others q hq hapart

end Catalog

/-! ## A plugin root that agrees with its catalog -/

/-- The directories and the links agree with the catalog. -/
structure Recorded (layout : PluginLayout) (pluginId : String) (windows : Bool) (fs : Files) :
    Prop where
  catalog : ∃ catalog versions, HasCatalog layout pluginId fs catalog versions
  installed : ∀ v, Cataloged layout pluginId fs v →
    IsVersionName v ∧ fs.get? (layout.versionDir pluginId v) = some .dir
  active : activeVersion layout pluginId fs = .null ∨
    ∃ v, activeVersion layout pluginId fs = .str v ∧ Cataloged layout pluginId fs v
  /-- on POSIX a link names the active version -/
  current : windows = false → ∀ v,
    fs.get? (layout.currentLink pluginId) = some (.link v) ↔
      activeVersion layout pluginId fs = .str v
  links : ∀ link ∈ [layout.currentLink pluginId, layout.previousLink pluginId],
    fs.get? link = none ∨ ∃ v, Cataloged layout pluginId fs v ∧ fs.get? link = some (.link v)

section Recorded

variable {layout : PluginLayout} {pluginId : String} {windows : Bool} {fs fs' : Files}

/-- What the catalog says depends on its file alone. -/
theorem catalogAt_congr (h : ∃ catalog versions, HasCatalog layout pluginId fs catalog versions)
    (heq : fs'.get? (layout.pluginCatalogPath pluginId) =
      fs.get? (layout.pluginCatalogPath pluginId)) :
    catalogAt layout pluginId fs' = catalogAt layout pluginId fs := by
  obtain ⟨catalog, versions, h⟩ := h
  rw [(h.congr heq).catalogAt_eq, h.catalogAt_eq]

theorem catalogedVersions_congr
    (h : catalogAt layout pluginId fs' = catalogAt layout pluginId fs) :
    catalogedVersions layout pluginId fs' = catalogedVersions layout pluginId fs := by
  rw [catalogedVersions, catalogedVersions, h]

theorem activeVersion_congr (h : catalogAt layout pluginId fs' = catalogAt layout pluginId fs) :
    activeVersion layout pluginId fs' = activeVersion layout pluginId fs := by
  rw [activeVersion, activeVersion, h]

/-- The target of a link is the text of a version, and that is its name. -/
theorem safeReadlink_eq {link : Place} (hlink : fs.get? link = none ∨
    ∃ v, IsVersionName v ∧ fs.get? link = some (.link v)) (trail : List Files) :
    ∃ target, (safeReadlink link).exec ⟨fs, trail⟩ = (.ok target, ⟨fs, trail⟩) ∧
      ∀ v, target = some v ↔ fs.get? link = some (.link v) := by
  rcases hlink with hnone | ⟨v, hv, hlink⟩
  · exact ⟨none, by simp [safeReadlink, Lib.Files.look, hnone], by simp [hnone]⟩
  · refine ⟨some v, ?_, ?_⟩
    · simp [safeReadlink, Lib.Files.look, hlink, Path.join_of_isName _ hv.1]
    · intro v'
      simp [hlink]

end Recorded

end NexusN3.Plugins
