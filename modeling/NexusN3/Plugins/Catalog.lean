import NexusN3.Plugins.Bundle

/-!
# The plugin root and its catalog

Where the installer keeps what, and the JSON files it keeps its records in. The id and the
version of a plugin become parts of paths by joining, so `..`, the empty text, a text with
slashes and an absolute one all lead somewhere.

* **`PluginLayout`** — the places under the plugin root.
* **`updatePluginCatalog`**, **`recordInstallFailure`** — the records, written through a
  temporary file each (`keeps_writeJson`).
-/

namespace NexusN3.Plugins

open Lib

/-! ## Places -/

/-- The plugin root, made of names. -/
structure PluginLayout where
  root : Place
  names : ∀ c ∈ root, Path.IsName c

namespace PluginLayout

variable (layout : PluginLayout)

def incomingDir : Place := layout.root ++ ["incoming"]

def installedDir : Place := layout.root ++ ["installed"]

def cacheDir : Place := layout.root ++ ["cache"]

def catalogDir : Place := layout.root ++ ["catalog"]

def pluginsIndexPath : Place := layout.catalogDir ++ ["plugins.json"]

def installFailuresPath : Place := layout.catalogDir ++ ["install_failures.json"]

def pluginDir (pluginId : String) : Place := Path.join layout.installedDir pluginId

def versionDir (pluginId version : String) : Place :=
  Path.join (layout.pluginDir pluginId) version

/-- `version_dir(plugin_id, version).parent`. -/
def versionParent (pluginId version : String) : Place :=
  Path.joinParent (layout.pluginDir pluginId)
    (Path.joinParent layout.installedDir layout.root pluginId) version

def currentLink (pluginId : String) : Place := layout.pluginDir pluginId ++ ["current"]

def previousLink (pluginId : String) : Place := layout.pluginDir pluginId ++ ["previous"]

def pluginCatalogPath (pluginId : String) : Place :=
  Path.join layout.catalogDir (pluginId ++ ".json")

/-- `plugin_catalog_path(plugin_id).parent`. -/
def pluginCatalogParent (pluginId : String) : Place :=
  Path.joinParent layout.catalogDir layout.root (pluginId ++ ".json")

/-- The error file of a bundle in the incoming directory. -/
def errorPath (bundleName : String) : Place :=
  layout.incomingDir ++ [bundleName ++ ".error.json"]

end PluginLayout

/-- `str` of a path. -/
def placeText (p : Place) : String := "/" ++ "/".intercalate p

/-! ## JSON files -/

/-- `path.with_suffix(path.suffix + ".tmp")`. -/
def tmpPath (p : Place) : Place := p.dropLast ++ [p.getLast?.getD "" ++ ".tmp"]

/-- The node a path leads to: a link leads to its target. -/
def nodeAt (fs : Files) (p : Place) : Option (Node Content) :=
  match fs.get? p with
  | some (.link target) => fs.get? (Path.join p.dropLast target)
  | node => node

/-- `read_json(path)`, with `none` for the default. -/
def readNode (fs : Files) (p : Place) : Except Raised (Option Value) :=
  match nodeAt fs p with
  | none => .ok none
  | some (.file (.json v)) => .ok (some v)
  | some (.file (.other _)) => .error ⟨"JSONDecodeError", "Expecting value"⟩
  | some _ => .error ⟨"OSError", "Is a directory"⟩

def readJson (env : Environment Content) (p : Place) : Host (Option Value) :=
  Lib.Files.read env fun fs => readNode fs p

/-- `write_json(path, payload)`, with the place of `path.parent`. -/
def writeJson (env : Environment Content) (p parent : Place) (payload : Value) : Host PUnit := do
  Lib.Files.mkdirs env parent
  Lib.Files.writeFile env (tmpPath p) (.json payload)
  Lib.Files.renameFile env (tmpPath p) p

theorem keeps_writeJson {F : Footprint} {env : Environment Content} {p parent : Place}
    (hparent : parent <+: p) (hp : F.Owns p) (htmp : F.Owns (tmpPath p)) (payload : Value) :
    Program.Keeps F.Always (writeJson env p parent payload) :=
  .bind (Footprint.keeps_mkdirs fun _ hq => Footprint.owns_or_way hp (hq.trans hparent)) fun _ =>
    .bind (Footprint.keeps_writeFile htmp _) fun _ => Footprint.keeps_renameFile htmp hp

/-! ## The catalog of one plugin -/

def typeError : Raised := ⟨"TypeError", ""⟩

/-- The loop over `versions.items()`. -/
def deactivateOthers (version : String) (versions : Fields) : Except Raised Fields :=
  versions.mapM fun entry =>
    if entry.1 = version then .ok entry
    else
      match entry.2 with
      | .obj payload =>
        let payload := Value.setField "active" (.bool false) payload
        match payload.lookup "state" with
        | none => .error ⟨"KeyError", "state"⟩
        | some state =>
          if state.isText "running" then
            .ok (entry.1, .obj (Value.setField "state" (.str "installed") payload))
          else .ok (entry.1, .obj payload)
      | _ => .error typeError

/-- What `update_plugin_catalog` is told besides the manifest. -/
structure CatalogUpdate where
  version : String
  installPath : Place
  runtimePath : Place
  state : String
  enabled : Bool
  active : Bool

/-- `versions[version]`. -/
def versionPayload (manifest : Fields) (update : CatalogUpdate) (utcNow : String) : Value :=
  .obj [("version", .str update.version), ("state", .str update.state),
    ("enabled", .bool update.enabled), ("active", .bool update.active),
    ("install_path", .str (placeText update.installPath)),
    ("runtime_path", .str (placeText update.runtimePath)),
    ("runtime_protocol", Value.get manifest "runtime_protocol"),
    ("capabilities", Value.get manifest "capabilities"),
    ("display_name", Value.get manifest "display_name"),
    ("plugin_type", Value.get manifest "plugin_type"), ("updated_at", .str utcNow)]

/-- The catalog after the update, from the one that was read. -/
def updatedCatalog (layout : PluginLayout) (manifest : Fields) (update : CatalogUpdate)
    (utcNow : String) (catalog : Value) : Except Raised Value := do
  let catalog ← (catalog.asDict.map Except.ok).getD (.error typeError)
  let versions ← ((Value.getD catalog "versions" (.obj [])).asDict.map Except.ok).getD
    (.error typeError)
  let versions := Value.setField update.version (versionPayload manifest update utcNow) versions
  let versions ← deactivateOthers update.version versions
  let activeVersion :=
    if update.active then .str update.version else Value.get catalog "active_version"
  let fields : Fields :=
    [("versions", .obj versions), ("plugin_id", Value.get manifest "plugin_id"),
      ("display_name", Value.get manifest "display_name"),
      ("plugin_type", Value.get manifest "plugin_type"), ("enabled", .bool update.enabled),
      ("active_version", activeVersion),
      ("runtime_protocol", Value.get manifest "runtime_protocol"),
      ("min_nexus_n3_core_version", Value.get manifest "min_nexus_n3_core_version"),
      ("sdk_version", Value.get manifest "sdk_version"),
      ("install_root", .str (placeText layout.root)), ("updated_at", .str utcNow)]
  return .obj (fields.foldl (fun catalog field => Value.setField field.1 field.2 catalog) catalog)

/-! ## The index of all plugins -/

/-- The names that `catalog_dir.glob("*.json")` finds, sorted. -/
def catalogNames (layout : PluginLayout) (fs : Files) : List String :=
  let here := fs.keys.filter fun p => decide (p.dropLast = layout.catalogDir ∧ p ≠ [])
  ((here.map fun p => p.getLast?.getD "").filter fun n => n.endsWith ".json").mergeSort
    fun a b => decide (a ≤ b)

/-- One entry of the index, or none for a catalog that holds nothing. -/
def indexEntry (payload : Option Value) : Except Raised (Option Value) :=
  let payload := payload.getD .null
  if !payload.truthy then .ok none
  else
    match payload with
    | .obj fields =>
      let kept := ["plugin_id", "display_name", "plugin_type", "enabled", "active_version",
        "runtime_protocol", "updated_at"]
      .ok (some (.obj (kept.map fun key => (key, Value.get fields key))))
    | _ => .error ⟨"AttributeError", "get"⟩

def indexPayload (layout : PluginLayout) (utcNow : String) (fs : Files) : Except Raised Value := do
  let names := (catalogNames layout fs).filter fun n =>
    decide (n ≠ "plugins.json" ∧ n ≠ "install_failures.json")
  let entries ← names.mapM fun n => do
    indexEntry (← readNode fs (layout.catalogDir ++ [n]))
  return .obj [("plugins", .arr (entries.filterMap id)), ("updated_at", .str utcNow)]

/-! ## The records of one call -/

/-- What one call of the installer finds: the failures to come, the time and the platform, and
what the external commands leave behind. -/
structure Setting where
  env : Environment Content
  utcNow : String
  windows : Bool := false
  /-- what `mkdtemp` puts after its prefix -/
  tempName : String
  /-- what `venv`, `pip` and the two checks leave in the virtual environment -/
  runtime : List (Place × Node Content)
  artifacts : List (Place × Node Content)
  described : List (Place × Node Content)
  checked : List (Place × Node Content)
  /-- `int` of a value of the manifest -/
  intOf : Value → Option Int

def updatePluginsIndex (s : Setting) (layout : PluginLayout) : Host PUnit := do
  let payload ← Lib.Files.read s.env (indexPayload layout s.utcNow)
  writeJson s.env layout.pluginsIndexPath layout.catalogDir payload

def updatePluginCatalog (s : Setting) (layout : PluginLayout) (bundle : ValidatedBundle)
    (update : CatalogUpdate) : Host PUnit := do
  let catalogPath := layout.pluginCatalogPath bundle.pluginId
  let catalog ← readJson s.env catalogPath
  let catalog := (catalog.getD (.obj [])).orElse (.obj [])
  match updatedCatalog layout bundle.manifest update s.utcNow catalog with
  | .error e => throw e
  | .ok catalog =>
    writeJson s.env catalogPath (layout.pluginCatalogParent bundle.pluginId) catalog
    updatePluginsIndex s layout

def recordInstallFailure (s : Setting) (layout : PluginLayout) (bundle : ValidatedBundle)
    (error : String) : Host PUnit := do
  let failures ← readJson s.env layout.installFailuresPath
  let record := Value.obj [("bundle_path", .str bundle.bundlePath),
    ("plugin_id", .str bundle.pluginId), ("version", .str bundle.version), ("error", .str error),
    ("recorded_at", .str s.utcNow)]
  match (failures.getD (.arr [])).orElse (.arr []) with
  | .arr failures =>
    writeJson s.env layout.installFailuresPath layout.catalogDir (.arr (failures ++ [record]))
    writeJson s.env (layout.errorPath bundle.name) layout.incomingDir record
  | _ => throw ⟨"AttributeError", "append"⟩

end NexusN3.Plugins
