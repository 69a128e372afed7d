import NexusN3.Lib.FileSystem
import NexusN3.Lib.Path
import NexusN3.Lib.Value

/-!
# Plugin bundles

A bundle is an archive with a manifest. Validation looks at the names of the members, which
become paths below the extraction directory, and at the fields of the manifest.

* **`ValidatedBundle`** — a bundle together with the checks it has passed. The id and the
  version of its manifest are any texts: nothing looks at them.
* **`extractBundle`** — writes below the target directory only (`keeps_extractBundle`).
-/

namespace NexusN3.Plugins

open Lib

/-- What a file holds: a JSON text, by the value it denotes, or anything else. -/
inductive Content where
  | json (v : Value)
  | other (text : String)

abbrev Files := FileSystem Content

abbrev Host := Program (Lib.World Content) Raised

/-- One entry of the archive. -/
structure Member where
  filename : String
  content : Content
  /-- the file mode says it is a symbolic link -/
  isLink : Bool := false

/-- `ZipInfo.is_dir`. -/
def Member.isDir (m : Member) : Bool := decide (m.filename.toList.getLast? = some '/')

def bundleError (text : String) : Raised := ⟨"PluginBundleError", text⟩

def validateMemberNames : List String → List Member → Except Raised Unit
  | _, [] => .ok ()
  | seen, m :: rest =>
    if m.filename ∈ seen then .error (bundleError s!"duplicate archive entry: {m.filename}")
    else if Path.isAbsolute m.filename then
      .error (bundleError s!"absolute archive paths are not allowed: {m.filename}")
    else if ".." ∈ Path.components m.filename then
      .error (bundleError s!"archive path traversal is not allowed: {m.filename}")
    else if m.isLink then
      .error (bundleError s!"symlink entries are not allowed: {m.filename}")
    else validateMemberNames (m.filename :: seen) rest

/-- `REQUIRED_MANIFEST_FIELDS`, sorted. -/
def requiredManifestFields : List String :=
  ["adapter_requirements", "artifacts", "capabilities", "display_name", "entrypoint",
    "healthcheck", "inputs", "min_nexus_n3_core_version", "outputs", "permissions", "plugin_id",
    "plugin_type", "runtime_protocol", "sdk_version", "spec", "version"]

def validateManifest (manifest : Fields) : Except Raised Unit :=
  let missing := requiredManifestFields.filter fun field => !(manifest.lookup field).isSome
  let names := ", ".intercalate missing
  if !missing.isEmpty then .error (bundleError s!"manifest missing required fields: {names}")
  else
    match Value.get manifest "artifacts" with
    | .arr (_ :: _) => .ok ()
    | _ => .error (bundleError "manifest artifacts must be a non-empty list")

/-- A bundle that passed the checks on its member names and its manifest. -/
structure ValidatedBundle where
  /-- the last component of the path it was given by -/
  name : String
  bundlePath : String
  members : List Member
  manifest : Fields
  pluginId : String
  version : String
  membersValid : validateMemberNames [] members = .ok ()
  manifestValid : validateManifest manifest = .ok ()
  pluginId_eq : manifest.lookup "plugin_id" = some (.str pluginId)
  version_eq : manifest.lookup "version" = some (.str version)

/-- The validated names stay below the directory they are joined to. -/
theorem validateMemberNames_ok {seen : List String} {members : List Member}
    (h : validateMemberNames seen members = .ok ()) :
    ∀ m ∈ members, Path.isAbsolute m.filename = false ∧ ".." ∉ Path.components m.filename := by
  induction members generalizing seen with
  | nil => exact List.forall_mem_nil _
  | cons m rest ih =>
    unfold validateMemberNames at h
    split at h
    · cases h
    · split at h
      · cases h
      · rename_i habsolute
        split at h
        · cases h
        · rename_i hup
          split at h
          · cases h
          · exact List.forall_mem_cons.mpr ⟨⟨Bool.eq_false_iff.mpr habsolute, hup⟩, ih h⟩

theorem foldl_walk_of_down {base cs : Place} (h : ".." ∉ cs) :
    cs.foldl Path.walk base = base ++ cs := by
  induction cs generalizing base with
  | nil => exact (List.append_nil base).symm
  | cons c cs ih =>
    rw [List.mem_cons, not_or] at h
    rw [List.foldl_cons, ih h.2, Path.walk, if_neg (Ne.symm h.1), List.append_assoc,
      List.singleton_append]

theorem prefix_join {base : Place} {text : String} (habsolute : Path.isAbsolute text = false)
    (hup : ".." ∉ Path.components text) : base <+: Path.join base text := by
  rw [Path.join, habsolute, if_neg Bool.false_ne_true, foldl_walk_of_down hup]
  exact List.prefix_append _ _

/-- One turn of the loop in `extract_bundle`. -/
def extractMember (env : Environment Content) (targetDir : Place) (m : Member) : Host PUnit := do
  let destination := Path.join targetDir m.filename
  Lib.Files.mkdirs env destination.dropLast
  if m.isDir then Lib.Files.mkdirs env destination
  else Lib.Files.writeFile env destination m.content

def extractMembers (env : Environment Content) (targetDir : Place) : List Member → Host PUnit
  | [] => pure ⟨⟩
  | m :: rest => do
    extractMember env targetDir m
    extractMembers env targetDir rest

def extractBundle (env : Environment Content) (bundle : ValidatedBundle) (targetDir : Place) :
    Host PUnit := do
  Lib.Files.mkdirs env targetDir
  extractMembers env targetDir bundle.members

theorem keeps_extractMember {F : Footprint} {t targetDir : Place} (ht : t ∈ F.trees)
    (htarget : t <+: targetDir) (env : Environment Content) {m : Member}
    (hm : Path.isAbsolute m.filename = false ∧ ".." ∉ Path.components m.filename) :
    Program.Keeps F.Always (extractMember env targetDir m) := by
  have hbelow : t <+: Path.join targetDir m.filename := htarget.trans (prefix_join hm.1 hm.2)
  have hways : ∀ q, q <+: Path.join targetDir m.filename → F.Owns q ∨ F.Way q :=
    fun _ => Footprint.owns_or_way (Or.inr ⟨t, ht, hbelow⟩)
  refine .bind (Footprint.keeps_mkdirs fun q hq => hways q ?_) fun _ => ?_
  · exact hq.trans (List.dropLast_prefix _)
  · refine .ite (Footprint.keeps_mkdirs hways) (Footprint.keeps_writeFile ?_ _)
    exact Or.inr ⟨t, ht, hbelow⟩

theorem keeps_extractMembers {F : Footprint} {t targetDir : Place} (ht : t ∈ F.trees)
    (htarget : t <+: targetDir) (env : Environment Content) {members : List Member}
    (hvalid : ∀ m ∈ members,
      Path.isAbsolute m.filename = false ∧ ".." ∉ Path.components m.filename) :
    Program.Keeps F.Always (extractMembers env targetDir members) := by
  induction members with
  | nil => exact .pure _
  | cons m rest ih =>
    have ⟨hm, hrest⟩ := List.forall_mem_cons.mp hvalid
    exact .bind (keeps_extractMember ht htarget env hm) fun _ => ih hrest

/-- Nothing but the target directory is touched, whatever the archive holds. -/
theorem keeps_extractBundle {F : Footprint} {t targetDir : Place} (ht : t ∈ F.trees)
    (htarget : t <+: targetDir) (env : Environment Content) (bundle : ValidatedBundle) :
    Program.Keeps F.Always (extractBundle env bundle targetDir) :=
  .bind (Footprint.keeps_mkdirs fun _ => Footprint.owns_or_way (Or.inr ⟨t, ht, htarget⟩)) fun _ =>
    keeps_extractMembers ht htarget env (validateMemberNames_ok bundle.membersValid)

end NexusN3.Plugins
