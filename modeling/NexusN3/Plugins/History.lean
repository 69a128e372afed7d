import NexusN3.Lib.Machine
import NexusN3.Plugins.Changes
import Mathlib.Data.List.Sort

/-!
# Histories of one plugin

Operations that return, one after another. The active version of a plugin is a field of its
catalog, a flag of each version and, on POSIX, the target of a link; an install clears the flags
of the other versions whether it activates its own or not.

* **`Sound`** — the flags, the field and the link agree.
* **`step`** — one operation that returns; **`Admitted`** — what is asked of it.
* **`Sound.updated`** — an update of the catalog keeps `Sound`, when a version without the active
  flag is added to a catalog without an active version only.
* **`sound_run`** — every run of admitted operations keeps it, and no prune takes the active
  version away.
-/

namespace NexusN3.Plugins

open Lib

/-! ## What agrees -/

/-- The catalog, the flags in it, the directories and the links agree. -/
structure Sound (layout : PluginLayout) (pluginId : String) (windows : Bool) (fs : Files) : Prop
    extends Recorded layout pluginId windows fs where
  flags : ∀ v, Cataloged layout pluginId fs v →
    (activeFlag layout pluginId fs v = .bool true ↔ activeVersion layout pluginId fs = .str v)
  unlinked : windows = true →
    ∀ link ∈ [layout.currentLink pluginId, layout.previousLink pluginId], fs.get? link = none

/-- No version has been installed. -/
structure Fresh (layout : PluginLayout) (pluginId : String) (fs : Files) : Prop where
  catalog : fs.get? (layout.pluginCatalogPath pluginId) = none
  links : ∀ link ∈ [layout.currentLink pluginId, layout.previousLink pluginId],
    fs.get? link = none

section Agreement

variable {layout : PluginLayout} {pluginId : String} {windows : Bool} {fs fs' : Files}
  {catalog versions catalog' versions' : Fields}

theorem Fresh.sound (h : Fresh layout pluginId fs) : Sound layout pluginId windows fs := by
  have hcatalog : HasCatalog layout pluginId fs [] [] := ⟨Or.inl ⟨h.catalog, rfl⟩, rfl⟩
  have hnone (v : String) : ¬ Cataloged layout pluginId fs v := by
    unfold Cataloged
    rw [hcatalog.versions_eq]
    exact Bool.false_ne_true
  have hactive : activeVersion layout pluginId fs = .null := hcatalog.active_eq
  refine ⟨⟨⟨_, _, hcatalog⟩, fun v hv => absurd hv (hnone v), Or.inl hactive, fun _ v => ?_,
    fun link hlink => Or.inl (h.links link hlink)⟩, fun v hv => absurd hv (hnone v),
    fun _ => h.links⟩
  rw [h.links _ List.mem_cons_self, hactive]
  constructor <;> intro heq <;> cases heq

/-- The flag of a version, from the catalog. -/
theorem HasCatalog.flag_eq (h : HasCatalog layout pluginId fs catalog versions) {v : String}
    {payload : Fields} (hlookup : versions.lookup v = some (.obj payload)) :
    activeFlag layout pluginId fs v = Value.get payload "active" := by
  rw [activeFlag, h.versions_eq, hlookup]

theorem HasCatalog.cataloged_iff (h : HasCatalog layout pluginId fs catalog versions) {v : String} :
    Cataloged layout pluginId fs v ↔ (versions.lookup v).isSome = true := by
  rw [Cataloged, h.versions_eq]

/-- How the links change with the catalog. -/
structure LinksFollow (layout : PluginLayout) (pluginId : String) (windows : Bool)
    (version : String) (active : Bool) (fs fs' : Files) : Prop where
  linked : active = true → windows = false →
    fs'.get? (layout.currentLink pluginId) = some (.link version) ∧
      (fs'.get? (layout.previousLink pluginId) = fs.get? (layout.previousLink pluginId) ∨
        fs'.get? (layout.previousLink pluginId) = fs.get? (layout.currentLink pluginId))
  unlinked : ¬ (active = true ∧ windows = false) →
    ∀ link ∈ [layout.currentLink pluginId, layout.previousLink pluginId],
      fs'.get? link = fs.get? link

/-- **An update.** The flags agree with the field afterwards when the update names the active
version, or when there was none. -/
theorem Sound.updated {update : CatalogUpdate} (h : Sound layout pluginId windows fs)
    (hcatalog : HasCatalog layout pluginId fs catalog versions)
    (hcatalog' : HasCatalog layout pluginId fs' catalog' versions')
    (hupdated : Updated update catalog versions catalog' versions')
    (hversion : IsVersionName update.version)
    (hdirs : ∀ v, v = update.version ∨ Cataloged layout pluginId fs v →
      fs'.get? (layout.versionDir pluginId v) = some .dir)
    (hlinks : LinksFollow layout pluginId windows update.version update.active fs fs')
    (hactive : update.active = true ∨ activeVersion layout pluginId fs = .null) :
    Sound layout pluginId windows fs' ∧
      (activeVersion layout pluginId fs ≠ .null → activeVersion layout pluginId fs' ≠ .null) := by
  have hcataloged {v : String} : Cataloged layout pluginId fs' v ↔
      v = update.version ∨ Cataloged layout pluginId fs v := by
    rw [hcatalog'.cataloged_iff, hcatalog.cataloged_iff]
    exact hupdated.cataloged v
  have hfield : activeVersion layout pluginId fs' =
      if update.active then .str update.version else .null := by
    rw [hcatalog'.active_eq, hupdated.active]
    rcases hactive with hactive | hnull
    · rw [hactive, if_pos rfl, if_pos rfl]
    · rw [← hcatalog.active_eq, hnull]
  have hold {link : Place}
      (hmem : link ∈ [layout.currentLink pluginId, layout.previousLink pluginId]) :
      fs.get? link = none ∨
        ∃ v, Cataloged layout pluginId fs' v ∧ fs.get? link = some (.link v) := by
    rcases h.links link hmem with hnone | ⟨v, hv, hlink⟩
    · exact Or.inl hnone
    · exact Or.inr ⟨v, hcataloged.mpr (Or.inr hv), hlink⟩
  refine ⟨⟨⟨⟨_, _, hcatalog'⟩, ?_, ?_, ?_, ?_⟩, ?_, ?_⟩, ?_⟩
  · intro v hv
    have hv := hcataloged.mp hv
    refine ⟨?_, hdirs v hv⟩
    rcases hv with rfl | hv
    · exact hversion
    · exact (h.installed v hv).1
  · rw [hfield]
    cases update.active with
    | false => exact Or.inl rfl
    | true => exact Or.inr ⟨update.version, rfl, hcataloged.mpr (Or.inl rfl)⟩
  · intro hposix v
    rw [hfield]
    cases hact : update.active with
    | false =>
      have hnull := hactive.resolve_left (by rw [hact]; exact Bool.false_ne_true)
      rw [hlinks.unlinked (by simp [hact]) _ List.mem_cons_self, h.current hposix v, hnull]
      simp
    | true =>
      rw [(hlinks.linked hact hposix).1]
      simp
  · intro link hmem
    by_cases hnew : update.active = true ∧ windows = false
    · obtain ⟨hcurrent, hprevious⟩ := hlinks.linked hnew.1 hnew.2
      simp only [List.mem_cons, List.not_mem_nil, or_false] at hmem
      rcases hmem with rfl | rfl
      · exact Or.inr ⟨_, hcataloged.mpr (Or.inl rfl), hcurrent⟩
      · rcases hprevious with heq | heq
        · rw [heq]
          exact hold (List.mem_cons_of_mem _ List.mem_cons_self)
        · rw [heq]
          exact hold List.mem_cons_self
    · rw [hlinks.unlinked hnew link hmem]
      exact hold hmem
  · intro v hv
    rw [hfield]
    by_cases hown : v = update.version
    · subst hown
      obtain ⟨payload, hlookup, hflag⟩ := hupdated.own
      rw [hcatalog'.flag_eq hlookup, hflag]
      cases update.active <;> simp
    · obtain ⟨x, hlookup⟩ := Option.isSome_iff_exists.mp (hcatalog'.cataloged_iff.mp hv)
      obtain ⟨payload, rfl, hflag⟩ := hupdated.others v hown x hlookup
      rw [hcatalog'.flag_eq hlookup, hflag]
      cases update.active <;> simp [Ne.symm hown]
  · intro hwindows link hmem
    rw [hlinks.unlinked (by simp [hwindows]) link hmem]
    exact h.unlinked hwindows link hmem
  · intro hset
    rw [hfield, hactive.resolve_right hset]
    simp

end Agreement

/-! ## The parts of an operation that returns -/

section Parts

variable {s : Setting} {layout : PluginLayout} {pluginId version : String}
  {w w' : Lib.World Content}

open Program Lib.Footprint

theorem dropLink_ok {env : Environment Content} {link : Place} {u : PUnit}
    (h : (dropLink env link).exec w = (.ok u, w')) {q : Place} (hq : q ≠ link) :
    w'.fs.get? q = w.fs.get? q := by
  obtain ⟨present, w₁, hlook, hrest⟩ := exec_bind_ok h
  obtain ⟨-, rfl⟩ := Lib.Files.look_ok hlook
  split at hrest
  · rw [(Lib.Files.unlink_ok hrest).2, Dict.get?_erase_ne _ hq]
  · cases hrest
    rfl

theorem previousLink_ne_current :
    layout.previousLink pluginId ≠ layout.currentLink pluginId := by
  simp [PluginLayout.currentLink, PluginLayout.previousLink]

/-- Both links after an activation, and the rest. -/
theorem activate_ok (hposix : s.windows = false) {previousTarget : Option String} {u : PUnit}
    (h : (activate s layout pluginId version previousTarget).exec w = (.ok u, w')) :
    w'.fs.get? (layout.currentLink pluginId) = some (.link version) ∧
      (w'.fs.get? (layout.previousLink pluginId) = w.fs.get? (layout.previousLink pluginId) ∨
        ∃ target, previousTarget = some target ∧
          w'.fs.get? (layout.previousLink pluginId) = some (.link target)) ∧
      ∀ q, q ∉ [layout.currentLink pluginId, layout.previousLink pluginId] →
        w'.fs.get? q = w.fs.get? q := by
  rw [activate_eq hposix] at h
  obtain ⟨_, w₁, hdrop, h⟩ := exec_bind_ok h
  obtain ⟨_, w₂, hlink, h⟩ := exec_bind_ok h
  obtain ⟨-, hmade⟩ := Lib.Files.symlink_ok hlink
  have hother {q : Place} (hq : q ≠ layout.currentLink pluginId) :
      w₂.fs.get? q = w.fs.get? q := by
    rw [hmade, Dict.get?_set_ne _ _ (Ne.symm hq), dropLink_ok hdrop hq]
  cases previousTarget with
  | none =>
    cases h
    refine ⟨by rw [hmade, Dict.get?_set_self], Or.inl (hother previousLink_ne_current), ?_⟩
    exact fun q hq => hother fun heq => hq (heq ▸ List.mem_cons_self)
  | some target =>
    obtain ⟨_, w₃, hdrop', hlink'⟩ := exec_bind_ok h
    obtain ⟨-, hmade'⟩ := Lib.Files.symlink_ok hlink'
    have hother' {q : Place} (hq : q ≠ layout.previousLink pluginId) :
        w'.fs.get? q = w₂.fs.get? q := by
      rw [hmade', Dict.get?_set_ne _ _ (Ne.symm hq), dropLink_ok hdrop' hq]
    refine ⟨?_, Or.inr ⟨target, rfl, by rw [hmade', Dict.get?_set_self]⟩, fun q hq => ?_⟩
    · rw [hother' (Ne.symm previousLink_ne_current), hmade, Dict.get?_set_self]
    · rw [List.mem_cons, List.mem_singleton, not_or] at hq
      rw [hother' hq.2, hother hq.1]

/-- `_activate` with the target it was given: the links follow, and the rest is as it was. -/
theorem linksFollow_activate {fs : Files} {previousTarget : Option String} {u : PUnit}
    (htarget : ∀ v, previousTarget = some v ↔
      fs.get? (layout.currentLink pluginId) = some (.link v))
    (hsame : ∀ link ∈ [layout.currentLink pluginId, layout.previousLink pluginId],
      w.fs.get? link = fs.get? link)
    (h : (activate s layout pluginId version previousTarget).exec w = (.ok u, w')) :
    LinksFollow layout pluginId s.windows version true fs w'.fs ∧
      ∀ q, q ∉ [layout.currentLink pluginId, layout.previousLink pluginId] →
        w'.fs.get? q = w.fs.get? q := by
  cases hwindows : s.windows with
  | true =>
    rw [activate_of_windows hwindows] at h
    cases h
    exact ⟨⟨fun _ hposix => absurd hposix (by simp), fun _ => hsame⟩, fun _ _ => rfl⟩
  | false =>
    obtain ⟨hcurrent, hprevious, hother⟩ := activate_ok hwindows h
    refine ⟨⟨fun _ _ => ⟨hcurrent, ?_⟩, fun hnot => absurd ⟨rfl, rfl⟩ hnot⟩, hother⟩
    rcases hprevious with heq | ⟨target, rfl, heq⟩
    · exact Or.inl (heq.trans (hsame _ (List.mem_cons_of_mem _ List.mem_cons_self)))
    · exact Or.inr (heq.trans ((htarget target).mp rfl).symm)

/-- What is neither the catalog nor scratch after the catalog has been written. -/
theorem recorded_ok {α : Type} {write : Host PUnit} {result r : α}
    (h : (write >>= fun _ => updatePluginsIndex s layout >>= fun _ => pure result).exec w =
      (.ok r, w')) :
    ∃ w₁, write.exec w = (.ok ⟨⟩, w₁) ∧ ∀ q, (scratch layout pluginId [] []).Apart q →
      w'.fs.get? q = w₁.fs.get? q := by
  obtain ⟨_, w₁, hwrite, hindex⟩ := exec_bind_ok h
  have hkeep : Keeps (scratch layout pluginId [] []).Always
      (updatePluginsIndex s layout >>= fun _ => (pure result : Host α)) :=
    .bind (keeps_index s) fun _ => .pure _
  exact ⟨w₁, hwrite, fun q hq => (keeps_of_exec hkeep hindex).eq_of_apart hq⟩

theorem apart_version_nil (hid : IsPluginName pluginId) (hversion : IsVersionName version)
    {q : Place} (hq : layout.versionDir pluginId version <+: q) :
    (scratch layout pluginId [] []).Apart q :=
  @apart_version layout pluginId version [] [] hid.1 hversion (fun _ => False) id
    (List.forall_mem_nil _) "" (List.forall_mem_nil _) q hq

theorem catalog_not_link (hid : Path.IsName pluginId) : layout.pluginCatalogPath pluginId ∉
    [layout.currentLink pluginId, layout.previousLink pluginId] := by
  rw [List.mem_cons, List.mem_singleton, not_or]
  exact ⟨Ne.symm (pluginDir_ne_catalog hid _), Ne.symm (pluginDir_ne_catalog hid _)⟩

/-- No record is in the directory of a version. -/
theorem not_prefix_record (hid : IsPluginName pluginId) (hversion : IsVersionName version)
    {q : Place} (hq : q ∈ records layout pluginId) :
    ¬ layout.versionDir pluginId version <+: q := by
  rw [versionDir_eq hversion.1]
  simp only [records, List.mem_cons, List.not_mem_nil, or_false] at hq
  rcases hq with rfl | rfl | rfl
  · rw [pluginCatalogPath_of_isName hid.1]
    exact not_prefix_of_sibling (installed_below hid.1 version)
      (List.prefix_append (layout.root ++ ["catalog"]) [pluginId ++ ".json"]) (by decide)
  · exact not_prefix_of_sibling List.prefix_rfl List.prefix_rfl hversion.2.1
  · exact not_prefix_of_sibling List.prefix_rfl List.prefix_rfl hversion.2.2

theorem versionDir_not_link (hid : IsPluginName pluginId) (hversion : IsVersionName version) :
    layout.versionDir pluginId version ∉
      [layout.currentLink pluginId, layout.previousLink pluginId] :=
  fun hmem => not_prefix_record hid hversion (List.mem_cons_of_mem _ hmem) List.prefix_rfl

end Parts

/-! ## One operation -/

section Operations

variable {s : Setting} {layout : PluginLayout} {pluginId : String} {fs : Files}
  {w' : Lib.World Content}

open Program Lib.Footprint

/-- What `_safe_readlink` finds at a link of a plugin. -/
theorem Recorded.safeReadlink_eq {windows : Bool} (h : Recorded layout pluginId windows fs)
    {link : Place} (hlink : link ∈ [layout.currentLink pluginId, layout.previousLink pluginId])
    (trail : List Files) :
    ∃ target, (safeReadlink link).exec ⟨fs, trail⟩ = (.ok target, ⟨fs, trail⟩) ∧
      ∀ v, target = some v ↔ fs.get? link = some (.link v) := by
  refine Plugins.safeReadlink_eq ?_ trail
  rcases h.links link hlink with hnone | ⟨v, hv, hget⟩
  · exact Or.inl hnone
  · exact Or.inr ⟨v, (h.installed v hv).1, hget⟩

/-- The directory of the version is there before the first change. -/
theorem prepareInstall_dir {bundle : ValidatedBundle} {activated : Bool} {w : Lib.World Content}
    (h : (prepareInstall s layout bundle activated).exec w = (.ok ⟨⟩, w')) :
    w'.fs.get? (layout.versionDir bundle.pluginId bundle.version) = some .dir := by
  obtain ⟨_, w₁, -, h⟩ := exec_bind_ok h
  obtain ⟨_, w₂, -, h⟩ := exec_bind_ok h
  obtain ⟨_, w₃, hmove, h⟩ := exec_bind_ok h
  obtain ⟨_, w₄, -, hmove⟩ := exec_bind_ok hmove
  obtain ⟨_, w₅, -, hmove⟩ := exec_bind_ok hmove
  obtain ⟨hdir, -, hmoved⟩ := Lib.Files.renameDir_ok hmove
  have hthere : w₃.fs.get? (layout.versionDir bundle.pluginId bundle.version) = some .dir := by
    rw [hmoved]
    exact FileSystem.get?_moveTree _ (FileSystem.get?_of_isDir _ hdir)
  -- the files that are written next are in it
  generalize layout.versionDir bundle.pluginId bundle.version = installDir at h hthere ⊢
  have hkeep : Keeps (Footprint.mk [] [installDir ++ ["manifest.json"],
      installDir ++ ["install.json"], installDir ++ ["install.json.tmp"]] []).Always
      (copyManifest s installDir >>= fun _ => writeJson s.env (installDir ++ ["install.json"])
        installDir (.obj [("plugin_id", .str bundle.pluginId), ("version", .str bundle.version),
      ("bundle_path", .str bundle.bundlePath),
      ("runtime_path", .str (placeText (installDir ++ ["runtime", ".venv"]))),
      ("state", .str "installed"), ("activated", .bool activated)])) := by
    refine .bind (.bind (keeps_read _) fun _ => keeps_writeFile (Or.inl (by simp)) _) fun _ => ?_
    refine keeps_writeJson (List.prefix_append _ _) (Or.inl (by simp)) ?_ _
    rw [tmpPath_append]
    exact Or.inl (by simp)
  refine (keeps_of_exec hkeep h).get?_dir hthere ?_
  rintro (hfile | ⟨t, ht, -⟩)
  · simp at hfile
  · cases ht

/-- The catalog and the index, after the links: what is left of an operation that returns. -/
theorem Sound.written {version : String} {active : Bool} {write : Host PUnit} {α : Type}
    {result r : α} {w : Lib.World Content} (hid : IsPluginName pluginId)
    (h : Sound layout pluginId s.windows fs)
    (hcatalog : w.fs.get? (layout.pluginCatalogPath pluginId) =
      fs.get? (layout.pluginCatalogPath pluginId))
    (hlinks : LinksFollow layout pluginId s.windows version active fs w.fs)
    (hdirs : ∀ v, v = version ∨ Cataloged layout pluginId fs v →
      IsVersionName v ∧ w.fs.get? (layout.versionDir pluginId v) = some .dir)
    (hactive : active = true ∨ activeVersion layout pluginId fs = .null)
    (hwrite : ∀ w₁ catalog versions, HasCatalog layout pluginId w.fs catalog versions →
      write.exec w = (.ok ⟨⟩, w₁) → ∃ update catalog' versions',
        update.version = version ∧ update.active = active ∧
        HasCatalog layout pluginId w₁.fs catalog' versions' ∧
        Updated update catalog versions catalog' versions' ∧
        ∀ q, q ≠ layout.pluginCatalogPath pluginId → (scratch layout pluginId [] []).Apart q →
          w₁.fs.get? q = w.fs.get? q)
    (hrun : (write >>= fun _ => updatePluginsIndex s layout >>= fun _ => pure result).exec w =
      (.ok r, w')) : Sound layout pluginId s.windows w'.fs ∧
      (activeVersion layout pluginId fs ≠ .null → activeVersion layout pluginId w'.fs ≠ .null) := by
  obtain ⟨catalog, versions, hread⟩ := h.catalog
  obtain ⟨w₁, hwritten, hindex⟩ := @recorded_ok s layout pluginId w w' α write result r hrun
  obtain ⟨update, catalog', versions', rfl, rfl, hread', hupdated, hothers⟩ :=
    hwrite w₁ catalog versions (hread.congr hcatalog) hwritten
  have hlink {link : Place}
      (hlink : link ∈ [layout.currentLink pluginId, layout.previousLink pluginId]) :
      w'.fs.get? link = w.fs.get? link := by
    have hapart := apart_record_nil hid (List.mem_cons_of_mem _ hlink)
    rw [hindex link hapart, hothers link ?_ hapart]
    rintro rfl
    exact catalog_not_link hid.1 hlink
  refine h.updated hread (hread'.congr (hindex _ (apart_record_nil hid List.mem_cons_self)))
    hupdated (hdirs _ (Or.inl rfl)).1 (fun v hv => ?_) ⟨fun hactive hposix => ?_, ?_⟩ hactive
  · obtain ⟨hversion, hdir⟩ := hdirs v hv
    have hapart : (scratch layout pluginId [] []).Apart (layout.versionDir pluginId v) :=
      apart_version_nil hid hversion List.prefix_rfl
    rw [hindex _ hapart, hothers _ ?_ hapart, hdir]
    rw [versionDir_eq hversion.1]
    exact pluginDir_ne_catalog hid.1 v
  · rw [hlink List.mem_cons_self, hlink (List.mem_cons_of_mem _ List.mem_cons_self)]
    exact hlinks.linked hactive hposix
  · intro hnot link hmem
    rw [hlink hmem]
    exact hlinks.unlinked hnot link hmem

theorem sound_install {bundle : ValidatedBundle} {activated : Bool} {result : PluginInstallResult}
    (hid : IsPluginName bundle.pluginId) (hversion : IsVersionName bundle.version)
    (h : Sound layout bundle.pluginId s.windows fs)
    (hactive : activated = true ∨ activeVersion layout bundle.pluginId fs = .null)
    (hrun : (installBundle s layout bundle activated).exec ⟨fs, []⟩ = (.ok result, w')) :
    Sound layout bundle.pluginId s.windows w'.fs ∧
      (activeVersion layout bundle.pluginId fs ≠ .null →
        activeVersion layout bundle.pluginId w'.fs ≠ .null) := by
  obtain ⟨previousTarget, hread, htarget⟩ := h.safeReadlink_eq List.mem_cons_self []
  obtain ⟨w₁, hprepare, hchange⟩ := installBundle_ok hversion.1 hread hrun
  have hnew : ¬ Cataloged layout bundle.pluginId fs bundle.version := by
    intro hcataloged
    obtain ⟨e, hclear⟩ := @clearVersion_of_cataloged s layout bundle ⟨fs, []⟩ _ h.toRecorded
      hcataloged
    rw [prepareInstall, exec_bind_of_error _ hclear] at hprepare
    cases hprepare
  have htrees := @removable_installScratch s layout bundle hversion
    (fun v => ¬ Cataloged layout bundle.pluginId fs v) hnew
  have hwithin := keeps_of_exec (keeps_prepareInstall hversion.1) hprepare
  have hrecord {q : Place} (hq : q ∈ records layout bundle.pluginId) :
      w₁.fs.get? q = fs.get? q := hwithin.eq_of_apart (apart_record hid htrees (fun _ => id) hq)
  have hdir {v : String} (hv : v = bundle.version ∨ Cataloged layout bundle.pluginId fs v) :
      IsVersionName v ∧ w₁.fs.get? (layout.versionDir bundle.pluginId v) = some .dir := by
    rcases hv with rfl | hv
    · exact ⟨hversion, prepareInstall_dir hprepare⟩
    · refine ⟨(h.installed v hv).1, ?_⟩
      rw [hwithin.eq_of_apart (apart_version hid.1 (h.installed v hv).1 (not_not.mpr hv) htrees
        (fun _ => id) List.prefix_rfl)]
      exact (h.installed v hv).2
  -- the links first
  obtain ⟨w₂, hlinks, hother, hrest⟩ : ∃ w₂,
      LinksFollow layout bundle.pluginId s.windows bundle.version activated fs w₂.fs ∧
      (∀ q, q ∉ [layout.currentLink bundle.pluginId, layout.previousLink bundle.pluginId] →
        w₂.fs.get? q = w₁.fs.get? q) ∧
      (recordInstall s layout bundle activated).exec w₂ = (.ok result, w') := by
    have hsame : ∀ link ∈ [layout.currentLink bundle.pluginId,
        layout.previousLink bundle.pluginId], w₁.fs.get? link = fs.get? link :=
      fun link hlink => hrecord (List.mem_cons_of_mem _ hlink)
    unfold changeActive at hchange
    cases activated with
    | false =>
      exact ⟨w₁, ⟨fun hfalse => absurd hfalse Bool.false_ne_true, fun _ => hsame⟩,
        fun _ _ => rfl, hchange⟩
    | true =>
      obtain ⟨_, w₂, hactivate, hrest⟩ := exec_bind_ok hchange
      obtain ⟨hlinks, hother⟩ := linksFollow_activate htarget hsame hactivate
      exact ⟨w₂, hlinks, hother, hrest⟩
  rw [recordInstall_eq] at hrest
  refine h.written hid ?_ hlinks (fun v hv => ?_) hactive ?_ hrest
  · rw [hother _ (catalog_not_link hid.1), hrecord List.mem_cons_self]
  · obtain ⟨hname, hthere⟩ := hdir hv
    refine ⟨hname, ?_⟩
    rw [hother _ (versionDir_not_link hid hname), hthere]
  · intro w₃ catalog versions hread hwrite
    obtain ⟨catalog', versions', hread', hupdated, hwritten⟩ :=
      @writeCatalog_ok s layout bundle.pluginId _ _ [] [] _ _ _ _ hid.1 hread _ hwrite
    exact ⟨_, catalog', versions', rfl, rfl, hread', hupdated, hwritten.others⟩

theorem sound_activation {repr : Value → String} {version : String}
    {result : PluginActivationResult} (hid : IsPluginName pluginId)
    (h : Sound layout pluginId s.windows fs)
    (hmanifest : ∀ manifest,
      readNode fs (layout.versionDir pluginId version ++ ["manifest.json"]) =
        .ok (some (.obj manifest)) → manifest.lookup "plugin_id" = some (.str pluginId))
    (hrun : (activateVersion s layout repr pluginId version).exec ⟨fs, []⟩ = (.ok result, w')) :
    Sound layout pluginId s.windows w'.fs ∧
      (activeVersion layout pluginId fs ≠ .null → activeVersion layout pluginId w'.fs ≠ .null) := by
  rw [activateVersion_eq] at hrun
  obtain ⟨⟨payload, isActive⟩, w₁, hfind, hrest⟩ := exec_bind_ok hrun
  obtain ⟨rfl, hcataloged, -⟩ := findInstalled_ok h.catalog hfind
  dsimp only at hrest
  split at hrest
  · cases hrest
    exact ⟨h, id⟩
  obtain ⟨found, w₂, hread, hrest⟩ := exec_bind_ok hrest
  obtain ⟨hfound, rfl⟩ := Lib.Files.read_ok hread
  have hown := own_manifest hmanifest hfound
  obtain ⟨previousTarget, hlink, htarget⟩ := h.safeReadlink_eq List.mem_cons_self []
  rw [exec_bind_of_ok _ hlink] at hrest
  obtain ⟨_, w₃, hactivate, hfinish⟩ := exec_bind_ok hrest
  obtain ⟨hlinks, hother⟩ := linksFollow_activate htarget (fun _ _ => rfl) hactivate
  refine h.written hid (hother _ (catalog_not_link hid.1)) hlinks (fun v hv => ?_) (Or.inl rfl) ?_
    hfinish
  · have hv : Cataloged layout pluginId fs v := by
      rcases hv with rfl | hv
      · exact hcataloged
      · exact hv
    obtain ⟨hname, hthere⟩ := h.installed v hv
    exact ⟨hname, (hother _ (versionDir_not_link hid hname)).trans hthere⟩
  · intro w₄ catalog versions hcatalog hwrite
    obtain ⟨update, catalog', versions', hversion, hactive, hcatalog', hupdated⟩ :=
      recordActivation_ok hown hwrite hid.1 hcatalog
    exact ⟨update, catalog', versions', hversion, hactive, hcatalog', hupdated,
      fun q hq hapart => recordActivation_others hown hwrite hid.1 hq hapart⟩

end Operations

/-! ## Pruning -/

section Prune

variable {s : Setting} {layout : PluginLayout} {repr : Value → String}
  {pluginId keepVersion : String} {fs : Files} {w w' : Lib.World Content}

open Program Lib.Footprint

/-- The keys of a dictionary as the loop sees them are all texts. -/
theorem mapM_texts (keepVersion : String) (versions : Fields) :
    ((versions.map fun f => Value.str f.1).filter fun v => !v.isText keepVersion).mapM
        Value.asText =
      some ((versions.map Prod.fst).filter fun k => decide (k ≠ keepVersion)) := by
  induction versions with
  | nil => rfl
  | cons field versions ih =>
    rw [List.map_cons, List.map_cons, List.filter_cons, List.filter_cons]
    by_cases hk : field.1 = keepVersion
    · simpa [Value.isText, hk] using ih
    · rw [if_pos (by simp [Value.isText, hk]), if_pos (by simp [hk]), List.mapM_cons, ih]
      rfl

theorem lookup_isSome_iff_mem_keys {versions : Fields} {k : String} :
    (versions.lookup k).isSome = true ↔ k ∈ versions.map Prod.fst := by
  rw [List.lookup_isSome_iff, List.mem_map]
  constructor
  · rintro ⟨p, hp, hk⟩
    exact ⟨p, hp, (eq_of_beq hk).symm⟩
  · rintro ⟨p, hp, rfl⟩
    exact ⟨p, hp, BEq.rfl⟩

theorem lookup_filter_ne (versions : Fields) (version k : String) :
    (versions.filter fun field => decide (field.1 ≠ version)).lookup k =
      if k = version then none else versions.lookup k := by
  induction versions with
  | nil => simp
  | cons field versions ih =>
    obtain ⟨key, x⟩ := field
    rw [List.filter_cons]
    by_cases hkey : key = version
    · rw [if_neg (by simp [hkey]), ih]
      by_cases hk : k = version
      · rw [if_pos hk, if_pos hk]
      · rw [if_neg hk, if_neg hk, List.lookup_cons, beq_false_of_ne fun heq => hk (heq.trans hkey)]
    · rw [if_pos (by simp [hkey]), List.lookup_cons, List.lookup_cons, ih]
      by_cases hk : k = version
      · rw [if_pos hk, beq_false_of_ne fun heq => hkey (heq.symm.trans hk), if_pos hk]
      · rw [if_neg hk, if_neg hk]

/-- What is to be removed is all but the version to keep, which is the active one. -/
theorem findInactive_ok {catalog versions catalog' : Fields} {versions' : Value}
    {removed : List String} (hcatalog : HasCatalog layout pluginId w.fs catalog versions)
    (h : (findInactive s layout repr pluginId keepVersion).exec w =
      (.ok (catalog', versions', removed), w')) :
    w' = w ∧ catalog' = catalog ∧ versions' = .obj versions ∧
      strOf repr ((activeVersion layout pluginId w.fs).orElse (.str "")) = keepVersion ∧
      keepVersion ≠ "" ∧ ∀ v, v ∈ removed ↔ v ≠ keepVersion ∧ Cataloged layout pluginId w.fs v := by
  obtain ⟨found', hread', hvalue⟩ := hcatalog.readNode_ok
  obtain ⟨found, w₁, hread, hrest⟩ := exec_bind_ok h
  obtain ⟨hfound, rfl⟩ := Lib.Files.read_ok hread
  rw [hread'] at hfound
  cases hfound
  rw [hvalue] at hrest
  simp only [Value.asDict, versions_or_empty hcatalog.2] at hrest
  split at hrest
  · cases hrest
  rename_i hsome
  split at hrest
  · cases hrest
  rename_i hkeep
  split at hrest
  · rename_i items hmentions hiter
    cases hiter
    rw [mapM_texts] at hrest
    cases hrest
    rw [not_not] at hkeep
    refine ⟨rfl, rfl, rfl, by rw [hcatalog.active_eq, hkeep], hkeep ▸ hsome, fun v => ?_⟩
    rw [List.mem_mergeSort, List.mem_filter, hcatalog.cataloged_iff, lookup_isSome_iff_mem_keys]
    simp [and_comm]
  · cases hrest
  · cases hrest

theorem keeps_dropVersions {F : Footprint} (removed : List String) (versions : Value)
    (h : ∀ v ∈ removed, layout.versionDir pluginId v ∈ F.trees) :
    Keeps F.Always (dropVersions s layout pluginId removed versions) := by
  induction removed generalizing versions with
  | nil => exact .pure _
  | cons version rest ih =>
    obtain ⟨hone, hrest⟩ := List.forall_mem_cons.mp h
    refine .bind (keeps_look _) fun present => ?_
    dsimp only
    split
    · refine .bind (keeps_rmtree ⟨_, hone, List.prefix_rfl⟩) fun _ => ?_
      split
      · exact ih _ hrest
      · exact .throw _
      · exact .throw _
    · split
      · exact ih _ hrest
      · exact .throw _
      · exact .throw _

theorem dropVersions_ok {removed : List String} {fields : Fields} {versions' : Value}
    (h : (dropVersions s layout pluginId removed (.obj fields)).exec w = (.ok versions', w')) :
    ∃ fields', versions' = .obj fields' ∧
      ∀ k, fields'.lookup k = if k ∈ removed then none else fields.lookup k := by
  induction removed generalizing fields w with
  | nil =>
    cases h
    exact ⟨fields, rfl, fun k => by rw [if_neg List.not_mem_nil]⟩
  | cons version rest ih =>
    have hstep {w₁ : Lib.World Content} (hrest : (dropVersions s layout pluginId rest
        (.obj (fields.filter fun field => decide (field.1 ≠ version)))).exec w₁ =
          (.ok versions', w')) :
        ∃ fields', versions' = .obj fields' ∧
          ∀ k, fields'.lookup k = if k ∈ version :: rest then none else fields.lookup k := by
      obtain ⟨fields', rfl, hlookup⟩ := ih hrest
      refine ⟨fields', rfl, fun k => ?_⟩
      rw [hlookup k, lookup_filter_ne]
      by_cases hk : k = version
      · simp [hk]
      · simp [hk]
    obtain ⟨present, w₁, -, hrest⟩ := exec_bind_ok h
    dsimp only at hrest
    split at hrest
    · obtain ⟨_, w₂, -, hrest⟩ := exec_bind_ok hrest
      exact hstep hrest
    · exact hstep hrest

theorem dropPrevious_ok {removed : List String} {u : PUnit}
    (hlink : w.fs.get? (layout.previousLink pluginId) = none ∨ ∃ v, IsVersionName v ∧
      w.fs.get? (layout.previousLink pluginId) = some (.link v))
    (h : (dropPrevious s layout pluginId removed).exec w = (.ok u, w')) :
    (w'.fs.get? (layout.previousLink pluginId) = none ∨
      w'.fs.get? (layout.previousLink pluginId) = w.fs.get? (layout.previousLink pluginId) ∧
        ∀ v, w.fs.get? (layout.previousLink pluginId) = some (.link v) → v ∉ removed) ∧
    ∀ q, q ≠ layout.previousLink pluginId → w'.fs.get? q = w.fs.get? q := by
  obtain ⟨target, hread, htarget⟩ := safeReadlink_eq hlink w.trail
  rw [dropPrevious, exec_bind_of_ok _ hread] at h
  split at h
  · obtain ⟨-, hfs⟩ := Lib.Files.unlink_ok h
    rw [hfs]
    exact ⟨Or.inl (Dict.get?_erase_self _ _), fun q hq => Dict.get?_erase_ne _ hq⟩
  · rename_i hkept
    cases h
    refine ⟨Or.inr ⟨rfl, fun v hv hmem => hkept ?_⟩, fun _ _ => rfl⟩
    rw [(htarget v).mpr hv]
    simpa using hmem

theorem recordPruned_ok (hid : IsPluginName pluginId) {catalog versions : Fields} {u : PUnit}
    (h : (recordPruned s layout pluginId catalog (.obj versions)).exec w = (.ok u, w')) :
    (∃ catalog', HasCatalog layout pluginId w'.fs catalog' versions ∧
      Value.get catalog' "active_version" = Value.get catalog "active_version") ∧
    ∀ q, q ≠ layout.pluginCatalogPath pluginId → (scratch layout pluginId [] []).Apart q →
      w'.fs.get? q = w.fs.get? q := by
  obtain ⟨_, w₁, hwrite, hindex⟩ := exec_bind_ok h
  have hwritten := @writePluginCatalog_ok s layout pluginId [] [] _ _ hid.1 _ _ hwrite
  have hkeep {q : Place} (hq : (scratch layout pluginId [] []).Apart q) :
      w'.fs.get? q = w₁.fs.get? q := (keeps_of_exec (keeps_index s) hindex).eq_of_apart hq
  refine ⟨⟨_, ⟨Or.inr ((hkeep (apart_record_nil hid List.mem_cons_self)).trans hwritten.catalog),
    ?_⟩, ?_⟩, fun q hq hapart => (hkeep hapart).trans (hwritten.others q hq hapart)⟩
  · simp [Value.getD, Value.lookup_setField]
  · simp [Value.get, Value.getD, Value.lookup_setField]

/-- What a prune that returns has done. -/
structure Pruned (layout : PluginLayout) (pluginId : String) (fs fs' : Files) : Prop where
  /-- the active version stays, with all that is in its directory -/
  active : ∀ v, activeVersion layout pluginId fs = .str v →
    activeVersion layout pluginId fs' = .str v ∧ Cataloged layout pluginId fs' v ∧
      ∀ q, layout.versionDir pluginId v <+: q → fs'.get? q = fs.get? q
  /-- the others are gone, and the link to the previous version names none of them -/
  others : ∀ v, Cataloged layout pluginId fs v → activeVersion layout pluginId fs ≠ .str v →
    ¬ Cataloged layout pluginId fs' v ∧
      fs'.get? (layout.previousLink pluginId) ≠ some (.link v)

/-- The version to keep is the active one. -/
theorem active_of_keep {windows : Bool} (h : Recorded layout pluginId windows fs)
    (hkeep : strOf repr ((activeVersion layout pluginId fs).orElse (.str "")) = keepVersion)
    (hsome : keepVersion ≠ "") :
    activeVersion layout pluginId fs = .str keepVersion ∧
      Cataloged layout pluginId fs keepVersion := by
  rcases h.active with hnull | ⟨v, hv, hcataloged⟩
  · rw [hnull] at hkeep
    exact absurd hkeep.symm hsome
  · have hname : v ≠ "" := (h.installed v hcataloged).1.1.1
    rw [hv] at hkeep
    have hstr : (Value.str v).orElse (.str "") = .str v := by
      simp [Value.orElse, Value.truthy, hname]
    rw [hstr] at hkeep
    cases hkeep
    exact ⟨hv, hcataloged⟩

/-- The catalog, the links and the directories after a prune. -/
theorem pruneInactiveVersions_ok (hid : IsPluginName pluginId)
    (h : Recorded layout pluginId s.windows fs) {catalog versions : Fields}
    (hcatalog : HasCatalog layout pluginId fs catalog versions) {result : PluginPruneResult}
    (hrun : (pruneInactiveVersions s layout repr pluginId keepVersion).exec ⟨fs, []⟩ =
      (.ok result, w')) :
    (activeVersion layout pluginId fs = .str keepVersion ∧
      Cataloged layout pluginId fs keepVersion) ∧
    (∃ catalog' versions', HasCatalog layout pluginId w'.fs catalog' versions' ∧
      Value.get catalog' "active_version" = Value.get catalog "active_version" ∧
      ∀ v, versions'.lookup v = if v = keepVersion then versions.lookup v else none) ∧
    (∀ q, layout.versionDir pluginId keepVersion <+: q → w'.fs.get? q = fs.get? q) ∧
    w'.fs.get? (layout.currentLink pluginId) = fs.get? (layout.currentLink pluginId) ∧
    (w'.fs.get? (layout.previousLink pluginId) = none ∨
      w'.fs.get? (layout.previousLink pluginId) = fs.get? (layout.previousLink pluginId) ∧
        ∀ v, fs.get? (layout.previousLink pluginId) = some (.link v) → v = keepVersion) := by
  obtain ⟨⟨catalog₁, versions₁, removed⟩, w₁, hfind, hrest⟩ := exec_bind_ok hrun
  obtain ⟨rfl, rfl, rfl, hkeep, hsome, hremoved⟩ := findInactive_ok hcatalog hfind
  obtain ⟨hactive, hcataloged⟩ := active_of_keep h hkeep hsome
  have htrees : ∀ t ∈ removed.map (layout.versionDir pluginId),
      Removable layout pluginId (· ≠ keepVersion) t := by
    intro t ht
    obtain ⟨v, hv, rfl⟩ := List.mem_map.mp ht
    obtain ⟨hne, hv⟩ := (hremoved v).mp hv
    exact Or.inr ⟨v, (h.installed v hv).1, hne, rfl⟩
  have hapart {q : Place} (hq : q ∈ records layout pluginId) :
      (scratch layout pluginId (removed.map (layout.versionDir pluginId)) []).Apart q :=
    @apart_record layout pluginId _ [] hid _ htrees "" (List.forall_mem_nil _) q hq
  have hkept {q : Place} (hq : layout.versionDir pluginId keepVersion <+: q) :
      (scratch layout pluginId (removed.map (layout.versionDir pluginId)) []).Apart q :=
    @apart_version layout pluginId keepVersion _ [] hid.1 (h.installed _ hcataloged).1
      (· ≠ keepVersion) (fun hne => hne rfl) htrees "" (List.forall_mem_nil _) q hq
  -- the directories
  obtain ⟨versions₂, w₂, hdrop, hrest⟩ := exec_bind_ok hrest
  obtain ⟨versions', rfl, hlookup⟩ := dropVersions_ok hdrop
  have hdropped := @keeps_of_exec Content _ _ _ _ _ _ (@keeps_dropVersions s layout pluginId
    (scratch layout pluginId (removed.map (layout.versionDir pluginId)) []) removed _
    fun v hv => List.mem_map_of_mem hv) hdrop
  have hsame {q : Place} (hq : q ∈ records layout pluginId) : w₂.fs.get? q = fs.get? q :=
    hdropped.eq_of_apart (hapart hq)
  have hcurrent : layout.currentLink pluginId ∈ records layout pluginId :=
    List.mem_cons_of_mem _ List.mem_cons_self
  have hprevious : layout.previousLink pluginId ∈ records layout pluginId :=
    List.mem_cons_of_mem _ (List.mem_cons_of_mem _ List.mem_cons_self)
  -- the link to the previous version
  have hlink : w₂.fs.get? (layout.previousLink pluginId) = none ∨ ∃ v, IsVersionName v ∧
      w₂.fs.get? (layout.previousLink pluginId) = some (.link v) := by
    rw [hsame hprevious]
    rcases h.links _ (List.mem_cons_of_mem _ List.mem_cons_self) with hnone | ⟨v, hv, hget⟩
    · exact Or.inl hnone
    · exact Or.inr ⟨v, (h.installed v hv).1, hget⟩
  obtain ⟨_, w₃, hunlink, hrest⟩ := exec_bind_ok hrest
  obtain ⟨hkeptLink, hother⟩ := dropPrevious_ok hlink hunlink
  have hcatalog₃ : w₃.fs.get? (layout.pluginCatalogPath pluginId) =
      fs.get? (layout.pluginCatalogPath pluginId) := by
    rw [hother _ (Ne.symm (pluginDir_ne_catalog hid.1 _)), hsame List.mem_cons_self]
  -- the catalog
  obtain ⟨⟨catalog', versions'', hcatalog', hfield, hlookup'⟩, hlast⟩ :
      (∃ catalog' versions'', HasCatalog layout pluginId w'.fs catalog' versions'' ∧
        Value.get catalog' "active_version" = Value.get catalog₁ "active_version" ∧
        ∀ v, versions''.lookup v = if v ∈ removed then none else versions.lookup v) ∧
      ∀ q, q ≠ layout.pluginCatalogPath pluginId → (scratch layout pluginId [] []).Apart q →
        w'.fs.get? q = w₃.fs.get? q := by
    dsimp only at hrest
    split at hrest
    · obtain ⟨_, w₄, hrecord, hreturn⟩ := exec_bind_ok hrest
      cases hreturn
      obtain ⟨⟨catalog', hcatalog', hfield⟩, hlast⟩ := recordPruned_ok hid hrecord
      exact ⟨⟨catalog', versions', hcatalog', hfield, hlookup⟩, hlast⟩
    · rename_i hnone
      cases hrest
      rw [not_not] at hnone
      refine ⟨⟨catalog₁, versions, hcatalog.congr hcatalog₃, rfl, fun v => ?_⟩, fun _ _ _ => rfl⟩
      rw [hnone, if_neg List.not_mem_nil]
  have hend {q : Place} (hne : q ≠ layout.pluginCatalogPath pluginId)
      (hnot : q ≠ layout.previousLink pluginId) (hq : (scratch layout pluginId [] []).Apart q) :
      w'.fs.get? q = w₂.fs.get? q := (hlast q hne hq).trans (hother q hnot)
  refine ⟨⟨hactive, hcataloged⟩, ⟨catalog', versions'', hcatalog', hfield, fun v => ?_⟩,
    fun q hq => ?_, ?_, ?_⟩
  · rw [hlookup' v]
    by_cases hv : v = keepVersion
    · rw [if_neg fun hmem => ((hremoved v).mp hmem).1 hv, if_pos hv]
    · rw [if_neg hv]
      by_cases hknown : Cataloged layout pluginId fs v
      · rw [if_pos ((hremoved v).mpr ⟨hv, hknown⟩)]
      · rw [hcatalog.cataloged_iff, Bool.not_eq_true, Option.isSome_eq_false_iff,
          Option.isNone_iff_eq_none] at hknown
        rw [hknown, ite_self]
  · have hname := (h.installed _ hcataloged).1
    have hne {r : Place} (hr : r ∈ records layout pluginId) : q ≠ r :=
      fun heq => not_prefix_record hid hname hr (heq ▸ hq)
    rw [hend (hne List.mem_cons_self) (hne hprevious) (apart_version_nil hid hname hq)]
    exact hdropped.eq_of_apart (hkept hq)
  · have hne : layout.currentLink pluginId ≠ layout.pluginCatalogPath pluginId :=
      pluginDir_ne_catalog hid.1 _
    rw [hend hne (Ne.symm previousLink_ne_current) (apart_record_nil hid hcurrent),
      hsame hcurrent]
  · have hprev : w'.fs.get? (layout.previousLink pluginId) =
        w₃.fs.get? (layout.previousLink pluginId) :=
      hlast _ (pluginDir_ne_catalog hid.1 _) (apart_record_nil hid hprevious)
    rw [hprev]
    rcases hkeptLink with hnone | ⟨heq, hkeptLink⟩
    · exact Or.inl hnone
    · refine Or.inr ⟨heq.trans (hsame hprevious), fun v hv => ?_⟩
      by_contra hne
      have hv₂ := (hsame hprevious).trans hv
      obtain hnone | ⟨v', hv', hget⟩ := h.links _ (List.mem_cons_of_mem _ List.mem_cons_self)
      · rw [hnone] at hv
        cases hv
      · rw [hget] at hv
        cases hv
        exact hkeptLink _ hv₂ ((hremoved _).mpr ⟨hne, hv'⟩)

/-- **A prune** leaves the active version and nothing else. -/
theorem sound_prune (hid : IsPluginName pluginId) (h : Sound layout pluginId s.windows fs)
    {result : PluginPruneResult}
    (hrun : (pruneInactiveVersions s layout repr pluginId keepVersion).exec ⟨fs, []⟩ =
      (.ok result, w')) :
    Sound layout pluginId s.windows w'.fs ∧ Pruned layout pluginId fs w'.fs := by
  obtain ⟨catalog, versions, hcatalog⟩ := h.catalog
  obtain ⟨⟨hactive, hkeep⟩, ⟨catalog', versions', hcatalog', hfield, hlookup⟩, hdir, hcurrent,
    hprevious⟩ := pruneInactiveVersions_ok hid h.toRecorded hcatalog hrun
  have hactive' : activeVersion layout pluginId w'.fs = .str keepVersion := by
    rw [hcatalog'.active_eq, hfield, ← hcatalog.active_eq, hactive]
  have hcataloged {v : String} : Cataloged layout pluginId w'.fs v ↔ v = keepVersion := by
    rw [hcatalog'.cataloged_iff, hlookup v]
    by_cases hv : v = keepVersion
    · rw [if_pos hv, hv]
      exact iff_of_true (hcatalog.cataloged_iff.mp hkeep) rfl
    · rw [if_neg hv]
      exact iff_of_false Bool.false_ne_true hv
  have hflag : activeFlag layout pluginId w'.fs keepVersion =
      activeFlag layout pluginId fs keepVersion := by
    rw [activeFlag, activeFlag, hcatalog'.versions_eq, hcatalog.versions_eq, hlookup, if_pos rfl]
  refine ⟨⟨⟨⟨_, _, hcatalog'⟩, ?_, ?_, ?_, ?_⟩, ?_, ?_⟩, ?_, ?_⟩
  · intro v hv
    rw [hcataloged.mp hv]
    obtain ⟨hname, hthere⟩ := h.installed _ hkeep
    exact ⟨hname, (hdir _ List.prefix_rfl).trans hthere⟩
  · exact Or.inr ⟨keepVersion, hactive', hcataloged.mpr rfl⟩
  · intro hposix v
    rw [hcurrent, h.current hposix v, hactive, hactive']
  · intro link hlink
    simp only [List.mem_cons, List.not_mem_nil, or_false] at hlink
    rcases hlink with rfl | rfl
    · rw [hcurrent]
      cases hwindows : s.windows with
      | true => exact Or.inl (h.unlinked hwindows _ List.mem_cons_self)
      | false =>
        exact Or.inr ⟨keepVersion, hcataloged.mpr rfl, (h.current hwindows keepVersion).mpr hactive⟩
    · rcases hprevious with hnone | ⟨heq, hnamed⟩
      · exact Or.inl hnone
      · rw [heq]
        rcases h.links _ (List.mem_cons_of_mem _ List.mem_cons_self) with hnone | ⟨v, -, hget⟩
        · exact Or.inl hnone
        · exact Or.inr ⟨v, hcataloged.mpr (hnamed v hget), hget⟩
  · intro v hv
    rw [hcataloged.mp hv, hflag, h.flags keepVersion hkeep, hactive, hactive']
  · intro hwindows link hlink
    simp only [List.mem_cons, List.not_mem_nil, or_false] at hlink
    rcases hlink with rfl | rfl
    · rw [hcurrent]
      exact h.unlinked hwindows _ List.mem_cons_self
    · rcases hprevious with hnone | ⟨heq, -⟩
      · exact hnone
      · rw [heq]
        exact h.unlinked hwindows _ (List.mem_cons_of_mem _ List.mem_cons_self)
  · intro v hv
    rw [hactive] at hv
    cases hv
    exact ⟨hactive', hcataloged.mpr rfl, hdir⟩
  · intro v hv hne
    rw [hactive] at hne
    have hother : v ≠ keepVersion := fun heq => hne (heq ▸ rfl)
    refine ⟨fun hcat => hother (hcataloged.mp hcat), fun hlink => ?_⟩
    rcases hprevious with hnone | ⟨heq, hnamed⟩
    · rw [hnone] at hlink
      cases hlink
    · exact hother (hnamed v (heq ▸ hlink))

end Prune

/-! ## Runs -/

/-- An operation on one plugin. -/
inductive Operation where
  | installBundle (bundle : ValidatedBundle) (activate : Bool)
  | activateVersion (version : String)
  | pruneInactiveVersions (keepVersion : String)

/-- The file system that an operation leaves when it returns. -/
def returned {α : Type} : Except Raised α × Lib.World Content → Option Files
  | (.ok _, w) => some w.fs
  | (.error _, _) => none

/-- One operation that returns, with what it finds. -/
def step (layout : PluginLayout) (repr : Value → String) (pluginId : String) :
    Machine Files (Setting × Operation) := fun fs call =>
  match call.2 with
  | .installBundle bundle activate =>
    returned ((installBundle call.1 layout bundle activate).exec ⟨fs, []⟩)
  | .activateVersion version =>
    returned ((activateVersion call.1 layout repr pluginId version).exec ⟨fs, []⟩)
  | .pruneInactiveVersions keepVersion =>
    returned ((pruneInactiveVersions call.1 layout repr pluginId keepVersion).exec ⟨fs, []⟩)

/-- What is asked of an operation: a bundle of the plugin whose version is a name, and that is
activated when there is an active version; an activation of a version whose manifest is of the
plugin. -/
def Admitted (layout : PluginLayout) (pluginId : String) (windows : Bool) (fs : Files)
    (call : Setting × Operation) : Prop :=
  call.1.windows = windows ∧
    match call.2 with
    | .installBundle bundle activate =>
      bundle.pluginId = pluginId ∧ IsVersionName bundle.version ∧
        (activate = true ∨ activeVersion layout pluginId fs = .null)
    | .activateVersion version => ∀ manifest,
      readNode fs (layout.versionDir pluginId version ++ ["manifest.json"]) =
        .ok (some (.obj manifest)) → manifest.lookup "plugin_id" = some (.str pluginId)
    | .pruneInactiveVersions _ => True

section Runs

variable {layout : PluginLayout} {repr : Value → String} {pluginId : String} {windows : Bool}
  {fs fs' : Files}

theorem exists_of_returned {α : Type} {r : Except Raised α × Lib.World Content}
    (h : returned r = some fs) : ∃ a w, r = (.ok a, w) ∧ w.fs = fs := by
  obtain ⟨r, w⟩ := r
  cases r with
  | ok a => exact ⟨a, w, rfl, Option.some.inj h⟩
  | error e => cases h

/-- **One step.** -/
theorem sound_step (hid : IsPluginName pluginId) {call : Setting × Operation}
    (hcall : Admitted layout pluginId windows fs call)
    (hstep : step layout repr pluginId fs call = some fs') (h : Sound layout pluginId windows fs) :
    Sound layout pluginId windows fs' ∧
      (activeVersion layout pluginId fs ≠ .null → activeVersion layout pluginId fs' ≠ .null) := by
  obtain ⟨s, op⟩ := call
  obtain ⟨rfl, hop⟩ := hcall
  cases op with
  | installBundle bundle activate =>
    obtain ⟨rfl, hversion, hactive⟩ := hop
    obtain ⟨result, w, hrun, rfl⟩ := exists_of_returned hstep
    exact sound_install hid hversion h hactive hrun
  | activateVersion version =>
    obtain ⟨result, w, hrun, rfl⟩ := exists_of_returned hstep
    exact sound_activation hid h hop hrun
  | pruneInactiveVersions keepVersion =>
    obtain ⟨result, w, hrun, rfl⟩ := exists_of_returned hstep
    obtain ⟨hsound, hpruned⟩ := sound_prune hid h hrun
    refine ⟨hsound, fun hset => ?_⟩
    rcases h.active with hnull | ⟨v, hv, -⟩
    · exact absurd hnull hset
    · rw [(hpruned.active v hv).1]
      exact fun heq => by cases heq

/-- **Histories.** After every run of admitted operations from a plugin root without the plugin,
the catalog, its flags, the directories and the links agree; an active version that is set stays
set; and a prune leaves the active version as it is and takes the others away, also from the link
to the previous version. -/
theorem sound_run (layout : PluginLayout) (repr : Value → String) (pluginId : String)
    (windows : Bool) (fs₀ fs : Files) (hid : IsPluginName pluginId)
    (hfresh : Fresh layout pluginId fs₀)
    (hrun : Machine.Run (step layout repr pluginId) (Admitted layout pluginId windows) fs₀ fs) :
    Sound layout pluginId windows fs ∧
    (∀ fs', Machine.Run (step layout repr pluginId) (Admitted layout pluginId windows) fs fs' →
      activeVersion layout pluginId fs ≠ .null → activeVersion layout pluginId fs' ≠ .null) ∧
    ∀ s keepVersion fs', s.windows = windows →
      step layout repr pluginId fs (s, .pruneInactiveVersions keepVersion) = some fs' →
        Pruned layout pluginId fs fs' := by
  have hsound : Sound layout pluginId windows fs :=
    hrun.invariant (I := Sound layout pluginId windows) hfresh.sound
      fun _ _ _ hcall hstep h => (sound_step hid hcall hstep h).1
  refine ⟨hsound, fun fs' hmore hset => ?_, fun s keepVersion fs' hwindows hstep => ?_⟩
  · refine (hmore.invariant (I := fun fs => Sound layout pluginId windows fs ∧
      activeVersion layout pluginId fs ≠ .null) ⟨hsound, hset⟩ fun _ _ _ hcall hstep h => ?_).2
    obtain ⟨hnext, hstays⟩ := sound_step hid hcall hstep h.1
    exact ⟨hnext, hstays h.2⟩
  · subst hwindows
    obtain ⟨result, w, hreturn, rfl⟩ := exists_of_returned hstep
    exact (sound_prune hid hsound hreturn).2

end Runs

/-! ## An install that activates nothing -/

namespace Inactive

/-- A plugin root with nothing in it. -/
def emptyRoot : Files :=
  [["data"], ["data", "cache"], ["data", "catalog"], ["data", "incoming"],
    ["data", "installed"]].foldl (fun fs p => fs.set p .dir) Dict.empty

def install (version : String) (activate : Bool) : Setting × Operation :=
  (working, .installBundle (bundleOf "imu" version) activate)

/-- The first version is the active one, and its flag says that it is not. -/
def flagIsCleared (fs : Files) : Bool :=
  ((catalogedVersions dataLayout "imu" fs).lookup "1.0").isSome &&
    (activeVersion dataLayout "imu" fs).isText "1.0" &&
    match activeFlag dataLayout "imu" fs "1.0" with
    | .bool active => !active
    | _ => false

theorem fresh : Fresh dataLayout "imu" emptyRoot where
  catalog := rfl
  links := List.forall_mem_cons.mpr ⟨rfl, List.forall_mem_singleton.mpr rfl⟩

theorem catalogNames_eq : catalogNames = fun layout fs =>
    (((fs.keys.filter fun p => decide (p.dropLast = layout.catalogDir ∧ p ≠ [])).map
      fun p => p.getLast?.getD "").filter fun n => n.endsWith ".json").insertionSort (· ≤ ·) := by
  funext layout fs
  exact List.mergeSort_eq_insertionSort (· ≤ ·) _

/-- Two installs that both return: the second one does not activate its version, and clears the
flag of the first. -/
theorem install_clears_flag : Fresh dataLayout "imu" emptyRoot ∧ ∃ fs,
    Machine.exec (step dataLayout (fun _ => "") "imu") emptyRoot
      [install "1.0" true, install "2.0" false] = some fs ∧
    Cataloged dataLayout "imu" fs "1.0" ∧ activeVersion dataLayout "imu" fs = .str "1.0" ∧
    activeFlag dataLayout "imu" fs "1.0" = .bool false := by
  have hrun : (Machine.exec (step dataLayout (fun _ => "") "imu") emptyRoot
      [install "1.0" true, install "2.0" false]).map flagIsCleared = some true := by
    -- the sort of the index is replaced by one that evaluates
    simp only [step, installBundle, installValidated, finishInstall, updatePluginCatalog,
      updatePluginsIndex, install, Machine.exec]
    delta indexPayload
    rw [catalogNames_eq]
    decide +kernel
  obtain ⟨fs, hexec, hcleared⟩ := Option.map_eq_some_iff.mp hrun
  rw [flagIsCleared, Bool.and_eq_true, Bool.and_eq_true] at hcleared
  obtain ⟨⟨hcataloged, hactive⟩, hflag⟩ := hcleared
  refine ⟨fresh, fs, hexec, hcataloged, ?_, ?_⟩
  · generalize activeVersion dataLayout "imu" fs = v at hactive
    cases v with
    | str text => rw [of_decide_eq_true hactive]
    | _ => cases hactive
  · generalize activeFlag dataLayout "imu" fs "1.0" = v at hflag
    cases v with
    | bool active => rw [(Bool.not_eq_true' _).mp hflag]
    | _ => cases hflag

/-- The first of them alone. -/
theorem sound_run_install : ∃ fs,
    step dataLayout (fun _ => "") "imu" emptyRoot (install "1.0" true) = some fs ∧
      Sound dataLayout "imu" false fs := by
  have hreturns : (step dataLayout (fun _ => "") "imu" emptyRoot (install "1.0" true)).isSome =
      true := by decide +kernel
  obtain ⟨fs, hstep⟩ := Option.isSome_iff_exists.mp hreturns
  have hadmitted : Admitted dataLayout "imu" false emptyRoot (install "1.0" true) :=
    ⟨rfl, rfl, by decide, Or.inl rfl⟩
  exact ⟨fs, hstep, (sound_run dataLayout (fun _ => "") "imu" false emptyRoot fs (by decide) fresh
    (.tail _ .refl hadmitted hstep)).1⟩

end Inactive

end NexusN3.Plugins
