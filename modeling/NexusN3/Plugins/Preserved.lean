import NexusN3.Plugins.Changes

/-!
# What a failed operation preserves

An install or an activation changes a plugin in several steps: the link to the current version,
the link to the previous one, the catalog, the index. Each of them may fail. The handler of an
install takes away what it has put on disk, and nothing puts a link or a catalog back.

* **`Preserved`** — the promise to the version that was active, and to all that refers to it.
* **`installUntilChange`**, **`activationUntilChange`** — the operations up to the first step that
  changes a link or the catalog.
* **`preserved_of_within`** — a failure before that keeps the promise.
* **`LinkMoved`** — a change of the link stays, whatever comes after it.
* **`failure_preserves_iff`** — the promise is kept by exactly the failures before that step.
-/

namespace NexusN3.Plugins

open Lib

/-! ## The promise -/

/-- A plugin root that agrees with its catalog, with the manifests of the plugin. -/
structure Consistent (layout : PluginLayout) (pluginId : String) (windows : Bool) (fs : Files) :
    Prop extends Recorded layout pluginId windows fs where
  manifests : ∀ v, Cataloged layout pluginId fs v → ∀ manifest,
    readNode fs (layout.versionDir pluginId v ++ ["manifest.json"]) = .ok (some (.obj manifest)) →
      manifest.lookup "plugin_id" = some (.str pluginId)

/-- What a failed operation has to leave as it was. -/
structure Preserved (layout : PluginLayout) (pluginId : String) (fs fs' : Files) : Prop where
  activeDir : ∀ v, activeVersion layout pluginId fs = .str v →
    ∀ q, layout.versionDir pluginId v <+: q → fs'.get? q = fs.get? q
  active : activeVersion layout pluginId fs' = activeVersion layout pluginId fs
  versions : ∀ v, Cataloged layout pluginId fs' v ↔ Cataloged layout pluginId fs v
  links : ∀ link ∈ [layout.currentLink pluginId, layout.previousLink pluginId],
    fs'.get? link = fs.get? link
  /-- no entry of the catalog is dangling -/
  entries : ∀ v, Cataloged layout pluginId fs' v →
    fs'.get? (layout.versionDir pluginId v) = some .dir
  /-- no link is -/
  targets : ∀ link ∈ [layout.currentLink pluginId, layout.previousLink pluginId], ∀ target,
    fs'.get? link = some (.link target) →
      fs'.get? (Path.join link.dropLast target) = some .dir

/-- The program raises from this file system. -/
def RaisesFrom {α : Type} (m : Host α) (fs : Files) : Prop :=
  ∃ e w, m.exec ⟨fs, []⟩ = (.error e, w)

/-! ## Up to the first change -/

/-- The first thing that `_activate` does: the link is taken away, or made where there is none. -/
def replaceCurrent (s : Setting) (layout : PluginLayout) (pluginId version : String) :
    Host PUnit := do
  if ← Lib.Files.look fun fs => (fs.get? (layout.currentLink pluginId)).isSome then
    Lib.Files.unlink s.env (layout.currentLink pluginId)
  else Lib.Files.symlink s.env version (layout.currentLink pluginId)

/-- The first step of an install that changes a link or the catalog. -/
def firstChange (s : Setting) (layout : PluginLayout) (bundle : ValidatedBundle)
    (activated : Bool) : Host PUnit :=
  if activated && !s.windows then replaceCurrent s layout bundle.pluginId bundle.version
  else
    writeCatalog s layout bundle.pluginId bundle.manifest (installUpdate layout bundle activated)

/-- An install up to there. -/
def installUntilChange (s : Setting) (layout : PluginLayout) (bundle : ValidatedBundle)
    (activated : Bool) : Host PUnit := do
  prepareInstall s layout bundle activated
  firstChange s layout bundle activated

/-- An activation up to the first change of a link or of the catalog. -/
def activationUntilChange (s : Setting) (layout : PluginLayout) (repr : Value → String)
    (pluginId version : String) : Host PUnit := do
  let (payload, isActive) ← findInstalled s layout pluginId version
  if isActive then return ⟨⟩
  else do
    let manifest ← readJson s.env (layout.versionDir pluginId version ++ ["manifest.json"])
    if !s.windows then replaceCurrent s layout pluginId version
    else
      recordActivation s layout repr pluginId version payload
        ((manifest.getD (.obj [])).orElse (.obj []))

/-! ## A failure before the first change -/

section Before

variable {layout : PluginLayout} {pluginId : String} {windows : Bool} {fs fs' : Files}
  {trees files : List Place}

/-- What changes only scratch keeps the promise. -/
theorem preserved_of_within (hid : IsPluginName pluginId)
    (h : Recorded layout pluginId windows fs)
    (htrees : ∀ t ∈ trees,
      Removable layout pluginId (fun v => ¬ Cataloged layout pluginId fs v) t) {bundleName : String}
    (hfiles : ∀ f ∈ files, f ∈ failureFiles layout bundleName)
    (hwithin : (scratch layout pluginId trees files).Within fs fs') :
    Preserved layout pluginId fs fs' := by
  have hrecord {q : Place} (hq : q ∈ records layout pluginId) : fs'.get? q = fs.get? q :=
    hwithin.eq_of_apart (apart_record hid htrees hfiles hq)
  have hdir {v : String} (hv : Cataloged layout pluginId fs v) {q : Place}
      (hq : layout.versionDir pluginId v <+: q) : fs'.get? q = fs.get? q :=
    hwithin.eq_of_apart
      (apart_version hid.1 (h.installed v hv).1 (not_not.mpr hv) htrees hfiles hq)
  have hcatalog := catalogAt_congr h.catalog (hrecord List.mem_cons_self)
  have hversions (v : String) :
      Cataloged layout pluginId fs' v ↔ Cataloged layout pluginId fs v := by
    rw [Cataloged, Cataloged, catalogedVersions_congr hcatalog]
  have hthere {v : String} (hv : Cataloged layout pluginId fs v) :
      fs'.get? (layout.versionDir pluginId v) = some .dir :=
    (hdir hv List.prefix_rfl).trans (h.installed v hv).2
  have hlinks : ∀ link ∈ [layout.currentLink pluginId, layout.previousLink pluginId],
      fs'.get? link = fs.get? link := fun link hlink => hrecord (List.mem_cons_of_mem _ hlink)
  refine ⟨fun v hv q hq => ?_, activeVersion_congr hcatalog, hversions, hlinks,
    fun v hv => hthere ((hversions v).mp hv), fun link hlink target htarget => ?_⟩
  · rcases h.active with hnull | ⟨v', hv', hcataloged⟩
    · rw [hnull] at hv
      cases hv
    · rw [hv'] at hv
      cases hv
      exact hdir hcataloged hq
  · rw [hlinks link hlink] at htarget
    rcases h.links link hlink with hnone | ⟨v, hv, hlinked⟩
    · rw [hnone] at htarget
      cases htarget
    · rw [hlinked] at htarget
      cases htarget
      have hparent : link.dropLast = layout.pluginDir pluginId := by
        simp only [List.mem_cons, List.not_mem_nil, or_false] at hlink
        rcases hlink with rfl | rfl
        · exact List.dropLast_concat
        · exact List.dropLast_concat
      rw [hparent]
      exact hthere hv

end Before

/-! ## The link, once it has been changed -/

/-- What has become of the link to the current version: made when there was none, and taken away
or replaced when there was one. -/
def LinkMoved (layout : PluginLayout) (pluginId version : String) (before : Option (Node Content))
    (fs : Files) : Prop :=
  fs.get? (layout.currentLink pluginId) = some (.link version) ∨
    before ≠ none ∧ fs.get? (layout.currentLink pluginId) = none

section Link

variable {s : Setting} {layout : PluginLayout} {pluginId version : String}
  {before : Option (Node Content)} {α : Type}

open Program

/-- What leaves the link alone. -/
theorem keeps_linkMoved {m : Host α}
    (h : ∀ w, (m.exec w).2.fs.get? (layout.currentLink pluginId) =
      w.fs.get? (layout.currentLink pluginId)) :
    Keeps (Maintains fun w => LinkMoved layout pluginId version before w.fs) m := by
  intro w hmoved
  unfold LinkMoved
  rwa [h w]

theorem keeps_linkMoved_of_footprint {m : Host α} {F : Footprint} (h : Keeps F.Always m)
    (hapart : F.Apart (layout.currentLink pluginId)) :
    Keeps (Maintains fun w => LinkMoved layout pluginId version before w.fs) m :=
  keeps_linkMoved fun _ => (Footprint.keeps_of_exec h rfl).eq_of_apart hapart

/-- Making the link again. -/
theorem keeps_linkMoved_symlink :
    Keeps (Maintains fun w => LinkMoved layout pluginId version before w.fs)
      (Lib.Files.symlink s.env version (layout.currentLink pluginId)) := by
  intro w hmoved
  cases hrun : (Lib.Files.symlink s.env version (layout.currentLink pluginId)).exec w with
  | mk r w' =>
    cases r with
    | error e =>
      show LinkMoved layout pluginId version before w'.fs
      rwa [Lib.Files.attempt_error hrun]
    | ok u =>
      obtain ⟨-, hfs⟩ := Lib.Files.symlink_ok hrun
      refine Or.inl ?_
      show w'.fs.get? (layout.currentLink pluginId) = some (.link version)
      rw [hfs, Dict.get?_set_self]

/-- The first change of the link. -/
theorem linkMoved_replaceCurrent {w w' : Lib.World Content} {u : PUnit}
    (h : (replaceCurrent s layout pluginId version).exec w = (.ok u, w')) :
    LinkMoved layout pluginId version (w.fs.get? (layout.currentLink pluginId)) w'.fs := by
  obtain ⟨present, w₁, hlook, hrest⟩ := exec_bind_ok h
  obtain ⟨hpresent, rfl⟩ := Lib.Files.look_ok hlook
  split at hrest
  · rename_i hthere
    obtain ⟨-, hfs⟩ := Lib.Files.unlink_ok hrest
    refine Or.inr ⟨fun hnone => ?_, by rw [hfs, Dict.get?_erase_self]⟩
    rw [hpresent, hnone] at hthere
    cases hthere
  · obtain ⟨-, hfs⟩ := Lib.Files.symlink_ok hrest
    exact Or.inl (by rw [hfs, Dict.get?_set_self])

/-- Nothing has changed when the first change fails. -/
theorem replaceCurrent_error {w w' : Lib.World Content} {e : Raised}
    (h : (replaceCurrent s layout pluginId version).exec w = (.error e, w')) : w'.fs = w.fs := by
  rcases exec_bind_error h with hlook | ⟨present, w₁, hlook, hrest⟩
  · cases hlook
  · obtain ⟨-, rfl⟩ := Lib.Files.look_ok hlook
    split at hrest
    · exact Lib.Files.attempt_error hrest
    · exact Lib.Files.attempt_error hrest

theorem keeps_linkMoved_linkPrevious (previousTarget : Option String) :
    Keeps (Maintains fun w => LinkMoved layout pluginId version before w.fs)
      (linkPrevious s layout pluginId previousTarget) := by
  cases previousTarget with
  | none => exact .pure _
  | some target =>
    have hmem : layout.previousLink pluginId ∈
        (⟨[], [], [layout.previousLink pluginId]⟩ : Footprint).links := List.mem_singleton_self _
    refine keeps_linkMoved_of_footprint (.bind (keeps_dropLink hmem) fun _ =>
      Footprint.keeps_symlink hmem _) ?_
    refine Footprint.apart_of (List.forall_mem_nil _) (List.forall_mem_nil _) ?_
    rw [List.mem_singleton]
    simp [PluginLayout.currentLink, PluginLayout.previousLink]

/-- When the first change fails, so does the activation, and nothing has changed. -/
theorem activate_of_error (hposix : s.windows = false) {w w' : Lib.World Content} {e : Raised}
    (h : (replaceCurrent s layout pluginId version).exec w = (.error e, w'))
    (previousTarget : Option String) :
    (activate s layout pluginId version previousTarget).exec w = (.error e, w') := by
  rw [activate_eq hposix]
  rcases exec_bind_error h with hlook | ⟨present, w₁, hlook, hrest⟩
  · cases hlook
  · obtain ⟨hpresent, rfl⟩ := Lib.Files.look_ok hlook
    split at hrest
    · rename_i hthere
      refine exec_bind_of_error _ ?_
      rw [dropLink, exec_bind_of_ok _ hlook, if_pos hthere]
      exact hrest
    · rename_i hthere
      have hdrop : (dropLink s.env (layout.currentLink pluginId)).exec w₁ = (.ok ⟨⟩, w₁) := by
        rw [dropLink, exec_bind_of_ok _ hlook, if_neg hthere]
        rfl
      rw [exec_bind_of_ok _ hdrop]
      exact exec_bind_of_error _ hrest

/-- When it succeeds, the link has moved however the activation and what follows it end. -/
theorem linkMoved_of_ok (hposix : s.windows = false) {w w' : Lib.World Content} {u : PUnit}
    (h : (replaceCurrent s layout pluginId version).exec w = (.ok u, w'))
    (previousTarget : Option String) {rest : PUnit → Host α}
    (hrest : ∀ u, Keeps (Maintains fun w' => LinkMoved layout pluginId version
      (w.fs.get? (layout.currentLink pluginId)) w'.fs) (rest u)) :
    LinkMoved layout pluginId version (w.fs.get? (layout.currentLink pluginId))
      ((activate s layout pluginId version previousTarget >>= rest).exec w).2.fs := by
  have hmoved := linkMoved_replaceCurrent h
  have hprevious : Keeps (Maintains fun w' => LinkMoved layout pluginId version
      (w.fs.get? (layout.currentLink pluginId)) w'.fs)
      (linkPrevious s layout pluginId previousTarget >>= rest) :=
    .bind (keeps_linkMoved_linkPrevious _) hrest
  rw [activate_eq hposix, bind_assoc, bind_assoc]
  obtain ⟨present, w₁, hlook, hchange⟩ := exec_bind_ok h
  obtain ⟨hpresent, rfl⟩ := Lib.Files.look_ok hlook
  split at hchange
  · rename_i hthere
    have hdrop : (dropLink s.env (layout.currentLink pluginId)).exec w₁ = (.ok u, w') := by
      rw [dropLink, exec_bind_of_ok _ hlook, if_pos hthere]
      exact hchange
    rw [exec_bind_of_ok _ hdrop]
    exact Keeps.bind keeps_linkMoved_symlink (fun _ => hprevious) w' hmoved
  · rename_i hthere
    have hdrop : (dropLink s.env (layout.currentLink pluginId)).exec w₁ = (.ok ⟨⟩, w₁) := by
      rw [dropLink, exec_bind_of_ok _ hlook, if_neg hthere]
      rfl
    rw [exec_bind_of_ok _ hdrop, exec_bind_of_ok _ hchange]
    exact hprevious w' hmoved

end Link

/-! ## The installs -/

section Install

variable {s : Setting} {layout : PluginLayout} {bundle : ValidatedBundle} {activated : Bool}
  {w w' : Lib.World Content}

open Program Lib.Footprint

/-- When the first change fails, `_activate` or the update of the catalog does, and only scratch
has changed. -/
theorem changeActive_of_error (hid : Path.IsName bundle.pluginId) {e : Raised}
    (h : (firstChange s layout bundle activated).exec w = (.error e, w'))
    (previousTarget : Option String) :
    (changeActive s layout bundle activated previousTarget).exec w = (.error e, w') ∧
      (installScratch s layout bundle).Within w.fs w'.fs := by
  have hrecord (hwrite : (writeCatalog s layout bundle.pluginId bundle.manifest
      (installUpdate layout bundle activated)).exec w = (.error e, w')) :
      (recordInstall s layout bundle activated).exec w = (.error e, w') ∧
        (installScratch s layout bundle).Within w.fs w'.fs := by
    rw [recordInstall_eq]
    exact ⟨exec_bind_of_error _ hwrite, writeCatalog_error hid hwrite⟩
  unfold firstChange at h
  unfold changeActive
  cases hactivated : activated with
  | false =>
    rw [hactivated] at h hrecord
    exact hrecord h
  | true =>
    rw [hactivated] at h hrecord
    cases hwindows : s.windows with
    | true =>
      rw [hwindows] at h
      rw [if_pos rfl, activate_of_windows hwindows]
      exact hrecord h
    | false =>
      rw [hwindows] at h
      refine ⟨exec_bind_of_error _ (activate_of_error hwindows h _), ?_⟩
      rw [replaceCurrent_error h]
      exact Footprint.Within.refl _ _

theorem changeActive_of_unlinked (h : ¬ (activated && !s.windows) = true)
    (previousTarget : Option String) :
    changeActive s layout bundle activated previousTarget =
      recordInstall s layout bundle activated := by
  unfold changeActive
  cases hactivated : activated with
  | false => rfl
  | true =>
    have hwindows : s.windows = true := by simpa [hactivated] using h
    rw [if_pos rfl, activate_of_windows hwindows]
    rfl

/-- What the handlers leave alone holds at the end when it holds after `changeActive`. -/
theorem installBundle_of_changed {P : Files → Prop} {u : PUnit} {previousTarget : Option String}
    (hP : ∀ fs fs', (installScratch s layout bundle).Within fs fs' → P fs → P fs')
    (hread : (safeReadlink (layout.currentLink bundle.pluginId)).exec w =
      (.ok previousTarget, w))
    (hprepare : (prepareInstall s layout bundle activated).exec w = (.ok u, w'))
    (hchanged : P ((changeActive s layout bundle activated previousTarget).exec w').2.fs) :
    P ((installBundle s layout bundle activated).exec w).2.fs := by
  obtain ⟨w₀, hbody, hfinish⟩ := installValidated_of_prepare_ok hread hprepare
  cases hrun : (changeActive s layout bundle activated previousTarget).exec w' with
  | mk r w₁ =>
    rw [hrun] at hchanged hfinish
    cases r with
    | ok result =>
      rw [exec_tryCatch_of_ok _ hfinish] at hbody
      rw [installBundle, exec_tryCatch_of_ok _ hbody]
      exact hchanged
    | error e =>
      obtain ⟨e', w₂, hhandled, hwithin⟩ :=
        handled_of_error (@hasScratch_installScratch s layout bundle) hfinish true
      obtain ⟨e₁, w₃, hraised, hrecorded⟩ := installBundle_of_error (hbody.trans hhandled)
      rw [hraised]
      exact hP _ _ (hwithin.trans hrecorded) hchanged

end Install

/-! ## A failure after the first change -/

/-- The catalog is readable, and says `Q`. -/
def CatalogSays (layout : PluginLayout) (pluginId : String) (Q : Fields → Fields → Prop)
    (fs : Files) : Prop :=
  ∃ catalog versions, HasCatalog layout pluginId fs catalog versions ∧ Q catalog versions

section After

variable {s : Setting} {layout : PluginLayout} {pluginId version : String} {windows : Bool}
  {trees files : List Place} {fs fs' : Files}

open Program Lib.Footprint

theorem CatalogSays.congr {Q : Fields → Fields → Prop} (h : CatalogSays layout pluginId Q fs)
    (heq : fs'.get? (layout.pluginCatalogPath pluginId) =
      fs.get? (layout.pluginCatalogPath pluginId)) : CatalogSays layout pluginId Q fs' := by
  obtain ⟨catalog, versions, hcatalog, hQ⟩ := h
  exact ⟨catalog, versions, hcatalog.congr heq, hQ⟩

theorem LinkMoved.congr {before : Option (Node Content)}
    (h : LinkMoved layout pluginId version before fs)
    (heq : fs'.get? (layout.currentLink pluginId) = fs.get? (layout.currentLink pluginId)) :
    LinkMoved layout pluginId version before fs' := by
  unfold LinkMoved
  rwa [heq]

/-- A link that has moved away from the active version breaks the promise. -/
theorem LinkMoved.not_preserved (h : Recorded layout pluginId false fs)
    (hother : activeVersion layout pluginId fs ≠ .str version)
    (hmoved : LinkMoved layout pluginId version (fs.get? (layout.currentLink pluginId)) fs') :
    ¬ Preserved layout pluginId fs fs' := by
  intro hpreserved
  have hlink := hpreserved.links _ List.mem_cons_self
  rcases hmoved with hnew | ⟨hthere, hgone⟩
  · rw [hlink] at hnew
    exact hother ((h.current rfl version).mp hnew)
  · exact hthere (hlink ▸ hgone)

/-- So does a catalog with a new version. -/
theorem not_preserved_of_cataloged (hnew : ¬ Cataloged layout pluginId fs version)
    (h : CatalogSays layout pluginId
      (fun _ versions => (versions.lookup version).isSome = true) fs') :
    ¬ Preserved layout pluginId fs fs' := by
  intro hpreserved
  obtain ⟨catalog, versions, hcatalog, hcataloged⟩ := h
  refine hnew ((hpreserved.versions version).mp ?_)
  unfold Cataloged
  rwa [hcatalog.versions_eq]

/-- And a catalog with a new active version. -/
theorem not_preserved_of_active (hother : activeVersion layout pluginId fs ≠ .str version)
    (h : CatalogSays layout pluginId
      (fun catalog _ => Value.get catalog "active_version" = .str version) fs') :
    ¬ Preserved layout pluginId fs fs' := by
  intro hpreserved
  obtain ⟨catalog, versions, hcatalog, hactive⟩ := h
  refine hother (hpreserved.active.symm.trans ?_)
  rw [hcatalog.active_eq, hactive]

end After

section Install

variable {s : Setting} {layout : PluginLayout} {bundle : ValidatedBundle} {activated : Bool}
  {fs : Files}

open Program Lib.Footprint

/-- After the first change the promise is broken. -/
theorem not_preserved_of_firstChange (hid : IsPluginName bundle.pluginId)
    (hversion : IsVersionName bundle.version) (h : Recorded layout bundle.pluginId s.windows fs)
    (hnew : ¬ Cataloged layout bundle.pluginId fs bundle.version) {w₁ w₂ : Lib.World Content}
    {u₁ u₂ : PUnit}
    (hprepare : (prepareInstall s layout bundle activated).exec ⟨fs, []⟩ = (.ok u₁, w₁))
    (hchange : (firstChange s layout bundle activated).exec w₁ = (.ok u₂, w₂)) :
    ¬ Preserved layout bundle.pluginId fs
      ((installBundle s layout bundle activated).exec ⟨fs, []⟩).2.fs := by
  have htrees := @removable_installScratch s layout bundle hversion
    (fun v => ¬ Cataloged layout bundle.pluginId fs v) hnew
  have hapart {q : Place} (hq : q ∈ records layout bundle.pluginId) :
      (installScratch s layout bundle).Apart q := apart_record hid htrees (fun _ => id) hq
  have hcurrent : layout.currentLink bundle.pluginId ∈ records layout bundle.pluginId :=
    List.mem_cons_of_mem _ List.mem_cons_self
  have hwithin := keeps_of_exec (keeps_prepareInstall hversion.1) hprepare
  obtain ⟨previousTarget, hread⟩ : ∃ previousTarget,
      (safeReadlink (layout.currentLink bundle.pluginId)).exec ⟨fs, []⟩ =
        (.ok previousTarget, ⟨fs, []⟩) := ⟨_, rfl⟩
  have hindex := @keeps_index layout bundle.pluginId
    [layout.versionDir bundle.pluginId bundle.version, stagingDir s layout]
    (failureFiles layout bundle.name) s
  unfold firstChange at hchange
  split at hchange
  · rename_i hlinked
    obtain ⟨rfl, hwindows⟩ : activated = true ∧ s.windows = false := by simpa using hlinked
    rw [hwindows] at h
    have hother : activeVersion layout bundle.pluginId fs ≠ .str bundle.version := by
      intro heq
      rcases h.active with hnull | ⟨v, hv, hcataloged⟩
      · rw [heq] at hnull
        cases hnull
      · rw [heq] at hv
        cases hv
        exact hnew hcataloged
    refine LinkMoved.not_preserved h hother (installBundle_of_changed (fun fs₁ fs₂ hfs hmoved =>
      hmoved.congr (hfs.eq_of_apart (hapart hcurrent))) hread hprepare ?_)
    rw [← hwithin.eq_of_apart (hapart hcurrent)]
    refine linkMoved_of_ok hwindows hchange _ fun _ => ?_
    -- the catalog and the index are somewhere else
    rw [recordInstall_eq]
    refine .bind (keeps_linkMoved fun w => ?_) fun _ => .bind
      (keeps_linkMoved_of_footprint hindex (hapart hcurrent)) fun _ => .pure _
    exact writeCatalog_others hid.1 rfl (pluginDir_ne_catalog hid.1 _) (hapart hcurrent)
  · rename_i hunlinked
    obtain ⟨catalog, versions, hcatalog⟩ := h.catalog
    obtain ⟨catalog', versions', hcatalog', hupdated, hwritten⟩ :=
      @writeCatalog_ok s layout bundle.pluginId _ _
        [layout.versionDir bundle.pluginId bundle.version, stagingDir s layout]
        (failureFiles layout bundle.name) _ _ _ _ hid.1
        (hcatalog.congr (hwithin.eq_of_apart (hapart List.mem_cons_self))) _ hchange
    refine not_preserved_of_cataloged hnew (installBundle_of_changed (fun fs₁ fs₂ hfs hlisted =>
      hlisted.congr (hfs.eq_of_apart (hapart List.mem_cons_self))) hread hprepare ?_)
    have hlisted : CatalogSays layout bundle.pluginId
        (fun _ versions => (versions.lookup bundle.version).isSome = true) w₂.fs :=
      ⟨catalog', versions', hcatalog', (hupdated.cataloged _).mpr (Or.inl rfl)⟩
    rw [changeActive_of_unlinked hunlinked, recordInstall_eq, exec_bind_of_ok _ hchange]
    exact hlisted.congr ((keeps_of_exec (hindex.bind fun _ => .pure _) rfl).eq_of_apart
      (hapart List.mem_cons_self))

/-- **Failed installs.** An install that raises keeps the promise exactly when what it does before
its first change of a link or of the catalog raises. -/
theorem install_preserves_iff (hid : IsPluginName bundle.pluginId)
    (hversion : IsVersionName bundle.version) (h : Recorded layout bundle.pluginId s.windows fs) :
    Preserved layout bundle.pluginId fs
        ((installBundle s layout bundle activated).exec ⟨fs, []⟩).2.fs ↔
      RaisesFrom (installUntilChange s layout bundle activated) fs := by
  unfold installUntilChange
  obtain ⟨previousTarget, hread⟩ : ∃ previousTarget,
      (safeReadlink (layout.currentLink bundle.pluginId)).exec ⟨fs, []⟩ =
        (.ok previousTarget, ⟨fs, []⟩) := ⟨_, rfl⟩
  by_cases hcataloged : Cataloged layout bundle.pluginId fs bundle.version
  · -- the version is refused at once
    obtain ⟨e, hclear⟩ := @clearVersion_of_cataloged s layout bundle ⟨fs, []⟩ _ h hcataloged
    have hbody : (installValidated s layout bundle activated).exec ⟨fs, []⟩ =
        (.error e, ⟨fs, []⟩) := by
      rw [installValidated, exec_bind_of_ok _ hread]
      exact exec_bind_of_error _ hclear
    obtain ⟨e₁, w₁, hraised, hwithin⟩ :=
      @installBundle_of_error s layout bundle activated _ _ [] e hbody
    rw [hraised]
    exact iff_of_true (preserved_of_within hid h (List.forall_mem_nil _) (fun _ => id) hwithin)
      ⟨e, _, exec_bind_of_error _ (exec_bind_of_error _ hclear)⟩
  · have htrees := @removable_installScratch s layout bundle hversion
      (fun v => ¬ Cataloged layout bundle.pluginId fs v) hcataloged
    cases hprepare : (prepareInstall s layout bundle activated).exec ⟨fs, []⟩ with
    | mk r w₁ =>
      cases r with
      | error e =>
        obtain ⟨e₁, w₂, hraised, hwithin⟩ := installBundle_of_prepare_error hversion.1 hprepare
        rw [hraised]
        exact iff_of_true (preserved_of_within hid h htrees (fun _ => id) hwithin)
          ⟨e, w₁, exec_bind_of_error _ hprepare⟩
      | ok u =>
        cases hchange : (firstChange s layout bundle activated).exec w₁ with
        | mk r w₂ =>
          cases r with
          | error e =>
            have hprepared := keeps_of_exec (keeps_prepareInstall hversion.1) hprepare
            have hwithin := @installBundle_of_changed s layout bundle activated _ _
              ((installScratch s layout bundle).Within fs) _ previousTarget
              (fun _ _ hfs hP => hP.trans hfs) hread hprepare (by
                obtain ⟨hrun, hchanged⟩ := changeActive_of_error hid.1 hchange previousTarget
                rw [hrun]
                exact hprepared.trans hchanged)
            exact iff_of_true (preserved_of_within hid h htrees (fun _ => id) hwithin)
              ⟨e, w₂, (exec_bind_of_ok _ hprepare).trans hchange⟩
          | ok u' =>
            refine iff_of_false (not_preserved_of_firstChange hid hversion h hcataloged hprepare
              hchange) ?_
            rintro ⟨e, w, hraises⟩
            rw [exec_bind_of_ok _ hprepare, hchange] at hraises
            cases hraises

end Install

/-! ## The activations -/

section Activation

variable {s : Setting} {layout : PluginLayout} {repr : Value → String} {pluginId version : String}
  {payload : Value} {isActive : Bool} {trees files : List Place} {w w' : Lib.World Content}

open Program Lib.Footprint

/-- After `_activate` an activation leaves the link alone. -/
theorem keeps_linkMoved_finishActivation (hid : IsPluginName pluginId) {manifest : Value}
    (hown : ∀ fields, manifest = .obj fields →
      ∀ v, fields.lookup "plugin_id" = some v → v = .str pluginId)
    {before : Option (Node Content)} :
    Keeps (Maintains fun w => LinkMoved layout pluginId version before w.fs)
      (finishActivation s layout repr pluginId version payload manifest) := by
  have hapart : (scratch layout pluginId [] []).Apart (layout.currentLink pluginId) :=
    apart_record_nil hid (List.mem_cons_of_mem _ List.mem_cons_self)
  refine .bind (keeps_linkMoved fun w => ?_) fun _ =>
    .bind (keeps_linkMoved_of_footprint (keeps_index s) hapart) fun _ => .pure _
  exact recordActivation_others hown rfl hid.1 (pluginDir_ne_catalog hid.1 _) hapart

/-- **Failed activations.** An activation that raises keeps the promise exactly when what it does
before its first change of a link or of the catalog raises. -/
theorem activation_preserves_iff {fs : Files} (hid : IsPluginName pluginId)
    (h : Consistent layout pluginId s.windows fs) {e : Raised}
    (hrun : (activateVersion s layout repr pluginId version).exec ⟨fs, []⟩ = (.error e, w')) :
    Preserved layout pluginId fs w'.fs ↔
      RaisesFrom (activationUntilChange s layout repr pluginId version) fs := by
  have hrecorded := h.toRecorded
  have hkept {fs' : Files} (hwithin : (scratch layout pluginId [] []).Within fs fs') :
      Preserved layout pluginId fs fs' :=
    @preserved_of_within layout pluginId _ fs fs' [] [] hid hrecorded (List.forall_mem_nil _) ""
      (List.forall_mem_nil _) hwithin
  unfold activationUntilChange
  rw [activateVersion_eq] at hrun
  rcases exec_bind_error hrun with hfind | ⟨found, w₁, hfind, hrest⟩
  · exact iff_of_true (hkept (keeps_of_exec keeps_findInstalled hfind))
      ⟨e, w', exec_bind_of_error _ hfind⟩
  obtain ⟨payload, isActive⟩ := found
  obtain ⟨rfl, hcataloged, hinactive⟩ := findInstalled_ok h.catalog hfind
  dsimp only at hrest
  split at hrest
  · cases hrest
  rename_i hactive
  have hother := hinactive (Bool.eq_false_iff.mpr hactive)
  rw [RaisesFrom, exec_bind_of_ok _ hfind]
  dsimp only
  rw [if_neg hactive]
  rcases exec_bind_error hrest with hread | ⟨found, w₂, hread, hchange⟩
  · exact iff_of_true (hkept (keeps_of_exec (keeps_read _) hread))
      ⟨e, w', exec_bind_of_error _ hread⟩
  obtain ⟨hfound, rfl⟩ := Lib.Files.read_ok hread
  have hown := own_manifest (h.manifests version hcataloged) hfound
  obtain ⟨previousTarget, hlink⟩ : ∃ previousTarget,
      (safeReadlink (layout.currentLink pluginId)).exec ⟨fs, []⟩ =
        (.ok previousTarget, ⟨fs, []⟩) := ⟨_, rfl⟩
  rw [exec_bind_of_ok _ hlink] at hchange
  rw [exec_bind_of_ok _ hread]
  cases hwindows : s.windows with
  | false =>
    rw [hwindows] at hrecorded
    cases hreplace : (replaceCurrent s layout pluginId version).exec ⟨fs, []⟩ with
    | mk r w₃ =>
      cases r with
      | error e' =>
        rw [exec_bind_of_error _ (activate_of_error hwindows hreplace _)] at hchange
        cases hchange
        refine iff_of_true (hkept ?_) ⟨e, w', hreplace⟩
        rw [replaceCurrent_error hreplace]
        exact Footprint.Within.refl _ _
      | ok u =>
        have hmoved := linkMoved_of_ok hwindows hreplace previousTarget fun _ =>
          @keeps_linkMoved_finishActivation s layout repr pluginId version payload hid _ hown _
        rw [hchange] at hmoved
        refine iff_of_false (hmoved.not_preserved hrecorded hother) ?_
        rintro ⟨e', w, hraises⟩
        rw [if_pos (by rfl), hreplace] at hraises
        cases hraises
  | true =>
    have hskip : (activate s layout pluginId version previousTarget).exec ⟨fs, []⟩ =
        (.ok ⟨⟩, ⟨fs, []⟩) := by
      rw [activate_of_windows hwindows]
      rfl
    rw [exec_bind_of_ok _ hskip, finishActivation] at hchange
    cases hrecord : (recordActivation s layout repr pluginId version payload
      ((found.getD (.obj [])).orElse (.obj []))).exec ⟨fs, []⟩ with
    | mk r w₃ =>
      cases r with
      | error e' =>
        rw [exec_bind_of_error _ hrecord] at hchange
        cases hchange
        exact iff_of_true (hkept (recordActivation_error hown hrecord hid.1)) ⟨e, w', hrecord⟩
      | ok u =>
        obtain ⟨catalog, versions, hcatalog⟩ := h.catalog
        obtain ⟨update, catalog', versions', rfl, hupdate, hcatalog', hupdated⟩ :=
          recordActivation_ok hown hrecord hid.1 hcatalog
        have hlisted : CatalogSays layout pluginId
            (fun catalog _ => Value.get catalog "active_version" = .str update.version) w₃.fs :=
          ⟨catalog', versions', hcatalog', hupdated.active.trans (by rw [hupdate, if_pos rfl])⟩
        rw [exec_bind_of_ok _ hrecord] at hchange
        have hindex : Keeps (scratch layout pluginId [] []).Always
            (updatePluginsIndex s layout >>= fun _ =>
              pure ⟨pluginId, update.version, true⟩ : Host PluginActivationResult) :=
          .bind (keeps_index s) fun _ => .pure _
        refine iff_of_false (not_preserved_of_active hother (hlisted.congr
          ((keeps_of_exec hindex hchange).eq_of_apart
            (apart_record_nil hid List.mem_cons_self)))) ?_
        rintro ⟨e', w, hraises⟩
        rw [if_neg (by simp), hrecord] at hraises
        cases hraises

end Activation

/-- **Failed operations.** From a plugin root that agrees with its catalog, an install or an
activation that raises keeps the promise exactly when what it does before its first change of a
link or of the catalog raises. -/
theorem failure_preserves_iff (s : Setting) (layout : PluginLayout) (repr : Value → String)
    (pluginId : String) (fs : Files) (hid : IsPluginName pluginId)
    (h : Consistent layout pluginId s.windows fs) :
    (∀ bundle activated, bundle.pluginId = pluginId → IsVersionName bundle.version →
      RaisesFrom (installBundle s layout bundle activated) fs →
        (Preserved layout pluginId fs
            ((installBundle s layout bundle activated).exec ⟨fs, []⟩).2.fs ↔
          RaisesFrom (installUntilChange s layout bundle activated) fs)) ∧
    ∀ version, RaisesFrom (activateVersion s layout repr pluginId version) fs →
      (Preserved layout pluginId fs
          ((activateVersion s layout repr pluginId version).exec ⟨fs, []⟩).2.fs ↔
        RaisesFrom (activationUntilChange s layout repr pluginId version) fs) := by
  refine ⟨?_, ?_⟩
  · rintro bundle activated rfl hversion -
    exact install_preserves_iff hid hversion h.toRecorded
  · rintro version ⟨e, w, hrun⟩
    rw [hrun]
    exact activation_preserves_iff hid h hrun

/-! ## A link that cannot be made again -/

namespace TwoVersions

/-- What the catalog has of one version. -/
def payload (version : String) (active : Bool) : Value :=
  .obj [("version", .str version), ("state", .str "installed"), ("active", .bool active),
    ("runtime_path", .str s!"/data/installed/imu/{version}/runtime/.venv")]

def versions : Fields := [("1.0", payload "1.0" true), ("2.0", payload "2.0" false)]

def catalog : Fields :=
  [("versions", .obj versions), ("plugin_id", .str "imu"), ("active_version", .str "1.0")]

/-- Two versions are installed, and the first one is active. -/
def files : Files :=
  [(["data", "installed", "imu", "1.0"], .dir), (["data", "installed", "imu", "2.0"], .dir),
    (["data", "installed", "imu", "1.0", "manifest.json"],
      .file (.json (.obj (manifestOf "imu" "1.0")))),
    (["data", "installed", "imu", "2.0", "manifest.json"],
      .file (.json (.obj (manifestOf "imu" "2.0")))),
    (["data", "installed", "imu", "current"], .link "1.0"),
    (["data", "installed", "imu"], .dir), (["data", "installed"], .dir),
    (["data", "catalog"], .dir), (["data", "cache"], .dir),
    (["data", "catalog", "imu.json"], .file (.json (.obj catalog)))].foldl
      (fun fs node => fs.set node.1 node.2) Dict.empty

/-- The second operation fails: the new link cannot be made. -/
def noSymlink : Setting :=
  { working with
    env := ⟨fun n => if n = 1 then some { text := "No space left on device" } else none⟩ }

theorem hasCatalog : HasCatalog dataLayout "imu" files catalog versions :=
  ⟨Or.inr rfl, rfl⟩

theorem cataloged_iff {v : String} :
    Cataloged dataLayout "imu" files v ↔ v = "1.0" ∨ v = "2.0" := by
  unfold Cataloged
  rw [hasCatalog.versions_eq]
  by_cases h1 : v = "1.0"
  · simp [versions, h1]
  · by_cases h2 : v = "2.0"
    · simp [versions, List.lookup_cons, h2]
    · simp [versions, List.lookup_cons, beq_false_of_ne h1, beq_false_of_ne h2, h1, h2]

theorem active : activeVersion dataLayout "imu" files = .str "1.0" := hasCatalog.active_eq

theorem consistent : Consistent dataLayout "imu" false files where
  catalog := ⟨_, _, hasCatalog⟩
  installed v hv := by
    rcases cataloged_iff.mp hv with rfl | rfl
    · exact ⟨by decide, rfl⟩
    · exact ⟨by decide, rfl⟩
  active := Or.inr ⟨"1.0", active, cataloged_iff.mpr (Or.inl rfl)⟩
  current _ v := by
    have hlink : files.get? (dataLayout.currentLink "imu") = some (.link "1.0") := rfl
    rw [hlink, active]
    simp
  links link hlink := by
    simp only [List.mem_cons, List.not_mem_nil, or_false] at hlink
    rcases hlink with rfl | rfl
    · exact Or.inr ⟨"1.0", cataloged_iff.mpr (Or.inl rfl), rfl⟩
    · exact Or.inl rfl
  manifests v hv manifest hread := by
    rcases cataloged_iff.mp hv with rfl | rfl
    · cases hread
      rfl
    · cases hread
      rfl

/-- The old link is gone, the new one cannot be made, and the version that is active in the
catalog has no link any more. -/
theorem activation_loses_link :
    Consistent dataLayout "imu" noSymlink.windows files ∧
      RaisesFrom (activateVersion noSymlink dataLayout (fun _ => "") "imu" "2.0") files ∧
      ¬ Preserved dataLayout "imu" files
        ((activateVersion noSymlink dataLayout (fun _ => "") "imu" "2.0").exec
          ⟨files, []⟩).2.fs := by
  refine ⟨consistent, ⟨_, _, rfl⟩, fun hpreserved => ?_⟩
  have hlink := hpreserved.links _ List.mem_cons_self
  have hthere : (files.get? (dataLayout.currentLink "imu")).isSome = true := rfl
  rw [← hlink] at hthere
  revert hthere
  decide

/-- The same call, and an install whose extraction fails. -/
theorem failure_preserves_noSymlink :
    (Preserved dataLayout "imu" files
        ((installBundle broken dataLayout (bundleOf "imu" "3.0") true).exec ⟨files, []⟩).2.fs ↔
      RaisesFrom (installUntilChange broken dataLayout (bundleOf "imu" "3.0") true) files) ∧
    (Preserved dataLayout "imu" files
        ((activateVersion noSymlink dataLayout (fun _ => "") "imu" "2.0").exec ⟨files, []⟩).2.fs ↔
      RaisesFrom (activationUntilChange noSymlink dataLayout (fun _ => "") "imu" "2.0") files) :=
  ⟨(failure_preserves_iff broken dataLayout (fun _ => "") "imu" files (by decide) consistent).1
      (bundleOf "imu" "3.0") true rfl (by decide) ⟨_, _, rfl⟩,
    (failure_preserves_iff noSymlink dataLayout (fun _ => "") "imu" files (by decide) consistent).2
      "2.0" ⟨_, _, rfl⟩⟩

end TwoVersions

end NexusN3.Plugins
