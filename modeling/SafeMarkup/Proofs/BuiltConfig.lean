import SafeMarkup.Proofs.NearestTable
import SafeMarkup.Proofs.Results

/-!
# Configurations that are built

A configuration is built from the nearest table and from overrides, and is checked at the very end.
So what is wrong in a table does no harm where an override replaces it, but a table that is no
mapping, or that has keys which are no settings, is never made good.

* `entriesOf`, `IsSettingsTable` — what the nearest table says, and whether it may say it.
* `LoadResult.isSettingsTable`, `LoadResult.not_isSettingsTable` — loading fails for a wrong table,
  and for nothing else.
* `exists_buildConfig` — building is checking the settings that come of table and overrides.
* `check_of_buildConfig` — a configuration that is built is accepted again.
* **`buildConfig_eq_ok_iff_isUsable`** — which configuration is built, and when.
-/

namespace SafeMarkup

/-- The entries of the nearest table, if there is one and it is a mapping. -/
def entriesOf : Option (Location × TomlPath × Toml) → TomlTable
  | some (_, _, .table entries) => entries
  | _ => []

/-- The nearest table is a mapping, and all its keys are settings; or there is no table. -/
inductive IsSettingsTable : Option (Location × TomlPath × Toml) → Prop
  | none : IsSettingsTable none
  | some {file : Location} {path : TomlPath} {entries : TomlTable} (h : NamesSettings entries) :
      IsSettingsTable (some (file, path, .table entries))

section

variable {tree : FileTree} {cwd directory : Location} {path : String} {loaded : Settings}
  {overrides : List (String × Value)} {entries : TomlTable} {config : Config} {e : SettingsError}
  {nearest : Option (Location × TomlPath × Toml)}

namespace LoadResult

/-- The settings that are loaded are those of a table that may say them. -/
lemma isSettingsTable (h : LoadResult nearest (.ok loaded)) : IsSettingsTable nearest ∧
    ∀ name, SettingOf [] (entriesOf nearest) name (loaded.get name) := by
  cases h with
  | default =>
      refine ⟨.none, fun name => ?_⟩
      have hdefault : SettingOf [] [] name _ :=
        .default (fun _ h => absurd h List.not_mem_nil) fun _ => List.not_mem_nil
      cases name <;> exact hdefault
  | settings hknown hsettings => exact ⟨.some hknown, hsettings⟩

/-- Where nothing is loaded, the table is wrong. -/
lemma not_isSettingsTable (h : LoadResult nearest (.error e)) : ¬ IsSettingsTable nearest := by
  cases h with
  | notATable hnone =>
      rintro ⟨⟩
      exact hnone _ rfl
  | unsupported hne _ hkeys =>
      rintro ⟨⟩
      next hknown =>
      obtain ⟨key, hkey⟩ := List.exists_mem_of_ne_nil _ hne
      obtain ⟨hmem, hno⟩ := (hkeys key).mp hkey
      obtain ⟨entry, hentry, rfl⟩ := List.mem_map.mp hmem
      obtain ⟨name, hname⟩ := hknown entry hentry
      exact hno name hname

end LoadResult

/-- Each setting has a value, whatever else a table says. -/
lemma exists_settingOf (overrides : List (String × Value)) (entries : TomlTable) :
    ∃ merged : Settings, ∀ name, SettingOf overrides entries name (merged.get name) := by
  have hvalue : ∀ name, ∃ v, SettingOf overrides entries name v := by
    intro name
    by_cases hgiven : ∃ v, (name.key, v) ∈ overrides ∧ v ≠ .null
    · obtain ⟨v, hmem, hv⟩ := hgiven
      exact ⟨_, .override hmem hv⟩
    have hnone : ∀ v, (name.key, v) ∈ overrides → v = .null :=
      fun v hmem => by_contra fun hv => hgiven ⟨v, hmem, hv⟩
    by_cases hentry : ∃ raw, (name.key, raw) ∈ entries
    · obtain ⟨raw, hmem⟩ := hentry
      exact ⟨_, .table hnone hmem⟩
    · exact ⟨_, .default hnone fun raw hmem => hentry ⟨raw, hmem⟩⟩
  choose value hvalue using hvalue
  refine ⟨⟨value .markupSeparator, value .attributeSeparator, value .nestedGroups⟩, fun name => ?_⟩
  cases name <;> exact hvalue _

/-- A configuration that is built is accepted again, and is left as it is. -/
lemma check_of_buildConfig (h : buildConfig tree cwd path overrides = .ok config) :
    config.toSettings.check = .ok config := by
  obtain ⟨_, -, h⟩ := exists_of_bind_eq_ok h
  obtain ⟨loaded, -, h⟩ := exists_of_bind_eq_ok h
  obtain ⟨settings, -, hchecked⟩ := exists_of_bind_eq_ok h
  exact Settings.check_toSettings (mapError_eq_ok_iff.mp hchecked)

/-- **Building is checking** what comes of the nearest table and the overrides, unless the table is
wrong. -/
lemma exists_buildConfig (hpath : checkPath path = .ok path)
    (hread : ∀ place ∈ candidates (cwd.resolve path), tree.Readable place.location)
    (hnames : NamesSettings overrides) (hkeys : (overrides.map Prod.fst).Nodup) :
    ∃ tried nearest merged, NearestTable tree (cwd.resolve path) tried nearest ∧
      (∀ name, SettingOf overrides (entriesOf nearest) name (merged.get name)) ∧
      ((¬ IsSettingsTable nearest ∧
          ∃ e, buildConfig tree cwd path overrides = .error (.settings e)) ∨
        (IsSettingsTable nearest ∧ ∃ settings : Settings, settings.normalize = merged ∧
          buildConfig tree cwd path overrides = settings.check.mapError .settings)) := by
  obtain ⟨tried, nearest, hnearest⟩ := exists_nearestTable tree (cwd.resolve path)
  obtain ⟨result, hresult, hload⟩ := loadFrom_of_nearestTable hnearest
    fun place hplace => hread place (hnearest.mem_candidates hplace)
  have hbuild : buildConfig tree cwd path overrides = (do
      let loaded ← result.mapError .settings
      let settings ← (loaded.override overrides).mapError .override
      settings.check.mapError .settings) := by
    rw [buildConfig, Settings.refuse_eq_ok hnames, loadSettings_eq hpath, hload tree fun _ _ => rfl]
    rfl
  cases result with
  | error e =>
      obtain ⟨merged, hmerged⟩ := exists_settingOf overrides (entriesOf nearest)
      exact ⟨tried, nearest, merged, hnearest, hmerged,
        Or.inl ⟨hresult.not_isSettingsTable, e, hbuild⟩⟩
  | ok loaded =>
      obtain ⟨htable, hloaded⟩ := hresult.isSettingsTable
      obtain ⟨settings, hoverride, hmerged⟩ := Settings.settingOf_override hnames hkeys hloaded
      refine ⟨tried, nearest, settings.normalize, hnearest, hmerged,
        Or.inr ⟨htable, settings, rfl, ?_⟩⟩
      rw [hbuild]
      simp only [Except.mapError, bind, Except.bind, hoverride]

/-- **What is built, and when.**  Where the files that may decide can be read, and overrides are
given for settings, none of them twice, building returns the configuration that has for each setting
the override if there is one, else the value of the nearest table, else the default.  It fails, with
an error of settings, exactly if the nearest table is no mapping or has a key that is no setting, or
if rendering cannot work with these values.  A builder takes what is built as it is. -/
theorem buildConfig_eq_ok_iff_isUsable (hpath : checkPath path = .ok path)
    (hread : ∀ place ∈ candidates (cwd.resolve path), tree.Readable place.location)
    (hnames : NamesSettings overrides) (hkeys : (overrides.map Prod.fst).Nodup) :
    ∃ tried nearest merged, NearestTable tree (cwd.resolve path) tried nearest ∧
      (∀ name, SettingOf overrides (entriesOf nearest) name (merged.get name)) ∧
      (∀ config, buildConfig tree cwd path overrides = .ok config ↔
        IsSettingsTable nearest ∧ merged.IsUsable ∧ config.toSettings = merged) ∧
      (∀ e, buildConfig tree cwd path overrides = .error e → ∃ s, e = .settings s) ∧
      ((∃ e, buildConfig tree cwd path overrides = .error e) ↔
        ¬ IsSettingsTable nearest ∨ ¬ merged.IsUsable) ∧
      ∀ config, buildConfig tree cwd path overrides = .ok config →
        startWith config.toSettings = .ok (.start config) := by
  obtain ⟨tried, nearest, merged, hnearest, hmerged, hbuild⟩ :=
    exists_buildConfig hpath hread hnames hkeys
  have hok : ∀ config, buildConfig tree cwd path overrides = .ok config ↔
      IsSettingsTable nearest ∧ merged.IsUsable ∧ config.toSettings = merged := by
    intro config
    obtain ⟨hwrong, e, herror⟩ | ⟨htable, settings, hsettings, hcheck⟩ := hbuild
    · rw [herror]
      exact iff_of_false (by simp) fun h => hwrong h.1
    · rw [hcheck, mapError_eq_ok_iff, Settings.check_eq_ok_iff_isUsable hsettings]
      exact (and_iff_right htable).symm
  refine ⟨tried, nearest, merged, hnearest, hmerged, hok, fun e he => ?_, ?_, fun config h => ?_⟩
  · obtain ⟨-, s, herror⟩ | ⟨-, settings, -, hcheck⟩ := hbuild
    · exact ⟨s, Except.error.inj (he.symm.trans herror)⟩
    · exact exists_of_mapError_eq_error (hcheck.symm.trans he)
  · rw [exists_eq_error_iff, ← not_and_or, not_iff_not]
    constructor
    · rintro ⟨config, hconfig⟩
      obtain ⟨htable, husable, -⟩ := (hok config).mp hconfig
      exact ⟨htable, husable⟩
    · rintro ⟨htable, husable⟩
      obtain ⟨config, hconfig⟩ := husable.exists_config
      exact ⟨config, (hok config).mpr ⟨htable, husable, hconfig⟩⟩
  · exact startWith_of_check (check_of_buildConfig h)

end

/-- A table with a separator that is no text. -/
def mistypedFile : FileTree :=
  FileTree.empty.add ["pyproject.toml"] (.file (asciiBytes
    "[tool.hypertext-literal]\nmarkup_separator = 3\nnested_attribute_groups = ['hx', 'on']"))

/-- A separator in its place, and no change of the other one. -/
def replacedSeparator : List (String × Value) :=
  [("markup_separator", .str "|"), ("attribute_separator", .null)]

/-- What is wrong in a table does no harm if it is replaced. -/
theorem buildConfig_of_replacedSeparator :
    (∀ place ∈ candidates (Location.resolve [] "."), mistypedFile.Readable place.location) ∧
    NamesSettings replacedSeparator ∧ (replacedSeparator.map Prod.fst).Nodup ∧
    (buildConfig mistypedFile [] "." []).toOption = none ∧
    ∃ config, buildConfig mistypedFile [] "." replacedSeparator = .ok config ∧
      config = ⟨"|", " ", ["hx", "on"]⟩ ∧ startWith config.toSettings = .ok (.start config) := by
  have hread : ∀ place ∈ candidates (Location.resolve [] "."),
      mistypedFile.Readable place.location := by decide +kernel
  have hnames : NamesSettings replacedSeparator := by
    simp only [replacedSeparator, NamesSettings, List.forall_mem_cons]
    exact ⟨⟨.markupSeparator, rfl⟩, ⟨.attributeSeparator, rfl⟩, by simp⟩
  have hkeys : (replacedSeparator.map Prod.fst).Nodup := by decide
  have hbuilt : (buildConfig mistypedFile [] "." replacedSeparator).toOption
      = some ⟨"|", " ", ["hx", "on"]⟩ := by decide +kernel
  obtain ⟨tried, nearest, merged, -, -, -, -, -, hstart⟩ :=
    buildConfig_eq_ok_iff_isUsable (by decide +kernel) hread hnames hkeys
  refine ⟨hread, hnames, hkeys, by decide +kernel, ?_⟩
  cases hbuild : buildConfig mistypedFile [] "." replacedSeparator with
  | error e => exact absurd hbuilt (by simp [hbuild, Except.toOption])
  | ok config =>
      rw [hbuild] at hbuilt
      exact ⟨config, rfl, Option.some.inj hbuilt, hstart config hbuild⟩

end SafeMarkup
