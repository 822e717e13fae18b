import Mathlib.Data.List.Nodup
import SafeMarkup.Proofs.Results
import SafeMarkup.Config.Load
import SafeMarkup.Document

/-!
# The value of a setting

Settings are replaced one after the other, those of a table in the defaults, and overrides in what
comes out.  As no key is given twice, each setting has the value that the overrides give it, else
the one that the table gives it, else its default.  The check at the end accepts the settings that
rendering can work with, and leaves them as they are.

* `Settings.get` — a setting by its name; `Settings.get_foldl` is about replacing settings by name.
* `SettingOf` — the value that overrides and a table give a setting.
* `Settings.settingOf_enter`, `Settings.settingOf_override` — the settings of a table, and those
  behind overrides, are these values.
* `Settings.IsUsable` — the settings that rendering can work with.
* `Settings.check_eq_ok_iff_isUsable` — the check accepts just these.
-/

namespace SafeMarkup

namespace SettingName

@[simp] lemma ofKey?_key (name : SettingName) : ofKey? name.key = some name := by
  cases name <;> decide

lemma key_injective {name other : SettingName} (h : name.key = other.key) : name = other := by
  rw [← Option.some.injEq, ← ofKey?_key name, h, ofKey?_key]

lemma ofKey?_eq_some_iff {key : String} {name : SettingName} :
    ofKey? key = some name ↔ key = name.key := by
  constructor
  · intro h
    unfold ofKey? at h
    split_ifs at h with hmarkup hattribute hgroups
    · rwa [← Option.some.inj h]
    · rwa [← Option.some.inj h]
    · rwa [← Option.some.inj h]
  · rintro rfl
    exact ofKey?_key name

/-- A value as a setting takes it: the groups may be given as a list, which counts as a tuple. -/
def take : SettingName → Value → Value
  | nestedGroups, .list groups => .tuple groups
  | _, v => v

@[simp] lemma take_take (name : SettingName) (v : Value) :
    name.take (name.take v) = name.take v := by
  cases name <;> cases v <;> rfl

end SettingName

/-- The value of a setting: the one of an override that is not null, else the one of a table, else
the default. -/
inductive SettingOf (overrides : List (String × Value)) (entries : TomlTable)
    (name : SettingName) : Value → Prop
  | override {v : Value} (hmem : (name.key, v) ∈ overrides) (hv : v ≠ .null) :
      SettingOf overrides entries name (name.take v)
  | table {raw : Toml} (hnone : ∀ v, (name.key, v) ∈ overrides → v = .null)
      (hmem : (name.key, raw) ∈ entries) :
      SettingOf overrides entries name (name.take raw.toValue)
  | default (hnone : ∀ v, (name.key, v) ∈ overrides → v = .null)
      (habsent : ∀ raw, (name.key, raw) ∉ entries) :
      SettingOf overrides entries name
        (match name with
        | .markupSeparator => .str "\n"
        | .attributeSeparator => .str " "
        | .nestedGroups => .tuple [.str "aria", .str "data"])

/-- The keys of pairs are settings. -/
def NamesSettings {α : Type} (pairs : List (String × α)) : Prop :=
  ∀ pair ∈ pairs, ∃ name : SettingName, pair.1 = name.key

namespace Settings

variable {s merged : Settings} {name other : SettingName} {v : Value} {config : Config}

/-- A setting by its name. -/
def get (s : Settings) : SettingName → Value
  | .markupSeparator => s.markupSeparator
  | .attributeSeparator => s.attributeSeparator
  | .nestedGroups => s.nestedGroups

lemma get_set (s : Settings) (name other : SettingName) (v : Value) :
    (s.set name v).get other = if other = name then v else s.get other := by
  cases name <;> cases other <;> rfl

lemma eq_of_get_eq {s t : Settings} (h : ∀ name, s.get name = t.get name) : s = t := by
  obtain ⟨markup, attributes, groups⟩ := s
  obtain ⟨markup', attributes', groups'⟩ := t
  obtain rfl : markup = markup' := h .markupSeparator
  obtain rfl : attributes = attributes' := h .attributeSeparator
  obtain rfl : groups = groups' := h .nestedGroups
  rfl

/-- Normalizing is taking each setting as it is meant. -/
lemma get_normalize (s : Settings) (name : SettingName) :
    s.normalize.get name = name.take (s.get name) := by
  obtain ⟨markup, attributes, groups⟩ := s
  cases name <;> cases groups <;> rfl

/-! ## Replacing settings by name -/

section

variable {α : Type} {key : α → String} {value : α → Value} {replace : Settings → α → Settings}

/-- **Settings that are replaced one after the other.**  If no key stands twice, a setting that is
named gets the value that it is given, and all others stay. -/
lemma get_foldl (hreplace : ∀ s a name, key a = SettingName.key name →
      replace s a = s.set name (value a)) (name : SettingName) :
    ∀ {pairs : List α} (s : Settings),
      (∀ a ∈ pairs, ∃ name : SettingName, key a = name.key) → (pairs.map key).Nodup →
      (∀ a ∈ pairs, key a = name.key → (pairs.foldl replace s).get name = value a) ∧
      ((∀ a ∈ pairs, key a ≠ name.key) → (pairs.foldl replace s).get name = s.get name)
  | [], s, _, _ => ⟨fun a ha => absurd ha List.not_mem_nil, fun _ => rfl⟩
  | a :: pairs, s, hknown, hnodup => by
      rw [List.map_cons, List.nodup_cons] at hnodup
      obtain ⟨hkey, hknown⟩ := List.forall_mem_cons.mp hknown
      obtain ⟨first, hfirst⟩ := hkey
      obtain ⟨hnamed, hothers⟩ := get_foldl hreplace name (replace s a) hknown hnodup.2
      have hset : (replace s a).get name = if name = first then value a else s.get name := by
        rw [hreplace s a first hfirst, get_set]
      rw [List.foldl_cons]
      refine ⟨fun b hb hname => ?_, fun hnone => ?_⟩
      · rcases List.mem_cons.mp hb with rfl | hb
        · -- no pair behind the first one has its key
          have hbehind : ∀ a ∈ pairs, key a ≠ name.key := by
            intro a ha heq
            exact hnodup.1 (hname.trans heq.symm ▸ List.mem_map_of_mem ha)
          rw [hothers hbehind, hset, if_pos (SettingName.key_injective (hname.symm.trans hfirst))]
        · exact hnamed b hb hname
      · obtain ⟨hne, hbehind⟩ := List.forall_mem_cons.mp hnone
        have hother : name ≠ first := by
          rintro rfl
          exact hne hfirst
        rw [hothers hbehind, hset, if_neg hother]

end

lemma enter_of_key (s : Settings) {entry : String × Toml} (h : entry.1 = name.key) :
    s.enter entry = s.set name entry.2.toValue := by
  rw [enter, h, SettingName.ofKey?_key]

/-- **The settings of a table.** -/
lemma settingOf_enter {entries : TomlTable} (hknown : NamesSettings entries)
    (hkeys : (entries.map Prod.fst).Nodup) (name : SettingName) :
    SettingOf [] entries name ((entries.foldl enter default).normalize.get name) := by
  obtain ⟨hnamed, hothers⟩ := get_foldl (fun s _ _ => enter_of_key s) name default hknown hkeys
  rw [get_normalize]
  by_cases hmem : ∃ raw, (name.key, raw) ∈ entries
  · obtain ⟨raw, hmem⟩ := hmem
    rw [hnamed _ hmem rfl]
    exact .table (by simp) hmem
  · have habsent : ∀ raw, (name.key, raw) ∉ entries := fun raw h => hmem ⟨raw, h⟩
    rw [hothers fun entry hentry heq => habsent entry.2 (heq ▸ hentry)]
    have hdefault := SettingOf.default (fun v h => absurd h List.not_mem_nil) habsent
    cases name <;> exact hdefault

/-- Replaces the setting that an override names. -/
def replace (s : Settings) (o : String × Value) : Settings :=
  match SettingName.ofKey? o.1 with
  | some name => s.set name o.2
  | none => s

lemma replaceAll_eq : ∀ {overrides : List (String × Value)} (s : Settings),
    NamesSettings overrides → s.replaceAll overrides = .ok (overrides.foldl replace s)
  | [], _, _ => rfl
  | o :: overrides, s, hknown => by
      obtain ⟨⟨name, hname⟩, hknown⟩ := List.forall_mem_cons.mp hknown
      have hfirst : s.replace o = s.set name o.2 := by rw [replace, hname, SettingName.ofKey?_key]
      rw [replaceAll, hname, SettingName.ofKey?_key, List.foldl_cons, hfirst]
      exact replaceAll_eq _ hknown

lemma mem_effective_iff {overrides : List (String × Value)} {o : String × Value} :
    o ∈ effective overrides ↔ o ∈ overrides ∧ o.2 ≠ .null := by
  rw [effective, List.mem_filter]
  obtain ⟨key, v⟩ := o
  cases v <;> simp

/-- No setting has the name of something else. -/
lemma refuse_eq_ok {overrides : List (String × Value)} (hknown : NamesSettings overrides)
    (reserved : ReservedName) : refuse reserved overrides = .ok () := by
  have hnone : ∀ name : SettingName, name.key ≠ reserved.key := by
    intro name
    cases name <;> cases reserved <;> decide
  rw [refuse, if_neg]
  simp only [List.any_eq_true, decide_eq_true_eq, not_exists, not_and]
  intro o ho heq
  obtain ⟨name, hname⟩ := hknown o ho
  exact hnone name (hname.symm.trans heq)

/-- **Settings behind overrides.**  Where the settings in front are those of a table, the ones
behind are those of the table and the overrides. -/
lemma settingOf_override {overrides : List (String × Value)} {entries : TomlTable}
    (hknown : NamesSettings overrides) (hkeys : (overrides.map Prod.fst).Nodup)
    (hloaded : ∀ name, SettingOf [] entries name (s.get name)) :
    ∃ overridden, s.override overrides = .ok overridden ∧
      ∀ name, SettingOf overrides entries name (overridden.normalize.get name) := by
  have heffective : NamesSettings (effective overrides) :=
    fun o ho => hknown o (mem_effective_iff.mp ho).1
  have hnodup : ((effective overrides).map Prod.fst).Nodup :=
    hkeys.sublist (List.filter_sublist.map Prod.fst)
  have hreplace : ∀ (s : Settings) (o : String × Value) (name : SettingName),
      o.1 = name.key → s.replace o = s.set name o.2 := by
    intro s o name h
    rw [replace, h, SettingName.ofKey?_key]
  refine ⟨(effective overrides).foldl replace s, ?_, fun name => ?_⟩
  · rw [override, refuse_eq_ok hknown]
    exact replaceAll_eq s heffective
  obtain ⟨hnamed, hothers⟩ := get_foldl hreplace name s heffective hnodup
  rw [get_normalize]
  by_cases hmem : ∃ v, (name.key, v) ∈ effective overrides
  · obtain ⟨v, hmem⟩ := hmem
    obtain ⟨hgiven, hv⟩ := mem_effective_iff.mp hmem
    rw [hnamed _ hmem rfl]
    exact .override hgiven hv
  · have hnull : ∀ v, (name.key, v) ∈ overrides → v = .null := by
      intro v hv
      by_contra hne
      exact hmem ⟨v, mem_effective_iff.mpr ⟨hv, hne⟩⟩
    rw [hothers fun o ho heq => hmem ⟨o.2, heq ▸ ho⟩]
    -- what was there is taken as it is meant already
    generalize hset : s.get name = value
    have hvalue := hloaded name
    rw [hset] at hvalue
    cases hvalue with
    | override hmem _ => exact absurd hmem List.not_mem_nil
    | table _ hentry =>
        rw [SettingName.take_take]
        exact .table hnull hentry
    | default _ habsent =>
        have hdefault := SettingOf.default hnull habsent
        cases name <;> exact hdefault

/-! ## The check -/

/-- Settings that rendering can work with: both separators are texts, and the groups are a tuple of
texts that are not empty. -/
structure IsUsable (s : Settings) : Prop where
  markupSeparator : ∃ text, s.get .markupSeparator = .str text
  attributeSeparator : ∃ text, s.get .attributeSeparator = .str text
  groups : ∃ names : List String, s.get .nestedGroups = .tuple (names.map .str) ∧ "" ∉ names

lemma checkSeparator_eq_ok_iff {text : String} :
    checkSeparator name v = .ok text ↔ v = .str text := by
  cases v <;> simp [checkSeparator]

lemma checkGroup_eq_ok_iff {group : String} :
    checkGroup v = .ok group ↔ v = .str group ∧ group ≠ "" := by
  cases v with
  | str s =>
      rw [checkGroup, Value.str.injEq]
      split_ifs with hempty
      · simp only [String.isEmpty_iff] at hempty
        simp only [false_iff, not_and, not_not]
        rintro rfl
        exact hempty
      · simp only [String.isEmpty_iff] at hempty
        rw [Except.ok.injEq]
        constructor
        · rintro rfl
          exact ⟨rfl, hempty⟩
        · exact And.left
  | _ => simp [checkGroup]

lemma mapM_checkGroup_eq_ok_iff : ∀ {values : List Value} {names : List String},
    values.mapM checkGroup = .ok names ↔ values = names.map .str ∧ "" ∉ names
  | [], names => by
      cases names <;> simp [pure, Except.pure]
  | value :: values, names => by
      rw [List.mapM_cons]
      constructor
      · intro h
        obtain ⟨name, hname, h⟩ := exists_of_bind_eq_ok h
        obtain ⟨more, hmore, h⟩ := exists_of_bind_eq_ok h
        obtain rfl : name :: more = names := Except.ok.inj h
        obtain ⟨rfl, hne⟩ := checkGroup_eq_ok_iff.mp hname
        obtain ⟨rfl, hnone⟩ := mapM_checkGroup_eq_ok_iff.mp hmore
        exact ⟨rfl, List.not_mem_cons_of_ne_of_not_mem hne.symm hnone⟩
      · rintro ⟨hvalues, hnone⟩
        cases names with
        | nil => exact absurd hvalues (List.cons_ne_nil _ _)
        | cons name more =>
            obtain ⟨rfl, hmore⟩ := List.cons.inj hvalues
            obtain ⟨hne, hnone⟩ := List.ne_and_not_mem_of_not_mem_cons hnone
            rw [checkGroup_eq_ok_iff.mpr ⟨rfl, hne.symm⟩,
              mapM_checkGroup_eq_ok_iff.mpr ⟨hmore, hnone⟩]
            rfl

lemma checkGroups_eq_ok_iff {names : List String} :
    checkGroups v = .ok names ↔ v = .tuple (names.map .str) ∧ "" ∉ names := by
  cases v with
  | tuple groups => rw [checkGroups, mapM_checkGroup_eq_ok_iff, Value.tuple.injEq]
  | _ => simp [checkGroups]

/-- **What the check accepts**, and that it leaves it as it is. -/
lemma check_eq_ok_iff :
    s.check = .ok config ↔ s.normalize = config.toSettings ∧ "" ∉ config.nestedGroups := by
  constructor
  · intro h
    obtain ⟨markup, hmarkup, h⟩ := exists_of_bind_eq_ok h
    obtain ⟨attributes, hattributes, h⟩ := exists_of_bind_eq_ok h
    obtain ⟨groups, hgroups, h⟩ := exists_of_bind_eq_ok h
    obtain rfl := Except.ok.inj h
    obtain ⟨hgroups, hnone⟩ := checkGroups_eq_ok_iff.mp hgroups
    refine ⟨eq_of_get_eq fun name => ?_, hnone⟩
    cases name
    · exact checkSeparator_eq_ok_iff.mp hmarkup
    · exact checkSeparator_eq_ok_iff.mp hattributes
    · exact hgroups
  · rintro ⟨hsame, hnone⟩
    simp only [check, hsame, Config.toSettings, checkSeparator,
      checkGroups_eq_ok_iff.mpr ⟨rfl, hnone⟩]
    rfl

lemma isUsable_toSettings_iff : config.toSettings.IsUsable ↔ "" ∉ config.nestedGroups := by
  constructor
  · rintro ⟨-, -, names, hnames, hnone⟩
    have hmap : config.nestedGroups.map Value.str = names.map Value.str := Value.tuple.inj hnames
    rwa [List.map_injective_iff.mpr (fun _ _ => Value.str.inj) hmap]
  · intro hnone
    exact ⟨⟨_, rfl⟩, ⟨_, rfl⟩, ⟨_, rfl, hnone⟩⟩

/-- Settings that rendering can work with are those of a configuration. -/
lemma IsUsable.exists_config (h : s.IsUsable) : ∃ config : Config, config.toSettings = s := by
  obtain ⟨⟨markup, hmarkup⟩, ⟨attributes, hattributes⟩, ⟨groups, hgroups, -⟩⟩ := h
  refine ⟨⟨markup, attributes, groups⟩, eq_of_get_eq fun name => ?_⟩
  cases name
  · exact hmarkup.symm
  · exact hattributes.symm
  · exact hgroups.symm

/-- **The check accepts just the usable settings**, once they are taken as they are meant. -/
lemma check_eq_ok_iff_isUsable (h : s.normalize = merged) :
    s.check = .ok config ↔ merged.IsUsable ∧ config.toSettings = merged := by
  rw [check_eq_ok_iff, h]
  constructor
  · rintro ⟨rfl, hnone⟩
    exact ⟨isUsable_toSettings_iff.mpr hnone, rfl⟩
  · rintro ⟨husable, rfl⟩
    exact ⟨rfl, isUsable_toSettings_iff.mp husable⟩

/-- A configuration that has been checked is accepted again. -/
lemma check_toSettings (h : s.check = .ok config) : config.toSettings.check = .ok config :=
  check_eq_ok_iff.mpr ⟨rfl, (check_eq_ok_iff.mp h).2⟩

end Settings

end SafeMarkup
