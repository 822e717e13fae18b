import SafeMarkup.Value.Text

/-!
# Settings and configurations

Settings are what a file or a caller asks for, unchecked: each of the three may be any value.  A
configuration is what rendering works with, and has the right kinds by its type.

* `Settings`, `Config` — the two, and `Settings.default` and `Config.default`.
* `Settings.normalize` — a list of groups counts as a tuple.
* `Settings.check` — settings as a configuration, or what is wrong with them.
* `Settings.override` — settings with some values replaced.
-/

namespace SafeMarkup

/-- The settings of rendering, as they were given. -/
structure Settings where
  /-- What stands between the items of a list of markup. -/
  markupSeparator : Value
  /-- What stands between the attribute lists of a list. -/
  attributeSeparator : Value
  /-- The attributes whose mappings are expanded. -/
  nestedGroups : Value
  deriving Inhabited

/-- A configuration of rendering. -/
structure Config where
  /-- What stands between the items of a list of markup. -/
  markupSeparator : String := "\n"
  /-- What stands between the attribute lists of a list. -/
  attributeSeparator : String := " "
  /-- The attributes whose mappings are expanded. -/
  nestedGroups : List String := ["aria", "data"]
  deriving DecidableEq, Repr, Inhabited

/-- The configuration that holds where nothing is set. -/
def Config.default : Config := {}

/-- A configuration as settings. -/
def Config.toSettings (config : Config) : Settings :=
  ⟨.str config.markupSeparator, .str config.attributeSeparator,
    .tuple (config.nestedGroups.map .str)⟩

/-- The names of the settings. -/
inductive SettingName where
  | markupSeparator
  | attributeSeparator
  | nestedGroups
  deriving DecidableEq, Repr, Inhabited

namespace SettingName

/-- A setting as files and messages call it. -/
def key : SettingName → String
  | markupSeparator => "markup_separator"
  | attributeSeparator => "attribute_separator"
  | nestedGroups => "nested_attribute_groups"

/-- The setting that a key names. -/
def ofKey? (key : String) : Option SettingName :=
  if key = markupSeparator.key then some markupSeparator
  else if key = attributeSeparator.key then some attributeSeparator
  else if key = nestedGroups.key then some nestedGroups
  else none

end SettingName

/-- What is wrong with settings, or with a table that holds them. -/
inductive SettingsError where
  /-- A separator is no text. -/
  | separatorNotText (name : SettingName)
  /-- The groups are not a list. -/
  | groupsNotList
  /-- A group is no text, or an empty one. -/
  | groupNotText
  /-- What should be a table of settings is none. -/
  | notATable (table file : String)
  /-- A table has keys that are no settings; they are sorted. -/
  | unsupported (table file : String) (keys : List String)
  deriving DecidableEq, Repr, Inhabited

/-- The wording of a settings error. -/
def SettingsError.message : SettingsError → String
  | separatorNotText name => "`" ++ name.key ++ "` must be a string"
  | groupsNotList => "`nested_attribute_groups` must be a list of strings"
  | groupNotText => "`nested_attribute_groups` entries must be non-empty strings"
  | notATable table file => "Invalid `[" ++ table ++ "]` settings in " ++ file
  | unsupported table file keys =>
    "Unsupported `[" ++ table ++ "]` settings in " ++ file ++ ": " ++ ", ".intercalate keys

/-- Names that no override can have, as each of them stands for something else on the way from a
directory to its configuration. -/
inductive ReservedName where
  /-- The directory. -/
  | directory
  /-- The settings that are overridden. -/
  | settings
  /-- The settings that come out. -/
  | result
  deriving DecidableEq, Repr, Inhabited

namespace ReservedName

/-- The name as it is written. -/
def key : ReservedName → String
  | directory => "search_path"
  | settings => "config"
  | result => "self"

/-- The operation that the name belongs to. -/
def operation : ReservedName → String
  | directory => "build_config"
  | settings => "apply_overrides"
  | result => "HypertextConfig.__init__"

end ReservedName

/-- Why overrides cannot be applied. -/
inductive OverrideError where
  /-- An override names no setting. -/
  | unknown (key : String)
  | reserved (name : ReservedName)
  deriving DecidableEq, Repr, Inhabited

/-- The wording of the error. -/
def OverrideError.message : OverrideError → String
  | unknown key =>
    ReservedName.result.operation ++ "() got an unexpected keyword argument '" ++ key ++ "'"
  | reserved name =>
    name.operation ++ "() got multiple values for argument '" ++ name.key ++ "'"

namespace Settings

/-- The settings that hold where nothing is set. -/
def default : Settings := Config.default.toSettings

/-- Replaces one setting. -/
def set (settings : Settings) (name : SettingName) (value : Value) : Settings :=
  match name with
  | .markupSeparator => { settings with markupSeparator := value }
  | .attributeSeparator => { settings with attributeSeparator := value }
  | .nestedGroups => { settings with nestedGroups := value }

/-- A list of groups, which is how files give them, counts as a tuple. -/
def normalize (settings : Settings) : Settings :=
  match settings.nestedGroups with
  | .list groups => { settings with nestedGroups := .tuple groups }
  | _ => settings

/-- A separator, which has to be a text. -/
def checkSeparator (name : SettingName) (value : Value) : Except SettingsError String :=
  match value with
  | .str s => .ok s
  | _ => .error (.separatorNotText name)

/-- A group, which has to be a text that is not empty. -/
def checkGroup (value : Value) : Except SettingsError String :=
  match value with
  | .str s => if s.isEmpty then .error .groupNotText else .ok s
  | _ => .error .groupNotText

/-- The groups, which have to be a tuple of texts. -/
def checkGroups (value : Value) : Except SettingsError (List String) :=
  match value with
  | .tuple groups => groups.mapM checkGroup
  | _ => .error .groupsNotList

/-- The configuration that settings ask for. -/
def check (settings : Settings) : Except SettingsError Config := do
  let settings := settings.normalize
  let markup ← checkSeparator .markupSeparator settings.markupSeparator
  let attributes ← checkSeparator .attributeSeparator settings.attributeSeparator
  let groups ← checkGroups settings.nestedGroups
  return ⟨markup, attributes, groups⟩

/-- The error for an override that names no setting. -/
def unknownOverride (key : String) : OverrideError :=
  if key = ReservedName.result.key then .reserved .result else .unknown key

/-- Replaces settings by name, from the first to the last. -/
def replaceAll (settings : Settings) :
    List (String × Value) → Except OverrideError Settings
  | [] => .ok settings
  | (key, value) :: rest =>
    match SettingName.ofKey? key with
    | some name => (settings.set name value).replaceAll rest
    | none => .error (unknownOverride key)

/-- The overrides that count: one without a value asks for nothing. -/
def effective (overrides : List (String × Value)) : List (String × Value) :=
  overrides.filter fun o => match o.2 with
    | .null => false
    | _ => true

/-- Refuses overrides with a reserved name, whether they ask for anything or not. -/
def refuse (name : ReservedName) (overrides : List (String × Value)) :
    Except OverrideError Unit :=
  if overrides.any fun o => o.1 = name.key then .error (.reserved name) else .ok ()

/-- Settings with overrides applied. -/
def override (settings : Settings) (overrides : List (String × Value)) :
    Except OverrideError Settings := do
  refuse .settings overrides
  settings.replaceAll (effective overrides)

/-- Whether overrides ask for a change. -/
def isOverridden (overrides : List (String × Value)) : Bool :=
  !(effective overrides).isEmpty

end Settings

end SafeMarkup
