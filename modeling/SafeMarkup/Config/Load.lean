import SafeMarkup.Config.Files
import SafeMarkup.Config.Settings
import SafeMarkup.Text.Order
import SafeMarkup.Text.Utf8
import SafeMarkup.Toml.Reader

/-!
# Finding the settings of a directory

Settings stand in a table of a TOML file.  Two files of a directory may hold one, and the table that
is found first, going from a directory up to the root, decides alone: nothing is merged.

* `settingsPlaces` — the files that are tried, in their order, with the tables in them.
* `tableIn?` — the table that a file holds.
* `loadSettings` — the settings that hold in the directory at a path.
* `buildConfig` — the configuration that holds there, under some overrides.
-/

namespace SafeMarkup

/-- A file that may hold settings, and the tables of it that may be them, the first that is there
first. -/
structure SettingsPlace where
  location : Location
  tables : List TomlPath
  deriving DecidableEq, Repr, Inhabited

/-- The name of a table of settings. -/
def settingsTable : String := "hypertext-literal"

/-- The files of a directory that are tried. -/
def placesIn (directory : Location) : List SettingsPlace :=
  [⟨directory ++ ["pyproject.toml"], [["tool", settingsTable]]⟩,
    ⟨directory ++ ["." ++ settingsTable ++ ".toml"], [[settingsTable], ["tool", settingsTable]]⟩]

/-- The files that are tried for a directory: its own, and then those of the directories above. -/
def settingsPlaces (directory : Location) : List SettingsPlace :=
  directory.selfAndAbove.flatMap placesIn

/-- Why no settings can be loaded or built. -/
inductive LoadError where
  /-- The directory has a path that cannot be followed. -/
  | path (error : PathError)
  | settings (error : SettingsError)
  /-- A file is no text. -/
  | encoding (fault : EncodingFault)
  /-- A file holds an integer that is not read. -/
  | longInteger (error : LongInteger)
  | override (error : OverrideError)
  deriving Repr, Inhabited

/-- The wording of an error. -/
def LoadError.message : LoadError → String
  | path error => error.message
  | settings error => error.message
  | encoding fault => fault.message
  | longInteger error => error.message
  | override error => error.message

/-! ## The table of a file -/

/-- The first of some tables that is in a document. -/
def firstTable? (document : TomlTable) : List TomlPath → Option (TomlPath × Toml)
  | [] => none
  | path :: rest =>
    match Toml.find? path (.table document) with
    | some value => some (path, value)
    | none => firstTable? document rest

/-- What a file holds at the place of its table.  A file that is missing or not well-formed holds
nothing; one that is no text, or has an integer that is not read, is an error. -/
def tableIn? (tree : FileTree) (place : SettingsPlace) :
    Except LoadError (Option (TomlPath × Toml)) :=
  match tree.entry? place.location with
  | some (.file bytes) => do
    let text ← (Utf8.decode bytes).mapError .encoding
    match Toml.parse text with
    | .ok document => return firstTable? document place.tables
    | .error .malformed => return none
    | .error (.longInteger e) => .error (.longInteger e)
  | _ => .ok none

/-! ## The settings of a table -/

/-- The kind of a moment, by the marks in its text: a date has hyphens, and a time has colons. -/
def momentKind (text : String) : String :=
  if !text.toList.contains ':' then "date"
  else if text.toList.contains '-' then "datetime"
  else "time"

mutual

/-- A value of a document as a value to render with. -/
def Toml.toValue : Toml → Value
  | .string s => .str s
  | .integer n => .int n
  | .real x => .float x
  | .boolean b => .bool b
  | .moment text => .object { kind := momentKind text, text, display := text }
  | .array items => .list (toValues items)
  | .table entries => .dict (toEntries entries)

/-- The same for the items of an array. -/
def Toml.toValues : List Toml → List Value
  | [] => []
  | item :: rest => item.toValue :: toValues rest

/-- The same for the entries of a table. -/
def Toml.toEntries : TomlTable → List (Value × Value)
  | [] => []
  | (key, value) :: rest => (.str key, value.toValue) :: toEntries rest

end

/-- The keys of a table that are no settings, in order. -/
def unsupportedKeys (table : TomlTable) : List String :=
  sortTexts ((table.map Prod.fst).filter fun key => (SettingName.ofKey? key).isNone)

/-- Settings with one of them set by an entry of a table. -/
def Settings.enter (settings : Settings) (entry : String × Toml) : Settings :=
  match SettingName.ofKey? entry.1 with
  | some name => settings.set name entry.2.toValue
  | none => settings

/-- The settings of a table.  A setting that it does not name is as it is by default. -/
def settingsOf (file : Location) (path : TomlPath) (value : Toml) :
    Except SettingsError Settings :=
  let shown := ".".intercalate path
  match value with
  | .table entries =>
    match unsupportedKeys entries with
    | [] => .ok (entries.foldl Settings.enter Settings.default).normalize
    | keys => .error (.unsupported shown file.toPath keys)
  | _ => .error (.notATable shown file.toPath)

/-! ## Loading -/

/-- The settings of the first of some places that holds a table. -/
def loadFrom (tree : FileTree) : List SettingsPlace → Except LoadError Settings
  | [] => .ok Settings.default
  | place :: rest =>
    match tableIn? tree place with
    | .error e => .error e
    | .ok none => loadFrom tree rest
    | .ok (some (path, value)) => (settingsOf place.location path value).mapError .settings

/-- The settings that hold in the directory at a path, seen from the working directory. -/
def loadSettings (tree : FileTree) (cwd : Location) (path : String) :
    Except LoadError Settings := do
  let path ← (checkPath path).mapError .path
  loadFrom tree (settingsPlaces (cwd.resolve path))

/-- The configuration that holds in the directory at a path, with settings replaced by
overrides. -/
def buildConfig (tree : FileTree) (cwd : Location) (path : String)
    (overrides : List (String × Value)) : Except LoadError Config := do
  (Settings.refuse .directory overrides).mapError .override
  let loaded ← loadSettings tree cwd path
  let settings ← (loaded.override overrides).mapError .override
  settings.check.mapError .settings

end SafeMarkup
