import SafeMarkup.Number.Read

/-!
# TOML documents

* `Toml`, `TomlTable` — a value of a document, and a table of values.
* `Toml.Fault` — why a text is no document.
* `TomlTable.alter?` — changes the table at the end of a path, making the tables on the way.
* `NameLedger` — which names of a document can no longer be added to.
-/

namespace SafeMarkup

/-- A value of a TOML document. -/
inductive Toml where
  | string (s : String)
  | integer (n : Int)
  | real (x : Binary64)
  | boolean (b : Bool)
  /-- A date, a time of day, or both, as it is written. -/
  | moment (text : String)
  | array (items : List Toml)
  | table (entries : List (String × Toml))
  deriving Inhabited

/-- The entries of a table, in the order of the document. -/
abbrev TomlTable := List (String × Toml)

/-- The path to a value: the keys from the root of the document on. -/
abbrev TomlPath := List String

namespace Toml

/-- Why a text is no document. -/
inductive Fault where
  /-- The text is not well-formed; where and how is not told. -/
  | malformed
  /-- An integer has more digits than are read. -/
  | longInteger (error : LongInteger)
  deriving DecidableEq, Repr, Inhabited

/-- What has been read, if anything has; a text is malformed where nothing can be read. -/
def require {α : Type} : Option α → Except Fault α
  | some found => .ok found
  | none => .error .malformed

/-! ## Tables -/

/-- The value of a key in a table. -/
def lookup? (key : String) : TomlTable → Option Toml
  | [] => none
  | (other, value) :: rest => if other = key then some value else lookup? key rest

/-- Replaces the value of a key that is there. -/
def replace (key : String) (value : Toml) : TomlTable → TomlTable
  | [] => []
  | (other, old) :: rest =>
    if other = key then (other, value) :: rest else (other, old) :: replace key value rest

/-- The table that a value stands for on a path: itself, or the last one of an array of tables, if
arrays may be entered; with it, how the value looks once that table has changed. -/
def enter? (throughArrays : Bool) : Toml → Option (TomlTable × (TomlTable → Toml))
  | table entries => some (entries, table)
  | array items =>
    if throughArrays then
      match items.getLast? with
      | some (table entries) => some (entries, fun t => array (items.dropLast ++ [table t]))
      | _ => none
    else none
  | _ => none

/-- Changes the table at the end of a path.  Tables that are missing on the way are made; a value
that is no table stops it. -/
def alter? (throughArrays : Bool) (change : TomlTable → Option TomlTable) :
    TomlPath → TomlTable → Option TomlTable
  | [], entries => change entries
  | key :: path, entries =>
    match lookup? key entries with
    | none => (alter? throughArrays change path []).map fun made => entries ++ [(key, table made)]
    | some value =>
      (enter? throughArrays value).bind fun (inner, rebuild) =>
        (alter? throughArrays change path inner).map fun changed =>
          replace key (rebuild changed) entries

/-- Adds a key that must not be there yet. -/
def addKey? (key : String) (value : Toml) (entries : TomlTable) : Option TomlTable :=
  if (lookup? key entries).isSome then none else some (entries ++ [(key, value)])

/-- Adds an empty table to the array of tables under a key, which is made if it is missing. -/
def addArrayTable? (key : String) (entries : TomlTable) : Option TomlTable :=
  match lookup? key entries with
  | none => some (entries ++ [(key, array [table []])])
  | some (array items) => some (replace key (array (items ++ [table []])) entries)
  | some _ => none

/-- The value at the end of a path through tables. -/
def find? : TomlPath → Toml → Option Toml
  | [], value => some value
  | key :: path, table entries => (lookup? key entries).bind (find? path)
  | _ :: _, _ => none

end Toml

/-! ## What is laid down about names -/

/-- What a document has laid down about its names. -/
structure NameLedger where
  /-- Tables that have been opened, and must not be opened again. -/
  opened : List TomlPath
  /-- Values that are complete: nothing at or below them can be added. -/
  frozen : List TomlPath
  /-- Tables made by dotted keys, which count as opened from the next header on. -/
  pending : List TomlPath
  deriving Inhabited

namespace NameLedger

/-- No ledger. -/
def empty : NameLedger := ⟨[], [], []⟩

/-- Whether a table has been opened. -/
def isOpened (ledger : NameLedger) (path : TomlPath) : Bool :=
  !path.isEmpty && ledger.opened.contains path

/-- Whether a path is at or below a value that is complete. -/
def isFrozen (ledger : NameLedger) (path : TomlPath) : Bool :=
  ledger.frozen.any fun p => p.isPrefixOf path

/-- Marks a table as opened. -/
def markOpened (ledger : NameLedger) (path : TomlPath) : NameLedger :=
  { ledger with opened := path :: ledger.opened }

/-- Marks a value as complete. -/
def freeze (ledger : NameLedger) (path : TomlPath) : NameLedger :=
  { ledger with frozen := path :: ledger.frozen }

/-- Drops all that is laid down at and below a path. -/
def release (ledger : NameLedger) (path : TomlPath) : NameLedger :=
  { ledger with
    opened := ledger.opened.filter fun p => !path.isPrefixOf p
    frozen := ledger.frozen.filter fun p => !path.isPrefixOf p }

/-- Makes what is pending count. -/
def settlePending (ledger : NameLedger) : NameLedger :=
  { ledger with opened := ledger.pending ++ ledger.opened, pending := [] }

end NameLedger

end SafeMarkup
