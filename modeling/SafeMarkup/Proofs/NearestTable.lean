import Mathlib.Control.Monad.Basic
import Mathlib.Data.List.Infix
import SafeMarkup.Proofs.SettingValues
import SafeMarkup.Proofs.TextOrder
import SafeMarkup.Proofs.TomlKeys

/-!
# The nearest table of settings

The settings of a directory are looked for in two files of that directory, and then in the same two
of each directory above.  A file that is missing or not well-formed is passed over, and so is one
without the table.  The first file that has it decides alone, also when what it says is wrong, and
nothing is read behind it.

* `candidates` — the files that may decide, with their tables, in the order of the way up.
* `SettingsPlace.Holds` — a table is there; `FileTree.Refuses` — a file cannot be read at all.
* `tableIn?_eq_some_iff`, `tableIn?_eq_error_iff` — reading a file finds just these.
* `NearestTable` — the first table on the way up, and the files that are tried for it.
* `LoadResult` — what a table says; `loadResult_settingsOf` — it is what is made of it.
* `loadFrom_of_nearestTable` — loading is what the nearest table says, in every tree that looks the
  same in the files that are tried.
* **`loadSettings_of_nearestTable`** — the same about the directory at a path.
-/

namespace SafeMarkup

/-! ## The way up -/

/-- The files that may decide about a directory, and in each of them the tables that may, the first
that is there: two files of the directory itself and of every directory above, from the directory up
to the root. -/
def candidates (directory : Location) : List SettingsPlace :=
  directory.inits.reverse.flatMap fun d =>
    [⟨d ++ ["pyproject.toml"], [["tool", "hypertext-literal"]]⟩,
      ⟨d ++ [".hypertext-literal.toml"], [["hypertext-literal"], ["tool", "hypertext-literal"]]⟩]

lemma selfAndAbove_eq (directory : Location) :
    directory.selfAndAbove = directory.inits.reverse := by
  have hinits : directory.inits = (List.range (directory.length + 1)).map directory.take := by
    refine List.ext_getElem (by simp) fun n _ _ => ?_
    rw [List.getElem_inits, List.getElem_map, List.getElem_range]
  rw [hinits, List.range_succ, List.map_append, List.map_singleton, List.take_length,
    List.reverse_append, List.reverse_singleton, List.singleton_append]
  rfl

lemma settingsPlaces_eq (directory : Location) :
    settingsPlaces directory = candidates directory := by
  rw [settingsPlaces, selfAndAbove_eq]
  rfl

/-! ## One file -/

/-- A well-formed document stands in a file. -/
def FileTree.HasDocument (tree : FileTree) (location : Location) (document : TomlTable) : Prop :=
  ∃ bytes text, tree.entry? location = some (.file bytes) ∧ Utf8.decode bytes = .ok text ∧
    Toml.parse text = .ok document

/-- A table is in the file of a place.  Where several may be, the first that is there counts. -/
def SettingsPlace.Holds (place : SettingsPlace) (tree : FileTree) (path : TomlPath)
    (value : Toml) : Prop :=
  ∃ document before after, tree.HasDocument place.location document ∧
    place.tables = before ++ path :: after ∧
    (∀ other ∈ before, Toml.find? other (.table document) = none) ∧
    Toml.find? path (.table document) = some value

/-- A table is in the file of a place, whatever it says. -/
def SettingsPlace.HoldsTable (place : SettingsPlace) (tree : FileTree) : Prop :=
  ∃ path value, place.Holds tree path value

/-- A file that cannot be read: it is no text, or the reader of documents gives up in it. -/
inductive FileTree.Refuses (tree : FileTree) (location : Location) : LoadError → Prop
  | encoding {bytes : List UInt8} {fault : EncodingFault}
      (hfile : tree.entry? location = some (.file bytes)) (h : Utf8.decode bytes = .error fault) :
      Refuses tree location (.encoding fault)
  | longInteger {bytes : List UInt8} {text : List Char} {e : LongInteger}
      (hfile : tree.entry? location = some (.file bytes)) (htext : Utf8.decode bytes = .ok text)
      (h : Toml.parse text = .error (.longInteger e)) :
      Refuses tree location (.longInteger e)

/-- A file that can be read, if there is one: it is text, and the reader of documents either returns
a document or says that there is none. -/
structure FileTree.Readable (tree : FileTree) (location : Location) : Prop where
  isText : ∀ bytes, tree.entry? location = some (.file bytes) → ∃ text, Utf8.decode bytes = .ok text
  isAnswered : ∀ bytes text, tree.entry? location = some (.file bytes) →
    Utf8.decode bytes = .ok text → ∀ e, Toml.parse text ≠ .error (.longInteger e)

section

variable {tree other : FileTree} {location : Location} {place : SettingsPlace} {path : TomlPath}
  {value : Toml} {document : TomlTable} {tables : List TomlPath} {e : LoadError}
  {before places rest : List SettingsPlace}

lemma readable_iff : tree.Readable location ↔ ∀ e, ¬ tree.Refuses location e := by
  constructor
  · rintro h e (⟨hfile, hfault⟩ | ⟨hfile, htext, hfault⟩)
    · obtain ⟨text, htext⟩ := h.isText _ hfile
      exact absurd (htext.symm.trans hfault) (by simp)
    · exact h.isAnswered _ _ hfile htext _ hfault
  · intro h
    refine ⟨fun bytes hfile => ?_, fun bytes text hfile htext e hfault =>
      h _ (.longInteger hfile htext hfault)⟩
    cases htext : Utf8.decode bytes with
    | ok text => exact ⟨text, rfl⟩
    | error fault => exact absurd (.encoding hfile htext) (h _)

/-- The first table is the first that is there. -/
lemma firstTable?_eq_some_iff : ∀ {tables : List TomlPath},
    firstTable? document tables = some (path, value) ↔
      ∃ before after, tables = before ++ path :: after ∧
        (∀ other ∈ before, Toml.find? other (.table document) = none) ∧
        Toml.find? path (.table document) = some value
  | [] => by simp [firstTable?]
  | first :: tables => by
      rw [firstTable?]
      constructor
      · intro h
        split at h
        · next found hfound =>
          obtain ⟨rfl, rfl⟩ := Prod.mk.inj (Option.some.inj h)
          exact ⟨[], tables, rfl, fun _ hother => absurd hother List.not_mem_nil, hfound⟩
        · next hnone =>
          obtain ⟨before, after, rfl, hbefore, hfound⟩ := firstTable?_eq_some_iff.mp h
          exact ⟨first :: before, after, rfl, List.forall_mem_cons.mpr ⟨hnone, hbefore⟩, hfound⟩
      · rintro ⟨before, after, happend, hbefore, hfound⟩
        cases before with
        | nil =>
            obtain ⟨rfl, rfl⟩ := List.cons.inj happend
            rw [hfound]
        | cons other before =>
            obtain ⟨rfl, rfl⟩ := List.cons.inj happend
            obtain ⟨hnone, hbefore⟩ := List.forall_mem_cons.mp hbefore
            rw [hnone]
            exact firstTable?_eq_some_iff.mpr ⟨before, after, rfl, hbefore, hfound⟩

/-- Reading a file of text is reading a document. -/
lemma tableIn?_of_text {bytes : List UInt8} {text : List Char}
    (hfile : tree.entry? place.location = some (.file bytes))
    (htext : Utf8.decode bytes = .ok text) : tableIn? tree place =
      match Toml.parse text with
      | .ok document => .ok (firstTable? document place.tables)
      | .error .malformed => .ok none
      | .error (.longInteger e) => .error (.longInteger e) := by
  simp only [tableIn?, hfile, htext, Except.mapError, bind, Except.bind]
  rfl

lemma tableIn?_of_hasDocument (h : tree.HasDocument place.location document) :
    tableIn? tree place = .ok (firstTable? document place.tables) := by
  obtain ⟨bytes, text, hfile, htext, hparse⟩ := h
  rw [tableIn?_of_text hfile htext, hparse]

lemma tableIn?_of_refuses (h : tree.Refuses place.location e) : tableIn? tree place = .error e := by
  obtain ⟨hfile, hfault⟩ | ⟨hfile, htext, hfault⟩ := h
  · simp only [tableIn?, hfile, hfault, Except.mapError, bind, Except.bind]
  · rw [tableIn?_of_text hfile htext, hfault]

lemma tableIn?_of_no_file (h : ¬ ∃ bytes, tree.entry? place.location = some (.file bytes)) :
    tableIn? tree place = .ok none := by
  unfold tableIn?
  split
  · next bytes hfile => exact absurd ⟨bytes, hfile⟩ h
  · rfl

/-- What reading a file comes to. -/
lemma tableIn?_cases (tree : FileTree) (place : SettingsPlace) :
    (∃ document, tree.HasDocument place.location document) ∨
      (∃ e, tree.Refuses place.location e ∧ tableIn? tree place = .error e) ∨
      ((∀ document, ¬ tree.HasDocument place.location document) ∧
        tableIn? tree place = .ok none) := by
  by_cases hfile : ∃ bytes, tree.entry? place.location = some (.file bytes)
  · obtain ⟨bytes, hfile⟩ := hfile
    cases htext : Utf8.decode bytes with
    | error fault =>
        have hrefuses : tree.Refuses place.location _ := .encoding hfile htext
        exact Or.inr (Or.inl ⟨_, hrefuses, tableIn?_of_refuses hrefuses⟩)
    | ok text =>
        cases hparse : Toml.parse text with
        | ok document => exact Or.inl ⟨document, bytes, text, hfile, htext, hparse⟩
        | error fault =>
            cases fault with
            | longInteger e =>
                have hrefuses : tree.Refuses place.location _ := .longInteger hfile htext hparse
                exact Or.inr (Or.inl ⟨_, hrefuses, tableIn?_of_refuses hrefuses⟩)
            | malformed =>
                refine Or.inr (Or.inr ⟨?_, by rw [tableIn?_of_text hfile htext, hparse]⟩)
                rintro document ⟨bytes', text', hfile', htext', hparse'⟩
                obtain rfl := FileEntry.file.inj (Option.some.inj (hfile.symm.trans hfile'))
                obtain rfl := Except.ok.inj (htext.symm.trans htext')
                exact absurd (hparse.symm.trans hparse') (by simp)
  · exact Or.inr (Or.inr ⟨fun _ ⟨bytes, _, h, _⟩ => hfile ⟨bytes, h⟩, tableIn?_of_no_file hfile⟩)

/-- **Reading a file finds the table that is there.** -/
lemma tableIn?_eq_some_iff :
    tableIn? tree place = .ok (some (path, value)) ↔ place.Holds tree path value := by
  constructor
  · intro h
    rcases tableIn?_cases tree place with ⟨document, hdocument⟩ | ⟨e, -, herror⟩ | ⟨-, hnone⟩
    · rw [tableIn?_of_hasDocument hdocument] at h
      obtain ⟨before, after, happend, hbefore, hfound⟩ :=
        firstTable?_eq_some_iff.mp (Except.ok.inj h)
      exact ⟨document, before, after, hdocument, happend, hbefore, hfound⟩
    · exact absurd (herror.symm.trans h) (by simp)
    · exact absurd (hnone.symm.trans h) (by simp)
  · rintro ⟨document, before, after, hdocument, happend, hbefore, hfound⟩
    rw [tableIn?_of_hasDocument hdocument]
    exact congrArg _ (firstTable?_eq_some_iff.mpr ⟨before, after, happend, hbefore, hfound⟩)

/-- **Reading a file fails where the file cannot be read.** -/
lemma tableIn?_eq_error_iff : tableIn? tree place = .error e ↔ tree.Refuses place.location e := by
  refine ⟨fun h => ?_, tableIn?_of_refuses⟩
  rcases tableIn?_cases tree place with
    ⟨document, hdocument⟩ | ⟨e', hrefuses, herror⟩ | ⟨-, hnone⟩
  · exact absurd ((tableIn?_of_hasDocument hdocument).symm.trans h) (by simp)
  · rwa [← Except.error.inj (herror.symm.trans h)]
  · exact absurd (hnone.symm.trans h) (by simp)

lemma readable_iff_isOk : (tableIn? tree ⟨location, []⟩).isOk = true ↔ tree.Readable location := by
  rw [readable_iff]
  cases h : tableIn? tree ⟨location, []⟩ with
  | error e =>
      exact iff_of_false (by simp [Except.isOk, Except.toBool])
        fun hnone => hnone e (tableIn?_eq_error_iff.mp h)
  | ok found =>
      refine iff_of_true rfl fun e hrefuses => ?_
      exact absurd (h.symm.trans (tableIn?_eq_error_iff.mpr hrefuses)) (by simp)

instance (tree : FileTree) (location : Location) : Decidable (tree.Readable location) :=
  decidable_of_iff _ readable_iff_isOk

lemma tableIn?_eq_none_iff : tableIn? tree place = .ok none ↔
    tree.Readable place.location ∧ ¬ place.HoldsTable tree := by
  rw [readable_iff]
  constructor
  · intro h
    refine ⟨fun e hrefuses => ?_, fun ⟨path, value, hholds⟩ => ?_⟩
    · exact absurd (h.symm.trans (tableIn?_eq_error_iff.mpr hrefuses)) (by simp)
    · exact absurd (h.symm.trans (tableIn?_eq_some_iff.mpr hholds)) (by simp)
  · rintro ⟨hreadable, hnone⟩
    cases h : tableIn? tree place with
    | error e => exact absurd (tableIn?_eq_error_iff.mp h) (hreadable e)
    | ok found =>
        cases found with
        | none => rfl
        | some found => exact absurd ⟨_, _, tableIn?_eq_some_iff.mp h⟩ hnone

/-- Only the file itself matters. -/
lemma tableIn?_congr (h : other.entry? place.location = tree.entry? place.location) :
    tableIn? other place = tableIn? tree place := by
  rw [tableIn?, tableIn?, h]

/-! ## The nearest table -/

/-- A list has no element with a property, or a first one. -/
lemma exists_first_or_none {α : Type} (p : α → Prop) (xs : List α) : (∀ x ∈ xs, ¬ p x) ∨
    ∃ before x after, xs = before ++ x :: after ∧ (∀ y ∈ before, ¬ p y) ∧ p x := by
  classical
  cases h : xs.find? fun x => decide (p x) with
  | none => exact Or.inl (by simpa using List.find?_eq_none.mp h)
  | some x =>
      obtain ⟨hx, before, after, hxs, hbefore⟩ := List.find?_eq_some_iff_append.mp h
      exact Or.inr ⟨before, x, after, hxs, by simpa using hbefore, by simpa using hx⟩

end

/-- The first table on the way up from a directory, if there is any, with its file, and the files
that are tried for it: those in front of it, and its own. -/
inductive NearestTable (tree : FileTree) (directory : Location) :
    List SettingsPlace → Option (Location × TomlPath × Toml) → Prop
  | found {before above : List SettingsPlace} {place : SettingsPlace} {path : TomlPath}
      {value : Toml} (hcandidates : candidates directory = before ++ place :: above)
      (hbefore : ∀ p ∈ before, ¬ p.HoldsTable tree) (hholds : place.Holds tree path value) :
      NearestTable tree directory (before ++ [place]) (some (place.location, path, value))
  | none (h : ∀ place ∈ candidates directory, ¬ place.HoldsTable tree) :
      NearestTable tree directory (candidates directory) none

/-- What the nearest table says.  Where there is no table, all settings are as they are by default;
a table that is no mapping, or that has keys which are no settings, is an error. -/
inductive LoadResult :
    Option (Location × TomlPath × Toml) → Except SettingsError Settings → Prop
  | default : LoadResult none (.ok ⟨.str "\n", .str " ", .tuple [.str "aria", .str "data"]⟩)
  | notATable {file : Location} {path : TomlPath} {value : Toml}
      (h : ∀ entries, value ≠ .table entries) :
      LoadResult (some (file, path, value)) (.error (.notATable (".".intercalate path) file.toPath))
  | unsupported {file : Location} {path : TomlPath} {entries : TomlTable} {keys : List String}
      (hne : keys ≠ []) (hsorted : keys.Pairwise (· < ·))
      (hkeys : ∀ key, key ∈ keys ↔
        key ∈ entries.map Prod.fst ∧ ∀ name : SettingName, key ≠ name.key) :
      LoadResult (some (file, path, .table entries))
        (.error (.unsupported (".".intercalate path) file.toPath keys))
  | settings {file : Location} {path : TomlPath} {entries : TomlTable} {settings : Settings}
      (hknown : NamesSettings entries)
      (hsettings : ∀ name, SettingOf [] entries name (settings.get name)) :
      LoadResult (some (file, path, .table entries)) (.ok settings)

section

variable {tree other : FileTree} {cwd directory file : Location} {path : String}
  {table : TomlPath} {value : Toml} {entries : TomlTable} {tried before rest : List SettingsPlace}
  {nearest : Option (Location × TomlPath × Toml)}

lemma exists_nearestTable (tree : FileTree) (directory : Location) :
    ∃ tried nearest, NearestTable tree directory tried nearest := by
  rcases exists_first_or_none (fun place => place.HoldsTable tree) (candidates directory) with
    hnone | ⟨before, place, above, hcandidates, hbefore, table, value, hholds⟩
  · exact ⟨_, _, .none hnone⟩
  · exact ⟨_, _, .found hcandidates hbefore hholds⟩

namespace NearestTable

/-- Nothing is tried but what may decide, in the order of the way up. -/
lemma exists_above (h : NearestTable tree directory tried nearest) :
    ∃ above, candidates directory = tried ++ above := by
  cases h with
  | none => exact ⟨[], (List.append_nil _).symm⟩
  | found hcandidates => exact ⟨_, by rw [hcandidates, List.append_cons]⟩

lemma mem_candidates (h : NearestTable tree directory tried nearest) {place : SettingsPlace}
    (hplace : place ∈ tried) : place ∈ candidates directory := by
  obtain ⟨above, habove⟩ := h.exists_above
  rw [habove]
  exact List.mem_append_left above hplace

/-- No table is in front of a file that is tried. -/
lemma not_holdsTable (h : NearestTable tree directory tried nearest) {place : SettingsPlace}
    (happend : tried = before ++ place :: rest) : ∀ p ∈ before, ¬ p.HoldsTable tree := by
  intro p hp
  cases h with
  | none hnone => exact hnone p (by rw [happend]; exact List.mem_append_left _ hp)
  | found _ hbefore =>
      refine hbefore p ?_
      have hlast := congrArg List.dropLast happend
      rw [List.dropLast_concat, List.dropLast_append_cons] at hlast
      rw [hlast]
      exact List.mem_append_left _ hp

end NearestTable

/-! ## What a table says -/

lemma mem_unsupportedKeys_iff {key : String} : key ∈ unsupportedKeys entries ↔
    key ∈ entries.map Prod.fst ∧ ∀ name : SettingName, key ≠ name.key := by
  rw [unsupportedKeys, (sortTexts_perm _).mem_iff, List.mem_filter]
  refine and_congr_right fun _ => ?_
  rw [Option.isNone_iff_eq_none, Option.eq_none_iff_forall_ne_some]
  exact forall_congr' fun name => not_congr SettingName.ofKey?_eq_some_iff

/-- The keys that are no settings are in order, and none is said twice. -/
lemma sorted_unsupportedKeys (hkeys : (entries.map Prod.fst).Nodup) :
    (unsupportedKeys entries).Pairwise (· < ·) := by
  have hnodup : (unsupportedKeys entries).Nodup :=
    (sortTexts_perm _).nodup_iff.mpr (hkeys.filter _)
  exact (sorted_sortTexts _).imp₂ (fun _ _ hle hne => lt_of_le_of_ne hle hne) hnodup

/-- **The settings of a table** are what it says. -/
lemma loadResult_settingsOf (h : Toml.KeysOnce value) (file : Location) (table : TomlPath) :
    LoadResult (some (file, table, value)) (settingsOf file table value) := by
  cases value with
  | table entries =>
      obtain ⟨hkeys, -⟩ := Toml.keysOnce_table_iff.mp h
      simp only [settingsOf]
      split
      · next hnone =>
        have hknown : NamesSettings entries := by
          intro entry hentry
          by_contra hno
          have hmem : entry.1 ∈ unsupportedKeys entries := mem_unsupportedKeys_iff.mpr
            ⟨List.mem_map_of_mem hentry, fun name heq => hno ⟨name, heq⟩⟩
          exact absurd hmem (hnone ▸ List.not_mem_nil)
        exact .settings hknown (Settings.settingOf_enter hknown hkeys)
      · next hsome =>
        exact .unsupported hsome (sorted_unsupportedKeys hkeys)
          fun _ => mem_unsupportedKeys_iff
  | _ => exact .notATable (by simp)

/-! ## Loading -/

lemma loadFrom_append (h : ∀ place ∈ before, tableIn? tree place = .ok none) :
    loadFrom tree (before ++ rest) = loadFrom tree rest := by
  induction before with
  | nil => rfl
  | cons place before ih =>
      obtain ⟨hfirst, hbefore⟩ := List.forall_mem_cons.mp h
      rw [List.cons_append, loadFrom, hfirst]
      exact ih hbefore

/-- A table that is held has its keys once, like the document. -/
lemma keysOnce_of_holds {place : SettingsPlace} (h : place.Holds tree table value) :
    Toml.KeysOnce value := by
  obtain ⟨document, -, -, ⟨bytes, text, -, -, hparse⟩, -, -, hfound⟩ := h
  exact Toml.keysOnce_of_find? (Toml.keysOnce_parse hparse) hfound

/-- **Loading is what the nearest table says**, in every tree in which reading the files that are
tried comes to the same. -/
lemma loadFrom_of_nearestTable (h : NearestTable tree directory tried nearest)
    (hread : ∀ place ∈ tried, tree.Readable place.location) :
    ∃ result, LoadResult nearest result ∧
      ∀ other : FileTree, (∀ place ∈ tried, tableIn? other place = tableIn? tree place) →
        loadFrom other (candidates directory) = result.mapError .settings := by
  cases h with
  | none hnone =>
      refine ⟨_, .default, fun other hsame => ?_⟩
      have hall : ∀ place ∈ candidates directory, tableIn? other place = .ok none := by
        intro place hplace
        rw [hsame place hplace]
        exact tableIn?_eq_none_iff.mpr ⟨hread place hplace, hnone place hplace⟩
      rw [← List.append_nil (candidates directory), loadFrom_append hall]
      rfl
  | found hcandidates hbefore hholds =>
      next before above place table value =>
      refine ⟨_, loadResult_settingsOf (keysOnce_of_holds hholds) place.location table,
        fun other hsame => ?_⟩
      have hskipped : ∀ p ∈ before, tableIn? other p = .ok none := by
        intro p hp
        have htried : p ∈ before ++ [place] := List.mem_append_left _ hp
        rw [hsame p htried]
        exact tableIn?_eq_none_iff.mpr ⟨hread p htried, hbefore p hp⟩
      have hfound : tableIn? other place = .ok (some (table, value)) := by
        rw [hsame place (by simp)]
        exact tableIn?_eq_some_iff.mpr hholds
      rw [hcandidates, loadFrom_append hskipped, loadFrom, hfound]

lemma loadSettings_eq (hpath : checkPath path = .ok path) (tree : FileTree) :
    loadSettings tree cwd path = loadFrom tree (candidates (cwd.resolve path)) := by
  rw [loadSettings, hpath, ← settingsPlaces_eq]
  rfl

/-- **The nearest table decides.**  Where the files that may decide can be read, loading comes to
what the nearest table says, and to the settings that hold by default if there is none.  In another
tree it comes to the same if the files look the same there that are tried, up to the one with the
nearest table, whatever there is above. -/
theorem loadSettings_of_nearestTable (hpath : checkPath path = .ok path)
    (hread : ∀ place ∈ candidates (cwd.resolve path), tree.Readable place.location) :
    ∃ tried nearest result, NearestTable tree (cwd.resolve path) tried nearest ∧
      LoadResult nearest result ∧
      loadSettings tree cwd path = result.mapError .settings ∧
      ∀ other : FileTree,
        (∀ place ∈ tried, other.entry? place.location = tree.entry? place.location) →
          loadSettings other cwd path = loadSettings tree cwd path := by
  obtain ⟨tried, nearest, hnearest⟩ := exists_nearestTable tree (cwd.resolve path)
  have htried : ∀ place ∈ tried, tree.Readable place.location :=
    fun place hplace => hread place (hnearest.mem_candidates hplace)
  obtain ⟨result, hresult, hload⟩ := loadFrom_of_nearestTable hnearest htried
  have htree : loadSettings tree cwd path = result.mapError .settings := by
    rw [loadSettings_eq hpath]
    exact hload tree fun _ _ => rfl
  refine ⟨tried, nearest, result, hnearest, hresult, htree, fun other hsame => ?_⟩
  rw [htree, loadSettings_eq hpath]
  exact hload other fun place hplace => tableIn?_congr (hsame place hplace)

end

/-! ## A tree to look at -/

/-- The bytes of a text in ASCII. -/
def asciiBytes (s : String) : List UInt8 := s.toList.map fun c => UInt8.ofNat c.toNat

/-- A malformed file beside one with a table, and above them a table with a key that is no
setting. -/
def nestedFiles : FileTree :=
  ((FileTree.empty.add ["site", "pyproject.toml"] (.file (asciiBytes "not ="))).add
    ["site", ".hypertext-literal.toml"] (.file (asciiBytes
      "[hypertext-literal]\nmarkup_separator = '|'\nnested_attribute_groups = ['hx']"))).add
    ["pyproject.toml"] (.file (asciiBytes "[tool.hypertext-literal]\nunexpected = true"))

/-- The table in the second file decides, and the one above is not looked at. -/
theorem loadSettings_of_nestedFiles :
    (∀ place ∈ candidates (Location.resolve ["site"] "."), nestedFiles.Readable place.location) ∧
    ∃ tried nearest settings,
      NearestTable nestedFiles (Location.resolve ["site"] ".") tried nearest ∧
      LoadResult nearest (.ok settings) ∧ loadSettings nestedFiles ["site"] "." = .ok settings ∧
      settings.check = .ok ⟨"|", " ", ["hx"]⟩ := by
  have hread : ∀ place ∈ candidates (Location.resolve ["site"] "."),
      nestedFiles.Readable place.location := by decide +kernel
  have hchecked : (loadSettings nestedFiles ["site"] ".").toOption.map Settings.check
      = some (.ok ⟨"|", " ", ["hx"]⟩) := by decide +kernel
  obtain ⟨tried, nearest, result, hnearest, hresult, hload, -⟩ :=
    loadSettings_of_nearestTable (by decide +kernel) hread
  rw [hload] at hchecked
  cases result with
  | error e => exact absurd hchecked (by simp [Except.mapError, Except.toOption])
  | ok settings =>
      exact ⟨hread, tried, nearest, settings, hnearest, hresult, hload, Option.some.inj hchecked⟩

end SafeMarkup
