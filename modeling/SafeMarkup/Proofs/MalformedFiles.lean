import SafeMarkup.Proofs.NearestTable
import SafeMarkup.Proofs.Results

/-!
# Files that hold no document

A file for settings may hold any bytes.  If they are no well-formed document, the file is meant to
be passed over, as if it were not there.  That is what happens to text that is not well-formed.  But
bytes that are no text end the loading with an error, and so does an integer that is too long to be
read, unless a table is found in front of them.

* `FileTree.withoutMalformed` — a tree without the files for settings that hold no document.
* `entry?_withoutMalformed`, `tableIn?_withoutMalformed` — where a file can be read, reading it
  comes to the same in both trees.
* `exists_loadFrom_error` — where a file that is tried cannot be read, loading ends with its error.
* **`loadSettings_ignores_malformed_iff`** — files without a document are passed over exactly if all
  files that are tried can be read.
-/

namespace SafeMarkup

/-- Whether bytes are a well-formed document. -/
def isDocument (bytes : List UInt8) : Bool :=
  match Utf8.decode bytes with
  | .ok text => (Toml.parse text).isOk
  | .error _ => false

/-- Whether a file with this location may hold settings. -/
def isSettingsFile (location : Location) : Bool :=
  location.getLast? = some "pyproject.toml" || location.getLast? = some ".hypertext-literal.toml"

/-- A tree without the files for settings that hold no well-formed document. -/
def FileTree.withoutMalformed (tree : FileTree) : FileTree :=
  ⟨fun location => (tree.entry? location).filter fun entry =>
    match entry with
    | .file bytes => !isSettingsFile location || isDocument bytes
    | .directory => true⟩

section

variable {tree : FileTree} {cwd directory location : Location} {path : String}
  {place : SettingsPlace} {tried : List SettingsPlace}
  {nearest : Option (Location × TomlPath × Toml)}

lemma isDocument_of_hasDocument {bytes : List UInt8} {document : TomlTable}
    (hfile : tree.entry? location = some (.file bytes))
    (h : tree.HasDocument location document) : isDocument bytes = true := by
  obtain ⟨bytes', text, hfile', htext, hparse⟩ := h
  obtain rfl := FileEntry.file.inj (Option.some.inj (hfile.symm.trans hfile'))
  simp only [isDocument, htext, hparse]
  rfl

/-- A file is left as it is, or it is left out and holds no document. -/
lemma entry?_withoutMalformed (tree : FileTree) (location : Location) :
    tree.withoutMalformed.entry? location = tree.entry? location ∨
      tree.withoutMalformed.entry? location = none ∧
        ∀ document, ¬ tree.HasDocument location document := by
  cases hentry : tree.entry? location with
  | none => exact Or.inl (by simp only [FileTree.withoutMalformed, hentry, Option.filter_none])
  | some entry =>
      cases entry with
      | directory => exact Or.inl (by simp only [FileTree.withoutMalformed, hentry]; rfl)
      | file bytes =>
          by_cases hkept : (!isSettingsFile location || isDocument bytes) = true
          · left
            simp only [FileTree.withoutMalformed, hentry, Option.filter_some, hkept, if_true]
          · refine Or.inr ⟨?_, fun document hdocument => hkept ?_⟩
            · simp only [FileTree.withoutMalformed, hentry, Option.filter_some, hkept]
              rfl
            · rw [isDocument_of_hasDocument hentry hdocument, Bool.or_true]

/-- **A file without a document is passed over if it can be read.** -/
lemma tableIn?_withoutMalformed (h : tree.Readable place.location) :
    tableIn? tree.withoutMalformed place = tableIn? tree place := by
  rcases entry?_withoutMalformed tree place.location with hsame | ⟨hnone, hno⟩
  · exact tableIn?_congr hsame
  · have htable : ¬ place.HoldsTable tree := by
      rintro ⟨table, value, document, -, -, hdocument, -⟩
      exact hno document hdocument
    rw [tableIn?_eq_none_iff.mpr ⟨h, htable⟩, tableIn?, hnone]

/-- **A file that cannot be read ends the loading**, if it is tried. -/
lemma exists_loadFrom_error (h : NearestTable tree directory tried nearest)
    (hplace : place ∈ tried) (hunreadable : ¬ tree.Readable place.location) :
    ∃ location e, tree.Refuses location e ∧ loadFrom tree (candidates directory) = .error e := by
  -- the first such file counts: all in front of it are passed over
  rcases exists_first_or_none (fun p => ¬ tree.Readable p.location) tried with
    hnone | ⟨before, first, after, hfirst, hbefore, hrefused⟩
  · exact absurd hunreadable (hnone place hplace)
  simp only [readable_iff, not_forall, not_not] at hrefused
  obtain ⟨e, hrefuses⟩ := hrefused
  obtain ⟨above, habove⟩ := h.exists_above
  have hskipped : ∀ p ∈ before, tableIn? tree p = .ok none := fun p hp =>
    tableIn?_eq_none_iff.mpr ⟨not_not.mp (hbefore p hp), h.not_holdsTable hfirst p hp⟩
  refine ⟨first.location, e, hrefuses, ?_⟩
  rw [habove, hfirst, List.append_assoc, loadFrom_append hskipped, List.cons_append, loadFrom,
    tableIn?_eq_error_iff.mpr hrefuses]

/-- What a file that cannot be read ends with is no error of settings. -/
lemma ne_settings_of_refuses {e : LoadError} (h : tree.Refuses location e) (s : SettingsError) :
    e ≠ .settings s := by
  cases h <;> simp

/-- **When files without a document are ignored.**  Loading fails with errors of settings only, and
comes to the same as without the files that hold no document, exactly if all files that are tried,
up to the one with the nearest table, can be read: each is text, and holds no integer that is too
long to be read. -/
theorem loadSettings_ignores_malformed_iff (hpath : checkPath path = .ok path) :
    ((∀ e, loadSettings tree cwd path = .error e → ∃ s, e = .settings s) ∧
      loadSettings tree cwd path = loadSettings tree.withoutMalformed cwd path) ↔
    ∃ tried nearest, NearestTable tree (cwd.resolve path) tried nearest ∧
      ∀ place ∈ tried, tree.Readable place.location := by
  rw [loadSettings_eq hpath, loadSettings_eq hpath]
  constructor
  · rintro ⟨hsettings, -⟩
    obtain ⟨tried, nearest, hnearest⟩ := exists_nearestTable tree (cwd.resolve path)
    refine ⟨tried, nearest, hnearest, fun place hplace => ?_⟩
    by_contra hunreadable
    obtain ⟨location, e, hrefuses, hload⟩ := exists_loadFrom_error hnearest hplace hunreadable
    obtain ⟨s, hs⟩ := hsettings e hload
    exact ne_settings_of_refuses hrefuses s hs
  · rintro ⟨tried, nearest, hnearest, hread⟩
    obtain ⟨result, -, hload⟩ := loadFrom_of_nearestTable hnearest hread
    have htree := hload tree fun _ _ => rfl
    have hwithout := hload tree.withoutMalformed
      fun place hplace => tableIn?_withoutMalformed (hread place hplace)
    refine ⟨fun e he => ?_, htree.trans hwithout.symm⟩
    exact exists_of_mapError_eq_error (htree.symm.trans he)

end

/-- A malformed file is passed over, as if it were not there. -/
theorem loadSettings_ignores_malformed_beside_table :
    nestedFiles.entry? ["site", "pyproject.toml"] ≠ none ∧
    nestedFiles.withoutMalformed.entry? ["site", "pyproject.toml"] = none ∧
    loadSettings nestedFiles ["site"] "."
      = loadSettings nestedFiles.withoutMalformed ["site"] "." := by
  have hread : ∀ place ∈ candidates (Location.resolve ["site"] "."),
      nestedFiles.Readable place.location := by decide +kernel
  obtain ⟨tried, nearest, hnearest⟩ :=
    exists_nearestTable nestedFiles (Location.resolve ["site"] ".")
  have htried : ∀ place ∈ tried, nestedFiles.Readable place.location :=
    fun place hplace => hread place (hnearest.mem_candidates hplace)
  have hsame := ((loadSettings_ignores_malformed_iff (by decide +kernel)).mpr
    ⟨tried, nearest, hnearest, htried⟩).2
  exact ⟨by decide +kernel, by decide +kernel, hsame⟩

/-- A byte that starts no character is no document, and still ends the loading. -/
theorem invalid_byte_not_ignored :
    let tree := FileTree.empty.add ["pyproject.toml"] (.file [0xff])
    (∃ fault, loadSettings tree [] "." = .error (.encoding fault)) ∧
      loadSettings tree.withoutMalformed [] "." = .ok Settings.default :=
  ⟨⟨_, rfl⟩, rfl⟩

end SafeMarkup
