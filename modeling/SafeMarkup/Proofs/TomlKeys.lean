import Mathlib.Data.List.Nodup
import SafeMarkup.Proofs.Results
import SafeMarkup.Toml.Reader

/-!
# Keys of a document

A key of a TOML document is never given twice: a table that is there may be added to, but a pair is
only added where its key is new.  So wherever a table stands in a document, inside of arrays and of
other tables too, each of its keys stands in it once, and look-up and membership are the same.

* `Toml.KeysOnce` — each key of a table stands in it once, at every depth.
* `Toml.keysOnce_alter?` — a change at the end of a path keeps that up if the change does.
* `Toml.keysOnce_readValue` — the values that are read have it, by the calls of the reader.
* `Toml.Draft.KeysOnce` — the document so far has it, and every line keeps it up.
* **`Toml.keysOnce_parse`** — the documents that are read have it.
-/

namespace SafeMarkup.Toml

/-- Each key of a table stands in it once, and so it is in all that the value holds. -/
inductive KeysOnce : Toml → Prop
  | plain {value : Toml} (h : isClosed value = false) : KeysOnce value
  | array {items : List Toml} (h : ∀ item ∈ items, KeysOnce item) : KeysOnce (array items)
  | table {entries : TomlTable} (hkeys : (entries.map Prod.fst).Nodup)
      (h : ∀ entry ∈ entries, KeysOnce entry.2) : KeysOnce (table entries)

section

variable {key : String} {value changed : Toml} {entries result inner : TomlTable}
  {items : List Toml} {path : TomlPath} {change : TomlTable → Option TomlTable}

lemma keysOnce_table_iff : KeysOnce (table entries) ↔
    (entries.map Prod.fst).Nodup ∧ ∀ entry ∈ entries, KeysOnce entry.2 := by
  constructor
  · intro h
    cases h with
    | plain hplain => exact absurd hplain (by simp [isClosed])
    | table hkeys h => exact ⟨hkeys, h⟩
  · exact fun ⟨hkeys, h⟩ => .table hkeys h

lemma keysOnce_array_iff : KeysOnce (array items) ↔ ∀ item ∈ items, KeysOnce item := by
  constructor
  · intro h
    cases h with
    | plain hplain => exact absurd hplain (by simp [isClosed])
    | array h => exact h
  · exact .array

lemma keysOnce_empty : KeysOnce (table []) :=
  .table List.nodup_nil fun _ h => absurd h List.not_mem_nil

/-! ## Look-up -/

lemma mem_of_lookup? : ∀ {entries : TomlTable}, lookup? key entries = some value →
    (key, value) ∈ entries
  | [], h => absurd h (by simp [lookup?])
  | (other, old) :: entries, h => by
      rw [lookup?] at h
      split_ifs at h with hsame
      · rw [hsame, Option.some.inj h]
        exact List.mem_cons_self
      · exact List.mem_cons_of_mem _ (mem_of_lookup? h)

lemma not_mem_of_lookup?_eq_none : ∀ {entries : TomlTable}, lookup? key entries = none →
    key ∉ entries.map Prod.fst
  | [], _ => List.not_mem_nil
  | (other, old) :: entries, h => by
      rw [lookup?] at h
      split_ifs at h with hsame
      rw [List.map_cons, List.mem_cons, not_or]
      exact ⟨fun heq => hsame heq.symm, not_mem_of_lookup?_eq_none h⟩

/-- What is found in a value has its keys once, as the value does. -/
lemma keysOnce_of_find? : ∀ {path : TomlPath} {value found : Toml}, KeysOnce value →
    find? path value = some found → KeysOnce found
  | [], _, _, hvalue, h => Option.some.inj h ▸ hvalue
  | key :: path, value, found, hvalue, h => by
      cases value with
      | table entries =>
          obtain ⟨next, hnext, hfound⟩ := Option.bind_eq_some_iff.mp h
          exact keysOnce_of_find? ((keysOnce_table_iff.mp hvalue).2 _ (mem_of_lookup? hnext)) hfound
      | _ => exact absurd h (by simp [find?])

/-! ## Changes -/

lemma map_fst_replace : ∀ entries : TomlTable,
    (replace key value entries).map Prod.fst = entries.map Prod.fst
  | [] => rfl
  | (other, old) :: entries => by
      rw [replace]
      split_ifs
      · rfl
      · rw [List.map_cons, map_fst_replace entries, List.map_cons]

lemma eq_or_mem_of_mem_replace {entry : String × Toml} : ∀ {entries : TomlTable},
    entry ∈ replace key value entries → entry.2 = value ∨ entry ∈ entries
  | [], h => absurd h List.not_mem_nil
  | (other, old) :: entries, h => by
      rw [replace] at h
      split_ifs at h
      · rcases List.mem_cons.mp h with rfl | h
        · exact Or.inl rfl
        · exact Or.inr (List.mem_cons_of_mem _ h)
      · rcases List.mem_cons.mp h with rfl | h
        · exact Or.inr List.mem_cons_self
        · exact (eq_or_mem_of_mem_replace h).imp_right (List.mem_cons_of_mem _)

lemma keysOnce_replace (h : KeysOnce (table entries)) (hvalue : KeysOnce value) :
    KeysOnce (table (replace key value entries)) := by
  obtain ⟨hkeys, hentries⟩ := keysOnce_table_iff.mp h
  refine .table (by rwa [map_fst_replace]) fun entry hentry => ?_
  rcases eq_or_mem_of_mem_replace hentry with rfl | hold
  · exact hvalue
  · exact hentries entry hold

/-- A pair with a new key. -/
lemma keysOnce_concat (h : KeysOnce (table entries)) (hnew : lookup? key entries = none)
    (hvalue : KeysOnce value) : KeysOnce (table (entries ++ [(key, value)])) := by
  obtain ⟨hkeys, hentries⟩ := keysOnce_table_iff.mp h
  refine .table ?_ fun entry hentry => ?_
  · rw [List.map_append, List.map_singleton, ← List.concat_eq_append]
    exact hkeys.concat (not_mem_of_lookup?_eq_none hnew)
  · rcases List.mem_append.mp hentry with hold | hentry
    · exact hentries entry hold
    · rw [List.mem_singleton.mp hentry]
      exact hvalue

/-- The table that a value stands for has its keys once, and the value still does when it holds
another such table instead. -/
lemma keysOnce_enter? {throughArrays : Bool} {rebuild : TomlTable → Toml} (h : KeysOnce value)
    (henter : enter? throughArrays value = some (inner, rebuild)) : KeysOnce (table inner) ∧
      ∀ entries, KeysOnce (table entries) → KeysOnce (rebuild entries) := by
  cases value with
  | table entries =>
      obtain ⟨rfl, rfl⟩ := Prod.mk.inj (Option.some.inj henter)
      exact ⟨h, fun _ => id⟩
  | array items =>
      have hitems := keysOnce_array_iff.mp h
      rw [enter?] at henter
      split_ifs at henter
      split at henter
      · next entries hlast =>
        obtain ⟨rfl, rfl⟩ := Prod.mk.inj (Option.some.inj henter)
        refine ⟨hitems _ (List.mem_of_getLast? hlast), fun entries hentries => .array ?_⟩
        intro item hitem
        rcases List.mem_append.mp hitem with hold | hitem
        · exact hitems item (List.dropLast_subset _ hold)
        · rw [List.mem_singleton.mp hitem]
          exact hentries
      · exact absurd henter (by simp)
  | _ => exact absurd henter (by simp [enter?])

/-- A change that leaves the keys of every table in it once. -/
def KeepsKeysOnce (change : TomlTable → Option TomlTable) : Prop :=
  ∀ entries result, KeysOnce (table entries) → change entries = some result →
    KeysOnce (table result)

/-- **A change at the end of a path** leaves the keys once if it does so where it happens. -/
lemma keysOnce_alter? {throughArrays : Bool} (hchange : KeepsKeysOnce change) :
    ∀ path : TomlPath, KeepsKeysOnce (alter? throughArrays change path)
  | [] => hchange
  | key :: path => by
      intro entries result h halter
      rw [alter?] at halter
      cases hlookup : lookup? key entries with
      | none =>
          rw [hlookup] at halter
          obtain ⟨made, hmade, rfl⟩ := Option.map_eq_some_iff.mp halter
          exact keysOnce_concat h hlookup (keysOnce_alter? hchange path _ _ keysOnce_empty hmade)
      | some value =>
          rw [hlookup] at halter
          obtain ⟨⟨inner, rebuild⟩, henter, halter⟩ := Option.bind_eq_some_iff.mp halter
          obtain ⟨changed, hchanged, rfl⟩ := Option.map_eq_some_iff.mp halter
          have hvalue := (keysOnce_table_iff.mp h).2 _ (mem_of_lookup? hlookup)
          obtain ⟨hinner, hrebuild⟩ := keysOnce_enter? hvalue henter
          exact keysOnce_replace h (hrebuild _ (keysOnce_alter? hchange path _ _ hinner hchanged))

lemma keepsKeysOnce_addKey? (key : String) (hvalue : KeysOnce value) :
    KeepsKeysOnce (addKey? key value) := by
  intro entries result h hadd
  rw [addKey?] at hadd
  split_ifs at hadd with hthere
  obtain rfl := Option.some.inj hadd
  exact keysOnce_concat h (by simpa using hthere) hvalue

lemma keepsKeysOnce_addArrayTable? (key : String) : KeepsKeysOnce (addArrayTable? key) := by
  have hempty : ∀ items, KeysOnce (array items) → KeysOnce (array (items ++ [table []])) := by
    intro items hitems
    refine .array fun item hitem => ?_
    rcases List.mem_append.mp hitem with hold | hitem
    · exact keysOnce_array_iff.mp hitems item hold
    · rw [List.mem_singleton.mp hitem]
      exact keysOnce_empty
  intro entries result h hadd
  rw [addArrayTable?] at hadd
  split at hadd
  · next hlookup =>
    obtain rfl := Option.some.inj hadd
    exact keysOnce_concat h hlookup
      (hempty [] (.array fun _ hitem => absurd hitem List.not_mem_nil))
  · next items hlookup =>
    obtain rfl := Option.some.inj hadd
    have hitems := (keysOnce_table_iff.mp h).2 _ (mem_of_lookup? hlookup)
    exact keysOnce_replace h (hempty items hitems)
  · exact absurd hadd (by simp)

lemma keysOnce_addInline? {frozen : List TomlPath} (h : KeysOnce (table entries))
    (hvalue : KeysOnce value) (hadd : addInline? frozen path value entries = some result) :
    KeysOnce (table result) := by
  rw [addInline?] at hadd
  split_ifs at hadd
  split at hadd
  · exact keysOnce_alter? (keepsKeysOnce_addKey? _ hvalue) _ _ _ h hadd
  · exact absurd hadd (by simp)

end

/-! ## Values -/

section

variable {α : Type} {cs rest : List Char} {value : Toml}

lemma eq_some_of_require {found : Option α} {a : α} (h : require found = .ok a) :
    found = some a := by
  cases found with
  | none => exact absurd h (by simp [require])
  | some b => exact congrArg some (Except.ok.inj h)

lemma isClosed_of_readRadix {base : ℕ} (h : readRadix base cs = some (value, rest)) :
    isClosed value = false := by
  unfold readRadix at h
  split at h
  · exact absurd h (by simp)
  · rw [← (Prod.mk.inj (Option.some.inj h)).1]
    rfl

lemma isClosed_of_readDecimal (h : readDecimal cs = some (.ok (value, rest))) :
    isClosed value = false := by
  simp only [readDecimal] at h
  split_ifs at h
  · obtain ⟨n, -, hn⟩ := exists_of_map_eq_ok (Option.some.inj h)
    rw [← (Prod.mk.inj hn).1]
    rfl
  · obtain ⟨x, -, hx⟩ := Option.map_eq_some_iff.mp h
    rw [← (Prod.mk.inj (Except.ok.inj hx)).1]
    rfl

lemma isClosed_of_readNumberWord (h : readNumberWord cs = some (value, rest)) :
    isClosed value = false := by
  simp only [readNumberWord] at h
  split at h
  · rw [← (Prod.mk.inj (Option.some.inj h)).1]
    rfl
  · obtain ⟨_, -, hword⟩ := Option.map_eq_some_iff.mp h
    rw [← (Prod.mk.inj hword).1]
    rfl

lemma isClosed_of_readNumber (h : readNumber cs = some (.ok (value, rest))) :
    isClosed value = false := by
  simp only [readNumber, Option.orElse_eq_orElse, Option.orElse_eq_or, Option.or_eq_some_iff,
    Option.map_eq_some_iff] at h
  rcases h with ⟨r, hradix, hr⟩ | ⟨-, hdecimal | ⟨-, r, hword, hr⟩⟩
  · obtain rfl := Except.ok.inj hr
    split at hradix
    · exact isClosed_of_readRadix hradix
    · exact isClosed_of_readRadix hradix
    · exact isClosed_of_readRadix hradix
    · exact absurd hradix (by simp)
  · exact isClosed_of_readDecimal hdecimal
  · obtain rfl := Except.ok.inj hr
    exact isClosed_of_readNumberWord hword

lemma isClosed_of_readMoment (h : readMoment cs = some (.ok (value, rest))) :
    isClosed value = false := by
  simp only [readMoment] at h
  split at h
  · split_ifs at h
    · rw [← (Prod.mk.inj (Except.ok.inj (Option.some.inj h))).1]
      rfl
    · exact absurd (Option.some.inj h) (by simp)
  · obtain ⟨_, -, hmoment⟩ := Option.map_eq_some_iff.mp h
    rw [← (Prod.mk.inj (Except.ok.inj hmoment)).1]
    rfl

/-- A value without parts is no table, and no array either. -/
lemma isClosed_of_readScalar (h : readScalar cs = .ok (value, rest)) : isClosed value = false := by
  have hstring : require ((readString cs).map fun r => (string (String.ofList r.1), r.2))
      = .ok (value, rest) → isClosed value = false := by
    intro hread
    obtain ⟨_, -, hvalue⟩ := Option.map_eq_some_iff.mp (eq_some_of_require hread)
    rw [← (Prod.mk.inj hvalue).1]
    rfl
  unfold readScalar at h
  split at h
  · exact hstring h
  · exact hstring h
  split at h
  · rw [← (Prod.mk.inj (Except.ok.inj h)).1]
    rfl
  · rw [← (Prod.mk.inj (Except.ok.inj h)).1]
    rfl
  cases hread : (readMoment cs <|> readNumber cs) with
  | none =>
      rw [hread] at h
      exact absurd h (by simp)
  | some read =>
      rw [hread, Option.getD_some] at h
      rw [h, Option.orElse_eq_orElse, Option.orElse_eq_or, Option.or_eq_some_iff] at hread
      rcases hread with hmoment | ⟨-, hnumber⟩
      · exact isClosed_of_readMoment hmoment
      · exact isClosed_of_readNumber hnumber

mutual

/-- **A value that is read has its keys once.** -/
theorem keysOnce_readValue : ∀ {depth : ℕ} {cs rest : List Char} {value : Toml},
    readValue depth cs = .ok (value, rest) → KeysOnce value
  | 0, _, _, _, h => absurd h (by simp [readValue])
  | depth + 1, cs, rest, value, h => by
      unfold readValue at h
      split at h
      · obtain ⟨body, -, h⟩ := exists_of_bind_eq_ok h
        split at h
        · rw [← (Prod.mk.inj (Except.ok.inj h)).1]
          exact .array fun _ hitem => absurd hitem List.not_mem_nil
        · obtain ⟨⟨items, behind⟩, hitems, h⟩ := exists_of_bind_eq_ok h
          rw [← (Prod.mk.inj (Except.ok.inj h)).1]
          exact .array (keysOnce_readItems hitems)
      · split at h
        · rw [← (Prod.mk.inj (Except.ok.inj h)).1]
          exact keysOnce_empty
        · obtain ⟨⟨entries, behind⟩, hpairs, h⟩ := exists_of_map_eq_ok h
          rw [← (Prod.mk.inj h).1]
          exact keysOnce_readPairs keysOnce_empty hpairs
      · exact .plain (isClosed_of_readScalar h)

/-- The items of an array that is read have their keys once. -/
theorem keysOnce_readItems : ∀ {depth : ℕ} {cs rest : List Char} {items : List Toml},
    readItems depth cs = .ok (items, rest) → ∀ item ∈ items, KeysOnce item
  | 0, _, _, _, h => absurd h (by simp [readItems])
  | depth + 1, cs, rest, items, h => by
      rw [readItems] at h
      obtain ⟨⟨item, behind⟩, hitem, h⟩ := exists_of_bind_eq_ok h
      obtain ⟨more, -, h⟩ := exists_of_bind_eq_ok h
      have hfirst := keysOnce_readValue hitem
      have hlast : ∀ item', item' ∈ [item] → KeysOnce item' := by
        intro item' hmem
        rwa [List.mem_singleton.mp hmem]
      split at h
      · rw [← (Prod.mk.inj (Except.ok.inj h)).1]
        exact hlast
      · obtain ⟨body, -, h⟩ := exists_of_bind_eq_ok h
        split at h
        · rw [← (Prod.mk.inj (Except.ok.inj h)).1]
          exact hlast
        · obtain ⟨⟨others, behind⟩, hothers, h⟩ := exists_of_bind_eq_ok h
          rw [← (Prod.mk.inj (Except.ok.inj h)).1]
          exact List.forall_mem_cons.mpr ⟨hfirst, keysOnce_readItems hothers⟩
      · exact absurd h (by simp)

/-- The pairs of a table in one line leave the keys once that are there. -/
theorem keysOnce_readPairs : ∀ {depth : ℕ} {frozen : List TomlPath} {entries result : TomlTable}
    {cs rest : List Char}, KeysOnce (table entries) →
      readPairs depth frozen entries cs = .ok (result, rest) → KeysOnce (table result)
  | 0, _, _, _, _, _, _, h => absurd h (by simp [readPairs])
  | depth + 1, frozen, entries, result, cs, rest, hentries, h => by
      rw [readPairs] at h
      obtain ⟨⟨key, behind⟩, -, h⟩ := exists_of_bind_eq_ok h
      obtain ⟨⟨value, behind⟩, hvalue, h⟩ := exists_of_bind_eq_ok h
      obtain ⟨added, hadded, h⟩ := exists_of_bind_eq_ok h
      have hnext : KeysOnce (table added) :=
        keysOnce_addInline? hentries (keysOnce_readValue hvalue) (eq_some_of_require hadded)
      split at h
      · rw [← (Prod.mk.inj (Except.ok.inj h)).1]
        exact hnext
      · exact keysOnce_readPairs hnext h
      · exact absurd h (by simp)

end

end

/-! ## Lines -/

namespace Draft

variable {d next : Draft} {key : TomlPath} {value : Toml} {cs rest : List Char}

/-- The document so far has its keys once. -/
def KeysOnce (d : Draft) : Prop := Toml.KeysOnce (table d.root)

lemma keysOnce_openTable (h : d.KeysOnce) (hopen : d.openTable key = some next) :
    next.KeysOnce := by
  rw [openTable] at hopen
  split_ifs at hopen
  obtain ⟨root, hroot, rfl⟩ := Option.map_eq_some_iff.mp hopen
  have hsame : KeepsKeysOnce some := by
    intro entries result hentries heq
    rwa [← Option.some.inj heq]
  exact keysOnce_alter? hsame key _ _ h hroot

lemma keysOnce_openArrayTable (h : d.KeysOnce) (hopen : d.openArrayTable key = some next) :
    next.KeysOnce := by
  rw [openArrayTable] at hopen
  split_ifs at hopen
  obtain ⟨last, -, hopen⟩ := Option.bind_eq_some_iff.mp hopen
  obtain ⟨root, hroot, hopen⟩ := Option.bind_eq_some_iff.mp hopen
  obtain rfl := Option.some.inj hopen
  exact keysOnce_alter? (keepsKeysOnce_addArrayTable? last) _ _ _ h hroot

lemma keysOnce_addPair (h : d.KeysOnce) (hvalue : Toml.KeysOnce value)
    (hadd : d.addPair key value = some next) : next.KeysOnce := by
  simp only [addPair] at hadd
  obtain ⟨last, -, hadd⟩ := Option.bind_eq_some_iff.mp hadd
  split at hadd
  · exact absurd hadd (by simp)
  · obtain ⟨root, hroot, hadd⟩ := Option.bind_eq_some_iff.mp hadd
    obtain rfl := Option.some.inj hadd
    exact keysOnce_alter? (keepsKeysOnce_addKey? last hvalue) _ _ _ h hroot

lemma keysOnce_readHeader (h : d.KeysOnce) (hread : d.readHeader cs = some (next, rest)) :
    next.KeysOnce := by
  have hsettled : { d with ledger := d.ledger.settlePending }.KeysOnce := h
  simp only [readHeader] at hread
  split at hread
  · obtain ⟨⟨key, behind⟩, -, hread⟩ := Option.bind_eq_some_iff.mp hread
    obtain ⟨opened, hopen, hread⟩ := Option.bind_eq_some_iff.mp hread
    obtain ⟨_, -, hread⟩ := Option.bind_eq_some_iff.mp hread
    rw [← (Prod.mk.inj (Option.some.inj hread)).1]
    exact keysOnce_openArrayTable hsettled hopen
  · obtain ⟨⟨key, behind⟩, -, hread⟩ := Option.bind_eq_some_iff.mp hread
    obtain ⟨opened, hopen, hread⟩ := Option.bind_eq_some_iff.mp hread
    obtain ⟨_, -, hread⟩ := Option.bind_eq_some_iff.mp hread
    rw [← (Prod.mk.inj (Option.some.inj hread)).1]
    exact keysOnce_openTable hsettled hopen

lemma keysOnce_readPair (h : d.KeysOnce) (hread : d.readPair cs = .ok (next, rest)) :
    next.KeysOnce := by
  rw [readPair] at hread
  obtain ⟨⟨key, behind⟩, -, hread⟩ := exists_of_bind_eq_ok hread
  obtain ⟨⟨value, behind⟩, hvalue, hread⟩ := exists_of_bind_eq_ok hread
  obtain ⟨added, hadded, hread⟩ := exists_of_bind_eq_ok hread
  rw [← (Prod.mk.inj (Except.ok.inj hread)).1]
  exact keysOnce_addPair h (keysOnce_readValue hvalue) (eq_some_of_require hadded)

/-- **What a line says** leaves the keys of the document once. -/
lemma keysOnce_readStatement (h : d.KeysOnce) (hread : d.readStatement cs = .ok (next, rest)) :
    next.KeysOnce := by
  unfold readStatement at hread
  split at hread
  · rwa [← (Prod.mk.inj (Except.ok.inj hread)).1]
  split_ifs at hread
  · exact keysOnce_readHeader h (eq_some_of_require hread)
  · exact keysOnce_readPair h hread
  · rwa [← (Prod.mk.inj (Except.ok.inj hread)).1]

lemma keysOnce_readLines : ∀ {limit : ℕ} {d next : Draft} {cs : List Char}, d.KeysOnce →
    readLines limit d cs = .ok next → next.KeysOnce
  | 0, _, _, _, h, hread => Except.ok.inj hread ▸ h
  | limit + 1, d, next, cs, h, hread => by
      rw [readLines] at hread
      obtain ⟨⟨after, rest⟩, hstatement, hread⟩ := exists_of_bind_eq_ok hread
      obtain ⟨behind, -, hread⟩ := exists_of_bind_eq_ok hread
      have hafter := keysOnce_readStatement h hstatement
      split at hread
      · rwa [← Except.ok.inj hread]
      · exact keysOnce_readLines hafter hread
      · exact absurd hread (by simp)

end Draft

/-- **The keys of a document.**  Wherever a table stands in a document that is read, each of its
keys stands in it once. -/
theorem keysOnce_parse {text : List Char} {document : TomlTable} (h : parse text = .ok document) :
    KeysOnce (table document) := by
  obtain ⟨d, hread, rfl⟩ := exists_of_map_eq_ok h
  exact Draft.keysOnce_readLines (d := .empty) keysOnce_empty hread

end SafeMarkup.Toml
