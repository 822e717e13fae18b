import SafeMarkup.Toml.Scalar

/-!
# Reading TOML

A document is a sequence of lines: headers, which open a table, and keys with their values, which go
into the table that is open.  A fault ends the reading, so of several the first one counts.

Values hold values, so their readers call one another.  The number of nested calls is bounded by
twice the length of the text, since every value that opens or continues another takes a character.

* `Toml.readKey` — a key, which may be dotted.
* `Toml.readValue` — a value.
* `Toml.parse` — a whole document.
-/

namespace SafeMarkup.Toml

/-! ## Keys -/

/-- Whether a character may stand in a key without quotes. -/
def isBareKeyChar (c : Char) : Bool := c.isAlphanum || c = '-' || c = '_'

/-- Reads one part of a key. -/
def readKeyPart (cs : List Char) : Option (String × List Char) :=
  match cs with
  | '"' :: rest => (readBasic false rest).map fun r => (String.ofList r.1, r.2)
  | '\'' :: rest => (readLiteral false "'" rest).map fun r => (String.ofList r.1, r.2)
  | c :: _ =>
    if isBareKeyChar c then
      some (String.ofList (cs.takeWhile isBareKeyChar), cs.dropWhile isBareKeyChar)
    else none
  | [] => none

/-- Reads the parts of a key, at most `limit` of them, with the blanks around them. -/
def readKeyParts : Nat → List Char → Option (TomlPath × List Char)
  | 0, _ => none
  | limit + 1, cs => do
    let (part, rest) ← readKeyPart cs
    match skipLineSpace rest with
    | '.' :: more =>
      let (parts, behind) ← readKeyParts limit (skipLineSpace more)
      return (part :: parts, behind)
    | behind => return ([part], behind)

/-- Reads a key, with the blanks behind it. -/
def readKey (cs : List Char) : Option (TomlPath × List Char) :=
  readKeyParts (cs.length + 1) cs

/-- Reads a key and the equals sign behind it. -/
def readKeyOfPair (cs : List Char) : Option (TomlPath × List Char) := do
  let (key, rest) ← readKey cs
  return (key, skipLineSpace (← afterChar? '=' rest))

/-! ## Blanks and comments -/

/-- What follows a comment, which ends in front of a line end; a text without a comment at its front
stays as it is. -/
def skipComment (cs : List Char) : Option (List Char) :=
  match cs with
  | '#' :: rest =>
    let comment := rest.takeWhile (· ≠ '\n')
    if comment.any (isIllegal false) then none else some (rest.dropWhile (· ≠ '\n'))
  | _ => some cs

/-- What follows blanks, line ends and comments, of which there are at most `limit`. -/
def skipArraySpace : Nat → List Char → Option (List Char)
  | 0, cs => some cs
  | limit + 1, cs =>
    match cs.dropWhile isAnySpace with
    | '#' :: rest => (skipComment ('#' :: rest)).bind (skipArraySpace limit)
    | other => some other

/-- What follows blanks, line ends and comments. -/
def skipSpace (cs : List Char) : Option (List Char) := skipArraySpace (cs.length + 1) cs

/-! ## Values -/

/-- Whether nothing can be added to a value. -/
def isClosed : Toml → Bool
  | array _ | table _ => true
  | _ => false

/-- Adds a pair to a table that is written in one line, unless it goes into a value that is
complete. -/
def addInline? (frozen : List TomlPath) (key : TomlPath) (value : Toml) (entries : TomlTable) :
    Option TomlTable :=
  if frozen.any fun p => p.isPrefixOf key then none
  else match key.getLast? with
    | some last => alter? false (addKey? last value) key.dropLast entries
    | none => none

/-- Reads a value without parts. -/
def readScalar (cs : List Char) : Except Fault (Toml × List Char) :=
  match cs with
  | '"' :: _ | '\'' :: _ =>
    require ((readString cs).map fun r => (.string (String.ofList r.1), r.2))
  | _ =>
    match afterPrefix? "true" cs, afterPrefix? "false" cs with
    | some rest, _ => .ok (.boolean true, rest)
    | _, some rest => .ok (.boolean false, rest)
    | none, none => (readMoment cs <|> readNumber cs).getD (.error .malformed)

mutual

/-- Reads a value. -/
def readValue : Nat → List Char → Except Fault (Toml × List Char)
  | 0, _ => .error .malformed
  | depth + 1, cs =>
    match cs with
    | '[' :: rest => do
      match ← require (skipSpace rest) with
      | ']' :: behind => return (.array [], behind)
      | body =>
        let (items, behind) ← readItems depth body
        return (.array items, behind)
    | '\x7b' :: rest =>
      match skipLineSpace rest with
      | '\x7d' :: behind => .ok (.table [], behind)
      | body => (readPairs depth [] [] body).map fun r => (.table r.1, r.2)
    | _ => readScalar cs

/-- Reads the items of an array up to its closing bracket. -/
def readItems : Nat → List Char → Except Fault (List Toml × List Char)
  | 0, _ => .error .malformed
  | depth + 1, cs => do
    let (item, rest) ← readValue depth cs
    match ← require (skipSpace rest) with
    | ']' :: behind => return ([item], behind)
    | ',' :: more =>
      match ← require (skipSpace more) with
      | ']' :: behind => return ([item], behind)
      | body =>
        let (items, behind) ← readItems depth body
        return (item :: items, behind)
    | _ => .error .malformed

/-- Reads the pairs of a table in one line up to its closing brace; `entries` are those read so far,
and `frozen` the paths among them to values that are complete. -/
def readPairs :
    Nat → List TomlPath → TomlTable → List Char → Except Fault (TomlTable × List Char)
  | 0, _, _, _ => .error .malformed
  | depth + 1, frozen, entries, cs => do
    let (key, rest) ← require (readKeyOfPair cs)
    let (value, rest) ← readValue depth rest
    let entries ← require (addInline? frozen key value entries)
    match skipLineSpace rest with
    | '\x7d' :: behind => return (entries, behind)
    | ',' :: more =>
      let frozen := if isClosed value then key :: frozen else frozen
      readPairs depth frozen entries (skipLineSpace more)
    | _ => .error .malformed

end

/-! ## Lines -/

/-- A document, as far as it has been read. -/
structure Draft where
  root : TomlTable
  ledger : NameLedger
  /-- The path to the table that is open. -/
  header : TomlPath
  deriving Inhabited

namespace Draft

/-- Nothing read yet. -/
def empty : Draft := ⟨[], .empty, []⟩

/-- Opens a table, which must not have been opened before. -/
def openTable (d : Draft) (key : TomlPath) : Option Draft :=
  if d.ledger.isOpened key || d.ledger.isFrozen key then none
  else (alter? true some key d.root).map fun root => ⟨root, d.ledger.markOpened key, key⟩

/-- Opens one more table of an array of tables. -/
def openArrayTable (d : Draft) (key : TomlPath) : Option Draft := do
  if d.ledger.isFrozen key then none
  else
    let last ← key.getLast?
    let root ← alter? true (addArrayTable? last) key.dropLast d.root
    return ⟨root, (d.ledger.release key).markOpened key, key⟩

/-- The tables that a dotted key goes through, below the table that is open. -/
def tablesOnTheWay (d : Draft) (key : TomlPath) : List TomlPath :=
  (List.range key.length).tail.map fun n => d.header ++ key.take n

/-- Adds a key with its value to the table that is open. -/
def addPair (d : Draft) (key : TomlPath) (value : Toml) : Option Draft := do
  let last ← key.getLast?
  let onTheWay := d.tablesOnTheWay key
  let parent := d.header ++ key.dropLast
  if onTheWay.any d.ledger.isOpened || d.ledger.isFrozen parent then none
  else
    let ledger := { d.ledger with pending := onTheWay ++ d.ledger.pending }
    let root ← alter? true (addKey? last value) parent d.root
    return ⟨root, if isClosed value then ledger.freeze (d.header ++ key) else ledger, d.header⟩

/-- Reads a header from behind its first bracket. -/
def readHeader (d : Draft) (cs : List Char) : Option (Draft × List Char) := do
  let d := { d with ledger := d.ledger.settlePending }
  match cs with
  | '[' :: rest =>
    let (key, rest) ← readKey (skipLineSpace rest)
    return (← d.openArrayTable key, ← afterPrefix? "]]" rest)
  | rest =>
    let (key, rest) ← readKey (skipLineSpace rest)
    return (← d.openTable key, ← afterChar? ']' rest)

/-- Reads a key with its value. -/
def readPair (d : Draft) (cs : List Char) : Except Fault (Draft × List Char) := do
  let (key, rest) ← require (readKeyOfPair cs)
  let (value, rest) ← readValue (2 * rest.length + 2) rest
  return (← require (d.addPair key value), rest)

/-- Reads what a line says, up to a comment or its end. -/
def readStatement (d : Draft) (cs : List Char) : Except Fault (Draft × List Char) :=
  match cs with
  | [] => .ok (d, [])
  | c :: rest =>
    if c = '[' then require (d.readHeader rest)
    else if isBareKeyChar c || c = '"' || c = '\'' then d.readPair cs
    else if c = '#' || c = '\n' then .ok (d, cs)
    else .error .malformed

/-- Reads lines, at most `limit` of them. -/
def readLines : Nat → Draft → List Char → Except Fault Draft
  | 0, d, _ => .ok d
  | limit + 1, d, cs => do
    let (d, rest) ← d.readStatement (skipLineSpace cs)
    match ← require (skipComment (skipLineSpace rest)) with
    | [] => return d
    | '\n' :: more => readLines limit d more
    | _ => .error .malformed

end Draft

/-- Reads a document.  A carriage return in front of a line end is dropped. -/
def parse (text : List Char) : Except Fault TomlTable :=
  let cs := substitute ['\r', '\n'] ['\n'] text
  (Draft.empty.readLines (cs.length + 1) cs).map Draft.root

end SafeMarkup.Toml
