/-!
# Entity references

Five characters have a meaning in markup, and text shows them by reference.

* `entityOf?` — the five references.
* `escape` — text with the references in place of the characters.
* `unescape` — the text that a reader sees: each of the five references, from left to right, as the
  character it stands for.
* `Substitution`, `escapeWith` — the same with a table of one's own.
-/

namespace SafeMarkup

/-- The reference for a character with a meaning in markup. -/
def entityOf? (c : Char) : Option String :=
  if c = '&' then some "&amp;"
  else if c = '<' then some "&lt;"
  else if c = '>' then some "&gt;"
  else if c = '\'' then some "&apos;"
  else if c = '"' then some "&quot;"
  else none

/-- How a character is written in text. -/
def escapeOne (c : Char) : List Char :=
  match entityOf? c with
  | some reference => reference.toList
  | none => [c]

/-- The characters of a text with references in place of the five. -/
def escapeChars (cs : List Char) : List Char := cs.flatMap escapeOne

/-- Text with references in place of the five characters. -/
def escape (s : String) : String := String.ofList (escapeChars s.toList)

/-- Reads the five references back, from left to right; all else stands for itself. -/
def unescapeChars : List Char → List Char
  | [] => []
  | '&' :: 'a' :: 'm' :: 'p' :: ';' :: rest => '&' :: unescapeChars rest
  | '&' :: 'l' :: 't' :: ';' :: rest => '<' :: unescapeChars rest
  | '&' :: 'g' :: 't' :: ';' :: rest => '>' :: unescapeChars rest
  | '&' :: 'a' :: 'p' :: 'o' :: 's' :: ';' :: rest => '\'' :: unescapeChars rest
  | '&' :: 'q' :: 'u' :: 'o' :: 't' :: ';' :: rest => '"' :: unescapeChars rest
  | c :: rest => c :: unescapeChars rest

/-- The text that a reader of escaped text sees. -/
def unescape (s : String) : String := String.ofList (unescapeChars s.toList)

/-! ## Tables of one's own -/

/-- What is written for each character: `none` leaves it as it is. -/
abbrev Substitution := Char → Option String

/-- A row of a table is not for a single character. -/
inductive SubstitutionError where
  | notOneCharacter (key : String)
  deriving DecidableEq, Repr, Inhabited

/-- The wording of the error. -/
def SubstitutionError.message : SubstitutionError → String
  | notOneCharacter _ => "string keys in translate table must be of length 1"

/-- The table with the given rows.  A row without a replacement deletes its character, and of two
rows for a character the later one counts. -/
def Substitution.ofRows :
    List (String × Option String) → Except SubstitutionError Substitution
  | [] => .ok fun _ => none
  | (key, replacement) :: rest =>
    match key.toList with
    | [c] =>
      (Substitution.ofRows rest).map fun table d =>
        match table d with
        | some later => some later
        | none => if d = c then some (replacement.getD "") else none
    | _ => .error (.notOneCharacter key)

/-- Text with the replacements of a table in place of its characters. -/
def escapeWith (table : Substitution) (s : String) : String :=
  String.ofList (s.toList.flatMap fun c =>
    match table c with
    | some replacement => replacement.toList
    | none => [c])

end SafeMarkup
