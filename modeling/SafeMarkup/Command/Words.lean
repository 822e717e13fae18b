import SafeMarkup.Text.Quoted
import SafeMarkup.Text.Similar

/-!
# The words of a command line

A command line is a list of words.  Words that start with a hyphen are options, which take a value
or none; `--` ends the options; all other words are positional.

* `OptionForm` — an option that a command knows.
* `CommandLineError` — what is wrong with a command line, and its wording.
* `Words.read` — the options and the positional words of a command line.
-/

namespace SafeMarkup

/-- What is wrong with a command line. -/
inductive CommandLineError where
  /-- An option is not known; others are similar. -/
  | noSuchOption (name : String) (similar : List String)
  | valueExpected (name : String)
  | noValueExpected (name : String)
  | missingCommand
  | noSuchCommand (name : String)
  /-- A parameter, as it is shown to users, has no word. -/
  | missingArgument (parameter : String)
  | extraArguments (words : List String)
  /-- A parameter asks for a file, and its path leads nowhere. -/
  | noSuchFile (parameter path : String)
  /-- A parameter asks for a file, and its path leads to a directory. -/
  | isDirectory (parameter path : String)
  /-- What the words stand for is of no use. -/
  | badValue (reason : String)
  deriving DecidableEq, Repr, Inhabited

/-- What is said about similar options. -/
def similarText : List String → String
  | [] => ""
  | [only] => " Did you mean " ++ only ++ "?"
  | several => " (Possible options: " ++ ", ".intercalate several ++ ")"

/-- The wording of an error. -/
def CommandLineError.message : CommandLineError → String
  | noSuchOption name similar => "No such option: " ++ name ++ similarText similar
  | valueExpected name => "Option " ++ displayText name ++ " requires an argument."
  | noValueExpected name => "Option " ++ displayText name ++ " does not take a value."
  | missingCommand => "Missing command."
  | noSuchCommand name => "No such command " ++ displayText name ++ "."
  | missingArgument parameter => "Missing argument '" ++ parameter ++ "'."
  | extraArguments words =>
    (if words.length = 1 then "Got unexpected extra argument (" else
      "Got unexpected extra arguments (") ++ " ".intercalate words ++ ")"
  | noSuchFile parameter path =>
    "Invalid value for '" ++ parameter ++ "': File " ++ displayText path ++ " does not exist."
  | isDirectory parameter path =>
    "Invalid value for '" ++ parameter ++ "': File " ++ displayText path ++ " is a directory."
  | badValue reason => "Invalid value: " ++ reason

/-- An option that a command knows. -/
structure OptionForm where
  name : String
  takesValue : Bool
  deriving DecidableEq, Repr, Inhabited

/-- The option that every command has. -/
def helpOption : OptionForm := ⟨"--help", false⟩

/-- An option as it was given, with its value if it takes one. -/
structure GivenOption where
  name : String
  value : String
  deriving DecidableEq, Repr, Inhabited

/-- The words of a command line, sorted into options and positional words. -/
structure Words where
  options : List GivenOption
  positional : List String
  deriving DecidableEq, Repr, Inhabited

namespace Words

/-- Whether a word is an option. -/
def isOption (word : String) : Bool :=
  match word.toList with
  | '-' :: _ :: _ => true
  | _ => false

/-- Splits a word into the name of an option and the value attached to it by an equals sign. -/
def splitAttached (word : String) : String × Option String :=
  let name := word.toList.takeWhile (· ≠ '=')
  match word.toList.dropWhile (· ≠ '=') with
  | _ :: value => (String.ofList name, some (String.ofList value))
  | [] => (word, none)

/-- The error for an option that is not known.  A single hyphen introduces options of one letter, of
which there are none. -/
def unknownOption (known : List OptionForm) (word name : String) : CommandLineError :=
  match word.toList with
  | '-' :: '-' :: _ => .noSuchOption name (closeTexts name (known.map OptionForm.name))
  | _ => .noSuchOption (String.ofList (word.toList.take 2)) []

/-- Puts an option in front of the rest. -/
def withOption (name value : String) (words : Words) : Words :=
  { words with options := ⟨name, value⟩ :: words.options }

/-- Puts a positional word in front of the rest. -/
def withPositional (word : String) (words : Words) : Words :=
  { words with positional := word :: words.positional }

/-- Sorts the words of a command line.  If options and positional words are not `mixed`, all words
from the first positional one on are positional. -/
def read (known : List OptionForm) (mixed : Bool) :
    List String → Except CommandLineError Words
  | [] => .ok ⟨[], []⟩
  | word :: rest =>
    if word = "--" then .ok ⟨[], rest⟩
    else if isOption word then
      let (name, attached) := splitAttached word
      match known.find? fun o => o.name = name with
      | none => .error (unknownOption known word name)
      | some o =>
        if o.takesValue then
          match attached, rest with
          | some value, rest => (read known mixed rest).map (withOption name value)
          | none, value :: rest => (read known mixed rest).map (withOption name value)
          | none, [] => .error (.valueExpected name)
        else if attached.isSome then .error (.noValueExpected name)
        else (read known mixed rest).map (withOption name "")
    else if mixed then (read known mixed rest).map (withPositional word)
    else .ok ⟨[], word :: rest⟩

/-- Whether an option was given. -/
def has (words : Words) (name : String) : Bool := words.options.any fun o => o.name = name

/-- The value of an option, which is the last one given for it. -/
def value? (words : Words) (name : String) : Option String :=
  (words.options.findRev? fun o => o.name = name).map GivenOption.value

end Words

end SafeMarkup
