import SafeMarkup.Command.Outcome

/-!
# What a command line asks for

A command line starts with options of the program; the first positional word names a command, and
the words behind it are for that command.

* `CommandName`, `Command` — the commands, and a command with what it works on.
* `ProgramOptions` — the options of the program.
* `Command.read` — the command that some words ask for.
-/

namespace SafeMarkup

/-- The commands of the program. -/
inductive CommandName where
  | escape
  | attributes
  | context
  | render
  deriving DecidableEq, Repr, Inhabited

namespace CommandName

/-- All commands. -/
def all : List CommandName := [escape, attributes, context, render]

/-- The word for a command. -/
def word : CommandName → String
  | escape => "escape"
  | attributes => "attributes"
  | context => "context"
  | render => "render"

/-- The command that a word names. -/
def ofWord? (word : String) : Option CommandName := all.find? fun c => c.word = word

/-- The options of a command. -/
def options : CommandName → List OptionForm
  | escape | context => [helpOption]
  | attributes => [⟨"--element", true⟩, helpOption]
  | render => [⟨"--values", true⟩, helpOption]

end CommandName

/-- A file that a command reads. -/
structure InputFile where
  /-- The path as messages show it. -/
  shown : String
  bytes : List UInt8
  deriving DecidableEq, Repr, Inhabited

/-- A command with what it works on. -/
inductive Command where
  /-- Writes a text with references. -/
  | escape (text : String)
  /-- Writes a JSON object as the attributes of an element. -/
  | attributes (data element : String)
  /-- Says after each fragment what the next value would be part of. -/
  | context (fragments : List String)
  /-- Renders a template with the values of a JSON object. -/
  | render (template : InputFile) (values : Option InputFile)
  deriving DecidableEq, Repr, Inhabited

/-- What some words ask for: a command, or to be told about it. -/
inductive Request where
  | help
  | run (command : Command)
  deriving DecidableEq, Repr, Inhabited

/-- The file at the path that was given for a parameter. -/
def openInput (tree : FileTree) (cwd : Location) (parameter path : String) :
    Except Stop InputFile :=
  match checkPath path with
  | .error e => .error (.crash (.path e))
  | .ok path =>
    match tree.open? cwd path with
    | some (.file bytes) => .ok ⟨tidyPath path, bytes⟩
    | some .directory => .error (.usage (.isDirectory parameter path))
    | none => .error (.usage (.noSuchFile parameter path))

namespace Command

/-- The word for the only parameter of a command, which must be there. -/
def requireWord (parameter : String) (words : Words) : Except Stop String :=
  match words.positional with
  | word :: _ => .ok word
  | [] => .error (.usage (.missingArgument parameter))

/-- Refuses all positional words but the first. -/
def refuseMore (words : Words) : Except Stop Unit :=
  match words.positional.drop 1 with
  | [] => .ok ()
  | extra => .error (.usage (.extraArguments extra))

/-- The command with a name that sorted words ask for. -/
def ofWords (tree : FileTree) (cwd : Location) (name : CommandName) (words : Words) :
    Except Stop Command :=
  match name with
  | .escape => do
    let text ← requireWord "TEXT" words
    refuseMore words
    return .escape text
  | .attributes => do
    let data ← requireWord "DATA" words
    refuseMore words
    return .attributes data ((words.value? "--element").getD "")
  | .context =>
    if words.positional.isEmpty then .error (.usage (.missingArgument "FRAGMENTS..."))
    else .ok (.context words.positional)
  | .render => do
    let values ← match words.value? "--values" with
      | some path => (openInput tree cwd "--values" path).map some
      | none => .ok none
    let path ← requireWord "TEMPLATE" words
    let template ← openInput tree cwd "TEMPLATE" path
    refuseMore words
    return .render template values

/-- The command with a name that words ask for.  Words that ask for help need not be complete. -/
def read (tree : FileTree) (cwd : Location) (name : CommandName) (words : List String) :
    Except Stop Request := do
  let words ← (Words.read name.options true words).mapError .usage
  if words.has helpOption.name then return .help
  else return .run (← ofWords tree cwd name words)

end Command

/-! ## The options of the program -/

/-- The options of the program. -/
structure ProgramOptions where
  /-- Whether to print what is reported. -/
  verbose : Bool
  markupSeparator : Option String
  attributeSeparator : Option String
  deriving DecidableEq, Repr, Inhabited

namespace ProgramOptions

/-- The options that the program knows. -/
def forms : List OptionForm :=
  [⟨"--version", false⟩, ⟨"--verbose", false⟩, ⟨"--markup-separator", true⟩,
    ⟨"--attribute-separator", true⟩, helpOption]

/-- The options among sorted words. -/
def ofWords (words : Words) : ProgramOptions :=
  ⟨words.has "--verbose", words.value? "--markup-separator", words.value? "--attribute-separator"⟩

/-- The settings that the options replace. -/
def overrides (options : ProgramOptions) : List (String × Value) :=
  let entry (name : SettingName) (given : Option String) : String × Value :=
    (name.key, (given.map Value.str).getD .null)
  [entry .markupSeparator options.markupSeparator,
    entry .attributeSeparator options.attributeSeparator]

end ProgramOptions

end SafeMarkup
