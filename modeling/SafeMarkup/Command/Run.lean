import SafeMarkup.Command.Request
import SafeMarkup.Config.Load
import SafeMarkup.Document
import SafeMarkup.Json.Reader
import SafeMarkup.Text.LineEnds
import SafeMarkup.Value.OfJson

/-!
# Running a command line

A command line is run on a tree of files, in a working directory; the settings that hold there apply
to what is rendered.

* `Command.execute` — a command under a configuration.
* `perform` — a whole command line, up to where it stops.
* `runCommandLine` — the outcome of a command line.
-/

namespace SafeMarkup

/-- The members of a JSON object in a text; `source` is what messages call the text. -/
def readObject (source text : String) : Except Stop (List (CodeText × Json)) :=
  match Json.parse text with
  | .ok (.object members) => .ok members
  | .ok _ => .error (.usage (.badValue (source ++ " must be a JSON object")))
  | .error (.longInteger e) => .error (.crash (.longInteger e))
  | .error failure =>
    .error (.usage (.badValue (source ++ " is not valid JSON: " ++ failure.message)))

/-- The text of a file, its lines ended by line feeds. -/
def InputFile.text (file : InputFile) : Except Stop String :=
  match Utf8.decode file.bytes with
  | .ok text => .ok (String.ofList (unifyLineEnds text))
  | .error fault => .error (.failure [] fault.message)

/-! ## The commands -/

/-- The names of the sites behind each of some fragments. -/
def siteNames (fragments : List String) : List String :=
  (Context.fresh.feedAll fragments).map fun ctx => ctx.site.describe

/-- Texts as lines. -/
def asLines (texts : List String) : String := String.join (texts.map (· ++ "\n"))

/-- Whether a format error is a number that does not fit where it has to.  These errors end a run
without an outcome; all others are reported for the template. -/
def FormatError.isOverflow : FormatError → Bool
  | .integerTooLarge | .notACharacter | .beyondBinary => true
  | _ => false

/-- Why a template has no document, as it stops a run. -/
def stopFor (reports : List String) (template : InputFile) (error : DocumentError) : Stop :=
  let reason := match error with
    | .missingValue name => "no value for field " ++ displayText name
    | other => other.message
  match error with
  | .field (.format e) =>
    if e.isOverflow then .crash (.format e)
    else .failure reports (template.shown ++ ": " ++ reason)
  | _ => .failure reports (template.shown ++ ": " ++ reason)

/-- The members of the object in a file, of which there are none without a file. -/
def readMembers : Option InputFile → Except Stop (List (CodeText × Json))
  | none => .ok []
  | some file => do readObject file.shown (← file.text)

/-- Renders a template with the values in a file.  Either form of the values is rendered, and the
two documents are the forms of what is printed.  A template fails alike for both. -/
def renderFile (config : Config) (verbose : Bool) (template : InputFile)
    (values : Option InputFile) : Except Stop Outcome := do
  let members ← readMembers values
  let text ← template.text
  let render (standIn : StandIn) :=
    addTemplate (Json.namedValues standIn members) (.start config) text
  let (first, fault) := render .first
  let (second, _) := render .second
  let reports := reportLines verbose first.log second.log
  match fault with
  | none => Outcome.print reports (.ofForms first.document second.document)
  | some error => .error (stopFor reports template error)

/-- Writes the members of an object as attributes, in either form as well. -/
def writeMembers (config : Config) (verbose : Bool) (element : String)
    (members : List (CodeText × Json)) : Except Stop Outcome :=
  let written (standIn : StandIn) :=
    asLines [serialize config.nestedGroups element (Json.toEntries standIn members)]
  let dropped (standIn : StandIn) :=
    (droppedNames config.nestedGroups (Json.toEntries standIn members)).map LogEntry.dropped
  Outcome.print (reportLines verbose (dropped .first) (dropped .second))
    (.ofForms (written .first) (written .second))

/-- Carries out a command. -/
def Command.execute (config : Config) (verbose : Bool) : Command → Except Stop Outcome
  | .escape text => Outcome.printText (asLines [SafeMarkup.escape text])
  | .attributes data element => do
    writeMembers config verbose element (← readObject "DATA" data)
  | .context fragments => Outcome.printText (asLines (siteNames fragments))
  | .render template values => renderFile config verbose template values

/-! ## The program -/

/-- What the program says about itself. -/
def helpText : String :=
  asLines
    ["safe-markup [OPTIONS] COMMAND ...",
      "",
      "Context-aware HTML building tools.",
      "",
      "  escape TEXT                        print TEXT with references",
      "  attributes DATA [--element NAME]   print a JSON object as attributes",
      "  context FRAGMENTS...               print the context after each fragment",
      "  render TEMPLATE [--values FILE]    print TEMPLATE with its fields filled in",
      "",
      "  --verbose                          report each interpolation",
      "  --markup-separator TEXT            what stands between the items of a list of markup",
      "  --attribute-separator TEXT         what stands between the items of a list of attributes"]

/-- The version of the program. -/
def versionText : String := asLines ["hypertext-literal, version 0.1.0"]

/-- Whether a word can be meant as the name of a command.  Words that start with a mark are not, and
are answered with help. -/
def looksLikeCommand (word : String) : Bool :=
  match word.toList with
  | [] => true
  | c :: _ => c.isAlphanum || 128 ≤ c.toNat

/-- The configuration for a run in a directory. -/
def configure (tree : FileTree) (cwd : Location) (options : ProgramOptions) :
    Except Stop Config :=
  match buildConfig tree cwd "." options.overrides with
  | .ok config => .ok config
  | .error (.encoding fault) => .error (.crash (.encoding fault))
  | .error (.longInteger e) => .error (.crash (.longInteger e))
  | .error other => .error (.usage (.badValue other.message))

/-- Runs the command that the positional words of a command line name. -/
def performCommand (tree : FileTree) (cwd : Location) (options : ProgramOptions) :
    List String → Except Stop Outcome
  | [] => .error (.usage .missingCommand)
  | word :: words =>
    match CommandName.ofWord? word with
    | none =>
      if looksLikeCommand word then .error (.usage (.noSuchCommand word))
      else Outcome.printText helpText
    | some name => do
      let config ← configure tree cwd options
      match ← Command.read tree cwd name words with
      | .help => Outcome.printText helpText
      | .run command => command.execute config options.verbose

/-- Runs a command line up to where it stops. -/
def perform (tree : FileTree) (cwd : Location) (args : List String) : Except Stop Outcome := do
  if args.isEmpty then return ← Outcome.printText helpText
  let words ← (Words.read ProgramOptions.forms false args).mapError .usage
  match words.options.find? fun o => o.name = "--version" || o.name = helpOption.name with
  | some o => Outcome.printText (if o.name = "--version" then versionText else helpText)
  | none => performCommand tree cwd (.ofWords words) words.positional

/-- The outcome of a command line. -/
def runCommandLine (tree : FileTree) (cwd : Location) (args : List String) :
    Except Crash Outcome :=
  Outcome.ofRun (perform tree cwd args)

end SafeMarkup
