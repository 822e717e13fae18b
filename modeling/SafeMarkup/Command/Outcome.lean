import SafeMarkup.Builder
import SafeMarkup.Command.Words
import SafeMarkup.Config.Files
import SafeMarkup.Number.Read
import SafeMarkup.Text.ControlSequence
import SafeMarkup.Text.Encoding

/-!
# How a run of the program ends

* `Outcome` — an exit code, what is printed, and what is reported.  Output and errors are printed
  without control sequences, as for a reader that is no terminal; reports keep theirs.
* `Crash` — an error that the program does not turn into an exit code.
* `Stop` — why a run ends early, and `Outcome.ofRun`, what it ends with.
* `Outcome.print` — what a run ends with that has something to print.
* `LogEntry.line` — a report of a builder as it is printed.
-/

namespace SafeMarkup

/-- What a run of the program leaves behind. -/
structure Outcome where
  exitCode : Nat
  /-- What is printed to the output. -/
  output : String
  /-- What is reported beside the output, a message each. -/
  messages : List String
  deriving DecidableEq, Repr, Inhabited

/-- An error that the program does not turn into an exit code. -/
inductive Crash where
  | path (error : PathError)
  | encoding (fault : EncodingFault)
  | longInteger (error : LongInteger)
  | format (error : FormatError)
  /-- The output cannot be encoded. -/
  | surrogate (fault : SurrogateFault)
  deriving DecidableEq, Repr, Inhabited

/-- The wording of a crash. -/
def Crash.message : Crash → String
  | path error => error.message
  | encoding fault => fault.message
  | longInteger error => error.message
  | format error => error.message
  | surrogate fault => fault.message

/-- Why a run ends early. -/
inductive Stop where
  | crash (crash : Crash)
  /-- The command line asks for nothing that can be done. -/
  | usage (error : CommandLineError)
  /-- What was asked for cannot be done; the reports come from the work up to there. -/
  | failure (reports : List String) (reason : String)
  deriving DecidableEq, Repr, Inhabited

/-- A text in characters without its control sequences. -/
def withoutControlSequences (s : String) : String :=
  (dropControlSequences (.ofString s)).form .first

/-- An error as it is printed. -/
def errorLine (reason : String) : String := withoutControlSequences ("Error: " ++ reason)

/-- What a run ends with that prints an output, the reports being those made on the way.  An output
that cannot be encoded is not printed, and the run ends without an exit code. -/
def Outcome.print (reports : List String) (output : CodeText) : Except Stop Outcome :=
  let printed : CodeText := dropControlSequences output
  match printed.surrogateFault? with
  | none => .ok ⟨0, printed.form .first, reports⟩
  | some fault => .error (.crash (.surrogate fault))

/-- The same for an output in characters, without reports. -/
def Outcome.printText (output : String) : Except Stop Outcome := print [] (.ofString output)

/-- What a run ends with. -/
def Outcome.ofRun : Except Stop Outcome → Except Crash Outcome
  | .ok outcome => .ok outcome
  | .error (.crash crash) => .error crash
  | .error (.usage error) => .ok ⟨2, "", [errorLine error.message]⟩
  | .error (.failure reports reason) => .ok ⟨1, "", reports ++ [errorLine reason]⟩

/-! ## Reports -/

/-- Who reports: the part that builds documents, or the part that writes attributes. -/
def LogEntry.reporter : LogEntry → String
  | interpolating _ _ | unescaped _ _ => "hypertext_literal.builder"
  | dropped _ => "hypertext_literal.attributes"

/-- What is reported about a name that is dropped. -/
def droppedMessage (name : CodeText) : String :=
  "Dropping attribute with invalid name " ++ name.display

/-- What is reported. -/
def LogEntry.message : LogEntry → String
  | interpolating kind site => "Interpolating " ++ kind ++ " in " ++ site.describe
  | unescaped count site =>
    "Appending " ++ toString count ++ " unescaped characters in " ++ site.describe
  | dropped name => droppedMessage (.ofString name)

/-- A report as it is printed, from the two forms of what it is about.  The name of an attribute is
displayed, and halves of surrogate pairs are escaped elsewhere. -/
def LogEntry.line (first second : LogEntry) : String :=
  first.reporter ++ ": " ++ match first, second with
    | dropped name, dropped other => droppedMessage (.ofForms name other)
    | _, _ => (CodeText.ofForms first.message second.message).escaped

/-- Reports as they are printed, if they are asked for, from their two forms. -/
def reportLines (verbose : Bool) (first second : List LogEntry) : List String :=
  if verbose then List.zipWith LogEntry.line first second else []

end SafeMarkup
