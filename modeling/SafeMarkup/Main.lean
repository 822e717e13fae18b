import SafeMarkup.Command.Run

/-!
# The program

Reads the files that a command line may ask for, runs it on them, and prints what it ends with.
-/

namespace SafeMarkup

/-- What stands at a path. -/
def readEntry? (path : String) : IO (Option FileEntry) := do
  try
    return some (.file (← IO.FS.readBinFile path).toList)
  catch
    | .inappropriateType .. => return some .directory
    | _ => return none

/-- The paths that a word of a command line may stand for: itself, and what follows an equals
sign. -/
def pathsOfWord (word : String) : List String :=
  match Words.splitAttached word with
  | (_, some value) => [word, value]
  | (_, none) => [word]

/-- The locations that lie on a path. -/
def locationsOnPath (cwd : Location) (path : String) : List Location :=
  let start : Location := if isAbsolute path then [] else cwd
  ((pathNames path).foldl (fun ls name => (ls.headD start).follow name :: ls) [start]).reverse

/-- Enters what stands at some locations into a tree. -/
def readTree (locations : List Location) : IO FileTree :=
  locations.foldlM
    (fun tree l => do
      match ← readEntry? l.toPath with
      | some entry => return tree.add l entry
      | none => return tree)
    FileTree.empty

/-- Runs the program in a working directory. -/
def runProgram (cwd : Location) (args : List String) : IO UInt32 := do
  let tree ← readTree
    ((settingsPlaces cwd).map SettingsPlace.location
      ++ (args.flatMap pathsOfWord).flatMap (locationsOnPath cwd))
  match runCommandLine tree cwd args with
  | .ok outcome =>
    for message in outcome.messages do
      IO.eprintln message
    IO.print outcome.output
    return UInt32.ofNat outcome.exitCode
  | .error crash =>
    IO.eprintln crash.message
    return 1

end SafeMarkup

/-- Runs the command line of the program. -/
def main (args : List String) : IO UInt32 := do
  let cwd := (← IO.getEnv "PWD").getD "/"
  SafeMarkup.runProgram (SafeMarkup.Location.resolve [] cwd) args
