/-
DeckKeywords/Main.lean

The program: it looks at the files that its words name, and prints what the run
leaves behind.
-/
import DeckKeywords.CommandLine.Run

namespace DeckKeywords.CommandLine

/-- The variable of the environment that holds a log filter. -/
def filterVariable : String := "RUST_LOG"

/-- Whether an error number, or its negative, is that of a path that leads through a file. -/
def isNotDirectory (code : UInt32) : Bool := code = 20 || code = 0 - 20

/-- Whether an error number, or its negative, is that of a name that is too long. -/
def isNameTooLong (code : UInt32) : Bool := code = 36 || code = 0 - 36

/-- The reason why the system could not read a file. -/
def fileErrorOf (e : IO.Error) : FileError :=
  match e with
  | .noFileOrDirectory .. => .notFound
  | .inappropriateType _ code _ => if isNotDirectory code then .notDirectory else .isDirectory
  | .invalidArgument _ code _ => if isNameTooLong code then .nameTooLong else .invalidPath
  | .permissionDenied .. => .permissionDenied
  | e => .other (toString e)

/-- Looks at a file. -/
def lookAt (path : Path) : IO (Path × Except FileError String) := do
  match ← (IO.FS.readBinFile path.text).toBaseIO with
  | .ok bytes => return (path, textOfBytes bytes)
  | .error e => return (path, .error (fileErrorOf e))

/-- The files that a run may look at: the settings first, then those that the settings lead to. -/
def filesFor (words : List String) : IO FileSystem := do
  match Invocation.ofWords words with
  | .error _ => return .ofFindings []
  | .ok inv =>
    let settings ← lookAt inv.config
    let found := (Config.loadIfPresent (.ofFindings [settings]) inv.config).value
    let config := (found.toOption.bind id).getD .default
    let others ← (inv.action.files config).mapM lookAt
    return .ofFindings (settings :: others)

end DeckKeywords.CommandLine

open DeckKeywords.CommandLine in
/-- Runs the program. -/
def main (words : List String) : IO UInt32 := do
  let files ← filesFor words
  let output := run words files (← IO.getEnv filterVariable)
  for line in output.log do
    IO.eprintln line
  IO.print output.printed
  IO.eprint output.error
  return output.exitCode.toUInt32
