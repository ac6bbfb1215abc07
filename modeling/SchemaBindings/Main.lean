import SchemaBindings.Command.Run

/-!
# The program

The command line on the real system: files of the working directory, messages on the standard error.
-/

namespace SchemaBindings.System

/-- What went wrong with an operation of the system. -/
def fileProblem : IO.Error → FileProblem
  | .noFileOrDirectory _ _ _ => .notFound
  | .alreadyExists _ _ _ => .alreadyExists
  | e => .other (toString e)

def attempt {α : Type} (action : IO α) : IO (Except FileProblem α) := do
  match ← action.toBaseIO with
  | .ok a => return .ok a
  | .error e => return .error (fileProblem e)

/-- A path relative to the working directory as an entry of it. -/
def entryAt (path : String) : IO.FS.DirEntry :=
  { root := ".", fileName := path }

def host : Host IO where
  readFile path := attempt do return (← IO.FS.readBinFile path).toList
  writeFile path contents := attempt (IO.FS.writeFile path contents)
  makeDirectory path := attempt (IO.FS.createDir path)
  isPresent path := (entryAt path).path.pathExists
  isDirectory path := (entryAt path).path.isDir
  namesIn path := attempt do
    return (← (entryAt path).path.readDir).toList.map fun e => e.fileName
  report message := IO.eprintln message

def usage : String :=
  "Usage: schema-bindgen [-v]... check|generate --input <INPUT>... [OPTIONS]"

end SchemaBindings.System

open SchemaBindings

/-- Carries out the arguments; the exit code is 2 for a misuse and 1 for a failure. -/
def main (arguments : List String) : IO UInt32 := do
  match Invocation.ofArguments arguments with
  | .error .misuse =>
    IO.eprintln System.usage
    return 2
  | .error .information =>
    IO.println System.usage
    return 0
  | .ok invocation => return if ← Command.run System.host invocation then 0 else 1
