import SchemaBindings.Source.FilePath

/-!
# The host of a run

What the command line needs from its surroundings: files by path, and a place for messages. The real system
is one host, and a tree of files in memory another.
-/

namespace SchemaBindings

/-- Why an operation on files failed. -/
inductive FileProblem where
  | notFound
  | alreadyExists
  | notDirectory
  | isDirectory
  | nameTooLong
  /-- A path with a NUL character names nothing. -/
  | nulCharacter
  /-- The contents are no text. -/
  | noText
  /-- A problem of the real system, in its own words. -/
  | other (text : String)
deriving DecidableEq, Repr

def FileProblem.message : FileProblem → String
  | notFound => "No such file or directory (os error 2)"
  | alreadyExists => "File exists (os error 17)"
  | notDirectory => "Not a directory (os error 20)"
  | isDirectory => "Is a directory (os error 21)"
  | nameTooLong => "File name too long (os error 36)"
  | nulCharacter => "file name contained an unexpected NUL byte"
  | noText => "stream did not contain valid UTF-8"
  | other text => text

/-- Files and messages. -/
structure Host (m : Type → Type) where
  readFile : String → m (Except FileProblem (List UInt8))
  /-- Replaces what the file held. -/
  writeFile : String → String → m (Except FileProblem Unit)
  /-- Makes one directory. -/
  makeDirectory : String → m (Except FileProblem Unit)
  /-- Whether there is a file or a directory at a path. -/
  isPresent : String → m Bool
  isDirectory : String → m Bool
  /-- The names in a directory. -/
  namesIn : String → m (Except FileProblem (List String))
  /-- Writes one line of messages. -/
  report : String → m Unit

variable {m : Type → Type} [Monad m]

/-- Makes a directory, or finds it there. -/
def Host.ensureDirectory (host : Host m) (path : String) : m (Except FileProblem Unit) := do
  match ← host.makeDirectory path with
  | .ok () => return .ok ()
  | .error problem => return if ← host.isDirectory path then .ok () else .error problem

/-- Makes a directory with the directories around it; `around` lists their paths from the inside. -/
def Host.makeDirectoriesFrom (host : Host m) (path : String) :
    List String → m (Except FileProblem Unit)
  | [] => if path = "" then return .ok () else host.ensureDirectory path
  | next :: around => do
    match ← host.ensureDirectory path with
    | .error .notFound =>
      match ← host.makeDirectoriesFrom next around with
      | .ok () => host.ensureDirectory path
      | .error problem => return .error problem
    | result => return result

def Host.makeDirectories (host : Host m) (path : String) : m (Except FileProblem Unit) :=
  host.makeDirectoriesFrom path (FilePath.parents path)

end SchemaBindings
