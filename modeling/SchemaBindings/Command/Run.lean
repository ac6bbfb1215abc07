import SchemaBindings.Command.Glob
import SchemaBindings.Command.Trace
import SchemaBindings.Generation.Run

/-!
# Carrying out a command line

Every input is a run of its own with one configuration. A problem with the configuration or the files ends
the command; failed declarations are reported and counted, and the command goes on.
-/

namespace SchemaBindings

/-- Why a command ends early, or fails at its end. -/
inductive CommandProblem where
  | unreadable (path : String) (problem : FileProblem)
  | malformed (failure : Json.Failure)
  | invalid (fault : Fault)
  | badPattern (e : GlobError)
  | unlisted (u : Glob.Unlisted)
  | unmatched (pattern : String)
  /-- A problem with one of the schemas. -/
  | schema (path : String) (problem : CommandProblem)
  /-- A strict run met a failure. -/
  | aborted (path : String)
  | directoryNotMade (path : String) (problem : FileProblem)
  | unwritten (path : String) (problem : FileProblem)
  /-- So many declarations failed. -/
  | failed (count : Nat)
deriving Repr

namespace CommandProblem

def findingInputs (words : String) : String :=
  "failed to resolve input file paths: " ++ words

def message : CommandProblem → String
  | unreadable path problem =>
    "failed to read `" ++ path ++ "`: " ++ problem.message ++ ": " ++ problem.message
  | malformed failure => failure.message
  | invalid fault => fault.message
  | badPattern e => findingInputs e.message
  | unlisted u =>
    findingInputs ("attempting to read `" ++ u.path ++ "` resulted in an error: " ++ u.problem.message)
  | unmatched pattern => findingInputs ("glob pattern matched no files: " ++ pattern)
  | schema path problem => "failed to load schema (" ++ path ++ "): " ++ problem.message
  | aborted path => "strict mode: " ++ path ++ " aborted"
  | directoryNotMade path problem => "failed to create " ++ path ++ ": " ++ problem.message
  | unwritten path problem => "failed to write " ++ path ++ ": " ++ problem.message
  | failed count => toString count ++ " declaration(s) failed"

end CommandProblem

namespace Command

variable {m : Type → Type} [Monad m]

/-- Turns a failed operation on files into a problem of the command. -/
def orProblem {α : Type} (problem : FileProblem → CommandProblem) (action : m (Except FileProblem α)) :
    ExceptT CommandProblem m α := do
  match ← action with
  | .ok a => return a
  | .error e => throw (problem e)

/-! ## Configuration -/

/-- The configuration of a file, which must be a text. -/
def loadConfig (host : Host m) (path : String) : ExceptT CommandProblem m Config := do
  let bytes ← orProblem (.unreadable path) (host.readFile path)
  if (Text.ofUtf8? bytes).isNone then throw (.unreadable path .noText)
  match Config.ofBytes bytes with
  | .ok config => return config
  | .error failure => throw (.malformed failure)

/-- A configuration with what the settings override. -/
def override (s : InputSettings) (config : Config) : Config where
  separator := s.separator.getD config.separator
  maxTupleArity := s.maxTupleArity.getD config.maxTupleArity
  policy := s.policy.getD config.policy
  strict := config.strict || s.strict
  package := s.package.getD config.package
  target := s.target.getD config.target

def configOf (host : Host m) (s : InputSettings) : ExceptT CommandProblem m Config := do
  let loaded ← match s.config with
    | some path => loadConfig host path
    | none => pure {}
  let config := override s loaded
  match config.validate with
  | .ok () => return config
  | .error fault => throw (.invalid fault)

/-! ## Inputs -/

def pathsOf (host : Host m) (input : String) : ExceptT CommandProblem m (List String) := do
  if !Glob.isPattern input then return [input]
  match Glob.ofText input with
  | .error e => throw (.badPattern e)
  | .ok pattern =>
    match ← (pattern.paths host).run with
    | .error u => throw (.unlisted u)
    | .ok [] => throw (.unmatched input)
    | .ok paths => return paths

def loadSchema (host : Host m) (path : String) : ExceptT CommandProblem m Document := do
  let bytes ← orProblem (fun e => .schema path (.unreadable path e)) (host.readFile path)
  match Document.ofBytes bytes with
  | .ok document => return document
  | .error failure => throw (.schema path (.malformed failure))

def reportFailure (host : Host m) (path : String) (failure : DeclarationFailure) :
    ExceptT CommandProblem m Unit := do
  host.report ("failed " ++ path ++ " " ++ failure.message)

/-- Runs one schema and hands on what it generated; the number of its failures. -/
def processInput (host : Host m) (config : Config)
    (apply : String → Generation → ExceptT CommandProblem m Unit) (path : String) :
    ExceptT CommandProblem m Nat := do
  let document ← loadSchema host path
  match generate config document.resolve with
  | .ok generation =>
    generation.failures.forM fun failure => reportFailure host path failure
    apply path generation
    return generation.failures.length
  | .error (.aborted failure) =>
    reportFailure host path failure
    throw (.aborted path)
  | .error (.config fault) => throw (.invalid fault)

/-- Runs every schema that the settings stand for; the number of all failures. All inputs are found before
the first one runs. -/
def processInputs (host : Host m) (s : InputSettings)
    (apply : String → Generation → ExceptT CommandProblem m Unit) : ExceptT CommandProblem m Nat := do
  let config ← configOf host s
  let paths ← s.inputs.mapM (pathsOf host)
  let counts ← paths.flatten.mapM (processInput host config apply)
  return counts.foldl (· + ·) 0

/-! ## Tasks -/

def confirm (host : Host m) (path : String) (generation : Generation) :
    ExceptT CommandProblem m Unit := do
  if generation.isClean then host.report ("ok " ++ path)

/-- Writes a file into the output directory. -/
def writeFile (host : Host m) (out : String) (file : File) : ExceptT CommandProblem m Unit := do
  let path := FilePath.push out file.path
  if let some around := FilePath.parent? path then
    orProblem (.directoryNotMade around) (host.makeDirectories around)
  orProblem (.unwritten path) (host.writeFile path file.contents)
  host.report ("wrote " ++ path)

/-- Carries out a task; the number of failed declarations. -/
def perform (host : Host m) (i : Invocation) : ExceptT CommandProblem m Nat :=
  match i.task with
  | .check s => processInputs host s (confirm host)
  | .generate s out isTrial =>
    if isTrial then do
      host.report (Trace.text i)
      return 0
    else processInputs host s fun _ generation => generation.files.forM (writeFile host out)

/-- Carries out a command line that could be read; whether everything went well. -/
def run (host : Host m) (i : Invocation) : m Bool := do
  let problem? ← match ← (perform host i).run with
    | .ok 0 => pure none
    | .ok count => pure (some (CommandProblem.failed count))
    | .error problem => pure (some problem)
  match problem? with
  | none => return true
  | some problem =>
    host.report ("error: " ++ problem.message)
    return false

end Command

end SchemaBindings
