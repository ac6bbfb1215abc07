import SchemaBindings.Generation.ImportCycle
import SchemaBindings.Target.Go
import SchemaBindings.Target.Rust

/-!
# Runs

A run turns a resolved schema into files. A declaration that fails is left out, together with everything
that depends on it, and reported; a strict run ends at the first failure instead.

* Failures are in the order in which they are found: those of resolution, modules without a name, and
  then the items in the order of the schema.
* Outputs are the tuple records in ascending arity and then those of the items in the order of the schema.
-/

namespace SchemaBindings

/-- What a run produced. -/
structure Generation where
  outputs : List Output := []
  files : List File := []
  failures : List DeclarationFailure := []

/-- Whether nothing was left out. -/
def Generation.isClean (g : Generation) : Bool :=
  g.failures.isEmpty

/-- Why a run produced nothing. -/
inductive RunError where
  | config (fault : Fault)
  /-- A strict run met a failure. -/
  | aborted (failure : DeclarationFailure)
deriving DecidableEq, Repr

def RunError.message : RunError → String
  | config fault => fault.message
  | aborted failure => "generation aborted at " ++ failure.message

def TargetName.target : TargetName → Target
  | go => Go.target
  | rust => Rust.target

/-! ## The plan -/

/-- The emitted names of a schema; the name of the module of tuple records is taken. -/
def runNames (target : Target) (config : Config) (r : Resolved) : NameTable :=
  .build target.conventions config.policy config.separator
    [(target.conventions.moduleName tuplesModuleName, "tuple generics")] r

/-- The paths that fail in resolution. The path of a repeated declaration is also that of the one that stays. -/
def Resolved.failedPaths (r : Resolved) : List SchemaPath :=
  r.failures.filterMap fun f =>
    match f.fault with
    | .duplicateDeclaration _ => none
    | _ => some f.path

/-- The candidates of a run with their final status. -/
def plan (target : Target) (config : Config) (names : NameTable) (r : Resolved) : List Candidate :=
  let settled := propagate r.failedPaths (candidates names ⟨config.maxTupleArity, []⟩ r.items)
  if target.forbidsImportCycles then propagate r.failedPaths (breakImportCycles settled) else settled

def runFailures (names : NameTable) (r : Resolved) (cs : List Candidate) : List DeclarationFailure :=
  r.failures ++ names.failedModules.map (fun (path, fault) => ⟨path, fault⟩) ++
    cs.filterMap (·.failure?)

/-! ## The output -/

def Candidate.requestTuple (c : Candidate) (arena : TupleArena) (arity : Nat) :
    Except RunError TupleArena :=
  match arena.request arity with
  | .ok (arena, _) => .ok arena
  | .error fault => .error (.aborted ⟨c.path, fault⟩)

/-- Requests the records of the tuples that the ready candidates mention. -/
def requestTuples (arena : TupleArena) (cs : List Candidate) : Except RunError TupleArena :=
  (cs.filter (·.isReady)).foldlM
    (fun arena c => c.item.declaration.arities.foldlM c.requestTuple arena) arena

/-- The outputs of a candidate; none if it is kept out. -/
def Candidate.outputs (target : Target) (config : Config) (names : NameTable) (c : Candidate) :
    List Output :=
  match c.status with
  | .ok own => target.render ⟨config, names, c.item.module⟩ c.item.declaration own
  | .error _ => []

def runOutputs (target : Target) (config : Config) (names : NameTable) (tuples : List TupleRecord)
    (cs : List Candidate) : List Output :=
  tuples.map target.tupleOutput ++ cs.flatMap (·.outputs target config names)

/-- Generates the bindings of a resolved schema for a target. -/
def generateFor (target : Target) (config : Config) (r : Resolved) : Except RunError Generation := do
  config.validate.mapError .config
  let names := runNames target config r
  let cs := plan target config names r
  let failures := runFailures names r cs
  match config.strict, failures with
  | true, first :: _ => throw (.aborted first)
  | _, _ =>
    let arena ← requestTuples ⟨config.maxTupleArity, []⟩ cs
    let outputs := runOutputs target config names arena.records cs
    return ⟨outputs, target.assemble config outputs r.moduleComments, failures⟩

/-- Generates the bindings of a resolved schema for the target of the configuration. -/
def generate (config : Config) (r : Resolved) : Except RunError Generation :=
  generateFor config.target.target config r

end SchemaBindings
