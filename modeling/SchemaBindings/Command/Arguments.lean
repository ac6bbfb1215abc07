import SchemaBindings.Document.OfBytes

/-!
# Arguments of the command line

`check` and `generate` take the same options for their input, and `generate` an output directory besides.
Arguments are read from the left:

* an argument that starts with `-`, other than `-` alone, is an option; single letters can stand together
  behind one `-`, and the last of them can take a value;
* a value is attached to its option or is the next argument; `--input` takes values up to the next option
  when they are not attached;
* nothing but `--input` and `--verbose` can be repeated;
* whatever cannot be read ends the reading as a misuse, and so does a request for help, but not as one.
-/

namespace SchemaBindings

/-! ## Invocations -/

/-- What both commands take. -/
structure InputSettings where
  inputs : List String
  config : Option String := none
  target : Option TargetName := none
  policy : Option NamingPolicy := none
  separator : Option String := none
  maxTupleArity : Option Nat := none
  package : Option String := none
  strict : Bool := false
deriving DecidableEq, Repr

/-- What is to be done. -/
inductive Task where
  /-- Reports failures and writes nothing. -/
  | check (settings : InputSettings)
  /-- Writes bindings into a directory; a trial only shows the invocation. -/
  | generate (settings : InputSettings) (out : String) (isTrial : Bool)
deriving DecidableEq, Repr

/-- A command line that can be carried out. -/
structure Invocation where
  verbosity : Nat
  task : Task
deriving DecidableEq, Repr

/-- Why a command line is not carried out. -/
inductive Refusal where
  | misuse
  /-- Help or the version is asked for. -/
  | information
deriving DecidableEq, Repr

/-! ## Options -/

inductive CommandName where
  | check
  | generate
deriving DecidableEq, Repr

def CommandName.ofText? (text : String) : Option CommandName :=
  if text = "check" then some .check else if text = "generate" then some .generate else none

inductive ValueOption where
  | input
  | config
  | target
  | policy
  | separator
  | maxTupleArity
  | package
  | out
deriving DecidableEq, Repr

/-- An option without a value. -/
inductive Switch where
  | verbose
  | help
  | version
  | strict
  | trial
deriving DecidableEq, Repr

inductive CommandOption where
  | valued (o : ValueOption)
  | switch (s : Switch)
deriving DecidableEq, Repr

def sharedOptions : List (String × CommandOption) := [
  ("verbose", .switch .verbose), ("help", .switch .help), ("input", .valued .input),
  ("config", .valued .config), ("target", .valued .target), ("naming", .valued .policy),
  ("separator", .valued .separator), ("max-tuple-arity", .valued .maxTupleArity),
  ("package", .valued .package), ("strict", .switch .strict)]

def CommandName.options : CommandName → List (String × CommandOption)
  | check => sharedOptions
  | generate => sharedOptions ++ [("out", .valued .out), ("no-op", .switch .trial)]

def sharedLetters : List (Char × CommandOption) :=
  [('v', .switch .verbose), ('h', .switch .help), ('i', .valued .input)]

def CommandName.letters : CommandName → List (Char × CommandOption)
  | check => sharedLetters
  | generate => sharedLetters ++ [('o', .valued .out)]

/-- The options before a command by name. -/
def leadingOptions : List (String × Switch) :=
  [("verbose", .verbose), ("help", .help), ("version", .version)]

/-- The options before a command by letter. -/
def leadingLetters : List (Char × Switch) :=
  [('v', .verbose), ('h', .help), ('V', .version)]

/-! ## Values -/

def largestNumber : Nat := Nat.pow 2 64 - 1

/-- The number of a text: digits, behind a plus sign or not. -/
def readNumber? (text : String) : Option Nat :=
  let digits := match text.toList with
    | '+' :: rest => rest
    | rest => rest
  if digits = [] ∨ !digits.all Char.isDigit then none
  else
    let n := digits.foldl (fun n c => n * 10 + (c.toNat - '0'.toNat)) 0
    if n ≤ largestNumber then some n else none

/-- What the arguments have given so far. -/
structure Draft where
  verbosity : Nat := 0
  settings : InputSettings := { inputs := [] }
  out : Option String := none
  isTrial : Bool := false

/-- How often `--verbose` can count. -/
def largestVerbosity : Nat := 255

/-- Fills what has not been given. -/
def fillOnce {α : Type} (slot : Option α) (value : Option α) : Except Refusal (Option α) :=
  match slot, value with
  | none, some a => .ok (some a)
  | _, _ => .error .misuse

namespace Draft

def assign (d : Draft) (o : ValueOption) (value : String) : Except Refusal Draft := do
  let s := d.settings
  let path := if value = "" then none else some value
  match o with
  | .input => return { d with settings := { s with inputs := s.inputs ++ [value] } }
  | .config => return { d with settings := { s with config := ← fillOnce s.config path } }
  | .target =>
    return { d with settings := { s with target := ← fillOnce s.target (TargetName.ofKey? value) } }
  | .policy =>
    return { d with settings := { s with policy := ← fillOnce s.policy (NamingPolicy.ofKey? value) } }
  | .separator => return { d with settings := { s with separator := ← fillOnce s.separator (some value) } }
  | .maxTupleArity =>
    return { d with settings := { s with
      maxTupleArity := ← fillOnce s.maxTupleArity (readNumber? value) } }
  | .package => return { d with settings := { s with package := ← fillOnce s.package (some value) } }
  | .out => return { d with out := ← fillOnce d.out path }

def turnOn (d : Draft) (s : Switch) : Except Refusal Draft :=
  match s with
  | .verbose => .ok { d with verbosity := min (d.verbosity + 1) largestVerbosity }
  | .help | .version => .error .information
  | .strict =>
    if d.settings.strict then .error .misuse
    else .ok { d with settings := { d.settings with strict := true } }
  | .trial => if d.isTrial then .error .misuse else .ok { d with isTrial := true }

end Draft

/-! ## Reading -/

/-- What the next argument can be a value of. -/
inductive Awaited where
  | none
  /-- The option must have a value. -/
  | first (o : ValueOption)
  /-- Another input may follow. -/
  | more
deriving DecidableEq, Repr

/-- What an argument is by its first characters. -/
inductive ArgumentShape where
  | value
  | escape
  /-- `--name` or `--name=value`. -/
  | long (name : String) (attached : Option String)
  | letters (cs : List Char)
deriving DecidableEq, Repr

def shapeOf (argument : String) : ArgumentShape :=
  match argument.toList with
  | ['-', '-'] => .escape
  | '-' :: '-' :: rest =>
    let name := String.ofList (rest.takeWhile (· ≠ '='))
    match rest.dropWhile (· ≠ '=') with
    | [] => .long name none
    | _ :: value => .long name (some (.ofList value))
  | '-' :: c :: rest => .letters (c :: rest)
  | _ => .value

/-- Reads `--name` or `--name=value`. -/
def readLong (command : CommandName) (d : Draft) (name : String) (attached : Option String) :
    Except Refusal (Draft × Awaited) := do
  match command.options.lookup name, attached with
  | some (.valued o), some value => return (← d.assign o value, .none)
  | some (.valued o), none => return (d, .first o)
  | some (.switch s), none => return (← d.turnOn s, .none)
  | _, _ => throw .misuse

/-- Reads letters behind one `-`. A value can be attached to the last one, with `=` between them or not. -/
def readLetters (command : CommandName) (d : Draft) : List Char → Except Refusal (Draft × Awaited)
  | [] => return (d, .none)
  | c :: rest => do
    match command.letters.lookup c with
    | some (.switch s) => readLetters command (← d.turnOn s) rest
    | some (.valued o) =>
      match rest with
      | [] => return (d, .first o)
      | '=' :: value | value => return (← d.assign o (.ofList value), .none)
    | none => throw .misuse

def readArguments (command : CommandName) (d : Draft) (awaited : Awaited) :
    List String → Except Refusal Draft
  | [] =>
    match awaited with
    | .first _ => .error .misuse
    | _ => .ok d
  | argument :: rest =>
    match shapeOf argument, awaited with
    | .value, .none => .error .misuse
    | .value, .first o => do
      let next := if o = .input then Awaited.more else .none
      readArguments command (← d.assign o argument) next rest
    | .value, .more => do readArguments command (← d.assign .input argument) .more rest
    | _, .first _ => .error .misuse
    | .escape, _ => if rest = [] then .ok d else .error .misuse
    | .long name attached, _ => do
      let (d, awaited) ← readLong command d name attached
      readArguments command d awaited rest
    | .letters cs, _ => do
      let (d, awaited) ← readLetters command d cs
      readArguments command d awaited rest

/-- The invocation of a draft, if nothing is missing. -/
def Draft.invocation (command : CommandName) (verbosity : Nat) (d : Draft) :
    Except Refusal Invocation := do
  if d.settings.inputs = [] then throw .misuse
  let verbosity := if d.verbosity = 0 then verbosity else d.verbosity
  match command, d.out with
  | .check, _ => return ⟨verbosity, .check d.settings⟩
  | .generate, some out => return ⟨verbosity, .generate d.settings out d.isTrial⟩
  | .generate, none => throw .misuse

def turnOnLeading (verbosity : Nat) : Option Switch → Except Refusal Nat
  | some .verbose => .ok (min (verbosity + 1) largestVerbosity)
  | some .help | some .version => .error .information
  | _ => .error .misuse

/-- Reads a command line from the arguments before its command on; `verbosity` is what they gave so far. -/
def readLeading (verbosity : Nat) : List String → Except Refusal Invocation
  | [] => .error .misuse
  | argument :: rest =>
    match shapeOf argument with
    | .value =>
      match CommandName.ofText? argument with
      | some command => do (← readArguments command {} .none rest).invocation command verbosity
      | none => .error (if argument = "help" ∧ isTopic rest then .information else .misuse)
    | .escape => .error .misuse
    | .long name none => do readLeading (← turnOnLeading verbosity (leadingOptions.lookup name)) rest
    | .long _ (some _) => .error .misuse
    | .letters cs => do
      let verbosity ← cs.foldlM (fun verbosity c => turnOnLeading verbosity (leadingLetters.lookup c))
        verbosity
      readLeading verbosity rest
where
  /-- What help can be asked about. -/
  isTopic : List String → Bool
    | [] => true
    | [topic] => topic = "help" || (CommandName.ofText? topic).isSome
    | _ => false

def Invocation.ofArguments (arguments : List String) : Except Refusal Invocation :=
  readLeading 0 arguments

end SchemaBindings
