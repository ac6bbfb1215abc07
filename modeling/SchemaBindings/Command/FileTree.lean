import SchemaBindings.Command.Host
import SchemaBindings.Ordered
import SchemaBindings.Text.Utf8

/-!
# Trees of files

A tree of files in memory around the working directory. A path is walked component by component:
everything before its last component must be a directory, `.` stays, and `..` goes one directory up. The
directories above the working directory are there and hold nothing at first; what a run puts into them is
no part of its result.
-/

namespace SchemaBindings

inductive FileEntry where
  | file (contents : List UInt8)
  | directory
deriving DecidableEq, Repr

/-- Entries by their place, the names from the working directory down. A place outside starts with the steps
up, each written `..`. The working directory and those above it have no entry. -/
structure FileTree where
  entries : List (List String × FileEntry) := []
deriving Repr

namespace FileTree

/-- Whether a place is the working directory or one above it. -/
def isAround (place : List String) : Bool :=
  place.all (· == "..")

def entry? (tree : FileTree) (place : List String) : Option FileEntry :=
  if isAround place then some .directory else tree.entries.lookup place

/-- Puts an entry at a place, instead of the one there. -/
def put (tree : FileTree) (place : List String) (entry : FileEntry) : FileTree :=
  ⟨(tree.entries.filter (·.1 ≠ place)) ++ [(place, entry)]⟩

/-! ## Walking -/

/-- A name has at most so many bytes. -/
def longestName : Nat := 255

/-- A path has at most so many bytes. -/
def longestPath : Nat := 4095

/-- The place that a component leads to. -/
def step (place : List String) (component : String) : List String :=
  if component = ".." ∧ ¬ isAround place then place.dropLast else place ++ [component]

/-- The place that segments lead to from a place. -/
def walk (tree : FileTree) (place : List String) : List String → Except FileProblem (List String)
  | [] => .ok place
  | segment :: rest =>
    match tree.entry? place with
    | none => .error .notFound
    | some (.file _) => .error .notDirectory
    | some .directory =>
      if longestName < segment.utf8ByteSize then .error .nameTooLong
      else if segment = "" ∨ segment = "." then tree.walk place rest
      else tree.walk (step place segment) rest

/-- The place of a path. What the path is as a text is looked at first. -/
def place (tree : FileTree) (path : String) : Except FileProblem (List String) :=
  if '\x00' ∈ path.toList then .error .nulCharacter
  else if longestPath < path.utf8ByteSize then .error .nameTooLong
  else if path = "" ∨ FilePath.isAbsolute path then .error .notFound
  else tree.walk [] (FilePath.segments path)

/-- What stands at a path. -/
def find (tree : FileTree) (path : String) : Except FileProblem FileEntry := do
  match tree.entry? (← tree.place path) with
  | some entry => return entry
  | none => throw .notFound

/-! ## Operations -/

def readFile (tree : FileTree) (path : String) : Except FileProblem (List UInt8) := do
  match ← tree.find path with
  | .file contents => return contents
  | .directory => throw .isDirectory

def writeFile (tree : FileTree) (path : String) (contents : List UInt8) :
    Except FileProblem FileTree := do
  let place ← tree.place path
  match tree.entry? place with
  | some .directory => throw .isDirectory
  | _ => return tree.put place (.file contents)

def makeDirectory (tree : FileTree) (path : String) : Except FileProblem FileTree := do
  let place ← tree.place path
  match tree.entry? place with
  | some _ => throw .alreadyExists
  | none => return tree.put place .directory

def isPresent (tree : FileTree) (path : String) : Bool :=
  (tree.find path).isOk

def isDirectory (tree : FileTree) (path : String) : Bool :=
  match tree.find path with
  | .ok .directory => true
  | _ => false

def namesIn (tree : FileTree) (path : String) : Except FileProblem (List String) := do
  match ← tree.find path with
  | .file _ => throw .notDirectory
  | .directory =>
    let place ← tree.place path
    return tree.entries.filterMap fun (other, _) =>
      if other ≠ [] ∧ other.dropLast = place then other.getLast? else none

/-! ## Whole trees -/

/-- Adds a file below a place, with the directories on the way. -/
def addFileFrom (tree : FileTree) (place : List String) (contents : List UInt8) :
    List String → FileTree
  | [] => tree
  | [name] => tree.put (step place name) (.file contents)
  | segment :: rest =>
    let next := step place segment
    let tree := if (tree.entry? next).isSome then tree else tree.put next .directory
    tree.addFileFrom next contents rest

/-- Adds a file with the directories around it. -/
def addFile (tree : FileTree) (path : String) (contents : List UInt8) : FileTree :=
  tree.addFileFrom [] contents ((FilePath.segments path).filter FilePath.isComponent)

def ofFiles (files : List (String × List UInt8)) : FileTree :=
  files.foldl (fun tree (path, contents) => tree.addFile path contents) {}

end FileTree

/-! ## The tree as a host -/

/-- A tree with the messages of a run, the first one first. -/
structure Desk where
  tree : FileTree
  messages : List String := []

namespace Desk

/-- Answers a question about the tree. -/
def ask {α : Type} (question : FileTree → α) : StateM Desk α :=
  return question (← get).tree

/-- Changes the tree, unless that fails. -/
def change (operation : FileTree → Except FileProblem FileTree) :
    StateM Desk (Except FileProblem Unit) := do
  let desk ← get
  match operation desk.tree with
  | .ok tree =>
    set { desk with tree }
    return .ok ()
  | .error problem => return .error problem

def host : Host (StateM Desk) where
  readFile path := ask (·.readFile path)
  writeFile path contents := change (·.writeFile path (Text.utf8 contents))
  makeDirectory path := change (·.makeDirectory path)
  isPresent path := ask (·.isPresent path)
  isDirectory path := ask (·.isDirectory path)
  namesIn path := ask (·.namesIn path)
  report message := modify fun desk => { desk with messages := desk.messages ++ [message] }

end Desk

end SchemaBindings
