/-!
# File paths

Paths with `/` between their segments, as text. An absolute path replaces what it is appended to. Empty
segments, and `.` behind the first segment, name nothing; the others are the components of a path.
-/

namespace SchemaBindings.FilePath

def push (path component : String) : String :=
  if component.startsWith "/" then component
  else if path = "" ∨ path.endsWith "/" then path ++ component
  else path ++ "/" ++ component

def ofComponents (components : List String) : String :=
  components.foldl push ""

/-! ## Segments -/

def splitSegments : List Char → List (List Char)
  | [] => [[]]
  | c :: rest =>
    if c = '/' then [] :: splitSegments rest
    else
      match splitSegments rest with
      | [] => [[c]]
      | segment :: segments => (c :: segment) :: segments

def segments (path : String) : List String :=
  (splitSegments path.toList).map String.ofList

def isAbsolute (path : String) : Bool :=
  path.startsWith "/"

/-- Whether a segment behind the first one is a component. -/
def isComponent (segment : String) : Bool :=
  segment ≠ "" ∧ segment ≠ "."

/-- The segments that are components. -/
def components (path : String) : List String :=
  match segments path with
  | [] => []
  | first :: rest => (if first = "" then [] else [first]) ++ rest.filter isComponent

/-- Drops segments from the end that are no components; the first segment stays. -/
def dropVoid : List String → List String
  | [] => []
  | [segment] => [segment]
  | first :: rest => first :: (rest.reverse.dropWhile (!isComponent ·)).reverse

/-- The path around the last component, if there is one. -/
def parent? (path : String) : Option String :=
  match dropVoid (segments path) with
  | [] => none
  | [single] => if single = "" then none else some ""
  | kept =>
    match dropVoid kept.dropLast with
    | [""] => some "/"
    | around => some ("/".intercalate around)

/-- The paths around a path, from the inside. The second argument bounds their number. -/
def parentsWithin (path : String) : Nat → List String
  | 0 => []
  | n + 1 =>
    match parent? path with
    | none => []
    | some around => around :: parentsWithin around n

/-- The paths around a path, from the inside: not more than it has segments. -/
def parents (path : String) : List String :=
  parentsWithin path (segments path).length

/-! ## Order -/

/-- The rank of a component, and the text that orders components of one rank: the current directory, the
one around it, and names. -/
def componentKey (component : String) : Nat × String :=
  if component = "." then (0, "") else if component = ".." then (1, "") else (2, component)

/-- Whether the components of one path come before those of another. -/
def componentsPrecede : List String → List String → Bool
  | _, [] => false
  | [], _ :: _ => true
  | a :: as, b :: bs =>
    let (ka, ta) := componentKey a
    let (kb, tb) := componentKey b
    if ka = kb ∧ ta = tb then componentsPrecede as bs
    else decide (ka < kb) || (ka == kb && decide (ta < tb))

/-- The order of paths: absolute paths first, and then by their components. -/
def precedes (p q : String) : Bool :=
  if isAbsolute p = isAbsolute q then componentsPrecede (components p) (components q)
  else isAbsolute p

/-- Paths in order; equal ones stay as they were. -/
def sort (paths : List String) : List String :=
  paths.mergeSort fun p q => !precedes q p

example : push "gen/" "a.go" = "gen/a.go" := by decide +kernel
example : ofComponents ["m", "n", "n.go"] = "m/n/n.go" := by decide +kernel
example : parent? "gen//./a.go" = some "gen" := by decide +kernel
example : parent? "./a.go" = some "." := by decide +kernel
example : parent? "a.go" = some "" := by decide +kernel
example : parent? "/a" = some "/" := by decide +kernel
example : parents "a/b/c" = ["a/b", "a", ""] := by decide +kernel

end SchemaBindings.FilePath
