import SchemaBindings.Command.Host

/-!
# Patterns for paths

A pattern stands for the paths that it matches.

* `?` matches a character, `*` any characters, `[ab]`, `[a-z]` and `[!a]` one of a class. Nothing
  matches a separator, and a dot at the start of a name needs no dot in the pattern, except that the names
  `.` and `..` do.
* `**` is a component of its own and matches any number of directories.
* A component without such characters is not matched but looked up, and a pattern that ends in a separator
  matches directories only.
-/

namespace SchemaBindings

/-! ## Components -/

/-- What a part of a component matches. -/
inductive GlobToken where
  | char (c : Char)
  | anyChar
  | anyText
  /-- A whole component `**`. -/
  | anyPath
  /-- One character of a class, given by its ranges, or one outside. -/
  | charIn (inside : Bool) (ranges : List (Char × Char))
deriving DecidableEq, Repr

inductive GlobProblem where
  | wildcards
  | recursiveWildcards
  | range
deriving DecidableEq, Repr

/-- A problem with the place in the pattern, counted in characters. -/
structure GlobError where
  position : Nat
  problem : GlobProblem
deriving DecidableEq, Repr

def GlobError.message (e : GlobError) : String :=
  let words := match e.problem with
    | .wildcards => "wildcards are either regular `*` or recursive `**`"
    | .recursiveWildcards => "recursive wildcards must form a single path component"
    | .range => "invalid range pattern"
  "Pattern syntax error near position " ++ toString e.position ++ ": " ++ words

namespace Glob

def classRanges : List Char → List (Char × Char)
  | a :: '-' :: b :: rest => (a, b) :: classRanges rest
  | a :: rest => (a, a) :: classRanges rest
  | [] => []

/-- Splits the characters of a class, the first of which is `first`, from what follows the class. -/
def closeClass (first : Char) (rest : List Char) : Option (List Char × List Char) :=
  match rest.dropWhile (· ≠ ']') with
  | [] => none
  | _ :: behind => some (first :: rest.takeWhile (· ≠ ']'), behind)

/-- A token with the characters that it is written with, and what follows them. -/
structure SpelledToken where
  token : GlobToken
  spelling : List Char
  behind : List Char

/-- The class behind an opening bracket. -/
def readClass : List Char → Option SpelledToken
  | '!' :: first :: rest => (closeClass first rest).map fun (body, behind) =>
      ⟨.charIn false (classRanges body), '[' :: '!' :: body ++ [']'], behind⟩
  | '!' :: [] => none
  | first :: rest => (closeClass first rest).map fun (body, behind) =>
      ⟨.charIn true (classRanges body), '[' :: body ++ [']'], behind⟩
  | [] => none

/-- The token at a position; `before` is the character before, if there is one. -/
def readToken (position : Nat) (before : Option Char) (c : Char) (rest : List Char) :
    Except GlobError SpelledToken :=
  match c, rest with
  | '?', rest => .ok ⟨.anyChar, ['?'], rest⟩
  | '*', '*' :: '*' :: _ => .error ⟨position + 2, .wildcards⟩
  | '*', '*' :: rest =>
    if before.any (· ≠ '/') then .error ⟨position - 1, .recursiveWildcards⟩
    else
      match rest with
      | [] => .ok ⟨.anyPath, ['*', '*'], []⟩
      | '/' :: rest => .ok ⟨.anyPath, ['*', '*', '/'], rest⟩
      | _ => .error ⟨position + 2, .recursiveWildcards⟩
  | '*', rest => .ok ⟨.anyText, ['*'], rest⟩
  | '[', rest =>
    match readClass rest with
    | some read => .ok read
    | none => .error ⟨position, .range⟩
  | c, rest => .ok ⟨.char c, [c], rest⟩

/-- At most so many tokens, from a position on. -/
def readTokens : Nat → Nat → Option Char → List Char → Except GlobError (List GlobToken)
  | 0, _, _, _ => .ok []
  | _, _, _, [] => .ok []
  | count + 1, position, before, c :: rest => do
    let read ← readToken position before c rest
    return read.token ::
      (← readTokens count (position + read.spelling.length) read.spelling.getLast? read.behind)

def tokens (text : List Char) : Except GlobError (List GlobToken) :=
  readTokens text.length 0 none text

def matchesChar (c : Char) : GlobToken → Bool
  | .char d => c = d
  | .anyChar => true
  | .charIn inside ranges => ranges.any (fun (first, last) => first ≤ c && c ≤ last) == inside
  | .anyText | .anyPath => false

/-- For each entry, whether it or a later one is true. -/
def anyFrom : List Bool → List Bool
  | [] => []
  | b :: later =>
    let rest := anyFrom later
    (b || rest.headD false) :: rest

/-- For each tail of a name, from the whole name to the empty one, whether it matches tokens. A token that
takes one character matches in front of the next tail, `*` in front of every later one. -/
def matchingTails (name : List Char) : List GlobToken → List Bool
  | [] => name.map (fun _ => false) ++ [true]
  | .anyPath :: ts => matchingTails name ts
  | .anyText :: ts => anyFrom (matchingTails name ts)
  | t :: ts => name.zipWith (fun c later => matchesChar c t && later) (matchingTails name ts).tail ++ [false]

def matchesName (ts : List GlobToken) (name : List Char) : Bool :=
  (matchingTails name ts).headD false

inductive Component where
  /-- A name that is looked up. -/
  | literal (name : String)
  /-- Any number of directories. -/
  | anyPath
  | tokens (ts : List GlobToken)
deriving DecidableEq, Repr

/-- The character of a token that matches nothing else. -/
def char? : GlobToken → Option Char
  | .char c => some c
  | _ => none

def component (text : List Char) : Except GlobError Component := do
  let ts ← tokens text
  if ts = [.anyPath] then return .anyPath
  match ts.mapM char? with
  | some name => return .literal (.ofList name)
  | none => return .tokens ts

def Component.holds : Component → String → Bool
  | literal name, other => name = other
  | anyPath, _ => true
  | tokens ts, other => matchesName ts other.toList

/-- Whether a component asks for names that start with a dot. -/
def Component.startsWithDot : Component → Bool
  | tokens (.char '.' :: _) => true
  | _ => false

end Glob

/-! ## Patterns -/

structure Glob where
  isAbsolute : Bool
  components : List Glob.Component
  directoriesOnly : Bool
deriving DecidableEq, Repr

namespace Glob

/-- Drops the empty text behind the last separator. -/
def dropLastEmpty (texts : List (List Char)) : List (List Char) :=
  if texts.getLast? = some [] then texts.dropLast else texts

/-- Whether a text holds a character that patterns give a meaning. -/
def isPattern (text : String) : Bool :=
  text.toList.any fun c => c = '*' || c = '?' || c = '[' || c = '\x7b'

/-- The pattern of a text, which is checked as a whole before its components. -/
def ofText (text : String) : Except GlobError Glob := do
  let _ ← tokens text.toList
  let isAbsolute := FilePath.isAbsolute text
  let body := if isAbsolute then text.toList.drop 1 else text.toList
  let components ← (dropLastEmpty (FilePath.splitSegments body)).mapM component
  return ⟨isAbsolute, components, text.endsWith "/"⟩

/-! ## Looking for paths -/

variable {m : Type → Type} [Monad m]

/-- A path cannot have more components than this. -/
def longestPath : Nat := 4096

/-- What a search needs: the host, and whether only directories count. -/
structure Search (m : Type → Type) where
  host : Host m
  directoriesOnly : Bool

structure Unlisted where
  path : String
  problem : FileProblem
deriving DecidableEq, Repr

/-- Keeps a path that matches the whole pattern, if it counts. -/
def Search.accept (s : Search m) (path : String) : ExceptT Unlisted m (List String) := do
  if s.directoriesOnly then
    return if ← s.host.isDirectory path then [path] else []
  else return [path]

/-- The path of a name in a directory; those in the working directory have the name alone. -/
def nameIn (directory name : String) : String :=
  if FilePath.components directory = ["."] then name else FilePath.push directory name

/-- The names in a directory, in order. -/
def Search.namesIn (s : Search m) (directory : String) : ExceptT Unlisted m (List String) := do
  match ← s.host.namesIn directory with
  | .ok names => return names.mergeSort fun a b => !decide (b < a)
  | .error problem => throw ⟨directory, problem⟩

/-- The paths that match components inside a directory. The number bounds how deep the search goes; it is
used up by components and by directories that a component `**` enters. -/
def Search.within (s : Search m) :
    Nat → List Component → String → ExceptT Unlisted m (List String)
  | 0, _, _ => return []
  | _, [], _ => return []
  | depth + 1, .literal name :: rest, directory => do
    let path := nameIn directory name
    let found ←
      if name = "." ∨ name = ".." then s.host.isDirectory directory else s.host.isPresent path
    if !found then return []
    if rest = [] then s.accept path else s.within depth rest path
  | depth + 1, c :: rest, directory => do
    if !(← s.host.isDirectory directory) then return []
    let below := rest.dropWhile (· = .anyPath)
    let special ← [".", ".."].mapM fun name => do
      if c.startsWithDot && c.holds name then
        let path := FilePath.push directory name
        if rest = [] then s.accept path else s.within depth rest path
      else return []
    let found ← (← s.namesIn directory).mapM fun name => do
      let path := nameIn directory name
      if c = .anyPath then
        let isDirectory ← s.host.isDirectory path
        let inside ← if isDirectory then s.within depth (.anyPath :: below) path else pure []
        match below with
        | [] => return if isDirectory then path :: inside else []
        | next :: after =>
          if !next.holds name then return inside
          else if after = [] then return (← s.accept path) ++ inside
          else return (← s.within depth after path) ++ inside
      else if !c.holds name then return []
      else if rest = [] then s.accept path
      else s.within depth rest path
    return special.reverse.flatten ++ found.flatten

def paths (host : Host m) (pattern : Glob) : ExceptT Unlisted m (List String) := do
  let start := if pattern.isAbsolute then "/" else "."
  let s : Search m := ⟨host, pattern.directoriesOnly⟩
  return FilePath.sort (← s.within (pattern.components.length + longestPath) pattern.components start)

end Glob

example : Glob.matchesName [.anyText, .char '.', .char 'j'] "a.b.j".toList = true := by cbv
example : Glob.ofText "a***" = .error ⟨3, .wildcards⟩ := by cbv
example : Glob.ofText "x/a**" = .error ⟨2, .recursiveWildcards⟩ := by cbv
example : Glob.ofText "x/[a" = .error ⟨2, .range⟩ := by cbv
example : Glob.ofText "**/[!a-c].json/" =
    .ok ⟨false, [.anyPath, .tokens (.charIn false [('a', 'c')] :: ".json".toList.map .char)], true⟩ := by
  cbv

end SchemaBindings
