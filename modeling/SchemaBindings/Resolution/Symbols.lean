import SchemaBindings.Document.Basic

/-!
# Symbols of a document

The types that a document declares, by path and number of generics. Of declarations with the same name in a
module the first one counts; the others, and all that a module among them holds, declare nothing.
A name is looked up in the module of the reference first, then from the root.
-/

namespace SchemaBindings

/-- A declared type and its number of generic parameters. -/
structure Symbol where
  path : SchemaPath
  generics : Nat
deriving DecidableEq, Repr

mutual

/-- The types that a declaration in the module `m` declares. -/
def symbolsIn (m : ModulePath) : DeclarationExpr → List Symbol
  | .struct s => [⟨(SchemaPath.mk m).child s.name, s.generics.length⟩]
  | .union u => [⟨(SchemaPath.mk m).child u.name, u.generics.length⟩]
  | .typeAlias a => [⟨(SchemaPath.mk m).child a.name, 0⟩]
  | .const _ => []
  | .module name _ declarations => symbols (m ++ [name]) [] declarations

/-- The types that declarations in the module `m` declare; `seen` lists the names before them. -/
def symbols (m : ModulePath) (seen : List String) : List DeclarationExpr → List Symbol
  | [] => []
  | d :: ds =>
    if d.name ∈ seen then symbols m seen ds
    else symbolsIn m d ++ symbols m (d.name :: seen) ds

end

def Document.symbols (document : Document) : List Symbol :=
  SchemaBindings.symbols [] [] document.declarations

/-! ## Names -/

def splitColons : List Char → List (List Char)
  | [] => [[]]
  | ':' :: ':' :: rest => [] :: splitColons rest
  | c :: rest =>
    match splitColons rest with
    | [] => [[c]]
    | segment :: segments => (c :: segment) :: segments

def nameSegments (name : String) : List String :=
  (splitColons name.toList).map String.ofList

def symbolAt? (table : List Symbol) (path : SchemaPath) : Option Symbol :=
  table.find? (·.path == path)

/-- The symbol that a name in the module `m` stands for. -/
def lookup? (table : List Symbol) (m : ModulePath) (name : String) : Option Symbol :=
  match symbolAt? table ⟨m ++ nameSegments name⟩ with
  | some symbol => some symbol
  | none => symbolAt? table ⟨nameSegments name⟩

example : nameSegments "a::b:::C" = ["a", "b", ":C"] := by decide +kernel
example : nameSegments "" = [""] := by decide +kernel

end SchemaBindings
