import SchemaBindings.Ordered
import SchemaBindings.Scalar
import SchemaBindings.SchemaPath

/-!
# Type references

The type of a field: a scalar, a type built from others, a declared type or a generic parameter. Declared
types are named by `ν`: a text as it stands in a document (`TypeExpr`), or the path of the declaration
once it is resolved (`TypeRef`).

* `SchemaType.walk` lists a type and every type inside it, each before its parts.
* `references`, `parameters` and `arities` are what the walk meets.
-/

namespace SchemaBindings

/-- A type reference whose declared types are named by `ν`. -/
inductive SchemaType (ν : Type) where
  | scalar (s : Scalar)
  | tuple (elements : List (SchemaType ν))
  | list (item : SchemaType ν)
  /-- A sequence of a fixed length. -/
  | array (item : SchemaType ν) (length : Nat)
  | option (item : SchemaType ν)
  | map (key value : SchemaType ν)
  | hashSet (item : SchemaType ν)
  /-- A declared struct, union or alias with its generic arguments. -/
  | named (name : ν) (arguments : List (SchemaType ν))
  /-- A generic parameter of the declaration around. -/
  | param (name : String)
deriving Repr

/-- A type reference as it stands in a document. -/
abbrev TypeExpr := SchemaType String

/-- A type reference whose names are resolved. -/
abbrev TypeRef := SchemaType SchemaPath

/-! ## Kinds -/

inductive Kind where
  | scalar (s : Scalar)
  | tuple (arity : Nat)
  | list
  | array (length : Nat)
  | option
  | map
  | hashSet
  | named
  | param
  | struct
  | union
  | typeAlias
  | const
  | module
deriving DecidableEq, Repr

namespace SchemaType

variable {ν : Type}

def kind : SchemaType ν → Kind
  | scalar s => .scalar s
  | tuple elements => .tuple elements.length
  | list _ => .list
  | array _ length => .array length
  | option _ => .option
  | map _ _ => .map
  | hashSet _ => .hashSet
  | named _ _ => .named
  | param _ => .param

/-- The types that a type is built from. -/
def children : SchemaType ν → List (SchemaType ν)
  | scalar _ | param _ => []
  | tuple elements => elements
  | list item | array item _ | option item | hashSet item => [item]
  | map key value => [key, value]
  | named _ arguments => arguments

/-! ## Walks -/

mutual

/-- The type and every type inside it, each before its parts. -/
def walk : SchemaType ν → List (SchemaType ν)
  | scalar s => [scalar s]
  | tuple elements => tuple elements :: walkAll elements
  | list item => list item :: item.walk
  | array item length => array item length :: item.walk
  | option item => option item :: item.walk
  | map key value => map key value :: (key.walk ++ value.walk)
  | hashSet item => hashSet item :: item.walk
  | named name arguments => named name arguments :: walkAll arguments
  | param name => [param name]

def walkAll : List (SchemaType ν) → List (SchemaType ν)
  | [] => []
  | t :: ts => t.walk ++ walkAll ts

end

def param? : SchemaType ν → Option String
  | param name => some name
  | _ => none

def named? : SchemaType ν → Option ν
  | named name _ => some name
  | _ => none

/-- The number of elements of a tuple. -/
def arity? : SchemaType ν → Option Nat
  | tuple elements => some elements.length
  | _ => none

/-- The generic parameters that occur in a type, once per occurrence. -/
def parameters (t : SchemaType ν) : List String :=
  t.walk.filterMap param?

/-- The declared types that occur in a type, once per occurrence. -/
def references (t : SchemaType ν) : List ν :=
  t.walk.filterMap named?

/-- The arities of the tuples that occur in a type, once per occurrence. -/
def arities (t : SchemaType ν) : List Nat :=
  t.walk.filterMap arity?

theorem walkAll_eq_flatMap (ts : List (SchemaType ν)) : walkAll ts = ts.flatMap walk := by
  induction ts with
  | nil => rfl
  | cons t ts ih => simp [walkAll, ih]

theorem walk_eq_cons (t : SchemaType ν) : t.walk = t :: t.children.flatMap walk := by
  cases t <;> simp [walk, children, walkAll_eq_flatMap]

end SchemaType

end SchemaBindings
