import SchemaBindings.SchemaType

/-!
# Declarations

A schema is a tree of modules that hold declarations: structs, sealed unions of variants, aliases of types
and constants. The shape is the same before and after names are resolved and constants are checked, so
it is stated once: `τ` is the type of a type reference and `κ` the value of a constant.

* `Declaration.items` lists the declarations other than modules with the module they stand in, in the
  order of a reading from the top.
* `Declaration.modules` lists the paths of the modules, the outer before the inner.
-/

namespace SchemaBindings

/-! ## Records -/

/-- A named member of a struct or a variant. -/
structure Field (τ : Type) where
  name : String
  type : τ
  comment : Option String
deriving Repr

/-- A record type with named members. -/
structure Struct (τ : Type) where
  name : String
  generics : List String
  fields : List (Field τ)
  comment : Option String
deriving Repr

/-- One alternative of a union: a record that shares the generics of its union. -/
structure Variant (τ : Type) where
  name : String
  fields : List (Field τ)
  comment : Option String
deriving Repr

/-- A closed set of variants. -/
structure Union (τ : Type) where
  name : String
  generics : List String
  variants : List (Variant τ)
  comment : Option String
deriving Repr

/-- Another name for a type. -/
structure Alias (τ : Type) where
  name : String
  target : τ
  comment : Option String
deriving Repr

/-- A named value. -/
structure Constant (κ : Type) where
  name : String
  value : κ
  comment : Option String
deriving Repr

/-! ## Declarations -/

inductive Declaration (τ κ : Type) where
  | struct (s : Struct τ)
  | union (u : Union τ)
  | typeAlias (a : Alias τ)
  | const (c : Constant κ)
  | module (name : String) (comment : Option String) (declarations : List (Declaration τ κ))
deriving Repr

namespace Declaration

variable {τ κ : Type}

def name : Declaration τ κ → String
  | struct s => s.name
  | union u => u.name
  | typeAlias a => a.name
  | const c => c.name
  | module name _ _ => name

def comment : Declaration τ κ → Option String
  | struct s => s.comment
  | union u => u.comment
  | typeAlias a => a.comment
  | const c => c.comment
  | module _ comment _ => comment

def kind : Declaration τ κ → Kind
  | struct _ => .struct
  | union _ => .union
  | typeAlias _ => .typeAlias
  | const _ => .const
  | module _ _ _ => .module

/-- The types that the declaration is built from: those of its fields, or its target. -/
def types : Declaration τ κ → List τ
  | struct s => s.fields.map (·.type)
  | union u => u.variants.flatMap fun v => v.fields.map (·.type)
  | typeAlias a => [a.target]
  | const _ => []
  | module _ _ _ => []

/-- The number of generic parameters, for the declarations that a type can refer to. -/
def genericCount? : Declaration τ κ → Option Nat
  | struct s => some s.generics.length
  | union u => some u.generics.length
  | typeAlias _ => some 0
  | const _ => none
  | module _ _ _ => none

def isModule : Declaration τ κ → Bool
  | module _ _ _ => true
  | _ => false

end Declaration

/-! ## Modules -/

/-- A declaration other than a module, with the path of the module it stands in. -/
structure Item (τ κ : Type) where
  module : ModulePath
  declaration : Declaration τ κ

def Item.path {τ κ : Type} (i : Item τ κ) : SchemaPath :=
  (SchemaPath.mk i.module).child i.declaration.name

namespace Declaration

variable {τ κ : Type}

mutual

/-- The items of a declaration that stands in the module `m`. -/
def itemsIn (m : ModulePath) : Declaration τ κ → List (Item τ κ)
  | struct s => [⟨m, struct s⟩]
  | union u => [⟨m, union u⟩]
  | typeAlias a => [⟨m, typeAlias a⟩]
  | const c => [⟨m, const c⟩]
  | module name _ declarations => items (m ++ [name]) declarations

/-- The items of declarations that stand in the module `m`, in the order of a reading from the top. -/
def items (m : ModulePath) : List (Declaration τ κ) → List (Item τ κ)
  | [] => []
  | d :: ds => itemsIn m d ++ items m ds

end

mutual

/-- The modules that a declaration in the module `m` introduces, with their comments. -/
def modulesIn (m : ModulePath) : Declaration τ κ → List (ModulePath × Option String)
  | struct _ | union _ | typeAlias _ | const _ => []
  | module name comment declarations =>
    (m ++ [name], comment) :: modules (m ++ [name]) declarations

/-- The modules that declarations in the module `m` introduce, the outer before the inner. -/
def modules (m : ModulePath) : List (Declaration τ κ) → List (ModulePath × Option String)
  | [] => []
  | d :: ds => modulesIn m d ++ modules m ds

end

/-- The paths of all modules, the root first. -/
def modulePaths (ds : List (Declaration τ κ)) : List ModulePath :=
  [] :: (modules [] ds).map (·.1)

/-- The comments of the modules that have one, in the order of module paths. -/
def moduleComments (ds : List (Declaration τ κ)) : List (ModulePath × String) :=
  ordered (fun a b => modulePrecedes a.1 b.1)
    ((modules [] ds).filterMap fun (path, comment) => comment.map (path, ·))

end Declaration

end SchemaBindings
