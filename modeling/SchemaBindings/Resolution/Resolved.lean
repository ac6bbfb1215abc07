import SchemaBindings.Resolution.Checks
import SchemaBindings.Resolution.Symbols

/-!
# Resolved schemas

Resolving a document replaces names of types by paths, folds constants and checks every declaration on its
own. A declaration that fails is left out and reported; the others are not affected, also if they refer
to it. A repeated name is reported and its declaration skipped, and so is a module whose name is
no identifier, with everything inside it.
-/

namespace SchemaBindings

/-- What a reference is resolved against: the declared types, the module of the reference, and the generics
of the declaration around it. -/
structure Scope where
  table : List Symbol
  module : ModulePath
  generics : List String

/-! ## Types -/

mutual

/-- Resolves a type reference; the first problem counts, and a reference to a declared type is checked
before its arguments. -/
def Scope.resolveType (scope : Scope) : TypeExpr → Except Fault TypeRef
  | .scalar s => .ok (.scalar s)
  | .tuple elements => do tuple? (← scope.resolveTypes elements)
  | .list item => return .list (← scope.resolveType item)
  | .array item length => return .array (← scope.resolveType item) length
  | .option item => return .option (← scope.resolveType item)
  | .map key value => return .map (← scope.resolveType key) (← scope.resolveType value)
  | .hashSet item => return .hashSet (← scope.resolveType item)
  | .named name arguments =>
    match lookup? scope.table scope.module name with
    | none => .error (.unknownType name)
    | some symbol =>
      if symbol.generics ≠ arguments.length then
        .error (.genericArgumentCount name symbol.generics arguments.length)
      else return .named symbol.path (← scope.resolveTypes arguments)
  | .param name =>
    if name ∈ scope.generics then .ok (.param name) else .error (.unknownType name)

def Scope.resolveTypes (scope : Scope) : List TypeExpr → Except Fault (List TypeRef)
  | [] => .ok []
  | t :: ts => return (← scope.resolveType t) :: (← scope.resolveTypes ts)

end

/-! ## Declarations -/

namespace Scope

def resolveField (scope : Scope) (f : Field TypeExpr) : Except Fault (Field TypeRef) :=
  return ⟨f.name, ← scope.resolveType f.type, f.comment⟩

def resolveStruct (scope : Scope) (s : Struct TypeExpr) : Except Fault (Struct TypeRef) := do
  let resolved : Struct TypeRef :=
    ⟨s.name, s.generics, ← s.fields.mapM scope.resolveField, s.comment⟩
  resolved.check
  return resolved

def resolveVariant (scope : Scope) (v : Variant TypeExpr) : Except Fault (Variant TypeRef) := do
  let resolved : Variant TypeRef := ⟨v.name, ← v.fields.mapM scope.resolveField, v.comment⟩
  resolved.check
  return resolved

def resolveUnion (scope : Scope) (u : Union TypeExpr) : Except Fault (Union TypeRef) := do
  let resolved : Union TypeRef :=
    ⟨u.name, u.generics, ← u.variants.mapM scope.resolveVariant, u.comment⟩
  resolved.check
  return resolved

def resolveAlias (scope : Scope) (a : Alias TypeExpr) : Except Fault (Alias TypeRef) := do
  checkIdentifier a.name
  return ⟨a.name, ← scope.resolveType a.target, a.comment⟩

end Scope

def resolveConstant (c : Constant ConstantExpr) : Except Fault (Constant ConstantValue) := do
  checkIdentifier c.name
  return ⟨c.name, ← fold c.value.type c.value.literal, c.comment⟩

/-! ## Modules -/

/-- The declarations that passed, and the failures of the others. -/
structure Resolved where
  declarations : List SchemaDeclaration := []
  failures : List DeclarationFailure := []

namespace Resolved

/-- The result of one declaration other than a module. -/
def ofExcept (path : SchemaPath) : Except Fault SchemaDeclaration → Resolved
  | .ok d => ⟨[d], []⟩
  | .error fault => ⟨[], [⟨path, fault⟩]⟩

def append (r s : Resolved) : Resolved :=
  ⟨r.declarations ++ s.declarations, r.failures ++ s.failures⟩

end Resolved

mutual

/-- Resolves a declaration of the module `m`. -/
def resolveIn (table : List Symbol) (m : ModulePath) : DeclarationExpr → Resolved
  | .struct s =>
    .ofExcept ((SchemaPath.mk m).child s.name) (.struct <$> (Scope.mk table m s.generics).resolveStruct s)
  | .union u =>
    .ofExcept ((SchemaPath.mk m).child u.name) (.union <$> (Scope.mk table m u.generics).resolveUnion u)
  | .typeAlias a =>
    .ofExcept ((SchemaPath.mk m).child a.name) (.typeAlias <$> (Scope.mk table m []).resolveAlias a)
  | .const c => .ofExcept ((SchemaPath.mk m).child c.name) (.const <$> resolveConstant c)
  | .module name comment declarations =>
    match checkIdentifier name with
    | .error fault => ⟨[], [⟨(SchemaPath.mk m).child name, fault⟩]⟩
    | .ok () =>
      let inner := resolveAll table (m ++ [name]) [] declarations
      ⟨[.module name comment inner.declarations], inner.failures⟩

/-- Resolves declarations of the module `m`; `seen` lists the names before them. -/
def resolveAll (table : List Symbol) (m : ModulePath) (seen : List String) :
    List DeclarationExpr → Resolved
  | [] => {}
  | d :: ds =>
    if d.name ∈ seen then
      Resolved.append ⟨[], [⟨(SchemaPath.mk m).child d.name, .duplicateDeclaration d.name⟩]⟩
        (resolveAll table m seen ds)
    else
      (resolveIn table m d).append (resolveAll table m (d.name :: seen) ds)

end

def Document.resolve (document : Document) : Resolved :=
  resolveAll document.symbols [] [] document.declarations

namespace Resolved

/-- The declarations other than modules, in the order of a reading from the top. -/
def items (r : Resolved) : List SchemaItem :=
  Declaration.items [] r.declarations

/-- The paths of the modules, the root first. -/
def modulePaths (r : Resolved) : List ModulePath :=
  Declaration.modulePaths r.declarations

/-- The comments of the modules that have one, in the order of module paths. -/
def moduleComments (r : Resolved) : List (ModulePath × String) :=
  Declaration.moduleComments r.declarations

end Resolved

end SchemaBindings
