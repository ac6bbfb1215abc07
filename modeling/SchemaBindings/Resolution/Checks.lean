import SchemaBindings.Constant
import SchemaBindings.Declaration
import SchemaBindings.Identifier

/-!
# Checks of a declaration

What a declaration must satisfy once its types are resolved. Each check looks from the left, and the first
problem counts:

* names of declarations, fields, variants and generics are identifiers;
* fields of a record, variants of a union and generics of a declaration are distinct;
* every generic occurs in a field's type;
* a tuple has at least two elements.
-/

namespace SchemaBindings

/-- A declaration whose names are resolved and whose constants are checked. -/
abbrev SchemaDeclaration := Declaration TypeRef ConstantValue

/-- A declaration of a schema with the module that it stands in. -/
abbrev SchemaItem := Item TypeRef ConstantValue

def checkIdentifier (name : String) : Except Fault Unit :=
  if isIdentifier name then .ok () else .error (.invalidIdentifier name)

/-- The fields must have distinct names that are identifiers; `seen` lists the names before. -/
def checkFields (seen : List String) : List (Field TypeRef) → Except Fault Unit
  | [] => .ok ()
  | f :: fs => do
    checkIdentifier f.name
    if f.name ∈ seen then throw (.duplicateField f.name)
    checkFields (f.name :: seen) fs

/-- The variants must have distinct names; `seen` lists the names before. -/
def checkVariantNames (seen : List String) : List (Variant TypeRef) → Except Fault Unit
  | [] => .ok ()
  | v :: vs =>
    if v.name ∈ seen then .error (.duplicateVariant v.name)
    else checkVariantNames (v.name :: seen) vs

/-- The generics must have distinct names that are identifiers; `seen` lists the names before. -/
def checkGenericNames (seen : List String) : List String → Except Fault Unit
  | [] => .ok ()
  | g :: gs => do
    checkIdentifier g
    if g ∈ seen then throw (.duplicateGeneric g)
    checkGenericNames (g :: seen) gs

/-- The generic parameters that occur in the fields, once per occurrence. -/
def parametersOf (fields : List (Field TypeRef)) : List String :=
  fields.flatMap fun f => f.type.parameters

/-- The generics must be distinct identifiers, and each must occur in a field. -/
def checkGenerics (generics : List String) (fields : List (Field TypeRef)) : Except Fault Unit := do
  checkGenericNames [] generics
  match generics.find? (· ∉ parametersOf fields) with
  | some g => throw (.unusedGeneric g)
  | none => return ()

def Struct.check (s : Struct TypeRef) : Except Fault Unit := do
  checkIdentifier s.name
  checkFields [] s.fields
  checkGenerics s.generics s.fields

def Variant.check (v : Variant TypeRef) : Except Fault Unit := do
  checkIdentifier v.name
  checkFields [] v.fields

/-- The checks of a union, apart from those of its variants. -/
def Union.check (u : Union TypeRef) : Except Fault Unit := do
  checkIdentifier u.name
  checkVariantNames [] u.variants
  checkGenerics u.generics (u.variants.flatMap (·.fields))

/-- The generics of its union that a variant uses, in declared order. -/
def Variant.usedGenerics (v : Variant TypeRef) (generics : List String) : List String :=
  generics.filter (· ∈ parametersOf v.fields)

/-- A tuple of at least two elements. -/
def tuple? {ν : Type} (elements : List (SchemaType ν)) : Except Fault (SchemaType ν) :=
  if elements.length < 2 then .error (.invalidArity elements.length) else .ok (.tuple elements)

end SchemaBindings
