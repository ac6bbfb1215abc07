import SchemaBindings.Text.Words

/-!
# Naming conventions

How a target language spells declared names. A field has one spelling for each namespace that it is
declared in, such as the members of a record and the parameters of its constructor.
-/

namespace SchemaBindings

/-- The spellings of declared names. -/
structure Conventions where
  /-- A struct, a union, an alias or a variant. -/
  typeName : String → String := Text.upperCamel
  constantName : String → String
  fieldNames : String → List String
  /-- A segment of a module path. -/
  moduleName : String → String := Text.snake

/-- The name of a variant's type that also names its union. -/
def Conventions.qualifiedName (c : Conventions) (owner variant separator : String) : String :=
  c.typeName owner ++ separator ++ c.typeName variant

end SchemaBindings
