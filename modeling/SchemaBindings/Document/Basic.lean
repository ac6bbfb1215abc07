import SchemaBindings.Constant
import SchemaBindings.Declaration

/-!
# Schema documents

A schema as it stands in a document: names of types are texts, and constants are literals that have not
been checked.
-/

namespace SchemaBindings

/-- A constant's type and literal. -/
structure ConstantExpr where
  type : Scalar
  literal : Literal
deriving DecidableEq, Repr

abbrev DeclarationExpr := Declaration TypeExpr ConstantExpr

/-- A schema document: the declarations of the root module. -/
structure Document where
  declarations : List DeclarationExpr := []
deriving Repr

end SchemaBindings
