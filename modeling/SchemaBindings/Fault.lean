import SchemaBindings.SchemaPath
import SchemaBindings.Scalar

/-!
# Faults

Why a declaration cannot be generated. A fault is a cause with what its message names; it belongs to a
declaration through `DeclarationFailure`.
-/

namespace SchemaBindings

inductive LiteralKind where
  | bool
  | int
  | float
  | string
  | bytes
deriving DecidableEq, Repr

def LiteralKind.name : LiteralKind → String
  | bool => "boolean"
  | int => "integer"
  | float => "float"
  | string => "string"
  | bytes => "bytes"

inductive ConfigProblem where
  | smallArity (arity : Nat)
  | separator (text : String)
  | package (name : String)
deriving DecidableEq, Repr

def ConfigProblem.message : ConfigProblem → String
  | smallArity arity => "max_tuple_arity must be at least 2, got " ++ toString arity
  | separator text =>
    "namespace_separator `" ++ text ++ "` may only contain ASCII letters, digits and `_`"
  | package name => "package `" ++ name ++ "` is not an identifier"

/-- A cause of failure. -/
inductive Fault where
  | invalidArity (arity : Nat)
  | duplicateField (field : String)
  | duplicateVariant (variant : String)
  | duplicateGeneric (name : String)
  | unusedGeneric (name : String)
  | duplicateDeclaration (name : String)
  | unknownType (name : String)
  | genericArgumentCount (name : String) (expected found : Nat)
  | invalidIdentifier (name : String)
  | range (type : Scalar) (literal : String)
  | typeMismatch (type : Scalar) (literal : LiteralKind)
  | invalidLiteral (token : String)
  | unsupportedArity (arity max : Nat)
  | namingCollision (name takenBy : String)
  | dependencyFailed (name : String)
  | importCycle (module target : String)
  | invalidConfig (problem : ConfigProblem)
deriving DecidableEq, Repr

def Fault.message : Fault → String
  | invalidArity arity => "tuples need at least 2 elements, found " ++ toString arity
  | duplicateField field => "field `" ++ field ++ "` is declared more than once"
  | duplicateVariant variant => "variant `" ++ variant ++ "` is declared more than once"
  | duplicateGeneric name => "generic parameter `" ++ name ++ "` is declared more than once"
  | unusedGeneric name => "generic parameter `" ++ name ++ "` is never used by any field"
  | duplicateDeclaration name => "`" ++ name ++ "` is already declared in this module"
  | unknownType name => "unknown type `" ++ name ++ "`"
  | genericArgumentCount name expected found =>
    "`" ++ name ++ "` takes " ++ toString expected ++ " generic argument(s) but " ++
      toString found ++ " were given"
  | invalidIdentifier name => "`" ++ name ++ "` is not a valid identifier"
  | range type literal => "literal `" ++ literal ++ "` is out of range for `" ++ type.name ++ "`"
  | typeMismatch type literal =>
    literal.name ++ " literal cannot back a `" ++ type.name ++ "` value"
  | invalidLiteral token => "`" ++ token ++ "` is not a valid integer literal"
  | unsupportedArity arity max =>
    "tuples with " ++ toString arity ++ " elements exceed the configured maximum of " ++ toString max
  | namingCollision name takenBy =>
    "emitted name `" ++ name ++ "` is already taken by `" ++ takenBy ++ "`"
  | dependencyFailed name => "depends on `" ++ name ++ "`, which failed to generate"
  | importCycle module target =>
    "referring to `" ++ target ++ "` makes module `" ++ module ++ "` part of an import cycle"
  | invalidConfig problem => "invalid configuration: " ++ problem.message

/-- A fault of one declaration or module. -/
structure DeclarationFailure where
  path : SchemaPath
  fault : Fault
deriving DecidableEq, Repr

/-- The words for a failure: the path and the fault. -/
def DeclarationFailure.message (f : DeclarationFailure) : String :=
  f.path.text ++ ": " ++ f.fault.message

end SchemaBindings
