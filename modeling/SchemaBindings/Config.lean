import SchemaBindings.Fault
import SchemaBindings.Identifier

/-!
# Configuration

What a run can choose. A configuration is valid if tuples of two elements are allowed, the separator keeps
joined names identifiers, and the package is an identifier.
-/

namespace SchemaBindings

/-- The language of the bindings. -/
inductive TargetName where
  | go
  | rust
deriving DecidableEq, Repr

/-- How the types of a union's variants are named. -/
inductive NamingPolicy where
  /-- By the variant alone. -/
  | flat
  /-- By the union and the variant. -/
  | qualified
  /-- By the variant alone unless that name is taken. -/
  | auto
deriving DecidableEq, Repr

structure Config where
  /-- Stands between the names of a union and of a variant. -/
  separator : String := "_"
  maxTupleArity : Nat := 12
  policy : NamingPolicy := .auto
  /-- Whether the first failing declaration ends the run. -/
  strict : Bool := false
  /-- The name of the root module in the output. -/
  package : String := "schema"
  target : TargetName := .go
deriving DecidableEq, Repr

/-- Checks a configuration; the first problem counts. -/
def Config.validate (c : Config) : Except Fault Unit :=
  if c.maxTupleArity < 2 then .error (.invalidConfig (.smallArity c.maxTupleArity))
  else if !isSeparator c.separator then .error (.invalidConfig (.separator c.separator))
  else if !isIdentifier c.package then .error (.invalidConfig (.package c.package))
  else .ok ()

end SchemaBindings
