import SchemaBindings.SchemaPath

/-!
# Outputs and files

An output is one emitted identifier with its source text; a file groups the outputs of a run.
-/

namespace SchemaBindings

/-- One emitted identifier and its source. -/
structure Output where
  identifier : String
  /-- The schema module that the text belongs to. -/
  module : ModulePath
  source : String
  /-- What the text imports, in ascending order. -/
  imports : List String := []
deriving DecidableEq, Repr

/-- A file of a run, by its path in the output directory. -/
structure File where
  path : String
  contents : String
deriving DecidableEq, Repr

def fileHeader : String :=
  "// Code generated by schema-bindgen (v0.1.0). DO NOT EDIT.\n"

end SchemaBindings
