import SchemaBindings.Config
import SchemaBindings.Naming.Table
import SchemaBindings.Source.FilePath
import SchemaBindings.Source.Layout
import SchemaBindings.Source.Output
import SchemaBindings.TupleRecord

/-!
# Targets

A target language is its naming conventions, a renderer for each kind of declaration, and a way to
group outputs into files. Rendering is a function of one declaration and what surrounds it.
-/

namespace SchemaBindings

structure RenderContext where
  config : Config
  names : NameTable
  /-- The module of the declaration. -/
  module : ModulePath

/-- The emitted name of a declared type. A type without a name of its own has the plain spelling, which only
shows when a declaration is rendered outside a run. -/
def RenderContext.identifierOf (cx : RenderContext) (path : SchemaPath) : String :=
  (cx.names.identifier? path).getD (Text.upperCamel path.name)

structure Target where
  conventions : Conventions
  structOutput : RenderContext → Struct TypeRef → String → Output
  /-- The union itself, then one output per variant in declared order. -/
  unionOutputs : RenderContext → Union TypeRef → DeclarationNames → List Output
  aliasOutput : RenderContext → Alias TypeRef → String → Output
  constantOutput : RenderContext → Constant ConstantValue → String → Output
  tupleOutput : TupleRecord → Output
  /-- Whether two modules may not refer to each other. -/
  forbidsImportCycles : Bool
  /-- Groups outputs into files; the comments belong to modules. -/
  assemble : Config → List Output → List (ModulePath × String) → List File

def Target.render (target : Target) (cx : RenderContext) (d : SchemaDeclaration)
    (names : DeclarationNames) : List Output :=
  match d with
  | .struct s => [target.structOutput cx s names.identifier]
  | .union u => target.unionOutputs cx u names
  | .typeAlias a => [target.aliasOutput cx a names.identifier]
  | .const c => [target.constantOutput cx c names.identifier]
  | .module _ _ _ => []

/-- Names in brackets, with commas between them; nothing without names. -/
def bracketed (opening closing : String) (names : List String) : String :=
  if names = [] then "" else opening ++ ", ".intercalate names ++ closing

end SchemaBindings
