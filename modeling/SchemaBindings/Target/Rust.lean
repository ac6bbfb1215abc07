import SchemaBindings.Target.Basic
import SchemaBindings.Text.Quoted

/-!
# Rust

A union is an enum whose cases wrap one struct each, so a match on it is checked for exhaustiveness. All
outputs land in one file, with a nested public module per schema module; a path leads from the module of a
reference up with `super` and down to the module of the declaration.
-/

namespace SchemaBindings.Rust

/-! ## Names -/

/-- The keywords that can be raw identifiers. -/
def keywords : List String :=
  ["as", "async", "await", "break", "const", "continue", "dyn", "else", "enum", "extern", "false",
    "fn", "for", "gen", "if", "impl", "in", "let", "loop", "match", "mod", "move", "mut", "pub",
    "ref", "return", "static", "struct", "trait", "true", "try", "type", "unsafe", "use", "where",
    "while", "abstract", "become", "box", "do", "final", "macro", "override", "priv", "typeof",
    "unsized", "virtual", "yield"]

/-- The keywords that cannot be raw identifiers. -/
def reservedWords : List String :=
  ["crate", "self", "super", "Self"]

/-- A name that is no keyword: a reserved word gets an underscore, another keyword becomes raw. -/
def escape (name : String) : String :=
  if name ∈ reservedWords then name ++ "_"
  else if name ∈ keywords then "r#" ++ name
  else name

def fieldName (name : String) : String :=
  escape (Text.snake name)

def moduleName (segment : String) : String :=
  escape (Text.snake segment)

def conventions : Conventions where
  constantName := Text.screamingSnake
  fieldNames name := [fieldName name]
  moduleName := moduleName

/-! ## Types -/

/-- `<T1, T2>`. -/
def genericList (names : List String) : String :=
  bracketed "<" ">" names

/-- How many names two paths share from the root on. -/
def commonLength : ModulePath → ModulePath → Nat
  | a :: as, b :: bs => if a = b then commonLength as bs + 1 else 0
  | _, _ => 0

def relativePath (source destination : ModulePath) (name : String) : String :=
  let common := commonLength source destination
  "::".intercalate <|
    List.replicate (source.length - common) "super" ++ (destination.drop common).map moduleName ++
      [name]

def scalarText : Scalar → String
  | .string => "String"
  | .bytes => "Vec<u8>"
  | s => s.name

mutual

def typeText (cx : RenderContext) : TypeRef → String
  | .scalar s => scalarText s
  | .tuple elements =>
    relativePath cx.module tuplesModule (tupleName elements.length) ++
      genericList (typeTexts cx elements)
  | .list item => "Vec<" ++ typeText cx item ++ ">"
  | .array item length => "[" ++ typeText cx item ++ "; " ++ toString length ++ "]"
  | .option item => "Option<" ++ typeText cx item ++ ">"
  | .map key value =>
    "::std::collections::BTreeMap<" ++ typeText cx key ++ ", " ++ typeText cx value ++ ">"
  | .hashSet item => "::std::collections::HashSet<" ++ typeText cx item ++ ">"
  | .named path arguments =>
    relativePath cx.module path.module (cx.identifierOf path) ++
      genericList (typeTexts cx arguments)
  | .param name => name

def typeTexts (cx : RenderContext) : List TypeRef → List String
  | [] => []
  | t :: ts => typeText cx t :: typeTexts cx ts

end

/-! ## Records -/

/-- The attribute of a type whose name has an underscore. -/
def caseAttribute (identifier : String) : List Layout :=
  if '_' ∈ identifier.toList then [.line "#[allow(non_camel_case_types)]"] else []

def attributes (identifier : String) : List Layout :=
  caseAttribute identifier ++ [.line "#[derive(Clone, Debug, PartialEq)]"]

structure RenderedField where
  name : String
  type : String
  comment : Option String

def renderField (cx : RenderContext) (f : Field TypeRef) : RenderedField :=
  ⟨fieldName f.name, typeText cx f.type, f.comment⟩

/-- A struct and its constructor. -/
def recordLayout (identifier : String) (generics : List String) (fields : List RenderedField)
    (comment : Option String) : List Layout :=
  let parameters := genericList generics
  let head := "pub struct " ++ identifier ++ parameters
  let members := fields.flatMap fun f =>
    [.comment "///" f.comment, .line ("pub " ++ f.name ++ ": " ++ f.type ++ ",")]
  let arguments := fields.map fun f => f.name ++ ": " ++ f.type
  let construction :=
    if fields.isEmpty then "Self \x7b\x7d"
    else "Self \x7b " ++ ", ".intercalate (fields.map (·.name)) ++ " \x7d"
  [Layout.comment "///" comment] ++ attributes identifier ++
    [if fields.isEmpty then .line (head ++ " \x7b\x7d") else .braced head members,
      .blank,
      .braced ("impl" ++ parameters ++ " " ++ identifier ++ parameters)
        [.line "#[must_use]",
          .braced ("pub fn new(" ++ ", ".intercalate arguments ++ ") -> Self")
            [.line construction]]]

def indentation : String := "    "

def structOutput (cx : RenderContext) (s : Struct TypeRef) (identifier : String) : Output :=
  { identifier
    module := cx.module
    source := Layout.text indentation
      (recordLayout identifier s.generics (s.fields.map (renderField cx)) s.comment) }

/-! ## Unions -/

/-- A case of an enum: its name and the struct that it wraps. -/
structure EnumCase where
  name : String
  payload : String

def enumCases (u : Union TypeRef) (variantNames : List String) : List EnumCase :=
  (u.variants.zip variantNames).map fun (v, name) =>
    ⟨Text.upperCamel v.name, name ++ genericList (v.usedGenerics u.generics)⟩

/-- The conversion of a struct into the enum that wraps it. -/
def conversionLayout (identifier parameters : String) (c : EnumCase) : List Layout :=
  [.blank,
    .braced
      ("impl" ++ parameters ++ " From<" ++ c.payload ++ "> for " ++ identifier ++ parameters)
      [.braced ("fn from(value: " ++ c.payload ++ ") -> Self")
        [.line ("Self::" ++ c.name ++ "(value)")]]]

/-- The enum of a union and its conversions. -/
def enumLayout (u : Union TypeRef) (names : DeclarationNames) : List Layout :=
  let identifier := names.identifier
  let parameters := genericList u.generics
  let cases := enumCases u names.variants
  let head := "pub enum " ++ identifier ++ parameters
  [Layout.comment "///" u.comment] ++ attributes identifier ++
    [if cases.isEmpty then .line (head ++ " \x7b\x7d")
      else .braced head (cases.map fun c => .line (c.name ++ "(" ++ c.payload ++ "),"))] ++
    cases.flatMap (conversionLayout identifier parameters)

/-- The outputs of a union: the enum, then the structs of its variants. -/
def unionOutputs (cx : RenderContext) (u : Union TypeRef) (names : DeclarationNames) :
    List Output :=
  { identifier := names.identifier
    module := cx.module
    source := Layout.text indentation (enumLayout u names) } ::
  (u.variants.zip names.variants).map fun (v, name) =>
    { identifier := name
      module := cx.module
      source := Layout.text indentation
        (recordLayout name (v.usedGenerics u.generics) (v.fields.map (renderField cx)) v.comment) }

/-! ## Aliases and constants -/

def aliasOutput (cx : RenderContext) (a : Alias TypeRef) (identifier : String) : Output :=
  { identifier
    module := cx.module
    source := Layout.text indentation <|
      [Layout.comment "///" a.comment] ++ caseAttribute identifier ++
        [.line ("pub type " ++ identifier ++ " = " ++ typeText cx a.target ++ ";")] }

/-- The type of a constant: texts and byte strings are borrowed. -/
def constantTypeText : Scalar → String
  | .string => "&str"
  | .bytes => "&[u8]"
  | s => scalarText s

def initializer (value : ConstantValue) : String :=
  match value.datum with
  | .bool b => toString b
  | .unsigned n => toString n
  | .signed n => toString n
  | .float x =>
    if value.type = .f32 then (x.convert .single).write .constant else x.write .constant
  | .string s => Text.quoteUnprintable s
  | .bytes bs => "&[" ++ ", ".intercalate (bs.map fun b => toString b.toNat) ++ "]"

def constantOutput (cx : RenderContext) (c : Constant ConstantValue) (identifier : String) :
    Output :=
  { identifier
    module := cx.module
    source := Layout.text indentation
      [.comment "///" c.comment,
        .line ("pub const " ++ identifier ++ ": " ++ constantTypeText c.value.type ++ " = " ++
          initializer c.value ++ ";")] }

/-! ## Tuples -/

def tupleOutput (t : TupleRecord) : Output :=
  let fields := (t.fields.zip t.parameters).map fun (field, parameter) =>
    (⟨field.toLower, parameter, none⟩ : RenderedField)
  { identifier := t.name
    module := tuplesModule
    source := Layout.text indentation (recordLayout t.name t.parameters fields none) }

/-! ## The file -/

/-- The outputs of a module and the modules inside it, in the order of their names. -/
inductive ModuleTree where
  | node (outputs : List Output) (children : List (String × ModuleTree))

namespace ModuleTree

def empty : ModuleTree := .node [] []

/-- Changes the child of a name; a missing child is empty before. -/
def updateChild (name : String) (update : ModuleTree → ModuleTree) :
    List (String × ModuleTree) → List (String × ModuleTree)
  | [] => [(name, update empty)]
  | (other, child) :: rest =>
    if name = other then (other, update child) :: rest
    else if name < other then (name, update empty) :: (other, child) :: rest
    else (other, child) :: updateChild name update rest

/-- Adds an output at a path below the module. -/
def insert (output : Output) : ModulePath → ModuleTree → ModuleTree
  | [], node outputs children => node (outputs ++ [output]) children
  | name :: rest, node outputs children =>
    node outputs (updateChild name (insert output rest) children)

def ofOutputs (outputs : List Output) : ModuleTree :=
  outputs.foldl (fun tree output => tree.insert output output.module) empty

/-- The text between two items of a module: a blank line, except before the first item. -/
def gap (isFirst : Bool) : List Layout :=
  if isFirst then [] else [.blank]

def outputsLayout : Bool → List Output → List Layout
  | _, [] => []
  | isFirst, output :: rest =>
    gap isFirst ++ [.embed output.source] ++ outputsLayout false rest

mutual

/-- The contents of the module at `path`; nothing stands before its first item if `isFirst`. -/
def layout (comments : List (ModulePath × String)) (path : ModulePath) (isFirst : Bool) :
    ModuleTree → List Layout
  | node outputs children =>
    outputsLayout isFirst outputs ++
      childrenLayout comments path (isFirst && outputs.isEmpty) children

/-- The modules inside the module at `path`. -/
def childrenLayout (comments : List (ModulePath × String)) (path : ModulePath) (isFirst : Bool) :
    List (String × ModuleTree) → List Layout
  | [] => []
  | (name, child) :: rest =>
    gap isFirst ++
      [.comment "///" (comments.lookup (path ++ [name])),
        .braced ("pub mod " ++ moduleName name) (layout comments (path ++ [name]) true child)] ++
      childrenLayout comments path false rest

end

end ModuleTree

/-- The single file of a run. -/
def assemble (config : Config) (outputs : List Output) (comments : List (ModulePath × String)) :
    List File :=
  [{ path := config.package ++ ".rs"
     contents := Layout.text indentation <|
       Layout.embed fileHeader :: (ModuleTree.ofOutputs outputs).layout comments [] false }]

def target : Target where
  conventions := conventions
  structOutput := structOutput
  unionOutputs := unionOutputs
  aliasOutput := aliasOutput
  constantOutput := constantOutput
  tupleOutput := tupleOutput
  forbidsImportCycles := false
  assemble := assemble

end SchemaBindings.Rust
