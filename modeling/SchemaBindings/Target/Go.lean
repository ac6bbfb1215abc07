import SchemaBindings.Target.Basic
import SchemaBindings.Text.Quoted

/-!
# Go

Each module is a package, and the root package is named by the configuration. A union is an interface with
an unexported marker method, so only types of its package can implement it, and a `Match` function
that takes one handler per variant. Packages may not import each other.
-/

namespace SchemaBindings.Go

/-! ## Names -/

/-- The words that cannot be identifiers. -/
def keywords : List String :=
  ["break", "case", "chan", "const", "continue", "default", "defer", "else", "fallthrough", "for",
    "func", "go", "goto", "if", "import", "interface", "map", "package", "range", "return",
    "select", "struct", "switch", "type", "var"]

/-- A keyword with an underscore behind it; any other name as it is. -/
def escape (name : String) : String :=
  if name ∈ keywords then name ++ "_" else name

/-- The exported name of a field. -/
def memberName (name : String) : String :=
  Text.upperCamel name

def parameterName (name : String) : String :=
  escape (Text.lowerCamel name)

def moduleName (segment : String) : String :=
  escape segment.toLower

def conventions : Conventions where
  constantName := Text.upperCamel
  fieldNames name := [memberName name, parameterName name]
  moduleName := moduleName

def packageName (m : ModulePath) (config : Config) : String :=
  match m.getLast? with
  | some segment => moduleName segment
  | none => config.package

def importPath (m : ModulePath) (config : Config) : String :=
  "/".intercalate (config.package :: m.map moduleName)

/-- The import path of integers without a fixed width. -/
def bigPackage : String := "math/big"

/-! ## Types -/

/-- `[T1 any, T2 any]`. -/
def typeParameters (names : List String) : String :=
  bracketed "[" "]" (names.map (· ++ " any"))

/-- `[T1, T2]`. -/
def typeArguments (names : List String) : String :=
  bracketed "[" "]" names

def scalarText : Scalar → String
  | .bool => "bool"
  | .u8 => "uint8"
  | .u16 => "uint16"
  | .u32 => "uint32"
  | .u64 => "uint64"
  | .i8 => "int8"
  | .i16 => "int16"
  | .i32 => "int32"
  | .i64 => "int64"
  | .u128 | .i128 => "*big.Int"
  | .f32 => "float32"
  | .f64 => "float64"
  | .string => "string"
  | .bytes => "[]byte"

/-- What stands before a name of the module `m`; nothing inside the same package. -/
def qualifier (cx : RenderContext) (m : ModulePath) : String :=
  if m = cx.module then "" else packageName m cx.config ++ "."

mutual

def typeText (cx : RenderContext) : TypeRef → String
  | .scalar s => scalarText s
  | .tuple elements =>
    qualifier cx tuplesModule ++ tupleName elements.length ++ typeArguments (typeTexts cx elements)
  | .list item => "[]" ++ typeText cx item
  | .array item length => "[" ++ toString length ++ "]" ++ typeText cx item
  | .option item => "*" ++ typeText cx item
  | .map key value => "map[" ++ typeText cx key ++ "]" ++ typeText cx value
  | .hashSet item => "map[" ++ typeText cx item ++ "]struct\x7b\x7d"
  | .named path arguments =>
    qualifier cx path.module ++ cx.identifierOf path ++ typeArguments (typeTexts cx arguments)
  | .param name => name

def typeTexts (cx : RenderContext) : List TypeRef → List String
  | [] => []
  | t :: ts => typeText cx t :: typeTexts cx ts

end

/-! ## Imports -/

/-- The import of a module, unless it is the one that is rendered. -/
def moduleImport? (cx : RenderContext) (m : ModulePath) : Option String :=
  if m = cx.module then none else some (importPath m cx.config)

def scalarImport? (s : Scalar) : Option String :=
  if s = .u128 ∨ s = .i128 then some bigPackage else none

/-- The import that a type needs, apart from those of its parts. -/
def typeImport? (cx : RenderContext) : TypeRef → Option String
  | .scalar s => scalarImport? s
  | .tuple _ => moduleImport? cx tuplesModule
  | .named path _ => moduleImport? cx path.module
  | _ => none

/-- The imports that types need, in ascending order. -/
def typeImports (cx : RenderContext) (ts : List TypeRef) : List String :=
  orderedStrings ((SchemaType.walkAll ts).filterMap (typeImport? cx))

/-! ## Records -/

structure RenderedField where
  member : String
  parameter : String
  type : String
  comment : Option String

def renderField (cx : RenderContext) (f : Field TypeRef) : RenderedField :=
  ⟨memberName f.name, parameterName f.name, typeText cx f.type, f.comment⟩

/-- The text with blanks behind it, up to a width in characters. -/
def padTo (width : Nat) (text : String) : String :=
  text ++ String.ofList (List.replicate (width - text.length) ' ')

/-- A type and its constructor. -/
def recordLayout (identifier : String) (generics : List String) (fields : List RenderedField)
    (comment : Option String) : List Layout :=
  let head := "type " ++ identifier ++ typeParameters generics ++ " struct"
  let this := identifier ++ typeArguments generics
  let width := (fields.map (·.member.utf8ByteSize)).foldl max 0
  let members := fields.flatMap fun f =>
    [.comment "//" f.comment, .line (padTo width f.member ++ " " ++ f.type)]
  let parameters := fields.map fun f => f.parameter ++ " " ++ f.type
  let construction : Layout :=
    if fields.isEmpty then .line ("return " ++ this ++ "\x7b\x7d")
    else .block ("return " ++ this ++ "\x7b") "\x7d"
      (fields.map fun f => .line (f.member ++ ": " ++ f.parameter ++ ","))
  [.comment "//" comment,
    if fields.isEmpty then .line (head ++ "\x7b\x7d") else .braced head members,
    .blank,
    .braced
      ("func New" ++ identifier ++ typeParameters generics ++ "(" ++ ", ".intercalate parameters ++
        ") " ++ this)
      [construction]]

def indentation : String := "\t"

def structOutput (cx : RenderContext) (s : Struct TypeRef) (identifier : String) : Output :=
  { identifier
    module := cx.module
    source := Layout.text indentation
      (recordLayout identifier s.generics (s.fields.map (renderField cx)) s.comment)
    imports := typeImports cx (s.fields.map (·.type)) }

/-! ## Unions -/

/-- The type parameter that holds the result of a match: the first name that is no generic. -/
def resultParameter (generics : List String) : String :=
  (["R", "Result", "Out"].find? (· ∉ generics)).getD "MatchResult"

/-- The handler of a variant: its name and the type that it takes. -/
structure Handler where
  name : String
  type : String

def handlers (u : Union TypeRef) (variantNames : List String) : List Handler :=
  (u.variants.zip variantNames).map fun (v, name) =>
    ⟨"on" ++ Text.upperCamel v.name, name ++ typeArguments (v.usedGenerics u.generics)⟩

/-- The name of the method that marks the variants of a union. -/
def markerName (identifier : String) : String :=
  "is" ++ identifier

/-- The interface of a union and its match function. -/
def contractLayout (u : Union TypeRef) (names : DeclarationNames) : List Layout :=
  let identifier := names.identifier
  let result := resultParameter u.generics
  let handlers := handlers u names.variants
  let parameters :=
    ("value " ++ identifier ++ typeArguments u.generics) ::
      handlers.map fun h => h.name ++ " func(" ++ h.type ++ ") " ++ result
  let body : List Layout :=
    if handlers.isEmpty then
      [.line "_ = value",
        .line ("panic(\"unreachable: " ++ identifier ++ " has no variants\")")]
    else
      .line "switch v := value.(type) \x7b" ::
        (handlers.flatMap fun h =>
          [.line ("case " ++ h.type ++ ":"), .indent [.line ("return " ++ h.name ++ "(v)")]]) ++
        [.line "\x7d", .line ("panic(\"unreachable: " ++ identifier ++ " is sealed\")")]
  [.comment "//" u.comment,
    .line ("// " ++ identifier ++ " is sealed: its variants are the types declared with it."),
    .braced ("type " ++ identifier ++ typeParameters u.generics ++ " interface")
      [.line (markerName identifier ++ "()")],
    .blank,
    .line ("// Match" ++ identifier ++ " calls the handler of the variant held by value."),
    .braced
      ("func Match" ++ identifier ++ typeParameters (u.generics ++ [result]) ++ "(" ++
        ", ".intercalate parameters ++ ") " ++ result)
      body]

/-- A variant's type, its constructor and its marker method. -/
def variantLayout (cx : RenderContext) (u : Union TypeRef) (identifier : String)
    (v : Variant TypeRef) (name : String) : List Layout :=
  let used := v.usedGenerics u.generics
  recordLayout name used (v.fields.map (renderField cx)) v.comment ++
    [.blank,
      .line ("func (" ++ name ++ typeArguments used ++ ") " ++ markerName identifier ++
        "() \x7b\x7d")]

/-- The outputs of a union: its interface, then its variants. -/
def unionOutputs (cx : RenderContext) (u : Union TypeRef) (names : DeclarationNames) :
    List Output :=
  { identifier := names.identifier
    module := cx.module
    source := Layout.text indentation (contractLayout u names) } ::
  (u.variants.zip names.variants).map fun (v, name) =>
    { identifier := name
      module := cx.module
      source := Layout.text indentation (variantLayout cx u names.identifier v name)
      imports := typeImports cx (v.fields.map (·.type)) }

/-! ## Aliases and constants -/

def aliasOutput (cx : RenderContext) (a : Alias TypeRef) (identifier : String) : Output :=
  { identifier
    module := cx.module
    source := Layout.text indentation
      [.comment "//" a.comment, .line ("type " ++ identifier ++ " = " ++ typeText cx a.target)]
    imports := typeImports cx [a.target] }

/-- An integer without a fixed width. -/
def bigInteger (n : Int) : String :=
  if -(Nat.pow 2 63 : Int) ≤ n ∧ n < (Nat.pow 2 63 : Int) then "big.NewInt(" ++ toString n ++ ")"
  else
    "func() *big.Int \x7b v, _ := new(big.Int).SetString(\"" ++ toString n ++
      "\", 10); return v \x7d()"

/-- The keyword and the initial value of a constant. -/
def initializer (value : ConstantValue) : String × String :=
  match value.datum with
  | .bool b => ("const", toString b)
  | .unsigned n =>
    if value.type = .u128 then ("var", bigInteger n) else ("const", toString n)
  | .signed n =>
    if value.type = .i128 then ("var", bigInteger n) else ("const", toString n)
  | .float x => ("const", x.write .constant)
  | .string s => ("const", Text.quoteControls s)
  | .bytes bs =>
    ("var", "[]byte\x7b" ++ ", ".intercalate (bs.map fun b => toString b.toNat) ++ "\x7d")

def constantOutput (cx : RenderContext) (c : Constant ConstantValue) (identifier : String) :
    Output :=
  let (keyword, initial) := initializer c.value
  { identifier
    module := cx.module
    source := Layout.text indentation
      [.comment "//" c.comment,
        .line (keyword ++ " " ++ identifier ++ " " ++ scalarText c.value.type ++ " = " ++ initial)]
    imports := (scalarImport? c.value.type).toList }

/-! ## Tuples -/

def tupleOutput (t : TupleRecord) : Output :=
  let this := t.name ++ typeArguments t.parameters
  let parameters := typeParameters t.parameters
  let pairs := t.fields.zip t.parameters
  let arguments := pairs.map fun (field, parameter) => field.toLower ++ " " ++ parameter
  { identifier := t.name
    module := tuplesModule
    source := Layout.text indentation
      [.braced ("type " ++ t.name ++ parameters ++ " struct")
          (pairs.map fun (field, parameter) => .line (field ++ " " ++ parameter)),
        .blank,
        .braced
          ("func New" ++ t.name ++ parameters ++ "(" ++ ", ".intercalate arguments ++ ") " ++ this)
          [.block ("return " ++ this ++ "\x7b") "\x7d"
            (t.fields.map fun field => .line (field ++ ": " ++ field.toLower ++ ","))]] }

/-! ## Files -/

def importLayout (imports : List String) : List Layout :=
  match imports with
  | [] => []
  | [single] => [.blank, .line ("import \"" ++ single ++ "\"")]
  | imports =>
    [.blank, .block "import (" ")" (imports.map fun path => .line ("\"" ++ path ++ "\""))]

def packageFile (config : Config) (comments : List (ModulePath × String)) (m : ModulePath)
    (outputs : List Output) : File :=
  let package := packageName m config
  { path := FilePath.ofComponents (m.map moduleName ++ [package ++ ".go"])
    contents := Layout.text indentation <|
      [.embed fileHeader, .blank, .comment "//" (comments.lookup m), .line ("package " ++ package)] ++
        importLayout (orderedStrings (outputs.flatMap (·.imports))) ++
        outputs.flatMap fun output => [.blank, .embed output.source] }

/-- One file per package, in the order of module paths. -/
def assemble (config : Config) (outputs : List Output) (comments : List (ModulePath × String)) :
    List File :=
  (ordered modulePrecedes (outputs.map (·.module))).map fun m =>
    packageFile config comments m (outputs.filter (·.module = m))

def target : Target where
  conventions := conventions
  structOutput := structOutput
  unionOutputs := unionOutputs
  aliasOutput := aliasOutput
  constantOutput := constantOutput
  tupleOutput := tupleOutput
  forbidsImportCycles := true
  assemble := assemble

end SchemaBindings.Go
