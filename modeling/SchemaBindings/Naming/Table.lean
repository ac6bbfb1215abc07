import SchemaBindings.Config
import SchemaBindings.Naming.Conventions
import SchemaBindings.Naming.Namespace
import SchemaBindings.Resolution.Resolved

/-!
# The table of emitted names

Every module is a namespace of its own:

* declarations claim their names first, in declared order;
* the types of a union's variants are then named by the variant alone or by the union and the variant,
  all of a union's variants in the same way, and claimed together;
* under the automatic policy a union is qualified exactly if the name of one of its variants occurs a
  second time in the module, among the claimed declarations or among all variants.

The fields of a record and the modules inside a module have namespaces of their own, so names that differ
only in case or separators are noticed here.
-/

namespace SchemaBindings

structure DeclarationNames where
  identifier : String
  /-- The names of a union's variant types, in declared order. -/
  variants : List String := []
  qualified : Bool := false
deriving DecidableEq, Repr

/-- The names of a declaration, or why it has none. -/
abbrev NameEntry := SchemaPath × Except Fault DeclarationNames

/-! ## Fields -/

/-- Claims the spellings of one field, each in the namespace of its position. -/
def claimSpellings (label : String) : List Namespace → List String → Except Fault (List Namespace)
  | nss, [] => .ok nss
  | [], name :: names =>
    return (← Namespace.claim {} name label) :: (← claimSpellings label [] names)
  | ns :: nss, name :: names =>
    return (← ns.claim name label) :: (← claimSpellings label nss names)

/-- The spellings of a record's fields must be distinct; `owner` labels the record. -/
def checkFieldNames (conventions : Conventions) (owner : String) (fields : List (Field TypeRef)) :
    Except Fault Unit := do
  let _ ← fields.foldlM
    (fun nss f => claimSpellings (owner ++ "." ++ f.name) nss (conventions.fieldNames f.name)) []
  return ()

/-! ## Declared names -/

def emittedName (conventions : Conventions) (d : SchemaDeclaration) : String :=
  match d with
  | .const c => conventions.constantName c.name
  | d => conventions.typeName d.name

/-- An item with its emitted name, or the fault of the claim. -/
structure ClaimedItem where
  item : SchemaItem
  name : Except Fault String

def claimItems (conventions : Conventions) (ns : Namespace) :
    List SchemaItem → Namespace × List ClaimedItem
  | [] => (ns, [])
  | item :: items =>
    let name := emittedName conventions item.declaration
    match ns.claim name item.path.text with
    | .error fault =>
      let (ns, rest) := claimItems conventions ns items
      (ns, ⟨item, .error fault⟩ :: rest)
    | .ok ns =>
      let (ns, rest) := claimItems conventions ns items
      (ns, ⟨item, .ok name⟩ :: rest)

/-- The entry of an item that is no union, or whose name is taken. -/
def ClaimedItem.entry? (conventions : Conventions) (c : ClaimedItem) : Option NameEntry :=
  match c.name with
  | .error fault => some (c.item.path, .error fault)
  | .ok name =>
    match c.item.declaration with
    | .union _ => none
    | .struct s =>
      some (c.item.path, do
        checkFieldNames conventions c.item.path.text s.fields
        return { identifier := name })
    | _ => some (c.item.path, .ok { identifier := name })

/-! ## Variants -/

structure ClaimedUnion where
  path : SchemaPath
  union : Union TypeRef
  name : String

def ClaimedItem.union? (c : ClaimedItem) : Option ClaimedUnion :=
  match c.name, c.item.declaration with
  | .ok name, .union u => some ⟨c.item.path, u, name⟩
  | _, _ => none

/-- The names of a union's variants alone. -/
def flatNames (conventions : Conventions) (u : Union TypeRef) : List String :=
  u.variants.map fun v => conventions.typeName v.name

/-- The names of a union's variants with the name of the union. -/
def qualifiedNames (conventions : Conventions) (separator : String) (u : Union TypeRef) :
    List String :=
  u.variants.map fun v => conventions.qualifiedName u.name v.name separator

/-- How often a name occurs among the claimed names and the flat names of all variants. -/
def occurrences (declared : Namespace) (flats : List String) (name : String) : Nat :=
  (if declared.holds name then 1 else 0) + flats.count name

/-- Whether a union is qualified; `occurs` counts a name in the module. -/
def isQualified (policy : NamingPolicy) (occurs : String → Nat) (flat : List String) : Bool :=
  match policy with
  | .flat => false
  | .qualified => true
  | .auto => flat.any fun name => occurs name ≠ 1

/-- Names the variants of unions one after the other, each in the namespace that the one before has left. -/
def nameUnions (conventions : Conventions) (policy : NamingPolicy) (separator : String)
    (occurs : String → Nat) (ns : Namespace) : List ClaimedUnion → List NameEntry
  | [] => []
  | c :: rest =>
    let flat := flatNames conventions c.union
    let qualified := isQualified policy occurs flat
    let names := if qualified then qualifiedNames conventions separator c.union else flat
    let attempt : Claiming Unit := do
      Claiming.check <| c.union.variants.forM fun v =>
        checkFieldNames conventions (c.path.text ++ "." ++ v.name) v.fields
      Claiming.claimAll names c.path.text
    match attempt.run ns with
    | .error fault ns =>
      (c.path, .error fault) :: nameUnions conventions policy separator occurs ns rest
    | .ok () ns =>
      (c.path, .ok ⟨c.name, names, qualified⟩) ::
        nameUnions conventions policy separator occurs ns rest

def nameItems (conventions : Conventions) (policy : NamingPolicy) (separator : String)
    (items : List SchemaItem) : List NameEntry :=
  let (declared, claimed) := claimItems conventions {} items
  let unions := claimed.filterMap ClaimedItem.union?
  let flats := unions.flatMap fun c => flatNames conventions c.union
  claimed.filterMap (ClaimedItem.entry? conventions) ++
    nameUnions conventions policy separator (occurrences declared flats) declared unions

/-! ## Modules -/

/-- Claims the names of the modules inside one module; the faults of those whose name is taken. -/
def claimModules (conventions : Conventions) (ns : Namespace) :
    List ModulePath → List (SchemaPath × Fault)
  | [] => []
  | m :: rest =>
    let path : SchemaPath := ⟨m⟩
    match ns.claim (conventions.moduleName path.name) path.text with
    | .error fault => (path, fault) :: claimModules conventions ns rest
    | .ok ns => claimModules conventions ns rest

/-- The modules directly inside a module, in declared order. -/
def childModules (parent : ModulePath) (modules : List ModulePath) : List ModulePath :=
  modules.filter fun m => m ≠ [] ∧ m.dropLast = parent

/-- The modules whose name is taken, in path order; `reserved` names are taken in the root module. -/
def failedModules (conventions : Conventions) (reserved : List (String × String))
    (modules : List ModulePath) : List (SchemaPath × Fault) :=
  ordered (fun a b => a.1.precedes b.1) <| modules.flatMap fun parent =>
    let ns : Namespace := if parent = [] then .reserving reserved else {}
    claimModules conventions ns (childModules parent modules)

/-! ## The table -/

structure NameTable where
  entries : List NameEntry := []
  failedModules : List (SchemaPath × Fault) := []

namespace NameTable

/-- Names every declaration of a schema. -/
def build (conventions : Conventions) (policy : NamingPolicy) (separator : String)
    (reserved : List (String × String)) (r : Resolved) : NameTable where
  entries := r.modulePaths.flatMap fun m =>
    nameItems conventions policy separator (r.items.filter (·.module = m))
  failedModules := SchemaBindings.failedModules conventions reserved r.modulePaths

def get? (table : NameTable) (path : SchemaPath) : Option (Except Fault DeclarationNames) :=
  table.entries.lookup path

def identifier? (table : NameTable) (path : SchemaPath) : Option String :=
  match table.get? path with
  | some (.ok names) => some names.identifier
  | _ => none

/-- The first module on the way from the root to `m`, `m` included, whose name is taken. -/
def failedAncestor? (table : NameTable) (m : ModulePath) : Option SchemaPath :=
  ((List.range m.length).map fun n => SchemaPath.mk (m.take (n + 1))).find? fun p =>
    table.failedModules.any (·.1 == p)

end NameTable

end SchemaBindings
