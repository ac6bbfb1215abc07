import SchemaBindings.Document.Basic
import SchemaBindings.Json.Value

/-!
# Declarations as values of a document

A declaration is read whole and then interpreted. A record is a map of its members or a sequence of them in
declared order; members with a default may be missing.

* Members of a map are interpreted in the order in which they stand, so the first problem counts; what is
  missing is looked for last, in declared order.
* Fields and variants have no further members; declarations and references to declared types may have
  some, which are skipped.
* A type reference matches as a whole or not at all.
-/

namespace SchemaBindings

open Json

/-- The result of interpreting a value. -/
abbrev Interpreted := Except Problem

namespace Json.Value

/-! ## Simple values -/

/-- The problem of a value of another kind. -/
def mismatch {α : Type} (v : Value) (expected : String) : Interpreted α :=
  .error (.invalidType v.found expected)

def toText : Value → Interpreted String
  | .text s => .ok s
  | v => v.mismatch "a string"

/-- A text, or nothing. -/
def toText? : Value → Interpreted (Option String)
  | .null => .ok none
  | v => some <$> v.toText

def toSequence : Value → Interpreted (List Value)
  | .sequence vs => .ok vs
  | v => v.mismatch "a sequence"

def toList {α : Type} (element : Value → Interpreted α) (v : Value) : Interpreted (List α) := do
  (← v.toSequence).mapM element

def toByte : Value → Interpreted UInt8
  | .number (.integer n) =>
    if 0 ≤ n ∧ n < 256 then .ok n.toNat.toUInt8 else .error (.invalidValue (.integer n) "u8")
  | v => v.mismatch "u8"

def toBinary64 : Value → Interpreted Binary64
  | .number (.integer n) => .ok (.ofInt .double n)
  | .number (.real x) => .ok x
  | v => v.mismatch "f64"

end Json.Value

/-! ## Records -/

/-- A member that has been met, or not yet. -/
abbrev Slot (α : Type) := Option α

/-- Fills the slot of a member, which must be empty. -/
def fill {α : Type} (name : String) (slot : Slot α) (value : Interpreted α) :
    Interpreted (Slot α) :=
  if slot.isSome then .error (.duplicateField name) else some <$> value

/-- The value of a member that must not be missing. -/
def require {α : Type} (name : String) (slot : Slot α) : Interpreted α :=
  match slot with
  | some a => .ok a
  | none => .error (.missingField name)

/-- The element at a position of a record written as a sequence, if it is there. -/
def element? {α : Type} (vs : List Value) (position : Nat) (interpret : Value → Interpreted α) :
    Interpreted (Option α) :=
  match vs[position]? with
  | some v => some <$> interpret v
  | none => .ok none

/-- The element at a position of a record written as a sequence; `expected` names the whole record. -/
def element {α : Type} (vs : List Value) (position : Nat) (expected : String)
    (interpret : Value → Interpreted α) : Interpreted α :=
  match vs[position]? with
  | some v => interpret v
  | none => .error (.invalidLength position expected)

/-- A record written as a sequence has at most `count` elements. -/
def atMost (vs : List Value) (count : Nat) : Interpreted Unit :=
  if vs.length ≤ count then .ok ()
  else .error (.invalidLength vs.length (toString count ++ " elements in sequence"))

/-! ## Type references -/

/-- A length: an integer of at most 64 bits that is not negative. -/
def lengthOf? : Value → Option Nat
  | .number (.integer n) => if 0 ≤ n then some n.toNat else none
  | _ => none

/-- A list of texts, if every element is one. -/
def textOf? : Value → Option String
  | .text s => some s
  | _ => none

mutual

def TypeExpr.ofValue? : Value → Option TypeExpr
  | .text s => (Scalar.ofName? s).map .scalar
  | .map [("tuple", .sequence vs)] => return .tuple (← TypeExpr.ofValues? vs)
  | .map [("list", v)] => return .list (← TypeExpr.ofValue? v)
  | .map [("array", .sequence [v, length])] =>
    return .array (← TypeExpr.ofValue? v) (← lengthOf? length)
  | .map [("option", v)] => return .option (← TypeExpr.ofValue? v)
  | .map [("map", .sequence [key, value])] =>
    return .map (← TypeExpr.ofValue? key) (← TypeExpr.ofValue? value)
  | .map [("hash_set", v)] => return .hashSet (← TypeExpr.ofValue? v)
  | .map [("named", .map members)] => namedOfMembers? none none members
  | .map [("named", .sequence [name])] => return .named (← textOf? name) []
  | .map [("named", .sequence [name, .sequence vs])] =>
    return .named (← textOf? name) (← TypeExpr.ofValues? vs)
  | .map [("param", .text s)] => some (.param s)
  | .map [(name, .null)] => (Scalar.ofName? name).map .scalar
  | _ => none

def TypeExpr.ofValues? : List Value → Option (List TypeExpr)
  | [] => some []
  | v :: vs => return (← TypeExpr.ofValue? v) :: (← TypeExpr.ofValues? vs)

/-- A reference to a declared type from its members, behind those that filled the slots. -/
def namedOfMembers? (name : Slot String) (arguments : Slot (List TypeExpr)) :
    List (String × Value) → Option TypeExpr
  | [] => name.map (.named · (arguments.getD []))
  | ("name", v) :: rest =>
    if name.isSome then none
    else do namedOfMembers? (some (← textOf? v)) arguments rest
  | ("generics", .sequence vs) :: rest =>
    if arguments.isSome then none
    else do namedOfMembers? name (some (← TypeExpr.ofValues? vs)) rest
  | ("generics", _) :: _ => none
  | _ :: rest => namedOfMembers? name arguments rest

end

def TypeExpr.ofValue (v : Value) : Interpreted TypeExpr :=
  match TypeExpr.ofValue? v with
  | some t => .ok t
  | none => .error (.noMatch "untagged enum TypeDoc")

/-! ## Scalars and literals -/

/-- A choice written as a text or as a map of one member: the name and the payload. -/
def choiceOf : Value → Interpreted (String × Option Value)
  | .text name => .ok (name, none)
  | .map [(name, payload)] => .ok (name, some payload)
  | .map _ => .error (.invalidValue .map "map with a single key")
  | v => v.mismatch "string or map"

def Scalar.ofName (name : String) : Interpreted Scalar :=
  match Scalar.ofName? name with
  | some s => .ok s
  | none => .error (.unknownVariant name (Scalar.all.map Scalar.name))

/-- The scalar type that a value stands for; as a map it has an empty payload. -/
def Scalar.ofValue (v : Value) : Interpreted Scalar := do
  let (name, payload) ← choiceOf v
  let s ← Scalar.ofName name
  match payload with
  | none | some .null | some (.map []) => return s
  | some other => other.mismatch "unit"

/-- The form of a literal, by its name in a document. -/
def LiteralKind.key : LiteralKind → String
  | .bool => "bool"
  | .int => "int"
  | .float => "float"
  | .string => "string"
  | .bytes => "bytes"

/-- The forms of literals, in the order in which messages list them. -/
def LiteralKind.all : List LiteralKind := [.bool, .int, .float, .string, .bytes]

def LiteralKind.ofKey (key : String) : Interpreted LiteralKind :=
  match LiteralKind.all.find? (·.key == key) with
  | some kind => .ok kind
  | none => .error (.unknownVariant key (LiteralKind.all.map LiteralKind.key))

def Literal.ofPayload (kind : LiteralKind) (v : Value) : Interpreted Literal :=
  match kind with
  | .bool =>
    match v with
    | .boolean b => .ok (.bool b)
    | v => v.mismatch "a boolean"
  | .int => .int <$> v.toText
  | .float => .float <$> v.toBinary64
  | .string => .string <$> v.toText
  | .bytes => .bytes <$> v.toList Value.toByte

def Literal.ofValue (v : Value) : Interpreted Literal := do
  let (key, payload) ← choiceOf v
  let kind ← LiteralKind.ofKey key
  match payload with
  | some payload => Literal.ofPayload kind payload
  | none => throw (.invalidType .unitVariant "newtype variant")

/-! ## Fields and variants -/

/-- The members of a field that have been met. -/
structure FieldSlots where
  name : Slot String := none
  type : Slot TypeExpr := none
  comment : Slot (Option String) := none

def FieldSlots.put (slots : FieldSlots) : String × Value → Interpreted FieldSlots
  | ("name", v) => return { slots with name := ← fill "name" slots.name v.toText }
  | ("type", v) => return { slots with type := ← fill "type" slots.type (TypeExpr.ofValue v) }
  | ("comment", v) => return { slots with comment := ← fill "comment" slots.comment v.toText? }
  | (key, _) => .error (.unknownField key ["name", "type", "comment"])

def Field.ofValue : Value → Interpreted (Field TypeExpr)
  | .map members => do
    let slots ← members.foldlM FieldSlots.put {}
    return ⟨← require "name" slots.name, ← require "type" slots.type, slots.comment.join⟩
  | .sequence vs => do
    let expected := "struct FieldDoc with 3 elements"
    let name ← element vs 0 expected Value.toText
    let type ← element vs 1 expected TypeExpr.ofValue
    let comment ← element? vs 2 Value.toText?
    atMost vs 3
    return ⟨name, type, comment.join⟩
  | v => v.mismatch "struct FieldDoc"

/-- The members of a variant that have been met. -/
structure VariantSlots where
  name : Slot String := none
  fields : Slot (List (Field TypeExpr)) := none
  comment : Slot (Option String) := none

def VariantSlots.put (slots : VariantSlots) : String × Value → Interpreted VariantSlots
  | ("name", v) => return { slots with name := ← fill "name" slots.name v.toText }
  | ("fields", v) =>
    return { slots with fields := ← fill "fields" slots.fields (v.toList Field.ofValue) }
  | ("comment", v) => return { slots with comment := ← fill "comment" slots.comment v.toText? }
  | (key, _) => .error (.unknownField key ["name", "fields", "comment"])

def Variant.ofValue : Value → Interpreted (Variant TypeExpr)
  | .map members => do
    let slots ← members.foldlM VariantSlots.put {}
    return ⟨← require "name" slots.name, slots.fields.getD [], slots.comment.join⟩
  | .sequence vs => do
    let name ← element vs 0 "struct VariantDoc with 3 elements" Value.toText
    let fields ← element? vs 1 (Value.toList Field.ofValue)
    let comment ← element? vs 2 Value.toText?
    atMost vs 3
    return ⟨name, fields.getD [], comment.join⟩
  | v => v.mismatch "struct VariantDoc"

/-! ## Declarations -/

/-- The form of a declaration. -/
inductive DeclarationKind where
  | struct
  | union
  | typeAlias
  | const
  | module
deriving DecidableEq, Repr

namespace DeclarationKind

/-- The forms of declarations, in the order in which messages list them. -/
def all : List DeclarationKind := [struct, union, typeAlias, const, module]

def key : DeclarationKind → String
  | struct => "struct"
  | union => "union"
  | typeAlias => "alias"
  | const => "const"
  | module => "module"

def ofKey (key : String) : Interpreted DeclarationKind :=
  match all.find? (·.key == key) with
  | some kind => .ok kind
  | none => .error (.unknownVariant key (all.map DeclarationKind.key))

/-- The form that a value stands for: its name or its number in the list. -/
def ofValue : Value → Interpreted DeclarationKind
  | .text key => ofKey key
  | .number (.integer n) =>
    if n < 0 then (Value.number (.integer n)).mismatch "variant identifier"
    else
      match all[n.toNat]? with
      | some kind => .ok kind
      | none => .error (.invalidValue (.integer n) "variant index 0 <= i < 5")
  | v => v.mismatch "variant identifier"

end DeclarationKind

/-- The members of a declaration that have been met, for every form. -/
structure DeclarationSlots where
  name : Slot String := none
  comment : Slot (Option String) := none
  generics : Slot (List String) := none
  fields : Slot (List (Field TypeExpr)) := none
  variants : Slot (List (Variant TypeExpr)) := none
  target : Slot TypeExpr := none
  type : Slot Scalar := none
  value : Slot Literal := none
  declarations : Slot (List DeclarationExpr) := none

namespace DeclarationSlots

/-- Interprets one member of a declaration of a form; `nested` interprets the declarations of a module.
Members that the form does not have are skipped. -/
def put (kind : DeclarationKind) (nested : Value → Interpreted DeclarationExpr)
    (slots : DeclarationSlots) : String × Value → Interpreted DeclarationSlots
  | ("name", v) => return { slots with name := ← fill "name" slots.name v.toText }
  | ("comment", v) => return { slots with comment := ← fill "comment" slots.comment v.toText? }
  | (key, v) =>
    match kind, key with
    | .struct, "generics" | .union, "generics" =>
      return { slots with generics := ← fill key slots.generics (v.toList Value.toText) }
    | .struct, "fields" =>
      return { slots with fields := ← fill key slots.fields (v.toList Field.ofValue) }
    | .union, "variants" =>
      return { slots with variants := ← fill key slots.variants (v.toList Variant.ofValue) }
    | .typeAlias, "target" =>
      return { slots with target := ← fill key slots.target (TypeExpr.ofValue v) }
    | .const, "type" => return { slots with type := ← fill key slots.type (Scalar.ofValue v) }
    | .const, "value" => return { slots with value := ← fill key slots.value (Literal.ofValue v) }
    | .module, "declarations" =>
      return { slots with declarations := ← fill key slots.declarations (v.toList nested) }
    | _, _ => .ok slots

/-- The declaration of a form with the given members. -/
def finish (kind : DeclarationKind) (slots : DeclarationSlots) : Interpreted DeclarationExpr := do
  let name ← require "name" slots.name
  let comment := slots.comment.join
  match kind with
  | .struct => return .struct ⟨name, slots.generics.getD [], slots.fields.getD [], comment⟩
  | .union => return .union ⟨name, slots.generics.getD [], slots.variants.getD [], comment⟩
  | .typeAlias => return .typeAlias ⟨name, ← require "target" slots.target, comment⟩
  | .const =>
    let type ← require "type" slots.type
    let value ← require "value" slots.value
    return .const ⟨name, ⟨type, value⟩, comment⟩
  | .module => return .module name comment (slots.declarations.getD [])

end DeclarationSlots

/-- The declaration of a form written as the sequence of its members. -/
def declarationOfElements (kind : DeclarationKind) (nested : Value → Interpreted DeclarationExpr)
    (vs : List Value) : Interpreted DeclarationExpr :=
  match kind with
  | .struct => do
    let name ← element vs 0 "struct variant DeclDoc::Struct with 4 elements" Value.toText
    let comment ← element? vs 1 Value.toText?
    let generics ← element? vs 2 (Value.toList Value.toText)
    let fields ← element? vs 3 (Value.toList Field.ofValue)
    atMost vs 4
    return .struct ⟨name, generics.getD [], fields.getD [], comment.join⟩
  | .union => do
    let name ← element vs 0 "struct variant DeclDoc::Union with 4 elements" Value.toText
    let comment ← element? vs 1 Value.toText?
    let generics ← element? vs 2 (Value.toList Value.toText)
    let variants ← element? vs 3 (Value.toList Variant.ofValue)
    atMost vs 4
    return .union ⟨name, generics.getD [], variants.getD [], comment.join⟩
  | .typeAlias => do
    let expected := "struct variant DeclDoc::Alias with 3 elements"
    let name ← element vs 0 expected Value.toText
    let comment ← element? vs 1 Value.toText?
    let target ← element vs 2 expected TypeExpr.ofValue
    atMost vs 3
    return .typeAlias ⟨name, target, comment.join⟩
  | .const => do
    let expected := "struct variant DeclDoc::Const with 4 elements"
    let name ← element vs 0 expected Value.toText
    let comment ← element? vs 1 Value.toText?
    let type ← element vs 2 expected Scalar.ofValue
    let value ← element vs 3 expected Literal.ofValue
    atMost vs 4
    return .const ⟨name, ⟨type, value⟩, comment.join⟩
  | .module => do
    let name ← element vs 0 "struct variant DeclDoc::Module with 3 elements" Value.toText
    let comment ← element? vs 1 Value.toText?
    let declarations ← element? vs 2 (Value.toList nested)
    atMost vs 3
    return .module name comment.join (declarations.getD [])

/-- What a declaration holds beside its form. -/
inductive DeclarationBody where
  | members (ms : List (String × Value))
  | elements (vs : List Value)

/-- Takes the form of a declaration out of its members. -/
def takeKind : Slot DeclarationKind → List (String × Value) → List (String × Value) →
    Interpreted (DeclarationKind × List (String × Value))
  | kind, others, [] => return (← require "kind" kind, others.reverse)
  | kind, others, ("kind", v) :: rest => do
    takeKind (← fill "kind" kind (DeclarationKind.ofValue v)) others rest
  | kind, others, member :: rest => takeKind kind (member :: others) rest

/-- Splits the value of a declaration into its form and the rest. -/
def splitDeclaration : Value → Interpreted (DeclarationKind × DeclarationBody)
  | .map members => do
    let (kind, others) ← takeKind none [] members
    return (kind, .members others)
  | .sequence [] => .error (.missingField "kind")
  | .sequence (kind :: vs) => return (← DeclarationKind.ofValue kind, .elements vs)
  | v => v.mismatch "internally tagged enum DeclDoc"

/-- The declaration of a form and a body; modules nest at most `depth` deep inside. -/
def declarationOf (kind : DeclarationKind) : Nat → DeclarationBody → Interpreted DeclarationExpr
  | 0, _ => .error .tooDeep
  | depth + 1, body =>
    let nested (v : Value) : Interpreted DeclarationExpr := do
      let (kind, body) ← splitDeclaration v
      declarationOf kind depth body
    match body with
    | .members ms => do
      (← ms.foldlM (DeclarationSlots.put kind nested) {}).finish kind
    | .elements vs => declarationOfElements kind nested vs

end SchemaBindings
