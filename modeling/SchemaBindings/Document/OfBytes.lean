import SchemaBindings.Config
import SchemaBindings.Document.OfValue

/-!
# Documents from their text

Schemas, configurations and the smaller notations (a type, a literal, a scalar) are read from the bytes of a
text. What follows the first complete value is not looked at.

* A record is a map of its members or a sequence of them in declared order, and every member has a default.
* A choice is a name, or a map of one member: the name and its payload.
* A declaration or a type reference is read whole and then interpreted, so a problem in it has no position
  of its own.
-/

namespace SchemaBindings

open Json

namespace Json.Reader

variable {α σ : Type}

/-! ## Simple values -/

/-- Looks at the first byte of a value. -/
def valueStart : Reader UInt8 := do
  match ← peekPastBlanks? with
  | none => failAhead .endInValue
  | some b => return b

def textAs (expected : String) (interpret : String → Interpreted α) : Reader α := settled do
  if (← valueStart) = 34 then ofExcept (interpret (← text)) else unexpected expected

def textValue : Reader String :=
  textAs "a string" .ok

def booleanValue : Reader Bool := settled do
  let first ← valueStart
  if first = 116 then
    expectWord "true"
    return true
  else if first = 102 then
    expectWord "false"
    return false
  else unexpected "a boolean"

def numberAs (expected : String) (interpret : Number → Interpreted α) : Reader α := settled do
  let first ← valueStart
  if first = 45 ∨ isDigitByte first then ofExcept (interpret (← signedNumber first))
  else unexpected expected

/-- Reads a length: an integer that is not negative. -/
def lengthValue : Reader Nat :=
  numberAs "usize" fun
    | .integer n => if 0 ≤ n then .ok n.toNat else .error (.invalidValue (.integer n) "usize")
    | .real x => .error (.invalidType (.real x) "usize")

/-- Reads nothing, written as a word. -/
def unitValue : Reader Unit := settled do
  if (← valueStart) = 110 then expectWord "null" else unexpected "unit"

/-- Reads a sequence of values inside `depth` levels that are left. -/
def listValue (depth : Nat) (element : Nat → Reader α) : Reader (List α) := settled do
  if (← valueStart) = 91 then
    let found ← nested depth endSequence fun depth =>
      elements (fun found => return (← element depth) :: found) 0 []
    return found.reverse
  else unexpected "a sequence"

/-! ## Choices -/

/-- Stands in front of the quote of the only key of a map. -/
def onlyKey : Reader Unit := do
  match ← peekPastBlanks? with
  | some 34 => return
  | some 125 => failAhead .expectedValue
  | some _ => failAhead .keyNotText
  | none => failAhead .endInMap

/-- Reads a choice: `interpret` finds the choice of a name, `key` is its name, `alone` is the choice without
a payload, and `payload` reads one. -/
def choice (depth : Nat) (interpret : String → Interpreted α) (key : α → String)
    (alone : α → Interpreted σ) (payload : Nat → α → Reader σ) : Reader σ := do
  let name := textAs "variant identifier" interpret
  match ← valueStart with
  | 34 =>
    let a ← name
    within (.member (key a)) (ofExcept (alone a))
  | 123 =>
    match depth with
    | depth + 2 =>
      skip
      onlyKey
      let a ← name
      colon
      let s ← within (.member (key a)) (payload (depth + 1) a)
      match ← peekPastBlanks? with
      | some 125 => skip; return s
      | some _ => failHere .expectedValue
      | none => failHere .endInMap
    | _ => failAhead .tooDeep
  | _ => failAhead .expectedValue

/-- Reads a choice among named values without payloads. -/
def nameValue (depth : Nat) (interpret : String → Interpreted α) (key : α → String) : Reader α :=
  choice depth interpret key .ok fun _ a => do
    unitValue
    return a

def scalarValue (depth : Nat) : Reader Scalar :=
  nameValue depth Scalar.ofName Scalar.name

def literalPayload (depth : Nat) : LiteralKind → Reader Literal
  | .bool => .bool <$> booleanValue
  | .int => .int <$> textValue
  | .float => .float <$> numberAs "f64" fun n => Value.toBinary64 (.number n)
  | .string => .string <$> textValue
  | .bytes => .bytes <$> listValue depth fun _ =>
      numberAs "u8" fun n => Value.toByte (.number n)

def literalValue (depth : Nat) : Reader Literal :=
  choice depth LiteralKind.ofKey LiteralKind.key
    (fun _ => .error (.invalidType .unitVariant "newtype variant")) literalPayload

/-! ## Records -/

/-- Reads a record from a map or a sequence. -/
def record (depth : Nat) (expected : String) (ofMap ofSequence : Nat → Reader α) : Reader α :=
  settled do
    match ← valueStart with
    | 123 => nested depth endMap ofMap
    | 91 => nested depth endSequence ofSequence
    | _ => unexpected expected

/-- A member of a record whose members have defaults: its name, and how it is read into the record. -/
structure Member (σ : Type) where
  name : String
  read : Nat → σ → Reader σ

/-- Reads the member of a key, which must be known and new; `seen` lists the keys before. -/
def knownMember (depth : Nat) (known : List (Member σ)) (state : List String × σ) (key : String) :
    Reader (List String × σ) := do
  match known.find? (·.name == key) with
  | none => within (.member key) (failPlaceless (.unknownField key (known.map (·.name))))
  | some member =>
    if key ∈ state.1 then failPlaceless (.duplicateField key)
    else return (key :: state.1, ← memberValue key (member.read depth state.2))

/-- Reads the members of a record in declared order, as long as there are elements. -/
def orderedMembers (depth : Nat) : List (Member σ) → Nat → σ → Reader σ
  | [], _, s => return s
  | member :: rest, index, s => do
    if ← nextElement (index == 0) then
      orderedMembers depth rest (index + 1) (← within (.index index) (member.read depth s))
    else
      return s

/-- Reads a record whose members have defaults. -/
def defaulted (depth : Nat) (expected : String) (known : List (Member σ)) (s : σ) : Reader σ :=
  record depth expected
    (fun depth => return (← members (knownMember depth known) ([], s)).2)
    (fun depth => orderedMembers depth known 0 s)

/-! ## Declarations -/

/-- Reads one member of a declaration: its form, or a value that is kept. -/
def declarationMember (depth : Nat) (state : Slot DeclarationKind × List (String × Value))
    (key : String) : Reader (Slot DeclarationKind × List (String × Value)) := do
  if key = "kind" then
    if state.1.isSome then failPlaceless (.duplicateField "kind")
    else
      let kind ← memberValue key (textAs "variant identifier" DeclarationKind.ofKey)
      return (some kind, state.2)
  else
    return (state.1, (key, ← memberValue key (value depth)) :: state.2)

/-- Reads the form of a declaration and keeps the rest. -/
def declarationParts (depth : Nat) : Reader (DeclarationKind × DeclarationBody) := settled do
  match ← valueStart with
  | 123 =>
    nested depth endMap fun depth => do
      let (kind, others) ← members (declarationMember depth) (none, [])
      return (← ofExcept (require "kind" kind), .members others.reverse)
  | 91 =>
    nested depth endSequence fun depth => do
      if ← nextElement true then
        let kind ← within (.index 0) (textAs "variant identifier" DeclarationKind.ofKey)
        let others ← elements (fun found => return (← value depth) :: found) 1 []
        return (kind, .elements others.reverse)
      else
        failPlaceless (.missingField "kind")
  | _ => do ofExcept (splitDeclaration (← value depth))

def declarationValue (depth : Nat) : Reader DeclarationExpr := do
  let (kind, body) ← declarationParts depth
  ofExcept (declarationOf kind nestingLimit body)

def documentValue (depth : Nat) : Reader Document :=
  defaulted depth "struct SchemaDoc"
    [⟨"declarations", fun depth document =>
      return { document with declarations := ← listValue depth declarationValue }⟩] {}

def typeValue (depth : Nat) : Reader TypeExpr := do
  ofExcept (TypeExpr.ofValue (← value depth))

end Json.Reader

/-! ## Configurations -/

def TargetName.key : TargetName → String
  | .go => "go"
  | .rust => "rust"

def TargetName.ofKey? (key : String) : Option TargetName :=
  [TargetName.go, .rust].find? (·.key == key)

def NamingPolicy.key : NamingPolicy → String
  | .flat => "flat"
  | .qualified => "qualified"
  | .auto => "auto"

def NamingPolicy.ofKey? (key : String) : Option NamingPolicy :=
  [NamingPolicy.flat, .qualified, .auto].find? (·.key == key)

/-- A known name, or the problem of an unknown one. -/
def knownName {α : Type} (ofKey? : String → Option α) (known : List String) (name : String) :
    Interpreted α :=
  match ofKey? name with
  | some a => .ok a
  | none => .error (.unknownVariant name known)

def Config.members : List (Reader.Member Config) := [
  ⟨"namespace_separator", fun _ c => return { c with separator := ← Reader.textValue }⟩,
  ⟨"max_tuple_arity", fun _ c => return { c with maxTupleArity := ← Reader.lengthValue }⟩,
  ⟨"naming_policy", fun depth c => return { c with
    policy := ← Reader.nameValue depth (knownName NamingPolicy.ofKey? ["flat", "qualified", "auto"])
      NamingPolicy.key }⟩,
  ⟨"strict", fun _ c => return { c with strict := ← Reader.booleanValue }⟩,
  ⟨"package", fun _ c => return { c with package := ← Reader.textValue }⟩,
  ⟨"target", fun depth c => return { c with
    target := ← Reader.nameValue depth (knownName TargetName.ofKey? ["go", "rust"])
      TargetName.key }⟩]

def Json.Reader.configValue (depth : Nat) : Reader Config :=
  defaulted depth "struct GenConfig" Config.members {}

/-! ## Whole texts -/

/-- The first value of a text. -/
def Json.Reader.run {α : Type} (reader : Nat → Reader α) (input : List UInt8) : Except Failure α :=
  match reader nestingLimit (Cursor.start input) with
  | .ok a _ => .ok a
  | .error failure _ => .error failure

def Document.ofBytes (input : List UInt8) : Except Failure Document :=
  Reader.run Reader.documentValue input

def Config.ofBytes (input : List UInt8) : Except Failure Config :=
  Reader.run Reader.configValue input

def TypeExpr.ofBytes (input : List UInt8) : Except Failure TypeExpr :=
  Reader.run Reader.typeValue input

def Literal.ofBytes (input : List UInt8) : Except Failure Literal :=
  Reader.run Reader.literalValue input

def Scalar.ofBytes (input : List UInt8) : Except Failure Scalar :=
  Reader.run Reader.scalarValue input

end SchemaBindings
