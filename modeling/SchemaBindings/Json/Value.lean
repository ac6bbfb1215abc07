import SchemaBindings.Json.Number
import SchemaBindings.Json.String

/-!
# Values of a document

A value is read whole before it is interpreted where its meaning depends on what it holds. Members keep
their order. Values nest to a fixed depth (`nestingLimit`), which also bounds the reader.
-/

namespace SchemaBindings.Json

inductive Value where
  | null
  | boolean (b : Bool)
  | number (n : Number)
  | text (s : String)
  | sequence (elements : List Value)
  | map (members : List (String × Value))
deriving Repr

/-- The value as a message names it. -/
def Value.found : Value → Found
  | .null => .null
  | .boolean b => .boolean b
  | .number (.integer n) => .integer n
  | .number (.real x) => .real x
  | .text s => .text s
  | .sequence _ => .sequence
  | .map _ => .map

/-- How many values may be open around a value, itself included. -/
def nestingLimit : Nat := 128

namespace Reader

variable {α σ : Type}

/-- Reads the next key of a map, if there is one. -/
def key? (isFirst : Bool) : Reader (Option String) :=
  within .unreadableKey do
    if ← nextKey isFirst then some <$> text else pure none

/-- Reads the members of a map: `member` continues behind a key. The bytes that were left before bound their
number: each takes at least one. -/
def membersFrom (member : σ → String → Reader σ) :
    (left : List UInt8) → (isFirst : Bool) → σ → Reader σ
  | [], isFirst, s => do
    match ← key? isFirst with
    | none => return s
    | some _ => failHere .endInMap
  | _ :: left, isFirst, s => do
    match ← key? isFirst with
    | none => return s
    | some key => membersFrom member left false (← member s key)

def members (member : σ → String → Reader σ) (s : σ) : Reader σ := do
  membersFrom member (← remaining) true s

/-- Reads the colon and the value of a member; the member begins behind the colon. -/
def memberValue (key : String) (value : Reader α) : Reader α := do
  colon
  within (.member key) value

/-- Opens a map or a sequence inside `depth` levels that are left, reads its contents and its end. -/
def nested (depth : Nat) (finish : Reader Unit) (contents : Nat → Reader α) : Reader α := do
  match depth with
  | depth + 2 =>
    skip
    closedBy finish (contents (depth + 1))
  | _ => failAhead .tooDeep

/-- Reads a value inside `depth` levels that are left. -/
def value : Nat → Reader Value
  | 0 => failAhead .tooDeep
  | depth + 1 => settled do
    match ← peekPastBlanks? with
    | none => failAhead .endInValue
    | some 110 => expectWord "null"; return .null
    | some 116 => expectWord "true"; return .boolean true
    | some 102 => expectWord "false"; return .boolean false
    | some 34 => return .text (← text)
    | some 91 =>
      if depth = 0 then failAhead .tooDeep
      else
        skip
        let elements ← closedBy endSequence <|
          elements (fun found => return (← value depth) :: found) 0 []
        return .sequence elements.reverse
    | some 123 =>
      if depth = 0 then failAhead .tooDeep
      else
        skip
        let members ← closedBy endMap <|
          members (fun found key => return (key, ← memberValue key (value depth)) :: found) []
        return .map members.reverse
    | some b =>
      if b = 45 ∨ isDigitByte b then return .number (← signedNumber b)
      else failAhead .expectedValue

/-- Fails because another kind of value was expected; a number, a text or a word is read for the
message. -/
def unexpected (expected : String) : Reader α := settled do
  match ← peek? with
  | some 110 => expectWord "null"; failPlaceless (.invalidType .null expected)
  | some 116 => expectWord "true"; failPlaceless (.invalidType (.boolean true) expected)
  | some 102 => expectWord "false"; failPlaceless (.invalidType (.boolean false) expected)
  | some 34 => failPlaceless (.invalidType (.text (← text)) expected)
  | some 91 => failPlaceless (.invalidType .sequence expected)
  | some 123 => failPlaceless (.invalidType .map expected)
  | some b =>
    if b = 45 ∨ isDigitByte b then
      match ← signedNumber b with
      | .integer n => failPlaceless (.invalidType (.integer n) expected)
      | .real x => failPlaceless (.invalidType (.real x) expected)
    else failAhead .expectedValue
  | none => failAhead .expectedValue

end Reader

end SchemaBindings.Json
