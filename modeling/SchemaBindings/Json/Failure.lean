import SchemaBindings.Number.Shortest
import SchemaBindings.Text.Quoted

/-!
# Failures of reading a document

A failure says what is wrong, where in the document's structure (a path of members and elements) and
where in its text (a line and a column). A structural problem found in a value that was read whole has
no position of its own; it takes the one at which the surrounding value ends.
-/

namespace SchemaBindings.Json

/-! ## Places -/

/-- A place in the text: the line from 1 on, and the bytes before it on that line. -/
structure Position where
  line : Nat
  column : Nat
deriving DecidableEq, Repr

inductive Step where
  | index (position : Nat)
  | member (key : String)
  /-- A member whose key could not be read. -/
  | unreadableKey
deriving DecidableEq, Repr

def Step.text : Step → String
  | .index i => "[" ++ toString i ++ "]"
  | .member key => key
  | .unreadableKey => "?"

/-- The text of the steps after the first: members are set off by a point. -/
def Step.textBehind : Step → String
  | .index i => (Step.index i).text
  | step => "." ++ step.text

/-- The text of a path; the whole document is a point. -/
def pathText : List Step → String
  | [] => "."
  | first :: rest => first.text ++ String.join (rest.map Step.textBehind)

/-! ## Problems -/

/-- A value as a message names it. -/
inductive Found where
  | null
  | boolean (b : Bool)
  | integer (n : Int)
  | real (x : Binary64)
  | text (s : String)
  | sequence
  | map
  | unitVariant
deriving DecidableEq, Repr

def Found.message : Found → String
  | .null => "null"
  | .boolean b => "boolean `" ++ toString b ++ "`"
  | .integer n => "integer `" ++ toString n ++ "`"
  | .real x => "floating point `" ++ x.write .message ++ "`"
  | .text s => "string " ++ Text.quoteUnprintable s
  | .sequence => "sequence"
  | .map => "map"
  | .unitVariant => "unit variant"

inductive Problem where
  -- the text is not a document
  | endInValue
  | endInText
  | endInSequence
  | endInMap
  | expectedValue
  | expectedIdentifier
  | expectedColon
  | expectedSequenceEnd
  | expectedMapEnd
  | trailingComma
  | trailingCharacters
  | keyNotText
  | invalidNumber
  | numberOutOfRange
  | invalidEscape
  | endOfEscape
  | loneSurrogate
  | controlCharacter
  | invalidUnicode
  | tooDeep
  -- the document has another shape
  | invalidType (found : Found) (expected : String)
  | invalidValue (found : Found) (expected : String)
  | invalidLength (length : Nat) (expected : String)
  | missingField (name : String)
  | duplicateField (name : String)
  | unknownField (name : String) (known : List String)
  | unknownVariant (name : String) (known : List String)
  | noMatch (expected : String)
deriving DecidableEq, Repr

/-- The known names of a message: one alone, two with "or", more as a list. -/
def oneOf (names : List String) : String :=
  match names.map fun name => "`" ++ name ++ "`" with
  | [only] => only
  | [first, second] => first ++ " or " ++ second
  | quoted => "one of " ++ ", ".intercalate quoted

def Problem.message : Problem → String
  | .endInValue => "EOF while parsing a value"
  | .endInText => "EOF while parsing a string"
  | .endInSequence => "EOF while parsing a list"
  | .endInMap => "EOF while parsing an object"
  | .expectedValue => "expected value"
  | .expectedIdentifier => "expected ident"
  | .expectedColon => "expected `:`"
  | .expectedSequenceEnd => "expected `,` or `]`"
  | .expectedMapEnd => "expected `,` or `\x7d`"
  | .trailingComma => "trailing comma"
  | .trailingCharacters => "trailing characters"
  | .keyNotText => "key must be a string"
  | .invalidNumber => "invalid number"
  | .numberOutOfRange => "number out of range"
  | .invalidEscape => "invalid escape"
  | .endOfEscape => "unexpected end of hex escape"
  | .loneSurrogate => "lone leading surrogate in hex escape"
  | .controlCharacter => "control character (\\u0000-\\u001F) found while parsing a string"
  | .invalidUnicode => "invalid unicode code point"
  | .tooDeep => "recursion limit exceeded"
  | .invalidType found expected => "invalid type: " ++ found.message ++ ", expected " ++ expected
  | .invalidValue found expected => "invalid value: " ++ found.message ++ ", expected " ++ expected
  | .invalidLength length expected =>
    "invalid length " ++ toString length ++ ", expected " ++ expected
  | .missingField name => "missing field `" ++ name ++ "`"
  | .duplicateField name => "duplicate field `" ++ name ++ "`"
  | .unknownField name known => "unknown field `" ++ name ++ "`, expected " ++ oneOf known
  | .unknownVariant name known => "unknown variant `" ++ name ++ "`, expected " ++ oneOf known
  | .noMatch expected => "data did not match any variant of " ++ expected

/-! ## Failures -/

/-- Why a document could not be read. -/
structure Failure where
  path : List Step
  problem : Problem
  position : Option Position
deriving DecidableEq, Repr

namespace Failure

/-- The failure seen from one step further out. -/
def under (step : Step) (f : Failure) : Failure :=
  { f with path := step :: f.path }

/-- The failure with a position, if it has none yet. -/
def settle (p : Position) (f : Failure) : Failure :=
  { f with position := some (f.position.getD p) }

def message (f : Failure) : String :=
  let place := match f.position with
    | some p => " at line " ++ toString p.line ++ " column " ++ toString p.column
    | none => ""
  "at JSON path " ++ pathText f.path ++ " → " ++ f.problem.message ++ place

end Failure

example : pathText [.member "declarations", .index 0, .member "name"] = "declarations[0].name" := by
  decide +kernel
example : oneOf ["go", "rust"] = "`go` or `rust`" := by decide +kernel

end SchemaBindings.Json
