import SchemaBindings.Fault
import SchemaBindings.Number.Shortest

/-!
# Constants

A literal of a document backs a constant of a scalar type if its form fits and its value lies in the
type's range. Integers are written as text, so their value is not bounded by the document's format:

* a token is an optional sign and ASCII digits, of any number;
* digits are read from the left, and the first problem counts, a character that is no digit or a
  magnitude past `2 ^ 128`;
* a float type takes integers too, rounded to the 64 bit format.
-/

namespace SchemaBindings

inductive Literal where
  | bool (b : Bool)
  | int (token : String)
  | float (x : Binary64)
  | string (s : String)
  | bytes (bs : List UInt8)
deriving DecidableEq, Repr

/-- The form of a literal. -/
def Literal.kind : Literal → LiteralKind
  | bool _ => .bool
  | int _ => .int
  | float _ => .float
  | string _ => .string
  | bytes _ => .bytes

/-- The value of a constant. -/
inductive Datum where
  | bool (b : Bool)
  | unsigned (n : Nat)
  | signed (n : Int)
  | float (x : Binary64)
  | string (s : String)
  | bytes (bs : List UInt8)
deriving DecidableEq, Repr

/-- A value with the type that it was checked against. -/
structure ConstantValue where
  type : Scalar
  datum : Datum
deriving DecidableEq, Repr

/-! ## Integer tokens -/

def magnitudeBound : Nat := Nat.pow 2 128

/-- The magnitude of digits behind those of `m`. -/
def readMagnitude (type : Scalar) (token : String) (m : Nat) : List Char → Except Fault Nat
  | [] => .ok m
  | c :: rest =>
    if !c.isDigit then .error (.invalidLiteral token)
    else
      let next := m * 10 + (c.toNat - '0'.toNat)
      if magnitudeBound ≤ next then .error (.range type token)
      else readMagnitude type token next rest

/-- Splits a sign off a token: whether it is negative, and the digits. -/
def splitSign : List Char → Bool × List Char
  | '-' :: digits => (true, digits)
  | '+' :: digits => (false, digits)
  | digits => (false, digits)

/-- The sign and the magnitude of a token. -/
def readInteger (type : Scalar) (token : String) : Except Fault (Bool × Nat) := do
  let (negative, digits) := splitSign token.toList
  if digits = [] then throw (.invalidLiteral token)
  return (negative, ← readMagnitude type token 0 digits)

/-! ## Ranges -/

/-- The integers of a type of the given width. -/
def inIntegerRange (signed : Bool) (width : Nat) (n : Int) : Bool :=
  if signed then -(Nat.pow 2 (width - 1) : Int) ≤ n && n < (Nat.pow 2 (width - 1) : Int)
  else 0 ≤ n && n < (Nat.pow 2 width : Int)

/-- The largest finite magnitude of the 32 bit format, in the 64 bit format. -/
def largestSingle : Nat := 0x47efffffe0000000

/-- Whether a number is finite and not larger than the numbers of a float type. -/
def inFloatRange (type : Scalar) (x : Binary64) : Bool :=
  x.isFinite && (type == .f64 || x.magnitude ≤ largestSingle)

def foldInteger (type : Scalar) (token : String) : Except Fault Datum := do
  let (negative, magnitude) ← readInteger type token
  let n : Int := if negative then -magnitude else magnitude
  match type.bitWidth? with
  | none => throw (.range type token)
  | some width =>
    if inIntegerRange type.isSigned width n then
      return if type.isSigned then .signed n else .unsigned n.toNat
    else throw (.range type token)

/-- The value of a number of a float type; `text` names the number in a message. -/
def foldFloat (type : Scalar) (x : Binary64) (text : String) : Except Fault Datum :=
  if inFloatRange type x then .ok (.float x) else .error (.range type text)

def foldDatum (type : Scalar) (literal : Literal) : Except Fault Datum :=
  match literal with
  | .bool b => if type = .bool then .ok (.bool b) else mismatch
  | .int token =>
    if type.isInteger then foldInteger type token
    else if type.isFloat then do
      let (negative, magnitude) ← readInteger type token
      foldFloat type ⟨negative, (Binary.ofNat .double magnitude).magnitude⟩ token
    else mismatch
  | .float x => if type.isFloat then foldFloat type x (x.write .positional) else mismatch
  | .string s => if type = .string then .ok (.string s) else mismatch
  | .bytes bs => if type = .bytes then .ok (.bytes bs) else mismatch
where
  mismatch := .error (.typeMismatch type literal.kind)

/-- Checks a literal against a type. -/
def fold (type : Scalar) (literal : Literal) : Except Fault ConstantValue := do
  return ⟨type, ← foldDatum type literal⟩

example : foldDatum .u8 (.int "-0") = .ok (.unsigned 0) := rfl
example : foldDatum .u8 (.int "-1") = .error (.range .u8 "-1") := rfl
example : foldDatum .i8 (.int "-128") = .ok (.signed (-128)) := rfl
example : foldDatum .u8 (.int "+") = .error (.invalidLiteral "+") := rfl

end SchemaBindings
