import SchemaBindings.Json.Reader

/-!
# Numbers of a document

An integer that fits into 64 bits is exact. Every other number is a binary one: the first digits of the
number, as many as fit into 64 bits, are rounded and then multiplied or divided by a rounded power of
ten. So the result can be one unit off the nearest binary number, and a number whose power of ten is
too large is out of range even where the digits would bring it back.
-/

namespace SchemaBindings.Json

inductive Number where
  | integer (n : Int)
  | real (x : Binary64)
deriving DecidableEq, Repr

/-! ## Decimal to binary -/

/-- The binary number nearest to a power of ten. -/
def powerOfTen (exponent : Nat) : Binary64 :=
  .ofNat .double (Nat.pow 10 exponent)

/-- The largest power of ten that is a finite binary number. -/
def largestPower : Nat := 308

/-- Divides by a power of ten, in steps of the largest one; a quotient that became zero stays. -/
def divideByPower : Nat → Binary64 → Nat → Binary64
  | 0, x, _ => x
  | fuel + 1, x, exponent =>
    if exponent ≤ largestPower then x.div (powerOfTen exponent)
    else if x.magnitude = 0 then x
    else divideByPower fuel (x.div (powerOfTen largestPower)) (exponent - largestPower)

/-- `significand * 10 ^ exponent`; none if it is out of range. -/
def binaryOf? (significand : Nat) (exponent : Int) : Option Binary64 :=
  let x : Binary64 := .ofNat .double significand
  if exponent < 0 then
    -- two steps bring any 64 bit significand to zero
    some (divideByPower 4 x (-exponent).toNat)
  else if exponent ≤ largestPower then
    let y := x.mul (powerOfTen exponent.toNat)
    if y.isFinite then some y else none
  else if significand = 0 then some x
  else none

/-! ## Digits -/

def isDigitByte (b : UInt8) : Bool :=
  48 ≤ b && b ≤ 57

def digitValue (b : UInt8) : Nat :=
  b.toNat - 48

/-- Appends digits to a number while the result stays at most `limit`; also the number of digits that
did not fit. -/
def appendDigits (limit : Nat) (n : Nat) : List UInt8 → Nat × Nat
  | [] => (n, 0)
  | b :: rest =>
    if limit < n * 10 + digitValue b then (n, rest.length + 1)
    else appendDigits limit (n * 10 + digitValue b) rest

def significandLimit : Nat := Nat.pow 2 64 - 1

/-- The largest exponent that is read digit by digit. -/
def exponentLimit : Nat := Nat.pow 2 31 - 1

namespace Reader

def digits : Reader (List UInt8) := do
  let ds := (← remaining).takeWhile isDigitByte
  skipBy ds.length
  return ds

/-- `significand * 10 ^ exponent` with a sign. -/
def realOf (negative : Bool) (significand : Nat) (exponent : Int) : Reader Number := do
  match binaryOf? significand exponent with
  | some x => return .real (if negative then x.neg else x)
  | none => failHere .numberOutOfRange

/-- Reads the exponent of a number, from its letter on. -/
def exponentPart (negative : Bool) (significand : Nat) (exponent : Int) : Reader Number := do
  skip
  let shrinks ← do
    match ← peek? with
    | some 43 => skip; pure false
    | some 45 => skip; pure true
    | _ => pure false
  match ← peek? with
  | none => failHere .endInValue
  | some b =>
    if !isDigitByte b then
      skip
      failHere .invalidNumber
    else
      let ds := (← remaining).takeWhile isDigitByte
      let (n, excess) := appendDigits exponentLimit 0 ds
      if excess = 0 then
        skipBy ds.length
        realOf negative significand (if shrinks then exponent - n else exponent + n)
      else if significand ≠ 0 ∧ !shrinks then
        skipBy (ds.length - excess + 1)
        failHere .numberOutOfRange
      else
        skipBy ds.length
        return .real ⟨negative, 0⟩

def startsExponent (b : Option UInt8) : Bool :=
  b == some 101 || b == some 69

/-- Reads the fraction of a number, from its point on. -/
def fractionPart (negative : Bool) (significand : Nat) (exponent : Int) : Reader Number := do
  skip
  let ds ← digits
  let (significand, excess) := appendDigits significandLimit significand ds
  let exponent := exponent - ((ds.length - excess : Nat) : Int)
  if ds.isEmpty then
    match ← peek? with
    | some _ => failAhead .invalidNumber
    | none => failAhead .endInValue
  else if startsExponent (← peek?) then exponentPart negative significand exponent
  else realOf negative significand exponent

/-- An integer: exact if it fits into 64 bits, and never a negative zero. -/
def integerOf (negative : Bool) (significand : Nat) : Number :=
  if !negative then .integer significand
  else if significand = 0 ∨ Nat.pow 2 63 < significand then .real (Binary.ofNat .double significand).neg
  else .integer (-significand)

/-- Reads a number behind its sign. -/
def number (negative : Bool) : Reader Number := do
  match ← peek? with
  | none => failHere .endInValue
  | some b =>
    if !isDigitByte b then
      skip
      failHere .invalidNumber
    else
      let (significand, dropped) ← do
        if b = 48 then
          skip
          if (← peek?).any isDigitByte then failAhead .invalidNumber else pure (0, 0)
        else
          pure (appendDigits significandLimit 0 (← digits))
      match ← peek? with
      | some 46 => fractionPart negative significand dropped
      | after =>
        if startsExponent after then exponentPart negative significand dropped
        else if dropped = 0 then return integerOf negative significand
        else realOf negative significand dropped

/-- Reads a number whose sign or first digit has been seen. -/
def signedNumber (first : UInt8) : Reader Number := do
  if first = 45 then
    skip
    number true
  else
    number false

end Reader

end SchemaBindings.Json
