/-!
# Binary floating point

A number of a binary interchange format is a sign and a magnitude: the bits below the sign, read as a
natural number. Magnitudes are ordered as the numbers are, infinity is the first magnitude after the
finite ones, and a larger magnitude is not a number.

* `BinaryFormat.roundRatio` is the only rounding: the nearest magnitude to a quotient of naturals, of two
  equally near ones the even one.
* `Binary.mul`, `Binary.div`, `Binary.ofNat` and `Binary.convert` round the exact result once.
-/

namespace SchemaBindings

/-! ## Formats -/

/-- A binary format: `precision` bits of significand, the leading one included, `unit` the exponent of
the smallest magnitude, and `fields` the number of exponent fields that hold finite numbers. -/
structure BinaryFormat where
  precision : Nat
  unit : Int
  fields : Nat
deriving DecidableEq, Repr

namespace BinaryFormat

/-- The 32 bit format. -/
def single : BinaryFormat := ⟨24, -149, 255⟩

/-- The 64 bit format. -/
def double : BinaryFormat := ⟨53, -1074, 2047⟩

/-- Magnitudes in one exponent field. -/
def fieldSize (f : BinaryFormat) : Nat :=
  Nat.pow 2 (f.precision - 1)

def infinity (f : BinaryFormat) : Nat :=
  f.fields * f.fieldSize

/-- A finite magnitude as a significand and an exponent of two. -/
def decode (f : BinaryFormat) (magnitude : Nat) : Nat × Int :=
  let field := magnitude / f.fieldSize
  if field = 0 then (magnitude, f.unit)
  else (f.fieldSize + magnitude % f.fieldSize, f.unit + (field - 1 : Nat))

/-- A quotient to the nearest natural, a half to the even one. -/
def roundHalfEven (numerator denominator : Nat) : Nat :=
  let quotient := numerator / denominator
  let twice := 2 * (numerator % denominator)
  if twice < denominator then quotient
  else if denominator < twice then quotient + 1
  else quotient + quotient % 2

/-- `numerator / denominator * 2 ^ exponent` as a quotient of naturals. -/
def scale (numerator denominator : Nat) (exponent : Int) : Nat × Nat :=
  if 0 ≤ exponent then (numerator * Nat.pow 2 exponent.toNat, denominator)
  else (numerator, denominator * Nat.pow 2 (-exponent).toNat)

/-- The exponent of the greatest power of two that is at most the quotient of two positive numbers. -/
def floorLog2 (numerator denominator : Nat) : Int :=
  let guess : Int := (numerator.log2 : Int) - denominator.log2
  let (n, d) := scale numerator denominator (-guess)
  if d ≤ n then guess else guess - 1

/-- The nearest magnitude to a quotient. -/
def roundRatio (f : BinaryFormat) (numerator denominator : Nat) : Nat :=
  if numerator = 0 then 0
  else
    let exponent := max f.unit (floorLog2 numerator denominator - ((f.precision - 1 : Nat) : Int))
    let (n, d) := scale numerator denominator (-exponent)
    min f.infinity ((exponent - f.unit).toNat * f.fieldSize + roundHalfEven n d)

end BinaryFormat

/-! ## Numbers -/

/-- A number of a binary format. -/
structure Binary (f : BinaryFormat) where
  negative : Bool
  magnitude : Nat
deriving DecidableEq, Repr

abbrev Binary64 := Binary .double

namespace Binary

variable {f : BinaryFormat}

/-- Whether the number is neither infinite nor undefined. -/
def isFinite (x : Binary f) : Bool :=
  x.magnitude < f.infinity

def isNaN (x : Binary f) : Bool :=
  f.infinity < x.magnitude

def neg (x : Binary f) : Binary f :=
  { x with negative := !x.negative }

/-- The absolute value of a finite number as a quotient of naturals. -/
def ratio (x : Binary f) : Nat × Nat :=
  let (significand, exponent) := f.decode x.magnitude
  BinaryFormat.scale significand 1 exponent

def ofNat (f : BinaryFormat) (n : Nat) : Binary f :=
  ⟨false, f.roundRatio n 1⟩

/-- The nearest number to an integer; zero is positive. -/
def ofInt (f : BinaryFormat) (n : Int) : Binary f :=
  ⟨n < 0, f.roundRatio n.natAbs 1⟩

/-- The rounded product of finite numbers. -/
def mul (x y : Binary f) : Binary f :=
  let (a, b) := x.ratio
  let (c, d) := y.ratio
  ⟨x.negative != y.negative, f.roundRatio (a * c) (b * d)⟩

/-- The rounded quotient of finite numbers; the divisor is not zero. -/
def div (x y : Binary f) : Binary f :=
  let (a, b) := x.ratio
  let (c, d) := y.ratio
  ⟨x.negative != y.negative, f.roundRatio (a * d) (b * c)⟩

/-- The nearest number of another format to a finite number. -/
def convert (g : BinaryFormat) (x : Binary f) : Binary g :=
  let (a, b) := x.ratio
  ⟨x.negative, g.roundRatio a b⟩

def ofBits (bits : Nat) : Binary64 :=
  ⟨Nat.pow 2 63 ≤ bits, bits % Nat.pow 2 63⟩

def toBits (x : Binary64) : Nat :=
  x.magnitude + if x.negative then Nat.pow 2 63 else 0

end Binary

example : (Binary.ofNat .double 1).toBits = 0x3ff0000000000000 := by decide +kernel
example : ((Binary.ofNat .double 1).div (Binary.ofNat .double 10)).toBits = 0x3fb999999999999a := by
  decide +kernel
example : ((Binary.ofNat .double 1).convert .single).magnitude = 0x3f800000 := by decide +kernel

end SchemaBindings
