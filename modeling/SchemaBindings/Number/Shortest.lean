import SchemaBindings.Number.Binary

/-!
# Shortest decimals

The text of a binary number is the decimal with the fewest digits that reads back as the number; of two
such decimals the nearer one, and of two equally near ones the one that the layout names. A number reads
back from every decimal between the midpoints to its neighbours, and from the midpoints themselves when
its significand is even.
-/

namespace SchemaBindings

/-! ## Digits -/

/-- The decimal `0.digits * 10 ^ (leading + 1)`: `leading` is the exponent of the first digit. -/
structure Decimal where
  digits : List Char
  leading : Int
deriving DecidableEq, Repr

/-- The exponent of the greatest power of ten that is at most the quotient, searched downwards from
`10 ^ fuel` above the start. -/
def floorLog10From (numerator denominator : Nat) : Nat → Int → Int
  | 0, start => start
  | fuel + 1, start =>
    let fits :=
      if 0 ≤ start then denominator * Nat.pow 10 start.toNat ≤ numerator
      else denominator ≤ numerator * Nat.pow 10 (-start).toNat
    if fits then start else floorLog10From numerator denominator fuel (start - 1)

/-- The exponent of the leading digit of a positive quotient. -/
def floorLog10 (numerator denominator : Nat) : Int :=
  let guess := BinaryFormat.floorLog2 numerator denominator * 30103 / 100000 + 1
  floorLog10From numerator denominator 4 guess

/-- The bounds of the decimals that read back as a positive magnitude, in units of `2 ^ exponent / 4`:
the lower bound, the number itself, the upper bound, the exponent, and whether the bounds belong. -/
structure Interval where
  lower : Nat
  value : Nat
  upper : Nat
  exponent : Int
  closed : Bool

/-- The interval of a positive magnitude. At a power of two the neighbour below is half as far. -/
def Interval.ofMagnitude (f : BinaryFormat) (magnitude : Nat) : Interval :=
  let (significand, exponent) := f.decode magnitude
  let below := if significand = f.fieldSize ∧ f.unit < exponent then 1 else 2
  ⟨4 * significand - below, 4 * significand, 4 * significand + 2, exponent - 2, significand % 2 == 0⟩

/-- Whether `candidate / scale`, both in quarters of the unit, lies in the interval. -/
def Interval.holds (i : Interval) (candidate scale : Nat) : Bool :=
  if i.closed then i.lower * scale ≤ candidate && candidate ≤ i.upper * scale
  else i.lower * scale < candidate && candidate < i.upper * scale

/-- Which of two equally near decimals is taken. -/
inductive Tie where
  | larger
  /-- The one whose last digit is even. -/
  | even
deriving DecidableEq, Repr

/-- Whether the lower one of two neighbours is taken. -/
def Tie.takesLower : Tie → Nat → Bool
  | .larger, _ => false
  | .even, lower => lower % 2 == 0

/-- The multiple of `10 ^ grid` nearest to the number among its two neighbours on that grid, when one
of them reads back. -/
def Interval.onGrid? (i : Interval) (tie : Tie) (grid : Int) : Option Nat :=
  -- `step / scale` is `10 ^ grid` in quarters of the unit
  let (ten, tenth) := if 0 ≤ grid then (Nat.pow 10 grid.toNat, 1) else (1, Nat.pow 10 (-grid).toNat)
  let (step, scale) := BinaryFormat.scale ten tenth (-i.exponent)
  let below := i.value * scale / step
  let rest := i.value * scale - below * step
  let low := i.holds (below * step) scale
  let high := i.holds ((below + 1) * step) scale
  let lowerIsNearer := 2 * rest < step || (2 * rest == step && tie.takesLower below)
  if low && (!high || lowerIsNearer) then some below
  else if high then some (below + 1)
  else none

/-- The first number of digits, from `count` on, for which a decimal reads back. -/
def Interval.shortestFrom (i : Interval) (tie : Tie) (leading : Int) : Nat → Nat → Nat × Int
  | 0, count =>
    let grid := leading - count + 1
    ((i.onGrid? tie grid).getD 0, grid)
  | fuel + 1, count =>
    let grid := leading - count + 1
    match i.onGrid? tie grid with
    | some n => (n, grid)
    | none => i.shortestFrom tie leading fuel (count + 1)

def dropTrailingZeros (digits : List Char) : List Char :=
  (digits.reverse.dropWhile (· = '0')).reverse

/-- The shortest decimal of a positive finite magnitude. -/
def shortest (f : BinaryFormat) (tie : Tie) (magnitude : Nat) : Decimal :=
  let x : Binary f := ⟨false, magnitude⟩
  let (a, b) := x.ratio
  let (n, grid) := (Interval.ofMagnitude f magnitude).shortestFrom tie (floorLog10 a b) 17 1
  let digits := Nat.toDigits 10 n
  ⟨dropTrailingZeros digits, grid + digits.length - 1⟩

/-! ## Layouts -/

/-- How a decimal is written down: positionally when the exponent of its leading digit is in
`[positionalFrom, positionalBelow)`, else with an exponent. -/
structure DecimalLayout where
  positionalFrom : Option Int
  positionalBelow : Option Int
  /-- Whether a whole number keeps the point and one zero. -/
  keepsPoint : Bool
  /-- Whether a positive exponent has a sign. -/
  signsExponent : Bool
  /-- The least number of digits of an exponent. -/
  exponentDigits : Nat
  tie : Tie

/-- The layout of constants: an exponent below `10 ^ -4` and from `10 ^ 16` on. -/
def DecimalLayout.constant : DecimalLayout := ⟨some (-4), some 16, true, false, 1, .larger⟩

/-- The layout without exponents. -/
def DecimalLayout.positional : DecimalLayout := ⟨none, none, false, false, 1, .larger⟩

/-- The layout in messages about a document: an exponent below `10 ^ -5` and from `10 ^ 16` on. -/
def DecimalLayout.message : DecimalLayout := ⟨some (-5), some 16, true, true, 2, .even⟩

namespace Decimal

def positional (keepsPoint : Bool) (d : Decimal) : List Char :=
  if d.leading < 0 then
    '0' :: '.' :: (List.replicate (-d.leading - 1).toNat '0' ++ d.digits)
  else
    let places := d.leading.toNat + 1
    let whole := d.digits.take places ++ List.replicate (places - d.digits.length) '0'
    let fraction := d.digits.drop places
    if fraction = [] then whole ++ (if keepsPoint then ['.', '0'] else [])
    else whole ++ '.' :: fraction

def scientific (layout : DecimalLayout) (d : Decimal) : List Char :=
  let mantissa :=
    match d.digits with
    | first :: second :: rest => first :: '.' :: second :: rest
    | digits => digits
  let sign := if d.leading < 0 then ['-'] else if layout.signsExponent then ['+'] else []
  let exponent := Nat.toDigits 10 d.leading.natAbs
  let zeros := List.replicate (layout.exponentDigits - exponent.length) '0'
  mantissa ++ 'e' :: (sign ++ zeros ++ exponent)

def write (layout : DecimalLayout) (d : Decimal) : List Char :=
  let small := layout.positionalFrom.any (d.leading < ·)
  let large := layout.positionalBelow.any (· ≤ d.leading)
  if small || large then d.scientific layout else d.positional layout.keepsPoint

end Decimal

def Binary.write {f : BinaryFormat} (layout : DecimalLayout) (x : Binary f) : String :=
  if x.isNaN then "NaN"
  else
    let sign := if x.negative then ['-'] else []
    let body :=
      if !x.isFinite then ['i', 'n', 'f']
      else if x.magnitude = 0 then (if layout.keepsPoint then ['0', '.', '0'] else ['0'])
      else (shortest f layout.tie x.magnitude).write layout
    String.ofList (sign ++ body)

example : (Binary.ofBits 0x3fb999999999999a).write .constant = "0.1" := by decide +kernel
example : (Binary.ofBits 1).write .constant = "5e-324" := by decide +kernel
example : (Binary.ofNat .double (Nat.pow 10 16)).write .constant = "1e16" := by decide +kernel
example : (Binary.ofNat .double (Nat.pow 10 15)).write .constant = "1000000000000000.0" := by decide +kernel
example : (Binary.ofBits 0x42e0000000000034).write .message = "140737488355329.62" := by
  decide +kernel
example : (Binary.ofBits 0x42e0000000000034).write .constant = "140737488355329.63" := by
  decide +kernel
example : (Binary.ofBits 0x3e7ad7f29abcaf48).write .message = "1e-07" := by decide +kernel
example : (Binary.ofNat .double (Nat.pow 2 64)).write .message = "1.8446744073709552e+19" := by
  decide +kernel

end SchemaBindings
