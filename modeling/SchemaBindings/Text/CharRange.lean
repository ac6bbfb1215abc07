/-!
# Ranges of code points

A character class or a case mapping of the Unicode standard is written as a list of ranges of code
points. Capital and small letters often alternate, so a range carries a step: `⟨0x100, 0x12e, 2⟩` holds
every second code point.
-/

namespace SchemaBindings.Text

/-- The code points `first`, `first + step`, … up to `last`. -/
structure CharRange where
  first : Nat
  last : Nat
  step : Nat
deriving Repr

namespace CharRange

/-- Whether the range holds the code point `n`. -/
def holds (r : CharRange) (n : Nat) : Bool :=
  r.first ≤ n && n ≤ r.last && (n - r.first) % r.step == 0

end CharRange

def inRanges (ranges : List CharRange) (c : Char) : Bool :=
  ranges.any (·.holds c.toNat)

example : inRanges [⟨0x100, 0x104, 2⟩] 'Ă' = true := by decide
example : inRanges [⟨0x100, 0x104, 2⟩] 'ă' = false := by decide

end SchemaBindings.Text
