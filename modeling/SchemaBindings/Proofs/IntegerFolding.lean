import SchemaBindings.Proofs.Numerals
import SchemaBindings.Proofs.Outcomes
import Mathlib.Algebra.Order.Ring.Int
import Mathlib.Data.List.TakeWhile

/-!
# Folding of integer tokens

What comes out for a token of an integer type depends on the digits that it begins with behind its sign, on whether
these are all of it, and on the range of the type.

* Reading stops where the magnitude leaves 128 bits, or at a character that is no digit, whichever comes first
  (`readMagnitude_eq`).
* A token is folded exactly if it denotes an integer of the type (`fold_integer_eq_ok_iff`).
* One that fails is reported as out of range if it denotes an integer, and as no integer if it denotes none, unless the
  digits in front of the character that is none are too large already (`fold_integer_fault_iff`).
-/

namespace SchemaBindings

/-! ## Ranges -/

/-- The integers of a type: those of its width, from zero on or around it. -/
def Scalar.Holds (type : Scalar) (n : Int) : Prop :=
  ∃ width, type.bitWidth? = some width ∧
    if type.isSigned then -2 ^ (width - 1) ≤ n ∧ n ≤ 2 ^ (width - 1) - 1 else 0 ≤ n ∧ n ≤ 2 ^ width - 1

/-- The datum that an integer of a type is kept as. -/
def Scalar.datum (type : Scalar) (n : Int) : Datum :=
  if type.isSigned then .signed n else .unsigned n.toNat

theorem inIntegerRange_iff {type : Scalar} {width : Nat} (wide : type.bitWidth? = some width) {n : Int} :
    inIntegerRange type.isSigned width n = true ↔ type.Holds n := by
  have power : ∀ k : Nat, (Nat.pow 2 k : Int) = 2 ^ k := fun k => Nat.cast_pow 2 k
  unfold inIntegerRange Scalar.Holds
  simp only [wide, Option.some.injEq, exists_eq_left', power, Int.le_sub_one_iff]
  cases type.isSigned <;> simp

instance (type : Scalar) (n : Int) : Decidable (type.Holds n) :=
  match wide : type.bitWidth? with
  | some _ => decidable_of_iff _ (inIntegerRange_iff wide)
  | none => .isFalse fun ⟨_, known, _⟩ => nomatch wide.symm.trans known

theorem exists_bitWidth {type : Scalar} (integer : type.isInteger = true) : ∃ width, type.bitWidth? = some width := by
  cases type with
  | bool | f32 | f64 | string | bytes => exact absurd integer Bool.false_ne_true
  | u8 | u16 | u32 | u64 | u128 | i8 | i16 | i32 | i64 | i128 => exact ⟨_, rfl⟩

theorem bitWidth_bounds {type : Scalar} {width : Nat} (wide : type.bitWidth? = some width) :
    1 ≤ width ∧ width ≤ 128 := by
  cases type <;> cases wide <;> decide

/-- No type holds an integer of a magnitude past 128 bits. -/
theorem Scalar.Holds.natAbs_lt {type : Scalar} {n : Int} (holds : type.Holds n) : n.natAbs < magnitudeBound := by
  obtain ⟨width, wide, bounds⟩ := holds
  have powers : (2 : Int) ^ (width - 1) ≤ 2 ^ 127 ∧ (2 : Int) ^ width ≤ 2 ^ 128 := by
    have narrow := (bitWidth_bounds wide).2
    exact ⟨pow_le_pow_right₀ (by decide) (by omega), pow_le_pow_right₀ (by decide) narrow⟩
  have bound : magnitudeBound = 2 ^ 128 := rfl
  split at bounds <;> omega

/-! ## Magnitudes -/

/-- Digits are read up to the first character that is none, unless their number gets too large before. -/
theorem readMagnitude_eq (type : Scalar) (token : String) {m : Nat} (bounded : m < magnitudeBound) (cs : List Char) :
    readMagnitude type token m cs =
      if magnitudeBound ≤ Nat.ofDigitChars 10 (cs.takeWhile Char.isDigit) m then .error (.range type token)
      else if cs.all Char.isDigit then .ok (Nat.ofDigitChars 10 cs m)
      else .error (.invalidLiteral token) := by
  induction cs generalizing m with
  | nil => simp [readMagnitude, Nat.not_le.2 bounded]
  | cons c rest ih =>
    unfold readMagnitude
    by_cases digit : c.isDigit = true
    · have next : m * 10 + (c.toNat - '0'.toNat) = 10 * m + (c.toNat - '0'.toNat) := by omega
      simp only [digit, Bool.not_true, Bool.false_eq_true, if_false, List.takeWhile_cons_of_pos,
        Nat.ofDigitChars_cons, List.all_cons, Bool.true_and, next]
      by_cases large : magnitudeBound ≤ 10 * m + (c.toNat - '0'.toNat)
      · have grown := le_ofDigitChars (rest.takeWhile Char.isDigit) (10 * m + (c.toNat - '0'.toNat))
        rw [if_pos large, if_pos (Nat.le_trans large grown)]
      · rw [if_neg large, ih (Nat.not_le.1 large)]
    · simp [digit, Nat.not_le.2 bounded]

/-! ## Tokens -/

/-- The number of the digits that a token begins with, behind its sign. -/
def leadingValue (token : String) : Nat :=
  decimalValue ((splitSign token.toList).2.takeWhile Char.isDigit)

theorem leadingValue_of_numeral {token : String} (numeral : IsNumeral (splitSign token.toList).2) :
    leadingValue token = decimalValue (splitSign token.toList).2 := by
  unfold leadingValue
  rw [List.takeWhile_eq_self_iff.2 numeral.2]

/-- The number of the leading digits decides before the rest of the token. -/
theorem readInteger_eq (type : Scalar) (token : String) :
    readInteger type token =
      if magnitudeBound ≤ leadingValue token then .error (.range type token)
      else if IsNumeral (splitSign token.toList).2 then
        .ok ((splitSign token.toList).1, decimalValue (splitSign token.toList).2)
      else .error (.invalidLiteral token) := by
  unfold readInteger leadingValue
  generalize splitSign token.toList = split
  obtain ⟨negative, digits⟩ := split
  dsimp only
  by_cases empty : digits = []
  · subst empty
    rfl
  · have all : IsNumeral digits ↔ digits.all Char.isDigit = true := (and_iff_right empty).trans List.all_eq_true.symm
    rw [if_neg empty, readMagnitude_eq type token (by decide)]
    simp only [all, decimalValue]
    split
    · rfl
    · split <;> rfl

theorem readInteger_lt {type : Scalar} {token : String} {negative : Bool} {m : Nat}
    (read : readInteger type token = .ok (negative, m)) : m < magnitudeBound := by
  rw [readInteger_eq] at read
  split at read
  · cases read
  · next small =>
    split at read
    · next numeral =>
      cases read
      rw [← leadingValue_of_numeral numeral]
      exact Nat.not_le.1 small
    · cases read

/-- What a token of a type with a width is folded to, if its digits are not too large. -/
theorem foldInteger_eq {type : Scalar} {width : Nat} (wide : type.bitWidth? = some width) {token : String}
    (small : leadingValue token < magnitudeBound) (numeral : IsNumeral (splitSign token.toList).2) :
    foldInteger type token =
      let n := withSign (splitSign token.toList).1 (decimalValue (splitSign token.toList).2)
      if type.Holds n then .ok (type.datum n) else .error (.range type token) := by
  unfold foldInteger
  rw [readInteger_eq, if_neg (Nat.not_le.2 small), if_pos numeral]
  simp only [← inIntegerRange_iff wide, wide, Scalar.datum]
  rfl

theorem fold_integer {type : Scalar} (integer : type.isInteger = true) (token : String) :
    fold type (.int token) = (foldInteger type token).map fun datum => ⟨type, datum⟩ := by
  unfold fold foldDatum
  simp only [integer, if_true]
  rfl

/-- What a token of an integer type is folded to. -/
theorem fold_integer_eq {type : Scalar} (integer : type.isInteger = true) (token : String) :
    fold type (.int token) =
      if magnitudeBound ≤ leadingValue token then .error (.range type token)
      else if IsNumeral (splitSign token.toList).2 then
        let n := withSign (splitSign token.toList).1 (decimalValue (splitSign token.toList).2)
        if type.Holds n then .ok ⟨type, type.datum n⟩ else .error (.range type token)
      else .error (.invalidLiteral token) := by
  obtain ⟨width, wide⟩ := exists_bitWidth integer
  rw [fold_integer integer]
  by_cases large : magnitudeBound ≤ leadingValue token
  · unfold foldInteger
    rw [readInteger_eq, if_pos large, if_pos large]
    rfl
  · rw [if_neg large]
    by_cases numeral : IsNumeral (splitSign token.toList).2
    · rw [foldInteger_eq wide (Nat.not_le.1 large) numeral, if_pos numeral]
      dsimp only
      split <;> rfl
    · unfold foldInteger
      rw [readInteger_eq, if_neg large, if_neg numeral, if_neg numeral]
      rfl

/-! ## Outcomes -/

/-- A token that denotes an integer is digits behind its sign, and their number is the magnitude. -/
theorem leadingValue_of_denotes {token : String} {n : Int} (denoted : Denotes token.toList n) :
    leadingValue token = n.natAbs := by
  obtain ⟨numeral, rfl⟩ := denotes_iff.1 denoted
  rw [leadingValue_of_numeral numeral]
  unfold withSign
  split <;> omega

theorem exists_denotes_iff {token : String} :
    (∃ n, Denotes token.toList n) ↔ IsNumeral (splitSign token.toList).2 := by
  constructor
  · rintro ⟨n, denoted⟩
    exact (denotes_iff.1 denoted).1
  · intro numeral
    exact ⟨_, denotes_iff.2 ⟨numeral, rfl⟩⟩

section

variable {type : Scalar} (integer : type.isInteger = true) {token : String}

include integer

theorem fold_integer_of_large (large : magnitudeBound ≤ leadingValue token) :
    fold type (.int token) = .error (.range type token) := by
  rw [fold_integer_eq integer, if_pos large]

theorem fold_integer_of_malformed (small : leadingValue token < magnitudeBound)
    (malformed : ¬ ∃ n, Denotes token.toList n) : fold type (.int token) = .error (.invalidLiteral token) := by
  have others : ¬ IsNumeral (splitSign token.toList).2 := fun numeral => malformed (exists_denotes_iff.2 numeral)
  rw [fold_integer_eq integer, if_neg (Nat.not_le.2 small), if_neg others]

theorem fold_integer_of_denotes {n : Int} (denoted : Denotes token.toList n) :
    fold type (.int token) = if type.Holds n then .ok ⟨type, type.datum n⟩ else .error (.range type token) := by
  have magnitude := leadingValue_of_denotes denoted
  by_cases large : magnitudeBound ≤ leadingValue token
  · have outside : ¬ type.Holds n := fun holds => absurd holds.natAbs_lt (by omega)
    rw [fold_integer_of_large integer large, if_neg outside]
  · obtain ⟨numeral, rfl⟩ := denotes_iff.1 denoted
    rw [fold_integer_eq integer, if_neg large, if_pos numeral]

/-- A token is folded if it denotes an integer of the type, to that integer. -/
theorem fold_integer_eq_ok_iff {value : ConstantValue} :
    fold type (.int token) = .ok value ↔
      ∃ n, Denotes token.toList n ∧ type.Holds n ∧ value = ⟨type, type.datum n⟩ := by
  constructor
  · intro folded
    by_cases large : magnitudeBound ≤ leadingValue token
    · rw [fold_integer_of_large integer large] at folded
      cases folded
    by_cases denoted : ∃ n, Denotes token.toList n
    · obtain ⟨n, denoted⟩ := denoted
      rw [fold_integer_of_denotes integer denoted] at folded
      split at folded
      next holds => exact ⟨n, denoted, holds, (Except.ok.inj folded).symm⟩
      next => cases folded
    · rw [fold_integer_of_malformed integer (Nat.not_le.1 large) denoted] at folded
      cases folded
  · rintro ⟨n, denoted, holds, rfl⟩
    rw [fold_integer_of_denotes integer denoted, if_pos holds]

end

/-! ## Faults -/

/-- A token of an integer type that fails is out of range if it denotes an integer. If it denotes none, it is reported
as no integer as long as the digits that it begins with are not past 128 bits, and as out of range otherwise. -/
theorem fold_integer_fault_iff {type : Scalar} (integer : type.isInteger = true) (token : String) :
    (fold type (.int token) = .error (.invalidLiteral token) ↔
      (¬ ∃ n, Denotes token.toList n) ∧ leadingValue token < 2 ^ 128) ∧
    (fold type (.int token) = .error (.range type token) ↔
      (∃ n, Denotes token.toList n ∧ ¬ type.Holds n) ∨
        (¬ ∃ n, Denotes token.toList n) ∧ 2 ^ 128 ≤ leadingValue token) ∧
    ∀ fault, fold type (.int token) = .error fault → fault = .invalidLiteral token ∨ fault = .range type token := by
  show (_ ↔ _ ∧ leadingValue token < magnitudeBound) ∧ (_ ↔ _ ∨ _ ∧ magnitudeBound ≤ leadingValue token) ∧ _
  by_cases denoted : ∃ n, Denotes token.toList n
  · have ⟨n, known⟩ := denoted
    have only : (∃ k, Denotes token.toList k ∧ ¬ type.Holds k) ↔ ¬ type.Holds n := by
      constructor
      · rintro ⟨k, other, outside⟩
        rwa [known.unique other]
      · exact fun outside => ⟨n, known, outside⟩
    rw [fold_integer_of_denotes integer known, only]
    by_cases holds : type.Holds n
    · simp [holds, denoted]
    · simp [holds, denoted]
  · have outside : ¬ ∃ n, Denotes token.toList n ∧ ¬ type.Holds n := fun ⟨n, known, _⟩ => denoted ⟨n, known⟩
    by_cases large : magnitudeBound ≤ leadingValue token
    · rw [fold_integer_of_large integer large]
      simp [denoted, large]
    · rw [fold_integer_of_malformed integer (Nat.not_le.1 large) denoted]
      simp [denoted, outside, Nat.not_le.1 large]

/-- A letter behind few digits and a negative number for an unsigned type are told apart. -/
theorem short_faults_told_apart :
    Scalar.u8.isInteger = true ∧ fold .u8 (.int "12a") = .error (.invalidLiteral "12a") ∧
      fold .u8 (.int "-1") = .error (.range .u8 "-1") := by
  have malformed : ¬ ∃ n, Denotes "12a".toList n := by
    rw [exists_denotes_iff]
    decide +kernel
  have negative : Denotes "-1".toList (-1) := denotes_iff.2 (by decide +kernel)
  exact ⟨rfl, (fold_integer_fault_iff rfl "12a").1.2 ⟨malformed, by decide +kernel⟩,
    (fold_integer_fault_iff rfl "-1").2.1.2 (.inl ⟨-1, negative, by decide⟩)⟩

/-- A letter behind digits past 128 bits makes a token that is no integer and is reported as out of range. -/
theorem long_malformed_out_of_range :
    (¬ ∃ n, Denotes "340282366920938463463374607431768211456x".toList n) ∧
      fold .u8 (.int "340282366920938463463374607431768211456x") =
        .error (.range .u8 "340282366920938463463374607431768211456x") := by
  refine ⟨?_, rfl⟩
  rw [exists_denotes_iff]
  decide +kernel

end SchemaBindings
