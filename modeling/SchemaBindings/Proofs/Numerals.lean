import SchemaBindings.Constant
import Mathlib.Data.List.Basic

/-!
# Decimal texts of integers

A text denotes an integer if it is one or more ASCII digits behind an optional sign, of any number and with any zeros
in front (`Denotes`). A sign splits off in one way, so a text denotes at most one integer (`denotes_iff`).

Of the texts of an integer one has neither a `+` nor a needless zero (`IsCanonical`): the one that integers are written
as (`isCanonical_iff`).
-/

namespace SchemaBindings

/-! ## Digits -/

/-- One or more ASCII digits. -/
def IsNumeral (digits : List Char) : Prop :=
  digits ≠ [] ∧ ∀ c ∈ digits, c.isDigit = true

instance (digits : List Char) : Decidable (IsNumeral digits) :=
  decidable_of_iff (digits ≠ [] ∧ digits.all Char.isDigit = true) (and_congr_right' List.all_eq_true)

def decimalValue (digits : List Char) : Nat :=
  Nat.ofDigitChars 10 digits 0

/-- The code points of digits follow one another. -/
theorem toNat_of_isDigit {c : Char} (digit : c.isDigit = true) : 48 ≤ c.toNat ∧ c.toNat ≤ 57 := by
  simpa [Char.isDigit, UInt32.le_iff_toNat_le] using digit

theorem digitChar_of_isDigit {c : Char} (digit : c.isDigit = true) : Nat.digitChar (c.toNat - 48) = c := by
  obtain ⟨least, greatest⟩ := toNat_of_isDigit digit
  have spelled : ∀ k < 10, Nat.digitChar k = Char.ofNat (k + 48) := by decide
  rw [spelled _ (by omega), Nat.sub_add_cancel least, Char.ofNat_toNat]

theorem le_ofDigitChars (digits : List Char) (m : Nat) : m ≤ Nat.ofDigitChars 10 digits m := by
  induction digits generalizing m with
  | nil => exact Nat.le_refl m
  | cons c rest ih =>
    rw [Nat.ofDigitChars_cons]
    have grown := ih (10 * m + (c.toNat - '0'.toNat))
    omega

/-- Digits that do not begin with a zero stand for a positive number. -/
theorem decimalValue_pos {digits : List Char} (numeral : IsNumeral digits) (first : digits.head? ≠ some '0') :
    0 < decimalValue digits := by
  cases digits with
  | nil => exact absurd rfl numeral.1
  | cons c rest =>
    obtain ⟨least, -⟩ := toNat_of_isDigit (numeral.2 c List.mem_cons_self)
    have other : c.toNat ≠ 48 := fun same => first (congrArg some (Char.ext (UInt32.toNat_inj.1 same)))
    have grown := le_ofDigitChars rest (10 * 0 + (c.toNat - 48))
    unfold decimalValue
    rw [Nat.ofDigitChars_cons]
    exact Nat.lt_of_lt_of_le (by omega) grown

/-- Digits behind those of a positive number. -/
theorem toDigits_append {m : Nat} (positive : 0 < m) {digits : List Char} (all : ∀ c ∈ digits, c.isDigit = true) :
    Nat.toDigits 10 m ++ digits = Nat.toDigits 10 (Nat.ofDigitChars 10 digits m) := by
  induction digits generalizing m with
  | nil => rw [List.append_nil, Nat.ofDigitChars_nil]
  | cons c rest ih =>
    obtain ⟨digit, others⟩ := List.forall_mem_cons.1 all
    obtain ⟨least, greatest⟩ := toNat_of_isDigit digit
    have last : Nat.toDigits 10 (c.toNat - 48) = [c] := by
      rw [Nat.toDigits_of_lt_base (by omega), digitChar_of_isDigit digit]
    calc Nat.toDigits 10 m ++ c :: rest
        = (Nat.toDigits 10 m ++ Nat.toDigits 10 (c.toNat - 48)) ++ rest := by simp [last]
      _ = Nat.toDigits 10 (10 * m + (c.toNat - 48)) ++ rest := by
          rw [Nat.toDigits_append_toDigits (by decide) positive (by omega)]
      _ = Nat.toDigits 10 (Nat.ofDigitChars 10 (c :: rest) m) := by
          rw [ih (by omega) others, Nat.ofDigitChars_cons]
          rfl

/-- Digits without a zero in front are the ones that their number is written as. -/
theorem toDigits_decimalValue {digits : List Char} (numeral : IsNumeral digits)
    (first : digits.head? = some '0' → digits = ['0']) : Nat.toDigits 10 (decimalValue digits) = digits := by
  cases digits with
  | nil => exact absurd rfl numeral.1
  | cons c rest =>
    by_cases zero : c = '0'
    · rw [first (congrArg some zero)]
      rfl
    · obtain ⟨digit, others⟩ := List.forall_mem_cons.1 numeral.2
      obtain ⟨least, greatest⟩ := toNat_of_isDigit digit
      have other : c.toNat ≠ 48 := fun same => zero (Char.ext (UInt32.toNat_inj.1 same))
      have behind := toDigits_append (m := c.toNat - 48) (by omega) others
      rw [Nat.toDigits_of_lt_base (by omega), digitChar_of_isDigit digit] at behind
      unfold decimalValue
      rw [Nat.ofDigitChars_cons]
      simpa using behind.symm

theorem isNumeral_toDigits (n : Nat) : IsNumeral (Nat.toDigits 10 n) :=
  ⟨Nat.toDigits_ne_nil, fun _ => Nat.isDigit_of_mem_toDigits (by decide) (by decide)⟩

theorem decimalValue_toDigits (n : Nat) : decimalValue (Nat.toDigits 10 n) = n :=
  Nat.ofDigitChars_ten_toDigits

theorem head?_toDigits {n : Nat} (zero : (Nat.toDigits 10 n).head? = some '0') : n = 0 := by
  induction n using Nat.strongRecOn with
  | ind n ih =>
    by_cases small : n < 10
    · rw [Nat.toDigits_of_lt_base small] at zero
      have spelled : ∀ k < 10, Nat.digitChar k = '0' → k = 0 := by decide
      exact spelled n small (by simpa using zero)
    · rw [Nat.toDigits_of_base_le (by decide) (by omega), List.head?_append_of_ne_nil _ Nat.toDigits_ne_nil] at zero
      have rest := ih (n / 10) (by omega) zero
      omega

/-! ## Signs -/

/-- A text of an integer: one or more digits behind an optional sign. -/
inductive Denotes : List Char → Int → Prop
  | plain {digits : List Char} (numeral : IsNumeral digits) : Denotes digits (decimalValue digits)
  | positive {digits : List Char} (numeral : IsNumeral digits) : Denotes ('+' :: digits) (decimalValue digits)
  | negative {digits : List Char} (numeral : IsNumeral digits) : Denotes ('-' :: digits) (-(decimalValue digits : Int))

def withSign (negative : Bool) (magnitude : Nat) : Int :=
  if negative then -magnitude else magnitude

theorem splitSign_of_numeral {digits : List Char} (numeral : IsNumeral digits) :
    splitSign digits = (false, digits) := by
  unfold splitSign
  split
  · exact absurd (numeral.2 _ List.mem_cons_self) (by decide)
  · exact absurd (numeral.2 _ List.mem_cons_self) (by decide)
  · rfl

/-- A text denotes the integer of the sign and the digits that it splits into, and no other. -/
theorem denotes_iff {text : List Char} {n : Int} :
    Denotes text n ↔
      IsNumeral (splitSign text).2 ∧ n = withSign (splitSign text).1 (decimalValue (splitSign text).2) := by
  constructor
  · rintro (numeral | numeral | numeral)
    · rw [splitSign_of_numeral numeral]
      exact ⟨numeral, rfl⟩
    · exact ⟨numeral, rfl⟩
    · exact ⟨numeral, rfl⟩
  · rintro ⟨numeral, rfl⟩
    unfold splitSign at numeral ⊢
    split at numeral
    · exact .negative numeral
    · exact .positive numeral
    · exact .plain numeral

theorem Denotes.unique {text : List Char} {m n : Int} (first : Denotes text m) (second : Denotes text n) : m = n :=
  (denotes_iff.1 first).2.trans (denotes_iff.1 second).2.symm

/-! ## The canonical text -/

/-- A text of an integer without a `+` and with no zero in front of other digits, nor one behind a sign. -/
structure IsCanonical (text : List Char) (n : Int) : Prop where
  denotes : Denotes text n
  plain : text.head? ≠ some '+'
  short : (splitSign text).2.head? = some '0' → text = ['0']

theorem toList_toString_natCast (n : Nat) : (toString (n : Int)).toList = Nat.toDigits 10 n := by
  show (Nat.repr n).toList = _
  rw [Nat.repr_eq_ofList_toDigits, String.toList_ofList]

theorem toList_toString_neg {n : Nat} (positive : 0 < n) :
    (toString (-(n : Int))).toList = '-' :: Nat.toDigits 10 n := by
  obtain ⟨m, rfl⟩ := Nat.exists_eq_succ_of_ne_zero (Nat.ne_of_gt positive)
  show ("-" ++ Nat.repr (m + 1)).toList = _
  simp [Nat.repr_eq_ofList_toDigits]

theorem isCanonical_toString (n : Int) : IsCanonical (toString n).toList n := by
  obtain ⟨m, rfl | rfl⟩ := n.eq_nat_or_neg
  · have numeral := isNumeral_toDigits m
    rw [toList_toString_natCast]
    refine ⟨denotes_iff.2 ?_, ?_, ?_⟩
    · rw [splitSign_of_numeral numeral, decimalValue_toDigits]
      exact ⟨numeral, rfl⟩
    · intro plus
      exact absurd (numeral.2 '+' (List.mem_of_mem_head? plus)) (by decide)
    · rw [splitSign_of_numeral numeral]
      intro zero
      rw [head?_toDigits zero]
      rfl
  · rcases Nat.eq_zero_or_pos m with rfl | positive
    · have numeral : IsNumeral ['0'] := by decide
      exact ⟨.plain numeral, by decide, fun _ => rfl⟩
    · rw [toList_toString_neg positive]
      refine ⟨denotes_iff.2 ⟨isNumeral_toDigits m, ?_⟩, by simp, ?_⟩
      · show _ = withSign true (decimalValue (Nat.toDigits 10 m))
        rw [decimalValue_toDigits]
        rfl
      · intro zero
        exact absurd (head?_toDigits zero) (Nat.ne_of_gt positive)

/-- An integer has one canonical text, the one that it is written as. -/
theorem isCanonical_iff {text : List Char} {n : Int} : IsCanonical text n ↔ text = (toString n).toList := by
  constructor
  · rintro ⟨numeral | numeral | numeral, plain, short⟩
    · rw [splitSign_of_numeral numeral] at short
      rw [toList_toString_natCast, toDigits_decimalValue numeral short]
    · exact absurd rfl plain
    · have first : ∀ {digits : List Char}, digits.head? = some '0' → '-' :: digits ≠ ['0'] := by simp
      rename_i digits
      have other : digits.head? ≠ some '0' := fun zero => first zero (short zero)
      rw [toList_toString_neg (decimalValue_pos numeral other),
        toDigits_decimalValue numeral fun zero => absurd zero other]
  · rintro rfl
    exact isCanonical_toString n

end SchemaBindings
