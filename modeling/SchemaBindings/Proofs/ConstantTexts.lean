import SchemaBindings.Proofs.GoTexts
import SchemaBindings.Proofs.IntegerFolding
import SchemaBindings.Target.Rust

/-!
# Texts of constants

A constant is one line behind its comment (`Go.constantOutput_source`, `Rust.constantOutput_source`), and its value can
be read off that line.

* An integer is written by its canonical digits in both targets. In Go one of 128 bits is an expression around them,
  which depends on whether it fits 64 bits (`integer_constant_texts`).
* In Go a text is written as a literal of that text, which ends with the line (`Go.text_constant_lossless`).
-/

namespace SchemaBindings

/-! ## Lines of constants -/

theorem Layout.text_comment_line (unit marker : String) (comment : Option String) (text : String) :
    Layout.text unit [.comment marker comment, .line text] =
      Layout.text unit [.comment marker comment] ++ text ++ "\n" := by
  show renderAll unit 0 ([.comment marker comment] ++ [.line text]) =
    renderAll unit 0 [.comment marker comment] ++ text ++ "\n"
  rw [renderAll_append, renderAll_line, String.append_assoc]

namespace Go

def constantLine (identifier keyword type initial : String) : String :=
  keyword ++ " " ++ identifier ++ " " ++ type ++ " = " ++ initial

theorem constantOutput_source (cx : RenderContext) (c : Constant ConstantValue) (identifier : String) :
    (constantOutput cx c identifier).source =
      Layout.text indentation [.comment "//" c.comment] ++
        constantLine identifier (initializer c.value).1 (scalarText c.value.type) (initializer c.value).2 ++ "\n" :=
  Layout.text_comment_line indentation "//" c.comment _

end Go

namespace Rust

def constantLine (identifier type initial : String) : String :=
  "pub const " ++ identifier ++ ": " ++ type ++ " = " ++ initial ++ ";"

theorem constantOutput_source (cx : RenderContext) (c : Constant ConstantValue) (identifier : String) :
    (constantOutput cx c identifier).source =
      Layout.text indentation [.comment "///" c.comment] ++
        constantLine identifier (constantTypeText c.value.type) (initializer c.value) ++ "\n" :=
  Layout.text_comment_line indentation "///" c.comment _

end Rust

/-! ## Integers -/

section

variable {type : Scalar} {n : Int}

/-- The digits of an integer that a type holds are those of its datum. -/
theorem Scalar.Holds.datum_cases (holds : type.Holds n) :
    type.isSigned = true ∧ type.datum n = .signed n ∨
      type.isSigned = false ∧ ∃ m : Nat, n = m ∧ type.datum n = .unsigned m := by
  obtain ⟨width, -, bounds⟩ := holds
  unfold Scalar.datum
  cases signed : type.isSigned with
  | true => exact .inl ⟨rfl, rfl⟩
  | false =>
    rw [signed] at bounds
    exact .inr ⟨rfl, n.toNat, (Int.toNat_of_nonneg bounds.1).symm, rfl⟩

theorem Rust.initializer_datum (holds : type.Holds n) : initializer ⟨type, type.datum n⟩ = toString n := by
  rcases holds.datum_cases with ⟨-, datum⟩ | ⟨-, m, rfl, datum⟩
  · rw [datum]
    rfl
  · rw [datum]
    rfl

theorem Rust.constantTypeText_integer (integer : type.isInteger = true) : constantTypeText type = scalarText type := by
  cases type with
  | string | bytes => exact absurd integer Bool.false_ne_true
  | bool | u8 | u16 | u32 | u64 | u128 | i8 | i16 | i32 | i64 | i128 | f32 | f64 => rfl

namespace Go

/-- An integer without a fixed width, of a number of 64 bits. -/
def newInt (digits : String) : String :=
  "big.NewInt(" ++ digits ++ ")"

/-- An integer without a fixed width, of its digits. -/
def setString (digits : String) : String :=
  "func() *big.Int \x7b v, _ := new(big.Int).SetString(\"" ++ digits ++ "\", 10); return v \x7d()"

theorem newInt_ne_setString (digits digits' : String) : newInt digits ≠ setString digits' := by
  intro same
  unfold newInt setString at same
  have chars := congrArg String.toList same
  simp only [String.append_assoc, String.toList_append] at chars
  have first := congrArg List.head? chars
  simp at first

/-- How a constant of an integer type is written: by its digits as they are, or around them, if it has 128 bits, by the
expression that its value takes. -/
structure WritesInteger (type : Scalar) (n : Int) (digits keyword initial : String) : Prop where
  narrow : type.bitWidth? ≠ some 128 → keyword = "const" ∧ initial = digits
  wide : type.bitWidth? = some 128 → keyword = "var" ∧
    (initial = newInt digits ↔ -2 ^ 63 ≤ n ∧ n ≤ 2 ^ 63 - 1) ∧
    (initial = setString digits ↔ ¬ (-2 ^ 63 ≤ n ∧ n ≤ 2 ^ 63 - 1))

theorem bigInteger_eq (n : Int) :
    bigInteger n =
      if -2 ^ 63 ≤ n ∧ n ≤ 2 ^ 63 - 1 then newInt (toString n) else setString (toString n) := by
  have bounds : (-(Nat.pow 2 63 : Int) ≤ n ∧ n < (Nat.pow 2 63 : Int)) ↔ -2 ^ 63 ≤ n ∧ n ≤ 2 ^ 63 - 1 := by
    show -(9223372036854775808 : Int) ≤ n ∧ n < 9223372036854775808 ↔ _
    omega
  unfold bigInteger
  simp only [bounds]
  rfl

theorem initializer_datum (integer : type.isInteger = true) (holds : type.Holds n) :
    initializer ⟨type, type.datum n⟩ =
      if type.bitWidth? = some 128 then ("var", bigInteger n) else ("const", toString n) := by
  rcases holds.datum_cases with ⟨kind, datum⟩ | ⟨kind, m, rfl, datum⟩
  · have wide : type.bitWidth? = some 128 ↔ type = .i128 := by
      cases type <;> first | exact absurd integer Bool.false_ne_true | exact absurd kind (by decide) | decide
    simp only [datum, initializer, wide]
  · have wide : type.bitWidth? = some 128 ↔ type = .u128 := by
      cases type <;> first | exact absurd integer Bool.false_ne_true | exact absurd kind (by decide) | decide
    simp only [datum, initializer, wide]
    rfl

theorem writesInteger_initializer (integer : type.isInteger = true) (holds : type.Holds n) :
    WritesInteger type n (toString n) (initializer ⟨type, type.datum n⟩).1 (initializer ⟨type, type.datum n⟩).2 := by
  rw [initializer_datum integer holds]
  refine ⟨?_, ?_⟩
  · intro narrow
    rw [if_neg narrow]
    exact ⟨rfl, rfl⟩
  · intro wide
    rw [if_pos wide, bigInteger_eq]
    refine ⟨rfl, ?_⟩
    split
    · next small => exact ⟨iff_of_true rfl small, iff_of_false (newInt_ne_setString _ _) (not_not.2 small)⟩
    · next large => exact ⟨iff_of_false (newInt_ne_setString _ _).symm large, iff_of_true rfl large⟩

end Go

end

/-- A token that is folded reaches the source of both targets as the canonical digits of its integer. In Go a constant
of 128 bits is made of a number exactly if it fits 64 bits, and otherwise read off its digits. -/
theorem integer_constant_texts {type : Scalar} (integer : type.isInteger = true) {token : String}
    {value : ConstantValue} (folded : fold type (.int token) = .ok value) :
    ∃ (n : Int) (digits keyword initial : String),
      Denotes token.toList n ∧ IsCanonical digits.toList n ∧ Go.WritesInteger type n digits keyword initial ∧
      ∀ (cx : RenderContext) (name identifier : String) (comment : Option String),
        (Rust.constantOutput cx ⟨name, value, comment⟩ identifier).source =
          Layout.text Rust.indentation [.comment "///" comment] ++
            Rust.constantLine identifier (Rust.scalarText type) digits ++ "\n" ∧
        (Go.constantOutput cx ⟨name, value, comment⟩ identifier).source =
          Layout.text Go.indentation [.comment "//" comment] ++
            Go.constantLine identifier keyword (Go.scalarText type) initial ++ "\n" := by
  obtain ⟨n, denoted, holds, rfl⟩ := (fold_integer_eq_ok_iff integer).1 folded
  refine ⟨n, toString n, _, _, denoted, isCanonical_toString n, Go.writesInteger_initializer integer holds, ?_⟩
  intro cx name identifier comment
  refine ⟨?_, Go.constantOutput_source cx ⟨name, ⟨type, type.datum n⟩, comment⟩ identifier⟩
  rw [Rust.constantOutput_source]
  show _ ++ Rust.constantLine identifier (Rust.constantTypeText type) (Rust.initializer ⟨type, type.datum n⟩) ++ _ = _
  rw [Rust.constantTypeText_integer integer, Rust.initializer_datum holds]

/-- The first integer below those of 64 bits is read off its digits, without the zeros of its token. -/
theorem below_64_bits_read_off_digits :
    Scalar.i128.isInteger = true ∧
      fold .i128 (.int "-009223372036854775809") = .ok ⟨.i128, .signed (-9223372036854775809)⟩ ∧
      ∀ cx : RenderContext,
        (Go.constantOutput cx ⟨"LIMIT", ⟨.i128, .signed (-9223372036854775809)⟩, none⟩ "Limit").source =
          "var Limit *big.Int = func() *big.Int \x7b v, _ := new(big.Int).SetString(\"-9223372036854775809\", 10); " ++
            "return v \x7d()\n" := by
  have folded : fold .i128 (.int "-009223372036854775809") = .ok ⟨.i128, .signed (-9223372036854775809)⟩ := rfl
  refine ⟨rfl, folded, fun cx => ?_⟩
  obtain ⟨n, digits, keyword, initial, denoted, canonical, writes, sources⟩ := integer_constant_texts rfl folded
  have value : n = -9223372036854775809 := denoted.unique (denotes_iff.2 (by decide +kernel))
  have text : digits = toString n := String.toList_injective (isCanonical_iff.1 canonical)
  obtain ⟨declared, -, large⟩ := writes.wide rfl
  subst value
  rw [(sources cx "LIMIT" "Limit" none).2, declared, large.2 (by decide), text]
  decide +kernel

/-! ## Texts -/

namespace Go

/-- A text constant is written as a literal of its text. The literal holds no control, it ends where its text does,
whatever stands behind it, and different texts have different literals; with the name of the constant it stands in one
line. -/
theorem text_constant_lossless :
    (∀ text : String,
      Text.IsLiteral (Text.quoteControls text) text ∧
      (∀ c ∈ (Text.quoteControls text).toList, ¬ Text.IsControl c) ∧
      ∀ rest, Text.readLiteral ((Text.quoteControls text).toList ++ rest) = some (text, rest)) ∧
    Function.Injective Text.quoteControls ∧
    ∀ (cx : RenderContext) (name text : String) (comment : Option String), isIdentifier name = true →
      let identifier := conventions.constantName name
      let line := constantLine identifier "const" "string" (Text.quoteControls text)
      OneLine line ∧
        (constantOutput cx ⟨name, ⟨.string, .string text⟩, comment⟩ identifier).source =
          Layout.text indentation [.comment "//" comment] ++ line ++ "\n" := by
  refine ⟨fun text => ?_, Text.quoteControls_injective, fun cx name text comment identifier => ?_⟩
  · have isLiteral := Text.isLiteral_quoteControls text
    exact ⟨isLiteral, isLiteral.shown, Text.readLiteral_append_iff.1 isLiteral⟩
  · have named : OneLine (conventions.constantName name) := (isName_upperCamel identifier).oneLine
    refine ⟨?_, constantOutput_source cx ⟨name, ⟨.string, .string text⟩, comment⟩ _⟩
    simp +decide [constantLine, named, oneLine_quoteControls text]

/-- A quote, a backslash and a control in front of a digit are read back, and the constant stands in one line. -/
theorem escapes_read_back :
    isIdentifier "GREETING" = true ∧
      Text.readLiteral (Text.quoteControls "\"\\n\x1b1\n").toList = some ("\"\\n\x1b1\n", []) ∧
      OneLine (constantLine "Greeting" "const" "string" (Text.quoteControls "\"\\n\x1b1\n")) := by
  obtain ⟨literals, -, lines⟩ := text_constant_lossless
  have identifier : isIdentifier "GREETING" = true := by decide +kernel
  have read := (literals "\"\\n\x1b1\n").2.2 []
  have spelled : conventions.constantName "GREETING" = "Greeting" := by decide +kernel
  have line := (lines ⟨{}, ⟨[], []⟩, []⟩ "GREETING" "\"\\n\x1b1\n" none identifier).1
  rw [List.append_nil] at read
  rw [spelled] at line
  exact ⟨identifier, read, line⟩

end Go

end SchemaBindings
