import SchemaBindings.Proofs.GoExpressions
import SchemaBindings.Proofs.GoQualifiers

/-!
# Qualifiers of types and values

* A type expression has the qualifiers of its packages, if all names in it are identifiers
  (`TypeExpression.qualified_text`).
* The value of a constant has no qualifier but that of `math/big`, whatever it is: the words of numbers begin with
  digits, and texts are quoted (`mem_qualifiers_initializer`).
-/

namespace SchemaBindings.Go

/-! ## Numbers -/

theorem plain_toString (n : Nat) : Plain (toString n) := by
  refine plain_of_isIdentifierChar fun c member => ?_
  simp [isIdentifierChar, Char.isAlphanum, Text.isDigit_of_mem_toString member]

theorem plain_toString_int (n : Int) : Plain (toString n) := by
  cases n with
  | ofNat n => exact plain_toString n
  | negSucc n =>
    show Plain ("-" ++ toString (n + 1))
    exact plain_append.2 ⟨by decide, plain_toString (n + 1)⟩

section

variable {d : Decimal}

theorem isWordChar_of_isDigit {c : Char} (digit : c.isDigit = true) : isWordChar c = true := by
  simp [isWordChar, isIdentifierChar, Char.isAlphanum, digit]

/-- No name begins with a digit. -/
theorem beginsName_of_digits {digits rest : List Char} (each : ∀ c ∈ digits, c.isDigit = true)
    (other : beginsName rest = false) : beginsName (digits ++ rest) = false := by
  cases digits with
  | nil => exact other
  | cons d digits =>
    have digit := each d List.mem_cons_self
    have ascii := Text.toNat_lt_of_isAlphanum (by simp [Char.isAlphanum, digit] : d.isAlphanum = true)
    exact Text.of_ascii (P := fun d => d.isDigit = true → (d.isAlpha || d == '_') = false) (by decide +kernel) ascii
      digit

/-- A decimal without an exponent is one word. -/
theorem qualifiers_positional (digits : ∀ c ∈ d.digits, c.isDigit = true) (keepsPoint : Bool) :
    qualifiers (d.positional keepsPoint) = [] := by
  have zeros : ∀ n, ∀ c ∈ List.replicate n '0', c.isDigit = true := by
    intro n c member
    rw [List.eq_of_mem_replicate member]
    decide
  have word : ∀ {chars : List Char}, (∀ c ∈ chars, c.isDigit = true) → ∀ c ∈ chars, isWordChar c = true :=
    fun each c member => isWordChar_of_isDigit (each c member)
  unfold Decimal.positional
  split
  · refine qualifiers_of_beginsName (List.forall_mem_cons.2 ⟨by decide, List.forall_mem_cons.2 ⟨by decide, ?_⟩⟩) rfl
    exact List.forall_mem_append.2 ⟨word (zeros _), word digits⟩
  · have whole : ∀ c ∈ d.digits.take (d.leading.toNat + 1) ++
        List.replicate (d.leading.toNat + 1 - d.digits.length) '0', c.isDigit = true :=
      List.forall_mem_append.2 ⟨fun c member => digits c (List.mem_of_mem_take member), zeros _⟩
    dsimp only
    split
    · refine qualifiers_of_beginsName (List.forall_mem_append.2 ⟨word whole, ?_⟩) (beginsName_of_digits whole ?_)
      · cases keepsPoint <;> exact List.all_eq_true.1 rfl
      · cases keepsPoint <;> rfl
    · refine qualifiers_of_beginsName (List.forall_mem_append.2 ⟨word whole, List.forall_mem_cons.2 ⟨by decide, ?_⟩⟩)
        (beginsName_of_digits whole rfl)
      exact word fun c member => digits c (List.mem_of_mem_drop member)

/-- The digits in front of an exponent, with a point behind the first one if there are more. -/
def mantissa : List Char → List Char
  | first :: second :: rest => first :: '.' :: second :: rest
  | digits => digits

theorem scientific_eq (d : Decimal) (layout : DecimalLayout) :
    d.scientific layout = mantissa d.digits ++ 'e' ::
      ((if d.leading < 0 then ['-'] else if layout.signsExponent then ['+'] else []) ++
        (List.replicate (layout.exponentDigits - (Nat.toDigits 10 d.leading.natAbs).length) '0' ++
          Nat.toDigits 10 d.leading.natAbs)) := by
  rw [← List.append_assoc]
  rfl

/-- The point stands in the word that begins with the first digit. -/
theorem qualifiers_mantissa {digits exponent : List Char} (each : ∀ c ∈ digits, c.isDigit = true)
    (last : ∀ c ∈ exponent, c.isDigit = true) :
    '"' ∉ mantissa digits ++ 'e' :: exponent ∧ qualifiers (mantissa digits ++ 'e' :: exponent) = [] := by
  have word : ∀ {chars : List Char}, (∀ c ∈ chars, c.isDigit = true) → ∀ c ∈ chars, isWordChar c = true :=
    fun each c member => isWordChar_of_isDigit (each c member)
  have behind : ∀ c ∈ 'e' :: exponent, isWordChar c = true := List.forall_mem_cons.2 ⟨by decide, word last⟩
  unfold mantissa
  split
  · next first second rest =>
    obtain ⟨digit, others⟩ := List.forall_mem_cons.1 each
    have inside : ∀ c ∈ first :: '.' :: second :: rest ++ 'e' :: exponent, isWordChar c = true := by
      refine List.forall_mem_append.2 ⟨?_, behind⟩
      exact List.forall_mem_cons.2 ⟨isWordChar_of_isDigit digit, List.forall_mem_cons.2 ⟨by decide, word others⟩⟩
    have begins : beginsName ([first] ++ ('.' :: second :: rest ++ 'e' :: exponent)) = false :=
      beginsName_of_digits (by simpa using digit) rfl
    exact ⟨fun quote => absurd (inside _ quote) (by decide), qualifiers_of_beginsName inside begins⟩
  · have inside : ∀ c ∈ digits ++ 'e' :: exponent, c.isDigit = true ∨ c = 'e' :=
      List.forall_mem_append.2 ⟨fun c member => .inl (each c member),
        List.forall_mem_cons.2 ⟨.inr rfl, fun c member => .inl (last c member)⟩⟩
    exact ⟨fun quote => absurd (inside _ quote) (by decide),
      qualifiers_eq_nil fun point => absurd (inside _ point) (by decide)⟩

theorem qualifiers_scientific (digits : ∀ c ∈ d.digits, c.isDigit = true) (layout : DecimalLayout) :
    qualifiers (d.scientific layout) = [] := by
  have exponent : ∀ c ∈ List.replicate (layout.exponentDigits - (Nat.toDigits 10 d.leading.natAbs).length) '0' ++
      Nat.toDigits 10 d.leading.natAbs, c.isDigit = true := by
    refine List.forall_mem_append.2 ⟨fun c member => ?_, fun c => Nat.isDigit_of_mem_toDigits (by decide) (by decide)⟩
    rw [List.eq_of_mem_replicate member]
    decide
  obtain ⟨unquoted, alone⟩ := qualifiers_mantissa digits (List.forall_mem_nil _)
  have signed : ∀ sign : Char, isWordChar sign = false → sign ≠ '"' → ∀ rest : List Char,
      (∀ c ∈ rest, c.isDigit = true) → qualifiers (mantissa d.digits ++ 'e' :: ([sign] ++ rest)) = [] := by
    intro sign between other rest last
    have pointless : '.' ∉ rest := fun point => absurd (last _ point) (by decide)
    have split : mantissa d.digits ++ 'e' :: ([sign] ++ rest) = (mantissa d.digits ++ ['e']) ++ sign :: rest := by simp
    rw [split, qualifiers_append unquoted between other, alone, qualifiers_eq_nil pointless, List.append_nil]
  rw [scientific_eq]
  split
  · exact signed '-' (by decide) (by decide) _ exponent
  · split
    · exact signed '+' (by decide) (by decide) _ exponent
    · exact (qualifiers_mantissa digits exponent).2

theorem qualifiers_decimal (digits : ∀ c ∈ d.digits, c.isDigit = true) (layout : DecimalLayout) :
    qualifiers (d.write layout) = [] := by
  unfold Decimal.write
  dsimp only
  split
  · exact qualifiers_scientific digits layout
  · exact qualifiers_positional digits layout.keepsPoint

/-- No number has a qualifier. -/
theorem qualifiers_write {f : BinaryFormat} (layout : DecimalLayout) (x : Binary f) :
    qualifiers (x.write layout).toList = [] := by
  have digits : ∀ c ∈ (shortest f layout.tie x.magnitude).digits, c.isDigit = true := by
    intro c member
    have kept := (List.dropWhile_sublist _).subset (List.mem_reverse.1 member)
    exact Nat.isDigit_of_mem_toDigits (by decide) (by decide) (List.mem_reverse.1 kept)
  have signed : ∀ body, qualifiers body = [] → qualifiers ((if x.negative then ['-'] else []) ++ body) = [] := by
    intro body none
    split
    · exact (qualifiers_cons (by decide) (by decide) body).trans none
    · exact none
  unfold Binary.write
  split
  · decide +kernel
  · dsimp only
    rw [String.toList_ofList]
    refine signed _ ?_
    split
    · decide +kernel
    split
    · split <;> decide +kernel
    · exact qualifiers_decimal digits layout

end

/-! ## Type expressions -/

theorem plain_of_isIdentifier {name : String} (identifier : isIdentifier name) : Plain name :=
  plain_of_isIdentifierChar fun _ => Text.isIdentifierChar_of_mem identifier

namespace TypeExpression

variable {config : Config}

mutual

/-- The names in an expression are identifiers. -/
def Worded (config : Config) : TypeExpression → Prop
  | named package? name arguments =>
    (∀ p ∈ package?, isIdentifier (p.qualifier config)) ∧ isIdentifier name ∧ WordedAll config arguments
  | pointer item | slice item | array _ item => item.Worded config
  | map key value => key.Worded config ∧ value.Worded config
  | emptyStruct => True

def WordedAll (config : Config) : List TypeExpression → Prop
  | [] => True
  | e :: es => e.Worded config ∧ WordedAll config es

end

theorem texts_eq_map (es : List TypeExpression) : texts config es = es.map (text config) := by
  induction es with
  | nil => rfl
  | cons e es ih => rw [texts, ih, List.map_cons]

theorem packagesAll_eq_flatMap (es : List TypeExpression) : packagesAll es = es.flatMap packages := by
  induction es with
  | nil => rfl
  | cons e es ih => rw [packagesAll, ih, List.flatMap_cons]

/-- A name has the qualifier of its package. -/
theorem qualified_name {package? : Option Package} {name : String}
    (package : ∀ p ∈ package?, isIdentifier (p.qualifier config)) (identifier : isIdentifier name) :
    Qualified (qualification config package? ++ name) (package?.toList.map (·.qualifier config)) := by
  cases package? with
  | none =>
    rw [qualification, String.empty_append]
    exact (plain_of_isIdentifier identifier).qualified
  | some p => exact qualified_reference (package p rfl) identifier

def qualifiers (config : Config) (e : TypeExpression) : List String :=
  e.packages.map (·.qualifier config)

mutual

/-- An expression has the qualifiers of its packages. -/
theorem qualified_text : ∀ e : TypeExpression, e.Worded config → Qualified (e.text config) (e.qualifiers config)
  | named package? name arguments, ⟨package, identifier, worded⟩ => by
    have inside : Qualified (", ".intercalate (texts config arguments)) (arguments.flatMap (qualifiers config)) := by
      rw [texts_eq_map]
      exact qualified_intercalate (qualified_each arguments worded)
    rw [text, qualifiers, packages, packagesAll_eq_flatMap, List.map_append, List.map_flatMap]
    exact (qualified_name package identifier).arguments inside
  | pointer item, worded => (qualified_text item worded).open' (by decide)
  | slice item, worded => (qualified_text item worded).open' (by decide)
  | array length item, worded => by
    exact ((plain_toString length).qualified.open' (by decide)).append (by decide) (qualified_text item worded)
  | map key value, ⟨first, second⟩ => by
    have front : Qualified ("map" ++ "[" ++ key.text config) (key.qualifiers config) :=
      (by decide : Plain "map").qualified.append (by decide) (qualified_text key first)
    rw [text, qualifiers, packages, List.map_append]
    exact front.append (by decide) (qualified_text value second)
  | emptyStruct, _ => (by decide : Plain "struct\x7b\x7d").qualified

theorem qualified_each : ∀ es : List TypeExpression, WordedAll config es →
    ∀ e ∈ es, Qualified (e.text config) (e.qualifiers config)
  | [], _ => nofun
  | e :: es, ⟨first, others⟩ => List.forall_mem_cons.2 ⟨qualified_text e first, qualified_each es others⟩

end

end TypeExpression

/-! ## Values of constants -/

/-- An integer without a fixed width is made by functions of its package. -/
theorem qualifiers_bigInteger (n : Int) : ∀ q ∈ qualifiers (bigInteger n).toList, q = "big" := by
  unfold bigInteger
  split
  · have call : Qualified ("big.NewInt" ++ "(" ++ toString n) ["big"] :=
      (⟨by decide, by decide +kernel⟩ : Qualified "big.NewInt" ["big"]).append (by decide)
        (plain_toString_int n).qualified
    have closed := call.close (by decide : Separates ")")
    exact fun q member => List.mem_singleton.1 (closed.qualifiers_eq ▸ member)
  · have before : qualifiers "func() *big.Int \x7b v, _ := new(big.Int).SetString(".toList = ["big", "big"] := by
      decide +kernel
    have behind : '.' ∉ (toString n ++ "\", 10); return v \x7d()").toList := by
      rw [String.toList_append, List.mem_append, not_or]
      exact ⟨(plain_toString_int n).pointless, by decide⟩
    have opening : "func() *big.Int \x7b v, _ := new(big.Int).SetString(\"" =
        "func() *big.Int \x7b v, _ := new(big.Int).SetString(" ++ "\"" := by decide +kernel
    rw [opening, String.append_assoc, String.toList_append, String.toList_append, List.append_assoc]
    intro q member
    have member : q ∈ qualifiers (_ ++ '"' :: (toString n ++ "\", 10); return v \x7d()").toList) := member
    rw [qualifiers_opened (by decide) behind, before] at member
    simpa using member

/-- The value of a constant has no qualifier but that of integers without a fixed width. -/
theorem mem_qualifiers_initializer {value : ConstantValue} {q : String}
    (member : q ∈ qualifiers (initializer value).2.toList) :
    q = "big" ∧ (value.type = .u128 ∨ value.type = .i128) := by
  have none : ∀ {text : String}, q ∈ qualifiers text.toList → qualifiers text.toList = [] → False :=
    fun member empty => List.not_mem_nil (empty ▸ member)
  unfold initializer at member
  cases datum : value.datum with
  | bool b =>
    rw [datum] at member
    have plain : Plain (toString b) := by cases b <;> decide +kernel
    exact (none member plain.qualified.qualifiers_eq).elim
  | unsigned n =>
    rw [datum] at member
    dsimp only at member
    split at member
    · next wide =>
      dsimp only at member
      exact ⟨qualifiers_bigInteger _ q member, .inl wide⟩
    · exact (none member (plain_toString n).qualified.qualifiers_eq).elim
  | signed n =>
    rw [datum] at member
    dsimp only at member
    split at member
    · next wide => exact ⟨qualifiers_bigInteger n q member, .inr wide⟩
    · exact (none member (plain_toString_int n).qualified.qualifiers_eq).elim
  | float x =>
    rw [datum] at member
    exact (none member (qualifiers_write .constant x)).elim
  | string text =>
    rw [datum] at member
    obtain ⟨inside, chars, elements⟩ := Text.isLiteral_quoteControls text
    have literal : qualifiers (Text.quoteControls text).toList = [] := by
      rw [chars]
      exact qualifiers_literal List.not_mem_nil elements []
    exact (none member literal).elim
  | bytes bs =>
    rw [datum] at member
    have inside : Qualified (", ".intercalate (bs.map fun b => toString b.toNat)) (bs.flatMap fun _ => []) :=
      qualified_intercalate fun b _ => (plain_toString b.toNat).qualified
    have opened : Qualified ("[]byte" ++ "\x7b" ++ ", ".intercalate (bs.map fun b => toString b.toNat)) _ :=
      (by decide : Plain "[]byte").qualified.append (by decide) inside
    have closed := opened.close (by decide : Separates "\x7d")
    refine (none member (closed.qualifiers_eq.trans ?_)).elim
    simp

end SchemaBindings.Go
