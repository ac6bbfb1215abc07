import SchemaBindings.Proofs.GoOutputs
import SchemaBindings.Proofs.QuotedTexts
import SchemaBindings.Proofs.ReferredNames

/-!
# Texts in Go declarations

What a run writes in a declaration stands in one line: types, the names of fields and handlers, and the values of
constants. A text that a schema can choose freely is quoted (`oneLine_quoteControls`); everything else is made of
identifiers and numbers.
-/

namespace SchemaBindings

theorem oneLine_of_isIdentifier {text : String} (identifier : isIdentifier text) : OneLine text :=
  oneLine_of_isIdentifierChar fun _ => Text.isIdentifierChar_of_mem identifier

/-! ## Numbers -/

theorem newline_not_mem_toDigits (n : Nat) : '\n' ∉ Nat.toDigits 10 n :=
  fun newline => absurd (Nat.isDigit_of_mem_toDigits (by decide) (by decide) newline) (by decide)

theorem oneLine_toString_int (n : Int) : OneLine (toString n) := by
  cases n with
  | ofNat n => exact oneLine_toString n
  | negSucc n =>
    show OneLine ("-" ++ toString (n + 1))
    exact oneLine_append.2 ⟨by decide, oneLine_toString (n + 1)⟩

theorem newline_not_mem_dropTrailingZeros {digits : List Char} (plain : '\n' ∉ digits) :
    '\n' ∉ dropTrailingZeros digits := by
  unfold dropTrailingZeros
  intro newline
  have kept := (List.dropWhile_sublist _).subset (List.mem_reverse.1 newline)
  exact plain (List.mem_reverse.1 kept)

namespace Decimal

variable {d : Decimal}

theorem newline_not_mem_positional (plain : '\n' ∉ d.digits) (keepsPoint : Bool) :
    '\n' ∉ d.positional keepsPoint := by
  have taken : ∀ n, '\n' ∉ d.digits.take n := fun n member => plain (List.mem_of_mem_take member)
  have dropped : ∀ n, '\n' ∉ d.digits.drop n := fun n member => plain (List.mem_of_mem_drop member)
  unfold positional
  split
  · simp [plain]
  · dsimp only
    split
    · cases keepsPoint <;> simp [taken]
    · simp [taken, dropped]

theorem newline_not_mem_scientific (plain : '\n' ∉ d.digits) (layout : DecimalLayout) :
    '\n' ∉ d.scientific layout := by
  have exponent := newline_not_mem_toDigits d.leading.natAbs
  have sign : '\n' ∉ (if d.leading < 0 then ['-'] else if layout.signsExponent then ['+'] else []) := by
    split
    · decide
    · split <;> decide
  unfold scientific
  rw [List.mem_append, not_or, List.mem_cons, not_or]
  refine ⟨?_, by decide, ?_⟩
  · split
    · next first second rest digits =>
      rw [digits] at plain
      simpa using plain
    · exact plain
  · simp [sign, exponent]

theorem newline_not_mem_write (plain : '\n' ∉ d.digits) (layout : DecimalLayout) : '\n' ∉ d.write layout := by
  unfold write
  dsimp only
  split
  · exact newline_not_mem_scientific plain layout
  · exact newline_not_mem_positional plain _

end Decimal

theorem Binary.oneLine_write {f : BinaryFormat} (layout : DecimalLayout) (x : Binary f) :
    OneLine (x.write layout) := by
  have digits : '\n' ∉ (shortest f layout.tie x.magnitude).digits :=
    newline_not_mem_dropTrailingZeros (newline_not_mem_toDigits _)
  unfold Binary.write OneLine
  split
  · decide
  · dsimp only
    rw [String.toList_ofList, List.mem_append, not_or]
    refine ⟨?_, ?_⟩
    · split <;> decide
    split
    · decide
    split
    · split <;> decide
    · exact Decimal.newline_not_mem_write digits layout

/-! ## Quoted texts -/

theorem oneLine_quoteControls (text : String) : OneLine (Text.quoteControls text) :=
  fun newline => (Text.isLiteral_quoteControls text).shown _ newline (by decide)

namespace Go

/-! ## Values of constants -/

theorem oneLine_bigInteger (n : Int) : OneLine (bigInteger n) := by
  unfold bigInteger
  split
  · exact oneLine_append.2 ⟨oneLine_append.2 ⟨by decide, oneLine_toString_int n⟩, by decide⟩
  · exact oneLine_append.2 ⟨oneLine_append.2 ⟨by decide, oneLine_toString_int n⟩, by decide⟩

/-- The value of a constant stands in one line. -/
theorem oneLine_initializer (value : ConstantValue) : OneLine (initializer value).2 := by
  unfold initializer
  cases value.datum with
  | bool b =>
    have finite : ∀ b : Bool, OneLine (toString b) := by decide
    exact finite b
  | unsigned n =>
    dsimp only
    split
    · dsimp only
      exact oneLine_bigInteger _
    · exact oneLine_toString n
  | signed n =>
    dsimp only
    split
    · exact oneLine_bigInteger n
    · exact oneLine_toString_int n
  | float x => exact x.oneLine_write .constant
  | string s => exact oneLine_quoteControls s
  | bytes bs =>
    refine oneLine_append.2 ⟨oneLine_append.2 ⟨by decide, ?_⟩, by decide⟩
    exact oneLine_intercalate (by decide) (List.forall_mem_map.2 fun b _ => oneLine_toString b.toNat)

/-! ## Types -/

theorem typeTexts_eq_map (cx : RenderContext) (ts : List TypeRef) :
    typeTexts cx ts = ts.map (typeText cx) := by
  induction ts with
  | nil => rfl
  | cons t ts ih => rw [typeTexts, ih, List.map_cons]

/-- The names in a type stand in one line, apart from those in its parts. -/
def Spelled (cx : RenderContext) : TypeRef → Prop
  | .named p _ => OneLine (qualifier cx p.module) ∧ OneLine (cx.identifierOf p)
  | .param g => OneLine g
  | _ => True

theorem oneLine_packageName {config : Config} {m : ModulePath} (package : isIdentifier config.package)
    (segments : ∀ segment ∈ m, isIdentifier segment) : OneLine (packageName m config) := by
  unfold packageName
  split
  · next segment last =>
    have identifier := segments segment (List.mem_of_getLast? last)
    exact oneLine_of_isIdentifierChar (moduleName_isIdentifierChar identifier)
  · exact oneLine_of_isIdentifier package

theorem oneLine_qualifier {cx : RenderContext} {m : ModulePath} (package : isIdentifier cx.config.package)
    (segments : ∀ segment ∈ m, isIdentifier segment) : OneLine (qualifier cx m) := by
  unfold qualifier
  split
  · decide
  · exact oneLine_append.2 ⟨oneLine_packageName package segments, by decide⟩

/-- A type stands in one line if the names in it do. -/
theorem oneLine_typeText {cx : RenderContext} (package : isIdentifier cx.config.package) {t : TypeRef}
    (spelled : ∀ u ∈ t.walk, Spelled cx u) : OneLine (typeText cx t) := by
  induction t using SchemaType.children_induction with
  | step t ih =>
    have parts : ∀ u ∈ t.children, OneLine (typeText cx u) := fun u child =>
      ih u child fun v inside => spelled v (SchemaType.mem_walk_iff.2 (.inr ⟨u, child, inside⟩))
    have arguments : ∀ ts : List TypeRef, (∀ u ∈ ts, OneLine (typeText cx u)) →
        OneLine (typeArguments (typeTexts cx ts)) := by
      intro ts each
      rw [typeTexts_eq_map]
      exact oneLine_typeArguments (List.forall_mem_map.2 each)
    have this := spelled t (SchemaType.mem_walk_iff.2 (.inl rfl))
    cases t with
    | scalar s => exact oneLine_scalarText s
    | tuple elements =>
      have module : OneLine (qualifier cx tuplesModule) := oneLine_qualifier package (by decide +kernel)
      have count : OneLine elements.length.repr := oneLine_toString _
      simp +decide [typeText, tupleName, module, count, arguments elements parts]
    | list item => simp +decide [typeText, parts item (by simp [SchemaType.children])]
    | array item length =>
      have count : OneLine length.repr := oneLine_toString _
      simp +decide [typeText, count, parts item (by simp [SchemaType.children])]
    | option item => simp +decide [typeText, parts item (by simp [SchemaType.children])]
    | map key value =>
      simp +decide [typeText, parts key (by simp [SchemaType.children]),
        parts value (by simp [SchemaType.children])]
    | hashSet item => simp +decide [typeText, parts item (by simp [SchemaType.children])]
    | named p ts => simp +decide [typeText, this.1, this.2, arguments ts parts]
    | param g => exact this

/-! ## Names -/

theorem isName_upperCamel {name : String} (identifier : isIdentifier name) : IsName (Text.upperCamel name) where
  inside := Text.upperCamel_isIdentifierChar identifier
  nonempty := by
    obtain ⟨c, rest, chars, -⟩ := Text.upperCamel_head identifier
    intro empty
    rw [empty] at chars
    exact absurd chars (by simp)

theorem oneLine_parameterName {name : String} (identifier : isIdentifier name) : OneLine (parameterName name) := by
  have inside : ∀ c ∈ (Text.lowerCamel name).toList, isIdentifierChar c = true := fun c member => by
    rw [isIdentifierChar, Text.lowerCamel_isAlphanum identifier c member, Bool.true_or]
  have plain := oneLine_of_isIdentifierChar inside
  unfold parameterName escape
  split
  · exact oneLine_append.2 ⟨plain, by decide⟩
  · exact plain

theorem renderField_fits {cx : RenderContext} {f : Field TypeRef} (identifier : isIdentifier f.name)
    (single : OneLine (typeText cx f.type)) : (renderField cx f).Fits where
  member := (isName_upperCamel identifier).oneLine
  parameter := oneLine_parameterName identifier
  type := single

theorem handlers_fit {u : Union TypeRef} {names : List String} (letters : ∀ g ∈ u.generics, OneLine g)
    (variants : ∀ v ∈ u.variants, isIdentifier v.name) (named : ∀ name ∈ names, IsName name) :
    ∀ h ∈ handlers u names, h.Fits := by
  refine List.forall_mem_map.2 fun pair among => ?_
  obtain ⟨variant, name⟩ := List.of_mem_zip among
  have used : ∀ g ∈ pair.1.usedGenerics u.generics, OneLine g :=
    fun g member => letters g (List.mem_filter.1 member).1
  exact
    { name := oneLine_append.2 ⟨by decide, (isName_upperCamel (variants _ variant)).oneLine⟩
      type := oneLine_append.2 ⟨(named _ name).oneLine, oneLine_typeArguments used⟩ }

/-! ## Tuple records -/

theorem isName_numbered {word : String} (named : IsName word) (n : Nat) : IsName (word ++ toString n) where
  inside := numbered_isIdentifierChar named.inside n
  nonempty := fun empty => named.nonempty (String.append_eq_empty_iff.1 empty).1

/-- The words in front of the numbers. -/
theorem isName_word : ∀ word ∈ ["Tuple", "T", "F"], IsName word := by
  have inside : ∀ word ∈ ["Tuple", "T", "F"], word.toList.all isIdentifierChar := by decide
  have filled : ∀ word ∈ ["Tuple", "T", "F"], word ≠ "" := by decide
  exact fun word among => ⟨List.all_eq_true.1 (inside word among), filled word among⟩

theorem isName_tupleName (arity : Nat) : IsName (tupleName arity) :=
  isName_numbered (isName_word _ (by decide)) arity

theorem IsName.toLower {name : String} (named : IsName name) : OneLine name.toLower := by
  refine oneLine_of_isIdentifierChar fun c member => ?_
  rw [toList_toLower] at member
  obtain ⟨d, inside, rfl⟩ := List.mem_map.1 member
  exact toLower_isIdentifierChar (named.inside d inside)

/-- A tuple record declares its type and its constructor. -/
theorem topLevelNames_tuple (arity : Nat) :
    topLevelNames (tupleOutput (.ofArity arity)).source = [tupleName arity, "New" ++ tupleName arity] := by
  have letters : ∀ p ∈ (TupleRecord.ofArity arity).parameters, IsName p :=
    List.forall_mem_map.2 fun i _ => isName_numbered (isName_word _ (by decide)) (i + 1)
  have members : ∀ f ∈ (TupleRecord.ofArity arity).fields, IsName f :=
    List.forall_mem_map.2 fun i _ => isName_numbered (isName_word _ (by decide)) (i + 1)
  exact topLevelNames_tupleOutput (isName_tupleName arity) (fun p among => (letters p among).oneLine)
    fun f among => ⟨(members f among).oneLine, (members f among).toLower⟩

end Go

end SchemaBindings
