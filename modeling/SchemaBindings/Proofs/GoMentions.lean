import SchemaBindings.Proofs.GoFiles
import SchemaBindings.Proofs.QualifiedExpressions

/-!
# What Go outputs mention

The qualifiers in the source of an output are those of the types that it emits, if the names of its declaration are
identifiers (`WellNamed`) and those in its types are too (`WellWorded`).

* A record has the qualifiers of its fields, in its type and in its constructor (`qualifiers_recordLayout`).
* The contract of a union has none. The point in its match function stands in front of a type (`mentions_contract`).
* An alias and a constant have those of their type, and the value of a constant adds none (`mentions_aliasOutput`,
  `mentions_constantOutput`).
* A tuple record has none (`sourceQualifiers_tupleOutput`).
-/

namespace SchemaBindings.Go

/-! ## Records -/

/-- The names of a field have no points or quotes, and its type has no quotes. -/
structure RenderedField.Readable (f : RenderedField) : Prop where
  member : IsName f.member
  parameter : Plain f.parameter
  type : '"' ∉ f.type.toList

theorem IsName.plain {name : String} (named : IsName name) : Plain name :=
  plain_of_isIdentifierChar named.inside

theorem plain_bracketed {opening closing : String} (first : Plain opening) (last : Plain closing) {names : List String}
    (each : ∀ name ∈ names, Plain name) : Plain (bracketed opening closing names) := by
  unfold bracketed
  split
  · decide
  · simp [first, last, plain_intercalate (by decide : Plain ", ") each]

theorem plain_typeParameters {generics : List String} (letters : ∀ g ∈ generics, Plain g) :
    Plain (typeParameters generics) := by
  refine plain_bracketed (by decide) (by decide) (List.forall_mem_map.2 fun g member => ?_)
  exact plain_append.2 ⟨letters g member, by decide⟩

theorem plain_typeArguments {arguments : List String} (each : ∀ a ∈ arguments, Plain a) :
    Plain (typeArguments arguments) :=
  plain_bracketed (by decide) (by decide) each

theorem plain_parameterName {name : String} (identifier : isIdentifier name) : Plain (parameterName name) := by
  have plain : Plain (Text.lowerCamel name) := by
    refine plain_of_isIdentifierChar fun c member => ?_
    rw [isIdentifierChar, Text.lowerCamel_isAlphanum identifier c member, Bool.true_or]
  unfold parameterName escape
  split
  · exact plain_append.2 ⟨plain, by decide⟩
  · exact plain

theorem plain_padTo (width : Nat) {text : String} (plain : Plain text) : Plain (padTo width text) := by
  refine plain_append.2 ⟨plain, fun c member => ?_⟩
  rw [String.toList_ofList] at member
  rw [List.eq_of_mem_replicate member]
  decide

/-- A name stands first in a line that begins with it. -/
theorem IsName.head {name : String} (named : IsName name) (rest : String) :
    (name ++ rest).toList.head?.any isIdentifierChar := by
  cases chars : name.toList with
  | nil => exact absurd (String.toList_injective chars) named.nonempty
  | cons c tail =>
    rw [String.toList_append, chars, List.cons_append, List.head?_cons, Option.any_some]
    exact named.inside c (chars ▸ List.mem_cons_self)

section

variable {identifier : String} {generics : List String} {fields : List RenderedField}

theorem RenderedField.Readable.qualified {f : RenderedField} (readable : f.Readable) :
    Qualified f.type (qualifiers f.type.toList) :=
  ⟨readable.type, rfl⟩

/-- The line of a field. -/
theorem lineQualifiers_member {f : RenderedField} (readable : f.Readable) (width : Nat) :
    lineQualifiers (padTo width f.member ++ " " ++ f.type) = qualifiers f.type.toList := by
  have padded := plain_padTo width readable.member.plain
  have line := padded.qualified.append (by decide : Separates " ") readable.qualified
  rw [lineQualifiers_of_head, line.qualifiers_eq, List.nil_append]
  rw [padTo, String.append_assoc, String.append_assoc]
  exact readable.member.head _

/-- The first line of a constructor. -/
theorem lineQualifiers_constructor (named : IsName identifier) (letters : ∀ g ∈ generics, Plain g)
    (readable : ∀ f ∈ fields, f.Readable) :
    lineQualifiers ("func New" ++ identifier ++ typeParameters generics ++ "(" ++
      ", ".intercalate (fields.map fun f => f.parameter ++ " " ++ f.type) ++ ") " ++
        (identifier ++ typeArguments generics) ++ " \x7b") = fields.flatMap fun f => qualifiers f.type.toList := by
  have front : Plain ("func New" ++ identifier ++ typeParameters generics) := by
    simp +decide [named.plain, plain_typeParameters letters]
  have this : Plain (identifier ++ typeArguments generics) := by
    simp [named.plain, plain_typeArguments letters]
  have parameters : Qualified (", ".intercalate (fields.map fun f => f.parameter ++ " " ++ f.type))
      (fields.flatMap fun f => qualifiers f.type.toList) :=
    qualified_intercalate fun f member =>
      (readable f member).parameter.qualified.append (by decide) (readable f member).qualified
  have line := ((front.qualified.append (by decide : Separates "(") parameters).append (by decide : Separates ") ")
    this.qualified).close (by decide : Separates " \x7b")
  rw [lineQualifiers_of_head, line.qualifiers_eq, List.nil_append, List.append_nil]
  simp +decide [String.toList_append]

/-- A record has the qualifiers of its fields in its type, and once more in its constructor. -/
theorem qualifiers_recordLayout (named : IsName identifier) (letters : ∀ g ∈ generics, Plain g)
    (readable : ∀ f ∈ fields, f.Readable) (comment : Option String) :
    (recordLayout identifier generics fields comment).flatMap pieceQualifiers =
      (fields.flatMap fun f => qualifiers f.type.toList) ++ fields.flatMap fun f => qualifiers f.type.toList := by
  have head : Plain ("type " ++ identifier ++ typeParameters generics ++ " struct") := by
    simp +decide [named.plain, plain_typeParameters letters]
  have this : Plain ("return " ++ (identifier ++ typeArguments generics)) := by
    simp +decide [named.plain, plain_typeArguments letters]
  have opened : ∀ {text last : String}, Plain text → Plain last → lineQualifiers (text ++ last) = [] :=
    fun front behind => lineQualifiers_eq_nil (plain_append.2 ⟨front, behind⟩).pointless
  unfold recordLayout
  simp only [List.flatMap_cons, List.flatMap_nil, pieceQualifiers_comment, pieceQualifiers_blank, pieceQualifiers_braced,
    lineQualifiers_constructor named letters readable, List.nil_append, List.append_nil]
  cases fields with
  | nil =>
    show pieceQualifiers (.line _) ++ pieceQualifiers (.line _) = []
    rw [pieceQualifiers_line, pieceQualifiers_line, opened head (by decide), opened this (by decide)]
    rfl
  | cons first others =>
    have members : ∀ width : Nat, ((first :: others).flatMap fun f =>
        [Layout.comment "//" f.comment, .line (padTo width f.member ++ " " ++ f.type)]).flatMap pieceQualifiers =
          (first :: others).flatMap fun f => qualifiers f.type.toList := by
      intro width
      rw [List.flatMap_assoc]
      refine List.flatMap_congr fun f member => ?_
      rw [List.flatMap_cons, pieceQualifiers_comment, List.flatMap_singleton, pieceQualifiers_line]
      exact lineQualifiers_member (readable f member) width
    have assignments : ((first :: others).map fun f => Layout.line (f.member ++ ": " ++ f.parameter ++ ",")).flatMap
        pieceQualifiers = [] := by
      rw [List.flatMap_map]
      refine List.flatMap_eq_nil_iff.2 fun f member => ?_
      rw [pieceQualifiers_line]
      refine lineQualifiers_eq_nil (Plain.pointless ?_)
      simp +decide [(readable f member).member.plain, (readable f member).parameter]
    have closing : lineQualifiers "\x7d" = [] := by decide
    rw [if_neg (by simp), if_neg (by simp), pieceQualifiers_braced, pieceQualifiers_block, members, assignments,
      opened head (by decide), opened this (by decide), closing, List.nil_append, List.append_nil, List.append_nil,
      List.append_nil]

end

/-! ## Unions -/

section

variable {u : Union TypeRef} {names : DeclarationNames}

/-- The body of a match function has no qualifiers. Its point stands in front of a type that is no name. -/
theorem qualifiers_matchBody {identifier : String} {hs : List Handler} (named : Pointless identifier)
    (fit : ∀ h ∈ hs, Plain h.name ∧ Plain h.type) :
    (if hs.isEmpty then
        [.line "_ = value", .line ("panic(\"unreachable: " ++ identifier ++ " has no variants\")")]
      else
        .line "switch v := value.(type) \x7b" ::
          (hs.flatMap fun h => [.line ("case " ++ h.type ++ ":"), .indent [.line ("return " ++ h.name ++ "(v)")]]) ++
          [.line "\x7d", .line ("panic(\"unreachable: " ++ identifier ++ " is sealed\")")]).flatMap pieceQualifiers =
      [] := by
  have switch : lineQualifiers "switch v := value.(type) \x7b" = [] := by decide +kernel
  have cases : (hs.flatMap fun h =>
      [Layout.line ("case " ++ h.type ++ ":"), .indent [.line ("return " ++ h.name ++ "(v)")]]).flatMap
        pieceQualifiers = [] := by
    rw [List.flatMap_assoc]
    refine List.flatMap_eq_nil_iff.2 fun h among => ?_
    have type : Pointless ("case " ++ h.type ++ ":") := by simp +decide [(fit h among).2.pointless]
    have name : Pointless ("return " ++ h.name ++ "(v)") := by simp +decide [(fit h among).1.pointless]
    simp only [List.flatMap_cons, List.flatMap_nil, pieceQualifiers_line, pieceQualifiers_indent,
      lineQualifiers_eq_nil type, lineQualifiers_eq_nil name, List.append_nil]
  have empty : Pointless ("panic(\"unreachable: " ++ identifier ++ " has no variants\")") := by simp +decide [named]
  have sealed : Pointless ("panic(\"unreachable: " ++ identifier ++ " is sealed\")") := by simp +decide [named]
  have first : lineQualifiers "_ = value" = [] := by decide
  have closing : lineQualifiers "\x7d" = [] := by decide
  split
  · rw [List.flatMap_cons, List.flatMap_singleton, pieceQualifiers_line, pieceQualifiers_line, first,
      lineQualifiers_eq_nil empty]
    rfl
  · rw [List.cons_append, List.flatMap_cons, List.flatMap_append, cases, pieceQualifiers_line, switch,
      List.flatMap_cons, List.flatMap_singleton, pieceQualifiers_line, pieceQualifiers_line, closing,
      lineQualifiers_eq_nil sealed]
    rfl

/-- The interface of a union and its match function have no qualifiers. -/
theorem qualifiers_contractLayout (named : IsName names.identifier) (letters : ∀ g ∈ u.generics, Plain g)
    (fit : ∀ h ∈ handlers u names.variants, Plain h.name ∧ Plain h.type) :
    (contractLayout u names).flatMap pieceQualifiers = [] := by
  have name := named.plain.pointless
  have arguments := plain_typeArguments letters
  have parameters := (plain_typeParameters letters).pointless
  have result : Plain (resultParameter u.generics) := by
    have known : ∀ name ∈ ["R", "Result", "Out", "MatchResult"], Plain name := by decide
    exact known _ (resultParameter_mem u.generics)
  have parameters' : Pointless (typeParameters (u.generics ++ [resultParameter u.generics])) := by
    refine (plain_typeParameters (List.forall_mem_append.2 ⟨letters, ?_⟩)).pointless
    exact List.forall_mem_singleton.2 result
  have values : Pointless (", ".intercalate (("value " ++ names.identifier ++ typeArguments u.generics) ::
      (handlers u names.variants).map fun h =>
        h.name ++ " func(" ++ h.type ++ ") " ++ resultParameter u.generics)) := by
    refine (plain_intercalate (by decide) (List.forall_mem_cons.2 ⟨?_, ?_⟩)).pointless
    · simp +decide [named.plain, arguments]
    · refine List.forall_mem_map.2 fun h among => ?_
      simp +decide [fit h among, result]
  have sealed : lineQualifiers ("// " ++ names.identifier ++
      " is sealed: its variants are the types declared with it.") = [] := by
    rw [String.append_assoc]
    exact lineQualifiers_remark (by decide) _
  have calls : lineQualifiers ("// Match" ++ names.identifier ++
      " calls the handler of the variant held by value.") = [] := by
    rw [String.append_assoc]
    exact lineQualifiers_remark (by decide) _
  have interface : Pointless ("type " ++ names.identifier ++ typeParameters u.generics ++ " interface" ++ " \x7b") := by
    simp +decide [name, parameters]
  have marker : Pointless (markerName names.identifier ++ "()") := by
    simp +decide [markerName, name]
  have function : Pointless ("func Match" ++ names.identifier ++
      typeParameters (u.generics ++ [resultParameter u.generics]) ++ "(" ++
        ", ".intercalate (("value " ++ names.identifier ++ typeArguments u.generics) ::
          (handlers u names.variants).map fun h =>
            h.name ++ " func(" ++ h.type ++ ") " ++ resultParameter u.generics) ++ ") " ++
              resultParameter u.generics ++ " \x7b") := by
    simp +decide only [pointless_append, name, parameters', values, result.pointless, and_self]
  unfold contractLayout
  simp only [List.flatMap_cons, List.flatMap_nil, pieceQualifiers_comment, pieceQualifiers_blank, pieceQualifiers_line,
    pieceQualifiers_braced, sealed, calls, lineQualifiers_eq_nil interface, lineQualifiers_eq_nil marker,
    lineQualifiers_eq_nil function, qualifiers_matchBody name fit, List.append_nil]

end

/-! ## Outputs -/

/-- The text of a type is one line, and the names in it are identifiers. -/
structure WellWorded (cx : RenderContext) (t : TypeRef) : Prop where
  line : OneLine (typeText cx t)
  worded : (TypeExpression.ofType cx t).Worded cx.config

/-- The qualifiers of the source are those of the packages that the types mention. -/
def MentionsExactly (cx : RenderContext) (o : Output) (ts : List TypeRef) : Prop :=
  ∀ q, q ∈ sourceQualifiers o.source ↔ ∃ p, (∃ t ∈ ts, Mentioned cx.module t p) ∧ p.qualifier cx.config = q

section

variable {cx : RenderContext} {d : SchemaDeclaration} {own : DeclarationNames}

theorem qualified_typeText {t : TypeRef} (worded : (TypeExpression.ofType cx t).Worded cx.config) :
    Qualified (typeText cx t) ((TypeExpression.ofType cx t).qualifiers cx.config) := by
  rw [← TypeExpression.text_ofType]
  exact TypeExpression.qualified_text _ worded

/-- The text of a type has the qualifiers of the packages that it mentions. -/
theorem mem_qualifiers_typeText {t : TypeRef} (worded : (TypeExpression.ofType cx t).Worded cx.config) {q : String} :
    q ∈ qualifiers (typeText cx t).toList ↔ ∃ p, Mentioned cx.module t p ∧ p.qualifier cx.config = q := by
  rw [(qualified_typeText worded).qualifiers_eq, TypeExpression.qualifiers, List.mem_map]
  simp only [TypeExpression.mem_packages_iff]

theorem mentions_of_texts {ts : List TypeRef} (worded : ∀ t ∈ ts, (TypeExpression.ofType cx t).Worded cx.config)
    {q : String} :
    (∃ t ∈ ts, q ∈ qualifiers (typeText cx t).toList) ↔
      ∃ p, (∃ t ∈ ts, Mentioned cx.module t p) ∧ p.qualifier cx.config = q := by
  constructor
  · rintro ⟨t, type, member⟩
    obtain ⟨p, mentioned, same⟩ := (mem_qualifiers_typeText (worded t type)).1 member
    exact ⟨p, ⟨t, type, mentioned⟩, same⟩
  · rintro ⟨p, ⟨t, type, mentioned⟩, same⟩
    exact ⟨t, type, (mem_qualifiers_typeText (worded t type)).2 ⟨p, mentioned, same⟩⟩

theorem WellNamed.letters (spelled : WellNamed d own) : ∀ g ∈ d.generics, Plain g :=
  fun g generic => plain_of_isIdentifier (spelled.generics g generic)

section

variable {fields : List (Field TypeRef)}

theorem WellNamed.readable (spelled : WellNamed d own) (record : fields ∈ d.records)
    (types : ∀ t ∈ fields.map (·.type), WellWorded cx t) : ∀ f ∈ fields.map (renderField cx), f.Readable := by
  refine List.forall_mem_map.2 fun f field => ?_
  have identifier := spelled.fields fields record f field
  exact
    { member := isName_upperCamel identifier
      parameter := plain_parameterName identifier
      type := (qualified_typeText (types f.type (List.mem_map_of_mem field)).worded).unquoted }

theorem WellNamed.record (spelled : WellNamed d own) (record : fields ∈ d.records)
    (types : ∀ t ∈ fields.map (·.type), WellWorded cx t) : ∀ f ∈ fields, (renderField cx f).Fits := fun f field =>
  renderField_fits (spelled.fields fields record f field) (types f.type (List.mem_map_of_mem field)).line

/-- The source of a record mentions what its fields mention. -/
theorem mem_qualifiers_record (spelled : WellNamed d own) (record : fields ∈ d.records)
    (types : ∀ t ∈ fields.map (·.type), WellWorded cx t) {name : String} (named : IsName name) {generics : List String}
    (letters : ∀ g ∈ generics, Plain g) (comment : Option String) {q : String} :
    q ∈ (recordLayout name generics (fields.map (renderField cx)) comment).flatMap pieceQualifiers ↔
      ∃ p, (∃ t ∈ fields.map (·.type), Mentioned cx.module t p) ∧ p.qualifier cx.config = q := by
  have worded : ∀ t ∈ fields.map (·.type), (TypeExpression.ofType cx t).Worded cx.config := fun t type =>
    (types t type).worded
  rw [qualifiers_recordLayout named letters (spelled.readable record types), List.mem_append, or_self,
    List.flatMap_map, ← mentions_of_texts worded, List.mem_flatMap]
  simp only [List.mem_map, exists_exists_and_eq_and]
  rfl

end

/-- The packages that no types mention are none. -/
theorem not_mentioned_nil {m : ModulePath} {config : Config} {q : String} :
    ¬ ∃ p, (∃ t ∈ ([] : List TypeRef), Mentioned m t p) ∧ p.qualifier config = q := by
  rintro ⟨p, ⟨t, none, -⟩, -⟩
  exact List.not_mem_nil none

theorem mentions_structOutput {s : Struct TypeRef} (spelled : WellNamed (.struct s) own)
    (types : ∀ t ∈ s.fields.map (·.type), WellWorded cx t) :
    MentionsExactly cx (structOutput cx s own.identifier) (s.fields.map (·.type)) := by
  have record : s.fields ∈ (Declaration.struct s : SchemaDeclaration).records := List.mem_singleton_self _
  have fit := List.forall_mem_map.2 (spelled.record record types)
  have lines : ∀ g ∈ s.generics, OneLine g := spelled.lines
  have tidy := tidy_recordLayout spelled.identifier lines fit s.comment
  intro q
  show q ∈ sourceQualifiers (Layout.text indentation _) ↔ _
  rw [sourceQualifiers_text tidy]
  exact mem_qualifiers_record spelled record types spelled.identifier spelled.letters s.comment

theorem mentions_contract {u : Union TypeRef} (spelled : WellNamed (.union u) own) :
    sourceQualifiers (Layout.text indentation (contractLayout u own)) = [] := by
  have named : ∀ name ∈ own.variants, IsName name := fun name among =>
    spelled.named name (List.mem_cons_of_mem _ among)
  have variants : ∀ v ∈ u.variants, isIdentifier v.name := fun v variant =>
    spelled.variants v.name (List.mem_map_of_mem variant)
  have plain : ∀ h ∈ handlers u own.variants, Plain h.name ∧ Plain h.type := by
    refine List.forall_mem_map.2 fun pair among => ?_
    obtain ⟨variant, name⟩ := List.of_mem_zip among
    have used : ∀ g ∈ pair.1.usedGenerics u.generics, Plain g :=
      fun g member => spelled.letters g (List.mem_filter.1 member).1
    have word := (isName_upperCamel (variants _ variant)).plain
    exact ⟨plain_append.2 ⟨by decide, word⟩, plain_append.2 ⟨(named _ name).plain, plain_typeArguments used⟩⟩
  rw [sourceQualifiers_text (tidy_contractLayout spelled.identifier spelled.lines
    (handlers_fit spelled.lines variants named))]
  exact qualifiers_contractLayout spelled.identifier spelled.letters plain

theorem mentions_variant {u : Union TypeRef} (spelled : WellNamed (.union u) own) {v : Variant TypeRef}
    (variant : v ∈ u.variants) (types : ∀ t ∈ v.fields.map (·.type), WellWorded cx t) {name : String}
    (named : IsName name) {q : String} :
    q ∈ sourceQualifiers (Layout.text indentation (variantLayout cx u own.identifier v name)) ↔
      ∃ p, (∃ t ∈ v.fields.map (·.type), Mentioned cx.module t p) ∧ p.qualifier cx.config = q := by
  have record : v.fields ∈ (Declaration.union u : SchemaDeclaration).records := List.mem_map_of_mem variant
  have letters : ∀ g ∈ v.usedGenerics u.generics, Plain g := fun g member =>
    spelled.letters g (List.mem_filter.1 member).1
  have method : Pointless ("func (" ++ name ++ typeArguments (v.usedGenerics u.generics) ++ ") " ++
      markerName own.identifier ++ "() \x7b\x7d") := by
    simp +decide [markerName, named.plain.pointless, spelled.identifier.plain.pointless,
      (plain_typeArguments letters).pointless]
  rw [sourceQualifiers_text (tidy_variantLayout spelled.identifier.oneLine named spelled.lines
    (spelled.record record types)), variantLayout, List.flatMap_append, List.mem_append,
    mem_qualifiers_record spelled record types named letters v.comment]
  simp only [List.flatMap_cons, List.flatMap_nil, pieceQualifiers_blank, pieceQualifiers_line,
    lineQualifiers_eq_nil method, List.append_nil, List.not_mem_nil, or_false]

theorem sourceQualifiers_single {text : String} (single : OneLine text) (first : text.toList.head?.any isIdentifierChar)
    (comment : Option String) :
    sourceQualifiers (Layout.text indentation [.comment "//" comment, .line text]) = qualifiers text.toList := by
  rw [sourceQualifiers_text (tidy_single single comment), List.flatMap_cons, List.flatMap_singleton,
    pieceQualifiers_comment, pieceQualifiers_line, lineQualifiers_of_head first, List.nil_append]

theorem mentions_aliasOutput {a : Alias TypeRef} (spelled : WellNamed (.typeAlias a) own)
    (target : WellWorded cx a.target) : MentionsExactly cx (aliasOutput cx a own.identifier) [a.target] := by
  have worded := target.worded
  have front : Plain ("type " ++ own.identifier) := by simp +decide [spelled.identifier.plain]
  have line := front.qualified.append (by decide : Separates " = ") (qualified_typeText worded)
  have single : OneLine ("type " ++ own.identifier ++ " = " ++ typeText cx a.target) := by
    simp +decide [spelled.identifier.oneLine, target.line]
  have first : ("type " ++ own.identifier ++ " = " ++ typeText cx a.target).toList.head?.any isIdentifierChar := by
    simp +decide [String.toList_append]
  intro q
  show q ∈ sourceQualifiers (Layout.text indentation _) ↔ _
  rw [sourceQualifiers_single single first, line.qualifiers_eq, List.nil_append,
    ← (qualified_typeText worded).qualifiers_eq, mem_qualifiers_typeText worded]
  simp only [List.mem_singleton, exists_eq_left]

/-- The package of a scalar. -/
theorem mem_qualifiers_scalarText (s : Scalar) {q : String} :
    q ∈ qualifiers (scalarText s).toList ↔ (s = .u128 ∨ s = .i128) ∧ q = "big" := by
  have finite : ∀ s ∈ Scalar.all,
      qualifiers (scalarText s).toList = if s = .u128 ∨ s = .i128 then ["big"] else [] := by
    decide +kernel
  rw [finite s s.mem_all]
  split
  · next wide => simp [wide]
  · next narrow => simp [narrow]

theorem mentioned_scalar {m : ModulePath} {s : Scalar} {p : Package} :
    Mentioned m (.scalar s) p ↔ (s = .u128 ∨ s = .i128) ∧ p = .big := by
  constructor
  · intro mentioned
    cases mentioned with
    | integer wide => exact ⟨wide, rfl⟩
    | inside child _ => exact absurd child List.not_mem_nil
  · rintro ⟨wide, rfl⟩
    exact .integer wide

theorem mentions_constantOutput {c : Constant ConstantValue} (named : IsName own.identifier) :
    MentionsExactly cx (constantOutput cx c own.identifier) [.scalar c.value.type] := by
  have unquoted : ∀ s ∈ Scalar.all, '"' ∉ (scalarText s).toList := by decide
  have keyword : Plain (initializer c.value).1 ∧ OneLine (initializer c.value).1 ∧
      ∀ rest : String, ((initializer c.value).1 ++ rest).toList.head?.any isIdentifierChar := by
    rcases initializer_keyword c.value with const | var
    · rw [const]
      exact ⟨by decide, by decide, fun rest => by simp +decide [String.toList_append]⟩
    · rw [var]
      exact ⟨by decide, by decide, fun rest => by simp +decide [String.toList_append]⟩
  have front : Plain ((initializer c.value).1 ++ " " ++ own.identifier) := by
    simp +decide [keyword.1, named.plain]
  have typed : Qualified (scalarText c.value.type) (qualifiers (scalarText c.value.type).toList) :=
    ⟨unquoted _ c.value.type.mem_all, rfl⟩
  have line := (front.qualified.append (by decide : Separates " ") typed).qualifiers_append (by decide : Separates " = ")
    (rfl : qualifiers (initializer c.value).2.toList = _)
  have single : OneLine ((initializer c.value).1 ++ " " ++ own.identifier ++ " " ++ scalarText c.value.type ++ " = " ++
      (initializer c.value).2) := by
    simp +decide [keyword.2.1, named.oneLine, oneLine_scalarText, oneLine_initializer]
  have first : ((initializer c.value).1 ++ " " ++ own.identifier ++ " " ++ scalarText c.value.type ++ " = " ++
      (initializer c.value).2).toList.head?.any isIdentifierChar := by
    simp only [String.append_assoc]
    exact keyword.2.2 _
  have source : (constantOutput cx c own.identifier).source = Layout.text indentation [.comment "//" c.comment,
      .line ((initializer c.value).1 ++ " " ++ own.identifier ++ " " ++ scalarText c.value.type ++ " = " ++
        (initializer c.value).2)] := rfl
  intro q
  rw [source, sourceQualifiers_single single first, line, List.nil_append, List.mem_append, mem_qualifiers_scalarText]
  simp only [List.mem_singleton, exists_eq_left, mentioned_scalar]
  constructor
  · rintro (⟨wide, rfl⟩ | member)
    · exact ⟨.big, ⟨wide, rfl⟩, rfl⟩
    · obtain ⟨rfl, wide⟩ := mem_qualifiers_initializer member
      exact ⟨.big, ⟨wide, rfl⟩, rfl⟩
  · rintro ⟨p, ⟨wide, rfl⟩, rfl⟩
    exact .inl ⟨wide, rfl⟩

/-- The layout of a tuple record has no points. -/
theorem qualifiers_tupleLayout {t : TupleRecord} (named : Plain t.name) (letters : ∀ p ∈ t.parameters, Plain p)
    (members : ∀ f ∈ t.fields, Plain f ∧ Plain f.toLower) : (tupleLayout t).flatMap pieceQualifiers = [] := by
  have parameters := plain_typeParameters letters
  have arguments := plain_typeArguments letters
  have pairs : ∀ pair ∈ t.fields.zip t.parameters, Plain pair.1 ∧ Plain pair.1.toLower ∧ Plain pair.2 := by
    intro pair among
    obtain ⟨field, parameter⟩ := List.of_mem_zip among
    exact ⟨(members _ field).1, (members _ field).2, letters _ parameter⟩
  have values : Plain (", ".intercalate
      ((t.fields.zip t.parameters).map fun pair => pair.1.toLower ++ " " ++ pair.2)) := by
    refine plain_intercalate (by decide) (List.forall_mem_map.2 fun pair among => ?_)
    simp +decide [(pairs pair among).2]
  have lines : ∀ {α : Type} {as : List α} (text : α → String), (∀ a ∈ as, Pointless (text a)) →
      (as.map fun a => Layout.line (text a)).flatMap pieceQualifiers = [] := by
    intro α as text each
    rw [List.flatMap_map]
    exact List.flatMap_eq_nil_iff.2 fun a among => (pieceQualifiers_line _).trans (lineQualifiers_eq_nil (each a among))
  have fields := lines (fun pair => pair.1 ++ " " ++ pair.2)
    fun pair (among : pair ∈ t.fields.zip t.parameters) => by
      simp +decide [(pairs pair among).1.pointless, (pairs pair among).2.2.pointless]
  have assignments := lines (fun field => field ++ ": " ++ field.toLower ++ ",")
    fun field (among : field ∈ t.fields) => by
      simp +decide [(members field among).1.pointless, (members field among).2.pointless]
  have head : Pointless ("type " ++ t.name ++ typeParameters t.parameters ++ " struct" ++ " \x7b") := by
    simp +decide [named.pointless, parameters.pointless]
  have constructor' : Pointless ("func New" ++ t.name ++ typeParameters t.parameters ++ "(" ++
      ", ".intercalate ((t.fields.zip t.parameters).map fun pair => pair.1.toLower ++ " " ++ pair.2) ++ ") " ++
        (t.name ++ typeArguments t.parameters) ++ " \x7b") := by
    simp +decide only [pointless_append, named.pointless, parameters.pointless, values.pointless, arguments.pointless,
      and_self]
  have return' : Pointless ("return " ++ (t.name ++ typeArguments t.parameters) ++ "\x7b") := by
    simp +decide [named.pointless, arguments.pointless]
  have closing : lineQualifiers "\x7d" = [] := by decide
  unfold tupleLayout
  simp only [List.flatMap_cons, List.flatMap_nil, pieceQualifiers_braced, pieceQualifiers_blank, pieceQualifiers_block,
    lineQualifiers_eq_nil head, lineQualifiers_eq_nil constructor', lineQualifiers_eq_nil return', fields, assignments,
    closing, List.append_nil]

/-- A tuple record mentions nothing. -/
theorem sourceQualifiers_tupleOutput (arity : Nat) : sourceQualifiers (tupleOutput (.ofArity arity)).source = [] := by
  have letters : ∀ p ∈ (TupleRecord.ofArity arity).parameters, IsName p :=
    List.forall_mem_map.2 fun i _ => isName_numbered (isName_word _ (by decide)) (i + 1)
  have members : ∀ f ∈ (TupleRecord.ofArity arity).fields, IsName f :=
    List.forall_mem_map.2 fun i _ => isName_numbered (isName_word _ (by decide)) (i + 1)
  have lower : ∀ f ∈ (TupleRecord.ofArity arity).fields, Plain f.toLower := by
    intro f among
    refine plain_of_isIdentifierChar fun c member => ?_
    rw [toList_toLower] at member
    obtain ⟨d, inside, rfl⟩ := List.mem_map.1 member
    exact toLower_isIdentifierChar ((members f among).inside d inside)
  have tidy : Layout.TidyAll (tupleLayout (.ofArity arity)) :=
    tidy_tupleLayout (isName_tupleName arity) (fun p among => (letters p among).oneLine) fun f among =>
      ⟨(members f among).oneLine, (members f among).toLower⟩
  rw [source_tupleOutput, sourceQualifiers_text tidy]
  exact qualifiers_tupleLayout (isName_tupleName arity).plain (fun p among => (letters p among).plain) fun f among =>
    ⟨(members f among).plain, lower f among⟩

end

end SchemaBindings.Go
