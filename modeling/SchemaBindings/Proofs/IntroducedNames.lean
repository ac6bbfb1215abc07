import SchemaBindings.Proofs.Exhaustiveness
import SchemaBindings.Proofs.TupleTexts

/-!
# Names that an output introduces

What the source of an output introduces is read off it (`Introduces`): the name of a record, a union, an alias or a
constant, the generics, and the names of members, parameters, methods and alternatives.

Generics are introduced as they are declared. Of the other names only `Self` can be a reserved word, in Rust
(`TargetName.SelfAlone`), for one of these reasons.

* Reserved words other than `Self` are made of small letters (`TargetName.keyword_cases`). Names of types, cases and
  members of Go begin with a capital, constants in Rust have no small letters, and the names of the tuple records have
  digits.
* Fields and parameters are escaped (`TargetName.selfAlone_of_not_mem`).
-/

namespace SchemaBindings

open SourceReader

/-! ## Reserved words -/

/-- If the name is a reserved word, it is the word `Self` of Rust. -/
def TargetName.SelfAlone (target : TargetName) (name : String) : Prop :=
  name ∈ target.keywords ↔ target = .rust ∧ name = "Self"

section

variable (target : TargetName) {name : String}

theorem TargetName.self_mem_keywords : "Self" ∈ rust.keywords := by
  decide

theorem TargetName.selfAlone_of_not_mem (plain : name ∉ target.keywords) : target.SelfAlone name := by
  refine ⟨fun reserved => absurd reserved plain, ?_⟩
  rintro ⟨rfl, rfl⟩
  exact self_mem_keywords

theorem other_classes_of_isLower {c : Char} (lower : c.isLower = true) : c.isUpper = false ∧ c.isDigit = false := by
  have alphanum : c.isAlphanum = true := by
    show (c.isUpper || c.isLower || c.isDigit) = true
    rw [lower, Bool.or_true, Bool.true_or]
  exact Text.of_ascii (P := fun c => c.isLower = true → c.isUpper = false ∧ c.isDigit = false) (by decide +kernel)
    (Text.toNat_lt_of_isAlphanum alphanum) lower

/-- A reserved word is the word `Self` of Rust, or made of small letters. -/
theorem TargetName.keyword_cases : ∀ word ∈ target.keywords,
    (target = rust ∧ word = "Self") ∨ (word ≠ "" ∧ word.toList.all Char.isLower = true) := by
  cases target <;> decide

/-- A name that is not made of small letters alone is reserved only if it is `Self`. -/
theorem TargetName.selfAlone_of_other (other : name ≠ "" → name.toList.all Char.isLower = false) :
    target.SelfAlone name := by
  constructor
  · intro reserved
    rcases target.keyword_cases name reserved with self | ⟨filled, small⟩
    · exact self
    · exact absurd small (by rw [other filled]; exact Bool.noConfusion)
  · rintro ⟨rfl, rfl⟩
    exact self_mem_keywords

theorem TargetName.selfAlone_of_capital (capital : IsCapitalized name) : target.SelfAlone name := by
  obtain ⟨c, rest, chars, upper⟩ := capital
  refine target.selfAlone_of_other fun _ => Bool.eq_false_iff.2 fun small => ?_
  have lower := List.all_eq_true.1 small c (chars ▸ List.mem_cons_self)
  exact absurd upper (by rw [(other_classes_of_isLower lower).1]; exact Bool.noConfusion)

theorem TargetName.selfAlone_of_capitals (capitals : ∀ c ∈ name.toList, c.isLower = false) : target.SelfAlone name := by
  refine target.selfAlone_of_other fun filled => Bool.eq_false_iff.2 fun small => ?_
  obtain ⟨c, rest, chars⟩ := List.ne_nil_iff_exists_cons.1 (mt String.toList_eq_nil_iff.1 filled)
  have first : c ∈ name.toList := chars ▸ List.mem_cons_self
  exact absurd (List.all_eq_true.1 small c first) (by rw [capitals c first]; exact Bool.noConfusion)

/-- No reserved word has a digit. -/
theorem TargetName.not_mem_keywords_of_digit {c : Char} (member : c ∈ name.toList) (digit : c.isDigit = true) :
    name ∉ target.keywords := by
  intro reserved
  rcases target.keyword_cases name reserved with ⟨-, rfl⟩ | ⟨-, small⟩
  · have letters : ("Self".toList.all fun c => !c.isDigit) = true := by decide
    exact absurd (List.all_eq_true.1 letters c member) (by rw [digit]; exact Bool.noConfusion)
  · have lower := List.all_eq_true.1 small c member
    exact absurd digit (by rw [(other_classes_of_isLower lower).2]; exact Bool.noConfusion)

theorem TargetName.numbered_not_mem_keywords (letter : String) (n : Nat) : letter ++ toString n ∉ target.keywords := by
  have filled : (toString n).toList ≠ [] := by
    rw [Nat.toString_eq_ofList_toDigits, String.toList_ofList]
    exact Nat.toDigits_ne_nil
  obtain ⟨c, rest, digits⟩ := List.ne_nil_iff_exists_cons.1 filled
  have first : c ∈ (toString n).toList := digits ▸ List.mem_cons_self
  refine target.not_mem_keywords_of_digit ?_ (Text.isDigit_of_mem_toString first)
  rw [String.toList_append]
  exact List.mem_append_right _ first

theorem TargetName.selfAlone_numbered (letter : String) (n : Nat) : target.SelfAlone (letter ++ toString n) :=
  target.selfAlone_of_not_mem (target.numbered_not_mem_keywords letter n)

end

/-! ## Spellings -/

theorem Text.screamingSnake_isIdentifierChar {name : String} (identifier : isIdentifier name) :
    ∀ c ∈ (screamingSnake name).toList, isIdentifierChar c = true ∧ c.isLower = false := by
  have upper : ∀ c : Char, c.isAlphanum = true → c.toUpper.isLower = false := fun c alphanum =>
    of_ascii (P := fun c => c.isAlphanum = true → c.toUpper.isLower = false) (by decide +kernel)
      (toNat_lt_of_isAlphanum alphanum) alphanum
  intro c member
  rw [screamingSnake, String.toList_ofList] at member
  rcases mem_joined member with between | ⟨word, among, inside⟩
  · rw [List.mem_singleton.1 between]
    decide
  · obtain ⟨letters, word', rfl⟩ := List.mem_map.1 among
    obtain ⟨d, letter, inside⟩ := List.mem_flatMap.1 inside
    have alphanum := words_isAlphanum identifier letters word' d letter
    obtain ⟨capital, -, -, kept, -⟩ := isAlphanum_cases alphanum
    rw [capital] at inside
    rw [List.mem_singleton.1 inside]
    exact ⟨by rw [isIdentifierChar, kept, Bool.true_or], upper d alphanum⟩

theorem Text.screamingSnake_ne_empty {name : String} (identifier : isIdentifier name) : screamingSnake name ≠ "" := by
  intro empty
  obtain ⟨c, word, others, split, letter⟩ := words_cons identifier
  have pieces := joined_eq_nil (congrArg String.toList empty ▸ String.toList_ofList.symm)
  rw [split] at pieces
  have capitals : capitalWord (c :: word) = [] := pieces _ List.mem_cons_self
  rw [capitalWord, List.flatMap_cons, (isAlphanum_cases (isAlpha_cases letter).2.1).1] at capitals
  exact absurd capitals (by simp)

/-- A name in the table is made of identifier characters, and is reserved only if it is `Self` in Rust. -/
theorem TargetName.emittedName_selfAlone (target : TargetName) {d : SchemaDeclaration} (identifier : isIdentifier d.name) :
    Go.IsName (emittedName target.target.conventions d) ∧
      target.SelfAlone (emittedName target.target.conventions d) := by
  have type : Go.IsName (target.target.conventions.typeName d.name) ∧
      target.SelfAlone (target.target.conventions.typeName d.name) := by
    rw [target.typeName_eq]
    exact ⟨Go.isName_upperCamel identifier, target.selfAlone_of_capital (isCapitalized_upperCamel identifier)⟩
  cases d with
  | const c =>
    cases target with
    | go => exact type
    | rust =>
      have chars := Text.screamingSnake_isIdentifierChar identifier
      exact ⟨⟨fun d member => (chars d member).1, Text.screamingSnake_ne_empty identifier⟩,
        rust.selfAlone_of_capitals fun d member => (chars d member).2⟩
  | struct s | union u | typeAlias a | module _ _ _ => exact type

/-! ## Reading -/

/-- Reads a name in front of a text, and what stands before it. -/
def readNamed (head : SourceReader Unit) (closing : String) : SourceReader String := do
  head
  let name ← word isIdentifierChar
  exactly closing
  return name

def TargetName.readAlias : TargetName → SourceReader String
  | go => readNamed (do remarks "//"; exactly "type ") " = "
  | rust => readNamed (do Rust.readHead; exactly "pub type ") " = "

def TargetName.readConstant : TargetName → SourceReader String
  | go => readNamed (do remarks "//"; exactly "const " <|> exactly "var ") " "
  | rust => readNamed (do remarks "///"; exactly "pub const ") ": "

/-- Names that come with every record. -/
def TargetName.recordExtras : TargetName → String → List String
  | go, name => ["New" ++ name]
  | rust, _ => ["new"]

/-- Names that come with every union. -/
def TargetName.unionExtras : TargetName → String → List String
  | go, name => ["Match" ++ name]
  | rust, _ => ["from"]

/-- The source introduces a name with these generics, and these other names. The constructor of a record binds its
generics once more, and the dispatch of a union its own with others behind them. -/
inductive Introduces (target : TargetName) (source : String) : String → List String → List String → Prop
  | record {types : List String} {text : RecordText} {methods : List (TypeUse × Method)} :
      (target.readVariant types).run source.toList = some ((text, methods), []) →
      text.binders = text.type.arguments →
      Introduces target source text.type.name text.type.arguments
        (target.recordExtras text.type.name ++ (text.members ++ text.parameters) ++ methods.map (·.2.name))
  | union {text : UnionText} {extra : List String} :
      target.readUnion.run source.toList = some (text, []) →
      text.binders = text.type.arguments ++ extra →
      Introduces target source text.type.name text.type.arguments
        (target.unionExtras text.type.name ++ extra ++ text.alternatives.map (·.1) ++ text.methods.map (·.name))
  | alias {name : String} {rest : List Char} :
      target.readAlias.run source.toList = some (name, rest) → Introduces target source name [] []
  | constant {name : String} {rest : List Char} :
      target.readConstant.run source.toList = some (name, rest) → Introduces target source name [] []

theorem run_readNamed {head : SourceReader Unit} {closing name : String} {source rest : List Char}
    (heads : head.run source = some ((), name.toList ++ (closing.toList ++ rest))) (named : Go.IsName name)
    (other : (closing.toList.head?.any fun c => !isIdentifierChar c) = true) :
    (readNamed head closing).run source = some (name, rest) := by
  rw [readNamed, run_bind_of heads, run_bind_of (named.read other _), run_bind_of (exactly_append _ _)]
  rfl

/-- A record without methods behind it. -/
theorem TargetName.readVariant_record (target : TargetName) {source : List Char} {types : List String}
    {text : RecordText} (reads : (target.readRecord types).run source = some (text, [])) :
    (target.readVariant types).run source = some ((text, []), []) := by
  refine (run_bind_of reads).trans ?_
  cases target with
  | go =>
    have refused : Go.readReceived.run [] = none := run_bind_refused _ (exactly_refused rfl)
    exact run_bind_of (many_refused refused)
  | rust => rfl

theorem TargetName.readVariant_structOutput (target : TargetName) (cx : RenderContext) {s : Struct TypeRef}
    {name : String} (bound : TypeUse.Named ⟨name, s.generics⟩) (fields : ∀ f ∈ s.fields, isIdentifier f.name) :
    (target.readVariant (s.fields.map fun f => target.typeText cx f.type)).run
      (target.target.structOutput cx s name).source.toList =
        some ((target.recordText ⟨name, s.generics⟩ s.fields, []), []) := by
  cases target with
  | go => exact TargetName.go.readVariant_record (Go.readRecord_structOutput cx bound fields)
  | rust => exact TargetName.rust.readVariant_record (Rust.readRecord_structOutput cx bound fields)

/-! ## Aliases and constants -/

/-- In front of a text its comment is a remark. -/
theorem remarks_text {unit : String} (marker : String) (plain : OneLine unit) (single : OneLine marker) (some : marker ≠ "")
    (comment : Option String) {pieces : List Layout} {opening rest : List Char}
    (opens : (Layout.renderAll unit 0 pieces).toList = opening ++ rest)
    (other : marker.toList.isPrefixOf (opening ++ rest) = false) :
    (remarks marker).run (Layout.text unit (.comment marker comment :: pieces)).toList =
      Option.some ((), opening ++ rest) := by
  rw [Layout.text, Layout.renderAll, String.toList_append, opens]
  exact remarks_comment plain single some (Layout.indented_zero _ _) comment other

section

variable (cx : RenderContext) {name : String}

theorem Go.readAlias_aliasOutput (named : IsName name) (a : Alias TypeRef) :
    TargetName.go.readAlias.run (aliasOutput cx a name).source.toList =
      some (name, (typeText cx a.target ++ "\n").toList) := by
  have opens : (Layout.renderAll indentation 0 [.line ("type " ++ name ++ " = " ++ typeText cx a.target)]).toList =
      "type ".toList ++ (name.toList ++ (" = ".toList ++ (typeText cx a.target ++ "\n").toList)) := by
    rw [Layout.renderAll_line]
    simp
  have heads := remarks_text "//" (by decide) (by decide) (by decide) a.comment opens rfl
  exact run_readNamed ((run_bind_of heads).trans (exactly_append _ _)) named (by decide)

theorem Go.introduces_alias (named : IsName name) (a : Alias TypeRef) :
    Introduces .go (aliasOutput cx a name).source name [] [] :=
  .alias (readAlias_aliasOutput cx named a)

theorem Go.introduces_constant (named : IsName name) (c : Constant ConstantValue) :
    Introduces .go (constantOutput cx c name).source name [] [] := by
  let tail := (scalarText c.value.type ++ " = " ++ (initializer c.value).2 ++ "\n").toList
  have opens : (Layout.renderAll indentation 0 [.line ((initializer c.value).1 ++ " " ++ name ++ " " ++
      scalarText c.value.type ++ " = " ++ (initializer c.value).2)]).toList =
        ((initializer c.value).1 ++ " ").toList ++ (name.toList ++ (" ".toList ++ tail)) := by
    rw [Layout.renderAll_line]
    simp [tail]
  have reads : ∀ rest : List Char,
      "//".toList.isPrefixOf (((initializer c.value).1 ++ " ").toList ++ rest) = false ∧
        (exactly "const " <|> exactly "var ").run (((initializer c.value).1 ++ " ").toList ++ rest) =
          some ((), rest) := by
    intro rest
    rcases Go.initializer_keyword c.value with const | var
    · rw [const]
      exact ⟨rfl, run_orElse_of (exactly_append "const " rest)⟩
    · rw [var]
      exact ⟨rfl, (run_orElse_refused (exactly_refused rfl)).trans (exactly_append "var " rest)⟩
  have heads := remarks_text "//" (by decide) (by decide) (by decide) c.comment opens (reads _).1
  exact .constant (run_readNamed ((run_bind_of heads).trans (reads _).2) named (by decide))

theorem Rust.readAlias_aliasOutput (named : Go.IsName name) (a : Alias TypeRef) :
    TargetName.rust.readAlias.run (aliasOutput cx a name).source.toList =
      some (name, (typeText cx a.target ++ ";\n").toList) := by
  let behind := "pub type ".toList ++ (name.toList ++ (" = ".toList ++ (typeText cx a.target ++ ";\n").toList))
  have attributes : ∀ line ∈ Layout.lineTextsAll indentation 0 (caseAttribute name),
      OneLine line ∧ "#".toList <+: line.toList := by
    unfold caseAttribute
    split <;> decide
  have opens : (Layout.renderAll indentation 0 (caseAttribute name ++
      [.line ("pub type " ++ name ++ " = " ++ typeText cx a.target ++ ";")])).toList =
        (Layout.renderAll indentation 0 (caseAttribute name)).toList ++ behind := by
    rw [Layout.renderAll_append, Layout.renderAll_line, String.toList_append]
    simp [behind]
  have plain : "///".toList.isPrefixOf ((Layout.renderAll indentation 0 (caseAttribute name)).toList ++ behind) =
      false := by
    unfold caseAttribute
    split <;> rfl
  have comments := remarks_text "///" (by decide) (by decide) (by decide) a.comment opens plain
  have heads : Rust.readHead.run (aliasOutput cx a name).source.toList = some ((), behind) := by
    refine (run_bind_of comments).trans ?_
    rw [Layout.renderAll_eq]
    exact remarks_join (by decide) attributes rfl
  exact run_readNamed ((run_bind_of heads).trans (exactly_append _ _)) named (by decide)

theorem Rust.introduces_alias (named : Go.IsName name) (a : Alias TypeRef) :
    Introduces .rust (aliasOutput cx a name).source name [] [] :=
  .alias (readAlias_aliasOutput cx named a)

theorem Rust.introduces_constant (named : Go.IsName name) (c : Constant ConstantValue) :
    Introduces .rust (constantOutput cx c name).source name [] [] := by
  have opens : (Layout.renderAll indentation 0 [.line ("pub const " ++ name ++ ": " ++
      constantTypeText c.value.type ++ " = " ++ initializer c.value ++ ";")]).toList =
        "pub const ".toList ++ (name.toList ++ (": ".toList ++
          (constantTypeText c.value.type ++ " = " ++ initializer c.value ++ ";\n").toList)) := by
    rw [Layout.renderAll_line]
    simp
  have heads := remarks_text "///" (by decide) (by decide) (by decide) c.comment opens rfl
  exact .constant (run_readNamed ((run_bind_of heads).trans (exactly_append _ _)) named (by decide))

end

/-! ## Records and unions -/

section

variable (target : TargetName)

theorem TargetName.selfAlone_fields {type : TypeUse} {fields : List (Field TypeRef)}
    (identifiers : ∀ f ∈ fields, isIdentifier f.name) :
    ∀ name ∈ (target.recordText type fields).members ++ (target.recordText type fields).parameters,
      target.SelfAlone name := by
  refine List.forall_mem_append.2 ⟨?_, ?_⟩
  · refine List.forall_mem_map.2 fun f field => ?_
    cases target with
    | go => exact TargetName.go.selfAlone_of_capital (isCapitalized_upperCamel (identifiers f field))
    | rust => exact TargetName.rust.selfAlone_of_not_mem (Rust.escape_not_mem_keywords _)
  · exact List.forall_mem_map.2 fun f _ => target.selfAlone_of_not_mem (target.parameterName_not_mem_keywords f.name)

/-- No reserved word begins with one of these words. -/
theorem Go.selfAlone_of_prefix {before : String} (known : before ∈ ["is", "on", "New", "Match"]) (name : String) :
    TargetName.go.SelfAlone (before ++ name) := by
  have other : ∀ before ∈ ["is", "on", "New", "Match"], ∀ word ∈ keywords, ¬ before.toList <+: word.toList := by
    decide
  refine TargetName.go.selfAlone_of_not_mem fun reserved => other before known _ reserved ?_
  rw [String.toList_append]
  exact List.prefix_append _ _

theorem TargetName.selfAlone_alternativeName {variant : String} (identifier : isIdentifier variant) :
    target.SelfAlone (target.alternativeName variant) := by
  cases target with
  | go => exact Go.selfAlone_of_prefix (by decide) _
  | rust => exact TargetName.rust.selfAlone_of_capital (isCapitalized_upperCamel identifier)

theorem TargetName.selfAlone_markers (identifier : String) :
    ∀ method ∈ target.markers identifier, target.SelfAlone method.name := by
  cases target with
  | go => exact List.forall_mem_singleton.2 (Go.selfAlone_of_prefix (by decide) identifier)
  | rust => exact nofun

theorem TargetName.selfAlone_recordExtras (identifier : String) :
    ∀ name ∈ target.recordExtras identifier, target.SelfAlone name := by
  refine fun name extra => ?_
  cases target with
  | go =>
    rw [List.mem_singleton.1 extra]
    exact Go.selfAlone_of_prefix (by decide) identifier
  | rust =>
    rw [List.mem_singleton.1 extra]
    exact TargetName.rust.selfAlone_of_not_mem (by decide)

theorem TargetName.selfAlone_unionExtras (identifier : String) :
    ∀ name ∈ target.unionExtras identifier, target.SelfAlone name := by
  refine fun name extra => ?_
  cases target with
  | go =>
    rw [List.mem_singleton.1 extra]
    exact Go.selfAlone_of_prefix (by decide) identifier
  | rust =>
    rw [List.mem_singleton.1 extra]
    exact TargetName.rust.selfAlone_of_not_mem (by decide)

theorem TargetName.selfAlone_dispatchExtras (generics : List String) :
    ∀ name ∈ target.dispatchExtras generics, target.SelfAlone name := by
  refine fun name extra => ?_
  cases target with
  | go =>
    rw [List.mem_singleton.1 extra]
    have plain : ∀ name ∈ ["R", "Result", "Out", "MatchResult"], name ∉ TargetName.go.keywords := by decide
    exact TargetName.go.selfAlone_of_not_mem (plain _ (Go.resultParameter_mem generics))
  | rust => exact absurd extra List.not_mem_nil

theorem TargetName.selfAlone_tupleText (arity : Nat) :
    ∀ name ∈ (target.tupleText arity).members ++ (target.tupleText arity).parameters, target.SelfAlone name := by
  refine List.forall_mem_append.2 ⟨?_, ?_⟩
  · exact List.forall_mem_map.2 fun i _ => target.selfAlone_numbered _ _
  · exact List.forall_mem_map.2 fun i _ => target.selfAlone_numbered _ _

/-- The record of an arity introduces numbered names. -/
theorem TargetName.introduces_tuple {arity : Nat} (filled : arity ≠ 0) :
    ∃ others, Introduces target (target.target.tupleOutput (.ofArity arity)).source (tupleName arity)
      (TupleRecord.numbered "T" arity) others ∧ ∀ name ∈ tupleName arity :: others, target.SelfAlone name := by
  refine ⟨_, .record (target.readVariant_record (target.readRecord_tupleOutput filled)) rfl, ?_⟩
  rw [List.map_nil, List.append_nil]
  refine List.forall_mem_cons.2 ⟨target.selfAlone_numbered "Tuple" arity, ?_⟩
  exact List.forall_mem_append.2 ⟨target.selfAlone_recordExtras _, target.selfAlone_tupleText arity⟩

variable {document : Document} {config : Config} {i : SchemaItem} {own : DeclarationNames} {u : Union TypeRef}

/-- An output introduces its name with generics that are declared, all of them if the name is the declaration's own.
Of the names apart from the generics only `Self` can be a reserved word. -/
def IntroducesDeclared (target : TargetName) (d : SchemaDeclaration) (identifier : String) (o : Output) : Prop :=
  ∃ generics others, Introduces target o.source o.identifier generics others ∧
    (∀ g ∈ generics, g ∈ d.generics) ∧ (o.identifier = identifier → generics = d.generics) ∧
    ∀ name ∈ o.identifier :: others, target.SelfAlone name

theorem TargetName.variantName_ne_identifier (item : i ∈ document.resolve.items) (declared : i.declaration = .union u)
    (found : (runNames target.target config document.resolve).get? i.path = some (.ok own)) {v : Variant TypeRef}
    (variant : v ∈ u.variants) : target.variantName config u own v ≠ own.identifier := by
  intro same
  have distinct := (List.nodup_cons.1 (emitted_nodup found)).1
  rw [target.variants_eq item declared found, ← same] at distinct
  exact distinct (List.mem_map_of_mem variant)

theorem TargetName.introduces_union (cx : RenderContext) (valid : config.validate = .ok ())
    (item : i ∈ document.resolve.items) (declared : i.declaration = .union u)
    (found : (runNames target.target config document.resolve).get? i.path = some (.ok own))
    (alone : target.SelfAlone own.identifier) :
    ∀ o ∈ target.target.unionOutputs cx u own, IntroducesDeclared target (.union u) own.identifier o := by
  obtain ⟨contract, outputOf, outputs, called, reads, each⟩ :=
    target.exists_unionOutputs cx valid item declared found
  have variantIdentifier : ∀ v ∈ u.variants, isIdentifier v.name := fun v variant =>
    isIdentifier_variantName item (by rw [declared]; exact List.mem_map_of_mem variant)
  rw [outputs]
  refine List.forall_mem_cons.2 ⟨?_, List.forall_mem_map.2 fun v variant => ?_⟩
  · rw [IntroducesDeclared, called]
    refine ⟨u.generics, _, .union reads rfl, fun _ => id, fun _ => rfl, ?_⟩
    refine List.forall_mem_cons.2 ⟨alone, List.forall_mem_append.2 ⟨List.forall_mem_append.2 ⟨?_, ?_⟩, ?_⟩⟩
    · exact List.forall_mem_append.2
        ⟨target.selfAlone_unionExtras own.identifier, target.selfAlone_dispatchExtras u.generics⟩
    · refine List.forall_mem_map.2 (List.forall_mem_map.2 fun v variant => ?_)
      exact target.selfAlone_alternativeName (variantIdentifier v variant)
    · exact List.forall_mem_map.2 (target.selfAlone_markers own.identifier)
  · obtain ⟨called, reads⟩ := each v variant
    have differ := target.variantName_ne_identifier item declared found variant
    have fields : ∀ f ∈ v.fields, isIdentifier f.name := fun f field =>
      isIdentifier_fieldName item (by rw [declared]; exact List.mem_map_of_mem variant) field
    have alone : target.SelfAlone (target.variantName config u own v) :=
      target.selfAlone_of_capital (target.declared_variantUse valid item declared variant).capitalized
    rw [IntroducesDeclared, called]
    refine ⟨_, _, .record reads rfl, fun g used => (List.mem_filter.1 used).1, fun same => absurd same differ, ?_⟩
    refine List.forall_mem_cons.2 ⟨alone, List.forall_mem_append.2 ⟨List.forall_mem_append.2 ⟨?_, ?_⟩, ?_⟩⟩
    · exact target.selfAlone_recordExtras _
    · exact target.selfAlone_fields fields
    · refine List.forall_mem_map.2 (List.forall_mem_map.2 fun method marker => ?_)
      exact target.selfAlone_markers own.identifier method marker

theorem TargetName.introduces_declared (cx : RenderContext) (valid : config.validate = .ok ())
    (item : i ∈ document.resolve.items)
    (found : (runNames target.target config document.resolve).get? i.path = some (.ok own)) :
    ∀ o ∈ target.target.render cx i.declaration own,
      IntroducesDeclared target i.declaration own.identifier o := by
  have identifier := isIdentifier_name item
  obtain ⟨named, alone⟩ := target.emittedName_selfAlone identifier
  rw [← identifier_eq item found] at named alone
  cases declared : i.declaration with
  | struct s =>
    have fields : ∀ f ∈ s.fields, isIdentifier f.name := fun f =>
      isIdentifier_fieldName item (by rw [declared]; exact List.mem_singleton_self _)
    have bound : TypeUse.Named ⟨own.identifier, s.generics⟩ := by
      have generics := isName_generic item
      rw [declared] at generics
      exact ⟨named, generics⟩
    have called : (target.target.structOutput cx s own.identifier).identifier = own.identifier := by
      cases target with
      | go => rfl
      | rust => rfl
    refine List.forall_mem_singleton.2 ?_
    rw [IntroducesDeclared, called]
    refine ⟨s.generics, _, .record (target.readVariant_structOutput cx bound fields) rfl, fun _ => id, fun _ => rfl, ?_⟩
    rw [List.map_nil, List.append_nil]
    refine List.forall_mem_cons.2 ⟨alone, List.forall_mem_append.2 ⟨?_, target.selfAlone_fields fields⟩⟩
    exact target.selfAlone_recordExtras _
  | union u => exact target.introduces_union cx valid item declared found alone
  | typeAlias a =>
    refine List.forall_mem_singleton.2 ⟨[], [], ?_, nofun, fun _ => rfl, List.forall_mem_singleton.2 ?_⟩
    · cases target with
      | go => exact Go.introduces_alias cx named a
      | rust => exact Rust.introduces_alias cx named a
    · cases target with
      | go => exact alone
      | rust => exact alone
  | const c =>
    refine List.forall_mem_singleton.2 ⟨[], [], ?_, nofun, fun _ => rfl, List.forall_mem_singleton.2 ?_⟩
    · cases target with
      | go => exact Go.introduces_constant cx named c
      | rust => exact Rust.introduces_constant cx named c
    · cases target with
      | go => exact alone
      | rust => exact alone
  | module _ _ _ => exact nofun

end

end SchemaBindings
