import SchemaBindings.Proofs.GoDeclarations
import SchemaBindings.Proofs.Spellings

/-!
# What Go outputs declare

Which names the source of each output declares at the top level, if the texts in it stand in one line each:

* a record declares its type and a constructor (`topLevelNames_structOutput`, `topLevelNames_variant`,
  `topLevelNames_tupleOutput`);
* a union declares its interface and a match function (`topLevelNames_contract`);
* an alias or a constant declares itself (`topLevelNames_aliasOutput`, `topLevelNames_constantOutput`).

A file declares what its outputs declare, one after the other (`topLevelNames_packageFile`).
-/

namespace SchemaBindings.Go

/-! ## Names -/

/-- The text is made of identifier characters, and not empty. -/
structure IsName (name : String) : Prop where
  inside : ∀ c ∈ name.toList, isIdentifierChar c = true
  nonempty : name ≠ ""

theorem IsName.oneLine {name : String} (named : IsName name) : OneLine name :=
  oneLine_of_isIdentifierChar named.inside

theorem IsName.append {before name : String} (inside : ∀ c ∈ before.toList, isIdentifierChar c = true)
    (named : IsName name) : IsName (before ++ name) where
  inside := by
    rw [String.toList_append]
    exact List.forall_mem_append.2 ⟨inside, named.inside⟩
  nonempty := fun empty => named.nonempty (String.append_eq_empty_iff.1 empty).2

/-! ## Pieces of a line -/

theorem oneLine_bracketed {opening closing : String} (first : OneLine opening) (last : OneLine closing)
    {names : List String} (each : ∀ name ∈ names, OneLine name) :
    OneLine (bracketed opening closing names) := by
  unfold bracketed
  split
  · decide
  · simp [first, last, oneLine_intercalate (by decide : OneLine ", ") each]

theorem oneLine_typeParameters {generics : List String} (each : ∀ g ∈ generics, OneLine g) :
    OneLine (typeParameters generics) := by
  refine oneLine_bracketed (by decide) (by decide) (List.forall_mem_map.2 fun g member => ?_)
  exact oneLine_append.2 ⟨each g member, by decide⟩

theorem oneLine_typeArguments {arguments : List String} (each : ∀ a ∈ arguments, OneLine a) :
    OneLine (typeArguments arguments) :=
  oneLine_bracketed (by decide) (by decide) each

theorem ends_typeParameters (generics : List String) {rest : String}
    (ends : Text.Ends isIdentifierChar rest.toList) :
    Text.Ends isIdentifierChar (typeParameters generics ++ rest).toList := by
  unfold typeParameters bracketed
  split
  · rwa [String.empty_append]
  · rw [String.append_assoc, String.append_assoc]
    exact Text.ends_append (by decide) _

/-- A declaration with type parameters declares the name in front of them. -/
theorem declaredName?_generic {word : String} (among : word ∈ declarationWords) {name : String}
    (named : IsName name) (generics : List String) {opening : String}
    (other : (opening.toList.head?.any fun c => !isIdentifierChar c) = true) (rest : String) :
    declaredName? (word ++ (name ++ (typeParameters generics ++ (opening ++ rest)))) = some name := by
  have ends := ends_typeParameters generics (Text.ends_append other rest)
  rw [← String.append_assoc]
  exact declaredName?_eq_some among named.inside named.nonempty ends

/-- A constructor has the name of its type behind another word. -/
theorem declaredName?_new {name : String} (named : IsName name) (generics : List String) (rest : String) :
    declaredName? ("func New" ++ (name ++ (typeParameters generics ++ ("(" ++ rest)))) =
      some ("New" ++ name) := by
  have function : declaredName? ("func " ++ ("New" ++ name ++ (typeParameters generics ++ ("(" ++ rest)))) =
      some ("New" ++ name) :=
    declaredName?_generic (by decide) (named.append (List.all_eq_true.1 (by decide))) generics (by decide) rest
  rwa [String.append_assoc, ← String.append_assoc] at function

/-- A method declares no name of the package. -/
theorem declaredName?_method (rest : String) : declaredName? ("func (" ++ rest) = none := by
  have filled : ∀ word ∈ declarationWords, word ≠ "" := by decide
  have heads : ∀ word ∈ declarationWords, word ≠ "func " → some 'f' ≠ word.toList.head? := by decide
  refine List.findSome?_eq_none_iff.2 fun word among => ?_
  by_cases same : word = "func "
  · subst same
    unfold nameBehind?
    have chars : ("func (" ++ rest).toList = "func ".toList ++ '(' :: rest.toList := by
      rw [String.toList_append]
      rfl
    rw [chars, behind?_append, Option.bind_some]
    rfl
  · refine nameBehind?_of_head (filled word among) ?_
    rw [String.toList_append]
    exact heads word among same

/-! ## Records -/

structure RenderedField.Fits (f : RenderedField) : Prop where
  member : OneLine f.member
  parameter : OneLine f.parameter
  type : OneLine f.type

theorem oneLine_padTo (width : Nat) {text : String} (single : OneLine text) : OneLine (padTo width text) := by
  refine oneLine_append.2 ⟨single, ?_⟩
  unfold OneLine
  rw [String.toList_ofList]
  exact fun newline => absurd (List.eq_of_mem_replicate newline) (by decide)

section

variable {identifier : String} {generics : List String} {fields : List RenderedField}

theorem oneLine_parameters (fit : ∀ f ∈ fields, f.Fits) :
    OneLine (", ".intercalate (fields.map fun f => f.parameter ++ " " ++ f.type)) := by
  refine oneLine_intercalate (by decide) (List.forall_mem_map.2 fun f member => ?_)
  simp [(fit f member).parameter, (fit f member).type, (by decide : OneLine " ")]

theorem tidy_recordLayout (named : IsName identifier) (letters : ∀ g ∈ generics, OneLine g)
    (fit : ∀ f ∈ fields, f.Fits) (comment : Option String) :
    Layout.TidyAll (recordLayout identifier generics fields comment) := by
  have name := named.oneLine
  have parameters := oneLine_typeParameters letters
  have arguments := oneLine_typeArguments letters
  have members : Layout.TidyAll (fields.flatMap fun f =>
      [.comment "//" f.comment,
        .line (padTo ((fields.map (·.member.utf8ByteSize)).foldl max 0) f.member ++ " " ++ f.type)]) := by
    refine Layout.tidyAll_flatMap.2 fun f among => ⟨(by decide : OneLine "//"), ?_, trivial⟩
    simp +decide [Layout.Tidy, oneLine_padTo, (fit f among).member, (fit f among).type]
  have assignments : Layout.TidyAll (fields.map fun f =>
      .line (f.member ++ ": " ++ f.parameter ++ ",")) := by
    refine Layout.tidyAll_map.2 fun f among => ?_
    simp +decide [Layout.Tidy, (fit f among).member, (fit f among).parameter]
  have values := oneLine_parameters fit
  unfold recordLayout
  refine ⟨(by decide : OneLine "//"), ?_, trivial, Layout.tidy_braced.2 ⟨?_, ?_, trivial⟩, trivial⟩
  · split
    · simp +decide [Layout.Tidy, name, parameters]
    · exact Layout.tidy_braced.2 ⟨by simp +decide [name, parameters], members⟩
  · simp +decide [name, parameters, values, arguments]
  · split
    · simp +decide [Layout.Tidy, name, arguments]
    · exact ⟨by simp +decide [name, arguments], by decide, assignments⟩

/-- A record declares its type and its constructor. -/
theorem declaredNames_recordLayout (named : IsName identifier) (comment : Option String) :
    (recordLayout identifier generics fields comment).flatMap declaredNames =
      [identifier, "New" ++ identifier] := by
  have type : ∀ rest : String, declaredName?
      ("type " ++ (identifier ++ (typeParameters generics ++ (" struct" ++ rest)))) = some identifier :=
    declaredName?_generic (by decide) named generics (by decide)
  unfold recordLayout
  simp only [List.flatMap_cons, List.flatMap_nil, declaredNames_comment, declaredNames_blank, declaredNames_braced,
    String.append_assoc, declaredName?_new named, List.nil_append, List.append_nil]
  split
  · rw [declaredNames_line, type]
    rfl
  · rw [declaredNames_braced]
    simp only [String.append_assoc]
    rw [type]
    rfl

end

theorem topLevelNames_structOutput {cx : RenderContext} {s : Struct TypeRef} {identifier : String}
    (named : IsName identifier) (letters : ∀ g ∈ s.generics, OneLine g)
    (fit : ∀ f ∈ s.fields, (renderField cx f).Fits) :
    topLevelNames (structOutput cx s identifier).source = [identifier, "New" ++ identifier] := by
  have tidy := tidy_recordLayout named letters (List.forall_mem_map.2 fit) s.comment
  exact (topLevelNames_text tidy).trans (declaredNames_recordLayout named s.comment)

def tupleLayout (t : TupleRecord) : List Layout :=
  let this := t.name ++ typeArguments t.parameters
  let parameters := typeParameters t.parameters
  let pairs := t.fields.zip t.parameters
  let arguments := pairs.map fun (field, parameter) => field.toLower ++ " " ++ parameter
  [.braced ("type " ++ t.name ++ parameters ++ " struct")
      (pairs.map fun (field, parameter) => .line (field ++ " " ++ parameter)),
    .blank,
    .braced ("func New" ++ t.name ++ parameters ++ "(" ++ ", ".intercalate arguments ++ ") " ++ this)
      [.block ("return " ++ this ++ "\x7b") "\x7d"
        (t.fields.map fun field => .line (field ++ ": " ++ field.toLower ++ ","))]]

theorem source_tupleOutput (t : TupleRecord) : (tupleOutput t).source = Layout.text indentation (tupleLayout t) :=
  rfl

theorem tidy_tupleLayout {t : TupleRecord} (named : IsName t.name) (letters : ∀ p ∈ t.parameters, OneLine p)
    (members : ∀ f ∈ t.fields, OneLine f ∧ OneLine f.toLower) : Layout.TidyAll (tupleLayout t) := by
  have name := named.oneLine
  have parameters := oneLine_typeParameters letters
  have arguments := oneLine_typeArguments letters
  have pairs : ∀ pair ∈ t.fields.zip t.parameters,
      OneLine pair.1 ∧ OneLine pair.1.toLower ∧ OneLine pair.2 := by
    intro pair among
    obtain ⟨field, parameter⟩ := List.of_mem_zip among
    exact ⟨(members _ field).1, (members _ field).2, letters _ parameter⟩
  have values : OneLine (", ".intercalate
      ((t.fields.zip t.parameters).map fun pair => pair.1.toLower ++ " " ++ pair.2)) := by
    refine oneLine_intercalate (by decide) (List.forall_mem_map.2 fun pair among => ?_)
    simp +decide [(pairs pair among).2]
  have fields : Layout.TidyAll ((t.fields.zip t.parameters).map fun pair =>
      .line (pair.1 ++ " " ++ pair.2)) := by
    refine Layout.tidyAll_map.2 fun pair among => ?_
    simp +decide [Layout.Tidy, pairs pair among]
  have assignments : Layout.TidyAll (t.fields.map fun field => .line (field ++ ": " ++ field.toLower ++ ",")) := by
    refine Layout.tidyAll_map.2 fun field among => ?_
    simp +decide [Layout.Tidy, members field among]
  refine ⟨Layout.tidy_braced.2 ⟨?_, fields⟩, trivial, Layout.tidy_braced.2 ⟨?_, ?_, trivial⟩, trivial⟩
  · simp +decide [name, parameters]
  · simp +decide [name, parameters, values, arguments]
  · exact ⟨by simp +decide [name, arguments], by decide, assignments⟩

theorem topLevelNames_tupleOutput {t : TupleRecord} (named : IsName t.name)
    (letters : ∀ p ∈ t.parameters, OneLine p) (members : ∀ f ∈ t.fields, OneLine f ∧ OneLine f.toLower) :
    topLevelNames (tupleOutput t).source = [t.name, "New" ++ t.name] := by
  have type : ∀ rest : String, declaredName?
      ("type " ++ (t.name ++ (typeParameters t.parameters ++ (" struct" ++ rest)))) = some t.name :=
    declaredName?_generic (by decide) named t.parameters (by decide)
  rw [source_tupleOutput, topLevelNames_text (tidy_tupleLayout named letters members)]
  unfold tupleLayout
  simp only [List.flatMap_cons, List.flatMap_nil, declaredNames_blank, declaredNames_braced, String.append_assoc, type,
    declaredName?_new named]
  rfl

/-! ## Unions -/

theorem resultParameter_mem (generics : List String) :
    resultParameter generics ∈ ["R", "Result", "Out", "MatchResult"] := by
  unfold resultParameter
  cases found : ["R", "Result", "Out"].find? (· ∉ generics) with
  | none => exact (by decide : "MatchResult" ∈ ["R", "Result", "Out", "MatchResult"])
  | some name => exact List.mem_append_left ["MatchResult"] (List.mem_of_find?_eq_some found)

theorem oneLine_resultParameter (generics : List String) : OneLine (resultParameter generics) :=
  have known : ∀ name ∈ ["R", "Result", "Out", "MatchResult"], OneLine name := by decide
  known _ (resultParameter_mem generics)

structure Handler.Fits (h : Handler) : Prop where
  name : OneLine h.name
  type : OneLine h.type

section

variable {u : Union TypeRef} {names : DeclarationNames}

theorem tidy_contractLayout (named : IsName names.identifier) (letters : ∀ g ∈ u.generics, OneLine g)
    (fit : ∀ h ∈ handlers u names.variants, h.Fits) : Layout.TidyAll (contractLayout u names) := by
  have name := named.oneLine
  have result := oneLine_resultParameter u.generics
  have arguments := oneLine_typeArguments letters
  have parameters := oneLine_typeParameters letters
  have parameters' : OneLine (typeParameters (u.generics ++ [resultParameter u.generics])) := by
    refine oneLine_typeParameters (List.forall_mem_append.2 ⟨letters, ?_⟩)
    exact List.forall_mem_singleton.2 result
  have values : OneLine (", ".intercalate (("value " ++ names.identifier ++ typeArguments u.generics) ::
      (handlers u names.variants).map fun h =>
        h.name ++ " func(" ++ h.type ++ ") " ++ resultParameter u.generics)) := by
    refine oneLine_intercalate (by decide) (List.forall_mem_cons.2 ⟨?_, List.forall_mem_map.2 fun h among => ?_⟩)
    · simp +decide [name, arguments]
    · simp +decide [(fit h among).name, (fit h among).type, result]
  have cases : Layout.TidyAll ((handlers u names.variants).flatMap fun h =>
      [.line ("case " ++ h.type ++ ":"), .indent [.line ("return " ++ h.name ++ "(v)")]]) := by
    refine Layout.tidyAll_flatMap.2 fun h among => ?_
    simp +decide [Layout.TidyAll, Layout.Tidy, (fit h among).type, (fit h among).name]
  unfold contractLayout
  refine ⟨(by decide : OneLine "//"), ?_, Layout.tidy_braced.2 ⟨?_, ?_⟩, trivial, ?_, Layout.tidy_braced.2 ⟨?_, ?_⟩,
    trivial⟩
  · simp +decide [Layout.Tidy, name]
  · simp +decide [name, parameters]
  · simp +decide [Layout.Tidy, Layout.TidyAll, markerName, name]
  · simp +decide [Layout.Tidy, name]
  · simp only [oneLine_append]
    exact ⟨⟨⟨⟨⟨⟨by decide, name⟩, parameters'⟩, by decide⟩, values⟩, by decide⟩, result⟩
  · split
    · simp +decide [Layout.Tidy, Layout.TidyAll, name]
    · refine Layout.tidyAll_append.2 ⟨⟨(by decide : OneLine _), cases⟩, ?_⟩
      simp +decide [Layout.Tidy, Layout.TidyAll, name]

/-- A union declares its interface and its match function. -/
theorem declaredNames_contractLayout (named : IsName names.identifier) :
    (contractLayout u names).flatMap declaredNames = [names.identifier, "Match" ++ names.identifier] := by
  have interface : ∀ rest : String, declaredName?
      ("type " ++ (names.identifier ++ (typeParameters u.generics ++ (" interface" ++ rest)))) =
        some names.identifier :=
    declaredName?_generic (by decide) named _ (by decide)
  have function : ∀ rest : String, declaredName?
      ("func " ++ ("Match" ++ names.identifier ++
        (typeParameters (u.generics ++ [resultParameter u.generics]) ++ ("(" ++ rest)))) =
        some ("Match" ++ names.identifier) :=
    declaredName?_generic (by decide) (named.append (List.all_eq_true.1 (by decide))) _ (by decide)
  have remark : ∀ rest : String, declaredName? ("// " ++ rest) = none :=
    declaredName?_append_eq_none (by decide) (by decide)
  have remark' : ∀ rest : String, declaredName? ("// Match" ++ rest) = none :=
    declaredName?_append_eq_none (by decide) (by decide)
  have word : "func Match" = "func " ++ "Match" := rfl
  simp only [String.append_assoc] at function
  unfold contractLayout
  simp only [List.flatMap_cons, List.flatMap_nil, declaredNames_comment, declaredNames_blank, declaredNames_line,
    declaredNames_braced, String.append_assoc, word, interface, function, remark, remark']
  rfl

theorem topLevelNames_contract (named : IsName names.identifier) (letters : ∀ g ∈ u.generics, OneLine g)
    (fit : ∀ h ∈ handlers u names.variants, h.Fits) :
    topLevelNames (Layout.text indentation (contractLayout u names)) =
      [names.identifier, "Match" ++ names.identifier] :=
  (topLevelNames_text (tidy_contractLayout named letters fit)).trans (declaredNames_contractLayout named)

theorem tidy_variantLayout {cx : RenderContext} {identifier name : String} {v : Variant TypeRef}
    (marked : OneLine identifier) (named : IsName name) (letters : ∀ g ∈ u.generics, OneLine g)
    (fit : ∀ f ∈ v.fields, (renderField cx f).Fits) : Layout.TidyAll (variantLayout cx u identifier v name) := by
  have used : ∀ g ∈ v.usedGenerics u.generics, OneLine g :=
    fun g member => letters g (List.mem_filter.1 member).1
  have arguments := oneLine_typeArguments used
  refine Layout.tidyAll_append.2 ⟨tidy_recordLayout named used (List.forall_mem_map.2 fit) v.comment, ?_⟩
  simp +decide [Layout.TidyAll, Layout.Tidy, markerName, named.oneLine, arguments, marked]

/-- A variant declares its type and its constructor; the method that marks it is no name of the package. -/
theorem topLevelNames_variant {cx : RenderContext} {identifier name : String} {v : Variant TypeRef}
    (marked : OneLine identifier) (named : IsName name) (letters : ∀ g ∈ u.generics, OneLine g)
    (fit : ∀ f ∈ v.fields, (renderField cx f).Fits) :
    topLevelNames (Layout.text indentation (variantLayout cx u identifier v name)) =
      [name, "New" ++ name] := by
  rw [topLevelNames_text (tidy_variantLayout marked named letters fit), variantLayout, List.flatMap_append,
    declaredNames_recordLayout named]
  simp only [List.flatMap_cons, List.flatMap_nil, declaredNames_blank, declaredNames_line, String.append_assoc,
    declaredName?_method]
  rfl

end

/-! ## Aliases and constants -/

theorem tidy_single {text : String} (single : OneLine text) (comment : Option String) :
    Layout.TidyAll [.comment "//" comment, .line text] :=
  ⟨(by decide : OneLine "//"), single, trivial⟩

/-- A declaration of one line. -/
theorem topLevelNames_single {word : String} (among : word ∈ declarationWords) {identifier rest : String}
    (named : IsName identifier) (single : OneLine rest) (ends : Text.Ends isIdentifierChar rest.toList)
    (comment : Option String) :
    topLevelNames (Layout.text indentation [.comment "//" comment, .line (word ++ identifier ++ rest)]) =
      [identifier] := by
  have plain : ∀ word ∈ declarationWords, OneLine word := by decide
  have line : OneLine (word ++ identifier ++ rest) := by simp [plain word among, named.oneLine, single]
  rw [topLevelNames_text (tidy_single line comment)]
  simp only [List.flatMap_cons, List.flatMap_nil, declaredNames_comment, declaredNames_line,
    declaredName?_eq_some among named.inside named.nonempty ends]
  rfl

theorem topLevelNames_aliasOutput {cx : RenderContext} {a : Alias TypeRef} {identifier : String}
    (named : IsName identifier) (single : OneLine (typeText cx a.target)) :
    topLevelNames (aliasOutput cx a identifier).source = [identifier] := by
  have line : "type " ++ identifier ++ " = " ++ typeText cx a.target =
      "type " ++ identifier ++ (" = " ++ typeText cx a.target) := String.append_assoc
  unfold aliasOutput
  dsimp only
  rw [line]
  refine topLevelNames_single (by decide) named ?_ (Text.ends_append (by decide) _) a.comment
  exact oneLine_append.2 ⟨by decide, single⟩

/-- A constant is declared by one of two words. -/
theorem initializer_keyword (value : ConstantValue) :
    (initializer value).1 = "const" ∨ (initializer value).1 = "var" := by
  unfold initializer
  cases value.datum with
  | unsigned n | signed n =>
    dsimp only
    split
    · exact .inr rfl
    · exact .inl rfl
  | bool b | float x | string s => exact .inl rfl
  | bytes bs => exact .inr rfl

theorem oneLine_scalarText (s : Scalar) : OneLine (scalarText s) := by
  have finite : ∀ s ∈ Scalar.all, OneLine (scalarText s) := by decide
  exact finite s s.mem_all

theorem topLevelNames_constantOutput {cx : RenderContext} {c : Constant ConstantValue} {identifier : String}
    (named : IsName identifier) (single : OneLine (initializer c.value).2) :
    topLevelNames (constantOutput cx c identifier).source = [identifier] := by
  have word : (initializer c.value).1 ++ " " ∈ declarationWords := by
    rcases initializer_keyword c.value with const | var
    · rw [const]
      decide
    · rw [var]
      decide
  have line : (initializer c.value).1 ++ " " ++ identifier ++ " " ++ scalarText c.value.type ++ " = " ++
      (initializer c.value).2 = (initializer c.value).1 ++ " " ++ identifier ++
        (" " ++ (scalarText c.value.type ++ (" = " ++ (initializer c.value).2))) := by
    simp only [String.append_assoc]
  unfold constantOutput
  dsimp only
  rw [line]
  refine topLevelNames_single word named ?_ (Text.ends_append (by decide) _) c.comment
  simp +decide [oneLine_scalarText, single]

/-! ## Files -/

/-- Imports declare no names of the package. -/
theorem declaredNames_importLayout (imports : List String) :
    (importLayout imports).flatMap declaredNames = [] := by
  unfold importLayout
  split
  · rfl
  · next path =>
    have other : declaredName? ("import \"" ++ (path ++ "\"")) = none :=
      declaredName?_append_eq_none (by decide) (by decide) _
    simp only [List.flatMap_cons, List.flatMap_nil, declaredNames_blank, declaredNames_line,
      String.append_assoc, other]
    rfl
  · simp only [List.flatMap_cons, List.flatMap_nil, declaredNames_blank, declaredNames_block]
    decide

theorem tidy_importLayout {imports : List String} (plain : ∀ path ∈ imports, OneLine path) :
    Layout.TidyAll (importLayout imports) := by
  unfold importLayout
  split
  · trivial
  · next path =>
    simp +decide [Layout.TidyAll, Layout.Tidy, plain path List.mem_cons_self]
  · refine ⟨trivial, ⟨by decide, by decide, ?_⟩, trivial⟩
    refine Layout.tidyAll_map.2 fun path among => ?_
    simp +decide [Layout.Tidy, plain path among]

/-- A file declares what its outputs declare. -/
theorem topLevelNames_packageFile {config : Config} {comments : List (ModulePath × String)} {m : ModulePath}
    {outputs : List Output} (package : OneLine (packageName m config))
    (plain : ∀ o ∈ outputs, ∀ path ∈ o.imports, OneLine path) :
    topLevelNames (packageFile config comments m outputs).contents =
      outputs.flatMap fun o => topLevelNames o.source := by
  have imported : ∀ path ∈ orderedStrings (outputs.flatMap (·.imports)), OneLine path := by
    intro path member
    obtain ⟨o, among, member⟩ := List.mem_flatMap.1 (mem_ordered.1 member)
    exact plain o among path member
  have sources : Layout.TidyAll (outputs.flatMap fun o => [.blank, .embed o.source]) :=
    Layout.tidyAll_flatMap.2 fun o _ => ⟨trivial, trivial, trivial⟩
  have head : declaredName? ("package " ++ packageName m config) = none :=
    declaredName?_append_eq_none (by decide) (by decide) _
  have header : topLevelNames fileHeader = [] := by decide +kernel
  unfold packageFile
  dsimp only
  rw [topLevelNames_text]
  · simp only [List.flatMap_append, List.flatMap_cons, List.flatMap_nil, declaredNames_embed, header,
      declaredNames_blank, declaredNames_comment, declaredNames_line, head, declaredNames_importLayout,
      List.flatMap_assoc]
    simp
  · refine Layout.tidyAll_append.2 ⟨Layout.tidyAll_append.2 ⟨?_, tidy_importLayout imported⟩, sources⟩
    simp +decide [Layout.TidyAll, Layout.Tidy, package]

end SchemaBindings.Go
