import SchemaBindings.Proofs.EmittedTypes
import SchemaBindings.Proofs.GoMentions
import SchemaBindings.Proofs.OutputPaths

/-!
# Go outputs import what they mention

A declaration has an output for each type that it emits, and one for the contract of a union. What an output imports is
found while the types in it are written (`outputTypes`).

* An output imports the packages that its types mention, at any depth, and no others (`Go.importsExactly_of_render`).
  Their qualifiers stand in its source.
* Read as Go source, it has no other qualifiers (`Go.mentionsExactly_of_render`). For that the names in it have to be
  identifiers, which they are in a run (`Go.wellNamed_of_ready`), except that a type may refer to a module that is left
  out (`Go.wellWorded_of_ready`).
-/

namespace SchemaBindings

/-! ## Parts of a source -/

theorem Layout.isPartOf_indented {part line : String} (inside : IsPartOf part line) (unit : String) (depth : Nat) :
    IsPartOf part (indented unit depth line) := by
  unfold indented
  split
  · next empty => rwa [← empty]
  · exact inside.behind _

/-- A line of a layout stands in its text. -/
theorem Layout.isPartOf_text {unit line : String} {pieces : List Layout} (among : line ∈ lineTextsAll unit 0 pieces) :
    IsPartOf line (text unit pieces) := by
  have whole : IsPartOf (line ++ "\n") (text unit pieces) := by
    rw [text, renderAll_eq, IsPartOf, String.toList_join, List.flatMap_map]
    exact List.infix_of_mem_flatten (List.mem_map_of_mem (f := fun line : String => (line ++ "\n").toList) among)
  exact ((isPartOf_self line).append "\n").trans whole

namespace Go

/-! ## Types of outputs -/

/-- The types that each output of a declaration emits. The contract of a union names its own types only. -/
def outputTypes (own : DeclarationNames) : SchemaDeclaration → List (List TypeRef)
  | .struct s => [s.fields.map (·.type)]
  | .union u => [] :: (u.variants.zip own.variants).map fun (v, _) => v.fields.map (·.type)
  | .typeAlias a => [[a.target]]
  | .const c => [[.scalar c.value.type]]
  | .module _ _ _ => []

/-- The output imports what its types mention, and nothing else. Each type stands in the source as an expression in
which only packages that are imported are used, and the qualifier of each import stands there. -/
structure ImportsExactly (cx : RenderContext) (o : Output) (ts : List TypeRef) : Prop where
  imports_iff : ∀ path, path ∈ o.imports ↔
    ∃ p, (∃ t ∈ ts, Mentioned cx.module t p) ∧ p.importPath cx.config = path
  ascending : o.imports.Pairwise (· < ·)
  shown : ∀ t ∈ ts, IsPartOf ((TypeExpression.ofType cx t).text cx.config) o.source
  imported : ∀ t ∈ ts, ∀ p ∈ (TypeExpression.ofType cx t).packages, p.importPath cx.config ∈ o.imports
  qualified : ∀ p, (∃ t ∈ ts, Mentioned cx.module t p) → IsPartOf (p.qualifier cx.config ++ ".") o.source

section

variable {cx : RenderContext} {o : Output} {ts : List TypeRef}

/-- The qualifier of a package stands in the text of a type that mentions it. -/
theorem isPartOf_of_mentioned {t : TypeRef} {p : Package} (mentioned : Mentioned cx.module t p) :
    IsPartOf (p.qualifier cx.config ++ ".") (typeText cx t) := by
  obtain ⟨u, inside, needed⟩ := mentioned_iff.1 mentioned
  obtain ⟨name, text⟩ := typeText_qualified needed
  have here : IsPartOf (p.qualifier cx.config ++ ".") (typeText cx u) := by
    have split : p.mark ++ p.qualifier cx.config ++ "." ++ name = p.mark ++ (p.qualifier cx.config ++ ".") ++ name := by
      simp only [String.append_assoc]
    rw [text, split]
    exact ((isPartOf_self _).behind p.mark).append name
  exact here.trans (TargetName.go.isPartOf_of_mem_walk cx inside)

/-- It is enough that the imports are right and that the texts of the types stand in the source. -/
theorem ImportsExactly.of_shown (shown : ∀ t ∈ ts, IsPartOf (typeText cx t) o.source)
    (ascending : o.imports.Pairwise (· < ·))
    (imports_iff : ∀ path, path ∈ o.imports ↔
      ∃ p, (∃ t ∈ ts, Mentioned cx.module t p) ∧ p.importPath cx.config = path) : ImportsExactly cx o ts where
  imports_iff := imports_iff
  ascending := ascending
  shown := fun t type => by
    rw [TypeExpression.text_ofType]
    exact shown t type
  imported := fun t type p used =>
    (imports_iff _).2 ⟨p, ⟨t, type, TypeExpression.mem_packages_iff.1 used⟩, rfl⟩
  qualified := fun p ⟨t, type, mentioned⟩ => (isPartOf_of_mentioned mentioned).trans (shown t type)

theorem mem_typeImports_iff {path : String} :
    path ∈ typeImports cx ts ↔ ∃ p, (∃ t ∈ ts, Mentioned cx.module t p) ∧ p.importPath cx.config = path := by
  rw [mem_typeImports]
  simp only [needs_iff_mentioned]

/-- The types of the fields stand in a record. -/
theorem isPartOf_recordLayout (identifier : String) (generics : List String) (fields : List (Field TypeRef))
    (comment : Option String) (behind : List Layout) : ∀ t ∈ fields.map (·.type),
      IsPartOf (typeText cx t) (Layout.text indentation
        (recordLayout identifier generics (fields.map (renderField cx)) comment ++ behind)) := by
  refine List.forall_mem_map.2 fun f field => ?_
  have some : (fields.map (renderField cx)).isEmpty = false := by
    simpa using List.ne_nil_of_mem field
  let width := ((fields.map (renderField cx)).map (·.member.utf8ByteSize)).foldl max 0
  have line : IsPartOf (typeText cx f.type) (padTo width (memberName f.name) ++ " " ++ typeText cx f.type) :=
    (isPartOf_self _).behind _
  refine (Layout.isPartOf_indented line indentation 1).trans (Layout.isPartOf_text ?_)
  rw [Layout.lineTextsAll_eq_flatMap, List.flatMap_append, recordLayout, some]
  refine List.mem_append_left _ (List.mem_flatMap.2 ⟨_, List.mem_cons_of_mem _ List.mem_cons_self, ?_⟩)
  refine List.mem_cons_of_mem _ (List.mem_append_left _ ?_)
  rw [Layout.lineTextsAll_eq_flatMap, List.mem_flatMap]
  refine ⟨.line _, List.mem_flatMap.2 ⟨renderField cx f, List.mem_map_of_mem field,
    List.mem_cons_of_mem _ List.mem_cons_self⟩, List.mem_singleton_self _⟩

/-- A line behind a comment stands in the text. -/
theorem isPartOf_single {part line : String} (inside : IsPartOf part line) (comment : Option String) :
    IsPartOf part (Layout.text indentation [.comment "//" comment, .line line]) := by
  refine (Layout.isPartOf_indented inside indentation 0).trans (Layout.isPartOf_text ?_)
  exact List.mem_append_right _ List.mem_cons_self

/-! ## Outputs of a declaration -/

theorem importsExactly_structOutput (s : Struct TypeRef) (identifier : String) :
    ImportsExactly cx (structOutput cx s identifier) (s.fields.map (·.type)) := by
  refine .of_shown ?_ (orderedStrings_ascending _) fun path => mem_typeImports_iff
  have shown := @isPartOf_recordLayout cx identifier s.generics s.fields s.comment []
  rwa [List.append_nil] at shown

theorem importsExactly_variant (u : Union TypeRef) (identifier name : String) (v : Variant TypeRef) :
    ImportsExactly cx
      { identifier := name
        module := cx.module
        source := Layout.text indentation (variantLayout cx u identifier v name)
        imports := typeImports cx (v.fields.map (·.type)) } (v.fields.map (·.type)) :=
  .of_shown (isPartOf_recordLayout name _ v.fields v.comment _) (orderedStrings_ascending _) fun _ =>
    mem_typeImports_iff

theorem importsExactly_aliasOutput (a : Alias TypeRef) (identifier : String) :
    ImportsExactly cx (aliasOutput cx a identifier) [a.target] := by
  refine .of_shown ?_ (orderedStrings_ascending _) fun path => mem_typeImports_iff
  exact List.forall_mem_singleton.2 (isPartOf_single ((isPartOf_self _).behind _) a.comment)

theorem importsExactly_constantOutput (c : Constant ConstantValue) (identifier : String) :
    ImportsExactly cx (constantOutput cx c identifier) [.scalar c.value.type] := by
  refine .of_shown ?_ ?_ fun path => ?_
  · refine List.forall_mem_singleton.2 (isPartOf_single ?_ c.comment)
    exact (((isPartOf_self (scalarText c.value.type)).behind _).append _).append _
  · show (scalarImport? c.value.type).toList.Pairwise (· < ·)
    cases scalarImport? c.value.type with
    | none => exact List.Pairwise.nil
    | some path => exact List.pairwise_singleton _ _
  · show path ∈ (scalarImport? c.value.type).toList ↔ _
    rw [Option.mem_toList, scalarImport?_eq cx.config, Option.map_eq_some_iff]
    simp [mentioned_iff, SchemaType.walk, typePackage?]

/-- An output without types imports nothing. -/
theorem importsExactly_nil {o : Output} (none : o.imports = []) : ImportsExactly cx o [] := by
  refine .of_shown nofun ?_ fun path => ?_
  · rw [none]
    exact List.Pairwise.nil
  · rw [none]
    simp

theorem importsExactly_of_render (cx : RenderContext) (d : SchemaDeclaration) (own : DeclarationNames) :
    List.Forall₂ (ImportsExactly cx) (Go.target.render cx d own) (outputTypes own d) := by
  cases d with
  | struct s => exact .cons (importsExactly_structOutput s own.identifier) .nil
  | typeAlias a => exact .cons (importsExactly_aliasOutput a own.identifier) .nil
  | const c => exact .cons (importsExactly_constantOutput c own.identifier) .nil
  | module _ _ _ => exact .nil
  | union u =>
    refine .cons (importsExactly_nil rfl) ?_
    rw [List.forall₂_map_left_iff, List.forall₂_map_right_iff, List.forall₂_same]
    exact fun pair _ => importsExactly_variant u own.identifier pair.2 pair.1

/-- Read as source, each output has the qualifiers of what its types mention, and no others. The contract of a union
emits no types, so it has none. -/
theorem mentionsExactly_of_render {d : SchemaDeclaration} {own : DeclarationNames} (spelled : WellNamed d own) :
    List.Forall₂ (fun o ts => (∀ t ∈ ts, WellWorded cx t) → MentionsExactly cx o ts) (Go.target.render cx d own)
      (outputTypes own d) := by
  cases d with
  | struct s => exact .cons (mentions_structOutput spelled) .nil
  | typeAlias a => exact .cons (fun types => mentions_aliasOutput spelled (List.forall_mem_singleton.1 types)) .nil
  | const c => exact .cons (fun _ => mentions_constantOutput spelled.identifier) .nil
  | module _ _ _ => exact .nil
  | union u =>
    refine .cons (fun _ q => ?_) ?_
    · show q ∈ sourceQualifiers (Layout.text indentation (contractLayout u own)) ↔ _
      rw [mentions_contract spelled]
      exact iff_of_false List.not_mem_nil not_mentioned_nil
    · rw [List.forall₂_map_left_iff, List.forall₂_map_right_iff, List.forall₂_same]
      intro pair among types q
      obtain ⟨variant, name⟩ := List.of_mem_zip among
      exact mentions_variant spelled variant types (spelled.named _ (List.mem_cons_of_mem _ name))

/-- The types of the outputs are among those that the declaration shows. -/
theorem mem_writtenTypes_of_outputTypes {d : SchemaDeclaration} {own : DeclarationNames}
    (among : ts ∈ outputTypes own d) : ∀ t ∈ ts, t ∈ writtenTypes d := by
  cases d with
  | struct _ | typeAlias _ | const _ =>
    rw [List.mem_singleton.1 among]
    exact fun _ type => type
  | module _ _ _ => exact absurd among List.not_mem_nil
  | union u =>
    rcases List.mem_cons.1 among with rfl | variant
    · exact List.forall_mem_nil _
    · obtain ⟨pair, paired, rfl⟩ := List.mem_map.1 variant
      exact fun t type => List.mem_flatMap.2 ⟨pair.1, (List.of_mem_zip paired).1, type⟩

theorem forall₂_outputTypes {d : SchemaDeclaration} {own : DeclarationNames} {os : List Output}
    {R S : Output → List TypeRef → Prop} (each : List.Forall₂ R os (outputTypes own d))
    (step : ∀ o ts, (∀ t ∈ ts, t ∈ writtenTypes d) → R o ts → S o ts) : List.Forall₂ S os (outputTypes own d) := by
  obtain ⟨count, paired⟩ := List.forall₂_iff_zip.1 each
  refine List.forall₂_iff_zip.2 ⟨count, fun among => step _ _ ?_ (paired among)⟩
  exact mem_writtenTypes_of_outputTypes (List.of_mem_zip among).2

end

/-! ## Names in a run -/

theorem isIdentifier_upperCamel {name : String} (identifier : isIdentifier name) :
    isIdentifier (Text.upperCamel name) := by
  obtain ⟨c, rest, chars, capital⟩ := Text.upperCamel_head identifier
  have inside := Text.upperCamel_isIdentifierChar identifier
  rw [chars] at inside
  refine isIdentifier_iff.2 ⟨c, rest, chars, ?_, fun d member => inside d (List.mem_cons_of_mem _ member)⟩
  exact Bool.or_eq_true_iff.2 (.inl capital)

/-- The names in a type are identifiers, apart from those in its parts. -/
def NamedByIdentifiers (cx : RenderContext) : TypeRef → Prop
  | .named p _ => (∀ segment ∈ p.module, isIdentifier segment) ∧ isIdentifier (cx.identifierOf p)
  | .param g => isIdentifier g
  | _ => True

section

variable {cx : RenderContext}

theorem wordedAll_iff {config : Config} {es : List TypeExpression} :
    TypeExpression.WordedAll config es ↔ ∀ e ∈ es, e.Worded config := by
  induction es with
  | nil => simp [TypeExpression.WordedAll]
  | cons e es ih => rw [TypeExpression.WordedAll, ih, List.forall_mem_cons]

theorem worded_ofScalar (config : Config) (s : Scalar) : (TypeExpression.ofScalar s).Worded config := by
  have big : ∀ p ∈ some Package.big, isIdentifier (p.qualifier config) := by
    rintro p ⟨⟩
    show isIdentifier "big"
    decide +kernel
  cases s with
  | u128 | i128 => exact ⟨big, by decide +kernel, trivial⟩
  | _ => exact ⟨nofun, by decide +kernel, trivial⟩

theorem isIdentifier_tupleName (arity : Nat) : isIdentifier (tupleName arity) := by
  have digits : ∀ c ∈ "uple".toList ++ (toString arity).toList, isIdentifierChar c = true := by
    refine List.forall_mem_append.2 ⟨List.all_eq_true.1 (by decide), fun c digit => ?_⟩
    simp [isIdentifierChar, Char.isAlphanum, Text.isDigit_of_mem_toString digit]
  have chars : (tupleName arity).toList = 'T' :: ("uple".toList ++ (toString arity).toList) := String.toList_append
  exact isIdentifier_iff.2 ⟨'T', _, chars, by decide, digits⟩

/-- The names in an expression are identifiers if those in its type are. -/
theorem worded_ofType (valid : cx.config.validate = .ok ()) {t : TypeRef}
    (named : ∀ u ∈ t.walk, NamedByIdentifiers cx u) : (TypeExpression.ofType cx t).Worded cx.config := by
  have package : ∀ m : ModulePath, (∀ segment ∈ m, isIdentifier segment) →
      ∀ p ∈ modulePackage? cx.module m, isIdentifier (p.qualifier cx.config) := by
    intro m segments p needed
    obtain ⟨-, rfl⟩ := modulePackage?_eq_some needed
    exact isIdentifier_packageName valid segments
  induction t using SchemaType.children_induction with
  | step t ih =>
    have parts : ∀ u ∈ t.children, (TypeExpression.ofType cx u).Worded cx.config := fun u child =>
      ih u child fun v inside => named v (SchemaType.mem_walk_iff.2 (.inr ⟨u, child, inside⟩))
    have arguments : ∀ ts : List TypeRef, (∀ u ∈ ts, (TypeExpression.ofType cx u).Worded cx.config) →
        TypeExpression.WordedAll cx.config (TypeExpression.ofTypes cx ts) := by
      intro ts each
      rw [TypeExpression.ofTypes_eq_map, wordedAll_iff]
      exact List.forall_mem_map.2 each
    have this := named t (SchemaType.mem_walk_iff.2 (.inl rfl))
    cases t with
    | scalar s => exact worded_ofScalar cx.config s
    | tuple elements => exact ⟨package tuplesModule (by decide +kernel), isIdentifier_tupleName _, arguments _ parts⟩
    | named p ts => exact ⟨package p.module this.1, this.2, arguments _ parts⟩
    | map key value => exact ⟨parts key (by simp [SchemaType.children]), parts value (by simp [SchemaType.children])⟩
    | hashSet item => exact ⟨parts item (by simp [SchemaType.children]), trivial⟩
    | list item | array item _ | option item => exact parts item (by simp [SchemaType.children])
    | param g => exact ⟨fun _ needed => absurd needed (Option.not_mem_none _), this, trivial⟩

end

section

variable {document : Document} {config : Config} {c : Candidate}

/-- The names in a type are identifiers, if those of the modules that it refers to are. -/
theorem wellWorded_of_ready (valid : config.validate = .ok ()) (member : c ∈ goPlan document config)
    (ready : c.isReady = true) {t : TypeRef} (type : t ∈ writtenTypes c.item.declaration)
    (referents : ∀ p ∈ t.references, ∀ name ∈ p.module, isIdentifier name) :
    WellWorded (surroundings document config c) t := by
  rcases types_or_scalar type with type | ⟨s, rfl⟩
  · refine ⟨oneLine_types valid member ready type referents, worded_ofType valid fun u inside => ?_⟩
    cases u with
    | named p arguments =>
      have within := SchemaType.mem_references.2 ⟨arguments, inside⟩
      obtain ⟨referred, emitted⟩ := emitted_of_segments member ready type within (referents p within)
      refine ⟨emitted.module_identifiers, ?_⟩
      rw [identifierOf_eq rfl member referred]
      exact isIdentifier_upperCamel emitted.isIdentifier_name
    | param g => exact (mem_generics_of_param (item_of_mem_plan member) type inside).2
    | _ => trivial
  · exact ⟨oneLine_scalarText s, worded_ofScalar config s⟩

/-- Whatever is rendered for Go imports exactly what its types mention. Each type stands in the source as an expression
that uses no other packages, the qualifiers of all imports stand there, and the value of a constant uses no package that
is not imported. In a run, in which tuple records mention nothing, a source has no other qualifiers at all, unless one of
its own types leads to a module that is left out. The contract of a union has no types, so it mentions nothing in any
run. -/
theorem outputs_import_exactly {g : Generation} (generated : generateFor Go.target config document.resolve = .ok g) :
    (∀ cx d own, List.Forall₂ (ImportsExactly cx) (Go.target.render cx d own) (outputTypes own d)) ∧
    (∀ cx c identifier, ∀ q ∈ qualifiers (initializer c.value).2.toList, ∃ p : Package,
      p.qualifier cx.config = q ∧ p.importPath cx.config ∈ (constantOutput cx c identifier).imports) ∧
    (∀ arity, (tupleOutput (.ofArity arity)).imports = [] ∧
      sourceQualifiers (tupleOutput (.ofArity arity)).source = []) ∧
    (∃ arities : List Nat, g.outputs = arities.map (fun arity => tupleOutput (.ofArity arity)) ++
      (goPlan document config).flatMap (·.outputs Go.target config (runNames Go.target config document.resolve))) ∧
    ∀ c ∈ goPlan document config, ∀ own, c.status = .ok own →
      c.outputs Go.target config (runNames Go.target config document.resolve) =
        Go.target.render (surroundings document config c) c.item.declaration own ∧
      (∀ u, c.item.declaration = .union u →
        sourceQualifiers (Layout.text indentation (contractLayout u own)) = []) ∧
      List.Forall₂
        (fun o ts => (∀ t ∈ ts, ∀ p ∈ t.references, ∀ name ∈ p.module, isIdentifier name) →
          MentionsExactly (surroundings document config c) o ts)
        (Go.target.render (surroundings document config c) c.item.declaration own)
        (outputTypes own c.item.declaration) := by
  obtain ⟨valid, -⟩ := files_of_generateFor generated
  obtain ⟨arena, -, outputs⟩ := outputs_of_generateFor generated
  refine ⟨importsExactly_of_render, fun cx c identifier q member => ?_, fun arity => ⟨rfl, ?_⟩, ⟨arena.arities, ?_⟩,
    fun c member own status => ⟨by rw [Candidate.outputs, status], fun u declared => ?_, ?_⟩⟩
  · obtain ⟨rfl, wide⟩ := mem_qualifiers_initializer member
    refine ⟨.big, rfl, ((importsExactly_constantOutput c identifier).imports_iff _).2 ⟨.big, ?_, rfl⟩⟩
    exact ⟨_, List.mem_singleton_self _, .integer wide⟩
  · exact sourceQualifiers_tupleOutput arity
  · rw [outputs, runOutputs, TupleArena.records, List.map_map]
    rfl
  · have spelled := wellNamed_of_ready valid member status
    rw [declared] at spelled
    exact mentions_contract spelled
  · refine forall₂_outputTypes (mentionsExactly_of_render (wellNamed_of_ready valid member status))
      fun o ts written exactly referents => exactly fun t type => ?_
    have ready : c.isReady = true := Candidate.isReady_iff.2 ⟨own, status⟩
    exact wellWorded_of_ready valid member ready (written t type) (referents t type)

end

/-- An integer of 128 bits and a type of another module inside a tuple that is a value of a map, a union whose variants
mention different packages, and a constant that is too large for 64 bits. -/
def nestedDocument : Document :=
  ⟨[.struct ⟨"Holder", ["T"], [⟨"entries", .map (.scalar .string)
        (.tuple [.named "geo::Box" [.option (.scalar .i128)], .param "T"]), some "See a.b."⟩], none⟩,
    .union ⟨"Shape", [], [⟨"Empty", [], none⟩, ⟨"At", [⟨"place", .named "geo::Box" [.scalar .u8], none⟩], none⟩], none⟩,
    .const ⟨"LIMIT", ⟨.u128, .int "18446744073709551616"⟩, none⟩,
    .module "geo" none [.struct ⟨"Box", ["A"], [⟨"item", .param "A", none⟩], none⟩]]⟩

theorem nested_outputs_import_exactly :
    ∃ g, generateFor Go.target {} nestedDocument.resolve = .ok g ∧
      (g.outputs.map fun o => (o.identifier, o.imports)) =
        [("Tuple2", []), ("Holder", ["math/big", "schema/geo", "schema/tuples"]), ("Shape", []), ("Empty", []),
          ("At", ["schema/geo"]), ("Limit", ["math/big"]), ("Box", [])] ∧
      ∀ c ∈ goPlan nestedDocument {}, ∀ own, c.status = .ok own →
        List.Forall₂ (MentionsExactly (surroundings nestedDocument {} c))
          (Go.target.render (surroundings nestedDocument {} c) c.item.declaration own)
          (outputTypes own c.item.declaration) := by
  have valid : Config.validate {} = .ok () := by decide +kernel
  obtain ⟨g, generated⟩ := exists_generateFor_of_lenient Go.target nestedDocument.resolve valid rfl
  have closed : ReferToIdentifiers (goPlan nestedDocument {}) := by
    unfold ReferToIdentifiers
    decide +kernel
  have computed : (generateFor Go.target {} nestedDocument.resolve).toOption.map
      (·.outputs.map fun o => (o.identifier, o.imports)) =
        some [("Tuple2", []), ("Holder", ["math/big", "schema/geo", "schema/tuples"]), ("Shape", []), ("Empty", []),
          ("At", ["schema/geo"]), ("Limit", ["math/big"]), ("Box", [])] := by
    decide +kernel
  rw [generated] at computed
  obtain ⟨-, -, -, -, exactly⟩ := outputs_import_exactly generated
  refine ⟨g, generated, Option.some.inj computed, fun c member own status => ?_⟩
  refine forall₂_outputTypes (exactly c member own status).2.2 fun o ts written mentions =>
    mentions fun t type p inside => ?_
  obtain ⟨arguments, within⟩ := SchemaType.mem_references.1 inside
  exact closed c member (Candidate.isReady_iff.2 ⟨own, status⟩) p (mem_references_of_written (written t type) within)

end Go

end SchemaBindings
