import Mathlib.Data.List.Lex
import Mathlib.Data.List.Perm.Basic
import Mathlib.Data.String.Basic
import SchemaBindings.Proofs.GoTexts
import SchemaBindings.Proofs.GoTopLevel

/-!
# What Go files declare

The source of a candidate declares its names in the table and its functions (`names_of_outputs`), and the file of a
package what its candidates and tuple records declare (`topLevelNames_nodup_iff`).
-/

namespace SchemaBindings.Go

/-! ## Texts of a declaration -/

/-- The names of a declaration, in the document and in the table, are identifiers. -/
structure WellNamed (d : SchemaDeclaration) (own : DeclarationNames) : Prop where
  named : ∀ name ∈ own.identifier :: own.variants, IsName name
  generics : ∀ g ∈ d.generics, isIdentifier g
  variants : ∀ name ∈ d.variantNames, isIdentifier name
  fields : ∀ fields ∈ d.records, ∀ f ∈ fields, isIdentifier f.name

/-- The table has a name for each variant besides, and the types of the declaration stand in one line. -/
structure Fits (cx : RenderContext) (d : SchemaDeclaration) (own : DeclarationNames) : Prop extends WellNamed d own where
  count : own.variants.length = d.variantNames.length
  types : ∀ t ∈ d.types, OneLine (typeText cx t)

section

variable {cx : RenderContext} {d : SchemaDeclaration} {own : DeclarationNames}

theorem WellNamed.identifier (spelled : WellNamed d own) : IsName own.identifier :=
  spelled.named own.identifier List.mem_cons_self

theorem WellNamed.lines (spelled : WellNamed d own) : ∀ g ∈ d.generics, OneLine g :=
  fun g generic => oneLine_of_isIdentifier (spelled.generics g generic)

theorem Fits.record (fits : Fits cx d own) {fields : List (Field TypeRef)} (record : fields ∈ d.records) :
    ∀ f ∈ fields, (renderField cx f).Fits := fun f field =>
  renderField_fits (fits.fields fields record f field) (fits.types f.type (mem_types_of_record record field))

theorem topLevelNames_unionOutputs {u : Union TypeRef} (fits : Fits cx (.union u) own) :
    (unionOutputs cx u own).flatMap (fun o => topLevelNames o.source) =
      [own.identifier, "Match" ++ own.identifier] ++ own.variants.flatMap fun name => [name, "New" ++ name] := by
  have named : ∀ name ∈ own.variants, IsName name := fun name among =>
    fits.named name (List.mem_cons_of_mem _ among)
  have variants : ∀ v ∈ u.variants, isIdentifier v.name := fun v variant =>
    fits.variants v.name (List.mem_map_of_mem variant)
  have each : ∀ pair ∈ u.variants.zip own.variants,
      topLevelNames (Layout.text indentation (variantLayout cx u own.identifier pair.1 pair.2)) =
        [pair.2, "New" ++ pair.2] := by
    intro pair among
    obtain ⟨variant, name⟩ := List.of_mem_zip among
    exact topLevelNames_variant fits.identifier.oneLine (named _ name) fits.lines
      (fits.record (List.mem_map_of_mem variant))
  have count : own.variants.length = u.variants.length := fits.count.trans (List.length_map _)
  have contract := topLevelNames_contract fits.identifier fits.lines (handlers_fit fits.lines variants named)
  unfold unionOutputs
  rw [List.flatMap_cons, List.flatMap_map, contract]
  congr 1
  calc (u.variants.zip own.variants).flatMap _ =
        (u.variants.zip own.variants).flatMap fun pair => [pair.2, "New" ++ pair.2] :=
          List.flatMap_congr each
    _ = ((u.variants.zip own.variants).map (·.2)).flatMap fun name => [name, "New" ++ name] := by
          rw [List.flatMap_map]
    _ = own.variants.flatMap fun name => [name, "New" ++ name] := by
          rw [List.map_snd_zip (Nat.le_of_eq count)]

/-- The source of a declaration declares its names in the table and its functions. -/
theorem names_of_render (fits : Fits cx d own) (isItem : d.isModule = false) :
    ((Go.target.render cx d own).flatMap fun o => topLevelNames o.source).Perm
      (own.identifier :: own.variants ++ functionsOf own d) := by
  have alone : own.variants.length = 0 → own.variants = [] := List.eq_nil_of_length_eq_zero
  cases d with
  | module _ _ _ => exact absurd isItem (by simp [Declaration.isModule])
  | struct s =>
    have source := topLevelNames_structOutput (s := s) fits.identifier fits.lines
      (fits.record List.mem_cons_self)
    rw [alone fits.count]
    exact .of_eq ((List.flatMap_singleton _ _).trans source)
  | typeAlias a =>
    have source := topLevelNames_aliasOutput fits.identifier (fits.types a.target List.mem_cons_self)
    rw [alone fits.count]
    exact .of_eq ((List.flatMap_singleton _ _).trans source)
  | const c =>
    have source : topLevelNames (constantOutput cx c own.identifier).source = [own.identifier] :=
      topLevelNames_constantOutput fits.identifier (oneLine_initializer c.value)
    rw [alone fits.count]
    exact .of_eq ((List.flatMap_singleton _ _).trans source)
  | union u =>
    have constructors : (own.variants.flatMap fun name => [name, "New" ++ name]).Perm
        (own.variants ++ own.variants.map ("New" ++ ·)) := by
      have split := List.flatMap_append_perm own.variants (fun name => [name]) fun name => ["New" ++ name]
      rw [List.flatMap_singleton', ← List.map_eq_flatMap] at split
      exact split.symm
    refine (List.Perm.of_eq (topLevelNames_unionOutputs fits)).trans (List.Perm.cons _ ?_)
    exact (constructors.cons _).trans List.perm_middle.symm

end

section

variable {document : Document} {config : Config} {c : Candidate}

/-! ## Texts of a candidate -/

theorem emittedName_eq (d : SchemaDeclaration) :
    emittedName Go.target.conventions d = Text.upperCamel d.name := by
  cases d <;> rfl

theorem isName_variantName (separator : isSeparator config.separator) {owner v : String}
    (identifier : isIdentifier owner) (variant : isIdentifier v) (qualified : Bool) :
    IsName (Go.target.conventions.variantName config.separator owner qualified v) := by
  unfold Conventions.variantName
  split
  · have inside : ∀ c ∈ (Text.upperCamel owner ++ config.separator).toList, isIdentifierChar c = true := by
      rw [String.toList_append]
      exact List.forall_mem_append.2
        ⟨Text.upperCamel_isIdentifierChar identifier, fun c => List.all_eq_true.1 separator c⟩
    exact (isName_upperCamel variant).append inside
  · exact isName_upperCamel variant

/-- The names in the table are made of identifier characters. -/
theorem isName_tableNames (valid : config.validate = .ok ()) (member : c ∈ goPlan document config) :
    ∀ name ∈ tableNames c, IsName name := by
  cases ready : c.isReady with
  | false =>
    rw [(names_of_not_ready ready).1]
    exact fun _ listed => absurd listed List.not_mem_nil
  | true =>
    obtain ⟨own, found, names, -⟩ := tableNames_of_ready member ready
    have item := item_of_mem_plan member
    have owner := isIdentifier_name item
    rw [names]
    refine List.forall_mem_cons.2 ⟨?_, ?_⟩
    · rw [identifier_eq item found, emittedName_eq]
      exact isName_upperCamel owner
    · rw [variants_eq_map item found]
      refine List.forall_mem_map.2 fun v variant => ?_
      exact isName_variantName (names_of_validate valid).1 owner (isIdentifier_variantName item variant) _

abbrev surroundings (document : Document) (config : Config) (c : Candidate) : RenderContext :=
  ⟨config, runNames Go.target config document.resolve, c.item.module⟩

/-- What a type of a candidate refers to is emitted if its module is named by identifiers. -/
theorem emitted_of_segments (member : c ∈ goPlan document config) (ready : c.isReady = true) {t : TypeRef}
    (type : t ∈ c.item.declaration.types) {p : SchemaPath} (inside : p ∈ t.references)
    (segments : ∀ name ∈ p.module, isIdentifier name) : p ∈ c.references ∧ Emitted Go.target config document p := by
  have referred : p ∈ c.references := Declaration.mem_references.2 ⟨t, type, inside⟩
  exact ⟨referred, (rendered_iff_identifiers member ready referred).2 segments⟩

/-- The types of a candidate stand in one line. -/
theorem oneLine_types (valid : config.validate = .ok ()) (member : c ∈ goPlan document config)
    (ready : c.isReady = true) {t : TypeRef} (type : t ∈ c.item.declaration.types)
    (referents : ∀ p ∈ t.references, ∀ name ∈ p.module, isIdentifier name) :
    OneLine (typeText (surroundings document config c) t) := by
  have package := (names_of_validate valid).2
  refine oneLine_typeText package fun u inside => ?_
  cases u with
  | named p arguments =>
    have within := SchemaType.mem_references.2 ⟨arguments, inside⟩
    obtain ⟨referred, emitted⟩ := emitted_of_segments member ready type within (referents p within)
    refine ⟨oneLine_qualifier package emitted.module_identifiers, ?_⟩
    rw [identifierOf_eq rfl member referred]
    exact (isName_upperCamel emitted.isIdentifier_name).oneLine
  | param g =>
    exact oneLine_of_isIdentifier (mem_generics_of_param (item_of_mem_plan member) type inside).2
  | _ => trivial

/-- The names in what a run emits are identifiers. -/
theorem wellNamed_of_ready (valid : config.validate = .ok ()) (member : c ∈ goPlan document config)
    {own : DeclarationNames} (status : c.status = .ok own) : WellNamed c.item.declaration own := by
  have item := item_of_mem_plan member
  have named := isName_tableNames valid member
  rw [tableNames, status] at named
  exact
    { named
      generics := fun g => isIdentifier_generic item
      variants := fun name => isIdentifier_variantName item
      fields := fun fields record f => isIdentifier_fieldName item record }

/-- The texts of a candidate stand in one line. -/
theorem fits_of_ready (valid : config.validate = .ok ()) (member : c ∈ goPlan document config)
    (referents : ∀ p ∈ c.references, ∀ name ∈ p.module, isIdentifier name) {own : DeclarationNames}
    (status : c.status = .ok own) : Fits (surroundings document config c) c.item.declaration own := by
  have ready : c.isReady = true := Candidate.isReady_iff.2 ⟨own, status⟩
  obtain ⟨_, status', -, -, found⟩ := status_of_mem_plan member ready
  cases status.symm.trans status'
  exact
    { toWellNamed := wellNamed_of_ready valid member status
      count := by rw [variants_eq_map (item_of_mem_plan member) found, List.length_map]
      types := fun t type => oneLine_types valid member ready type fun p inside =>
        referents p (Declaration.mem_references.2 ⟨t, type, inside⟩) }

/-- The source of a candidate declares its names in the table and its functions. -/
theorem names_of_outputs (valid : config.validate = .ok ()) (closed : ReferToIdentifiers (goPlan document config))
    (member : c ∈ goPlan document config) :
    ((c.outputs Go.target config (runNames Go.target config document.resolve)).flatMap fun o =>
      topLevelNames o.source).Perm (tableNames c ++ functionNames c) := by
  unfold Candidate.outputs tableNames functionNames
  cases status : c.status with
  | error fault => exact .nil
  | ok own =>
    have isItem := (Declaration.mem_items_iff.1 (item_of_mem_plan member)).2
    have referents := closed c member (Candidate.isReady_iff.2 ⟨own, status⟩)
    exact names_of_render (fits_of_ready valid member referents status) isItem

end

/-! ## Outputs of a module -/

/-- What is chosen by a key that each of the lists has throughout comes from the lists with that key. -/
theorem filter_flatMap_of_key {α β : Type} {f : α → List β} {p : β → Bool} {q : α → Bool} {as : List α}
    (keys : ∀ a ∈ as, ∀ b ∈ f a, p b = q a) : (as.flatMap f).filter p = (as.filter q).flatMap f := by
  induction as with
  | nil => rfl
  | cons a as ih =>
    obtain ⟨first, others⟩ := List.forall_mem_cons.1 keys
    rw [List.flatMap_cons, List.filter_append, ih others]
    cases chosen : q a with
    | true =>
      have all : (f a).filter p = f a := List.filter_eq_self.2 fun b member => (first b member).trans chosen
      rw [all, List.filter_cons_of_pos chosen, List.flatMap_cons]
    | false =>
      have none : (f a).filter p = [] :=
        List.filter_eq_nil_iff.2 fun b member => by rw [first b member, chosen]; decide
      rw [none, List.filter_cons_of_neg (by rw [chosen]; decide), List.nil_append]

section

variable {document : Document} {config : Config} {m : ModulePath}

/-- The tuple records stand in a module of their own. -/
theorem names_of_records (arities : List Nat) :
    (((arities.map TupleRecord.ofArity).map tupleOutput).filter (·.module = m)).flatMap
        (fun o => topLevelNames o.source) =
      (if m = tuplesModule then arities else []).flatMap fun arity => [tupleName arity, "New" ++ tupleName arity] := by
  have keys : ∀ o ∈ (arities.map TupleRecord.ofArity).map tupleOutput, o.module = tuplesModule := by
    intro o record
    obtain ⟨t, -, rfl⟩ := List.mem_map.1 record
    rfl
  split
  · next home =>
    subst home
    rw [List.filter_eq_self.2 fun o record => decide_eq_true (keys o record), List.flatMap_map, List.flatMap_map]
    exact List.flatMap_congr fun arity _ => topLevelNames_tuple arity
  · next other =>
    have none : ((arities.map TupleRecord.ofArity).map tupleOutput).filter (·.module = m) = [] := by
      refine List.filter_eq_nil_iff.2 fun o record same => other ?_
      rw [← of_decide_eq_true same, keys o record]
    rw [none]
    rfl

/-- The sources of the outputs of a module declare the names of its package. -/
theorem names_of_module (valid : config.validate = .ok ()) (closed : ReferToIdentifiers (goPlan document config))
    (arities : List Nat) :
    (((runOutputs Go.target config (runNames Go.target config document.resolve)
        (arities.map TupleRecord.ofArity) (goPlan document config)).filter (·.module = m)).flatMap fun o =>
      topLevelNames o.source).Perm (packageNames arities (goPlan document config) m) := by
  have keys : ∀ c ∈ goPlan document config,
      ∀ o ∈ c.outputs Go.target config (runNames Go.target config document.resolve),
        decide (o.module = m) = decide (c.item.module = m) := by
    intro c _ o emitted
    obtain ⟨own, -, module, -⟩ := place_of_mem_outputs go_namesOutputs (List.mem_map_of_mem emitted)
    have module : o.module = c.item.module := module
    rw [module]
  let inside := (goPlan document config).filter (·.item.module = m)
  let present := if m = tuplesModule then arities else []
  have declared : ((inside.flatMap (·.outputs Go.target config (runNames Go.target config document.resolve))).flatMap
      fun o => topLevelNames o.source).Perm (inside.flatMap tableNames ++ inside.flatMap functionNames) := by
    rw [List.flatMap_assoc]
    have each := List.Perm.flatMap_left inside fun c among =>
      names_of_outputs valid closed (List.mem_filter.1 among).1
    exact each.trans (List.flatMap_append_perm inside tableNames functionNames).symm
  have records : (present.flatMap fun arity => [tupleName arity, "New" ++ tupleName arity]).Perm
      (present.map tupleName ++ (present.map tupleName).map ("New" ++ ·)) := by
    rw [List.map_map, List.map_eq_flatMap, List.map_eq_flatMap]
    exact (List.flatMap_append_perm present (fun arity => [tupleName arity]) _).symm
  rw [runOutputs, List.filter_append, List.flatMap_append, filter_flatMap_of_key keys]
  refine (((List.Perm.of_eq (names_of_records arities)).trans records).append declared).trans ?_
  -- The functions of the records change places with the names of the candidates.
  rw [packageNames, List.append_assoc, List.append_assoc]
  exact (List.perm_append_comm_assoc _ _ _).append_left _

end

/-! ## Files of a run -/

theorem modules_nodup (ms : List ModulePath) : (ordered modulePrecedes ms).Nodup := by
  have trans : ∀ a b c, modulePrecedes a b → modulePrecedes b c → modulePrecedes a c := by
    intro a b c before before'
    exact decide_eq_true (List.lt_trans (of_decide_eq_true before) (of_decide_eq_true before'))
  have total : ∀ a b, a ≠ b → modulePrecedes a b = false → modulePrecedes b a := by
    intro a b differ after
    have before := List.le_iff_lt_or_eq.1 (List.not_lt.1 (of_decide_eq_false after))
    exact decide_eq_true (before.resolve_right differ.symm)
  refine (ordered_pairwise trans total ms).imp fun {a b} before same => ?_
  subst same
  exact List.lt_irrefl a (of_decide_eq_true before)

section

variable {document : Document} {config : Config} {g : Generation}

/-- A module of a run is that of the tuple records, or something is emitted in it. -/
theorem known_of_mem_outputs (generated : generateFor Go.target config document.resolve = .ok g) {o : Output}
    (emitted : o ∈ g.outputs) : Known document config (.module o.module) := by
  rcases module_of_mem_outputs go_namesOutputs generated emitted with tuples | ⟨p, here, module⟩
  · rw [tuples]
    exact .tuples
  · rw [module]
    exact .emitted here

theorem oneLine_imports (generated : generateFor Go.target config document.resolve = .ok g)
    (closed : ReferToIdentifiers (goPlan document config)) {o : Output} (emitted : o ∈ g.outputs) :
    ∀ path ∈ o.imports, OneLine path := by
  intro path imported
  obtain ⟨p, imports, rfl⟩ := (mem_imports_iff generated).1 ⟨o, emitted, rfl, imported⟩
  have inside := (known_of_imports closed imports).isIdentifierChar (files_of_generateFor generated).1
  exact oneLine_intercalate (by decide) fun component among =>
    oneLine_of_isIdentifierChar (inside component among)

/-- The files of a run are those of different packages, and each declares the names of its package if the modules of
all references are named by identifiers. A package has a name twice exactly if the constructor of a record in it, or the
match function of a union, is called like something that the table has named in the same module. -/
theorem topLevelNames_nodup_iff (generated : generateFor Go.target config document.resolve = .ok g) :
    let names := runNames Go.target config document.resolve
    let cs := plan Go.target config names document.resolve
    let file := fun m =>
      packageFile config document.resolve.moduleComments m (g.outputs.filter fun o => o.module = m)
    ∃ (arities : List Nat) (packages : List ModulePath),
      g.outputs = runOutputs Go.target config names (arities.map .ofArity) cs ∧
      g.files = packages.map file ∧
      (packages.map fun m => m.map moduleName).Nodup ∧
      (ReferToIdentifiers cs → ∀ m ∈ packages,
        (topLevelNames (file m).contents).Perm (packageNames arities cs m)) ∧
      ∀ m, (packageNames arities cs m).Nodup ↔
        ∀ c ∈ cs, ∀ d ∈ cs, c.item.module = m → d.item.module = m →
          ∀ name ∈ functionNames c, name ∉ tableNames d := by
  intro names cs file
  obtain ⟨valid, files⟩ := files_of_generateFor generated
  obtain ⟨arena, ascending, outputs⟩ := outputs_of_generateFor generated
  have known : ∀ m ∈ ordered modulePrecedes (g.outputs.map (·.module)), Known document config (.module m) := by
    intro m listed
    obtain ⟨o, emitted, rfl⟩ := List.mem_map.1 (mem_ordered.1 listed)
    exact known_of_mem_outputs generated emitted
  refine ⟨arena.arities, ordered modulePrecedes (g.outputs.map Output.module), outputs, files, ?_, ?_, ?_⟩
  · refine List.Nodup.map_on (fun m listed n listed' same => ?_) (modules_nodup _)
    exact (known m listed).eq_of_emittedPath (known n listed') same
  · intro closed m listed
    have package := oneLine_packageName (names_of_validate valid).2 (known m listed).segments
    have plain : ∀ o ∈ g.outputs.filter fun o => o.module = m, ∀ path ∈ o.imports, OneLine path :=
      fun o member => oneLine_imports generated closed (List.mem_filter.1 member).1
    rw [topLevelNames_packageFile package plain, outputs]
    exact names_of_module valid closed arena.arities
  · exact packageNames_nodup_iff (ascending.arities.imp Nat.ne_of_lt)

end

/-- A struct with a tuple, a union with two variants, an alias and a constant. -/
def mixedDocument : Document :=
  ⟨[.struct ⟨"A", [], [⟨"x", .tuple [.scalar .u8, .scalar .string], none⟩], some "Two values."⟩,
    .union ⟨"U", [], [⟨"V", [], none⟩, ⟨"W", [⟨"a", .named "A" [], none⟩], none⟩], none⟩,
    .typeAlias ⟨"Bytes", .list (.scalar .u8), none⟩,
    .const ⟨"LIMIT", ⟨.u8, .int "7"⟩, none⟩]⟩

theorem mixed_names_nodup :
    ∃ g, generateFor Go.target {} mixedDocument.resolve = .ok g ∧
      ∀ file ∈ g.files, (topLevelNames file.contents).Nodup := by
  have valid : Config.validate {} = .ok () := by decide +kernel
  obtain ⟨g, generated⟩ := exists_generateFor_of_lenient Go.target mixedDocument.resolve valid rfl
  have closed : ReferToIdentifiers (goPlan mixedDocument {}) := by
    unfold ReferToIdentifiers
    decide +kernel
  have apart : ∀ c ∈ goPlan mixedDocument {}, ∀ d ∈ goPlan mixedDocument {},
      ∀ name ∈ functionNames c, name ∉ tableNames d := by
    decide +kernel
  obtain ⟨arities, packages, -, files, -, declared, nodup⟩ := topLevelNames_nodup_iff generated
  refine ⟨g, generated, fun file member => ?_⟩
  rw [files] at member
  obtain ⟨m, listed, rfl⟩ := List.mem_map.1 member
  refine (declared closed m listed).nodup_iff.2 ((nodup m).2 ?_)
  exact fun c member d member' _ _ => apart c member d member'

/-- A struct that is called like the constructor of another one. -/
def shadowedDocument : Document :=
  ⟨[.struct ⟨"A", [], [], none⟩, .struct ⟨"NewA", [], [], none⟩]⟩

/-- The package has two declarations of the one name. -/
theorem shadowed_name_twice :
    (generateFor Go.target {} shadowedDocument.resolve).toOption.map
      (fun g => g.files.map fun file => topLevelNames file.contents) =
        some [["A", "NewA", "NewA", "NewNewA"]] := by
  decide +kernel

end SchemaBindings.Go
