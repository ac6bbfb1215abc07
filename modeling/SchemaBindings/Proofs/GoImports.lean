import SchemaBindings.Proofs.Accounting
import SchemaBindings.Proofs.ReferredNames
import SchemaBindings.Proofs.Spellings

/-!
# Packages in a Go file

What a file imports is the packages of the types in it: modules of the schema, the module of the tuple records and
`math/big` (`mem_imports_iff`). In front of a name stands the last component of the import path of its package
(`typeText_qualified`).

* Import paths tell packages apart, unless the module `big` of a schema whose own package is called `math` is imported
  together with `math/big` (`importPath_eq_iff`).
* Of the modules inside one module no two have the same name, but the qualifier leaves out the modules around. So two
  packages have the same qualifier exactly if they have the same name and what is around them differs, apart from the
  clash with `math/big` (`package_clash_iff`).
-/

namespace SchemaBindings.Go

/-! ## Packages -/

inductive Package where
  | module (m : ModulePath)
  /-- Integers without a fixed width. -/
  | big
deriving DecidableEq

namespace Package

/-- The components of the import path. -/
def components (config : Config) : Package → List String
  | module m => config.package :: m.map moduleName
  | big => ["math", "big"]

def importPath (config : Config) (p : Package) : String :=
  "/".intercalate (p.components config)

/-- What stands in front of the names that the package declares. -/
def qualifier (config : Config) : Package → String
  | module m => packageName m config
  | big => "big"

/-- What stands in front of the qualifier in a type. -/
def mark : Package → String
  | module _ => ""
  | big => "*"

/-- The components in front of the last one. -/
def around (config : Config) (p : Package) : List String :=
  (p.components config).dropLast

/-- The last component of the path is the qualifier. -/
theorem components_eq (config : Config) (p : Package) :
    p.components config = p.around config ++ [p.qualifier config] := by
  cases p with
  | big => rfl
  | module m =>
    rcases List.eq_nil_or_concat' m with rfl | ⟨outer, segment, rfl⟩
    · rfl
    · have listed : (module (outer ++ [segment])).components config =
          (config.package :: outer.map moduleName) ++ [moduleName segment] := by
        simp [components]
      rw [around, listed, List.dropLast_concat, qualifier, packageName, List.getLast?_concat]

theorem components_ne_nil (config : Config) (p : Package) : p.components config ≠ [] := by
  cases p <;> exact List.cons_ne_nil _ _

end Package

/-! ## Packages of types -/

/-- The package of a name of the module `n`; none inside the same module. -/
def modulePackage? (m n : ModulePath) : Option Package :=
  if n = m then none else some (.module n)

def scalarPackage? (s : Scalar) : Option Package :=
  if s = .u128 ∨ s = .i128 then some .big else none

/-- The package that a type of the module `m` needs, apart from those of its parts. -/
def typePackage? (m : ModulePath) : TypeRef → Option Package
  | .scalar s => scalarPackage? s
  | .tuple _ => modulePackage? m tuplesModule
  | .named p _ => modulePackage? m p.module
  | _ => none

theorem moduleImport?_eq (cx : RenderContext) (n : ModulePath) :
    moduleImport? cx n = (modulePackage? cx.module n).map (·.importPath cx.config) := by
  unfold moduleImport? modulePackage?
  split <;> rfl

theorem scalarImport?_eq (config : Config) (s : Scalar) :
    scalarImport? s = (scalarPackage? s).map (·.importPath config) := by
  unfold scalarImport? scalarPackage?
  split
  · show some "math/big" = some ("/".intercalate ["math", "big"])
    decide +kernel
  · rfl

theorem typeImport?_eq (cx : RenderContext) (t : TypeRef) :
    typeImport? cx t = (typePackage? cx.module t).map (·.importPath cx.config) := by
  cases t with
  | scalar s => exact scalarImport?_eq cx.config s
  | tuple elements => exact moduleImport?_eq cx tuplesModule
  | named p arguments => exact moduleImport?_eq cx p.module
  | _ => rfl

theorem modulePackage?_eq_some {m n : ModulePath} {p : Package} (needed : modulePackage? m n = some p) :
    n ≠ m ∧ p = .module n := by
  unfold modulePackage? at needed
  split at needed
  · exact absurd needed (by simp)
  · next outside => exact ⟨outside, (Option.some.inj needed).symm⟩

theorem scalarPackage?_eq_some {s : Scalar} {p : Package} (needed : scalarPackage? s = some p) :
    p = .big ∧ scalarText s = "*" ++ "big" ++ "." ++ "Int" := by
  have finite : ∀ s ∈ Scalar.all, ∀ p, scalarPackage? s = some p →
      p = .big ∧ scalarText s = "*" ++ "big" ++ "." ++ "Int" := by
    decide +kernel
  exact finite s s.mem_all p needed

theorem qualifier_of_modulePackage? {cx : RenderContext} {n : ModulePath} {p : Package}
    (needed : modulePackage? cx.module n = some p) :
    Go.qualifier cx n = p.mark ++ p.qualifier cx.config ++ "." := by
  obtain ⟨outside, rfl⟩ := modulePackage?_eq_some needed
  rw [Go.qualifier, if_neg outside, Package.mark, String.empty_append]
  rfl

/-- A type is written with the qualifier of its package. -/
theorem typeText_qualified {cx : RenderContext} {t : TypeRef} {p : Package}
    (needed : typePackage? cx.module t = some p) :
    ∃ name, typeText cx t = p.mark ++ p.qualifier cx.config ++ "." ++ name := by
  cases t with
  | scalar s =>
    obtain ⟨rfl, text⟩ := scalarPackage?_eq_some needed
    exact ⟨"Int", text⟩
  | tuple elements =>
    refine ⟨tupleName elements.length ++ typeArguments (typeTexts cx elements), ?_⟩
    rw [← qualifier_of_modulePackage? needed, ← String.append_assoc]
    rfl
  | named path arguments =>
    refine ⟨cx.identifierOf path ++ typeArguments (typeTexts cx arguments), ?_⟩
    rw [← qualifier_of_modulePackage? needed, ← String.append_assoc]
    rfl
  | _ => exact absurd needed (by simp [typePackage?])

/-! ## Packages of declarations -/

/-- The types that the text of a declaration shows, with that of a constant. -/
def writtenTypes : SchemaDeclaration → List TypeRef
  | .const c => [.scalar c.value.type]
  | d => d.types

theorem types_or_scalar {d : SchemaDeclaration} {t : TypeRef} (written : t ∈ writtenTypes d) :
    t ∈ d.types ∨ ∃ s, t = .scalar s := by
  cases d with
  | const c => exact .inr ⟨_, List.mem_singleton.1 written⟩
  | _ => exact .inl written

/-- The types need the package in the module `m`, at any depth. -/
def Needs (m : ModulePath) (ts : List TypeRef) (p : Package) : Prop :=
  ∃ ty ∈ ts, ∃ t ∈ ty.walk, typePackage? m t = some p

section

variable {cx : RenderContext} {path : String}

theorem mem_typeImports {ts : List TypeRef} :
    path ∈ typeImports cx ts ↔ ∃ p, Needs cx.module ts p ∧ p.importPath cx.config = path := by
  rw [typeImports, orderedStrings, mem_ordered, List.mem_filterMap, SchemaType.walkAll_eq_flatMap]
  constructor
  · rintro ⟨t, inside, imported⟩
    obtain ⟨ty, type, walked⟩ := List.mem_flatMap.1 inside
    rw [typeImport?_eq, Option.map_eq_some_iff] at imported
    obtain ⟨p, needed, rfl⟩ := imported
    exact ⟨p, ⟨ty, type, t, walked, needed⟩, rfl⟩
  · rintro ⟨p, ⟨ty, type, t, walked, needed⟩, rfl⟩
    refine ⟨t, List.mem_flatMap.2 ⟨ty, type, walked⟩, ?_⟩
    rw [typeImport?_eq, needed, Option.map_some]

theorem needs_union {u : Union TypeRef} {m : ModulePath} {p : Package} :
    Needs m (u.variants.flatMap fun v => v.fields.map (·.type)) p ↔
      ∃ v ∈ u.variants, Needs m (v.fields.map (·.type)) p := by
  constructor
  · rintro ⟨ty, type, needed⟩
    obtain ⟨v, variant, type⟩ := List.mem_flatMap.1 type
    exact ⟨v, variant, ty, type, needed⟩
  · rintro ⟨v, variant, ty, type, needed⟩
    exact ⟨ty, List.mem_flatMap.2 ⟨v, variant, type⟩, needed⟩

/-- The outputs of a declaration import what its types need. -/
theorem mem_render_imports {d : SchemaDeclaration} {own : DeclarationNames} (isItem : d.isModule = false)
    (count : own.variants.length = d.variantNames.length) :
    (∃ o ∈ Go.target.render cx d own, path ∈ o.imports) ↔
      ∃ p, Needs cx.module (writtenTypes d) p ∧ p.importPath cx.config = path := by
  have single : ∀ o : Output, (∃ o' ∈ [o], path ∈ o'.imports) ↔ path ∈ o.imports := by simp
  cases d with
  | module _ _ _ => exact absurd isItem (by simp [Declaration.isModule])
  | struct s => exact (single _).trans mem_typeImports
  | typeAlias a => exact (single _).trans mem_typeImports
  | const c =>
    have imported : path ∈ (scalarImport? c.value.type).toList ↔
        ∃ p, Needs cx.module [.scalar c.value.type] p ∧ p.importPath cx.config = path := by
      rw [Option.mem_toList, scalarImport?_eq cx.config, Option.map_eq_some_iff]
      simp [Needs, SchemaType.walk, typePackage?]
    exact (single _).trans imported
  | union u =>
    rw [Declaration.variantNames, List.length_map] at count
    have variants : (u.variants.zip own.variants).map (·.1) = u.variants :=
      List.map_fst_zip (Nat.le_of_eq count.symm)
    constructor
    · rintro ⟨o, emitted, imported⟩
      rcases List.mem_cons.1 emitted with rfl | emitted
      · exact absurd imported List.not_mem_nil
      · obtain ⟨⟨v, name⟩, zipped, rfl⟩ := List.mem_map.1 emitted
        obtain ⟨p, needed, rfl⟩ := mem_typeImports.1 imported
        have variant : v ∈ u.variants := variants ▸ List.mem_map_of_mem zipped
        exact ⟨p, needs_union.2 ⟨v, variant, needed⟩, rfl⟩
    · rintro ⟨p, needed, rfl⟩
      obtain ⟨v, variant, needed⟩ := needs_union.1 needed
      rw [← variants] at variant
      obtain ⟨⟨v, name⟩, zipped, rfl⟩ := List.mem_map.1 variant
      refine ⟨_, List.mem_cons_of_mem _ (List.mem_map_of_mem zipped), ?_⟩
      exact mem_typeImports.2 ⟨p, needed, rfl⟩

end

/-! ## Packages of a run -/

section

variable {document : Document} {config : Config} {m : ModulePath} {p q : Package}

/-- What is emitted in the module `m` needs the package. -/
def Imports (document : Document) (config : Config) (m : ModulePath) (p : Package) : Prop :=
  ∃ c ∈ plan Go.target config (runNames Go.target config document.resolve) document.resolve,
    c.isReady = true ∧ c.item.module = m ∧ Needs m (writtenTypes c.item.declaration) p

/-- The outputs of a module import the packages that its types need. -/
theorem mem_imports_iff {g : Generation} (generated : generateFor Go.target config document.resolve = .ok g)
    {path : String} :
    (∃ o ∈ g.outputs, o.module = m ∧ path ∈ o.imports) ↔
      ∃ p, Imports document config m p ∧ p.importPath config = path := by
  obtain ⟨arena, -, outputs⟩ := outputs_of_generateFor generated
  have rendered : ∀ c ∈ plan Go.target config (runNames Go.target config document.resolve)
      document.resolve, ∀ own, c.status = .ok own →
      ((∃ o ∈ c.outputs Go.target config (runNames Go.target config document.resolve),
        path ∈ o.imports) ↔
          ∃ p, Needs c.item.module (writtenTypes c.item.declaration) p ∧ p.importPath config = path) := by
    intro c member own status
    obtain ⟨_, status', -, -, found⟩ :=
      status_of_mem_plan member (Candidate.isReady_iff.2 ⟨own, status⟩)
    cases status.symm.trans status'
    have variants := variants_eq_map (item_of_mem_plan member) found
    rw [Candidate.outputs, status]
    refine mem_render_imports (Declaration.mem_items_iff.1 (item_of_mem_plan member)).2 ?_
    rw [variants, List.length_map]
  rw [outputs]
  constructor
  · rintro ⟨o, emitted, rfl, imported⟩
    rcases List.mem_append.1 emitted with record | declared
    · obtain ⟨t, -, rfl⟩ := List.mem_map.1 record
      exact absurd imported List.not_mem_nil
    · obtain ⟨c, member, emitted⟩ := List.mem_flatMap.1 declared
      obtain ⟨own, status, module, -⟩ :=
        place_of_mem_outputs go_namesOutputs (List.mem_map_of_mem emitted)
      obtain ⟨p, needed, path⟩ := (rendered c member own status).1 ⟨o, emitted, imported⟩
      have module : o.module = c.item.module := module
      rw [module]
      exact ⟨p, ⟨c, member, Candidate.isReady_iff.2 ⟨own, status⟩, rfl, needed⟩, path⟩
  · rintro ⟨p, ⟨c, member, ready, rfl, needed⟩, path⟩
    obtain ⟨own, status⟩ := Candidate.isReady_iff.1 ready
    obtain ⟨o, emitted, imported⟩ := (rendered c member own status).2 ⟨p, needed, path⟩
    obtain ⟨_, -, module, -⟩ := place_of_mem_outputs go_namesOutputs (List.mem_map_of_mem emitted)
    exact ⟨o, List.mem_append_right _ (List.mem_flatMap.2 ⟨c, member, emitted⟩), module, imported⟩

/-- A package of its own: `math/big`, the tuple records, or a module in which something is emitted. -/
inductive Known (document : Document) (config : Config) : Package → Prop
  | big : Known document config .big
  | tuples : Known document config (.module tuplesModule)
  | emitted {p : SchemaPath} : Emitted Go.target config document p → Known document config (.module p.module)

theorem mem_references_of_written {d : SchemaDeclaration} {ty : TypeRef} {path : SchemaPath}
    {arguments : List TypeRef} (type : ty ∈ writtenTypes d) (inside : .named path arguments ∈ ty.walk) :
    path ∈ d.references := by
  rcases types_or_scalar type with type | ⟨s, rfl⟩
  · exact Declaration.mem_references.2 ⟨ty, type, SchemaType.mem_references.2 ⟨arguments, inside⟩⟩
  · exact absurd (List.mem_singleton.1 inside) (by simp)

theorem known_of_imports
    (closed : ReferToIdentifiers
      (plan Go.target config (runNames Go.target config document.resolve) document.resolve))
    (imported : Imports document config m p) : Known document config p := by
  obtain ⟨c, member, ready, -, ty, type, t, inside, needed⟩ := imported
  cases t with
  | scalar s =>
    obtain ⟨rfl, -⟩ := scalarPackage?_eq_some needed
    exact .big
  | tuple elements =>
    obtain ⟨-, rfl⟩ := modulePackage?_eq_some needed
    exact .tuples
  | named path arguments =>
    obtain ⟨-, rfl⟩ := modulePackage?_eq_some needed
    exact .emitted (exists_referent closed member ready (mem_references_of_written type inside))
  | _ => exact absurd needed (by simp [typePackage?])

/-! ## Clashes -/

/-- The two packages are `math/big` and the module `big` of a schema whose own package is called `math`. -/
def MathClash (config : Config) (p q : Package) : Prop :=
  config.package = "math" ∧ ∃ segment, moduleName segment = "big" ∧
    ((p = .big ∧ q = .module [segment]) ∨ (p = .module [segment] ∧ q = .big))

theorem Known.segments (known : Known document config (.module m)) : ∀ segment ∈ m, isIdentifier segment := by
  cases known with
  | tuples => decide +kernel
  | emitted emitted => exact emitted.module_identifiers

theorem Known.isIdentifierChar (valid : config.validate = .ok ()) (known : Known document config p) :
    ∀ component ∈ p.components config, ∀ c ∈ component.toList, isIdentifierChar c = true := by
  cases p with
  | big =>
    have plain : ∀ component ∈ ["math", "big"], component.toList.all isIdentifierChar := by decide
    exact fun component among => List.all_eq_true.1 (plain component among)
  | module m =>
    refine List.forall_mem_cons.2 ⟨?_, List.forall_mem_map.2 fun segment among => ?_⟩
    · exact fun c => Text.isIdentifierChar_of_mem (names_of_validate valid).2
    · exact moduleName_isIdentifierChar (known.segments segment among)

/-- No component of an import path has a slash. -/
theorem Known.slash_not_mem (valid : config.validate = .ok ()) (known : Known document config p) :
    ∀ component ∈ p.components config, '/' ∉ component.toList :=
  fun component among slash => absurd (known.isIdentifierChar valid component among '/' slash) (by decide)

/-- Modules can be told by the names on the way to them. -/
theorem Known.eq_of_emittedPath {n : ModulePath} (known : Known document config (.module m))
    (known' : Known document config (.module n)) (same : m.map moduleName = n.map moduleName) : m = n := by
  cases known with
  | tuples =>
    cases known' with
    | tuples => rfl
    | emitted emitted => exact absurd same.symm emitted.module_ne_tuples
  | emitted emitted =>
    cases known' with
    | tuples => exact absurd same emitted.module_ne_tuples
    | emitted emitted' => exact emitted.module_eq emitted' same

/-- Different packages have the same import path only in the clash with `math/big`. -/
theorem importPath_eq_iff (valid : config.validate = .ok ()) (known : Known document config p)
    (known' : Known document config q) (differ : p ≠ q) :
    p.importPath config = q.importPath config ↔ MathClash config p q := by
  have single : ∀ n : ModulePath, ["math", "big"] = config.package :: n.map moduleName →
      config.package = "math" ∧ ∃ segment, moduleName segment = "big" ∧ n = [segment] := by
    intro n same
    obtain ⟨package, rest⟩ := List.cons.inj same
    obtain ⟨segment, rfl, name⟩ := List.map_eq_singleton_iff.1 rest.symm
    exact ⟨package.symm, segment, name, rfl⟩
  constructor
  · intro same
    have components := Text.intercalate_injective rfl (p.components_ne_nil config)
      (q.components_ne_nil config) (known.slash_not_mem valid) (known'.slash_not_mem valid) same
    cases p with
    | big =>
      cases q with
      | big => exact absurd rfl differ
      | module n =>
        obtain ⟨package, segment, name, rfl⟩ := single n components
        exact ⟨package, segment, name, .inl ⟨rfl, rfl⟩⟩
    | module m =>
      cases q with
      | big =>
        obtain ⟨package, segment, name, rfl⟩ := single m components.symm
        exact ⟨package, segment, name, .inr ⟨rfl, rfl⟩⟩
      | module n =>
        exact absurd (known.eq_of_emittedPath known' (List.cons.inj components).2) (by simpa using differ)
  · rintro ⟨package, segment, name, ⟨rfl, rfl⟩ | ⟨rfl, rfl⟩⟩
    · simp [Package.importPath, Package.components, package, name]
    · simp [Package.importPath, Package.components, package, name]

/-- What is around a package tells it from others with the same qualifier, apart from the clash with `math/big`. -/
theorem qualifier_eq_iff (valid : config.validate = .ok ()) (known : Known document config p)
    (known' : Known document config q) (differ : p ≠ q) (around : p.around config = q.around config) :
    p.qualifier config = q.qualifier config ↔ MathClash config p q := by
  rw [← importPath_eq_iff valid known known' differ]
  constructor
  · intro same
    rw [Package.importPath, Package.importPath, p.components_eq, q.components_eq, around, same]
  · intro same
    have components := Text.intercalate_injective rfl (p.components_ne_nil config)
      (q.components_ne_nil config) (known.slash_not_mem valid) (known'.slash_not_mem valid) same
    rw [p.components_eq, q.components_eq] at components
    exact List.singleton_inj.1 (List.append_inj' components rfl).2

end

/-- What the file of a module imports is what the types in it need, and a type is written with the qualifier of its
package. Two packages have the same import path only if they are `math/big` and the module `big` of a schema whose own
package is called `math`, and apart from these two packages only packages with different paths around them have the same
qualifier. -/
theorem package_clash_iff {document : Document} {config : Config} {g : Generation}
    (generated : generateFor Go.target config document.resolve = .ok g)
    (closed : ReferToIdentifiers
      (plan Go.target config (runNames Go.target config document.resolve) document.resolve))
    (m : ModulePath) :
    (∀ path, (∃ o ∈ g.outputs, o.module = m ∧ path ∈ o.imports) ↔
      ∃ p, Imports document config m p ∧ p.importPath config = path) ∧
    (∀ (names : NameTable) (t : TypeRef) (p : Package), typePackage? m t = some p →
      ∃ name, typeText ⟨config, names, m⟩ t = p.mark ++ p.qualifier config ++ "." ++ name) ∧
    ∀ p q, Imports document config m p → Imports document config m q → p ≠ q →
      (p.importPath config = q.importPath config ↔ MathClash config p q) ∧
      (p.around config = q.around config →
        (p.qualifier config = q.qualifier config ↔ MathClash config p q)) := by
  obtain ⟨valid, -⟩ := files_of_generateFor generated
  refine ⟨fun path => mem_imports_iff generated, fun names t p needed => typeText_qualified needed, ?_⟩
  intro p q imported imported' differ
  have known := known_of_imports closed imported
  have known' := known_of_imports closed imported'
  exact ⟨importPath_eq_iff valid known known' differ, qualifier_eq_iff valid known known' differ⟩

/-- A struct of the root with a field for each of two types of other modules. -/
def pairDocument (others : List DeclarationExpr) (first second : String) : Document :=
  ⟨.struct ⟨"Pair", [], [⟨"first", .named first [], none⟩, ⟨"second", .named second [], none⟩], none⟩ :: others⟩

def pairItem (first second : SchemaPath) : SchemaItem :=
  ⟨[], .struct ⟨"Pair", [], [⟨"first", .named first [], none⟩, ⟨"second", .named second [], none⟩], none⟩⟩

/-- A module with an empty struct in it. -/
def unitModule (name struct : String) : DeclarationExpr :=
  .module name none [.struct ⟨struct, [], [], none⟩]

/-- The types stand in two modules next to each other. -/
def siblings : Document :=
  pairDocument [unitModule "x" "T", unitModule "y" "U"] "x::T" "y::U"

/-- The types stand in modules that are called the same and lie in different ones. -/
def cousins : Document :=
  pairDocument [.module "a" none [unitModule "x" "T"], .module "b" none [unitModule "x" "U"]]
    "a::x::T" "b::x::U"

theorem imports_of_pair {document : Document} {first second : SchemaPath}
    (item : pairItem first second ∈ document.resolve.items)
    (ready : ∀ c ∈ plan Go.target {} (runNames Go.target {} document.resolve) document.resolve,
      c.isReady = true)
    (outside : first.module ≠ []) (outside' : second.module ≠ []) :
    Imports document {} [] (.module first.module) ∧ Imports document {} [] (.module second.module) := by
  obtain ⟨c, member, same⟩ : ∃ c ∈ plan Go.target {} (runNames Go.target {} document.resolve)
      document.resolve, c.item = pairItem first second := exists_candidate item
  have home : c.item.module = [] := by
    rw [same]
    rfl
  have types : writtenTypes c.item.declaration = [.named first [], .named second []] := by
    rw [same]
    rfl
  constructor
  · refine ⟨c, member, ready c member, home, ?_⟩
    rw [types]
    exact ⟨_, List.mem_cons_self, _, List.mem_cons_self, if_neg outside⟩
  · refine ⟨c, member, ready c member, home, ?_⟩
    rw [types]
    exact ⟨_, List.mem_cons_of_mem _ List.mem_cons_self, _, List.mem_cons_self, if_neg outside'⟩

theorem siblings_packages_differ :
    ∃ g, generateFor Go.target {} siblings.resolve = .ok g ∧
      (Package.module ["x"]).importPath {} ≠ (Package.module ["y"]).importPath {} ∧
      (Package.module ["x"]).qualifier {} ≠ (Package.module ["y"]).qualifier {} := by
  have valid : Config.validate {} = .ok () := by decide +kernel
  obtain ⟨g, generated⟩ :=
    exists_generateFor_of_lenient Go.target siblings.resolve valid rfl
  have closed : ReferToIdentifiers
      (plan Go.target {} (runNames Go.target {} siblings.resolve) siblings.resolve) := by
    unfold ReferToIdentifiers
    decide +kernel
  have item : pairItem ⟨["x", "T"]⟩ ⟨["y", "U"]⟩ ∈ siblings.resolve.items :=
    List.mem_of_getElem? (i := 0) (by with_unfolding_all rfl)
  obtain ⟨first, second⟩ := imports_of_pair item (by decide +kernel) (by decide) (by decide)
  have differ : Package.module ["x"] ≠ Package.module ["y"] := by decide
  obtain ⟨paths, qualifiers⟩ :=
    (package_clash_iff generated closed []).2.2 (.module ["x"]) (.module ["y"]) first second differ
  have unlike : ¬ MathClash {} (.module ["x"]) (.module ["y"]) := fun clash => absurd clash.1 (by decide)
  have around : ∀ segment, (Package.module [segment]).around {} = ["schema"] := fun _ => rfl
  refine ⟨g, generated, fun same => unlike (paths.1 same), fun same => unlike ((qualifiers ?_).1 same)⟩
  rw [around, around]

/-- The two packages have the same qualifier under different import paths, and the struct has a field of each. -/
theorem cousins_qualifier_same :
    (generateFor Go.target {} cousins.resolve).toOption.map (·.outputs.map fun o => (o.place, o.imports)) =
      some [(([], "Pair"), ["schema/a/x", "schema/b/x"]), ((["a", "x"], "T"), []), ((["b", "x"], "U"), [])] ∧
    Imports cousins {} [] (.module ["a", "x"]) ∧ Imports cousins {} [] (.module ["b", "x"]) ∧
    (Package.module ["a", "x"]).qualifier {} = (Package.module ["b", "x"]).qualifier {} ∧
    let names := runNames Go.target {} cousins.resolve
    typeText ⟨{}, names, []⟩ (.named ⟨["a", "x", "T"]⟩ []) = "x.T" ∧
      typeText ⟨{}, names, []⟩ (.named ⟨["b", "x", "U"]⟩ []) = "x.U" := by
  have item : pairItem ⟨["a", "x", "T"]⟩ ⟨["b", "x", "U"]⟩ ∈ cousins.resolve.items :=
    List.mem_of_getElem? (i := 0) (by with_unfolding_all rfl)
  obtain ⟨first, second⟩ := imports_of_pair item (by decide +kernel) (by decide) (by decide)
  exact ⟨by decide +kernel, first, second, rfl, by decide +kernel⟩

end SchemaBindings.Go
