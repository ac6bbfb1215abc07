import SchemaBindings.Proofs.WellFormed

/-!
# Accepted declarations

Resolution keeps exactly the well-formed declarations among those that are the first of their name in a module that
is kept, each at its place and with the names in its types replaced by paths. A module is kept if its name
and those of the modules around it are identifiers, whatever it holds.
-/

namespace SchemaBindings

open Declaration

/-! ## One declaration -/

/-- What a declaration of the module `m` becomes: names are replaced by paths, a literal by its value, and the
declarations of a module by what they resolve to. -/
inductive Document.ResolvesTo (document : Document) (m : ModulePath) :
    DeclarationExpr → SchemaDeclaration → Prop
  | struct (s : Struct TypeExpr) :
      document.ResolvesTo m (.struct s) (.struct (s.map (document.resolved m)))
  | union (u : Union TypeExpr) :
      document.ResolvesTo m (.union u) (.union (u.map (document.resolved m)))
  | typeAlias (a : Alias TypeExpr) :
      document.ResolvesTo m (.typeAlias a) (.typeAlias (a.map (document.resolved m)))
  | const {c : Constant ConstantExpr} {value : ConstantValue} :
      fold c.value.type c.value.literal = .ok value →
      document.ResolvesTo m (.const c) (.const ⟨c.name, value, c.comment⟩)
  | module (name : String) (comment : Option String) (inner : List DeclarationExpr) :
      document.ResolvesTo m (.module name comment inner)
        (.module name comment (resolveAll document.symbols (m ++ [name]) [] inner).declarations)

theorem Document.ResolvesTo.name_eq {document : Document} {m : ModulePath} {d : DeclarationExpr}
    {d' : SchemaDeclaration} (resolves : document.ResolvesTo m d d') : d'.name = d.name := by
  cases resolves <;> rfl

theorem Document.ResolvesTo.isModule_eq {document : Document} {m : ModulePath}
    {d : DeclarationExpr} {d' : SchemaDeclaration} (resolves : document.ResolvesTo m d d') :
    d'.isModule = d.isModule := by
  cases resolves <;> rfl

theorem Document.ResolvesTo.variantNames_eq {document : Document} {m : ModulePath}
    {d : DeclarationExpr} {d' : SchemaDeclaration} (resolves : document.ResolvesTo m d d') :
    d'.variantNames = d.variantNames := by
  cases resolves with
  | union u => exact map_name_map_variant _ _
  | _ => rfl

theorem Document.ResolvesTo.unique {document : Document} {m : ModulePath} {d : DeclarationExpr}
    {d' e' : SchemaDeclaration} (resolves : document.ResolvesTo m d d')
    (resolves' : document.ResolvesTo m d e') : d' = e' := by
  cases resolves with
  | const folds =>
    cases resolves' with
    | const folds' => cases folds.symm.trans folds'; rfl
  | _ =>
    cases resolves'
    rfl

theorem Document.WellFormed.exists_resolvesTo {document : Document} {m : ModulePath}
    {d : DeclarationExpr} (formed : document.WellFormed m d) : ∃ d', document.ResolvesTo m d d' := by
  cases d with
  | struct s => exact ⟨_, .struct s⟩
  | union u => exact ⟨_, .union u⟩
  | typeAlias a => exact ⟨_, .typeAlias a⟩
  | const c =>
    obtain ⟨value, folds⟩ := formed.value c rfl
    exact ⟨_, .const folds⟩
  | module name comment inner => exact ⟨_, .module name comment inner⟩

theorem mem_ofExcept_declarations {path : SchemaPath} {x : Except Fault SchemaDeclaration}
    {d : SchemaDeclaration} : d ∈ (Resolved.ofExcept path x).declarations ↔ x = .ok d := by
  cases x <;> simp [Resolved.ofExcept, eq_comm]

/-- One declaration is kept exactly if it is well formed. -/
theorem mem_resolveIn_iff (document : Document) {m : ModulePath} {d : DeclarationExpr}
    {d' : SchemaDeclaration} :
    d' ∈ (resolveIn document.symbols m d).declarations ↔
      document.WellFormed m d ∧ document.ResolvesTo m d d' := by
  cases d with
  | struct s =>
    simp only [resolveIn, mem_ofExcept_declarations, map_eq_ok, resolveStruct_eq_ok_iff]
    constructor
    · rintro ⟨_, ⟨formed, rfl⟩, rfl⟩
      exact ⟨formed, .struct s⟩
    · rintro ⟨formed, ⟨⟩⟩
      exact ⟨_, ⟨formed, rfl⟩, rfl⟩
  | union u =>
    simp only [resolveIn, mem_ofExcept_declarations, map_eq_ok, resolveUnion_eq_ok_iff]
    constructor
    · rintro ⟨_, ⟨formed, rfl⟩, rfl⟩
      exact ⟨formed, .union u⟩
    · rintro ⟨formed, ⟨⟩⟩
      exact ⟨_, ⟨formed, rfl⟩, rfl⟩
  | typeAlias a =>
    simp only [resolveIn, mem_ofExcept_declarations, map_eq_ok, resolveAlias_eq_ok_iff]
    constructor
    · rintro ⟨_, ⟨formed, rfl⟩, rfl⟩
      exact ⟨formed, .typeAlias a⟩
    · rintro ⟨formed, ⟨⟩⟩
      exact ⟨_, ⟨formed, rfl⟩, rfl⟩
  | const c =>
    simp only [resolveIn, mem_ofExcept_declarations, map_eq_ok,
      resolveConstant_eq_ok_iff document m]
    constructor
    · rintro ⟨_, ⟨formed, value, folds, rfl⟩, rfl⟩
      exact ⟨formed, .const folds⟩
    · rintro ⟨formed, ⟨⟩⟩
      exact ⟨_, ⟨formed, _, ‹_›, rfl⟩, rfl⟩
  | module name comment inner =>
    rw [wellFormed_module_iff, resolveIn]
    cases named : checkIdentifier name with
    | error fault =>
      have invalid : ¬ isIdentifier name := by
        rw [← checkIdentifier_eq_ok_iff, named]
        simp
      simp [invalid]
    | ok _ =>
      rw [List.mem_singleton, checkIdentifier_eq_ok_iff.1 named]
      constructor
      · rintro rfl
        exact ⟨rfl, .module name comment inner⟩
      · rintro ⟨-, ⟨⟩⟩
        rfl

/-! ## The declarations of a module -/

theorem resolveAll_declarations (table : List Symbol) (m : ModulePath) (seen : List String)
    (ds : List DeclarationExpr) :
    (resolveAll table m seen ds).declarations =
      (firstOnes seen ds).flatMap fun d => (resolveIn table m d).declarations := by
  induction ds generalizing seen with
  | nil => rfl
  | cons d ds ih =>
    rw [resolveAll, firstOnes]
    split
    · exact ih seen
    · rw [List.flatMap_cons, ← ih]
      rfl

theorem mem_resolveAll_iff (document : Document) {m : ModulePath} {ds : List DeclarationExpr}
    {d' : SchemaDeclaration} :
    d' ∈ (resolveAll document.symbols m [] ds).declarations ↔
      ∃ d ∈ firstOnes [] ds, document.WellFormed m d ∧ document.ResolvesTo m d d' := by
  simp only [resolveAll_declarations, List.mem_flatMap, mem_resolveIn_iff]

/-! ## The tree -/

/-- What stands in a module below declarations of the module `p` once they are resolved. -/
theorem standsIn_resolveAll_iff (document : Document) {p m : ModulePath}
    {ds : List DeclarationExpr} {d' : SchemaDeclaration} :
    StandsIn (resolveAll document.symbols p [] ds).declarations m d' ↔
      ∃ inner, declarationsAt? m ds = some inner ∧ (∀ name ∈ m, isIdentifier name) ∧
        ∃ d ∈ firstOnes [] inner,
          document.WellFormed (p ++ m) d ∧ document.ResolvesTo (p ++ m) d d' := by
  induction m generalizing p ds with
  | nil =>
    rw [standsIn_nil, mem_resolveAll_iff, List.append_nil]
    simp [declarationsAt?]
  | cons name m ih =>
    have place : p ++ name :: m = p ++ [name] ++ m := by simp
    rw [standsIn_cons, place]
    constructor
    · rintro ⟨comment, inner, member, stands⟩
      obtain ⟨d, first, formed, resolves⟩ := (mem_resolveAll_iff document).1 member
      -- Only a module resolves to a module, so the way down is the same in the document.
      cases resolves with
      | module _ _ declarations =>
        obtain ⟨around, below, identifiers, found⟩ := ih.1 stands
        refine ⟨around, declarationsAt?_cons_eq_some.2 ⟨comment, declarations, first, below⟩, ?_, found⟩
        exact List.forall_mem_cons.2 ⟨formed.name, identifiers⟩
    · rintro ⟨around, found, identifiers, d, first, formed, resolves⟩
      obtain ⟨comment, declarations, counts, below⟩ := declarationsAt?_cons_eq_some.1 found
      obtain ⟨identifier, identifiers⟩ := List.forall_mem_cons.1 identifiers
      refine ⟨comment, _, (mem_resolveAll_iff document).2 ⟨_, counts, ?_, .module name comment _⟩,
        ih.2 ⟨around, below, identifiers, d, first, formed, resolves⟩⟩
      exact (wellFormed_module_iff document p).2 identifier

/-- The modules that are kept are the declared ones whose names are identifiers. -/
theorem Document.mem_resolve_modulePaths_iff (document : Document) {m : ModulePath} :
    m ∈ document.resolve.modulePaths ↔
      (∃ inner, declarationsAt? m document.declarations = some inner) ∧
        ∀ name ∈ m, isIdentifier name := by
  unfold Resolved.modulePaths
  rw [mem_modulePaths_iff]
  constructor
  · rintro (rfl | ⟨rest, name, comment, inner, rfl, stands⟩)
    · exact ⟨⟨_, rfl⟩, fun _ member => absurd member List.not_mem_nil⟩
    · obtain ⟨around, found, identifiers, d, first, formed, resolves⟩ :=
        (standsIn_resolveAll_iff document).1 stands
      cases resolves with
      | module _ _ declarations =>
        refine ⟨⟨_, declarationsAt?_concat_eq_some.2 ⟨around, found, comment, first⟩⟩, ?_⟩
        exact List.forall_mem_append.2 ⟨identifiers, List.forall_mem_singleton.2 formed.name⟩
  · rintro ⟨⟨inner, found⟩, identifiers⟩
    rcases List.eq_nil_or_concat' m with rfl | ⟨rest, name, rfl⟩
    · exact .inl rfl
    · obtain ⟨around, below, comment, first⟩ := declarationsAt?_concat_eq_some.1 found
      obtain ⟨identifiers, identifier⟩ := List.forall_mem_append.1 identifiers
      have identifier : isIdentifier name := identifier name List.mem_cons_self
      refine .inr ⟨rest, name, comment, _, rfl, (standsIn_resolveAll_iff document).2
        ⟨around, below, identifiers, _, first, ?_, .module name comment inner⟩⟩
      exact (wellFormed_module_iff document _).2 identifier

/-- What resolution keeps under a name in a module is the first declaration of that name, and it is well formed. -/
theorem standsIn_resolve_iff (document : Document) {m : ModulePath} {d' : SchemaDeclaration} :
    StandsIn document.resolve.declarations m d' ↔
      m ∈ document.resolve.modulePaths ∧
        ∃ d, declared? document.declarations m d'.name = some d ∧
          document.WellFormed m d ∧ document.ResolvesTo m d d' := by
  unfold Document.resolve
  rw [standsIn_resolveAll_iff, List.nil_append, ← Document.resolve,
    document.mem_resolve_modulePaths_iff]
  constructor
  · rintro ⟨inner, found, identifiers, d, first, formed, resolves⟩
    refine ⟨⟨⟨inner, found⟩, identifiers⟩, d, ?_, formed, resolves⟩
    exact declared?_eq_some.2 ⟨inner, found, first, resolves.name_eq.symm⟩
  · rintro ⟨⟨-, identifiers⟩, d, declared, formed, resolves⟩
    obtain ⟨inner, found, first, -⟩ := declared?_eq_some.1 declared
    exact ⟨inner, found, identifiers, d, first, formed, resolves⟩

/-! ## Distinct names -/

theorem ofExcept_names_nodup (path : SchemaPath) (x : Except Fault SchemaDeclaration) :
    ((Resolved.ofExcept path x).declarations.map name).Nodup := by
  cases x <;> simp [Resolved.ofExcept]

theorem resolveIn_names_nodup (table : List Symbol) (m : ModulePath) (d : DeclarationExpr) :
    ((resolveIn table m d).declarations.map name).Nodup := by
  cases d with
  | module name comment inner =>
    rw [resolveIn]
    split <;> simp
  | _ => exact ofExcept_names_nodup _ _

/-- Repeated names are skipped, so what is left in each module has distinct names. -/
theorem resolveAll_distinctNames (document : Document) (m : ModulePath)
    (ds : List DeclarationExpr) :
    DistinctNames (resolveAll document.symbols m [] ds).declarations := by
  induction ds using module_induction generalizing m with
  | step ds ih =>
    constructor
    · rw [resolveAll_declarations, List.map_flatMap, List.nodup_flatMap]
      refine ⟨fun d _ => resolveIn_names_nodup _ _ d, ?_⟩
      refine (List.pairwise_map.1 (firstOnes_names_nodup [] ds)).imp fun differ name first later => ?_
      obtain ⟨d, kept, rfl⟩ := List.mem_map.1 first
      obtain ⟨e, kept', same⟩ := List.mem_map.1 later
      have named := ((mem_resolveIn_iff document).1 kept).2.name_eq
      have named' := ((mem_resolveIn_iff document).1 kept').2.name_eq
      exact differ (by rw [← named, ← named', same])
    · intro name comment inner member
      obtain ⟨d, first, -, resolves⟩ := (mem_resolveAll_iff document).1 member
      cases resolves with
      | module _ _ declarations =>
        exact ih name comment declarations (mem_of_mem_firstOnes first) _

/-- Every declaration that is kept has a path of its own. -/
theorem Document.resolve_items_paths_nodup (document : Document) :
    (document.resolve.items.map Item.path).Nodup :=
  (resolveAll_distinctNames document [] document.declarations).items_paths_nodup []

/-! ## Acceptance -/

/-- Resolution accepts exactly the well-formed declarations. A declaration that is the first of its name in a
module that is kept appears in that module exactly if it is well formed, and what appears under its name is
what it resolves to. -/
theorem Document.kept_iff_wellFormed (document : Document) {m : ModulePath} {d : DeclarationExpr}
    (first : declared? document.declarations m d.name = some d)
    (around : m ∈ document.resolve.modulePaths) :
    ((∃ d', StandsIn document.resolve.declarations m d' ∧ d'.name = d.name) ↔
        document.WellFormed m d) ∧
      ∀ d', StandsIn document.resolve.declarations m d' → d'.name = d.name →
        document.ResolvesTo m d d' := by
  have resolves : ∀ d', StandsIn document.resolve.declarations m d' → d'.name = d.name →
      document.WellFormed m d ∧ document.ResolvesTo m d d' := by
    intro d' stands named
    obtain ⟨-, e, declared, formed, resolves⟩ := (standsIn_resolve_iff document).1 stands
    rw [named, first] at declared
    cases declared
    exact ⟨formed, resolves⟩
  refine ⟨⟨?_, ?_⟩, fun d' stands named => (resolves d' stands named).2⟩
  · rintro ⟨d', stands, named⟩
    exact (resolves d' stands named).1
  · intro formed
    obtain ⟨d', resolves⟩ := formed.exists_resolvesTo
    refine ⟨d', (standsIn_resolve_iff document).2 ⟨around, d, ?_, formed, resolves⟩, resolves.name_eq⟩
    rw [resolves.name_eq, first]

/-- A struct that refers to two types of one name: to the one beside it, and with a path to the one at the root. -/
def shadowing : Struct TypeExpr :=
  ⟨"Pair", ["T"],
    [⟨"both", .tuple [.named "Point" [.param "T"], .named "outer::Point" []], none⟩], some "Two points."⟩

/-- A module `inner` with a generic `Point` of its own, and a module `outer` with another one. -/
def shadowingDocument : Document :=
  ⟨[.module "outer" none [.struct ⟨"Point", [], [], none⟩],
    .module "inner" none
      [.struct ⟨"Point", ["T"], [⟨"x", .param "T", none⟩], none⟩, .struct shadowing]]⟩

theorem shadowing_wellFormed :
    declared? shadowingDocument.declarations ["inner"] "Pair" = some (.struct shadowing) ∧
      ["inner"] ∈ shadowingDocument.resolve.modulePaths ∧
      shadowingDocument.WellFormed ["inner"] (.struct shadowing) := by
  have first : declared? shadowingDocument.declarations ["inner"] "Pair" = some (.struct shadowing) := rfl
  have around : ["inner"] ∈ shadowingDocument.resolve.modulePaths := by decide +kernel
  have kept : StandsIn shadowingDocument.resolve.declarations ["inner"]
      (.struct (shadowing.map (shadowingDocument.resolved ["inner"]))) :=
    .inside (List.mem_of_getElem? (i := 1) rfl) (.here (List.mem_of_getElem? (i := 1) rfl))
  exact ⟨first, around, (shadowingDocument.kept_iff_wellFormed first around).1.1 ⟨_, kept, rfl⟩⟩

end SchemaBindings
