import SchemaBindings.Proofs.Acceptance

/-!
# Failures of resolution

Every declared type of a module that is kept is accounted for: it is kept itself, or resolution reports a failure at
its path. The failure is none of a repeated name (`Fault.IsOwn`), so the path counts as failed in a run. A
module that is left out is reported as a whole, and nothing inside it is.
-/

namespace SchemaBindings

open Declaration

/-! ## Faults of a declaration by itself -/

/-- The fault is not that of a repeated name, which would leave the declaration that stays at its path. -/
def Fault.IsOwn : Fault → Prop
  | .duplicateDeclaration _ => False
  | _ => True

/-- The fault is one that resolution finds in a declaration by itself: none of a repeated name, and none that a
run finds later. -/
def Fault.IsIntrinsic : Fault → Prop
  | .duplicateDeclaration _ | .unsupportedArity _ _ | .namingCollision _ _ | .dependencyFailed _ | .importCycle _ _
  | .invalidConfig _ => False
  | _ => True

theorem Fault.IsIntrinsic.isOwn {fault : Fault} (intrinsic : fault.IsIntrinsic) : fault.IsOwn := by
  cases fault with
  | duplicateDeclaration _ => exact intrinsic
  | _ => exact trivial

theorem checkIdentifier_faults (name : String) : FaultsIn Fault.IsIntrinsic (checkIdentifier name) := by
  unfold checkIdentifier
  split
  · exact .ok ()
  · exact .error trivial

theorem checkFields_faults (seen : List String) (fs : List (Field TypeRef)) :
    FaultsIn Fault.IsIntrinsic (checkFields seen fs) := by
  induction fs generalizing seen with
  | nil => exact .ok ()
  | cons f fs ih =>
    refine .bind (checkIdentifier_faults f.name) fun _ _ => ?_
    split
    · exact .error trivial
    · exact ih _

theorem checkVariantNames_faults (seen : List String) (vs : List (Variant TypeRef)) :
    FaultsIn Fault.IsIntrinsic (checkVariantNames seen vs) := by
  induction vs generalizing seen with
  | nil => exact .ok ()
  | cons v vs ih =>
    unfold checkVariantNames
    split
    · exact .error trivial
    · exact ih _

theorem checkGenericNames_faults (seen gs : List String) :
    FaultsIn Fault.IsIntrinsic (checkGenericNames seen gs) := by
  induction gs generalizing seen with
  | nil => exact .ok ()
  | cons g gs ih =>
    refine .bind (checkIdentifier_faults g) fun _ _ => ?_
    split
    · exact .error trivial
    · exact ih _

theorem checkGenerics_faults (generics : List String) (fields : List (Field TypeRef)) :
    FaultsIn Fault.IsIntrinsic (checkGenerics generics fields) := by
  refine .bind (checkGenericNames_faults [] generics) fun _ _ => ?_
  split
  · exact .error trivial
  · exact .ok ()

/-! ## Faults of types -/

theorem tuple?_faults {ν : Type} (elements : List (SchemaType ν)) :
    FaultsIn Fault.IsIntrinsic (tuple? elements) := by
  unfold tuple?
  split
  · exact .error trivial
  · exact .ok _

mutual

theorem resolveType_faults (scope : Scope) :
    ∀ t : TypeExpr, FaultsIn Fault.IsIntrinsic (scope.resolveType t)
  | .scalar s => .ok _
  | .tuple elements => .bind (resolveTypes_faults scope elements) fun _ _ => tuple?_faults _
  | .list item | .array item _ | .option item | .hashSet item =>
    .bind (resolveType_faults scope item) fun _ _ => .ok _
  | .map key value =>
    .bind (resolveType_faults scope key) fun _ _ =>
      .bind (resolveType_faults scope value) fun _ _ => .ok _
  | .named name arguments => by
    unfold Scope.resolveType
    split
    · exact .error trivial
    · split
      · exact .error trivial
      · exact .bind (resolveTypes_faults scope arguments) fun _ _ => .ok _
  | .param name => by
    unfold Scope.resolveType
    split
    · exact .ok _
    · exact .error trivial

theorem resolveTypes_faults (scope : Scope) :
    ∀ ts : List TypeExpr, FaultsIn Fault.IsIntrinsic (scope.resolveTypes ts)
  | [] => .ok []
  | t :: ts =>
    .bind (resolveType_faults scope t) fun _ _ =>
      .bind (resolveTypes_faults scope ts) fun _ _ => .ok _

end

theorem resolveFields_faults (scope : Scope) (fs : List (Field TypeExpr)) :
    FaultsIn Fault.IsIntrinsic (fs.mapM scope.resolveField) :=
  .mapM fun f _ => .bind (resolveType_faults scope f.type) fun _ _ => .ok _

/-! ## Faults of literals -/

theorem readMagnitude_faults (type : Scalar) (token : String) (m : Nat) (digits : List Char) :
    FaultsIn Fault.IsIntrinsic (readMagnitude type token m digits) := by
  induction digits generalizing m with
  | nil => exact .ok m
  | cons c rest ih =>
    unfold readMagnitude
    split
    · exact .error trivial
    · dsimp only
      split
      · exact .error trivial
      · exact ih _

theorem readInteger_faults (type : Scalar) (token : String) :
    FaultsIn Fault.IsIntrinsic (readInteger type token) := by
  unfold readInteger
  split
  split
  · exact .error trivial
  · exact .bind (readMagnitude_faults type token 0 _) fun _ _ => .ok _

theorem foldInteger_faults (type : Scalar) (token : String) :
    FaultsIn Fault.IsIntrinsic (foldInteger type token) := by
  refine .bind (readInteger_faults type token) fun read _ => ?_
  dsimp only
  generalize (if read.1 then -(read.2 : Int) else read.2) = n
  split
  · exact .error trivial
  · split
    · exact .ok _
    · exact .error trivial

theorem foldFloat_faults (type : Scalar) (x : Binary64) (text : String) :
    FaultsIn Fault.IsIntrinsic (foldFloat type x text) := by
  unfold foldFloat
  split
  · exact .ok _
  · exact .error trivial

theorem foldDatum_faults (type : Scalar) (literal : Literal) :
    FaultsIn Fault.IsIntrinsic (foldDatum type literal) := by
  have mismatch : FaultsIn Fault.IsIntrinsic (foldDatum.mismatch type literal) := .error trivial
  unfold foldDatum
  cases literal with
  | bool b =>
    dsimp only
    split
    · exact .ok _
    · exact mismatch
  | int token =>
    dsimp only
    split
    · exact foldInteger_faults type token
    · split
      · exact .bind (readInteger_faults type token) fun _ _ => foldFloat_faults _ _ _
      · exact mismatch
  | float x =>
    dsimp only
    split
    · exact foldFloat_faults _ _ _
    · exact mismatch
  | string s =>
    dsimp only
    split
    · exact .ok _
    · exact mismatch
  | bytes bs =>
    dsimp only
    split
    · exact .ok _
    · exact mismatch

/-! ## Faults of declarations -/

theorem resolveStruct_faults (scope : Scope) (s : Struct TypeExpr) :
    FaultsIn Fault.IsIntrinsic (scope.resolveStruct s) :=
  .bind (resolveFields_faults scope s.fields) fun _ _ =>
    .bind (.bind (checkIdentifier_faults _) fun _ _ =>
      .bind (checkFields_faults _ _) fun _ _ => checkGenerics_faults _ _) fun _ _ => .ok _

theorem resolveVariant_faults (scope : Scope) (v : Variant TypeExpr) :
    FaultsIn Fault.IsIntrinsic (scope.resolveVariant v) :=
  .bind (resolveFields_faults scope v.fields) fun _ _ =>
    .bind (.bind (checkIdentifier_faults _) fun _ _ => checkFields_faults _ _) fun _ _ => .ok _

theorem resolveUnion_faults (scope : Scope) (u : Union TypeExpr) :
    FaultsIn Fault.IsIntrinsic (scope.resolveUnion u) :=
  .bind (.mapM fun v _ => resolveVariant_faults scope v) fun _ _ =>
    .bind (.bind (checkIdentifier_faults _) fun _ _ =>
      .bind (checkVariantNames_faults _ _) fun _ _ => checkGenerics_faults _ _) fun _ _ => .ok _

theorem resolveAlias_faults (scope : Scope) (a : Alias TypeExpr) :
    FaultsIn Fault.IsIntrinsic (scope.resolveAlias a) :=
  .bind (checkIdentifier_faults _) fun _ _ =>
    .bind (resolveType_faults scope a.target) fun _ _ => .ok _

theorem resolveConstant_faults (c : Constant ConstantExpr) :
    FaultsIn Fault.IsIntrinsic (resolveConstant c) :=
  .bind (checkIdentifier_faults _) fun _ _ =>
    .bind (.bind (foldDatum_faults _ _) fun _ _ => .ok _) fun _ _ => .ok _

/-! ## Accounting -/

/-- A declaration that is lost is reported at its path, and nothing else is. -/
theorem resolveIn_faults (table : List Symbol) (m : ModulePath) {d : DeclarationExpr}
    (lost : (resolveIn table m d).declarations = []) :
    ∃ fault : Fault, fault.IsIntrinsic ∧
      resolveIn table m d = ⟨[], [⟨(SchemaPath.mk m).child d.name, fault⟩]⟩ := by
  have ofExcept {x : Except Fault SchemaDeclaration} (faults : FaultsIn Fault.IsIntrinsic x)
      (lost : (Resolved.ofExcept ((SchemaPath.mk m).child d.name) x).declarations = []) :
      ∃ fault : Fault, fault.IsIntrinsic ∧ Resolved.ofExcept ((SchemaPath.mk m).child d.name) x =
        ⟨[], [⟨(SchemaPath.mk m).child d.name, fault⟩]⟩ := by
    cases x with
    | ok d => exact absurd lost (List.cons_ne_nil d [])
    | error fault => exact ⟨fault, faults fault rfl, rfl⟩
  cases d with
  | struct s => exact ofExcept (.map (resolveStruct_faults _ s)) lost
  | union u => exact ofExcept (.map (resolveUnion_faults _ u)) lost
  | typeAlias a => exact ofExcept (.map (resolveAlias_faults _ a)) lost
  | const c => exact ofExcept (.map (resolveConstant_faults c)) lost
  | module name comment inner =>
    have faults := checkIdentifier_faults name
    rw [resolveIn] at lost ⊢
    cases checked : checkIdentifier name with
    | error fault => exact ⟨fault, faults fault checked, rfl⟩
    | ok _ =>
      rw [checked] at lost
      exact absurd lost (List.cons_ne_nil _ _)

theorem resolveIn_failures_subset {table : List Symbol} {m : ModulePath} {seen : List String}
    {ds : List DeclarationExpr} {d : DeclarationExpr} (first : d ∈ firstOnes seen ds) :
    (resolveIn table m d).failures ⊆ (resolveAll table m seen ds).failures := by
  induction ds generalizing seen with
  | nil => exact absurd first List.not_mem_nil
  | cons e ds ih =>
    intro failure reported
    unfold resolveAll
    unfold firstOnes at first
    split
    · next repeated =>
      rw [if_pos repeated] at first
      exact List.mem_append_right _ (ih first reported)
    · next fresh =>
      rw [if_neg fresh] at first
      rcases List.mem_cons.1 first with rfl | later
      · exact List.mem_append_left _ reported
      · exact List.mem_append_right _ (ih later reported)

/-- What fails in a module that is kept is among the failures of all. -/
theorem resolveAll_failures_subset {table : List Symbol} {p m : ModulePath}
    {ds inner : List DeclarationExpr} (found : declarationsAt? m ds = some inner)
    (identifiers : ∀ name ∈ m, isIdentifier name) :
    (resolveAll table (p ++ m) [] inner).failures ⊆ (resolveAll table p [] ds).failures := by
  induction m generalizing p ds with
  | nil =>
    cases found
    rw [List.append_nil]
    exact List.Subset.refl _
  | cons name m ih =>
    obtain ⟨comment, declarations, first, below⟩ := declarationsAt?_cons_eq_some.1 found
    obtain ⟨identifier, identifiers⟩ := List.forall_mem_cons.1 identifiers
    have deeper := ih (p := p ++ [name]) below identifiers
    rw [List.append_assoc, List.singleton_append] at deeper
    have module : (resolveIn table p (.module name comment declarations)).failures =
        (resolveAll table (p ++ [name]) [] declarations).failures := by
      rw [resolveIn, checkIdentifier_eq_ok_iff.2 identifier]
    exact List.Subset.trans (module ▸ deeper) (resolveIn_failures_subset first)

theorem Document.ResolvesTo.isModule_eq_false {document : Document} {m : ModulePath}
    {d : DeclarationExpr} {d' : SchemaDeclaration} (resolves : document.ResolvesTo m d d')
    {k : Nat} (count : d.genericCount? = some k) : d'.isModule = false := by
  cases resolves with
  | module _ _ _ => exact absurd count (by simp [Declaration.genericCount?])
  | _ => rfl

/-- A declared type of a module that is kept is kept itself, or reported at its path. -/
theorem Document.kept_or_reported (document : Document) {p : SchemaPath} {k : Nat}
    (declared : document.genericCountAt? p = some k)
    (identifiers : ∀ name ∈ p.module, isIdentifier name) :
    (∃ i ∈ document.resolve.items, i.path = p) ∨
      ∃ fault : Fault, fault.IsOwn ∧ ⟨p, fault⟩ ∈ document.resolve.failures := by
  obtain ⟨name, last, declared⟩ := Option.bind_eq_some_iff.1 declared
  obtain ⟨d, declared, count⟩ := Option.bind_eq_some_iff.1 declared
  obtain ⟨inner, found, first, rfl⟩ := declared?_eq_some.1 declared
  have path : (⟨p.module ++ [d.name]⟩ : SchemaPath) = p :=
    congrArg SchemaPath.mk (List.dropLast_append_getLast? _ last)
  -- Either the declaration has come through, or the failure at its path is passed on up to the root.
  cases kept : (resolveIn document.symbols p.module d).declarations with
  | nil =>
    obtain ⟨fault, intrinsic, made⟩ := resolveIn_faults document.symbols p.module kept
    have reported : ⟨p, fault⟩ ∈ (resolveIn document.symbols p.module d).failures := by
      rw [made, SchemaPath.child, path]
      exact List.mem_singleton_self _
    exact .inr ⟨fault, intrinsic.isOwn, resolveAll_failures_subset found identifiers
      (resolveIn_failures_subset first reported)⟩
  | cons d' rest =>
    have member : d' ∈ (resolveIn document.symbols p.module d).declarations := by
      rw [kept]
      exact List.mem_cons_self
    obtain ⟨formed, resolves⟩ := (mem_resolveIn_iff document).1 member
    refine .inl ⟨⟨p.module, d'⟩, mem_items_iff.2 ⟨?_, resolves.isModule_eq_false count⟩, ?_⟩
    · refine (standsIn_resolve_iff document).2 ⟨?_, d, ?_, formed, resolves⟩
      · exact document.mem_resolve_modulePaths_iff.2 ⟨⟨inner, found⟩, identifiers⟩
      · rw [resolves.name_eq]
        exact declared
    · rw [Item.path, SchemaPath.child, resolves.name_eq, path]

/-! ## References of what is kept -/

theorem Document.ResolvesTo.types_eq {document : Document} {m : ModulePath} {d : DeclarationExpr}
    {d' : SchemaDeclaration} (resolves : document.ResolvesTo m d d') :
    d'.types = d.types.map (document.resolved m) := by
  cases resolves with
  | struct s => simp [Declaration.types, Struct.map, Field.map]
  | union u =>
    simp only [Declaration.types, Union.map, Variant.map, List.flatMap_map, List.map_flatMap,
      List.map_map]
    rfl
  | typeAlias a => rfl
  | const _ => rfl
  | module _ _ _ => rfl

theorem Document.ResolvesTo.generics_eq {document : Document} {m : ModulePath} {d : DeclarationExpr}
    {d' : SchemaDeclaration} (resolves : document.ResolvesTo m d d') : d'.generics = d.generics := by
  cases resolves <;> rfl

section

variable (document : Document) {i : SchemaItem}

/-- Every type inside a declaration that is kept is made from one that is admitted. -/
theorem Document.exists_admitted (item : i ∈ document.resolve.items) {t u : TypeRef} (type : t ∈ i.declaration.types)
    (inside : u ∈ t.walk) :
    ∃ source, document.Admits i.module i.declaration.generics source ∧ document.resolved i.module source = u := by
  obtain ⟨stands, -⟩ := mem_items_iff.1 item
  obtain ⟨-, d, -, formed, resolves⟩ := (standsIn_resolve_iff document).1 stands
  rw [resolves.types_eq] at type
  obtain ⟨whole, among, rfl⟩ := List.mem_map.1 type
  rw [Document.resolved, SchemaType.walk_rename] at inside
  obtain ⟨source, walked, made⟩ := List.mem_map.1 inside
  rw [resolves.generics_eq]
  exact ⟨source, formed.types whole among source walked, made⟩

/-- Every reference of a declaration that is kept has as many arguments as the declared type that it leads to has
generics. -/
theorem Document.genericCountAt?_of_named (item : i ∈ document.resolve.items) {t : TypeRef}
    (type : t ∈ i.declaration.types) {p : SchemaPath} {arguments : List TypeRef}
    (inside : .named p arguments ∈ t.walk) : document.genericCountAt? p = some arguments.length := by
  obtain ⟨source, admitted, made⟩ := document.exists_admitted item type inside
  cases source with
  | named name sources =>
    obtain ⟨rfl, rfl⟩ := SchemaType.named.inj made
    rw [SchemaType.renameAll_eq_map, List.length_map]
    exact admitted
  | _ => exact absurd made (by simp [Document.resolved, SchemaType.rename])

/-- Every reference of a declaration that is kept leads to a declared type. -/
theorem Document.declared_of_mem_references (item : i ∈ document.resolve.items) {t : TypeRef}
    (type : t ∈ i.declaration.types) {p : SchemaPath} (referred : p ∈ t.references) :
    ∃ k, document.genericCountAt? p = some k := by
  obtain ⟨arguments, inside⟩ := SchemaType.mem_references.1 referred
  exact ⟨arguments.length, document.genericCountAt?_of_named item type inside⟩

end

theorem Document.identifiers_of_mem_items (document : Document) {i : SchemaItem}
    (item : i ∈ document.resolve.items) : ∀ name ∈ i.module, isIdentifier name := by
  obtain ⟨stands, -⟩ := mem_items_iff.1 item
  exact (document.mem_resolve_modulePaths_iff.1 ((standsIn_resolve_iff document).1 stands).1).2

end SchemaBindings
