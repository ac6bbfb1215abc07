import SchemaBindings.Proofs.GoTexts
import SchemaBindings.Proofs.LenientRuns
import SchemaBindings.Proofs.RustHeads

/-!
# Strict runs

Whether a run is strict decides only what happens when something has failed. The names, the plan and the tuples of a run
are made without looking at it, and so are its texts (`TargetName.ignoresStrict`).

* A run with a valid configuration has a result of its own, and what it returns is chosen by its first failure alone
  (`generateFor_of_requested`).
* A strict run returns what the other one does if nothing has failed, and the first failure otherwise
  (`generate_strict`). No run ends for another reason: every item has an entry in the table of names
  (`exists_entry`), and the tuples of a plan can be requested.
-/

namespace SchemaBindings

/-! ## Texts -/

/-- The surroundings of two declarations are the same for the texts in them. -/
structure RenderContext.Alike (cx cx' : RenderContext) : Prop where
  package : cx.config.package = cx'.config.package
  names : cx.names = cx'.names
  module : cx.module = cx'.module

section

variable {cx cx' : RenderContext}

theorem RenderContext.Alike.identifierOf (alike : cx.Alike cx') (p : SchemaPath) :
    cx.identifierOf p = cx'.identifierOf p := by
  rw [RenderContext.identifierOf, RenderContext.identifierOf, alike.names]

theorem Go.qualifier_alike (alike : cx.Alike cx') (m : ModulePath) : qualifier cx m = qualifier cx' m := by
  unfold qualifier packageName
  rw [alike.module, alike.package]

/-- The text of a type depends on the package, the names and the module of its surroundings. -/
theorem Go.typeText_alike (alike : cx.Alike cx') (t : TypeRef) : typeText cx t = typeText cx' t := by
  induction t using SchemaType.children_induction with
  | step t ih =>
    have parts : ∀ ts : List TypeRef, (∀ u ∈ ts, typeText cx u = typeText cx' u) →
        typeTexts cx ts = typeTexts cx' ts := by
      intro ts each
      rw [typeTexts_eq_map, typeTexts_eq_map]
      exact List.map_congr_left each
    cases t with
    | scalar s | param g => rfl
    | tuple elements => rw [typeText, typeText, parts elements ih, qualifier_alike alike]
    | list item | array item length | option item | hashSet item =>
      rw [typeText, typeText, ih item List.mem_cons_self]
    | map key value =>
      rw [typeText, typeText, ih key List.mem_cons_self, ih value (List.mem_cons_of_mem _ List.mem_cons_self)]
    | named p arguments =>
      rw [typeText, typeText, parts arguments ih, qualifier_alike alike, alike.identifierOf]

theorem Go.typeImports_alike (alike : cx.Alike cx') (ts : List TypeRef) :
    typeImports cx ts = typeImports cx' ts := by
  have modules : ∀ m, moduleImport? cx m = moduleImport? cx' m := by
    intro m
    unfold moduleImport? importPath
    rw [alike.module, alike.package]
  unfold typeImports
  refine congrArg orderedStrings (List.filterMap_congr fun t _ => ?_)
  cases t with
  | tuple elements => exact modules tuplesModule
  | named p arguments => exact modules p.module
  | _ => rfl

theorem Go.renderField_alike (alike : cx.Alike cx') : renderField cx = renderField cx' := by
  funext f
  rw [renderField, renderField, typeText_alike alike]

/-- The outputs of a declaration depend on no more of its surroundings. -/
theorem Go.render_alike (alike : cx.Alike cx') (d : SchemaDeclaration) (own : DeclarationNames) :
    Go.target.render cx d own = Go.target.render cx' d own := by
  cases d with
  | struct s =>
    show [structOutput cx s _] = [structOutput cx' s _]
    rw [structOutput, structOutput, renderField_alike alike, typeImports_alike alike, alike.module]
  | union u =>
    show unionOutputs cx u own = unionOutputs cx' u own
    simp only [unionOutputs, variantLayout, renderField_alike alike, typeImports_alike alike, alike.module]
  | typeAlias a =>
    show [aliasOutput cx a _] = [aliasOutput cx' a _]
    rw [aliasOutput, aliasOutput, typeText_alike alike, typeImports_alike alike, alike.module]
  | const c =>
    show [constantOutput cx c _] = [constantOutput cx' c _]
    rw [constantOutput, constantOutput, alike.module]
  | module _ _ _ => rfl

theorem Rust.typeText_alike (alike : cx.Alike cx') (t : TypeRef) : typeText cx t = typeText cx' t := by
  induction t using SchemaType.children_induction with
  | step t ih =>
    have parts : t.children.map (typeText cx) = t.children.map (typeText cx') := List.map_congr_left ih
    cases head : head? t with
    | some h =>
      have segments : h.segments cx = h.segments cx' := by
        cases h with
        | builtIn b => rfl
        | tuple arity => rw [Head.segments, Head.segments, alike.module]
        | declared p => rw [Head.segments, Head.segments, alike.module, alike.identifierOf]
      rw [typeText_of_head cx head, typeText_of_head cx' head, segments, parts]
    | none =>
      cases t with
      | array item length =>
        show "[" ++ typeText cx item ++ "; " ++ toString length ++ "]" = _
        rw [ih item List.mem_cons_self]
        rfl
      | param g => rfl
      | _ => exact absurd head (by simp [head?])

theorem Rust.renderField_alike (alike : cx.Alike cx') : renderField cx = renderField cx' := by
  funext f
  rw [renderField, renderField, typeText_alike alike]

theorem Rust.render_alike (alike : cx.Alike cx') (d : SchemaDeclaration) (own : DeclarationNames) :
    Rust.target.render cx d own = Rust.target.render cx' d own := by
  cases d with
  | struct s =>
    show [structOutput cx s _] = [structOutput cx' s _]
    rw [structOutput, structOutput, renderField_alike alike, alike.module]
  | union u =>
    show unionOutputs cx u own = unionOutputs cx' u own
    simp only [unionOutputs, renderField_alike alike, alike.module]
  | typeAlias a =>
    show [aliasOutput cx a _] = [aliasOutput cx' a _]
    rw [aliasOutput, aliasOutput, typeText_alike alike, alike.module]
  | const c =>
    show [constantOutput cx c _] = [constantOutput cx' c _]
    rw [constantOutput, constantOutput, alike.module]
  | module _ _ _ => rfl

end

/-- Whether a run is strict makes no difference to the outputs and files of the target. -/
structure Target.IgnoresStrict (target : Target) : Prop where
  render : ∀ (config : Config) (strict : Bool) (names : NameTable) (m : ModulePath) d own,
    target.render ⟨{ config with strict }, names, m⟩ d own = target.render ⟨config, names, m⟩ d own
  assemble : ∀ (config : Config) (strict : Bool) outputs comments,
    target.assemble { config with strict } outputs comments = target.assemble config outputs comments

theorem TargetName.ignoresStrict : ∀ name : TargetName, name.target.IgnoresStrict
  | go => ⟨fun _ _ _ _ => Go.render_alike ⟨rfl, rfl, rfl⟩, fun _ _ _ _ => rfl⟩
  | rust => ⟨fun _ _ _ _ => Rust.render_alike ⟨rfl, rfl, rfl⟩, fun _ _ _ _ => rfl⟩

/-! ## Runs -/

section

variable {target : Target} {config : Config}

theorem runOutputs_strict (ignores : target.IgnoresStrict) (strict : Bool) (names : NameTable)
    (tuples : List TupleRecord) (cs : List Candidate) :
    runOutputs target { config with strict } names tuples cs = runOutputs target config names tuples cs := by
  unfold runOutputs
  refine congrArg (tuples.map target.tupleOutput ++ ·) (List.flatMap_congr fun c _ => ?_)
  unfold Candidate.outputs
  cases c.status with
  | ok own => exact ignores.render config strict names _ _ own
  | error fault => rfl

/-- What a run with a valid configuration returns: its result, unless it is strict and something has failed. -/
theorem generateFor_of_requested (config : Config) {r : Resolved} {arena : TupleArena}
    (valid : config.validate = .ok ())
    (requested : requestTuples ⟨config.maxTupleArity, []⟩ (plan target config (runNames target config r) r) =
      .ok arena) :
    let names := runNames target config r
    let cs := plan target config names r
    let outputs := runOutputs target config names arena.records cs
    generateFor target config r =
      match config.strict, runFailures names r cs with
      | true, first :: _ => .error (.aborted first)
      | _, _ => .ok ⟨outputs, target.assemble config outputs r.moduleComments, runFailures names r cs⟩ := by
  intro names cs outputs
  unfold generateFor
  rw [valid]
  dsimp only
  rw [requested]
  cases config.strict with
  | false => rfl
  | true =>
    cases runFailures names r cs with
    | nil => rfl
    | cons first rest => rfl

/-- What a run that succeeds has returned, whether it is strict or not. -/
theorem eq_of_generateFor {r : Resolved} {arena : TupleArena} {g : Generation}
    (generated : generateFor target config r = .ok g)
    (requested : requestTuples ⟨config.maxTupleArity, []⟩ (plan target config (runNames target config r) r) =
      .ok arena) :
    let names := runNames target config r
    let cs := plan target config names r
    g.outputs = runOutputs target config names arena.records cs ∧ g.failures = runFailures names r cs := by
  have returned := generateFor_of_requested config (files_of_generateFor generated).1 requested
  rw [generated] at returned
  dsimp only at returned
  split at returned
  · exact absurd returned (by simp)
  · cases returned
    exact ⟨rfl, rfl⟩

/-- What stands in a module below another stands below a declaration of that module. -/
theorem Declaration.StandsIn.exists_module {τ κ : Type} {ds : List (Declaration τ κ)} {m : ModulePath} {name : String}
    {d : Declaration τ κ} (stands : StandsIn ds (m ++ [name]) d) :
    ∃ comment inner, StandsIn ds m (module name comment inner) := by
  induction m generalizing ds with
  | nil =>
    obtain ⟨comment, inner, member, -⟩ := standsIn_cons.1 stands
    exact ⟨comment, inner, .here member⟩
  | cons around m ih =>
    obtain ⟨_, _, member, deeper⟩ := standsIn_cons.1 stands
    obtain ⟨comment, inner, stands⟩ := ih deeper
    exact ⟨comment, inner, .inside member stands⟩

theorem Resolved.module_mem_modulePaths {r : Resolved} {i : SchemaItem} (item : i ∈ r.items) :
    i.module ∈ r.modulePaths := by
  have stands := (Declaration.mem_items_iff.1 item).1
  refine Declaration.mem_modulePaths_iff.2 ?_
  rcases List.eq_nil_or_concat i.module with root | ⟨m, name, place⟩
  · exact .inl root
  · rw [List.concat_eq_append] at place
    rw [place] at stands
    obtain ⟨comment, inner, around⟩ := stands.exists_module
    exact .inr ⟨m, name, comment, inner, place, around⟩

/-- Every item has an entry in the table of names. -/
theorem exists_entry (conventions : Conventions) (policy : NamingPolicy) (separator : String)
    (reserved : List (String × String)) {r : Resolved} {i : SchemaItem} (item : i ∈ r.items) :
    ∃ entry, (NameTable.build conventions policy separator reserved r).get? i.path = some entry := by
  have path : i.path ∈ (nameItems conventions policy separator (r.itemsOf i.module)).map (·.1) :=
    (nameItems_paths_perm _).mem_iff.2 (List.mem_map_of_mem (Resolved.mem_itemsOf.2 ⟨item, rfl⟩))
  obtain ⟨⟨p, entry⟩, made, same⟩ := List.mem_map.1 path
  have listed : (p, entry) ∈ (NameTable.build conventions policy separator reserved r).entries :=
    List.mem_flatMap.2 ⟨i.module, Resolved.module_mem_modulePaths item, made⟩
  rw [← Option.isSome_iff_exists, NameTable.get?, List.lookup_isSome_iff]
  exact ⟨_, listed, beq_iff_eq.2 same.symm⟩

end

/-- A strict run returns the same as one that is not strict if nothing has failed there, and otherwise the first of its
failures. The latter always has a result: the tuples of its plan can be requested, and each item has an entry in the
table of names. -/
theorem generate_strict (config : Config) (valid : config.validate = .ok ()) (r : Resolved) :
    let names := runNames config.target.target config r
    let cs := plan config.target.target config names r
    ∃ g, generate { config with strict := false } r = .ok g ∧
      generate { config with strict := true } r =
        (match g.failures with
        | [] => .ok g
        | first :: _ => .error (.aborted first)) ∧
      (∃ arena, requestTuples ⟨config.maxTupleArity, []⟩ cs = .ok arena) ∧
      ∀ i ∈ r.items, ∃ entry, names.get? i.path = some entry := by
  intro names cs
  let target := config.target.target
  obtain ⟨arena, requested, -⟩ := exists_planned_tuples target config names r
  let outputs := runOutputs target config names arena.records cs
  let g : Generation := ⟨outputs, target.assemble config outputs r.moduleComments, runFailures names r cs⟩
  have result : ∀ strict : Bool,
      let own := runOutputs target { config with strict } names arena.records cs
      (⟨own, target.assemble { config with strict } own r.moduleComments,
        runFailures names r cs⟩ : Generation) = g := by
    intro strict own
    have same : own = outputs := runOutputs_strict config.target.ignoresStrict strict names arena.records cs
    rw [same, config.target.ignoresStrict.assemble]
  have lenient := generateFor_of_requested { config with strict := false } valid requested
  have strict := generateFor_of_requested { config with strict := true } valid requested
  refine ⟨g, lenient.trans (congrArg Except.ok (result false)), strict.trans ?_, ⟨arena, requested⟩,
    fun i item => exists_entry _ _ _ _ item⟩
  change (match true, runFailures names r cs with
    | true, first :: _ => _
    | _, _ => _) = (match runFailures names r cs with
    | [] => _
    | first :: _ => _)
  cases runFailures names r cs with
  | nil => exact congrArg Except.ok (result true)
  | cons first rest => rfl

/-- Two structs with the same emitted name. -/
def doubledDocument : Document :=
  ⟨[.struct ⟨"a_b", [], [], none⟩, .struct ⟨"aB", [], [], none⟩]⟩

theorem doubled_aborts :
    ∃ g first, generate {} doubledDocument.resolve = .ok g ∧ g.outputs.map (·.identifier) = ["AB"] ∧
      g.failures = [first] ∧ first.path.text = "aB" ∧
      generate { strict := true } doubledDocument.resolve = .error (.aborted first) := by
  have valid : Config.validate {} = .ok () := by decide +kernel
  obtain ⟨g, lenient, strict, -⟩ := generate_strict {} valid doubledDocument.resolve
  have returned : (generate {} doubledDocument.resolve).toOption.map
      (fun g => (g.outputs.map (·.identifier), g.failures.map (·.path.text))) = some (["AB"], ["aB"]) := by
    decide +kernel
  rw [lenient] at returned
  obtain ⟨outputs, failures⟩ := Prod.mk.inj (Option.some.inj returned)
  obtain ⟨first, listed, path⟩ := List.map_eq_singleton_iff.1 failures
  rw [listed] at strict
  exact ⟨g, first, lenient, outputs, listed, path, strict⟩

end SchemaBindings
