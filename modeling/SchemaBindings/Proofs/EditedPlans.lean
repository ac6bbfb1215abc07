import SchemaBindings.Generation.Run
import SchemaBindings.Proofs.CommentEdits

/-!
# Plans of edited schemas

Nothing that decides what a run keeps looks at a comment. So after an edit of comments

* the table of names is the same (`runNames_resolved`),
* the plan consists of the edited candidates, each with the status that it had (`plan_resolved`), and
* the failures and the tuples that are requested are the same (`runFailures_resolved`, `requestTuples_resolved`).
-/

namespace SchemaBindings.CommentEdit

variable (e : CommentEdit)

@[simp] theorem modulePaths_resolved (r : Resolved) : (e.resolved [] r).modulePaths = r.modulePaths := by
  rw [Resolved.modulePaths, Resolved.modulePaths, resolved, Declaration.modulePaths, modules_declarations,
    List.map_map]
  rfl

@[simp] theorem items_resolved (r : Resolved) : (e.resolved [] r).items = r.items.map e.item :=
  e.items_declarations [] r.declarations

/-! ## Names -/

def claimedItem (c : ClaimedItem) : ClaimedItem :=
  ⟨e.item c.item, c.name⟩

def claimedUnion (c : ClaimedUnion) : ClaimedUnion :=
  ⟨c.path, e.union c.union, c.name⟩

section

variable (conventions : Conventions)

theorem emittedName_declaration (m : ModulePath) (d : SchemaDeclaration) :
    emittedName conventions (e.declaration m d) = emittedName conventions d := by
  cases d <;> rfl

theorem claimItems_items (ns : Namespace) (items : List SchemaItem) :
    claimItems conventions ns (items.map e.item) =
      ((claimItems conventions ns items).1, (claimItems conventions ns items).2.map e.claimedItem) := by
  induction items generalizing ns with
  | nil => rfl
  | cons i items ih =>
    rw [List.map_cons, claimItems, claimItems, path_item, item, emittedName_declaration]
    cases ns.claim (emittedName conventions i.declaration) i.path.text with
    | error fault =>
      dsimp only
      rw [ih]
      rfl
    | ok ns =>
      dsimp only
      rw [ih]
      rfl

theorem checkFieldNames_fields (owner : String) (fields : List (Field TypeRef)) :
    checkFieldNames conventions owner (fields.map e.field) = checkFieldNames conventions owner fields := by
  rw [checkFieldNames, checkFieldNames, List.foldlM_map]
  rfl

theorem entry?_claimedItem (c : ClaimedItem) :
    ClaimedItem.entry? conventions (e.claimedItem c) = ClaimedItem.entry? conventions c := by
  obtain ⟨⟨m, d⟩, name⟩ := c
  cases name with
  | error fault =>
    show some ((e.item ⟨m, d⟩).path, _) = some (_, _)
    rw [path_item]
  | ok name =>
    cases d with
    | struct s =>
      unfold ClaimedItem.entry?
      show some (_, do checkFieldNames conventions _ (s.fields.map e.field); _) = _
      rw [checkFieldNames_fields]
      rfl
    | union u | typeAlias a | const c | module _ _ _ => rfl

theorem union?_claimedItem (c : ClaimedItem) : (e.claimedItem c).union? = c.union?.map e.claimedUnion := by
  obtain ⟨⟨m, d⟩, name⟩ := c
  cases name with
  | error fault => rfl
  | ok name => cases d <;> rfl

theorem flatNames_union (u : Union TypeRef) : flatNames conventions (e.union u) = flatNames conventions u := by
  rw [flatNames, flatNames, union, List.map_map]
  rfl

theorem qualifiedNames_union (separator : String) (u : Union TypeRef) :
    qualifiedNames conventions separator (e.union u) = qualifiedNames conventions separator u := by
  rw [qualifiedNames, qualifiedNames, union, List.map_map]
  rfl

theorem forM_variants (owner : String) (u : Union TypeRef) :
    (e.union u).variants.forM (fun v => checkFieldNames conventions (owner ++ "." ++ v.name) v.fields) =
      u.variants.forM fun v => checkFieldNames conventions (owner ++ "." ++ v.name) v.fields := by
  have each : ∀ v : Variant TypeRef, checkFieldNames conventions (owner ++ "." ++ (e.variant v).name)
      (e.variant v).fields = checkFieldNames conventions (owner ++ "." ++ v.name) v.fields :=
    fun v => e.checkFieldNames_fields conventions _ v.fields
  show (u.variants.map e.variant).forM _ = _
  rw [List.forM_eq_forM, List.forM_map]
  exact congrArg (forM u.variants) (funext each)

theorem nameUnions_unions (policy : NamingPolicy) (separator : String) (occurs : String → Nat) (ns : Namespace)
    (unions : List ClaimedUnion) :
    nameUnions conventions policy separator occurs ns (unions.map e.claimedUnion) =
      nameUnions conventions policy separator occurs ns unions := by
  induction unions generalizing ns with
  | nil => rfl
  | cons c unions ih =>
    rw [List.map_cons, nameUnions, nameUnions]
    simp only [claimedUnion, flatNames_union, qualifiedNames_union, forM_variants, ih]

/-- The entries of a module do not depend on comments. -/
theorem nameItems_items (policy : NamingPolicy) (separator : String) (items : List SchemaItem) :
    nameItems conventions policy separator (items.map e.item) = nameItems conventions policy separator items := by
  rw [nameItems, nameItems, claimItems_items]
  generalize claimItems conventions {} items = claims
  obtain ⟨declared, claimed⟩ := claims
  have entries : (claimed.map e.claimedItem).filterMap (ClaimedItem.entry? conventions) =
      claimed.filterMap (ClaimedItem.entry? conventions) := by
    rw [List.filterMap_map]
    exact List.filterMap_congr fun c _ => e.entry?_claimedItem conventions c
  have unions : (claimed.map e.claimedItem).filterMap ClaimedItem.union? =
      (claimed.filterMap ClaimedItem.union?).map e.claimedUnion := by
    rw [List.filterMap_map, List.map_filterMap]
    exact List.filterMap_congr fun c _ => e.union?_claimedItem c
  have flats : ((claimed.filterMap ClaimedItem.union?).map e.claimedUnion).flatMap
      (fun c => flatNames conventions c.union) =
        (claimed.filterMap ClaimedItem.union?).flatMap fun c => flatNames conventions c.union := by
    rw [List.flatMap_map]
    exact List.flatMap_congr fun c _ => e.flatNames_union conventions c.union
  dsimp only
  rw [entries, unions, flats, nameUnions_unions]

/-- The table of names does not depend on comments. -/
theorem build_resolved (policy : NamingPolicy) (separator : String) (reserved : List (String × String)) (r : Resolved) :
    NameTable.build conventions policy separator reserved (e.resolved [] r) =
      NameTable.build conventions policy separator reserved r := by
  have standing : ∀ m : ModulePath,
      (r.items.map e.item).filter (·.module = m) = (r.items.filter (·.module = m)).map e.item := by
    intro m
    rw [List.filter_map]
    rfl
  simp only [NameTable.build, modulePaths_resolved, items_resolved, standing, nameItems_items]

end

/-! ## Candidates -/

section

variable (target : Target) (config : Config)

theorem runNames_resolved (r : Resolved) : runNames target config (e.resolved [] r) = runNames target config r :=
  e.build_resolved target.conventions config.policy config.separator _ r

/-- The candidate of the edited item, with the status that it has. -/
def candidate (c : Candidate) : Candidate :=
  ⟨e.item c.item, c.status⟩

@[simp] theorem path_candidate (c : Candidate) : (e.candidate c).path = c.path :=
  e.path_item c.item

@[simp] theorem references_candidate (c : Candidate) : (e.candidate c).references = c.references := by
  show ordered _ ((e.declaration c.item.module c.item.declaration).types.flatMap _) = _
  rw [types_declaration]
  rfl

@[simp] theorem arities_declaration (m : ModulePath) (d : SchemaDeclaration) :
    (e.declaration m d).arities = d.arities := by
  rw [Declaration.arities, Declaration.arities, types_declaration]

theorem candidates_items (names : NameTable) (arena : TupleArena) (items : List SchemaItem) :
    candidates names arena (items.map e.item) = (candidates names arena items).map e.candidate := by
  rw [candidates, candidates, List.map_map, List.map_map]
  refine List.map_congr_left fun i _ => ?_
  show Candidate.mk (e.item i) (initialStatus names arena (e.item i)) = ⟨e.item i, initialStatus names arena i⟩
  refine congrArg (Candidate.mk (e.item i)) ?_
  rw [initialStatus, initialStatus, path_item, item, arities_declaration]

/-! ## The plan -/

@[simp] theorem isReady_candidate (c : Candidate) : (e.candidate c).isReady = c.isReady :=
  rfl

theorem failedReference?_candidate (failed : List SchemaPath) (c : Candidate) :
    (e.candidate c).failedReference? failed = c.failedReference? failed := by
  rw [Candidate.failedReference?, Candidate.failedReference?, references_candidate]

theorem blame_candidate (failed : List SchemaPath) (c : Candidate) :
    (e.candidate c).blame failed = e.candidate (c.blame failed) := by
  rw [Candidate.blame, Candidate.blame, isReady_candidate, failedReference?_candidate]
  split
  · cases c.failedReference? failed <;> rfl
  · rfl

theorem spread_candidates (failed : List SchemaPath) (cs : List Candidate) :
    spread failed (cs.map e.candidate) = (spread failed cs).map e.candidate := by
  rw [spread, spread, List.map_map, List.map_map]
  exact List.map_congr_left fun c _ => e.blame_candidate failed c

/-- The paths of the edited candidates that pass a test which does not look at comments. -/
theorem paths_filter {test : Candidate → Bool} (kept : ∀ c, test (e.candidate c) = test c) (cs : List Candidate) :
    ((cs.map e.candidate).filter test).map (·.path) = (cs.filter test).map (·.path) := by
  have same : test ∘ e.candidate = test := funext kept
  rw [List.filter_map, List.map_map, same]
  exact List.map_congr_left fun c _ => e.path_candidate c

theorem newlyFailed_candidates (failed : List SchemaPath) (cs : List Candidate) :
    newlyFailed failed (cs.map e.candidate) = newlyFailed failed cs :=
  e.paths_filter (fun c => by rw [isReady_candidate, failedReference?_candidate]) cs

theorem settle_candidates (rounds : Nat) (failed : List SchemaPath) (cs : List Candidate) :
    settle rounds failed (cs.map e.candidate) = (settle rounds failed cs).map e.candidate := by
  induction rounds generalizing failed cs with
  | zero => rfl
  | succ rounds ih =>
    rw [settle, settle, newlyFailed_candidates, spread_candidates, ih]
    split <;> rfl

theorem propagate_candidates (failed : List SchemaPath) (cs : List Candidate) :
    propagate failed (cs.map e.candidate) = (propagate failed cs).map e.candidate := by
  have failing : failedPaths (cs.map e.candidate) = failedPaths cs := e.paths_filter (fun _ => rfl) cs
  rw [propagate, propagate, failing, List.length_map, settle_candidates]

theorem breakImportCycles_candidates (cs : List Candidate) :
    breakImportCycles (cs.map e.candidate) = (breakImportCycles cs).map e.candidate := by
  have imports : moduleImports (cs.map e.candidate) = moduleImports cs := by
    rw [moduleImports, moduleImports, List.filter_map, List.flatMap_map]
    refine List.flatMap_congr fun c _ => ?_
    rw [Candidate.importedModules, Candidate.importedModules, references_candidate]
    rfl
  rw [breakImportCycles, breakImportCycles, imports, List.map_map, List.map_map]
  refine List.map_congr_left fun c _ => ?_
  have cyclic : ∀ graph : ImportGraph, (e.candidate c).cyclicReference? graph = c.cyclicReference? graph := by
    intro graph
    rw [Candidate.cyclicReference?, Candidate.cyclicReference?, references_candidate]
    rfl
  dsimp only [Function.comp_apply]
  rw [isReady_candidate, cyclic]
  split
  · cases c.cyclicReference? _ <;> rfl
  · rfl

/-- The plan decides about each candidate as it did before the edit. -/
theorem plan_resolved (names : NameTable) (r : Resolved) :
    plan target config names (e.resolved [] r) = (plan target config names r).map e.candidate := by
  have failed : (e.resolved [] r).failedPaths = r.failedPaths := rfl
  rw [plan, plan, failed, items_resolved, candidates_items, propagate_candidates, breakImportCycles_candidates,
    propagate_candidates]
  split <;> rfl

theorem runFailures_resolved (names : NameTable) (r : Resolved) (cs : List Candidate) :
    runFailures names (e.resolved [] r) (cs.map e.candidate) = runFailures names r cs := by
  have each : ∀ c, (e.candidate c).failure? = c.failure? := by
    intro c
    rw [Candidate.failure?, Candidate.failure?, path_candidate]
    rfl
  rw [runFailures, runFailures, List.filterMap_map]
  exact congrArg _ (List.filterMap_congr fun c _ => each c)

theorem requestTuples_candidates (arena : TupleArena) (cs : List Candidate) :
    requestTuples arena (cs.map e.candidate) = requestTuples arena cs := by
  have each : ∀ c : Candidate, (e.candidate c).item.declaration.arities = c.item.declaration.arities :=
    fun c => e.arities_declaration c.item.module c.item.declaration
  have request : ∀ c : Candidate, (e.candidate c).requestTuple = c.requestTuple := by
    intro c
    funext arena arity
    rw [Candidate.requestTuple, Candidate.requestTuple, path_candidate]
  rw [requestTuples, requestTuples, List.filter_map, List.foldlM_map]
  show (cs.filter (·.isReady)).foldlM _ arena = _
  simp only [each, request]

/-- The plan of an edited schema requests the same tuples. -/
theorem requestTuples_resolved (arena : TupleArena) (r : Resolved) :
    requestTuples arena (plan target config (runNames target config (e.resolved [] r)) (e.resolved [] r)) =
      requestTuples arena (plan target config (runNames target config r) r) := by
  rw [runNames_resolved, plan_resolved, requestTuples_candidates]

end

end SchemaBindings.CommentEdit
