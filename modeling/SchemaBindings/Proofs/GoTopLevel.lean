import SchemaBindings.Proofs.GoImports
import SchemaBindings.Proofs.GoTexts

/-!
# Names at the top level of Go packages

A package declares the names that the table gives to its declarations, and functions that are called like these with a
word in front: `New` for each record and `Match` for each union.

The names of the table differ from each other (`tableNames_nodup`, `tableNames_disjoint`), and so do the functions
(`functionNames_nodup`, `functionNames_disjoint`). But the table does not know the functions, so a package has a name
twice exactly if a function is called like something that the table has named in the same module
(`packageNames_nodup_iff`).
-/

namespace SchemaBindings.Go

/-! ## Names of declarations -/

/-- The names that the table gives to what is emitted. -/
def tableNames (c : Candidate) : List String :=
  match c.status with
  | .ok own => own.identifier :: own.variants
  | .error _ => []

/-- The functions of a declaration: the constructor of each record, and the match function of a union. -/
def functionsOf (own : DeclarationNames) : SchemaDeclaration → List String
  | .struct _ => ["New" ++ own.identifier]
  | .union _ => ("Match" ++ own.identifier) :: own.variants.map ("New" ++ ·)
  | .typeAlias _ | .const _ | .module _ _ _ => []

def functionNames (c : Candidate) : List String :=
  match c.status with
  | .ok own => functionsOf own c.item.declaration
  | .error _ => []

/-- The names of tuple records and of the candidates of a module, each with its functions. -/
def packageNames (arities : List Nat) (cs : List Candidate) (m : ModulePath) : List String :=
  let records := (if m = tuplesModule then arities else []).map tupleName
  let inside := cs.filter (·.item.module = m)
  (records ++ inside.flatMap tableNames) ++ (records.map ("New" ++ ·) ++ inside.flatMap functionNames)

def functionWords : List String :=
  ["New", "Match"]

/-- A function has the name of something in the table behind a word. -/
theorem mem_functionNames {c : Candidate} {name : String} (function : name ∈ functionNames c) :
    ∃ word ∈ functionWords, ∃ entry ∈ tableNames c, name = word ++ entry := by
  have new : "New" ∈ functionWords := by decide
  have match' : "Match" ∈ functionWords := by decide
  unfold functionNames at function
  unfold tableNames
  cases status : c.status with
  | error fault =>
    rw [status] at function
    exact absurd function List.not_mem_nil
  | ok own =>
    rw [status] at function
    cases declared : c.item.declaration with
    | struct s =>
      rw [declared] at function
      exact ⟨_, new, own.identifier, List.mem_cons_self, List.mem_singleton.1 function⟩
    | union u =>
      rw [declared] at function
      rcases List.mem_cons.1 function with rfl | constructor
      · exact ⟨_, match', own.identifier, List.mem_cons_self, rfl⟩
      · obtain ⟨v, variant, rfl⟩ := List.mem_map.1 constructor
        exact ⟨_, new, v, List.mem_cons_of_mem _ variant, rfl⟩
    | typeAlias a | const c | module _ _ _ =>
      rw [declared] at function
      exact absurd function List.not_mem_nil

/-- The words begin with different letters, so both parts can be read off the name of a function. -/
theorem function_injective {word word' entry entry' : String} (among : word ∈ functionWords)
    (among' : word' ∈ functionWords) (same : word ++ entry = word' ++ entry') : word = word' ∧ entry = entry' := by
  have letters : ∀ word ∈ functionWords, ∀ word' ∈ functionWords,
      word.toList.head? = word'.toList.head? → word = word' := by
    decide
  have filled : ∀ word ∈ functionWords, word.toList ≠ [] := by decide
  have first := congrArg (fun name : String => name.toList.head?) same
  rw [String.toList_append, String.toList_append, List.head?_append_of_ne_nil _ (filled word among),
    List.head?_append_of_ne_nil _ (filled word' among')] at first
  obtain rfl := letters word among word' among' first
  exact ⟨rfl, (String.append_right_inj word).1 same⟩

/-! ## Names of modules -/

abbrev goPlan (document : Document) (config : Config) : List Candidate :=
  plan Go.target config (runNames Go.target config document.resolve) document.resolve

section

variable {document : Document} {config : Config} {c d : Candidate} {m : ModulePath}

theorem tableNames_of_ready (member : c ∈ goPlan document config) (ready : c.isReady = true) :
    ∃ own, (runNames Go.target config document.resolve).get? c.path = some (.ok own) ∧
      tableNames c = own.identifier :: own.variants ∧
      functionNames c = functionsOf own c.item.declaration := by
  obtain ⟨own, status, -, -, found⟩ := status_of_mem_plan member ready
  exact ⟨own, found, by rw [tableNames, status], by rw [functionNames, status]⟩

theorem names_of_not_ready (out : c.isReady = false) : tableNames c = [] ∧ functionNames c = [] := by
  obtain ⟨fault, status⟩ := Candidate.not_isReady_iff.1 out
  exact ⟨by rw [tableNames, status], by rw [functionNames, status]⟩

theorem tableNames_nodup (member : c ∈ goPlan document config) : (tableNames c).Nodup := by
  cases ready : c.isReady with
  | false =>
    rw [(names_of_not_ready ready).1]
    exact List.nodup_nil
  | true =>
    obtain ⟨own, found, names, -⟩ := tableNames_of_ready member ready
    rw [names]
    exact emitted_nodup found

theorem functionNames_nodup (member : c ∈ goPlan document config) : (functionNames c).Nodup := by
  cases ready : c.isReady with
  | false =>
    rw [(names_of_not_ready ready).2]
    exact List.nodup_nil
  | true =>
    obtain ⟨own, found, -, functions⟩ := tableNames_of_ready member ready
    rw [functions]
    cases c.item.declaration with
    | struct s => exact List.nodup_singleton _
    | union u =>
      have variants : own.variants.Nodup := (List.nodup_cons.1 (emitted_nodup found)).2
      refine List.nodup_cons.2 ⟨fun constructor => ?_, variants.map fun _ _ => (String.append_right_inj _).1⟩
      obtain ⟨v, -, same⟩ := List.mem_map.1 constructor
      have words := (function_injective (by decide) (by decide) same).1
      exact absurd words (by decide)
    | typeAlias a | const c | module _ _ _ => exact List.nodup_nil

theorem tableNames_disjoint (member : c ∈ goPlan document config) (member' : d ∈ goPlan document config)
    (together : c.item.module = d.item.module) (differ : c.path ≠ d.path) :
    (tableNames c).Disjoint (tableNames d) := by
  cases ready : c.isReady with
  | false =>
    rw [(names_of_not_ready ready).1]
    exact List.disjoint_nil_left _
  | true =>
    cases ready' : d.isReady with
    | false =>
      rw [(names_of_not_ready ready').1]
      exact List.disjoint_nil_right _
    | true =>
      obtain ⟨own, found, names, -⟩ := tableNames_of_ready member ready
      obtain ⟨other, found', names', -⟩ := tableNames_of_ready member' ready'
      have modules : c.path.module = d.path.module := by
        rw [Candidate.path, Candidate.path, path_module, path_module, together]
      rw [names, names']
      exact emitted_disjoint found found' modules differ

theorem functionNames_disjoint (disjoint : (tableNames c).Disjoint (tableNames d)) :
    (functionNames c).Disjoint (functionNames d) := by
  intro name function function'
  obtain ⟨word, among, entry, listed, rfl⟩ := mem_functionNames function
  obtain ⟨word', among', entry', listed', same⟩ := mem_functionNames function'
  obtain ⟨-, rfl⟩ := function_injective among among' same
  exact disjoint listed listed'

/-- Names of the candidates of a module all differ if those of each do, and those of any two. -/
theorem names_nodup {names : Candidate → List String}
    (each : ∀ c ∈ goPlan document config, (names c).Nodup)
    (apart : ∀ c ∈ goPlan document config, ∀ d ∈ goPlan document config, c.item.module = d.item.module →
      c.path ≠ d.path → (names c).Disjoint (names d)) :
    (((goPlan document config).filter (·.item.module = m)).flatMap names).Nodup := by
  have paths := plan_paths_nodup Go.target config (runNames Go.target config document.resolve) document
  have differ := (List.pairwise_map.1 paths).filter (·.item.module = m)
  refine List.nodup_flatMap.2 ⟨fun c member => each c (List.mem_filter.1 member).1, ?_⟩
  refine differ.imp_of_mem fun {c d} member member' differ => ?_
  obtain ⟨member, home⟩ := List.mem_filter.1 member
  obtain ⟨member', home'⟩ := List.mem_filter.1 member'
  refine apart c member d member' ?_ differ
  rw [of_decide_eq_true home, of_decide_eq_true home']

/-- Nothing is emitted in the module of the tuple records. -/
theorem names_of_tuplesModule (member : c ∈ goPlan document config) (home : c.item.module = tuplesModule) :
    tableNames c = [] ∧ functionNames c = [] := by
  cases ready : c.isReady with
  | false => exact names_of_not_ready ready
  | true => exact absurd rfl (moduleName_ne_tuples member ready home)

theorem tupleNames_nodup {arities : List Nat} (distinct : arities.Nodup) :
    (arities.map tupleName ++ (arities.map tupleName).map ("New" ++ ·)).Nodup := by
  have records : (arities.map tupleName).Nodup := distinct.map fun _ _ => tupleName_injective
  refine List.nodup_append.2 ⟨records, records.map fun _ _ => (String.append_right_inj _).1, ?_⟩
  intro record listed function constructor same
  obtain ⟨arity, -, rfl⟩ := List.mem_map.1 listed
  obtain ⟨entry, -, rfl⟩ := List.mem_map.1 constructor
  have first := congrArg (fun name : String => name.toList.head?) same
  rw [tupleName, String.toList_append, String.toList_append] at first
  exact absurd (Option.some.inj first) (by decide)

/-- A package has a name twice exactly if a function is called like something in the table of its module. -/
theorem packageNames_nodup_iff {arities : List Nat} (distinct : arities.Nodup) (m : ModulePath) :
    (packageNames arities (goPlan document config) m).Nodup ↔
      ∀ c ∈ goPlan document config, ∀ d ∈ goPlan document config, c.item.module = m → d.item.module = m →
        ∀ name ∈ functionNames c, name ∉ tableNames d := by
  by_cases records : m = tuplesModule
  · subst records
    have silent : ∀ c ∈ (goPlan document config).filter (·.item.module = tuplesModule),
        tableNames c = [] ∧ functionNames c = [] := by
      intro c member
      obtain ⟨member, home⟩ := List.mem_filter.1 member
      exact names_of_tuplesModule member (of_decide_eq_true home)
    rw [packageNames, List.flatMap_eq_nil_iff.2 fun c member => (silent c member).1,
      List.flatMap_eq_nil_iff.2 fun c member => (silent c member).2, if_pos rfl, List.append_nil, List.append_nil]
    refine iff_of_true (tupleNames_nodup distinct) ?_
    intro c member d _ home _ name function
    rw [(names_of_tuplesModule member home).2] at function
    exact absurd function List.not_mem_nil
  · have table : (((goPlan document config).filter (·.item.module = m)).flatMap tableNames).Nodup :=
      names_nodup (fun _ => tableNames_nodup) fun c member d member' => tableNames_disjoint member member'
    have functions : (((goPlan document config).filter (·.item.module = m)).flatMap functionNames).Nodup :=
      names_nodup (fun _ => functionNames_nodup) fun c member d member' together differ =>
        functionNames_disjoint (tableNames_disjoint member member' together differ)
    rw [packageNames]
    simp only [if_neg records, List.map_nil, List.nil_append]
    constructor
    · intro nodup c member d member' home home' name function listed
      have apart := (List.nodup_append.1 nodup).2.2
      refine apart name ?_ name ?_ rfl
      · exact List.mem_flatMap.2 ⟨d, List.mem_filter.2 ⟨member', decide_eq_true home'⟩, listed⟩
      · exact List.mem_flatMap.2 ⟨c, List.mem_filter.2 ⟨member, decide_eq_true home⟩, function⟩
    · intro apart
      refine List.nodup_append.2 ⟨table, functions, ?_⟩
      rintro name listed _ function rfl
      obtain ⟨d, member', listed⟩ := List.mem_flatMap.1 listed
      obtain ⟨c, member, function⟩ := List.mem_flatMap.1 function
      obtain ⟨member, home⟩ := List.mem_filter.1 member
      obtain ⟨member', home'⟩ := List.mem_filter.1 member'
      exact apart c member d member' (of_decide_eq_true home) (of_decide_eq_true home') name function listed

end

end SchemaBindings.Go
