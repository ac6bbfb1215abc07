import Mathlib.Data.List.Nodup
import SchemaBindings.Declaration

/-!
# The tree of declarations

Three views of a tree of modules, tied to `Declaration.items` and `Declaration.modules`:

* `StandsIn ds m d`: the declaration `d` stands in the module `m` below `ds`;
* `declarationsAt? m ds`: what the module `m` declares, where the first declaration of a name counts;
* `firstOnes seen ds`: the declarations that are the first of their name.

Where the names in each module are distinct (`DistinctNames`), the paths of the items are distinct too.
-/

namespace SchemaBindings.Declaration

variable {τ κ : Type}

/-! ## Induction over modules -/

/-- What holds of declarations if it holds of the declarations of each module among them holds of all. -/
theorem module_induction {P : List (Declaration τ κ) → Prop}
    (step : ∀ ds, (∀ name comment inner, module name comment inner ∈ ds → P inner) → P ds)
    (ds : List (Declaration τ κ)) : P ds :=
  step ds fun _ _ inner _ => module_induction step inner
termination_by sizeOf ds
decreasing_by
  have smaller := List.sizeOf_lt_of_mem ‹_›
  simp only [module.sizeOf_spec] at smaller
  omega

/-! ## Standing in a module -/

/-- The declaration stands in the module `m` below `ds`. -/
inductive StandsIn : List (Declaration τ κ) → ModulePath → Declaration τ κ → Prop
  | here {ds : List (Declaration τ κ)} {d : Declaration τ κ} : d ∈ ds → StandsIn ds [] d
  | inside {ds inner : List (Declaration τ κ)} {name : String} {comment : Option String}
      {m : ModulePath} {d : Declaration τ κ} :
      module name comment inner ∈ ds → StandsIn inner m d → StandsIn ds (name :: m) d

@[simp] theorem standsIn_nil {ds : List (Declaration τ κ)} {d : Declaration τ κ} :
    StandsIn ds [] d ↔ d ∈ ds := by
  refine ⟨fun stands => ?_, .here⟩
  cases stands with
  | here member => exact member

theorem standsIn_cons {ds : List (Declaration τ κ)} {name : String} {m : ModulePath}
    {d : Declaration τ κ} :
    StandsIn ds (name :: m) d ↔
      ∃ comment inner, module name comment inner ∈ ds ∧ StandsIn inner m d := by
  constructor
  · intro stands
    cases stands with
    | inside member stands => exact ⟨_, _, member, stands⟩
  · rintro ⟨_, _, member, stands⟩
    exact .inside member stands

/-! ## Items -/

theorem items_eq_flatMap (m : ModulePath) (ds : List (Declaration τ κ)) :
    items m ds = ds.flatMap (itemsIn m) := by
  induction ds with
  | nil => rfl
  | cons d ds ih => rw [items, ih, List.flatMap_cons]

theorem modules_eq_flatMap (m : ModulePath) (ds : List (Declaration τ κ)) :
    modules m ds = ds.flatMap (modulesIn m) := by
  induction ds with
  | nil => rfl
  | cons d ds ih => rw [modules, ih, List.flatMap_cons]

theorem standsIn_of_mem_items {m : ModulePath} {ds : List (Declaration τ κ)} {i : Item τ κ}
    (member : i ∈ items m ds) :
    ∃ rest, i.module = m ++ rest ∧ StandsIn ds rest i.declaration ∧
      i.declaration.isModule = false := by
  induction ds using module_induction generalizing m with
  | step ds ih =>
    rw [items_eq_flatMap] at member
    obtain ⟨d, among, member⟩ := List.mem_flatMap.1 member
    cases d with
    | module name comment inner =>
      rw [itemsIn] at member
      obtain ⟨rest, place, stands, isItem⟩ := ih name comment inner among member
      refine ⟨name :: rest, ?_, .inside among stands, isItem⟩
      rw [place, List.append_assoc, List.singleton_append]
    | _ =>
      rw [itemsIn, List.mem_singleton] at member
      subst member
      exact ⟨[], (List.append_nil m).symm, .here among, rfl⟩

theorem mem_items_of_standsIn {ds : List (Declaration τ κ)} {rest : ModulePath}
    {d : Declaration τ κ} (stands : StandsIn ds rest d) (isItem : d.isModule = false)
    (m : ModulePath) : ⟨m ++ rest, d⟩ ∈ items m ds := by
  rw [items_eq_flatMap]
  induction stands generalizing m with
  | @here ds d member =>
    refine List.mem_flatMap.2 ⟨d, member, ?_⟩
    rw [List.append_nil]
    cases d with
    | module name comment declarations => exact absurd isItem (by simp [isModule])
    | _ => simp [itemsIn]
  | @inside ds inner name comment rest d member _ ih =>
    refine List.mem_flatMap.2 ⟨_, member, ?_⟩
    have below := ih isItem (m ++ [name])
    rw [List.append_assoc, List.singleton_append] at below
    rwa [itemsIn, items_eq_flatMap]

/-- The items of a tree are its declarations other than modules. -/
theorem mem_items_iff {ds : List (Declaration τ κ)} {i : Item τ κ} :
    i ∈ items [] ds ↔ StandsIn ds i.module i.declaration ∧ i.declaration.isModule = false := by
  constructor
  · intro member
    obtain ⟨rest, place, stands, isItem⟩ := standsIn_of_mem_items member
    rw [List.nil_append] at place
    exact ⟨place ▸ stands, isItem⟩
  · rintro ⟨stands, isItem⟩
    exact mem_items_of_standsIn stands isItem []

/-! ## Module paths -/

theorem standsIn_of_mem_modules {m n : ModulePath} {ds : List (Declaration τ κ)}
    (member : n ∈ (modules m ds).map (·.1)) :
    ∃ rest name comment inner, n = m ++ (rest ++ [name]) ∧
      StandsIn ds rest (module name comment inner) := by
  induction ds using module_induction generalizing m with
  | step ds ih =>
    obtain ⟨entry, listed, rfl⟩ := List.mem_map.1 member
    rw [modules_eq_flatMap] at listed
    obtain ⟨d, among, listed⟩ := List.mem_flatMap.1 listed
    cases d with
    | module name comment inner =>
      rw [modulesIn] at listed
      rcases List.mem_cons.1 listed with rfl | deeper
      · exact ⟨[], name, comment, inner, rfl, .here among⟩
      · obtain ⟨rest, name', comment', inner', equal, stands⟩ :=
          ih name comment inner among (List.mem_map_of_mem deeper)
        refine ⟨name :: rest, name', comment', inner', ?_, .inside among stands⟩
        rw [equal, List.append_assoc, List.singleton_append, List.cons_append]
    | _ => exact absurd listed List.not_mem_nil

theorem mem_modules_of_standsIn {ds : List (Declaration τ κ)} {rest : ModulePath} {name : String}
    {comment : Option String} {inner : List (Declaration τ κ)}
    (stands : StandsIn ds rest (module name comment inner)) (m : ModulePath) :
    (m ++ (rest ++ [name]), comment) ∈ modules m ds := by
  rw [modules_eq_flatMap]
  generalize declared : module name comment inner = d at stands
  induction stands generalizing m with
  | here member =>
    subst declared
    exact List.mem_flatMap.2 ⟨_, member, by simp [modulesIn]⟩
  | @inside ds deeper around _ rest d member _ ih =>
    refine List.mem_flatMap.2 ⟨_, member, ?_⟩
    have below := ih (m ++ [around]) declared
    rw [List.append_assoc, List.singleton_append] at below
    rw [modulesIn, modules_eq_flatMap]
    exact List.mem_cons_of_mem _ below

/-- The module paths of a tree are the root and the places of its modules. -/
theorem mem_modulePaths_iff {ds : List (Declaration τ κ)} {m : ModulePath} :
    m ∈ modulePaths ds ↔ m = [] ∨
      ∃ rest name comment inner, m = rest ++ [name] ∧
        StandsIn ds rest (module name comment inner) := by
  unfold modulePaths
  rw [List.mem_cons]
  constructor
  · rintro (root | deeper)
    · exact .inl root
    · exact .inr (standsIn_of_mem_modules deeper)
  · rintro (root | ⟨rest, name, comment, inner, rfl, stands⟩)
    · exact .inl root
    · exact .inr (List.mem_map.2 ⟨_, mem_modules_of_standsIn stands [], rfl⟩)

/-! ## Distinct names -/

/-- The names of the declarations, and those in each module among them, are distinct. -/
inductive DistinctNames : List (Declaration τ κ) → Prop
  | intro {ds : List (Declaration τ κ)} : (ds.map name).Nodup →
      (∀ name comment inner, module name comment inner ∈ ds → DistinctNames inner) →
      DistinctNames ds

theorem StandsIn.exists_around {ds : List (Declaration τ κ)} {m : ModulePath}
    {d : Declaration τ κ} (stands : StandsIn ds m d) :
    ∃ e ∈ ds, ∃ rest, m ++ [d.name] = e.name :: rest := by
  cases stands with
  | here member => exact ⟨d, member, [], rfl⟩
  | inside member _ => exact ⟨_, member, _, rfl⟩

theorem exists_around_of_mem_items {m : ModulePath} {ds : List (Declaration τ κ)} {i : Item τ κ}
    (member : i ∈ items m ds) : ∃ e ∈ ds, ∃ rest, i.path = ⟨m ++ e.name :: rest⟩ := by
  obtain ⟨rest, place, stands, -⟩ := standsIn_of_mem_items member
  obtain ⟨e, among, tail, equal⟩ := stands.exists_around
  refine ⟨e, among, tail, ?_⟩
  rw [Item.path, SchemaPath.child, place, List.append_assoc, equal]

theorem exists_path_of_mem_itemsIn {m : ModulePath} {d : Declaration τ κ} {i : Item τ κ}
    (member : i ∈ itemsIn m d) : ∃ rest, i.path = ⟨m ++ d.name :: rest⟩ := by
  have alone : i ∈ items m [d] := by
    rw [items_eq_flatMap, List.flatMap_singleton]
    exact member
  obtain ⟨e, among, rest, path⟩ := exists_around_of_mem_items alone
  exact ⟨rest, List.mem_singleton.1 among ▸ path⟩

/-- In a tree with distinct names the paths of the items are distinct. -/
theorem DistinctNames.items_paths_nodup {ds : List (Declaration τ κ)} (distinct : DistinctNames ds)
    (m : ModulePath) : ((items m ds).map Item.path).Nodup := by
  induction distinct generalizing m with
  | @intro ds names _ ih =>
    rw [items_eq_flatMap, List.map_flatMap, List.nodup_flatMap]
    constructor
    · intro d among
      cases d with
      | module name comment inner => exact ih name comment inner among _
      | _ => exact List.nodup_singleton _
    -- The paths of two declarations part at their names.
    · refine (List.pairwise_map.1 names).imp fun differ p first later => ?_
      obtain ⟨i, member, rfl⟩ := List.mem_map.1 first
      obtain ⟨j, member', samePath⟩ := List.mem_map.1 later
      obtain ⟨rest, path⟩ := exists_path_of_mem_itemsIn member
      obtain ⟨rest', path'⟩ := exists_path_of_mem_itemsIn member'
      rw [path, path', SchemaPath.mk.injEq] at samePath
      exact differ (List.cons.inj (List.append_cancel_left samePath)).1.symm

/-! ## The first declaration of a name -/

/-- The declarations that are the first of their name; `seen` lists the names before them. -/
def firstOnes (seen : List String) : List (Declaration τ κ) → List (Declaration τ κ)
  | [] => []
  | d :: ds => if d.name ∈ seen then firstOnes seen ds else d :: firstOnes (d.name :: seen) ds

theorem mem_firstOnes_iff {seen : List String} {ds : List (Declaration τ κ)}
    {d : Declaration τ κ} :
    d ∈ firstOnes seen ds ↔ d.name ∉ seen ∧ ds.find? (·.name == d.name) = some d := by
  induction ds generalizing seen with
  | nil => simp [firstOnes]
  | cons e ds ih =>
    unfold firstOnes
    rw [List.find?_cons]
    by_cases same : e.name = d.name
    · simp only [same, BEq.rfl, Option.some.injEq]
      split
      · next before => simp [ih, before]
      · next fresh => simp [ih, fresh, eq_comm (a := d)]
    · have differ : (e.name == d.name) = false := by simpa using same
      have other : d ≠ e := fun equal => same (equal ▸ rfl)
      simp only [differ]
      split
      · exact ih
      · rw [List.mem_cons, ih, List.mem_cons, not_or]
        simp [other, Ne.symm same]

theorem mem_of_mem_firstOnes {seen : List String} {ds : List (Declaration τ κ)}
    {d : Declaration τ κ} (first : d ∈ firstOnes seen ds) : d ∈ ds :=
  List.mem_of_find?_eq_some (mem_firstOnes_iff.1 first).2

theorem firstOnes_names_nodup (seen : List String) (ds : List (Declaration τ κ)) :
    ((firstOnes seen ds).map name).Nodup := by
  induction ds generalizing seen with
  | nil => exact List.nodup_nil
  | cons d ds ih =>
    unfold firstOnes
    split
    · exact ih seen
    · rw [List.map_cons, List.nodup_cons]
      refine ⟨fun repeated => ?_, ih _⟩
      obtain ⟨e, first, same⟩ := List.mem_map.1 repeated
      exact (mem_firstOnes_iff.1 first).1 (same ▸ List.mem_cons_self)

/-- The declarations of the module at a path, where the first declaration of a name counts. -/
def declarationsAt? : ModulePath → List (Declaration τ κ) → Option (List (Declaration τ κ))
  | [], ds => some ds
  | name :: rest, ds =>
    match ds.find? (·.name == name) with
    | some (module _ _ inner) => declarationsAt? rest inner
    | _ => none

/-- The declaration of a name in the module at a path, where the first one of a name counts. -/
def declared? (ds : List (Declaration τ κ)) (m : ModulePath) (name : String) :
    Option (Declaration τ κ) :=
  (declarationsAt? m ds).bind fun inner => inner.find? (·.name == name)

theorem find?_eq_some_iff_mem_firstOnes {ds : List (Declaration τ κ)} {name : String}
    {d : Declaration τ κ} :
    ds.find? (·.name == name) = some d ↔ d ∈ firstOnes [] ds ∧ d.name = name := by
  constructor
  · intro found
    obtain rfl : d.name = name := by simpa using List.find?_some found
    exact ⟨mem_firstOnes_iff.2 ⟨List.not_mem_nil, found⟩, rfl⟩
  · rintro ⟨first, rfl⟩
    exact (mem_firstOnes_iff.1 first).2

theorem declarationsAt?_cons_eq_some {ds inner : List (Declaration τ κ)} {name : String}
    {m : ModulePath} :
    declarationsAt? (name :: m) ds = some inner ↔
      ∃ comment declarations, module name comment declarations ∈ firstOnes [] ds ∧
        declarationsAt? m declarations = some inner := by
  rw [declarationsAt?]
  constructor
  · intro found
    split at found
    · next name' comment declarations first =>
      obtain ⟨counts, rfl⟩ := find?_eq_some_iff_mem_firstOnes.1 first
      exact ⟨comment, declarations, counts, found⟩
    · exact absurd found (by simp)
  · rintro ⟨comment, declarations, first, found⟩
    have first' : ds.find? (·.name == name) = some (module name comment declarations) :=
      find?_eq_some_iff_mem_firstOnes.2 ⟨first, rfl⟩
    rw [first']
    exact found

theorem declarationsAt?_append (m n : ModulePath) (ds : List (Declaration τ κ)) :
    declarationsAt? (m ++ n) ds = (declarationsAt? m ds).bind (declarationsAt? n) := by
  induction m generalizing ds with
  | nil => rfl
  | cons name m ih =>
    rw [List.cons_append, declarationsAt?, declarationsAt?]
    split
    · exact ih _
    · rfl

/-- What a module declares is what the declaration of its name holds in the module around. -/
theorem declarationsAt?_concat_eq_some {ds inner : List (Declaration τ κ)} {m : ModulePath}
    {name : String} :
    declarationsAt? (m ++ [name]) ds = some inner ↔
      ∃ around, declarationsAt? m ds = some around ∧
        ∃ comment, module name comment inner ∈ firstOnes [] around := by
  rw [declarationsAt?_append, Option.bind_eq_some_iff]
  refine exists_congr fun around => and_congr_right fun _ => ?_
  rw [declarationsAt?_cons_eq_some]
  simp [declarationsAt?]

theorem declared?_eq_some {ds : List (Declaration τ κ)} {m : ModulePath} {name : String}
    {d : Declaration τ κ} :
    declared? ds m name = some d ↔
      ∃ inner, declarationsAt? m ds = some inner ∧ d ∈ firstOnes [] inner ∧ d.name = name := by
  unfold declared?
  simp only [Option.bind_eq_some_iff, find?_eq_some_iff_mem_firstOnes]

end SchemaBindings.Declaration
