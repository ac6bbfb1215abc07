import SchemaBindings.Proofs.Escalation
import SchemaBindings.Proofs.FailedAncestors

/-!
# Modules as namespaces

The names of a module's declarations depend on nothing but these declarations (`get?_of_declarationsIn_eq`). What else
the schema declares does not count, inside the module or around it, and neither does whether the module or one around
it has a name itself.

The table collects the items of a module from a listing of the whole tree. In a tree with distinct names it finds what
the module declares, in declared order (`DistinctNames.items_filter_eq`).
-/

namespace SchemaBindings

open Declaration

namespace Declaration

variable {τ κ : Type}

/-! ## Items of one module -/

/-- An item is the declaration itself, or it stands in the module of that name or below. -/
theorem module_of_mem_itemsIn {p : ModulePath} {d : Declaration τ κ} {i : Item τ κ} (member : i ∈ itemsIn p d) :
    (d.isModule = false ∧ i = ⟨p, d⟩) ∨ (d.isModule = true ∧ ∃ rest, i.module = p ++ d.name :: rest) := by
  cases d with
  | module name comment inner =>
    obtain ⟨rest, place, -, -⟩ := standsIn_of_mem_items member
    refine .inr ⟨rfl, rest, ?_⟩
    rw [place, List.append_assoc, List.singleton_append]
    rfl
  | _ => exact .inl ⟨rfl, List.mem_singleton.1 member⟩

/-- The items that stand directly in a module are its declarations other than modules. -/
theorem items_filter_module_eq (p : ModulePath) (ds : List (Declaration τ κ)) :
    (items p ds).filter (·.module = p) = (ds.filter (!·.isModule)).map (⟨p, ·⟩) := by
  induction ds with
  | nil => rfl
  | cons d ds ih =>
    rw [items, List.filter_append, ih, List.filter_cons]
    cases kind : d.isModule with
    | false =>
      have alone : itemsIn p d = [⟨p, d⟩] := by
        cases d with
        | module name comment inner => exact absurd kind (by simp [isModule])
        | _ => rfl
      simp [alone]
    | true =>
      have none : (itemsIn p d).filter (·.module = p) = [] := by
        refine List.filter_eq_nil_iff.2 fun i member => ?_
        rcases module_of_mem_itemsIn member with ⟨other, -⟩ | ⟨-, rest, place⟩
        · exact absurd kind (by simp [other])
        · simp [place]
      simp [none]

/-- No item of a declaration stands in a module of another name or below, nor does one if the declaration is no
module. -/
theorem itemsIn_filter_eq_nil {p rest : ModulePath} {name : String} {d : Declaration τ κ}
    (other : d.name = name → d.isModule = false) :
    (itemsIn p d).filter (·.module = p ++ name :: rest) = [] := by
  refine List.filter_eq_nil_iff.2 fun i member => ?_
  rcases module_of_mem_itemsIn member with ⟨-, rfl⟩ | ⟨isModule, tail, place⟩
  · simp
  · have differ : d.name ≠ name := fun same => absurd isModule (by simp [other same])
    simp [place, differ]

/-- Among declarations with distinct names only the one of that name contributes items of the module of a name. -/
theorem flatMap_itemsIn_filter_of_find? {ds : List (Declaration τ κ)} (names : (ds.map Declaration.name).Nodup)
    {name : String} {d : Declaration τ κ} (found : ds.find? (·.name == name) = some d) (p rest : ModulePath) :
    ds.flatMap (fun e => (itemsIn p e).filter (·.module = p ++ name :: rest)) =
      (itemsIn p d).filter (·.module = p ++ name :: rest) := by
  obtain ⟨same, before, after, rfl, unlike⟩ := List.find?_eq_some_iff_append.1 found
  have same : d.name = name := by simpa using same
  have front : ∀ e ∈ before, e.name ≠ name := by simpa using unlike
  have back : ∀ e ∈ after, e.name ≠ name := by
    intro e member same'
    rw [List.map_append, List.map_cons] at names
    refine (List.nodup_cons.1 (List.nodup_append.1 names).2.1).1 ?_
    rw [same, ← same']
    exact List.mem_map_of_mem member
  rw [List.flatMap_append, List.flatMap_cons,
    List.flatMap_eq_nil_iff.2 fun e member => itemsIn_filter_eq_nil fun same => absurd same (front e member),
    List.flatMap_eq_nil_iff.2 fun e member => itemsIn_filter_eq_nil fun same => absurd same (back e member),
    List.nil_append, List.append_nil]

/-- In a tree with distinct names the items of a module are what the module declares. -/
theorem DistinctNames.items_filter_eq {ds : List (Declaration τ κ)} (distinct : DistinctNames ds) (p m : ModulePath) :
    (items p ds).filter (·.module = p ++ m) =
      (((declarationsAt? m ds).getD []).filter (!·.isModule)).map (⟨p ++ m, ·⟩) := by
  induction m generalizing p ds with
  | nil =>
    rw [List.append_nil]
    exact items_filter_module_eq p ds
  | cons name m ih =>
    cases distinct with
    | intro names inside =>
      rw [declarationsAt?, items_eq_flatMap, List.filter_flatMap]
      cases found : ds.find? (·.name == name) with
      | none =>
        have unlike : ∀ d ∈ ds, d.name ≠ name := by simpa using List.find?_eq_none.1 found
        rw [List.flatMap_eq_nil_iff.2 fun d member =>
          itemsIn_filter_eq_nil fun same => absurd same (unlike d member)]
        rfl
      | some d =>
        rw [flatMap_itemsIn_filter_of_find? names found]
        cases d with
        | module name' comment inner =>
          obtain rfl : name' = name := by simpa [Declaration.name] using List.find?_some found
          have below := ih (inside _ _ _ (List.mem_of_find?_eq_some found)) (p ++ [name'])
          rw [List.append_assoc, List.singleton_append] at below
          exact below
        | _ => rw [itemsIn_filter_eq_nil fun _ => rfl]; rfl

end Declaration

/-! ## Declarations of a module -/

/-- What a module declares directly, in declared order, the modules inside it left out. -/
def Resolved.declarationsIn (r : Resolved) (m : ModulePath) : List SchemaDeclaration :=
  ((declarationsAt? m r.declarations).getD []).filter (!·.isModule)

theorem Document.itemsOf_eq_map (document : Document) (m : ModulePath) :
    document.resolve.itemsOf m = (document.resolve.declarationsIn m).map (⟨m, ·⟩) :=
  (resolveAll_distinctNames document [] document.declarations).items_filter_eq [] m

/-! ## Entries of a module -/

/-- The declarations of a module have the same entries in every schema in which the module declares them, and each has
one. What is reserved in the root module counts for modules only. -/
theorem get?_of_declarationsIn_eq {document document' : Document} {m : ModulePath}
    (same : document.resolve.declarationsIn m = document'.resolve.declarationsIn m) (conventions : Conventions)
    (policy : NamingPolicy) (separator : String) (reserved reserved' : List (String × String)) :
    ∀ d ∈ document.resolve.declarationsIn m, ∃ entry,
      (NameTable.build conventions policy separator reserved document.resolve).get? ⟨m ++ [d.name]⟩ = some entry ∧
      (NameTable.build conventions policy separator reserved' document'.resolve).get? ⟨m ++ [d.name]⟩ =
        some entry := by
  intro d declared
  have listing : document.resolve.itemsOf m = document'.resolve.itemsOf m := by
    rw [document.itemsOf_eq_map, document'.itemsOf_eq_map, same]
  let i : SchemaItem := ⟨m, d⟩
  have listed : i ∈ document.resolve.itemsOf m := by
    rw [document.itemsOf_eq_map]
    exact List.mem_map_of_mem declared
  have item := (Resolved.mem_itemsOf.1 listed).1
  have item' := (Resolved.mem_itemsOf.1 (listing ▸ listed)).1
  obtain ⟨entry, found⟩ : ∃ entry,
      (NameTable.build conventions policy separator reserved document.resolve).get? i.path = some entry :=
    exists_get? item
  refine ⟨entry, found, (get?_eq_some_iff item').2 ?_⟩
  rw [← listing]
  exact (get?_eq_some_iff item).1 found

/-- Two structs with one emitted name, and a union with a variant of that name. -/
def crowdedDeclarations : List DeclarationExpr :=
  [.struct ⟨"Point", [], [], none⟩, .struct ⟨"point", [], [], none⟩, .union (plainUnion "Shape" ["Point", "Line"])]

/-- A module that has lost its name to another one, between declarations that emit what is emitted in it. -/
def unnamedModuleDocument : Document :=
  ⟨[.module "Geo" none [.struct ⟨"Line", [], [], none⟩], .struct ⟨"Shape", [], [], none⟩,
    .module "geo" none crowdedDeclarations]⟩

/-- The same module alone in its schema, with a module inside. -/
def namedModuleDocument : Document :=
  ⟨[.module "geo" none (.module "inner" none [.struct ⟨"Line", [], [], none⟩] :: crowdedDeclarations)]⟩

/-- The module fails in one of the schemas and has a name in the other. In both the second struct loses its name to the
first one, and the union is qualified. -/
theorem geo_entries_eq :
    let table := NameTable.build Go.conventions .auto "_" [] unnamedModuleDocument.resolve
    let table' := NameTable.build Go.conventions .auto "_" [] namedModuleDocument.resolve
    table.failedAncestor? ["geo"] = some ⟨["geo"]⟩ ∧ table'.failedAncestor? ["geo"] = none ∧
      (unnamedModuleDocument.resolve.declarationsIn ["geo"]).map (·.name) = ["Point", "point", "Shape"] ∧
      (∀ d ∈ unnamedModuleDocument.resolve.declarationsIn ["geo"], ∃ entry,
        table.get? ⟨["geo", d.name]⟩ = some entry ∧ table'.get? ⟨["geo", d.name]⟩ = some entry) ∧
      table'.get? ⟨["geo", "point"]⟩ = some (.error (.namingCollision "Point" "geo::Point")) ∧
      table'.get? ⟨["geo", "Shape"]⟩ = some (.ok ⟨"Shape", ["Shape_Point", "Shape_Line"], true⟩) := by
  intro table table'
  have entries := get?_of_declarationsIn_eq
    (show unnamedModuleDocument.resolve.declarationsIn ["geo"] = namedModuleDocument.resolve.declarationsIn ["geo"]
      from rfl) Go.conventions .auto "_" [] []
  have names : emittedModule Go.conventions ["Geo"] = "geo" ∧ emittedModule Go.conventions ["geo"] = "geo" := by
    decide +kernel
  have lost : LosesName Go.conventions [] unnamedModuleDocument.resolve.modulePaths ["geo"] :=
    ⟨by decide +kernel, by decide, .inr ⟨["Geo"], by decide +kernel, names.1.trans names.2.symm⟩⟩
  exact ⟨failedAncestor?_of_losesName lost [], by decide +kernel, by decide +kernel, entries, by decide +kernel,
    by decide +kernel⟩

end SchemaBindings
