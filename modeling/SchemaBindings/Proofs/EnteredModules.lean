import SchemaBindings.Proofs.Sites

/-!
# Modules that resolution enters

The walk over a document meets the modules that resolution keeps in the order in which the resolved document lists them
(`Document.modulePaths_eq`), and their paths are distinct (`Document.modulePaths_nodup`).
-/

namespace SchemaBindings

open Declaration

/-! ## The walk -/

/-- The path of a module that resolution keeps. -/
def Site.entered? (table : List Symbol) (s : Site) : Option ModulePath :=
  match s.outcome table with
  | .kept d => if d.isModule then some s.path.segments else none
  | _ => none

theorem entered?_of_rejected {table : List Symbol} {s : Site} {fault : Fault}
    (outcome : s.outcome table = .rejected fault) : s.entered? table = none := by
  rw [Site.entered?, outcome]

/-- No module is entered inside one that is left out. -/
theorem entered_hidden {table : List Symbol} {sites : List Site} (hidden : ∀ s ∈ sites, s.hidden = true) :
    sites.filterMap (Site.entered? table) = [] := by
  refine List.filterMap_eq_nil_iff.2 fun s member => ?_
  rw [Site.entered?, Site.outcome, if_pos (hidden s member)]

theorem entered_repeated (table : List Symbol) (m : ModulePath) (d : DeclarationExpr) :
    (sitesIn m false true d).filterMap (Site.entered? table) = [] := by
  cases d with
  | module name comment inner =>
    rw [sitesIn, List.filterMap_cons_none (entered?_of_rejected rfl)]
    exact entered_hidden (sitesFrom_hidden (m ++ [name]) [] inner)
  | _ => exact List.filterMap_cons_none (entered?_of_rejected rfl)

theorem entered_item (table : List Symbol) (m : ModulePath) {d : DeclarationExpr} (isItem : d.isModule = false) :
    [(⟨m, d, false, false⟩ : Site)].filterMap (Site.entered? table) =
      (modules m (resolveIn table m d).declarations).map (·.1) := by
  rcases resolveIn_cases table m isItem with ⟨d', isItem', equal⟩ | ⟨fault, equal⟩
  · have outcome : Site.outcome table ⟨m, d, false, false⟩ = .kept d' := by simp [Site.outcome, equal]
    have alone : modules m [d'] = [] := by
      cases d' with
      | module _ _ _ => exact absurd isItem' (by simp [isModule])
      | _ => rfl
    rw [equal, alone]
    simp [Site.entered?, outcome, isItem']
  · have outcome : Site.outcome table ⟨m, d, false, false⟩ = .rejected fault := by simp [Site.outcome, equal]
    rw [equal]
    exact List.filterMap_cons_none (entered?_of_rejected outcome)

mutual

theorem entered_resolveIn (table : List Symbol) (m : ModulePath) :
    ∀ d : DeclarationExpr, (sitesIn m false false d).filterMap (Site.entered? table) =
      (modules m (resolveIn table m d).declarations).map (·.1)
  | .struct _ | .union _ | .typeAlias _ | .const _ => entered_item table m rfl
  | .module name comment inner => by
    have below := entered_resolveAll table (m ++ [name]) [] [] (fun _ => Iff.rfl) inner
    rw [sitesIn]
    rcases resolveIn_module_cases table m name comment inner with
      ⟨identifier, equal⟩ | ⟨invalid, fault, equal⟩
    · have outcome : Site.outcome table ⟨m, .module name comment inner, false, false⟩ =
          .kept (.module name comment (resolveAll table (m ++ [name]) [] inner).declarations) := by
        simp [Site.outcome, equal]
      have entered : Site.entered? table ⟨m, .module name comment inner, false, false⟩ = some (m ++ [name]) := by
        rw [Site.entered?, outcome]
        rfl
      rw [equal, identifier, List.filterMap_cons_some entered, modules, modules, modulesIn, List.append_nil,
        List.map_cons, ← below]
      rfl
    · have outcome : Site.outcome table ⟨m, .module name comment inner, false, false⟩ = .rejected fault := by
        simp [Site.outcome, equal]
      rw [equal, invalid, List.filterMap_cons_none (entered?_of_rejected outcome)]
      exact entered_hidden (sitesFrom_hidden (m ++ [name]) [] inner)

theorem entered_resolveAll (table : List Symbol) (m : ModulePath) (seen seen' : List String)
    (same : ∀ name, name ∈ seen ↔ name ∈ seen') :
    ∀ ds : List DeclarationExpr, (sitesFrom m false seen' ds).filterMap (Site.entered? table) =
      (modules m (resolveAll table m seen ds).declarations).map (·.1)
  | [] => rfl
  | d :: ds => by
    rw [resolveAll, sitesFrom, List.filterMap_append]
    by_cases repeated : d.name ∈ seen
    · have rest : ∀ name, name ∈ seen ↔ name ∈ d.name :: seen' := by
        intro name
        rw [List.mem_cons, ← same]
        exact ⟨.inr, fun either => either.elim (fun equal => equal ▸ repeated) id⟩
      rw [if_pos repeated, decide_eq_true ((same _).1 repeated), entered_repeated,
        entered_resolveAll table m seen _ rest ds]
      rfl
    · have rest : ∀ name, name ∈ d.name :: seen ↔ name ∈ d.name :: seen' := by
        intro name
        rw [List.mem_cons, List.mem_cons, same]
      rw [if_neg repeated, decide_eq_false (mt (same _).2 repeated), entered_resolveIn table m d,
        entered_resolveAll table m _ _ rest ds, Resolved.append, modules_eq_flatMap, modules_eq_flatMap,
        modules_eq_flatMap, List.flatMap_append, List.map_append]

end

/-- The modules of a resolved document are the root and those that the walk enters, in its order. -/
theorem Document.modulePaths_eq (document : Document) :
    document.resolve.modulePaths = [] :: document.sites.filterMap (Site.entered? document.symbols) := by
  rw [Resolved.modulePaths, Declaration.modulePaths]
  exact congrArg ([] :: ·) (entered_resolveAll _ _ _ _ (fun _ => Iff.rfl) _).symm

/-! ## Distinct paths -/

theorem exists_path_of_mem_modulesIn {τ κ : Type} {m n : ModulePath} {d : Declaration τ κ}
    (member : n ∈ (modulesIn m d).map (·.1)) : ∃ rest, n = m ++ d.name :: rest := by
  have alone : n ∈ (modules m [d]).map (·.1) := by
    rwa [modules_eq_flatMap, List.flatMap_singleton]
  obtain ⟨rest, name, comment, inner, rfl, stands⟩ := standsIn_of_mem_modules alone
  obtain ⟨e, among, tail, equal⟩ := stands.exists_around
  obtain rfl := List.mem_singleton.1 among
  exact ⟨tail, congrArg (m ++ ·) equal⟩

/-- In a tree with distinct names the paths of the modules are distinct. -/
theorem Declaration.DistinctNames.modules_nodup {τ κ : Type} {ds : List (Declaration τ κ)} (distinct : DistinctNames ds)
    (m : ModulePath) : ((modules m ds).map (·.1)).Nodup := by
  induction distinct generalizing m with
  | @intro ds names _ ih =>
    rw [modules_eq_flatMap, List.map_flatMap, List.nodup_flatMap]
    constructor
    · intro d among
      cases d with
      | module name comment inner =>
        rw [modulesIn, List.map_cons, List.nodup_cons]
        refine ⟨fun inside => ?_, ih name comment inner among _⟩
        -- Whatever stands inside has a longer path.
        obtain ⟨rest, name', comment', inner', equal, -⟩ := standsIn_of_mem_modules inside
        exact absurd equal (by simp)
      | _ => exact List.nodup_nil
    · refine (List.pairwise_map.1 names).imp fun differ n first later => ?_
      obtain ⟨rest, path⟩ := exists_path_of_mem_modulesIn first
      obtain ⟨rest', path'⟩ := exists_path_of_mem_modulesIn later
      exact differ (List.cons.inj (List.append_cancel_left (path.symm.trans path'))).1

theorem Document.modulePaths_nodup (document : Document) : document.resolve.modulePaths.Nodup := by
  have distinct := resolveAll_distinctNames document [] document.declarations
  refine List.nodup_cons.2 ⟨fun inside => ?_, distinct.modules_nodup []⟩
  obtain ⟨rest, name, -, -, equal, -⟩ := standsIn_of_mem_modules inside
  exact absurd equal (by simp)

theorem Document.enteredPaths_nodup (document : Document) :
    (document.sites.filterMap (Site.entered? document.symbols)).Nodup := by
  have distinct := document.modulePaths_nodup
  rw [document.modulePaths_eq] at distinct
  exact (List.nodup_cons.1 distinct).2

end SchemaBindings
