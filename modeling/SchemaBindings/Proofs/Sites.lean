import SchemaBindings.Proofs.Acceptance

/-!
# Declarations at their places

A walk over a document from the top, module by module (`Document.sites`). It meets every declaration once, also one whose
name is repeated and one inside a module that resolution leaves out, and it notes both.

* The declarations other than modules are met in the order of `Declaration.items` (`sites_items`).
* Resolution decides on each site by itself (`Site.outcome`): its failures are those of the sites that it rejects, and its
  items are what it makes of the others, both in the order of the walk (`resolve_failures_eq`, `resolve_items_eq`).
-/

namespace SchemaBindings

open Declaration

/-! ## The walk -/

/-- A declaration of a document at its place. -/
structure Site where
  module : ModulePath
  declaration : DeclarationExpr
  /-- Whether a declaration in front of it in its module has the same name. -/
  repeated : Bool
  /-- Whether a module around it is repeated or has a name that is no identifier. -/
  hidden : Bool

def Site.path (s : Site) : SchemaPath :=
  (SchemaPath.mk s.module).child s.declaration.name

mutual

/-- The sites of a declaration in the module `m` and of everything inside it. -/
def sitesIn (m : ModulePath) (hidden repeated : Bool) : DeclarationExpr → List Site
  | .struct s => [⟨m, .struct s, repeated, hidden⟩]
  | .union u => [⟨m, .union u, repeated, hidden⟩]
  | .typeAlias a => [⟨m, .typeAlias a, repeated, hidden⟩]
  | .const c => [⟨m, .const c, repeated, hidden⟩]
  | .module name comment inner =>
    ⟨m, .module name comment inner, repeated, hidden⟩ ::
      sitesFrom (m ++ [name]) (hidden || repeated || !isIdentifier name) [] inner

/-- The sites of declarations in the module `m`; `seen` lists the names in front of them. -/
def sitesFrom (m : ModulePath) (hidden : Bool) (seen : List String) :
    List DeclarationExpr → List Site
  | [] => []
  | d :: ds => sitesIn m hidden (d.name ∈ seen) d ++ sitesFrom m hidden (d.name :: seen) ds

end

def Document.sites (document : Document) : List Site :=
  sitesFrom [] false [] document.declarations

/-- The declaration of a site with its module, if it is no module itself. -/
def Site.item? (s : Site) : Option (Item TypeExpr ConstantExpr) :=
  if s.declaration.isModule then none else some ⟨s.module, s.declaration⟩

mutual

theorem sitesIn_items (m : ModulePath) (hidden repeated : Bool) :
    ∀ d : DeclarationExpr, (sitesIn m hidden repeated d).filterMap Site.item? = itemsIn m d
  | .struct _ | .union _ | .typeAlias _ | .const _ => rfl
  | .module name comment inner => by
    rw [sitesIn, List.filterMap_cons_none rfl, sitesFrom_items, itemsIn]

theorem sitesFrom_items (m : ModulePath) (hidden : Bool) (seen : List String) :
    ∀ ds : List DeclarationExpr, (sitesFrom m hidden seen ds).filterMap Site.item? = items m ds
  | [] => rfl
  | d :: ds => by
    rw [sitesFrom, List.filterMap_append, sitesIn_items m hidden _ d, sitesFrom_items m hidden _ ds, items]

end

theorem Document.sites_items (document : Document) :
    document.sites.filterMap Site.item? = items [] document.declarations :=
  sitesFrom_items _ _ _ _

mutual

theorem sitesIn_hidden (m : ModulePath) (repeated : Bool) :
    ∀ d : DeclarationExpr, ∀ s ∈ sitesIn m true repeated d, s.hidden = true
  | .struct _ | .union _ | .typeAlias _ | .const _ => by simp [sitesIn]
  | .module name comment inner => by
    have below := sitesFrom_hidden (m ++ [name]) [] inner
    simpa [sitesIn] using below

/-- Everything inside a module that is left out is hidden. -/
theorem sitesFrom_hidden (m : ModulePath) (seen : List String) :
    ∀ ds : List DeclarationExpr, ∀ s ∈ sitesFrom m true seen ds, s.hidden = true
  | [] => by simp [sitesFrom]
  | d :: ds => by
    have first := sitesIn_hidden m (decide (d.name ∈ seen)) d
    have rest := sitesFrom_hidden m (d.name :: seen) ds
    rw [sitesFrom]
    exact List.forall_mem_append.2 ⟨first, rest⟩

end

/-! ## What resolution makes of a site -/

/-- What resolution makes of a declaration. -/
inductive Outcome where
  | unseen
  | rejected (fault : Fault)
  | kept (d : SchemaDeclaration)

/-- What resolution makes of the declaration of a site. -/
def Site.outcome (table : List Symbol) (s : Site) : Outcome :=
  if s.hidden then .unseen
  else if s.repeated then .rejected (.duplicateDeclaration s.declaration.name)
  else
    match resolveIn table s.module s.declaration with
    | ⟨d :: _, _⟩ => .kept d
    | ⟨[], failure :: _⟩ => .rejected failure.fault
    | ⟨[], []⟩ => .unseen

def Site.rejection? (table : List Symbol) (s : Site) : Option DeclarationFailure :=
  match s.outcome table with
  | .rejected fault => some ⟨s.path, fault⟩
  | _ => none

/-- The item that resolution makes of a declaration other than a module. -/
def Site.kept? (table : List Symbol) (s : Site) : Option SchemaItem :=
  match s.outcome table with
  | .kept d => if d.isModule then none else some ⟨s.module, d⟩
  | _ => none

theorem Site.kept?_eq_some_iff {table : List Symbol} {s : Site} {i : SchemaItem} :
    s.kept? table = some i ↔
      ∃ d, s.outcome table = .kept d ∧ d.isModule = false ∧ i = ⟨s.module, d⟩ := by
  unfold Site.kept?
  cases s.outcome table with
  | unseen => simp
  | rejected fault => simp
  | kept d => cases isItem : d.isModule <;> simp [isItem, @eq_comm _ i]

theorem ofExcept_cases {α : Type} {make : α → SchemaDeclaration} (path : SchemaPath)
    (isItem : ∀ a, (make a).isModule = false) (x : Except Fault α) :
    (∃ d, d.isModule = false ∧ Resolved.ofExcept path (make <$> x) = ⟨[d], []⟩) ∨
      ∃ fault, Resolved.ofExcept path (make <$> x) = ⟨[], [⟨path, fault⟩]⟩ := by
  cases x with
  | ok a => exact .inl ⟨make a, isItem a, rfl⟩
  | error fault => exact .inr ⟨fault, rfl⟩

/-- A declaration other than a module is kept, or there is one failure for it. -/
theorem resolveIn_cases (table : List Symbol) (m : ModulePath) {d : DeclarationExpr}
    (isItem : d.isModule = false) :
    (∃ d', d'.isModule = false ∧ resolveIn table m d = ⟨[d'], []⟩) ∨
      ∃ fault, resolveIn table m d = ⟨[], [⟨(SchemaPath.mk m).child d.name, fault⟩]⟩ := by
  cases d with
  | struct s => exact ofExcept_cases _ (fun _ => rfl) _
  | union u => exact ofExcept_cases _ (fun _ => rfl) _
  | typeAlias a => exact ofExcept_cases _ (fun _ => rfl) _
  | const c => exact ofExcept_cases _ (fun _ => rfl) _
  | module _ _ _ => exact absurd isItem (by simp [isModule])

/-- A module is kept with what is made of its declarations, or there is one failure for it. -/
theorem resolveIn_module_cases (table : List Symbol) (m : ModulePath) (name : String)
    (comment : Option String) (inner : List DeclarationExpr) :
    (isIdentifier name = true ∧ resolveIn table m (.module name comment inner) =
        ⟨[.module name comment (resolveAll table (m ++ [name]) [] inner).declarations],
          (resolveAll table (m ++ [name]) [] inner).failures⟩) ∨
      isIdentifier name = false ∧ ∃ fault,
        resolveIn table m (.module name comment inner) = ⟨[], [⟨(SchemaPath.mk m).child name, fault⟩]⟩ := by
  unfold resolveIn
  cases checked : checkIdentifier name with
  | error fault =>
    have invalid : ¬ isIdentifier name := by
      rw [← checkIdentifier_eq_ok_iff, checked]
      simp
    exact .inr ⟨by simpa using invalid, fault, rfl⟩
  | ok _ => exact .inl ⟨checkIdentifier_eq_ok_iff.1 checked, rfl⟩

/-- What has been made of declarations is what has been made of some sites, one after the other. -/
structure MadeOf (table : List Symbol) (m : ModulePath) (sites : List Site) (r : Resolved) : Prop where
  failures : r.failures = sites.filterMap (Site.rejection? table)
  items : items m r.declarations = sites.filterMap (Site.kept? table)

theorem MadeOf.append {table : List Symbol} {m : ModulePath} {r r' : Resolved}
    {sites sites' : List Site} (first : MadeOf table m sites r) (rest : MadeOf table m sites' r') :
    MadeOf table m (sites ++ sites') (r.append r') := by
  constructor
  · rw [Resolved.append, List.filterMap_append, first.failures, rest.failures]
  · rw [Resolved.append, List.filterMap_append, ← first.items, ← rest.items]
    simp only [items_eq_flatMap, List.flatMap_append]

/-- Nothing is made of what is hidden. -/
theorem madeOf_hidden (table : List Symbol) (m : ModulePath) {sites : List Site}
    (hidden : ∀ s ∈ sites, s.hidden = true) : MadeOf table m sites ⟨[], []⟩ := by
  have unseen : ∀ s ∈ sites, s.outcome table = .unseen := by
    intro s member
    rw [Site.outcome, if_pos (hidden s member)]
  constructor
  · rw [eq_comm, List.filterMap_eq_nil_iff]
    intro s member
    rw [Site.rejection?, unseen s member]
  · rw [items, eq_comm, List.filterMap_eq_nil_iff]
    intro s member
    rw [Site.kept?, unseen s member]

theorem madeOf_rejected {table : List Symbol} {m : ModulePath} {s : Site} {fault : Fault}
    (outcome : s.outcome table = .rejected fault) : MadeOf table m [s] ⟨[], [⟨s.path, fault⟩]⟩ := by
  constructor
  · simp [Site.rejection?, outcome]
  · simp [Site.kept?, outcome, items]

/-- A declaration that is left out takes everything inside it along. -/
theorem madeOf_left_out {table : List Symbol} {m : ModulePath} {s : Site} {fault : Fault}
    (outcome : s.outcome table = .rejected fault) {inside : List Site}
    (hidden : ∀ t ∈ inside, t.hidden = true) :
    MadeOf table m (s :: inside) ⟨[], [⟨s.path, fault⟩]⟩ :=
  (madeOf_rejected outcome).append (madeOf_hidden table m hidden)

theorem madeOf_repeated (table : List Symbol) (m : ModulePath) (d : DeclarationExpr) :
    MadeOf table m (sitesIn m false true d)
      ⟨[], [⟨(SchemaPath.mk m).child d.name, .duplicateDeclaration d.name⟩]⟩ := by
  cases d with
  | module name comment inner =>
    exact madeOf_left_out (s := ⟨m, .module name comment inner, true, false⟩) rfl
      (sitesFrom_hidden (m ++ [name]) [] inner)
  | _ => exact madeOf_rejected (s := ⟨m, _, true, false⟩) rfl

theorem madeOf_item (table : List Symbol) (m : ModulePath) {d : DeclarationExpr}
    (isItem : d.isModule = false) : MadeOf table m [⟨m, d, false, false⟩] (resolveIn table m d) := by
  rcases resolveIn_cases table m isItem with ⟨d', isItem', equal⟩ | ⟨fault, equal⟩
  · have outcome : Site.outcome table ⟨m, d, false, false⟩ = .kept d' := by
      simp [Site.outcome, equal]
    rw [equal]
    constructor
    · simp [Site.rejection?, outcome]
    · have alone : items m [d'] = [⟨m, d'⟩] := by
        cases d' with
        | module _ _ _ => exact absurd isItem' (by simp [isModule])
        | _ => rfl
      simp [Site.kept?, outcome, alone, isItem']
  · rw [equal]
    refine madeOf_rejected (s := ⟨m, d, false, false⟩) ?_
    simp [Site.outcome, equal]

mutual

theorem madeOf_resolveIn (table : List Symbol) (m : ModulePath) :
    ∀ d : DeclarationExpr, MadeOf table m (sitesIn m false false d) (resolveIn table m d)
  | .struct _ | .union _ | .typeAlias _ | .const _ => madeOf_item table m rfl
  | .module name comment inner => by
    have below := madeOf_resolveAll table (m ++ [name]) [] [] (fun _ => Iff.rfl) inner
    rw [sitesIn]
    rcases resolveIn_module_cases table m name comment inner with
      ⟨identifier, equal⟩ | ⟨invalid, fault, equal⟩
    · have outcome : Site.outcome table ⟨m, .module name comment inner, false, false⟩ =
          .kept (.module name comment (resolveAll table (m ++ [name]) [] inner).declarations) := by
        simp [Site.outcome, equal]
      rw [equal, identifier]
      constructor
      · rw [List.filterMap_cons_none (by simp [Site.rejection?, outcome])]
        exact below.failures
      · rw [List.filterMap_cons_none (by simp [Site.kept?, outcome, isModule])]
        rw [items, items, itemsIn, List.append_nil]
        exact below.items
    · have outcome : Site.outcome table ⟨m, .module name comment inner, false, false⟩ =
          .rejected fault := by
        simp [Site.outcome, equal]
      rw [equal, invalid]
      exact madeOf_left_out outcome (sitesFrom_hidden (m ++ [name]) [] inner)

theorem madeOf_resolveAll (table : List Symbol) (m : ModulePath) (seen seen' : List String)
    (same : ∀ name, name ∈ seen ↔ name ∈ seen') :
    ∀ ds : List DeclarationExpr, MadeOf table m (sitesFrom m false seen' ds) (resolveAll table m seen ds)
  | [] => ⟨rfl, rfl⟩
  | d :: ds => by
    rw [resolveAll, sitesFrom]
    by_cases repeated : d.name ∈ seen
    · have rest : ∀ name, name ∈ seen ↔ name ∈ d.name :: seen' := by
        intro name
        rw [List.mem_cons, ← same]
        exact ⟨.inr, fun either => either.elim (fun equal => equal ▸ repeated) id⟩
      rw [if_pos repeated, decide_eq_true ((same _).1 repeated)]
      exact (madeOf_repeated table m d).append (madeOf_resolveAll table m seen _ rest ds)
    · have rest : ∀ name, name ∈ d.name :: seen ↔ name ∈ d.name :: seen' := by
        intro name
        rw [List.mem_cons, List.mem_cons, same]
      rw [if_neg repeated, decide_eq_false (mt (same _).2 repeated)]
      exact (madeOf_resolveIn table m d).append (madeOf_resolveAll table m _ _ rest ds)

end

/-- Resolution reports what it rejects, in the order of the walk. -/
theorem Document.resolve_failures_eq (document : Document) :
    document.resolve.failures = document.sites.filterMap (Site.rejection? document.symbols) :=
  (madeOf_resolveAll _ _ _ _ (fun _ => Iff.rfl) _).failures

/-- The items of a resolved document are those that the walk has kept, in its order. -/
theorem Document.resolve_items_eq (document : Document) :
    document.resolve.items = document.sites.filterMap (Site.kept? document.symbols) :=
  (madeOf_resolveAll _ _ _ _ (fun _ => Iff.rfl) _).items

/-- When resolution makes what of a site. -/
inductive Site.Decided (document : Document) (s : Site) : Outcome → Prop
  | unseen : s.hidden = true → s.Decided document .unseen
  | repeated : s.hidden = false → s.repeated = true →
      s.Decided document (.rejected (.duplicateDeclaration s.declaration.name))
  | illFormed {fault : Fault} : s.hidden = false → s.repeated = false →
      ¬ document.WellFormed s.module s.declaration → s.Decided document (.rejected fault)
  | kept {d : SchemaDeclaration} : s.hidden = false → s.repeated = false →
      document.WellFormed s.module s.declaration → document.ResolvesTo s.module s.declaration d →
      s.Decided document (.kept d)

theorem resolveIn_ne_nothing (table : List Symbol) (m : ModulePath) (d : DeclarationExpr) :
    resolveIn table m d ≠ ⟨[], []⟩ := by
  intro nothing
  cases isItem : d.isModule with
  | false =>
    rcases resolveIn_cases table m isItem with ⟨d', -, equal⟩ | ⟨fault, equal⟩
    · exact absurd (equal.symm.trans nothing) (by simp)
    · exact absurd (equal.symm.trans nothing) (by simp)
  | true =>
    cases d with
    | module name comment inner =>
      rcases resolveIn_module_cases table m name comment inner with ⟨-, equal⟩ | ⟨-, fault, equal⟩
      · exact absurd (equal.symm.trans nothing) (by simp)
      · exact absurd (equal.symm.trans nothing) (by simp)
    | _ => exact absurd isItem (by simp [isModule])

theorem Site.decided (document : Document) (s : Site) :
    s.Decided document (s.outcome document.symbols) := by
  unfold Site.outcome
  cases visible : s.hidden with
  | true => exact .unseen visible
  | false =>
    cases first : s.repeated with
    | true => exact .repeated visible first
    | false =>
      have members : ∀ d, d ∈ (resolveIn document.symbols s.module s.declaration).declarations ↔ _ :=
        fun d => mem_resolveIn_iff document
      cases made : resolveIn document.symbols s.module s.declaration with
      | mk declarations failures =>
        rw [made] at members
        cases declarations with
        | cons d _ =>
          obtain ⟨formed, resolves⟩ := (members d).1 List.mem_cons_self
          exact .kept visible first formed resolves
        | nil =>
          cases failures with
          | nil => exact absurd made (resolveIn_ne_nothing _ _ _)
          | cons failure _ =>
            refine .illFormed visible first fun formed => ?_
            obtain ⟨d, resolves⟩ := formed.exists_resolvesTo
            exact List.not_mem_nil ((members d).2 ⟨formed, resolves⟩)

/-- What is kept of a site is an item of the resolved document, or a module. -/
theorem Document.mem_items_of_kept {document : Document} {s : Site} (member : s ∈ document.sites)
    {d : SchemaDeclaration} (kept : s.outcome document.symbols = .kept d)
    (isItem : d.isModule = false) : ⟨s.module, d⟩ ∈ document.resolve.items := by
  rw [document.resolve_items_eq, List.mem_filterMap]
  exact ⟨s, member, Site.kept?_eq_some_iff.2 ⟨d, kept, isItem, rfl⟩⟩

end SchemaBindings
