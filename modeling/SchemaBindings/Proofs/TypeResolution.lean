import SchemaBindings.Proofs.DeclaredTypes
import SchemaBindings.Proofs.Outcomes
import SchemaBindings.Resolution.Resolved

/-!
# Resolution of types

A type resolves exactly if each type on its walk is admitted (`Document.Admits`), and then to itself with every name
replaced by what it refers to (`SchemaType.rename`). The parts are checked one by one, so neither the order
of the checks nor the depth of a part matters.
-/

namespace SchemaBindings

/-! ## Replacing names -/

namespace SchemaType

variable {ν μ : Type}

mutual

/-- The type with every name of a declared type replaced. -/
def rename (f : ν → μ) : SchemaType ν → SchemaType μ
  | scalar s => scalar s
  | tuple elements => tuple (renameAll f elements)
  | list item => list (item.rename f)
  | array item length => array (item.rename f) length
  | option item => option (item.rename f)
  | map key value => map (key.rename f) (value.rename f)
  | hashSet item => hashSet (item.rename f)
  | named name arguments => named (f name) (renameAll f arguments)
  | param name => param name

/-- The types with every name of a declared type replaced. -/
def renameAll (f : ν → μ) : List (SchemaType ν) → List (SchemaType μ)
  | [] => []
  | t :: ts => t.rename f :: renameAll f ts

end

theorem renameAll_eq_map (f : ν → μ) (ts : List (SchemaType ν)) :
    renameAll f ts = ts.map (rename f) := by
  induction ts with
  | nil => rfl
  | cons t ts ih => rw [renameAll, ih, List.map_cons]

mutual

theorem walk_rename (f : ν → μ) : ∀ t : SchemaType ν, (t.rename f).walk = t.walk.map (rename f)
  | scalar _ | param _ => by simp [rename, walk]
  | tuple elements | named _ elements => by simp [rename, walk, walkAll_renameAll f elements]
  | list item | array item _ | option item | hashSet item => by
    simp [rename, walk, walk_rename f item]
  | map key value => by simp [rename, walk, walk_rename f key, walk_rename f value]

theorem walkAll_renameAll (f : ν → μ) :
    ∀ ts : List (SchemaType ν), walkAll (renameAll f ts) = (walkAll ts).map (rename f)
  | [] => rfl
  | t :: ts => by simp [renameAll, walkAll, walk_rename f t, walkAll_renameAll f ts]

end

theorem parameters_rename (f : ν → μ) (t : SchemaType ν) :
    (t.rename f).parameters = t.parameters := by
  unfold parameters
  rw [walk_rename, List.filterMap_map]
  congr 1
  funext u
  cases u <;> simp [rename, param?]

theorem references_rename (f : ν → μ) (t : SchemaType ν) :
    (t.rename f).references = t.references.map f := by
  unfold references
  rw [walk_rename, List.filterMap_map, List.map_filterMap]
  congr 1
  funext u
  cases u <;> simp [rename, named?]

theorem mem_parameters {t : SchemaType ν} {name : String} :
    name ∈ t.parameters ↔ param name ∈ t.walk := by
  unfold parameters
  rw [List.mem_filterMap]
  constructor
  · rintro ⟨u, inside, found⟩
    cases u <;> simp_all [param?]
  · intro inside
    exact ⟨_, inside, rfl⟩

theorem mem_references {t : SchemaType ν} {name : ν} :
    name ∈ t.references ↔ ∃ arguments, named name arguments ∈ t.walk := by
  unfold references
  rw [List.mem_filterMap]
  constructor
  · rintro ⟨u, inside, found⟩
    cases u <;> simp_all [named?]
    exact ⟨_, inside⟩
  · rintro ⟨arguments, inside⟩
    exact ⟨_, inside, rfl⟩

end SchemaType

open SchemaType

/-! ## Admitted types -/

/-- What is required of a type apart from its parts: a tuple has at least two elements, a name refers to a declared
type that takes as many arguments, and a parameter is one of the generics. -/
def Document.Admits (document : Document) (m : ModulePath) (generics : List String) :
    TypeExpr → Prop
  | .tuple elements => 2 ≤ elements.length
  | .named name arguments =>
    document.genericCountAt? (document.referent m name) = some arguments.length
  | .param name => name ∈ generics
  | _ => True

theorem tuple?_eq_ok_iff {ν : Type} {elements : List (SchemaType ν)} {t : SchemaType ν} :
    tuple? elements = .ok t ↔ 2 ≤ elements.length ∧ t = .tuple elements := by
  unfold tuple?
  split
  · next short => simp [Nat.not_le.2 short]
  · next long => simp [Nat.not_lt.1 long, eq_comm]

mutual

/-- A type resolves exactly if every part of it is admitted, and then to itself with its names replaced. -/
theorem resolveType_eq_ok_iff (document : Document) (m : ModulePath) (generics : List String) :
    ∀ (t : TypeExpr) (t' : TypeRef),
      (Scope.mk document.symbols m generics).resolveType t = .ok t' ↔
        (∀ u ∈ t.walk, document.Admits m generics u) ∧ t' = t.rename (document.referent m)
  | .scalar s, t' => by
    simp [Scope.resolveType, walk, rename, Document.Admits, eq_comm]
  | .tuple elements, t' => by
    have parts := resolveTypes_eq_ok_iff document m generics elements
    simp only [Scope.resolveType, bind_eq_ok, parts, tuple?_eq_ok_iff, walk, rename,
      List.forall_mem_cons, Document.Admits]
    constructor
    · rintro ⟨_, ⟨admitted, rfl⟩, long, rfl⟩
      rw [renameAll_eq_map, List.length_map] at long
      exact ⟨⟨long, admitted⟩, rfl⟩
    · rintro ⟨⟨long, admitted⟩, rfl⟩
      refine ⟨_, ⟨admitted, rfl⟩, ?_, rfl⟩
      rwa [renameAll_eq_map, List.length_map]
  | .list item, t' | .array item _, t' | .option item, t' | .hashSet item, t' => by
    simp only [Scope.resolveType, bind_eq_ok, pure_eq_ok, walk, rename, List.forall_mem_cons,
      resolveType_eq_ok_iff document m generics item]
    constructor
    · rintro ⟨_, ⟨admitted, rfl⟩, rfl⟩
      exact ⟨⟨trivial, admitted⟩, rfl⟩
    · rintro ⟨⟨-, admitted⟩, rfl⟩
      exact ⟨_, ⟨admitted, rfl⟩, rfl⟩
  | .map key value, t' => by
    simp only [Scope.resolveType, bind_eq_ok, pure_eq_ok, walk, rename, List.forall_mem_cons,
      List.forall_mem_append, resolveType_eq_ok_iff document m generics key,
      resolveType_eq_ok_iff document m generics value]
    constructor
    · rintro ⟨_, ⟨keyAdmitted, rfl⟩, _, ⟨valueAdmitted, rfl⟩, rfl⟩
      exact ⟨⟨trivial, keyAdmitted, valueAdmitted⟩, rfl⟩
    · rintro ⟨⟨-, keyAdmitted, valueAdmitted⟩, rfl⟩
      exact ⟨_, ⟨keyAdmitted, rfl⟩, _, ⟨valueAdmitted, rfl⟩, rfl⟩
  | .named name arguments, t' => by
    have parts := resolveTypes_eq_ok_iff document m generics arguments
    have own : document.Admits m generics (.named name arguments) ↔
        document.genericCountAt? (document.referent m name) = some arguments.length := Iff.rfl
    simp only [Scope.resolveType, walk, rename, List.forall_mem_cons, own, Document.lookup?_eq]
    cases count : document.genericCountAt? (document.referent m name) with
    | none => simp
    | some k =>
      simp only [Option.map_some, Option.some.injEq]
      split
      · next differ => simp [differ]
      · next same =>
        simp only [Decidable.not_not.1 same, true_and, bind_eq_ok, pure_eq_ok, parts]
        constructor
        · rintro ⟨_, ⟨admitted, rfl⟩, rfl⟩
          exact ⟨admitted, rfl⟩
        · rintro ⟨admitted, rfl⟩
          exact ⟨_, ⟨admitted, rfl⟩, rfl⟩
  | .param name, t' => by
    simp only [Scope.resolveType, walk, rename, Document.Admits, List.forall_mem_singleton]
    split
    · next generic => simp [generic, eq_comm]
    · next unknown => simp [unknown]

/-- Several types resolve exactly if every part of each is admitted. -/
theorem resolveTypes_eq_ok_iff (document : Document) (m : ModulePath) (generics : List String) :
    ∀ (ts : List TypeExpr) (ts' : List TypeRef),
      (Scope.mk document.symbols m generics).resolveTypes ts = .ok ts' ↔
        (∀ u ∈ walkAll ts, document.Admits m generics u) ∧
          ts' = renameAll (document.referent m) ts
  | [], ts' => by simp [Scope.resolveTypes, walkAll, renameAll, eq_comm]
  | t :: ts, ts' => by
    simp only [Scope.resolveTypes, bind_eq_ok, pure_eq_ok, walkAll, renameAll,
      List.forall_mem_append, resolveType_eq_ok_iff document m generics t,
      resolveTypes_eq_ok_iff document m generics ts]
    constructor
    · rintro ⟨_, ⟨first, rfl⟩, _, ⟨rest, rfl⟩, rfl⟩
      exact ⟨⟨first, rest⟩, rfl⟩
    · rintro ⟨⟨first, rest⟩, rfl⟩
      exact ⟨_, ⟨first, rfl⟩, _, ⟨rest, rfl⟩, rfl⟩

end

end SchemaBindings
