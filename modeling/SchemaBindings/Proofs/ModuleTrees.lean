import SchemaBindings.Proofs.Indentation
import SchemaBindings.Proofs.Spellings

/-!
# The tree of the modules of a run

Outputs come in any order, and each of them is entered at its path into a tree of modules. What the tree holds does not
depend on that order: a module has the outputs with its path, in the order in which they came, and the modules on the
way to an output, by name (`ModuleTree.represents_ofOutputs`).

* An output changes the module at its path and those on the way to it (`represents_insert`).
* A module elsewhere stays as it is (`represents_elsewhere`).
-/

namespace SchemaBindings

/-! ## Ordered sets -/

section

variable {α : Type}

/-- A strictly ascending list is determined by its members. -/
theorem eq_of_ascending (precedes : α → α → Bool) {as bs : List α} (irrefl : ∀ a, precedes a a = false)
    (asymm : ∀ a b, precedes a b = true → precedes b a = true → a = b)
    (ascending : as.Pairwise (precedes · · = true)) (ascending' : bs.Pairwise (precedes · · = true))
    (same : ∀ a, a ∈ as ↔ a ∈ bs) : as = bs := by
  have distinct : ∀ {cs : List α}, cs.Pairwise (precedes · · = true) → cs.Nodup := by
    intro cs sorted
    refine sorted.imp fun {a b} before => ?_
    rintro rfl
    exact absurd before (by simp [irrefl])
  have rearranged : as.Perm bs := (List.perm_ext_iff_of_nodup (distinct ascending) (distinct ascending')).2 same
  exact rearranged.eq_of_pairwise (fun a b _ _ => asymm a b) ascending ascending'

end

namespace Rust

/-! ## Modules on the way to an output -/

/-- The names of the modules directly inside the module at `path` that lead to an output, in ascending order. -/
def innerNames (outputs : List Output) (path : ModulePath) : List String :=
  orderedStrings (outputs.filterMap fun o => if path <+: o.module then o.module[path.length]? else none)

theorem prefix_snoc_iff {path m : ModulePath} {name : String} :
    path ++ [name] <+: m ↔ path <+: m ∧ m[path.length]? = some name := by
  constructor
  · rintro ⟨rest, rfl⟩
    refine ⟨⟨name :: rest, by simp⟩, ?_⟩
    simp
  · rintro ⟨⟨rest, rfl⟩, first⟩
    rw [List.getElem?_append_right (Nat.le_refl _), Nat.sub_self] at first
    cases rest with
    | nil => exact absurd first (by simp)
    | cons c rest =>
      obtain rfl := Option.some.inj first
      exact ⟨rest, by simp⟩

theorem mem_innerNames {outputs : List Output} {path : ModulePath} {name : String} :
    name ∈ innerNames outputs path ↔ ∃ o ∈ outputs, path ++ [name] <+: o.module := by
  rw [innerNames, orderedStrings, mem_ordered, List.mem_filterMap]
  refine exists_congr fun o => and_congr_right fun _ => ?_
  rw [prefix_snoc_iff]
  split
  · next inside => simp [inside]
  · next outside => simp [outside]

namespace ModuleTree

variable {outputs : List Output} {path : ModulePath}

mutual

/-- The tree holds the outputs at the path in their order, and the modules on the way to the others by name. -/
def Represents (outputs : List Output) (path : ModulePath) : ModuleTree → Prop
  | node own children =>
    own = outputs.filter (·.module = path) ∧ children.map (·.1) = innerNames outputs path ∧
      RepresentsAll outputs path children

def RepresentsAll (outputs : List Output) (path : ModulePath) : List (String × ModuleTree) → Prop
  | [] => True
  | (name, child) :: rest => child.Represents outputs (path ++ [name]) ∧ RepresentsAll outputs path rest

end

theorem representsAll_iff {children : List (String × ModuleTree)} :
    RepresentsAll outputs path children ↔ ∀ entry ∈ children, entry.2.Represents outputs (path ++ [entry.1]) := by
  induction children with
  | nil => simp [RepresentsAll]
  | cons entry rest ih => rw [RepresentsAll, ih, List.forall_mem_cons]

/-- A module that leads to no output is empty. -/
theorem represents_empty (none : ∀ o ∈ outputs, ¬ path <+: o.module) : empty.Represents outputs path := by
  refine ⟨(List.filter_eq_nil_iff.2 fun o member => ?_).symm, (List.eq_nil_iff_forall_not_mem.2 fun name => ?_).symm,
    trivial⟩
  · rw [decide_eq_true_iff]
    rintro rfl
    exact none o member (List.prefix_refl _)
  · intro member
    obtain ⟨o, among, inside⟩ := mem_innerNames.1 member
    exact none o among ((List.prefix_append _ _).trans inside)

/-! ## An output is entered -/

theorem innerNames_append (outputs : List Output) (o : Output) (path : ModulePath) {names : List String}
    (ascending : names.Pairwise (· < ·))
    (members : ∀ name, name ∈ names ↔ name ∈ innerNames outputs path ∨ path ++ [name] <+: o.module) :
    names = innerNames (outputs ++ [o]) path := by
  refine eq_of_ascending (fun a b => decide (a < b)) (fun a => by simp) (fun a b before after => ?_)
    (ascending.imp fun before => by simpa using before)
    ((orderedStrings_ascending _).imp fun before => by simpa using before) fun name => ?_
  · rw [decide_eq_true_eq] at before after
    exact absurd (String.lt_trans before after) (String.lt_irrefl a)
  · rw [members, mem_innerNames, mem_innerNames]
    simp [or_and_right, exists_or]

mutual

/-- A module that is not on the way to the output stays as it is. -/
theorem represents_elsewhere {o : Output} : ∀ {tree : ModuleTree} {path : ModulePath}, ¬ path <+: o.module →
    tree.Represents outputs path → tree.Represents (outputs ++ [o]) path
  | node own children, path, elsewhere, ⟨here, names, below⟩ => by
    refine ⟨?_, ?_, representsAll_elsewhere elsewhere below⟩
    · have other : o.module ≠ path := fun same => elsewhere (same ▸ List.prefix_refl _)
      rw [here, List.filter_append, List.filter_singleton, decide_eq_false other]
      simp
    · rw [names]
      refine innerNames_append outputs o path (orderedStrings_ascending _) fun name => ?_
      exact (or_iff_left fun inside => elsewhere ((List.prefix_append _ _).trans inside)).symm

theorem representsAll_elsewhere {o : Output} : ∀ {children : List (String × ModuleTree)} {path : ModulePath},
    ¬ path <+: o.module → RepresentsAll outputs path children → RepresentsAll (outputs ++ [o]) path children
  | [], _, _, _ => trivial
  | (_, _) :: _, _, elsewhere, ⟨first, others⟩ =>
    ⟨represents_elsewhere (fun inside => elsewhere ((List.prefix_append _ _).trans inside)) first,
      representsAll_elsewhere elsewhere others⟩

end

/-- The entries behind an update: those of other names, and the entry of the name, which is empty before if it is
new. -/
theorem entry_of_mem_updateChild {name : String} {update : ModuleTree → ModuleTree}
    {children : List (String × ModuleTree)} (ascending : (children.map (·.1)).Pairwise (· < ·))
    {entry : String × ModuleTree} (member : entry ∈ updateChild name update children) :
    (entry ∈ children ∧ entry.1 ≠ name) ∨ (∃ child, (name, child) ∈ children ∧ entry = (name, update child)) ∨
      (name ∉ children.map (·.1) ∧ entry = (name, update empty)) := by
  induction children with
  | nil => exact .inr (.inr ⟨List.not_mem_nil, List.mem_singleton.1 member⟩)
  | cons first rest ih =>
    obtain ⟨other, child⟩ := first
    obtain ⟨least, ascending⟩ := List.pairwise_cons.1 ascending
    have later : ∀ entry ∈ rest, other < entry.1 := fun entry among => least entry.1 (List.mem_map_of_mem among)
    rw [updateChild] at member
    split at member
    · next same =>
      subst same
      rcases List.mem_cons.1 member with rfl | among
      · exact .inr (.inl ⟨child, List.mem_cons_self, rfl⟩)
      · exact .inl ⟨List.mem_cons_of_mem _ among, (String.ne_of_lt (later entry among)).symm⟩
    · next differ =>
      split at member
      · next before =>
        have after : ∀ entry ∈ (other, child) :: rest, name < entry.1 :=
          List.forall_mem_cons.2 ⟨before, fun entry among => String.lt_trans before (later entry among)⟩
        rcases List.mem_cons.1 member with rfl | among
        · refine .inr (.inr ⟨fun known => ?_, rfl⟩)
          obtain ⟨entry, among, same⟩ := List.mem_map.1 known
          exact String.lt_irrefl name (same ▸ after entry among)
        · exact .inl ⟨among, (String.ne_of_lt (after entry among)).symm⟩
      · rcases List.mem_cons.1 member with rfl | among
        · exact .inl ⟨List.mem_cons_self, Ne.symm differ⟩
        · rcases ih ascending among with ⟨inside, other'⟩ | ⟨child', inside, rfl⟩ | ⟨fresh, rfl⟩
          · exact .inl ⟨List.mem_cons_of_mem _ inside, other'⟩
          · exact .inr (.inl ⟨child', List.mem_cons_of_mem _ inside, rfl⟩)
          · exact .inr (.inr ⟨fun known => (List.mem_cons.1 known).elim differ fresh, rfl⟩)

/-- An output that is entered at its path comes last in its module. -/
theorem represents_insert {o : Output} {rest : ModulePath} {tree : ModuleTree} (way : o.module = path ++ rest)
    (represents : tree.Represents outputs path) : (tree.insert o rest).Represents (outputs ++ [o]) path := by
  induction rest generalizing path tree with
  | nil =>
    obtain ⟨own, children⟩ := tree
    obtain ⟨here, names, below⟩ := represents
    rw [List.append_nil] at way
    have deeper : ∀ name, ¬ path ++ [name] <+: o.module := by
      intro name inside
      exact absurd inside.length_le (by simp [way])
    refine ⟨?_, ?_, ?_⟩
    · rw [here, List.filter_append, List.filter_singleton, decide_eq_true way]
      rfl
    · rw [names]
      refine innerNames_append outputs o path (orderedStrings_ascending _) fun name => ?_
      exact (or_iff_left (deeper name)).symm
    · rw [representsAll_iff] at below ⊢
      exact fun entry member => represents_elsewhere (deeper entry.1) (below entry member)
  | cons name rest ih =>
    obtain ⟨own, children⟩ := tree
    obtain ⟨here, names, below⟩ := represents
    have inside : ∀ other, path ++ [other] <+: o.module ↔ name = other := by
      intro other
      rw [prefix_snoc_iff, way]
      simp
    have ascending : (children.map (·.1)).Pairwise (· < ·) := names ▸ orderedStrings_ascending _
    refine ⟨?_, ?_, ?_⟩
    · have other : o.module ≠ path := fun same => by simpa [way] using congrArg List.length same
      rw [here, List.filter_append, List.filter_singleton, decide_eq_false other]
      simp
    · have updated : ((node own children).insert o (name :: rest)).Ascending :=
        ascending_insert o (name :: rest) (ascending.imp fun before => by simpa using before)
      refine innerNames_append outputs o path (updated.imp fun before => by simpa using before) fun other => ?_
      have named : other ∈ ((node own children).insert o (name :: rest)).names ↔ _ := mem_names_insert o _ _
      rw [List.head?_cons, Option.some_inj, or_comm] at named
      rw [inside, ← names]
      exact named
    · rw [representsAll_iff] at below ⊢
      intro entry member
      have way' : o.module = path ++ [name] ++ rest := by rw [way, List.append_assoc]; rfl
      rcases entry_of_mem_updateChild ascending member with ⟨old, differ⟩ | ⟨child, old, rfl⟩ | ⟨fresh, rfl⟩
      · exact represents_elsewhere (fun inside' => differ ((inside _).1 inside').symm) (below entry old)
      · exact ih way' (below _ old)
      · rw [names, mem_innerNames] at fresh
        exact ih way' (represents_empty fun o' member' inside' => fresh ⟨o', member', inside'⟩)

/-- The tree of the outputs of a run. -/
theorem represents_ofOutputs (outputs : List Output) : (ofOutputs outputs).Represents outputs [] := by
  have added : ∀ (later before : List Output) (tree : ModuleTree), tree.Represents before [] →
      (later.foldl (fun tree output => tree.insert output output.module) tree).Represents (before ++ later) [] := by
    intro later
    induction later with
    | nil =>
      intro before tree represents
      rwa [List.append_nil]
    | cons o later ih =>
      intro before tree represents
      rw [List.append_cons]
      exact ih _ _ (represents_insert (List.nil_append _).symm represents)
  exact added outputs [] empty (represents_empty fun o member => absurd member List.not_mem_nil)

end ModuleTree

end Rust

end SchemaBindings
