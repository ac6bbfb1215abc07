import Mathlib.Data.List.Induction
import SchemaBindings.Proofs.DeclaredNames
import SchemaBindings.Proofs.Plan

/-!
# Emitted paths of modules

The modules inside one module claim their names in one namespace. So of two modules with the same emitted path one has
lost its name, or a module around it has, and nothing in it is emitted (`emittedPath_injective`).
-/

namespace SchemaBindings

open Declaration

/-! ## Siblings -/

/-- Of two modules with the same emitted name one does not get it. -/
theorem claimModules_of_same {conventions : Conventions} {ns : Namespace} {ms : List ModulePath}
    {m n : ModulePath} (member : m ∈ ms) (member' : n ∈ ms) (differ : m ≠ n)
    (same : emittedModule conventions m = emittedModule conventions n) :
    ∃ k, (k = m ∨ k = n) ∧ ∃ fault, (⟨k⟩, fault) ∈ claimModules conventions ns ms := by
  induction ms generalizing ns with
  | nil => exact absurd member List.not_mem_nil
  | cons first ms ih =>
    obtain ⟨ns', names, step⟩ := exists_claimModules_cons conventions ns first ms
    -- Whichever of the two comes first, its name is taken when it is the turn of the other.
    rcases List.mem_cons.1 member with rfl | later
    · have later' := (List.mem_cons.1 member').resolve_left differ.symm
      exact ⟨n, .inr rfl, (step n).2 (.inr (mem_claimModules later' ((names _).2 (.inl same.symm))))⟩
    · rcases List.mem_cons.1 member' with rfl | later'
      · exact ⟨m, .inl rfl, (step m).2 (.inr (mem_claimModules later ((names _).2 (.inl same))))⟩
      · obtain ⟨k, either, failed⟩ := ih later later'
        exact ⟨k, either, (step k).2 (.inr failed)⟩

/-! ## Paths -/

section

variable {conventions : Conventions} {policy : NamingPolicy} {separator : String}
  {reserved : List (String × String)} {document : Document}

theorem mem_modulePaths_of_concat {m : ModulePath} {name : String}
    (kept : m ++ [name] ∈ document.resolve.modulePaths) : m ∈ document.resolve.modulePaths := by
  obtain ⟨⟨inner, found⟩, identifiers⟩ := document.mem_resolve_modulePaths_iff.1 kept
  obtain ⟨around, below, -⟩ := declarationsAt?_concat_eq_some.1 found
  refine document.mem_resolve_modulePaths_iff.2 ⟨⟨around, below⟩, fun name member => ?_⟩
  exact identifiers name (List.mem_append_left _ member)

theorem failedAncestor?_eq_none_iff {table : NameTable} {m : ModulePath} :
    table.failedAncestor? m = none ↔
      ∀ k < m.length, ∀ fault, (⟨m.take (k + 1)⟩, fault) ∉ table.failedModules := by
  simp [NameTable.failedAncestor?]

theorem failedAncestor?_concat {table : NameTable} {m : ModulePath} {name : String}
    (clear : table.failedAncestor? (m ++ [name]) = none) :
    table.failedAncestor? m = none ∧ ∀ fault, (⟨m ++ [name]⟩, fault) ∉ table.failedModules := by
  rw [failedAncestor?_eq_none_iff] at clear ⊢
  constructor
  · intro k short fault failed
    refine clear k (by rw [List.length_append]; omega) fault ?_
    rwa [List.take_append_of_le_length short]
  · intro fault failed
    refine clear m.length (by simp) fault ?_
    rwa [List.take_of_length_le (by simp)]

/-- Two modules that have names, like those around them, have different emitted paths. -/
theorem emittedPath_injective {m n : ModulePath} (kept : m ∈ document.resolve.modulePaths)
    (kept' : n ∈ document.resolve.modulePaths)
    (clear : (NameTable.build conventions policy separator reserved document.resolve).failedAncestor? m =
      none)
    (clear' : (NameTable.build conventions policy separator reserved
      document.resolve).failedAncestor? n = none)
    (same : m.map conventions.moduleName = n.map conventions.moduleName) : m = n := by
  induction m using List.reverseRecOn generalizing n with
  | nil => exact (List.map_eq_nil_iff.1 same.symm).symm
  | append_singleton m name ih =>
    rcases List.eq_nil_or_concat' n with rfl | ⟨n, name', rfl⟩
    · exact absurd same (by simp)
    rw [List.map_append, List.map_append] at same
    obtain ⟨around, last⟩ := List.append_inj' same rfl
    obtain ⟨clear, named⟩ := failedAncestor?_concat clear
    obtain ⟨clear', named'⟩ := failedAncestor?_concat clear'
    have parent := mem_modulePaths_of_concat kept
    obtain rfl : m = n := ih parent (mem_modulePaths_of_concat kept') clear clear' around
    by_contra differ
    -- Both modules claim their names in the namespace of the module around them.
    have child : m ++ [name] ∈ childModules m document.resolve.modulePaths :=
      List.mem_filter.2 ⟨kept, by simp⟩
    have child' : m ++ [name'] ∈ childModules m document.resolve.modulePaths :=
      List.mem_filter.2 ⟨kept', by simp⟩
    have sameName : emittedModule conventions (m ++ [name]) = emittedModule conventions (m ++ [name']) := by
      simpa [emittedModule, SchemaPath.name] using last
    have lost : ∃ k, (k = m ++ [name] ∨ k = m ++ [name']) ∧ ∃ fault, (⟨k⟩, fault) ∈
        claimModules conventions (if m = [] then .reserving reserved else {})
          (childModules m document.resolve.modulePaths) :=
      claimModules_of_same child child' differ sameName
    obtain ⟨k, either, fault, failed⟩ := lost
    have listed : (⟨k⟩, fault) ∈
        (NameTable.build conventions policy separator reserved document.resolve).failedModules :=
      mem_ordered.2 (List.mem_flatMap.2 ⟨m, parent, failed⟩)
    rcases either with rfl | rfl
    · exact named fault listed
    · exact named' fault listed

end

/-- Two modules in which something is emitted have different emitted paths. -/
theorem module_eq_of_emittedPath {document : Document} {target : Target} {config : Config}
    {c d : Candidate}
    (member : c ∈ plan target config (runNames target config document.resolve) document.resolve)
    (ready : c.isReady = true)
    (member' : d ∈ plan target config (runNames target config document.resolve) document.resolve)
    (ready' : d.isReady = true)
    (same : c.item.module.map target.conventions.moduleName =
      d.item.module.map target.conventions.moduleName) : c.item.module = d.item.module := by
  obtain ⟨-, -, clear, -⟩ := status_of_mem_plan member ready
  obtain ⟨-, -, clear', -⟩ := status_of_mem_plan member' ready'
  exact emittedPath_injective (document.module_mem_modulePaths (item_of_mem_plan member))
    (document.module_mem_modulePaths (item_of_mem_plan member')) clear clear' same

end SchemaBindings
