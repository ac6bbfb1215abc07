import SchemaBindings.Proofs.DeclaredNames
import SchemaBindings.Proofs.Plan
import SchemaBindings.Proofs.ResolutionFailures

/-!
# Faults of a run

Why a run leaves out an item that resolution has kept (`LateFault`): a module around it has no name, one of its tuples is
too large, its names collide, it refers to what has failed, or it closes an import cycle. There is no other reason
(`lateFault_of_mem_plan`): the tuples of a resolved document have at least two elements, and every item has an entry in
the table of names.
-/

namespace SchemaBindings

open Candidate

/-! ## Arities of resolved tuples -/

namespace SchemaType

variable {ν μ : Type}

theorem arities_rename (f : ν → μ) (t : SchemaType ν) : (t.rename f).arities = t.arities := by
  unfold arities
  rw [walk_rename, List.filterMap_map]
  congr 1
  funext u
  cases u <;> simp [rename, arity?, renameAll_eq_map]

theorem mem_arities {t : SchemaType ν} {n : Nat} :
    n ∈ t.arities ↔ ∃ elements, tuple elements ∈ t.walk ∧ elements.length = n := by
  unfold arities
  rw [List.mem_filterMap]
  constructor
  · rintro ⟨u, inside, found⟩
    cases u with
    | tuple elements => exact ⟨elements, inside, Option.some.inj found⟩
    | _ => exact absurd found (by simp [arity?])
  · rintro ⟨elements, inside, rfl⟩
    exact ⟨_, inside, rfl⟩

end SchemaType

/-- The tuples of what resolution keeps have at least two elements. -/
theorem two_le_of_mem_arities {document : Document} {i : SchemaItem}
    (item : i ∈ document.resolve.items) {n : Nat} (mentioned : n ∈ i.declaration.arities) : 2 ≤ n := by
  obtain ⟨-, d, -, formed, resolves⟩ :=
    (standsIn_resolve_iff document).1 (Declaration.mem_items_iff.1 item).1
  obtain ⟨t, type, inside⟩ := Declaration.mem_arities.1 mentioned
  rw [resolves.types_eq] at type
  obtain ⟨source, among, rfl⟩ := List.mem_map.1 type
  rw [Document.resolved, SchemaType.arities_rename] at inside
  obtain ⟨elements, walked, rfl⟩ := SchemaType.mem_arities.1 inside
  exact formed.types source among _ walked

/-! ## Reasons -/

/-- Why a run leaves out an item that resolution has kept. -/
inductive LateFault (target : Target) (config : Config) (names : NameTable) (i : SchemaItem) :
    Fault → Prop
  /-- A module around the item has no name. -/
  | module {m : SchemaPath} : names.failedAncestor? i.module = some m →
      LateFault target config names i (.dependencyFailed m.text)
  | arity {n : Nat} : n ∈ i.declaration.arities → config.maxTupleArity < n →
      LateFault target config names i (.unsupportedArity n config.maxTupleArity)
  | name {name takenBy : String} :
      names.get? i.path = some (.error (.namingCollision name takenBy)) →
      LateFault target config names i (.namingCollision name takenBy)
  | dependency {p : SchemaPath} : p ∈ i.declaration.references →
      LateFault target config names i (.dependencyFailed p.text)
  | cycle {p : SchemaPath} : target.forbidsImportCycles = true → p ∈ i.declaration.references →
      p.module ≠ i.module →
      LateFault target config names i (.importCycle (SchemaPath.mk i.module).text p.text)

section

variable {target : Target} {config : Config} {document : Document}

theorem lateFault_of_check {names : NameTable} {i : SchemaItem}
    (item : i ∈ document.resolve.items) {n : Nat} (mentioned : n ∈ i.declaration.arities) :
    FaultsIn (LateFault target config names i) (TupleArena.check ⟨config.maxTupleArity, []⟩ n) := by
  have long := two_le_of_mem_arities item mentioned
  unfold TupleArena.check
  rw [if_neg (Nat.not_lt.2 long)]
  split
  · next large => exact .error (.arity mentioned large)
  · exact .ok ()

/-- By itself an item fails for a module around it, for a tuple, or for its names. -/
theorem lateFault_of_initialStatus {i : SchemaItem} (item : i ∈ document.resolve.items) :
    FaultsIn (LateFault target config (runNames target config document.resolve) i)
      (initialStatus (runNames target config document.resolve) ⟨config.maxTupleArity, []⟩ i) := by
  unfold initialStatus
  cases ancestor : (runNames target config document.resolve).failedAncestor? i.module with
  | some m => exact .error (.module ancestor)
  | none =>
    refine .bind (.forM fun n mentioned => lateFault_of_check item mentioned) fun _ _ => ?_
    obtain ⟨entry, found⟩ : ∃ entry,
        (runNames target config document.resolve).get? i.path = some entry := exists_get? item
    rw [found]
    obtain ⟨-, -, -, faults⟩ := exists_item_of_get? found
    intro fault failed
    obtain ⟨name, takenBy, rfl⟩ := faults fault failed
    exact .name (found.trans (congrArg some failed))

/-- The fault of a candidate, if it has one, has a reason. -/
def Candidate.HasReason (target : Target) (config : Config) (names : NameTable) (c : Candidate) :
    Prop :=
  FaultsIn (LateFault target config names c.item) c.status

theorem Candidate.SpreadsTo.hasReason {names : NameTable} {c d : Candidate}
    (spreads : c.SpreadsTo d) (reason : c.HasReason target config names) :
    d.HasReason target config names := by
  cases spreads with
  | kept => exact reason
  | failed _ referred => exact .error (.dependency referred)

theorem Candidate.hasReason_breakCycle {names : NameTable} (graph : ImportGraph) {c : Candidate}
    (forbids : target.forbidsImportCycles = true) (reason : c.HasReason target config names) :
    (c.breakCycle graph).HasReason target config names := by
  unfold breakCycle
  split
  · split
    · next p found =>
      have leads := List.find?_some found
      rw [decide_eq_true_iff] at leads
      exact .error (.cycle forbids (List.mem_of_find?_eq_some found) leads.1)
    · exact reason
  · exact reason

theorem hasReason_propagate {names : NameTable} (failed : List SchemaPath) {cs : List Candidate}
    (reasons : ∀ c ∈ cs, c.HasReason target config names) :
    ∀ c ∈ propagate failed cs, c.HasReason target config names := by
  obtain ⟨final, equal, spreads⟩ := propagate_eq_map failed cs
  rw [equal]
  intro c member
  obtain ⟨d, original, rfl⟩ := List.mem_map.1 member
  exact (spreads d).hasReason (reasons d original)

/-- What a run leaves out has one of the reasons. -/
theorem lateFault_of_mem_plan {c : Candidate}
    (member : c ∈ plan target config (runNames target config document.resolve) document.resolve)
    {fault : Fault} (failed : c.status = .error fault) :
    LateFault target config (runNames target config document.resolve) c.item fault := by
  have initial : ∀ c ∈ candidates (runNames target config document.resolve)
      ⟨config.maxTupleArity, []⟩ document.resolve.items,
      c.HasReason target config (runNames target config document.resolve) := by
    intro c member
    obtain ⟨i, item, rfl⟩ := List.mem_map.1 member
    exact lateFault_of_initialStatus item
  have settled := hasReason_propagate document.resolve.failedPaths initial
  have reasons : c.HasReason target config (runNames target config document.resolve) := by
    unfold plan at member
    dsimp only at member
    split at member
    · next forbids =>
      refine hasReason_propagate _ (fun d broken => ?_) c member
      rw [breakImportCycles_eq_map] at broken
      obtain ⟨e, original, rfl⟩ := List.mem_map.1 broken
      exact hasReason_breakCycle _ forbids (settled e original)
    · exact settled c member
  exact reasons fault failed

end

/-! ## Modules without a name -/

theorem mem_modules_of_mem_claimModules {conventions : Conventions} {ns : Namespace}
    {ms : List ModulePath} {f : SchemaPath × Fault} (failed : f ∈ claimModules conventions ns ms) :
    ∃ m ∈ ms, f.1 = ⟨m⟩ := by
  induction ms generalizing ns with
  | nil => exact absurd failed List.not_mem_nil
  | cons m ms ih =>
    unfold claimModules at failed
    dsimp only at failed
    split at failed
    · rcases List.mem_cons.1 failed with rfl | later
      · exact ⟨m, List.mem_cons_self, rfl⟩
      · obtain ⟨n, among, path⟩ := ih later
        exact ⟨n, List.mem_cons_of_mem _ among, path⟩
    · obtain ⟨n, among, path⟩ := ih failed
      exact ⟨n, List.mem_cons_of_mem _ among, path⟩

/-- A module without a name is a kept module other than the root. -/
theorem mem_modules_of_mem_failedModules {conventions : Conventions}
    {reserved : List (String × String)} {modules : List ModulePath} {f : SchemaPath × Fault}
    (failed : f ∈ failedModules conventions reserved modules) :
    ∃ m ∈ modules, m ≠ [] ∧ f.1 = ⟨m⟩ := by
  unfold failedModules at failed
  obtain ⟨parent, -, failed⟩ := List.mem_flatMap.1 (mem_ordered.1 failed)
  obtain ⟨m, child, path⟩ := mem_modules_of_mem_claimModules failed
  obtain ⟨among, inside⟩ := List.mem_filter.1 child
  rw [decide_eq_true_iff] at inside
  exact ⟨m, among, inside.1, path⟩

end SchemaBindings
