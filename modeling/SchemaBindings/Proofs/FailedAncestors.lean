import Mathlib.Data.List.Infix
import SchemaBindings.Proofs.EnteredModules
import SchemaBindings.Proofs.LateFaults
import SchemaBindings.Proofs.ModulePlaces

/-!
# Failed modules around a module

Modules can fail at several levels of one path, each for a sibling in front of it. The table answers with the outermost
of those on the way to a module (`failedAncestor?_outermost`), which is the closest one only where no other has failed.

* A module cannot be named if its name is reserved, or if a sibling in front of it emits the same (`LosesName`). Whether
  that sibling has got the name does not matter, since the name is taken either way
  (`exists_fault_mem_claimModules_iff`).
* The prefixes of a path are searched from the shortest to the longest, and of two prefixes the shorter one is a prefix
  of the other (`failedAncestor?_eq_some_iff`).
-/

namespace SchemaBindings

open Declaration

/-! ## Modules that cannot be named -/

/-- The module cannot be named: its name is reserved in the root module, or a sibling in front of it emits the same. -/
structure LosesName (conventions : Conventions) (reserved : List (String × String)) (modules : List ModulePath)
    (m : ModulePath) : Prop where
  kept : m ∈ modules
  inside : m ≠ []
  taken : (m.dropLast = [] ∧ emittedModule conventions m ∈ reserved.map (·.1)) ∨
    ∃ n ∈ (childModules m.dropLast modules).takeWhile (· ≠ m), emittedModule conventions n = emittedModule conventions m

section

variable {conventions : Conventions} {reserved : List (String × String)} {modules : List ModulePath} {m : ModulePath}

/-- Of modules that claim their names one after the other those fail whose name is taken from the start or emitted by
one in front. -/
theorem exists_fault_mem_claimModules_iff {ns : Namespace} {ms : List ModulePath} (distinct : ms.Nodup) :
    (∃ fault, (⟨m⟩, fault) ∈ claimModules conventions ns ms) ↔
      m ∈ ms ∧ (emittedModule conventions m ∈ ns.names ∨
        ∃ n ∈ ms.takeWhile (· ≠ m), emittedModule conventions n = emittedModule conventions m) := by
  induction ms generalizing ns with
  | nil => simp [claimModules]
  | cons first ms ih =>
    obtain ⟨fresh, distinct⟩ := List.nodup_cons.1 distinct
    obtain ⟨ns', names, step⟩ := exists_claimModules_cons conventions ns first ms
    rw [step, ih distinct, names]
    by_cases same : m = first
    · subst same
      simp [fresh]
    · have other : first ≠ m := fun equal => same equal.symm
      simp [same, other, eq_comm (a := emittedModule conventions m), or_assoc, or_left_comm]

theorem mem_names_around {parent : ModulePath} {name : String} :
    name ∈ (if parent = [] then Namespace.reserving reserved else {}).names ↔
      parent = [] ∧ name ∈ reserved.map (·.1) := by
  split
  · next root => simp [root, Namespace.names, Namespace.reserving]
  · next inside => simp [inside, Namespace.names]

/-- The table lists the modules that cannot be named. -/
theorem losesName_iff (document : Document) :
    (∃ fault, (⟨m⟩, fault) ∈ failedModules conventions reserved document.resolve.modulePaths) ↔
      LosesName conventions reserved document.resolve.modulePaths m := by
  let around (parent : ModulePath) : Namespace := if parent = [] then .reserving reserved else {}
  let children (parent : ModulePath) := childModules parent document.resolve.modulePaths
  have claims (parent : ModulePath) :
      (∃ fault, (⟨m⟩, fault) ∈ claimModules conventions (around parent) (children parent)) ↔
        m ∈ children parent ∧ (emittedModule conventions m ∈ (around parent).names ∨
          ∃ n ∈ (children parent).takeWhile (· ≠ m), emittedModule conventions n = emittedModule conventions m) :=
    exists_fault_mem_claimModules_iff (document.modulePaths_nodup.filter _)
  have child (parent : ModulePath) : m ∈ children parent ↔
      m ∈ document.resolve.modulePaths ∧ m ≠ [] ∧ m.dropLast = parent := by
    simp [children, childModules]
  constructor
  · rintro ⟨fault, failed⟩
    obtain ⟨parent, -, failed⟩ := List.mem_flatMap.1 (mem_ordered.1 failed)
    obtain ⟨member, taken⟩ := (claims parent).1 ⟨fault, failed⟩
    obtain ⟨kept, inside, rfl⟩ := (child parent).1 member
    exact ⟨kept, inside, taken.imp_left mem_names_around.1⟩
  · rintro ⟨kept, inside, taken⟩
    have whole : m.dropLast ++ [m.getLast inside] ∈ document.resolve.modulePaths := by
      rwa [List.dropLast_concat_getLast]
    have parent : m.dropLast ∈ document.resolve.modulePaths := mem_modulePaths_of_concat whole
    obtain ⟨fault, failed⟩ := (claims m.dropLast).2
      ⟨(child _).2 ⟨kept, inside, rfl⟩, taken.imp_left mem_names_around.2⟩
    exact ⟨fault, mem_ordered.2 (List.mem_flatMap.2 ⟨m.dropLast, parent, failed⟩)⟩

end

/-! ## The way to a module -/

/-- A module on the way from the root to `m`, `m` included, that cannot be named. -/
structure FailsAround (conventions : Conventions) (reserved : List (String × String)) (modules : List ModulePath)
    (m p : ModulePath) : Prop where
  around : p <+: m
  lost : LosesName conventions reserved modules p

section

variable {table : NameTable} {m : ModulePath}

/-- The answer is the shortest prefix that has failed. -/
theorem failedAncestor?_eq_some_iff_take {p : SchemaPath} :
    table.failedAncestor? m = some p ↔ ∃ k < m.length, p = ⟨m.take (k + 1)⟩ ∧
      (∃ fault, (p, fault) ∈ table.failedModules) ∧
        ∀ j < k, ¬ ∃ fault, (⟨m.take (j + 1)⟩, fault) ∈ table.failedModules := by
  have failed (q : SchemaPath) : (table.failedModules.any (·.1 == q)) = true ↔
      ∃ fault, (q, fault) ∈ table.failedModules := by
    simp
  unfold NameTable.failedAncestor?
  rw [List.find?_eq_some_iff_getElem, failed]
  simp only [List.getElem_map, List.getElem_range, List.length_map, List.length_range, Bool.not_eq_true', ← failed,
    Bool.not_eq_true]
  constructor
  · rintro ⟨lost, k, short, rfl, before⟩
    exact ⟨k, short, rfl, lost, before⟩
  · rintro ⟨k, short, rfl, lost, before⟩
    exact ⟨lost, k, short, rfl, before⟩

/-- The table answers with the failed prefix that is a prefix of the others. -/
theorem failedAncestor?_eq_some_iff {p : SchemaPath} :
    table.failedAncestor? m = some p ↔
      (p.segments ≠ [] ∧ p.segments <+: m ∧ ∃ fault, (p, fault) ∈ table.failedModules) ∧
        ∀ q : ModulePath, q ≠ [] → q <+: m → (∃ fault, (⟨q⟩, fault) ∈ table.failedModules) → p.segments <+: q := by
  rw [failedAncestor?_eq_some_iff_take]
  constructor
  · rintro ⟨k, short, rfl, lost, before⟩
    refine ⟨⟨?_, List.take_prefix _ _, lost⟩, fun q inside around lost' => ?_⟩
    · exact List.ne_nil_of_length_pos (by rw [List.length_take]; omega)
    · rw [List.prefix_iff_eq_take.1 around, List.take_isPrefix_take]
      by_contra longer
      -- A shorter prefix that has failed would have been found before.
      obtain ⟨j, size⟩ := Nat.exists_eq_succ_of_ne_zero (mt List.length_eq_zero_iff.1 inside)
      refine before j (by omega) ?_
      rwa [← Nat.succ_eq_add_one, ← size, ← List.prefix_iff_eq_take.1 around]
  · rintro ⟨⟨inside, around, lost⟩, outermost⟩
    obtain ⟨k, size⟩ := Nat.exists_eq_succ_of_ne_zero (mt List.length_eq_zero_iff.1 inside)
    have short := around.length_le
    refine ⟨k, by omega, ?_, lost, fun j before lost' => ?_⟩
    · rw [← Nat.succ_eq_add_one, ← size, ← List.prefix_iff_eq_take.1 around]
    · have longer : p.segments <+: m.take (j + 1) := by
        refine outermost _ (List.ne_nil_of_length_pos ?_) (List.take_prefix _ _) lost'
        rw [List.length_take]
        omega
      have size' := longer.length_le
      rw [List.length_take] at size'
      omega

end

section

variable {conventions : Conventions} {policy : NamingPolicy} {separator : String} {reserved : List (String × String)}
  {m : ModulePath}

/-- Of the modules around `m` that cannot be named the table answers with the outermost one. -/
theorem failedAncestor?_eq_some_iff_failsAround (document : Document) {p : SchemaPath} :
    (NameTable.build conventions policy separator reserved document.resolve).failedAncestor? m = some p ↔
      FailsAround conventions reserved document.resolve.modulePaths m p.segments ∧
        ∀ q, FailsAround conventions reserved document.resolve.modulePaths m q → p.segments <+: q := by
  have lost (q : ModulePath) : q ≠ [] ∧ q <+: m ∧ (∃ fault, (⟨q⟩, fault) ∈
      (NameTable.build conventions policy separator reserved document.resolve).failedModules) ↔
        FailsAround conventions reserved document.resolve.modulePaths m q := by
    refine ⟨fun ⟨_, around, failed⟩ => ⟨around, (losesName_iff document).1 failed⟩, fun fails => ?_⟩
    exact ⟨fails.lost.inside, fails.around, (losesName_iff document).2 fails.lost⟩
  refine failedAncestor?_eq_some_iff.trans (and_congr (lost p.segments) (forall_congr' fun q => ?_))
  rw [← lost q, and_imp, and_imp]

/-- A module of the root that cannot be named is the answer for everything in it. -/
theorem failedAncestor?_of_losesName {document : Document} {segment : String}
    (lost : LosesName conventions reserved document.resolve.modulePaths [segment]) (rest : ModulePath) :
    (NameTable.build conventions policy separator reserved document.resolve).failedAncestor? (segment :: rest) =
      some ⟨[segment]⟩ := by
  refine (failedAncestor?_eq_some_iff_failsAround document).2 ⟨⟨⟨rest, rfl⟩, lost⟩, fun q fails => ?_⟩
  obtain ⟨first, others, rfl⟩ := List.exists_cons_of_ne_nil fails.lost.inside
  obtain rfl := (List.cons_prefix_cons.1 fails.around).1
  exact ⟨others, rfl⟩

/-- The table answers if a module around `m` cannot be named. -/
theorem exists_failedAncestor?_of_failsAround (document : Document) {p : ModulePath}
    (fails : FailsAround conventions reserved document.resolve.modulePaths m p) :
    ∃ q, (NameTable.build conventions policy separator reserved document.resolve).failedAncestor? m = some q := by
  rw [← Option.isSome_iff_exists, ← Option.ne_none_iff_isSome, Ne, failedAncestor?_eq_none_iff]
  intro clear
  obtain ⟨k, size⟩ := Nat.exists_eq_succ_of_ne_zero (mt List.length_eq_zero_iff.1 fails.lost.inside)
  obtain ⟨fault, failed⟩ := (losesName_iff document).2 fails.lost
  have short := fails.around.length_le
  refine clear k (by omega) fault ?_
  rwa [← Nat.succ_eq_add_one, ← size, ← List.prefix_iff_eq_take.1 fails.around]

end

/-- The table blames a module exactly if one on the way to `m` cannot be named. It answers with the outermost of these,
so with the closest one only if there is no other. -/
theorem failedAncestor?_outermost (document : Document) (conventions : Conventions) (policy : NamingPolicy)
    (separator : String) (reserved : List (String × String)) (m : ModulePath) :
    let answer := (NameTable.build conventions policy separator reserved document.resolve).failedAncestor? m
    let Fails := FailsAround conventions reserved document.resolve.modulePaths m
    ((∃ p, answer = some p) ↔ ∃ p, Fails p) ∧
      (∀ p, answer = some p ↔ Fails p.segments ∧ ∀ q, Fails q → p.segments <+: q) ∧
      ∀ p, answer = some p → ((∀ q, Fails q → q <+: p.segments) ↔ ∀ q, Fails q → q = p.segments) := by
  intro answer Fails
  have found (p : SchemaPath) : answer = some p ↔ Fails p.segments ∧ ∀ q, Fails q → p.segments <+: q :=
    failedAncestor?_eq_some_iff_failsAround document
  refine ⟨⟨?_, fun ⟨p, fails⟩ => exists_failedAncestor?_of_failsAround document fails⟩, found, ?_⟩
  · rintro ⟨p, answers⟩
    exact ⟨p.segments, ((found p).1 answers).1⟩
  · intro p answers
    obtain ⟨fails, outermost⟩ := (found p).1 answers
    constructor
    · intro closest q fails'
      exact (closest q fails').eq_of_length_le (outermost q fails').length_le
    · intro only q fails'
      rw [only q fails']

/-- The module `geo` loses its name to `Geo`, and inside it `inner` to `Inner`. -/
def nestedCollisionsDocument : Document :=
  ⟨[.module "Geo" none [], .module "geo" none [.module "Inner" none [], .module "inner" none []]]⟩

/-- Both modules cannot be named, and the table blames the outer one for what stands in the inner one. -/
theorem inner_blames_geo :
    let answer := (NameTable.build Go.conventions .auto "_" [] nestedCollisionsDocument.resolve).failedAncestor?
      ["geo", "inner"]
    let Fails := FailsAround Go.conventions [] nestedCollisionsDocument.resolve.modulePaths ["geo", "inner"]
    answer = some ⟨["geo"]⟩ ∧ Fails ["geo"] ∧ Fails ["geo", "inner"] ∧
      ¬ ∃ p, answer = some p ∧ Fails p.segments ∧ ∀ q, Fails q → q <+: p.segments := by
  intro answer Fails
  have geo : emittedModule Go.conventions ["Geo"] = "geo" ∧ emittedModule Go.conventions ["geo"] = "geo" := by
    decide +kernel
  have inner : emittedModule Go.conventions ["geo", "Inner"] = "inner" ∧
      emittedModule Go.conventions ["geo", "inner"] = "inner" := by
    decide +kernel
  have outerFails : Fails ["geo"] :=
    ⟨by decide, by decide +kernel, by decide, .inr ⟨["Geo"], by decide +kernel, geo.1.trans geo.2.symm⟩⟩
  have innerFails : Fails ["geo", "inner"] :=
    ⟨by decide, by decide +kernel, by decide, .inr ⟨["geo", "Inner"], by decide +kernel, inner.1.trans inner.2.symm⟩⟩
  have found : answer = some ⟨["geo"]⟩ := failedAncestor?_of_losesName outerFails.lost ["inner"]
  refine ⟨found, outerFails, innerFails, ?_⟩
  rintro ⟨p, answers, -, closest⟩
  have same : p = ⟨["geo"]⟩ := Option.some.inj (answers.symm.trans found)
  rw [same] at closest
  exact absurd (closest _ innerFails) (by decide)

end SchemaBindings
