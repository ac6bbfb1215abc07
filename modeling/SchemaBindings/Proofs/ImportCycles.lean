import SchemaBindings.Proofs.ImportReachability
import SchemaBindings.Proofs.Plan

/-!
# No import cycles

For a target whose modules may not import each other, a run leaves no cycle of references between modules, and it
fails no more declarations for it than those that close one.

1. `ModuleRefers cs m n`: a ready declaration of the module `m` refers to one of another module `n`. This is what
   the import graph of the candidates searches (`leads_iff_moduleRefers`).
2. `acyclic_of_off_cycle`: without any of the edges that lie on a cycle a graph has no cycle, also if further
   edges are missing. Nothing that is ready after the cycles are broken has such an edge, and the failures that
   spread afterwards only take edges away.
3. The module of the tuple records holds no declaration of a schema, so it refers to nothing and edges to it
   close no cycle.
-/

namespace SchemaBindings

open Relation Candidate

/-! ## References between modules -/

/-- A ready declaration of the module `m` refers to a declaration of another module `n`. -/
def ModuleRefers (cs : List Candidate) (m n : ModulePath) : Prop :=
  ∃ c ∈ cs, c.isReady = true ∧ c.item.module = m ∧ ∃ p ∈ c.references, p.module = n ∧ n ≠ m

/-- A ready declaration of the module `m` mentions a tuple. -/
def ModuleUsesTuples (cs : List Candidate) (m : ModulePath) : Prop :=
  ∃ c ∈ cs, c.isReady = true ∧ c.item.module = m ∧ c.item.declaration.arities ≠ []

/-- The declaration is kept out because it closes a cycle. -/
def Candidate.FailsByCycle (c : Candidate) : Prop :=
  ∃ module target, c.status = .error (.importCycle module target)

theorem imports_moduleImports_iff {cs : List Candidate} {m n : ModulePath} :
    Imports (moduleImports cs) m n ↔ ModuleRefers cs m n := by
  unfold Imports moduleImports ModuleRefers importedModules
  simp only [List.mem_flatMap, List.mem_filter, List.mem_map, Prod.mk.injEq]
  constructor
  · rintro ⟨c, ⟨member, ready⟩, _, ⟨⟨p, referred, rfl⟩, other⟩, rfl, rfl⟩
    exact ⟨c, member, ready, rfl, p, referred, rfl, by simpa using other⟩
  · rintro ⟨c, member, ready, rfl, p, referred, rfl, other⟩
    exact ⟨c, ⟨member, ready⟩, _, ⟨⟨p, referred, rfl⟩, by simpa using other⟩, rfl, rfl⟩

theorem leads_iff_moduleRefers {cs : List Candidate} {m n : ModulePath} :
    (ImportGraph.ofImports (moduleImports cs)).leads m n = true ↔ TransGen (ModuleRefers cs) m n := by
  have same : Imports (moduleImports cs) = ModuleRefers cs := by
    funext m n
    exact propext imports_moduleImports_iff
  rw [ImportGraph.leads_iff_transGen, same]

theorem cyclicReference?_eq_none_iff {graph : ImportGraph} {c : Candidate} :
    c.cyclicReference? graph = none ↔
      ∀ p ∈ c.references, p.module ≠ c.item.module → graph.leads p.module c.item.module = false := by
  simp [cyclicReference?]

/-! ## Graphs without the edges of cycles -/

/-- A relation without any edge that lies on a cycle has no cycle. -/
theorem acyclic_of_off_cycle {α : Type} {R S : α → α → Prop}
    (off : ∀ a b, S a b → R a b ∧ ¬ TransGen R b a) (a : α) : ¬ TransGen S a a := by
  intro cycle
  obtain ⟨b, edge, back⟩ := TransGen.head'_iff.1 cycle
  obtain ⟨edge, offCycle⟩ := off a b edge
  -- The rest of the cycle leads back over edges that have all been there before.
  rcases reflTransGen_iff_eq_or_transGen.1 back with rfl | back
  · exact offCycle (.single edge)
  · exact offCycle (TransGen.mono (fun a b step => (off a b step).1) _ _ back)

/-- Edges to a point that no edge leaves close no cycle. -/
theorem acyclic_with_sink {α : Type} {S : α → α → Prop} {U : α → Prop} {sink : α}
    (acyclic : ∀ a, ¬ TransGen S a a) (dead : ∀ b, ¬ S sink b) (unused : ¬ U sink) (a : α) :
    ¬ TransGen (fun a b => S a b ∨ (b = sink ∧ U a)) a a := by
  -- A path can enter the sink with its last edge only.
  have leaves : ∀ b, ¬ (S sink b ∨ (b = sink ∧ U sink)) := fun b edge =>
    edge.elim (dead b) fun into => unused into.2
  have ends : ∀ b, TransGen (fun a b => S a b ∨ (b = sink ∧ U a)) a b →
      TransGen S a b ∨ b = sink := by
    intro b path
    induction path with
    | single edge => exact edge.imp .single And.left
    | tail _ edge ih =>
      rcases ih with inside | rfl
      · exact edge.imp inside.tail And.left
      · exact absurd edge (leaves _)
  intro cycle
  rcases ends a cycle with inside | rfl
  · exact acyclic a inside
  · obtain ⟨b, edge, -⟩ := TransGen.head'_iff.1 cycle
    exact leaves b edge

/-! ## Faults before the cycles are broken -/

def Fault.NotImportCycle : Fault → Prop
  | .importCycle _ _ => False
  | _ => True

theorem tupleCheck_faults (arena : TupleArena) (arity : Nat) :
    FaultsIn Fault.NotImportCycle (arena.check arity) := by
  unfold TupleArena.check
  split
  · exact .error trivial
  · split
    · exact .error trivial
    · exact .ok ()

theorem initialStatus_faults (target : Target) (config : Config) (r : Resolved) (arena : TupleArena)
    (item : SchemaItem) :
    FaultsIn Fault.NotImportCycle (initialStatus (runNames target config r) arena item) := by
  unfold initialStatus
  split
  · exact .error trivial
  · refine .bind (.forM fun arity _ => tupleCheck_faults arena arity) fun _ _ => ?_
    cases found : (runNames target config r).get? item.path with
    | none => exact .error trivial
    | some entry =>
      obtain ⟨-, -, -, faults⟩ := exists_item_of_get? found
      intro fault failed
      obtain ⟨name, takenBy, rfl⟩ := faults fault failed
      trivial

theorem Candidate.SpreadsTo.faults {c d : Candidate} (spreads : c.SpreadsTo d)
    (faults : FaultsIn Fault.NotImportCycle c.status) : FaultsIn Fault.NotImportCycle d.status := by
  cases spreads with
  | kept => exact faults
  | failed _ _ => exact .error trivial

theorem settledCandidates_faults {target : Target} {config : Config} {r : Resolved} {c : Candidate}
    (member : c ∈ settledCandidates config (runNames target config r) r) :
    FaultsIn Fault.NotImportCycle c.status := by
  obtain ⟨final, equal, spreads⟩ := propagate_eq_map r.failedPaths
    (candidates (runNames target config r) ⟨config.maxTupleArity, []⟩ r.items)
  rw [settledCandidates, equal] at member
  obtain ⟨d, original, rfl⟩ := List.mem_map.1 member
  obtain ⟨i, -, rfl⟩ := List.mem_map.1 original
  exact (spreads _).faults (initialStatus_faults target config r _ i)

theorem Candidate.failsByCycle_breakCycle_iff {graph : ImportGraph} {c : Candidate}
    (faults : FaultsIn Fault.NotImportCycle c.status) :
    (c.breakCycle graph).FailsByCycle ↔
      c.isReady = true ∧ ∃ p ∈ c.references,
        p.module ≠ c.item.module ∧ graph.leads p.module c.item.module = true := by
  have before : ¬ c.FailsByCycle := by
    rintro ⟨module, target, failed⟩
    exact faults _ failed
  unfold breakCycle
  cases ready : c.isReady with
  | false => simpa using before
  | true =>
    rw [if_pos rfl]
    cases found : c.cyclicReference? graph with
    | none =>
      refine iff_of_false before ?_
      rintro ⟨-, p, referred, other, back⟩
      rw [cyclicReference?_eq_none_iff.1 found p referred other] at back
      exact absurd back (by simp)
    | some p =>
      refine iff_of_true ⟨_, _, rfl⟩ ⟨rfl, p, List.mem_of_find?_eq_some found, ?_⟩
      simpa using List.find?_some found

theorem Candidate.SpreadsTo.failsByCycle_iff {c d : Candidate} (spreads : c.SpreadsTo d) :
    d.FailsByCycle ↔ c.FailsByCycle := by
  cases spreads with
  | kept => rfl
  | failed ready _ =>
    obtain ⟨names, status⟩ := isReady_iff.1 ready
    refine iff_of_false ?_ ?_
    · rintro ⟨module, target, failed⟩
      exact absurd failed (by simp [fail])
    · rintro ⟨module, target, failed⟩
      rw [status] at failed
      exact absurd failed (by simp)

/-! ## The result -/

section

variable {target : Target} (forbids : target.forbidsImportCycles = true) (config : Config)
  (names : NameTable) (r : Resolved)
include forbids

/-- The plan breaks the cycles of the settled candidates, and the failures spread once more. -/
theorem plan_eq_map_breakCycle : ∃ final : Candidate → Candidate,
    plan target config names r = (settledCandidates config names r).map
        (final ∘ breakCycle (.ofImports (moduleImports (settledCandidates config names r)))) ∧
      ∀ c : Candidate, c.SpreadsTo (final c) := by
  obtain ⟨final, equal, spreads⟩ := propagate_eq_map r.failedPaths
    (breakImportCycles (settledCandidates config names r))
  refine ⟨final, ?_, spreads⟩
  unfold plan
  rw [if_pos forbids, ← settledCandidates, equal, breakImportCycles_eq_map, List.map_map]

/-- No edge that is left lies on a cycle of the settled candidates. -/
theorem off_cycle_of_moduleRefers_plan {m n : ModulePath}
    (refers : ModuleRefers (plan target config names r) m n) :
    ModuleRefers (settledCandidates config names r) m n ∧
      ¬ TransGen (ModuleRefers (settledCandidates config names r)) n m := by
  obtain ⟨final, equal, spreads⟩ := plan_eq_map_breakCycle forbids config names r
  obtain ⟨c, member, ready, rfl, p, referred, rfl, other⟩ := refers
  rw [equal] at member
  obtain ⟨d, original, rfl⟩ := List.mem_map.1 member
  -- The candidate is ready in the end, so neither of the two steps has changed it.
  have unspread := (spreads (breakCycle _ d)).eq_of_isReady ready
  rw [Function.comp, unspread] at ready referred other ⊢
  have unbroken := (narrows_breakCycle _ d).same ready
  have kept := unbroken
  rw [unbroken] at ready referred other ⊢
  refine ⟨⟨d, original, ready, rfl, p, referred, rfl, other⟩, fun back => ?_⟩
  rw [breakCycle, if_pos ready] at kept
  split at kept
  · rw [← kept] at ready
    exact absurd ready (by simp)
  · next none =>
    have away := cyclicReference?_eq_none_iff.1 none p referred other
    rw [leads_iff_moduleRefers.2 back] at away
    exact absurd away (by simp)

end

theorem plan_failsByCycle {target : Target} (forbids : target.forbidsImportCycles = true)
    (config : Config) (r : Resolved) :
    List.Forall₂ (fun c d => d.item = c.item ∧ (d.FailsByCycle ↔
        c.isReady = true ∧ ∃ p ∈ c.references, p.module ≠ c.item.module ∧
          ReflTransGen (ModuleRefers (settledCandidates config (runNames target config r) r))
            p.module c.item.module))
      (settledCandidates config (runNames target config r) r)
      (plan target config (runNames target config r) r) := by
  obtain ⟨final, equal, spreads⟩ :=
    plan_eq_map_breakCycle forbids config (runNames target config r) r
  rw [equal, List.forall₂_map_right_iff, List.forall₂_same]
  intro c member
  refine ⟨(spreads _).item_eq.trans (narrows_breakCycle _ c).item, ?_⟩
  rw [Function.comp, (spreads _).failsByCycle_iff,
    failsByCycle_breakCycle_iff (settledCandidates_faults member)]
  refine and_congr_right fun _ => exists_congr fun p => and_congr_right fun _ =>
    and_congr_right fun other => ?_
  rw [leads_iff_moduleRefers, reflTransGen_iff_eq_or_transGen]
  exact ⟨.inr, fun back => back.resolve_left fun same => other same.symm⟩

/-- The modules of a run for Go refer to each other without cycles, also if each module that uses tuples refers to
that of the tuple records. A declaration fails for a cycle exactly if it is ready before and refers to a
declaration of another module from which references lead back to its own. -/
theorem plan_importCycles (config : Config) (r : Resolved) :
    let names := runNames Go.target config r
    let before := settledCandidates config names r
    let after := plan Go.target config names r
    (∀ m, ¬ TransGen (ModuleRefers after) m m) ∧
      List.Forall₂ (fun c d => d.item = c.item ∧ (d.FailsByCycle ↔
          c.isReady = true ∧ ∃ p ∈ c.references, p.module ≠ c.item.module ∧
            ReflTransGen (ModuleRefers before) p.module c.item.module)) before after ∧
      ∀ m, ¬ TransGen
        (fun m n => ModuleRefers after m n ∨ (n = tuplesModule ∧ ModuleUsesTuples after m)) m m := by
  intro names before after
  have forbids : Go.target.forbidsImportCycles = true := rfl
  have acyclic : ∀ m, ¬ TransGen (ModuleRefers after) m m :=
    acyclic_of_off_cycle fun m n => off_cycle_of_moduleRefers_plan forbids config names r
  have empty : ∀ c ∈ after, c.isReady = true → c.item.module ≠ tuplesModule :=
    fun c member ready place => moduleName_ne_tuples member ready place rfl
  refine ⟨acyclic, plan_failsByCycle forbids config r, acyclic_with_sink acyclic ?_ ?_⟩
  · rintro n ⟨c, member, ready, place, -⟩
    exact empty c member ready place
  · rintro ⟨c, member, ready, place, -⟩
    exact empty c member ready place

end SchemaBindings
