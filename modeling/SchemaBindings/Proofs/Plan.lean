import SchemaBindings.Generation.Run
import SchemaBindings.Proofs.FailurePropagation
import SchemaBindings.Proofs.NameTable

/-!
# The plan of a run

The steps of a plan change each candidate on its own and in one direction: the item stays, and a candidate that is
ready in the end has never been touched (`Candidate.Narrows`). So what is ready in the end has the names of the
table, all its tuples have been checked, no module around it is without a name, and none of its references
has failed.
-/

namespace SchemaBindings

open Candidate

/-! ## What a step can do -/

/-- A step from one candidate to another: the item is the same, and a ready candidate is left as it was. -/
structure Candidate.Narrows (c d : Candidate) : Prop where
  item : d.item = c.item
  same : d.isReady = true → d = c

theorem Candidate.Narrows.trans {c d e : Candidate} (first : c.Narrows d) (second : d.Narrows e) :
    c.Narrows e := by
  refine ⟨second.item.trans first.item, fun ready => ?_⟩
  have same := second.same ready
  rw [same] at ready ⊢
  exact first.same ready

theorem Candidate.SpreadsTo.narrows {c d : Candidate} (spreads : c.SpreadsTo d) : c.Narrows d :=
  ⟨spreads.item_eq, spreads.eq_of_isReady⟩

/-- What breaking the cycles of a graph makes of a candidate. -/
def Candidate.breakCycle (graph : ImportGraph) (c : Candidate) : Candidate :=
  if c.isReady then
    match c.cyclicReference? graph with
    | some p => c.fail (.importCycle (SchemaPath.mk c.item.module).text p.text)
    | none => c
  else c

theorem breakImportCycles_eq_map (cs : List Candidate) :
    breakImportCycles cs = cs.map (breakCycle (.ofImports (moduleImports cs))) :=
  rfl

theorem Candidate.narrows_breakCycle (graph : ImportGraph) (c : Candidate) :
    c.Narrows (c.breakCycle graph) := by
  unfold breakCycle
  split
  · split
    · exact ⟨rfl, fun ready => absurd ready (by simp)⟩
    · exact ⟨rfl, fun _ => rfl⟩
  · exact ⟨rfl, fun _ => rfl⟩

/-! ## The plan -/

section

variable (target : Target) (config : Config) (names : NameTable) (r : Resolved)

/-- The candidates of a run after failures have spread for the first time. -/
def settledCandidates : List Candidate :=
  propagate r.failedPaths (candidates names ⟨config.maxTupleArity, []⟩ r.items)

/-- A plan is the result of spreading failures, whether or not cycles are broken before. -/
theorem plan_eq_propagate : ∃ cs, plan target config names r = propagate r.failedPaths cs := by
  unfold plan
  split
  · exact ⟨_, rfl⟩
  · exact ⟨_, rfl⟩

/-- A plan changes each candidate on its own. -/
theorem plan_eq_map : ∃ final : Candidate → Candidate,
    plan target config names r =
        (candidates names ⟨config.maxTupleArity, []⟩ r.items).map final ∧
      ∀ c : Candidate, c.Narrows (final c) := by
  obtain ⟨first, settled, spreads⟩ :=
    propagate_eq_map r.failedPaths (candidates names ⟨config.maxTupleArity, []⟩ r.items)
  unfold plan
  rw [settled]
  dsimp only
  split
  · rw [breakImportCycles_eq_map, List.map_map]
    generalize ImportGraph.ofImports _ = graph
    obtain ⟨last, equal, spreads'⟩ := propagate_eq_map r.failedPaths
      ((candidates names ⟨config.maxTupleArity, []⟩ r.items).map (breakCycle graph ∘ first))
    refine ⟨last ∘ breakCycle graph ∘ first, ?_, fun c => ?_⟩
    · rw [equal, List.map_map]
    · exact ((spreads c).narrows.trans (narrows_breakCycle graph _)).trans (spreads' _).narrows
  · exact ⟨first, rfl, fun c => (spreads c).narrows⟩

theorem plan_items : (plan target config names r).map (·.item) = r.items := by
  obtain ⟨final, equal, narrows⟩ := plan_eq_map target config names r
  rw [equal, candidates, List.map_map, List.map_map]
  exact (List.map_congr_left fun i _ => (narrows _).item).trans (List.map_id _)

variable {target config names r}

theorem exists_candidate {i : SchemaItem} (item : i ∈ r.items) :
    ∃ c ∈ plan target config names r, c.item = i := by
  rw [← plan_items target config names r] at item
  exact List.mem_map.1 item

theorem item_of_mem_plan {c : Candidate} (member : c ∈ plan target config names r) :
    c.item ∈ r.items := by
  rw [← plan_items target config names r]
  exact List.mem_map_of_mem member

theorem initialStatus_eq_ok {arena : TupleArena} {item : SchemaItem} {own : DeclarationNames}
    (ready : initialStatus names arena item = .ok own) :
    names.failedAncestor? item.module = none ∧
      (∀ arity ∈ item.declaration.arities, arena.check arity = .ok ()) ∧
      names.get? item.path = some (.ok own) := by
  unfold initialStatus at ready
  cases ancestor : names.failedAncestor? item.module with
  | some m =>
    rw [ancestor] at ready
    exact absurd ready (by simp)
  | none =>
    rw [ancestor] at ready
    dsimp only at ready
    rw [bind_eq_ok, exists_unit_iff, forM_eq_ok_iff] at ready
    refine ⟨rfl, ready.1, ?_⟩
    cases found : names.get? item.path with
    | none =>
      rw [found] at ready
      exact absurd ready.2 (by simp)
    | some entry =>
      rw [found] at ready
      exact congrArg some ready.2

/-- What is ready in the end has been ready from the start. -/
theorem status_of_mem_plan {c : Candidate} (member : c ∈ plan target config names r)
    (ready : c.isReady = true) :
    ∃ own, c.status = .ok own ∧ names.failedAncestor? c.item.module = none ∧
      (∀ arity ∈ c.item.declaration.arities,
        TupleArena.check ⟨config.maxTupleArity, []⟩ arity = .ok ()) ∧
      names.get? c.path = some (.ok own) := by
  obtain ⟨final, equal, narrows⟩ := plan_eq_map target config names r
  rw [equal] at member
  obtain ⟨d, original, rfl⟩ := List.mem_map.1 member
  have untouched : final d = d := (narrows d).same ready
  rw [untouched] at ready ⊢
  obtain ⟨i, -, rfl⟩ := List.mem_map.1 original
  obtain ⟨own, status⟩ := isReady_iff.1 ready
  exact ⟨own, status, initialStatus_eq_ok status⟩

/-- What is ready in the end refers to nothing that has failed. -/
theorem references_of_mem_plan {c : Candidate} (member : c ∈ plan target config names r)
    (ready : c.isReady = true) {p : SchemaPath} (referred : p ∈ c.references) :
    p ∉ r.failedPaths ∧ ∀ d ∈ plan target config names r, d.path = p → d.isReady = true := by
  obtain ⟨cs, equal⟩ := plan_eq_propagate target config names r
  rw [equal] at member ⊢
  refine ⟨fun failed => not_mem_references_of_failed member ready (.inl failed) referred, ?_⟩
  rintro d member' rfl
  by_contra out
  refine not_mem_references_of_failed member ready (.inr ?_) referred
  exact mem_failedPaths.2 ⟨d, member', by simpa using out, rfl⟩

end

/-- Whatever is ready in the end stands outside every module that would be called like that of the tuple records. -/
theorem moduleName_ne_tuples {target : Target} {config : Config} {r : Resolved} {c : Candidate}
    (member : c ∈ plan target config (runNames target config r) r) (ready : c.isReady = true)
    {segment : String} {rest : ModulePath} (place : c.item.module = segment :: rest) :
    target.conventions.moduleName segment ≠ target.conventions.moduleName tuplesModuleName := by
  intro taken
  obtain ⟨own, -, clear, -⟩ := status_of_mem_plan member ready
  refine failedAncestor?_ne_none (item_of_mem_plan member) place ?_ clear
  rw [taken]
  exact List.mem_singleton_self _

end SchemaBindings
