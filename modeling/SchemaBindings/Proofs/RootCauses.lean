import SchemaBindings.Proofs.Accounting
import SchemaBindings.Proofs.FailureChains
import SchemaBindings.Proofs.ReportedPaths

/-!
# Root causes of failures

A failure for a dependency names another failure of the run, and whoever follows the names comes to a failure for
something else, also where the declarations that fail refer to each other in a circle.

* A candidate blames a path that has failed in a round before its own, so the number of the round is a rank that
  descends along blame (`Ranked`). Each step of a plan keeps such a rank: a round gives the candidates that fail in it
  a rank above all others (`Ranked.spread`), and breaking import cycles blames nobody (`Ranked.breakImportCycles`).
* At the start an item can only blame a module without a name (`ranked_candidates`).
* Ranks belong to paths and blame names texts. The path of an item can be read off its text, so a text that is
  blamed belongs to no item but the one that is meant.
-/

namespace SchemaBindings

open Candidate Declaration
open Relation (ReflTransGen)

/-! ## What blames nothing -/

theorem isCollision_of_mem_claimModules {conventions : Conventions} {ns : Namespace} {ms : List ModulePath}
    {f : SchemaPath × Fault} (failed : f ∈ claimModules conventions ns ms) : f.2.IsCollision := by
  induction ms generalizing ns with
  | nil => exact absurd failed List.not_mem_nil
  | cons m ms ih =>
    unfold claimModules at failed
    dsimp only at failed
    split at failed
    · next fault taken =>
      rcases List.mem_cons.1 failed with rfl | later
      · exact claim_faults _ _ _ fault taken
      · exact ih later
    · exact ih failed

/-- A module without a name has failed for its own name. -/
theorem isCollision_of_mem_failedModules {conventions : Conventions} {reserved : List (String × String)}
    {modules : List ModulePath} {f : SchemaPath × Fault} (failed : f ∈ failedModules conventions reserved modules) :
    f.2.IsCollision := by
  obtain ⟨parent, -, failed⟩ := List.mem_flatMap.1 (mem_ordered.1 failed)
  exact isCollision_of_mem_claimModules failed

theorem exists_failedModule_of_failedAncestor? {names : NameTable} {m : ModulePath} {p : SchemaPath}
    (found : names.failedAncestor? m = some p) : ∃ fault, (p, fault) ∈ names.failedModules := by
  have failed := List.find?_some found
  rw [List.any_eq_true] at failed
  obtain ⟨⟨q, fault⟩, member, same⟩ := failed
  obtain rfl : q = p := by simpa using same
  exact ⟨fault, member⟩

/-- By itself an item blames nothing but a module around it. -/
theorem failedAncestor?_of_blames {target : Target} {config : Config} {r : Resolved} {arena : TupleArena}
    {i : SchemaItem} {name : String}
    (blames : initialStatus (runNames target config r) arena i = .error (.dependencyFailed name)) :
    ∃ p, (runNames target config r).failedAncestor? i.module = some p ∧ p.text = name := by
  unfold initialStatus at blames
  cases ancestor : (runNames target config r).failedAncestor? i.module with
  | some p =>
    rw [ancestor] at blames
    exact ⟨p, rfl, Fault.dependencyFailed.inj (Except.error.inj blames)⟩
  | none =>
    rw [ancestor] at blames
    have others : FaultsIn (fun fault => ∀ name, fault ≠ .dependencyFailed name) (do
        i.declaration.arities.forM arena.check
        ((runNames target config r).get? i.path).getD (.error (.unknownType i.path.text))) := by
      refine .bind (.forM fun n _ => ?_) fun _ _ => ?_
      · unfold TupleArena.check
        split
        · exact .error (by simp)
        · split
          · exact .error (by simp)
          · exact .ok ()
      · cases found : (runNames target config r).get? i.path with
        | none => exact .error (by simp)
        | some entry =>
          obtain ⟨-, -, -, faults⟩ := exists_item_of_get? found
          intro fault failed
          obtain ⟨name, takenBy, rfl⟩ := faults fault failed
          simp
    exact absurd rfl (others _ blames name)

/-! ## Ranks -/

/-- The items of candidates stand at paths of their own, outside those that have failed from the start, and what they
refer to can be read off its text. -/
structure Tidy (roots : List SchemaPath) (cs : List Candidate) : Prop where
  distinct : (cs.map (·.path)).Nodup
  apart : ∀ p ∈ roots, p ∉ cs.map (·.path)
  readsBack : ∀ c ∈ cs, ∀ p ∈ c.references, p.ReadsBack

/-- A rank of paths below a bound that descends from a candidate to a path that it blames. -/
structure Ranked (roots : List SchemaPath) (rank : SchemaPath → Nat) (bound : Nat) (cs : List Candidate) : Prop where
  below : ∀ p, rank p < bound
  outside : ∀ p, p ∉ cs.map (·.path) → rank p = 0
  descends : ∀ c ∈ cs, ∀ name, c.status = .error (.dependencyFailed name) →
    ∃ p : SchemaPath, p.text = name ∧ p.ReadsBack ∧ (p ∈ roots ∨ p ∈ failedPaths cs) ∧ rank p < rank c.path

section

variable {roots frontier : List SchemaPath} {rank : SchemaPath → Nat} {bound : Nat} {cs : List Candidate}

theorem map_path_map {step : Candidate → Candidate} (items : ∀ c, (step c).item = c.item) (cs : List Candidate) :
    (cs.map step).map (·.path) = cs.map (·.path) := by
  rw [List.map_map]
  exact List.map_congr_left fun c _ => congrArg Item.path (items c)

theorem Tidy.map {step : Candidate → Candidate} (items : ∀ c, (step c).item = c.item) (tidy : Tidy roots cs) :
    Tidy roots (cs.map step) := by
  refine ⟨?_, fun p root => ?_, fun d member => ?_⟩
  · rw [map_path_map items]
    exact tidy.distinct
  · rw [map_path_map items]
    exact tidy.apart p root
  · obtain ⟨c, original, rfl⟩ := List.mem_map.1 member
    rw [Candidate.references, items]
    exact tidy.readsBack c original

theorem blame_item (failed : List SchemaPath) (c : Candidate) : (c.blame failed).item = c.item :=
  (spreadsTo_blame failed c).item_eq

/-- Candidates with one path are one candidate. -/
theorem Tidy.eq_of_path (tidy : Tidy roots cs) {c d : Candidate} (member : c ∈ cs) (member' : d ∈ cs)
    (same : c.path = d.path) : c = d :=
  List.inj_on_of_nodup_map tidy.distinct member member' same

/-- A round keeps the ranks of what has failed before, and those that fail in it get a higher one. -/
theorem Ranked.spread (tidy : Tidy roots cs) (ranked : Ranked roots rank bound cs)
    (known : ∀ p ∈ frontier, p ∈ roots ∨ p ∈ failedPaths cs) :
    Ranked roots (fun p => if p ∈ newlyFailed frontier cs then bound else rank p) (bound + 1)
      (spread frontier cs) := by
  have before {p : SchemaPath} (out : p ∈ roots ∨ p ∈ failedPaths cs) : p ∉ newlyFailed frontier cs := by
    intro fresh
    obtain ⟨c, kept, rfl⟩ := List.mem_map.1 fresh
    obtain ⟨member, now⟩ := List.mem_filter.1 kept
    rcases out with root | failed
    · exact tidy.apart _ root (List.mem_map_of_mem member)
    · obtain ⟨d, other, out, same⟩ := mem_failedPaths.1 failed
      rw [tidy.eq_of_path other member same] at out
      simp [out] at now
  have still {p : SchemaPath} (out : p ∈ roots ∨ p ∈ failedPaths cs) :
      p ∈ roots ∨ p ∈ failedPaths (SchemaBindings.spread frontier cs) :=
    out.imp_right fun failed => mem_failedPaths_spread.2 (.inl failed)
  refine ⟨fun p => ?_, fun p away => ?_, fun d member name blames => ?_⟩
  · have below := ranked.below p
    split <;> omega
  · rw [SchemaBindings.spread, map_path_map (blame_item frontier)] at away
    have fresh : p ∉ newlyFailed frontier cs := fun fresh =>
      away (List.map_subset _ (List.filter_subset_self _) fresh)
    rw [if_neg fresh, ranked.outside p away]
  · obtain ⟨c, original, rfl⟩ := List.mem_map.1 member
    rw [path, blame_item, ← path]
    cases ready : c.isReady with
    | false =>
      rw [blame, ready, if_neg Bool.false_ne_true] at blames
      obtain ⟨p, text, reads, out, lower⟩ := ranked.descends c original name blames
      have kept : c.path ∈ failedPaths cs := mem_failedPaths.2 ⟨c, original, ready, rfl⟩
      refine ⟨p, text, reads, still out, ?_⟩
      rwa [if_neg (before out), if_neg (before (.inr kept))]
    | true =>
      have fresh : c.path ∈ newlyFailed frontier cs := by
        refine mem_newlyFailed original ready ?_
        rw [not_isReady_iff]
        exact ⟨_, blames⟩
      have chain := spreadsFrom_blame (P := (· ∈ frontier)) c fun _ member => member
      generalize c.blame frontier = d at chain blames
      cases chain with
      | kept =>
        rw [not_isReady_iff.2 ⟨_, blames⟩] at ready
        exact absurd ready Bool.false_ne_true
      | @failed p _ referred last =>
        refine ⟨p, Fault.dependencyFailed.inj (Except.error.inj blames), tidy.readsBack c original p referred,
          still (known p last), ?_⟩
        rw [if_neg (before (known p last)), if_pos fresh]
        exact ranked.below p

theorem Ranked.settle (rounds : Nat) (tidy : Tidy roots cs) (ranked : Ranked roots rank bound cs)
    (known : ∀ p ∈ frontier, p ∈ roots ∨ p ∈ failedPaths cs) :
    ∃ rank' bound', Ranked roots rank' bound' (settle rounds frontier cs) := by
  induction rounds generalizing rank bound frontier cs with
  | zero => exact ⟨rank, bound, ranked⟩
  | succ rounds ih =>
    unfold SchemaBindings.settle
    split
    · exact ⟨rank, bound, ranked⟩
    · exact ih (tidy.map (blame_item frontier)) (ranked.spread tidy known)
        fun p fresh => .inr (mem_failedPaths_spread.2 (.inr fresh))

theorem Ranked.propagate {failed : List SchemaPath} (tidy : Tidy roots cs) (ranked : Ranked roots rank bound cs)
    (known : failed ⊆ roots) : ∃ rank' bound', Ranked roots rank' bound' (propagate failed cs) :=
  ranked.settle _ tidy fun _ member => (List.mem_append.1 member).imp_left fun root => known root

/-- Whoever fails for an import cycle blames nobody. -/
theorem Ranked.breakImportCycles (ranked : Ranked roots rank bound cs) :
    Ranked roots rank bound (breakImportCycles cs) := by
  rw [breakImportCycles_eq_map]
  generalize ImportGraph.ofImports _ = graph
  have items (c : Candidate) : (c.breakCycle graph).item = c.item := (narrows_breakCycle graph c).item
  refine ⟨ranked.below, fun p away => ?_, fun d member name blames => ?_⟩
  · rw [map_path_map items] at away
    exact ranked.outside p away
  · obtain ⟨c, original, rfl⟩ := List.mem_map.1 member
    have status : c.status = .error (.dependencyFailed name) := by
      unfold breakCycle at blames
      split at blames
      · split at blames
        · exact absurd blames (by simp [fail])
        · exact blames
      · exact blames
    obtain ⟨p, text, reads, out, lower⟩ := ranked.descends c original name status
    refine ⟨p, text, reads, out.imp_right fun failed => ?_, ?_⟩
    · obtain ⟨e, other, unready, rfl⟩ := mem_failedPaths.1 failed
      refine mem_failedPaths.2 ⟨_, List.mem_map_of_mem other, ?_, congrArg Item.path (items e)⟩
      rw [breakCycle, unready, if_neg Bool.false_ne_true, unready]
    · rwa [path, items, ← path]

end

/-! ## The ranks of a run -/

/-- The paths that have failed before any item: in resolution, and as modules without a name. -/
def rootPaths (names : NameTable) (r : Resolved) : List SchemaPath :=
  r.failedPaths ++ names.failedModules.map (·.1)

theorem candidates_paths (names : NameTable) (arena : TupleArena) (items : List SchemaItem) :
    (candidates names arena items).map (·.path) = items.map Item.path := by
  rw [candidates, List.map_map]
  rfl

section

variable (target : Target) (config : Config) (document : Document)

theorem tidy_candidates (arena : TupleArena) :
    Tidy (rootPaths (runNames target config document.resolve) document.resolve)
      (candidates (runNames target config document.resolve) arena document.resolve.items) := by
  refine ⟨?_, fun p root => ?_, fun c member p referred => ?_⟩
  · rw [candidates_paths]
    exact document.resolve_items_paths_nodup
  · rw [candidates_paths]
    intro stands
    obtain ⟨i, item, rfl⟩ := List.mem_map.1 stands
    rcases List.mem_append.1 root with failed | unnamed
    · exact path_notMem_failedPaths item failed
    · obtain ⟨f, failed, same⟩ := List.mem_map.1 unnamed
      obtain ⟨m, kept, inside, path⟩ := mem_modules_of_mem_failedModules failed
      exact path_ne_of_mem_modulePaths kept item inside (path.symm.trans same)
  · obtain ⟨i, item, rfl⟩ := List.mem_map.1 member
    exact readsBack_of_mem_references item referred

/-- At the start the items have the rank one, and all else has the rank zero. -/
theorem ranked_candidates (arena : TupleArena) :
    Ranked (rootPaths (runNames target config document.resolve) document.resolve)
      (fun p => if p ∈ document.resolve.items.map Item.path then 1 else 0) 2
      (candidates (runNames target config document.resolve) arena document.resolve.items) := by
  have tidy := tidy_candidates target config document arena
  rw [← candidates_paths (runNames target config document.resolve) arena]
  refine ⟨fun p => ?_, fun p away => if_neg away, fun c member name blames => ?_⟩
  · split <;> omega
  · have stands : c.path ∈ (candidates (runNames target config document.resolve) arena
        document.resolve.items).map (·.path) := List.mem_map_of_mem member
    obtain ⟨i, item, rfl⟩ := List.mem_map.1 member
    obtain ⟨p, ancestor, text⟩ := failedAncestor?_of_blames blames
    obtain ⟨fault, unnamed⟩ := exists_failedModule_of_failedAncestor? ancestor
    obtain ⟨m, kept, inside, path⟩ := mem_modules_of_mem_failedModules unnamed
    have root : p ∈ rootPaths (runNames target config document.resolve) document.resolve :=
      List.mem_append_right _ (List.mem_map.2 ⟨_, unnamed, rfl⟩)
    refine ⟨p, text, ?_, .inl root, ?_⟩
    · rw [show p = ⟨m⟩ from path]
      exact readsBack_of_mem_modulePaths kept inside
    · rw [if_neg (tidy.apart p root), if_pos stands]
      exact Nat.zero_lt_one

theorem exists_rank_of_plan :
    ∃ rank bound, Ranked (rootPaths (runNames target config document.resolve) document.resolve) rank bound
      (plan target config (runNames target config document.resolve) document.resolve) := by
  have tidy := tidy_candidates target config document ⟨config.maxTupleArity, []⟩
  have known : document.resolve.failedPaths ⊆
      rootPaths (runNames target config document.resolve) document.resolve := List.subset_append_left _ _
  obtain ⟨rank, bound, settled⟩ :=
    (ranked_candidates target config document ⟨config.maxTupleArity, []⟩).propagate tidy known
  unfold plan
  dsimp only
  split
  · obtain ⟨final, equal, spreads⟩ := propagate_eq_map document.resolve.failedPaths
      (candidates (runNames target config document.resolve) ⟨config.maxTupleArity, []⟩ document.resolve.items)
    refine settled.breakImportCycles.propagate ?_ known
    rw [equal, breakImportCycles_eq_map]
    exact (tidy.map fun c => (spreads c).item_eq).map fun c => (narrows_breakCycle _ c).item
  · exact ⟨rank, bound, settled⟩

/-! ## The failures of a run -/

/-- A failure for a dependency names the path of another failure. -/
def DeclarationFailure.Blames (f e : DeclarationFailure) : Prop :=
  f.fault = .dependencyFailed e.path.text

variable {target config document} {names : NameTable} {cs : List Candidate}

theorem exists_failure_of_rootPaths {p : SchemaPath} (root : p ∈ rootPaths names document.resolve) :
    ∃ e ∈ runFailures names document.resolve cs, e.path = p := by
  rcases List.mem_append.1 root with failed | unnamed
  · obtain ⟨e, reported, path, -⟩ := exists_failure_of_mem_failedPaths failed
    exact ⟨e, List.mem_append_left _ (List.mem_append_left _ reported), path⟩
  · obtain ⟨f, failed, rfl⟩ := List.mem_map.1 unnamed
    exact ⟨_, List.mem_append_left _ (List.mem_append_right _ (List.mem_map_of_mem failed)), rfl⟩

theorem exists_failure_of_failedPaths {p : SchemaPath} (failed : p ∈ failedPaths cs) :
    ∃ e ∈ runFailures names document.resolve cs, e.path = p := by
  obtain ⟨c, member, out, rfl⟩ := mem_failedPaths.1 failed
  obtain ⟨fault, status⟩ := not_isReady_iff.1 out
  refine ⟨⟨c.path, fault⟩, List.mem_append_right _ (List.mem_filterMap.2 ⟨c, member, ?_⟩), rfl⟩
  rw [failure?, fault?, status]
  rfl

/-- A text that is blamed belongs to no item but the one that is meant. -/
theorem rank_lt_of_text {roots : List SchemaPath} {rank : SchemaPath → Nat} {bound n : Nat}
    (ranked : Ranked roots rank bound (plan target config names document.resolve)) {p q : SchemaPath}
    (reads : p.ReadsBack) (same : q.text = p.text) (lower : rank p < n) : rank q < n := by
  by_cases stands : q ∈ (plan target config names document.resolve).map (·.path)
  · obtain ⟨c, member, rfl⟩ := List.mem_map.1 stands
    have meant : c.path = p := (readsBack_of_mem_items (item_of_mem_plan member)).eq_of_text reads same
    rwa [meant]
  · rw [ranked.outside q stands]
    exact Nat.zero_lt_of_lt lower

/-- Only the failure of an item blames another one. -/
theorem exists_candidate_of_blames {f : DeclarationFailure}
    (reported : f ∈ runFailures (runNames target config document.resolve) document.resolve cs) {name : String}
    (blames : f.fault = .dependencyFailed name) :
    ∃ c ∈ cs, c.path = f.path ∧ c.status = .error (.dependencyFailed name) := by
  rcases List.mem_append.1 reported with early | late
  · rcases List.mem_append.1 early with resolution | unnamed
    · exact absurd blames (ne_dependencyFailed_of_mem_failures resolution name)
    · obtain ⟨m, failed, rfl⟩ := List.mem_map.1 unnamed
      obtain ⟨taken, takenBy, collision⟩ := isCollision_of_mem_failedModules failed
      exact absurd (collision.symm.trans blames) (by simp)
  · obtain ⟨c, member, failed⟩ := List.mem_filterMap.1 late
    refine ⟨c, member, (path_of_failure? failed).symm, ?_⟩
    obtain ⟨fault, found, rfl⟩ := Option.map_eq_some_iff.1 failed
    unfold fault? at found
    cases status : c.status with
    | ok own =>
      rw [status] at found
      exact absurd found (by simp)
    | error other =>
      rw [status] at found
      rw [Option.some.inj found, ← blames]

end

/-- A rank that descends along blame leads to what blames nothing. -/
theorem exists_root_of_rank {failures : List DeclarationFailure} {rank : DeclarationFailure → Nat}
    (named : ∀ f ∈ failures, ∀ name, f.fault = .dependencyFailed name → ∃ e ∈ failures, f.Blames e)
    (descends : ∀ f ∈ failures, ∀ e ∈ failures, f.Blames e → rank e < rank f) :
    ∀ f ∈ failures, ∃ e ∈ failures, ReflTransGen (fun f e => e ∈ failures ∧ f.Blames e) f e ∧
      ∀ name, e.fault ≠ .dependencyFailed name := by
  intro f reported
  induction height : rank f using Nat.strongRecOn generalizing f with
  | ind n ih =>
    by_cases root : ∀ name, f.fault ≠ .dependencyFailed name
    · exact ⟨f, reported, .refl, root⟩
    · obtain ⟨name, blames⟩ := not_forall_not.1 root
      obtain ⟨e, reported', blames⟩ := named f reported name blames
      obtain ⟨last, among, chain, root⟩ := ih _ (height ▸ descends f reported e reported' blames) e reported' rfl
      exact ⟨last, among, .head ⟨reported', blames⟩ chain, root⟩

/-- Every failure for a dependency names another failure of the run. There is a rank that is lower for each failure
that it names, so from every failure blame leads to one for something else. -/
theorem generate_failures_rooted (document : Document) (config : Config) (valid : config.validate = .ok ())
    (lenient : config.strict = false) :
    ∃ g, generate config document.resolve = .ok g ∧
      (∀ f ∈ g.failures, ∀ name, f.fault = .dependencyFailed name → ∃ e ∈ g.failures, e ≠ f ∧ e.path.text = name) ∧
      (∃ rank : DeclarationFailure → Nat, ∀ f ∈ g.failures, ∀ e ∈ g.failures, f.Blames e → rank e < rank f) ∧
      ∀ f ∈ g.failures, ∃ e ∈ g.failures, ReflTransGen (fun f e => e ∈ g.failures ∧ f.Blames e) f e ∧
        ∀ name, e.fault ≠ .dependencyFailed name := by
  obtain ⟨g, generated, failures, -⟩ := generateFor_of_lenient config.target.target document.resolve valid lenient
  obtain ⟨rank, bound, ranked⟩ := exists_rank_of_plan config.target.target config document
  have blamed : ∀ f ∈ g.failures, ∀ name, f.fault = .dependencyFailed name → ∃ p : SchemaPath, p.text = name ∧
      p.ReadsBack ∧ (∃ e ∈ g.failures, e.path = p) ∧ rank p < rank f.path := by
    intro f reported name blames
    rw [failures] at reported ⊢
    obtain ⟨c, member, path, status⟩ := exists_candidate_of_blames reported blames
    obtain ⟨p, text, reads, out, lower⟩ := ranked.descends c member name status
    rw [path] at lower
    exact ⟨p, text, reads, out.elim exists_failure_of_rootPaths exists_failure_of_failedPaths, lower⟩
  have descends : ∀ f ∈ g.failures, ∀ e ∈ g.failures, f.Blames e → rank e.path < rank f.path := by
    intro f reported e _ blames
    obtain ⟨p, text, reads, -, lower⟩ := blamed f reported _ blames
    exact rank_lt_of_text ranked reads text.symm lower
  have named : ∀ f ∈ g.failures, ∀ name, f.fault = .dependencyFailed name →
      ∃ e ∈ g.failures, e ≠ f ∧ e.path.text = name := by
    intro f reported name blames
    obtain ⟨p, text, -, ⟨e, reported', rfl⟩, lower⟩ := blamed f reported name blames
    exact ⟨e, reported', fun same => Nat.lt_irrefl _ (same ▸ lower), text⟩
  refine ⟨g, generated, named, ⟨fun f => rank f.path, descends⟩, exists_root_of_rank ?_ descends⟩
  intro f reported name blames
  obtain ⟨e, reported', -, rfl⟩ := named f reported name blames
  exact ⟨e, reported', blames⟩

/-- Two structs that refer to each other, and one of them also to a struct with a type that nobody declares. -/
def circularDocument : Document :=
  ⟨[.struct ⟨"A", [], [⟨"b", .option (.named "B" []), none⟩, ⟨"x", .named "X" [], none⟩], none⟩,
    .struct ⟨"B", [], [⟨"a", .option (.named "A" []), none⟩], none⟩,
    .struct ⟨"X", [], [⟨"y", .named "Y" [], none⟩], none⟩]⟩

theorem circular_failures_rooted :
    ∃ g, generate {} circularDocument.resolve = .ok g ∧
      g.failures = [⟨⟨["X"]⟩, .unknownType "Y"⟩, ⟨⟨["A"]⟩, .dependencyFailed "X"⟩,
        ⟨⟨["B"]⟩, .dependencyFailed "A"⟩] ∧
      ∃ rank : DeclarationFailure → Nat, ∀ f ∈ g.failures, ∀ e ∈ g.failures, f.Blames e → rank e < rank f := by
  have valid : Config.validate {} = .ok () := by decide +kernel
  obtain ⟨g, generated, -, ranks, -⟩ := generate_failures_rooted circularDocument {} valid rfl
  have returned : (generate {} circularDocument.resolve).toOption.map (·.failures) =
      some [⟨⟨["X"]⟩, .unknownType "Y"⟩, ⟨⟨["A"]⟩, .dependencyFailed "X"⟩, ⟨⟨["B"]⟩, .dependencyFailed "A"⟩] := by
    decide +kernel
  rw [generated] at returned
  exact ⟨g, generated, Option.some.inj returned, ranks⟩

end SchemaBindings
