import SchemaBindings.Generation.Dependency

/-!
# Propagation of failures

`propagate` ends with candidates of which no ready one refers to a failed path, whatever the references are
and however they lead back to each other.

* A round changes a candidate in one way only (`SpreadsTo`): a ready one fails for one of its references.
* `Frontier known frontier cs`: of the failed paths, the ready candidates can only refer to those of the
  last round. A round keeps this (`frontier_step`), and a round that fails nothing leaves no reference.
* Every round before the last one has a ready candidate less (`readyCount_spread`), so the rounds end
  before their number is used up.
-/

namespace SchemaBindings

namespace Candidate

@[simp] theorem isReady_fail (c : Candidate) (fault : Fault) : (c.fail fault).isReady = false :=
  rfl

theorem isReady_iff {c : Candidate} : c.isReady = true ↔ ∃ names, c.status = .ok names := by
  unfold isReady
  cases c.status <;> simp

theorem not_isReady_iff {c : Candidate} : c.isReady = false ↔ ∃ fault, c.status = .error fault := by
  unfold isReady
  cases c.status <;> simp

/-! ## One candidate in one round -/

/-- What rounds can make of a candidate: nothing changes, or a ready one fails for a reference. -/
inductive SpreadsTo (c : Candidate) : Candidate → Prop
  | kept : c.SpreadsTo c
  | failed {p : SchemaPath} : c.isReady = true → p ∈ c.references →
      c.SpreadsTo (c.fail (.dependencyFailed p.text))

theorem SpreadsTo.trans {c d e : Candidate} (first : c.SpreadsTo d) (second : d.SpreadsTo e) :
    c.SpreadsTo e := by
  cases first with
  | kept => exact second
  | failed ready member =>
    cases second with
    | kept => exact .failed ready member
    | failed ready' _ => exact absurd ready' (Bool.eq_false_iff.1 (c.isReady_fail _))

theorem SpreadsTo.item_eq {c d : Candidate} (spreads : c.SpreadsTo d) : d.item = c.item := by
  cases spreads <;> rfl

theorem SpreadsTo.eq_of_isReady {c d : Candidate} (spreads : c.SpreadsTo d)
    (ready : d.isReady = true) : d = c := by
  cases spreads with
  | kept => rfl
  | failed _ _ => exact absurd ready (Bool.eq_false_iff.1 (c.isReady_fail _))

theorem mem_references_of_failedReference? {c : Candidate} {failed : List SchemaPath}
    {p : SchemaPath} (found : c.failedReference? failed = some p) : p ∈ c.references ∧ p ∈ failed :=
  ⟨List.mem_of_find?_eq_some found, by simpa using List.find?_some found⟩

theorem not_mem_of_failedReference?_eq_none {c : Candidate} {failed : List SchemaPath}
    (none : c.failedReference? failed = none) : ∀ p ∈ c.references, p ∉ failed := by
  simpa [failedReference?] using none

theorem spreadsTo_blame (failed : List SchemaPath) (c : Candidate) :
    c.SpreadsTo (c.blame failed) := by
  unfold blame
  split
  · next ready =>
    split
    · next p found => exact .failed ready (mem_references_of_failedReference? found).1
    · exact .kept
  · exact .kept

theorem isReady_blame {failed : List SchemaPath} {c : Candidate} :
    (c.blame failed).isReady = (c.isReady && (c.failedReference? failed).isNone) := by
  unfold blame
  split
  · next ready => cases found : c.failedReference? failed <;> simp [ready]
  · next out => simp [out]

end Candidate

open Candidate

/-! ## All candidates in one round -/

def readyCount (cs : List Candidate) : Nat :=
  cs.countP (·.isReady)

/-- A round has as many ready candidates less as fail in it. -/
theorem readyCount_spread (failed : List SchemaPath) (cs : List Candidate) :
    readyCount (spread failed cs) + (newlyFailed failed cs).length = readyCount cs := by
  have stays : readyCount (spread failed cs) =
      cs.countP fun c => c.isReady && (c.failedReference? failed).isNone := by
    rw [readyCount, spread, List.countP_map]
    exact List.countP_congr fun c _ => by rw [Function.comp, isReady_blame]
  rw [stays, newlyFailed, List.length_map, ← List.countP_eq_length_filter, readyCount]
  clear stays
  induction cs with
  | nil => rfl
  | cons c cs ih =>
    simp only [List.countP_cons]
    have one : ((if c.isReady && (c.failedReference? failed).isNone then 1 else 0) +
        if c.isReady && (c.failedReference? failed).isSome then 1 else 0) =
        if c.isReady then 1 else 0 := by
      cases c.isReady <;> cases c.failedReference? failed <;> rfl
    omega

theorem mem_failedPaths {cs : List Candidate} {p : SchemaPath} :
    p ∈ failedPaths cs ↔ ∃ c ∈ cs, c.isReady = false ∧ c.path = p := by
  simp [failedPaths, and_assoc]

/-- A candidate that is ready before a round and out after it has failed in it. -/
theorem mem_newlyFailed {frontier : List SchemaPath} {cs : List Candidate} {c : Candidate} (member : c ∈ cs)
    (ready : c.isReady = true) (out : (c.blame frontier).isReady = false) : c.path ∈ newlyFailed frontier cs := by
  refine List.mem_map_of_mem (List.mem_filter.2 ⟨member, ?_⟩)
  rw [isReady_blame, ready, Bool.true_and, Option.isNone_eq_false_iff] at out
  rw [ready, Bool.true_and, out]

/-- The paths in `known` have failed, those of `frontier` in the last round, and of the paths that have failed
a ready candidate can only refer to those. -/
structure Frontier (known frontier : List SchemaPath) (cs : List Candidate) : Prop where
  out : ∀ c ∈ cs, c.isReady = false → c.path ∈ known
  fresh : ∀ c ∈ cs, c.isReady = true → ∀ p ∈ c.references, p ∈ known → p ∈ frontier

theorem frontier_step {known frontier : List SchemaPath} {cs : List Candidate}
    (h : Frontier known frontier cs) :
    Frontier (known ++ newlyFailed frontier cs) (newlyFailed frontier cs) (spread frontier cs) := by
  constructor
  · intro d member out
    obtain ⟨c, original, rfl⟩ := List.mem_map.1 member
    rw [path, (spreadsTo_blame frontier c).item_eq, ← path]
    cases ready : c.isReady with
    | false => exact List.mem_append_left _ (h.out c original ready)
    | true => exact List.mem_append_right _ (mem_newlyFailed original ready out)
  · intro d member ready p referred failed
    obtain ⟨c, original, rfl⟩ := List.mem_map.1 member
    rw [(spreadsTo_blame frontier c).eq_of_isReady ready] at referred
    rw [isReady_blame, Bool.and_eq_true, Option.isNone_iff_eq_none] at ready
    rcases List.mem_append.1 failed with before | now
    -- A path that failed earlier is in the frontier, and the round has looked for those.
    · have last := h.fresh c original ready.1 p referred before
      exact absurd last (not_mem_of_failedReference?_eq_none ready.2 p referred)
    · exact now

/-! ## All rounds -/

theorem settle_eq_map (rounds : Nat) (failed : List SchemaPath) (cs : List Candidate) :
    ∃ final : Candidate → Candidate, settle rounds failed cs = cs.map final ∧
      ∀ c : Candidate, c.SpreadsTo (final c) := by
  induction rounds generalizing failed cs with
  | zero => exact ⟨id, by simp [settle], fun _ => .kept⟩
  | succ rounds ih =>
    unfold settle
    split
    · exact ⟨id, by simp, fun _ => .kept⟩
    · obtain ⟨final, equal, spreads⟩ := ih (newlyFailed failed cs) (spread failed cs)
      refine ⟨fun c => final (c.blame failed), ?_, fun c => ?_⟩
      · rw [equal, spread, List.map_map]
        rfl
      · exact (spreadsTo_blame failed c).trans (spreads _)

/-- With a round for each ready candidate, the frontier is empty in the end. -/
theorem settle_frontier {rounds : Nat} {known frontier : List SchemaPath} {cs : List Candidate}
    (h : Frontier known frontier cs) (enough : frontier = [] ∨ readyCount cs < rounds) :
    ∃ known', known ⊆ known' ∧ Frontier known' [] (settle rounds frontier cs) := by
  induction rounds generalizing known frontier cs with
  | zero =>
    have done : frontier = [] := enough.resolve_right (Nat.not_lt_zero _)
    subst done
    exact ⟨known, fun _ member => member, h⟩
  | succ rounds ih =>
    unfold settle
    split
    · next done =>
      subst done
      exact ⟨known, fun _ member => member, h⟩
    · next more =>
      -- A round that fails something uses up one of the ready candidates that the bound counts.
      have fewer : newlyFailed frontier cs = [] ∨ readyCount (spread frontier cs) < rounds := by
        have count := readyCount_spread frontier cs
        have bound := enough.resolve_left more
        cases fresh : newlyFailed frontier cs with
        | nil => exact .inl rfl
        | cons p ps =>
          rw [fresh, List.length_cons] at count
          exact .inr (by omega)
      obtain ⟨known', included, ended⟩ := ih (frontier_step h) fewer
      exact ⟨known', fun _ member => included (List.mem_append_left _ member), ended⟩

/-- Propagation changes each candidate on its own, and only by failing it for a reference. -/
theorem propagate_eq_map (failed : List SchemaPath) (cs : List Candidate) :
    ∃ final : Candidate → Candidate, propagate failed cs = cs.map final ∧
      ∀ c : Candidate, c.SpreadsTo (final c) :=
  settle_eq_map _ _ _

/-- No ready candidate refers to a path that has failed from the start or by propagation. -/
theorem not_mem_references_of_failed {failed : List SchemaPath} {cs : List Candidate}
    {c : Candidate} (member : c ∈ propagate failed cs) (ready : c.isReady = true)
    {p : SchemaPath} (out : p ∈ failed ∨ p ∈ failedPaths (propagate failed cs)) :
    p ∉ c.references := by
  have start : Frontier (failed ++ failedPaths cs) (failed ++ failedPaths cs) cs :=
    ⟨fun c member out => List.mem_append_right _ (mem_failedPaths.2 ⟨c, member, out, rfl⟩),
      fun _ _ _ _ _ known => known⟩
  have enough : readyCount cs < cs.length + 1 := Nat.lt_succ_of_le List.countP_le_length
  obtain ⟨known, included, ended⟩ := settle_frontier start (.inr enough)
  intro referred
  refine List.not_mem_nil (ended.fresh c member ready p referred ?_)
  rcases out with initial | later
  · exact included (List.mem_append_left _ initial)
  · obtain ⟨d, member', out', rfl⟩ := mem_failedPaths.1 later
    exact ended.out d member' out'

end SchemaBindings
