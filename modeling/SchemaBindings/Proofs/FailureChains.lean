import Mathlib.Data.List.Find
import Mathlib.Data.List.Forall2
import Mathlib.Logic.Function.Iterate
import Mathlib.Logic.Relation
import SchemaBindings.Proofs.FailurePropagation

/-!
# Chains of references to a failure

`propagate` fails a candidate exactly if a chain of references leads from it to a path that has failed
before, and blames one of the candidate's own references for it.

* `RefersTo cs c d` is a link of such a chain, and `LeadsTo cs failed c` the whole of it.
* No candidate fails without a chain. A property of paths that holds for what has failed before, and goes
  back along every reference, holds for all that rounds fail (`settle_eq_map_of_closed`).
* No chain is missed, since in the end no ready candidate refers to a failed path.
* Rounds that look for all failed paths (`spreadAll`) make the same of the candidates as rounds that look
  for those of the round before, for any number of rounds (`settle_eq_iterate`).
-/

namespace SchemaBindings

open Relation (ReflTransGen)

namespace Candidate

def RefersTo (cs : List Candidate) (c d : Candidate) : Prop :=
  d ∈ cs ∧ d.path ∈ c.references

/-- A chain of references leads from a candidate to one of the paths. -/
def LeadsTo (cs : List Candidate) (failed : List SchemaPath) (c : Candidate) : Prop :=
  ∃ d, ReflTransGen (RefersTo cs) c d ∧ ∃ p ∈ d.references, p ∈ failed

/-- What rounds can make of a candidate if they blame only paths with a property. -/
inductive SpreadsFrom (P : SchemaPath → Prop) (c : Candidate) : Candidate → Prop
  | kept : c.SpreadsFrom P c
  | failed {p : SchemaPath} : c.isReady = true → p ∈ c.references → P p →
      c.SpreadsFrom P (c.fail (.dependencyFailed p.text))

variable {P : SchemaPath → Prop} {c d e : Candidate} {failed known frontier : List SchemaPath}

theorem SpreadsFrom.spreadsTo (spreads : c.SpreadsFrom P d) : c.SpreadsTo d := by
  cases spreads with
  | kept => exact .kept
  | failed ready referred _ => exact .failed ready referred

theorem SpreadsFrom.trans (first : c.SpreadsFrom P d) (second : d.SpreadsFrom P e) :
    c.SpreadsFrom P e := by
  cases first with
  | kept => exact second
  | failed ready referred holds =>
    cases second with
    | kept => exact .failed ready referred holds
    | failed ready' _ _ => exact absurd ready' (Bool.eq_false_iff.1 (c.isReady_fail _))

theorem spreadsFrom_blame (c : Candidate) (holds : ∀ p ∈ failed, P p) :
    c.SpreadsFrom P (c.blame failed) := by
  unfold blame
  split
  · next ready =>
    split
    · next p found =>
      obtain ⟨referred, member⟩ := mem_references_of_failedReference? found
      exact .failed ready referred (holds p member)
    · exact .kept
  · exact .kept

theorem SpreadsTo.eq_of_not_isReady (spreads : c.SpreadsTo d) (out : c.isReady = false) : d = c := by
  cases spreads with
  | kept => rfl
  | failed ready _ => exact absurd ready (by simp [out])

/-- Only the paths that a ready candidate refers to matter in a round. -/
theorem blame_congr (same : c.isReady = true → ∀ p ∈ c.references, (p ∈ known ↔ p ∈ frontier)) :
    c.blame known = c.blame frontier := by
  unfold blame
  split
  · next ready =>
    have found : c.failedReference? known = c.failedReference? frontier :=
      List.find?_congr fun p referred => by simp only [same ready p referred]
    rw [found]
  · rfl

theorem blame_nil (c : Candidate) : c.blame [] = c := by
  have none : c.failedReference? [] = none := by simp [failedReference?]
  simp [blame, none]

end Candidate

open Candidate

variable {failed frontier : List SchemaPath} {cs : List Candidate}

/-! ## What rounds blame -/

/-- A property that holds for the paths a run begins with, and for every candidate that refers to a path it
holds for, holds for every path that is blamed. -/
theorem settle_eq_map_of_closed {P : SchemaPath → Prop} (rounds : Nat)
    (holds : ∀ p ∈ frontier, P p) (closed : ∀ c ∈ cs, ∀ p ∈ c.references, P p → P c.path) :
    ∃ final : Candidate → Candidate, settle rounds frontier cs = cs.map final ∧
      ∀ c ∈ cs, c.SpreadsFrom P (final c) := by
  induction rounds generalizing frontier cs with
  | zero => exact ⟨id, by simp [settle], fun _ _ => .kept⟩
  | succ rounds ih =>
    unfold settle
    split
    · exact ⟨id, by simp, fun _ _ => .kept⟩
    · have fresh : ∀ p ∈ newlyFailed frontier cs, P p := by
        intro p member
        obtain ⟨c, kept, rfl⟩ := List.mem_map.1 member
        obtain ⟨original, blamed⟩ := List.mem_filter.1 kept
        rw [Bool.and_eq_true] at blamed
        obtain ⟨q, found⟩ := Option.isSome_iff_exists.1 blamed.2
        obtain ⟨referred, before⟩ := mem_references_of_failedReference? found
        exact closed c original q referred (holds q before)
      have closed' : ∀ c ∈ spread frontier cs, ∀ p ∈ c.references, P p → P c.path := by
        intro d member
        obtain ⟨c, original, rfl⟩ := List.mem_map.1 member
        rw [references, path, (spreadsTo_blame frontier c).item_eq]
        exact closed c original
      obtain ⟨final, equal, spreads⟩ := ih fresh closed'
      refine ⟨fun c => final (c.blame frontier), ?_, fun c member => ?_⟩
      · rw [equal, spread, List.map_map]
        rfl
      · exact (spreadsFrom_blame c holds).trans (spreads _ (List.mem_map_of_mem member))

/-! ## Rounds that look for all failed paths -/

/-- One round in which every ready candidate looks for all paths that have failed so far. -/
def spreadAll (failed : List SchemaPath) (cs : List Candidate) : List Candidate :=
  spread (failed ++ failedPaths cs) cs

theorem mem_failedPaths_spread {p : SchemaPath} :
    p ∈ failedPaths (spread frontier cs) ↔ p ∈ failedPaths cs ∨ p ∈ newlyFailed frontier cs := by
  have blamed (c : Candidate) : (c.blame frontier).isReady = false ↔
      c.isReady = false ∨ c.isReady = true ∧ (c.failedReference? frontier).isSome = true := by
    rw [isReady_blame]
    cases c.isReady <;> cases c.failedReference? frontier <;> simp
  have kept (c : Candidate) : (c.blame frontier).path = c.path := by
    rw [path, (spreadsTo_blame frontier c).item_eq, path]
  simp only [mem_failedPaths, spread, newlyFailed, List.mem_map, List.mem_filter, Bool.and_eq_true]
  constructor
  · rintro ⟨_, ⟨c, member, rfl⟩, out, rfl⟩
    rcases (blamed c).1 out with before | now
    · exact .inl ⟨c, member, before, (kept c).symm⟩
    · exact .inr ⟨c, ⟨member, now⟩, (kept c).symm⟩
  · rintro (⟨c, member, before, rfl⟩ | ⟨c, ⟨member, now⟩, rfl⟩)
    · exact ⟨_, ⟨c, member, rfl⟩, (blamed c).2 (.inl before), kept c⟩
    · exact ⟨_, ⟨c, member, rfl⟩, (blamed c).2 (.inr now), kept c⟩

theorem spread_eq_spreadAll (start : Frontier (failed ++ failedPaths cs) frontier cs)
    (known : frontier ⊆ failed ++ failedPaths cs) : spread frontier cs = spreadAll failed cs :=
  List.map_congr_left fun c member => blame_congr fun ready p referred =>
    ⟨fun last => known last, fun before => start.fresh c member ready p referred before⟩

/-- It makes no difference whether rounds look for all failed paths or for those of the round before. -/
theorem settle_eq_iterate (rounds : Nat) (start : Frontier (failed ++ failedPaths cs) frontier cs)
    (known : frontier ⊆ failed ++ failedPaths cs) :
    settle rounds frontier cs = (spreadAll failed)^[rounds] cs := by
  induction rounds generalizing frontier cs with
  | zero => rfl
  | succ rounds ih =>
    have round := spread_eq_spreadAll start known
    unfold settle
    split
    · next done =>
      subst done
      have still : spreadAll failed cs = cs := by
        rw [← round, spread]
        exact List.map_id'' blame_nil cs
      exact (Function.iterate_fixed still _).symm
    · have more (p : SchemaPath) : p ∈ failed ++ failedPaths (spread frontier cs) ↔
          p ∈ (failed ++ failedPaths cs) ++ newlyFailed frontier cs := by
        simp only [List.mem_append, mem_failedPaths_spread, or_assoc]
      have next : Frontier (failed ++ failedPaths (spread frontier cs)) (newlyFailed frontier cs)
          (spread frontier cs) :=
        ⟨fun c member out => (more _).2 ((frontier_step start).out c member out),
          fun c member ready p referred before =>
            (frontier_step start).fresh c member ready p referred ((more p).1 before)⟩
      rw [ih next fun p fresh => (more p).2 (List.mem_append_right _ fresh), Function.iterate_succ_apply,
        round]

/-- Nothing changes in a round after the last one. -/
theorem spreadAll_propagate (failed : List SchemaPath) (cs : List Candidate) :
    spreadAll failed (propagate failed cs) = propagate failed cs := by
  calc spreadAll failed (propagate failed cs)
    _ = (propagate failed cs).map (·.blame []) :=
        List.map_congr_left fun c member => blame_congr fun ready p referred =>
          ⟨fun out => absurd referred
            (not_mem_references_of_failed member ready (List.mem_append.1 out)), by simp⟩
    _ = propagate failed cs := List.map_id'' blame_nil _

theorem propagate_eq_iterate {rounds : Nat} (enough : cs.length < rounds) :
    (spreadAll failed)^[rounds] cs = propagate failed cs := by
  have start : Frontier (failed ++ failedPaths cs) (failed ++ failedPaths cs) cs :=
    ⟨fun c member out => List.mem_append_right _ (mem_failedPaths.2 ⟨c, member, out, rfl⟩),
      fun _ _ _ _ _ known => known⟩
  have first : (spreadAll failed)^[cs.length + 1] cs = propagate failed cs :=
    (settle_eq_iterate _ start (List.Subset.refl _)).symm
  obtain ⟨more, rfl⟩ := Nat.exists_eq_add_of_lt enough
  rw [show cs.length + more + 1 = more + (cs.length + 1) by omega, Function.iterate_add_apply, first,
    Function.iterate_fixed (spreadAll_propagate failed cs)]

/-! ## What becomes of a candidate -/

/-- A path that has failed before, or that of a candidate from which a chain leads to one that has. -/
def Lost (failed : List SchemaPath) (cs : List Candidate) (p : SchemaPath) : Prop :=
  p ∈ failed ++ failedPaths cs ∨ ∃ c ∈ cs, c.path = p ∧ c.LeadsTo cs (failed ++ failedPaths cs)

theorem Lost.leadsTo {c : Candidate} {p : SchemaPath} (referred : p ∈ c.references)
    (lost : Lost failed cs p) : c.LeadsTo cs (failed ++ failedPaths cs) := by
  rcases lost with before | ⟨d, other, rfl, e, chain, ends⟩
  · exact ⟨c, .refl, p, referred, before⟩
  · exact ⟨e, .head ⟨other, referred⟩ chain, ends⟩

/-- What propagation from the paths in `failed` makes of a candidate. -/
structure Propagated (failed : List SchemaPath) (cs : List Candidate) (c d : Candidate) : Prop where
  item : d.item = c.item
  /-- The chain ends at a path that has failed before. -/
  failed_iff : d.isReady = false ↔ c.isReady = false ∨ c.LeadsTo cs (failed ++ failedPaths cs)
  kept : c.isReady = false ∨ d.isReady = true → d.status = c.status
  blamed : c.isReady = true → d.isReady = false →
    ∃ p ∈ c.references, (p ∈ failed ∨ p ∈ failedPaths (propagate failed cs)) ∧
      d.status = .error (.dependencyFailed p.text)

section Final

variable {final : Candidate → Candidate} (equal : propagate failed cs = cs.map final)
  (spreads : ∀ c : Candidate, c.SpreadsTo (final c)) {c : Candidate}

include equal spreads

/-- Whoever refers to what has failed in the end has failed too. -/
theorem not_isReady_of_refers (member : c ∈ cs) {p : SchemaPath} (referred : p ∈ c.references)
    (out : p ∈ failed ∨ p ∈ failedPaths (propagate failed cs)) : (final c).isReady = false := by
  refine Bool.eq_false_iff.2 fun ready => ?_
  have same := (spreads c).eq_of_isReady ready
  have ends : final c ∈ propagate failed cs := equal ▸ List.mem_map_of_mem member
  exact not_mem_references_of_failed ends ready out (by rwa [same])

theorem mem_failedPaths_of_final (member : c ∈ cs) (out : (final c).isReady = false) :
    c.path ∈ failedPaths (propagate failed cs) := by
  refine mem_failedPaths.2 ⟨final c, equal ▸ List.mem_map_of_mem member, out, ?_⟩
  rw [path, (spreads c).item_eq, path]

theorem out_of_before {p : SchemaPath} (before : p ∈ failed ++ failedPaths cs) :
    p ∈ failed ∨ p ∈ failedPaths (propagate failed cs) := by
  refine (List.mem_append.1 before).imp_right fun kept => ?_
  obtain ⟨c, member, out, rfl⟩ := mem_failedPaths.1 kept
  exact mem_failedPaths_of_final equal spreads member (by rw [(spreads c).eq_of_not_isReady out, out])

/-- A chain to a failure fails the candidate it starts at: from its end to its start, each link refers to
what has failed. -/
theorem not_isReady_of_leadsTo (member : c ∈ cs) (leads : c.LeadsTo cs (failed ++ failedPaths cs)) :
    (final c).isReady = false := by
  obtain ⟨d, chain, p, referred, before⟩ := leads
  induction chain using ReflTransGen.head_induction_on with
  | refl => exact not_isReady_of_refers equal spreads member referred (out_of_before equal spreads before)
  | head link _ ih =>
    have out := mem_failedPaths_of_final equal spreads link.1 (ih link.1)
    exact not_isReady_of_refers equal spreads member link.2 (.inr out)

end Final

/-- Propagation is what is left when rounds over all failed paths are repeated, as often as one likes beyond
the number of candidates. It fails exactly those from which a chain of references leads to a path that has
failed before, leaves the others and those that had failed as they were, and blames a failed reference. -/
theorem propagate_fails_iff_chain (failed : List SchemaPath) (cs : List Candidate) :
    (∀ rounds, cs.length < rounds → (spreadAll failed)^[rounds] cs = propagate failed cs) ∧
      spreadAll failed (propagate failed cs) = propagate failed cs ∧
      List.Forall₂ (Propagated failed cs) cs (propagate failed cs) := by
  refine ⟨fun _ enough => propagate_eq_iterate enough, spreadAll_propagate failed cs, ?_⟩
  obtain ⟨final, equal, spreads⟩ := propagate_eq_map failed cs
  obtain ⟨final', equal', lost⟩ : ∃ final' : Candidate → Candidate,
      propagate failed cs = cs.map final' ∧ ∀ c ∈ cs, c.SpreadsFrom (Lost failed cs) (final' c) :=
    settle_eq_map_of_closed _ (fun _ before => .inl before)
      fun c member p referred lost => .inr ⟨c, member, rfl, lost.leadsTo referred⟩
  rw [equal', List.forall₂_map_right_iff, List.forall₂_same]
  intro c member
  have same : final c = final' c := List.map_inj_left.1 (equal.symm.trans equal') c member
  have chain := lost c member
  refine ⟨chain.spreadsTo.item_eq, ⟨fun out => ?_, ?_⟩, ?_, fun ready out => ?_⟩
  · generalize final' c = d at chain out
    cases chain with
    | kept => exact .inl out
    | failed _ referred lost => exact .inr (lost.leadsTo referred)
  · rintro (out | leads)
    · rw [chain.spreadsTo.eq_of_not_isReady out, out]
    · exact same ▸ not_isReady_of_leadsTo equal spreads member leads
  · rintro (out | ready)
    · rw [chain.spreadsTo.eq_of_not_isReady out]
    · rw [chain.spreadsTo.eq_of_isReady ready]
  · generalize final' c = d at chain out
    cases chain with
    | kept => exact absurd ready (by simp [out])
    | failed _ referred lost =>
      refine ⟨_, referred, ?_, rfl⟩
      rcases lost with before | ⟨e, other, rfl, leads⟩
      · exact out_of_before equal spreads before
      · have out := not_isReady_of_leadsTo equal spreads other leads
        exact .inr (mem_failedPaths_of_final equal spreads other out)

end SchemaBindings
