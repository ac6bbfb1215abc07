import Mathlib.Data.List.Induction
import Mathlib.Data.List.Nodup
import SchemaBindings.Naming.Table
import SchemaBindings.Proofs.Outcomes

/-!
# Atomic claims

The variants of a union claim their names together, in two passes over the list. The first only looks
(`Namespace.checkFree`). The second claims one name after the other in a namespace that grows with each claim, and a
fault in it would leave the names in front claimed. That this never happens is the work of the first pass:

* It succeeds exactly for names that are free and distinct (`checkFree_eq_ok_iff`), and stops at the first that is not
  (`checkFree_eq_error_iff`).
* Behind it no claim of the second pass fails (`run_forM_claim`, `exists_run_claim`).
* So both passes come to one step that adds all of the names or none (`Namespace.claimAll`, `run_claimAll`).

A union that fails therefore leaves the namespace as it was, and makes no difference to the names of the others
(`eraseIdx_nameUnions`).
-/

namespace SchemaBindings

namespace Namespace

/-! ## Names that are taken -/

/-- The names that are taken, the latest claim first. -/
def names (ns : Namespace) : List String :=
  ns.claims.map (·.1)

variable {ns ns' : Namespace} {names : List String} {name owner : String} {fault : Fault}

theorem holder?_eq_none_iff : ns.holder? name = none ↔ name ∉ ns.names := by
  unfold holder? names
  rw [List.lookup_eq_none_iff, List.mem_map]
  constructor
  · rintro other ⟨claim, member, rfl⟩
    exact absurd (other claim member) (by simp)
  · intro free claim member
    exact bne_iff_ne.2 fun same => free ⟨claim, member, same.symm⟩

theorem mem_names_iff : name ∈ ns.names ↔ ∃ label, ns.holder? name = some label := by
  rw [← Option.isSome_iff_exists, Option.isSome_iff_ne_none, Ne, holder?_eq_none_iff, not_not]

theorem claim_eq_ok_iff :
    ns.claim name owner = .ok ns' ↔ name ∉ ns.names ∧ ns' = ⟨(name, owner) :: ns.claims⟩ := by
  unfold claim
  rw [← holder?_eq_none_iff]
  cases ns.holder? name <;> simp [eq_comm]

theorem holder?_of_claim (claimed : ns.claim name owner = .ok ns') (other : String) :
    ns'.holder? other = if name = other then some owner else ns.holder? other := by
  obtain ⟨-, rfl⟩ := claim_eq_ok_iff.1 claimed
  unfold holder?
  rw [List.lookup_cons]
  by_cases same : name = other
  · simp [same]
  · rw [if_neg same, beq_false_of_ne (Ne.symm same)]

theorem holder?_eq_none_of_claim (claimed : ns.claim name owner = .ok ns') : ns.holder? name = none :=
  holder?_eq_none_iff.2 (claim_eq_ok_iff.1 claimed).1

theorem exists_holder_of_claim (failed : ns.claim name owner = .error fault) :
    ∃ takenBy, ns.holder? name = some takenBy ∧ fault = .namingCollision name takenBy := by
  unfold claim at failed
  cases held : ns.holder? name with
  | none =>
    rw [held] at failed
    exact absurd failed (by simp)
  | some takenBy =>
    rw [held] at failed
    cases failed
    exact ⟨takenBy, rfl, rfl⟩

/-! ## The first pass -/

theorem checkFree_append (ns : Namespace) (owner : String) (before front names : List String) :
    ns.checkFree owner before (front ++ names) =
      ns.checkFree owner before front >>= fun _ => ns.checkFree owner (front.reverse ++ before) names := by
  induction front generalizing before with
  | nil => rfl
  | cons name front ih =>
    rw [List.cons_append, checkFree, checkFree]
    cases ns.holder? name with
    | some takenBy => rfl
    | none =>
      dsimp only
      split
      · rfl
      · rw [ih, List.reverse_cons, List.append_assoc]
        rfl

/-- The first pass succeeds exactly for names that are free and distinct. -/
theorem checkFree_eq_ok_iff {before : List String} :
    ns.checkFree owner before names = .ok () ↔
      names.Nodup ∧ ∀ name ∈ names, name ∉ before ∧ name ∉ ns.names := by
  induction names generalizing before with
  | nil => simp [checkFree]
  | cons name names ih =>
    have step : ns.checkFree owner before (name :: names) = .ok () ↔
        (name ∉ before ∧ name ∉ ns.names) ∧ ns.checkFree owner (name :: before) names = .ok () := by
      rw [checkFree, ← holder?_eq_none_iff]
      cases ns.holder? name with
      | some takenBy => simp
      | none => by_cases listed : name ∈ before <;> simp [listed]
    rw [step, ih, List.nodup_cons, List.forall_mem_cons]
    -- For the names behind, this one counts among those in front.
    constructor
    · rintro ⟨first, distinct, rest⟩
      refine ⟨⟨fun again => (rest name again).1 List.mem_cons_self, distinct⟩, first, fun n member => ?_⟩
      exact (rest n member).imp_left fun unlisted listed => unlisted (List.mem_cons_of_mem _ listed)
    · rintro ⟨⟨single, distinct⟩, first, rest⟩
      refine ⟨first, distinct, fun n member => ⟨fun listed => ?_, (rest n member).2⟩⟩
      rcases List.mem_cons.1 listed with rfl | earlier
      · exact single member
      · exact (rest n member).1 earlier

theorem checkFree_nil_eq_ok_iff :
    ns.checkFree owner [] names = .ok () ↔ names.Nodup ∧ ∀ name ∈ names, ns.holder? name = none := by
  simp [checkFree_eq_ok_iff, holder?_eq_none_iff]

/-- Behind names that pass, the first pass goes on with these as the ones in front. -/
theorem checkFree_behind {front : List String} (distinct : front.Nodup)
    (free : ∀ name ∈ front, ns.holder? name = none) (owner : String) (rest : List String) :
    ns.checkFree owner [] (front ++ rest) = ns.checkFree owner front.reverse rest := by
  rw [checkFree_append, checkFree_nil_eq_ok_iff.2 ⟨distinct, free⟩, List.append_nil]
  rfl

/-- Why names cannot be claimed together: for the first of them that is not free, and the fault says who holds it. -/
inductive Refused (ns : Namespace) (names : List String) (owner : String) : Fault → Prop
  /-- The name was taken before. -/
  | taken {front back : List String} {name takenBy : String} : names = front ++ name :: back →
      front.Nodup → (∀ n ∈ front, ns.holder? n = none) → ns.holder? name = some takenBy →
      Refused ns names owner (.namingCollision name takenBy)
  /-- The name stands in the list before, so its holder would be the owner. -/
  | repeated {front back : List String} {name : String} : names = front ++ name :: back →
      front.Nodup → (∀ n ∈ front, ns.holder? n = none) → name ∈ front →
      Refused ns names owner (.namingCollision name owner)

theorem Refused.append (refused : ns.Refused names owner fault) (more : List String) :
    ns.Refused (names ++ more) owner fault := by
  cases refused with
  | taken split distinct free held => exact .taken (by rw [split, List.append_assoc]; rfl) distinct free held
  | repeated split distinct free again => exact .repeated (by rw [split, List.append_assoc]; rfl) distinct free again

theorem refused_of_checkFree (failed : ns.checkFree owner [] names = .error fault) :
    ns.Refused names owner fault := by
  -- The list from its end: either it stops in the part in front, or there is only the last name left.
  induction names using List.reverseRecOn with
  | nil => exact absurd failed (by simp [checkFree])
  | append_singleton front name ih =>
    cases passed : ns.checkFree owner [] front with
    | error earlier =>
      rw [checkFree_append, passed] at failed
      cases failed
      exact (ih passed).append [name]
    | ok _ =>
      obtain ⟨distinct, free⟩ := checkFree_nil_eq_ok_iff.1 passed
      rw [checkFree_behind distinct free, checkFree] at failed
      split at failed
      · next takenBy held =>
        cases failed
        exact .taken rfl distinct free held
      · split at failed
        · next again =>
          cases failed
          exact .repeated rfl distinct free (List.mem_reverse.1 again)
        · exact absurd failed (by simp [checkFree])

/-- The first pass stops at the first name that cannot be claimed. -/
theorem checkFree_eq_error_iff :
    ns.checkFree owner [] names = .error fault ↔ ns.Refused names owner fault := by
  refine ⟨refused_of_checkFree, fun refused => ?_⟩
  cases refused with
  | taken split distinct free held => rw [split, checkFree_behind distinct free, checkFree, held]
  | @repeated front _ name split distinct free again =>
    rw [split, checkFree_behind distinct free, checkFree, free name again]
    exact if_pos (List.mem_reverse.2 again)

/-! ## All in one step -/

/-- The namespace in which further names are taken, all of them for one owner. -/
def holding (ns : Namespace) (names : List String) (owner : String) : Namespace :=
  ⟨(names.map fun name => (name, owner)).reverse ++ ns.claims⟩

theorem holding_append (ns : Namespace) (names more : List String) (owner : String) :
    (ns.holding names owner).holding more owner = ns.holding (names ++ more) owner := by
  simp [holding]

@[simp] theorem names_holding (ns : Namespace) (names : List String) (owner : String) :
    (ns.holding names owner).names = names.reverse ++ ns.names := by
  simp [Namespace.names, holding, Function.comp_def]

theorem eq_holding_iff :
    ns' = ns.holding names owner ↔
      ns'.claims = (names.map fun name => (name, owner)).reverse ++ ns.claims :=
  ⟨fun same => same ▸ rfl, fun same => congrArg Namespace.mk same⟩

theorem holder?_holding (ns : Namespace) (names : List String) (owner name : String) :
    (ns.holding names owner).holder? name = if name ∈ names then some owner else ns.holder? name := by
  -- The last name of the list is the latest claim, which a look-up meets first.
  induction names using List.reverseRecOn with
  | nil => rfl
  | append_singleton names last ih =>
    rw [← holding_append]
    change List.lookup name ((last, owner) :: (ns.holding names owner).claims) = _
    rw [List.lookup_cons]
    by_cases same : name = last
    · simp [same]
    · have listed : name ∈ names ++ [last] ↔ name ∈ names := by simp [same]
      rw [beq_false_of_ne same, if_congr listed rfl rfl]
      exact ih

/-- Claims several names for one owner, all of them or none. -/
def claimAll (ns : Namespace) (names : List String) (owner : String) : Except Fault Namespace := do
  ns.checkFree owner [] names
  return ns.holding names owner

theorem claimAll_eq_ok_iff :
    ns.claimAll names owner = .ok ns' ↔
      names.Nodup ∧ (∀ name ∈ names, name ∉ ns.names) ∧ ns' = ns.holding names owner := by
  unfold claimAll
  simp only [bind_eq_ok, exists_unit_iff, checkFree_eq_ok_iff, pure_eq_ok, List.not_mem_nil, not_false_eq_true,
    true_and, eq_comm (b := ns'), and_assoc]

/-- Names can be claimed together exactly if they are distinct and free. -/
theorem exists_claimAll_iff (owner : String) :
    (∃ ns', ns.claimAll names owner = .ok ns') ↔ names.Nodup ∧ ∀ name ∈ names, name ∉ ns.names := by
  simp only [claimAll_eq_ok_iff, exists_and_left, exists_eq, and_true]

theorem claimAll_eq_error_iff : ns.claimAll names owner = .error fault ↔ ns.Refused names owner fault := by
  rw [← checkFree_eq_error_iff, claimAll]
  cases ns.checkFree owner [] names with
  | error earlier =>
    change Except.error earlier = _ ↔ _
    rw [Except.error.injEq, Except.error.injEq]
  | ok _ => exact iff_of_false (fun failed => nomatch failed) fun failed => nomatch failed

/-- A failed claim names one of the names that is taken, or is claimed twice. -/
theorem claimAll_eq_error (failed : ns.claimAll names owner = .error fault) :
    ∃ name ∈ names, (∃ takenBy, ns.holder? name = some takenBy ∧
        fault = .namingCollision name takenBy) ∨
      2 ≤ names.count name ∧ fault = .namingCollision name owner := by
  cases claimAll_eq_error_iff.1 failed with
  | @taken _ _ name takenBy split _ _ held =>
    exact ⟨name, by simp [split], .inl ⟨takenBy, held, rfl⟩⟩
  | @repeated front _ name split _ _ again =>
    refine ⟨name, by simp [split], .inr ⟨?_, rfl⟩⟩
    have once : 0 < front.count name := List.count_pos_iff.2 again
    rw [split, List.count_append, List.count_cons_self]
    omega

/-- What a step leaves that changes the namespace if it succeeds, and only then. -/
def settled (ns : Namespace) : Except Fault Namespace → EStateM.Result Fault Namespace Unit
  | .error fault => .error fault ns
  | .ok ns' => .ok () ns'

theorem settled_eq_ok_iff {step : Except Fault Namespace} : ns.settled step = .ok () ns' ↔ step = .ok ns' := by
  cases step <;> simp [settled]

theorem settled_eq_error_iff {step : Except Fault Namespace} :
    ns.settled step = .error fault ns' ↔ ns' = ns ∧ step = .error fault := by
  cases step <;> simp [settled, and_comm, eq_comm]

end Namespace

/-! ## The second pass -/

namespace Claiming

open Namespace

theorem run_claim (name owner : String) (ns : Namespace) :
    (claim name owner).run ns = ns.settled (ns.claim name owner) := by
  rw [claim, EStateM.run_bind, EStateM.run_get]
  dsimp only
  cases ns.claim name owner <;> rfl

theorem run_claim_of_free {ns : Namespace} {name : String} (owner : String) (free : name ∉ ns.names) :
    (claim name owner).run ns = .ok () (ns.holding [name] owner) := by
  rw [run_claim, claim_eq_ok_iff.2 ⟨free, rfl⟩]
  rfl

/-- No claim of names that are free and distinct fails, although each finds those in front of it taken. -/
theorem run_forM_claim {ns : Namespace} {names : List String} (owner : String) (distinct : names.Nodup)
    (free : ∀ name ∈ names, name ∉ ns.names) :
    (names.forM fun name => claim name owner).run ns = .ok () (ns.holding names owner) := by
  induction names generalizing ns with
  | nil => rfl
  | cons first names ih =>
    obtain ⟨single, distinct⟩ := List.nodup_cons.1 distinct
    obtain ⟨firstFree, free⟩ := List.forall_mem_cons.1 free
    -- The claim of the first name takes nothing from the others, since they differ from it.
    have still : ∀ name ∈ names, name ∉ (ns.holding [first] owner).names := by
      intro name member taken
      rw [names_holding] at taken
      rcases List.mem_cons.1 taken with rfl | before
      · exact single member
      · exact free name member before
    have tail := ih distinct still
    rw [holding_append] at tail
    change EStateM.run (claim first owner >>= fun _ => names.forM fun name => claim name owner) ns = _
    rw [EStateM.run_bind, run_claim_of_free owner firstFree]
    exact tail

/-- When its turn comes, a name is claimed in a namespace that holds those in front of it, and is none of them. -/
theorem exists_run_claim {ns : Namespace} {front back : List String} {name : String} (owner : String)
    (distinct : (front ++ name :: back).Nodup) (free : ∀ n ∈ front ++ name :: back, n ∉ ns.names) :
    ∃ between ns', (front.forM fun n => claim n owner).run ns = .ok () between ∧
      (claim name owner).run between = .ok () ns' := by
  obtain ⟨frontDistinct, -, apart⟩ := List.nodup_append.1 distinct
  have frontFree : ∀ n ∈ front, n ∉ ns.names := fun n early => free n (List.mem_append_left _ early)
  have still : name ∉ (ns.holding front owner).names := by
    rw [names_holding, List.mem_append, List.mem_reverse]
    rintro (earlier | before)
    · exact apart name earlier name List.mem_cons_self rfl
    · exact free name (List.mem_append_right _ List.mem_cons_self) before
  exact ⟨_, _, run_forM_claim owner frontDistinct frontFree, run_claim_of_free owner still⟩

/-- Claimed in place, names come to the same as in one step: the second pass does not fail where the first has not. -/
theorem run_claimAll (names : List String) (owner : String) (ns : Namespace) :
    (claimAll names owner).run ns = ns.settled (ns.claimAll names owner) := by
  rw [claimAll, EStateM.run_bind, EStateM.run_get]
  dsimp only
  rw [EStateM.run_bind, Namespace.claimAll]
  cases checked : ns.checkFree owner [] names with
  | error fault => rfl
  | ok _ =>
    obtain ⟨distinct, free⟩ := checkFree_eq_ok_iff.1 checked
    exact run_forM_claim owner distinct fun name member => (free name member).2

theorem run_check_claimAll (outcome : Except Fault Unit) (names : List String) (owner : String) (ns : Namespace) :
    (do check outcome; claimAll names owner : Claiming Unit).run ns =
      ns.settled (do outcome; ns.claimAll names owner) := by
  cases outcome with
  | error fault => rfl
  | ok _ => exact run_claimAll names owner ns

end Claiming

/-! ## One union after the other -/

section

variable (conventions : Conventions) (policy : NamingPolicy) (separator : String)
  (occurs : String → Nat)

/-- The names that the variants of a union are to take. -/
def chosenNames (u : Union TypeRef) : List String :=
  if isQualified policy occurs (flatNames conventions u) then
    qualifiedNames conventions separator u
  else flatNames conventions u

/-- The claims of one union: the fields of its variants must have names, and then the variants take theirs. -/
def claimVariants (ns : Namespace) (c : ClaimedUnion) : Except Fault Namespace := do
  c.union.variants.forM fun v => checkFieldNames conventions (c.path.text ++ "." ++ v.name) v.fields
  ns.claimAll (chosenNames conventions policy separator occurs c.union) c.path.text

/-- What the table says of one union. -/
def unionEntry (ns : Namespace) (c : ClaimedUnion) : Except Fault DeclarationNames := do
  let _ ← claimVariants conventions policy separator occurs ns c
  return ⟨c.name, chosenNames conventions policy separator occurs c.union,
    isQualified policy occurs (flatNames conventions c.union)⟩

/-- The namespace behind one union, which is the same if the union has failed. -/
def afterUnion (ns : Namespace) (c : ClaimedUnion) : Namespace :=
  (claimVariants conventions policy separator occurs ns c).toOption.getD ns

variable {conventions policy separator occurs}

theorem nameUnions_cons (ns : Namespace) (c : ClaimedUnion) (unions : List ClaimedUnion) :
    nameUnions conventions policy separator occurs ns (c :: unions) =
      (c.path, unionEntry conventions policy separator occurs ns c) ::
        nameUnions conventions policy separator occurs
          (afterUnion conventions policy separator occurs ns c) unions := by
  rw [nameUnions, ← chosenNames]
  rw [Claiming.run_check_claimAll, ← claimVariants, unionEntry, afterUnion]
  cases claimVariants conventions policy separator occurs ns c <;> rfl

theorem nameUnions_append (ns : Namespace) (us vs : List ClaimedUnion) :
    nameUnions conventions policy separator occurs ns (us ++ vs) =
      nameUnions conventions policy separator occurs ns us ++
        nameUnions conventions policy separator occurs
          (us.foldl (afterUnion conventions policy separator occurs) ns) vs := by
  induction us generalizing ns with
  | nil => rfl
  | cons c us ih =>
    rw [List.cons_append, nameUnions_cons, nameUnions_cons, ih, List.foldl_cons, List.cons_append]

theorem nameUnions_paths (occurs : String → Nat) (ns : Namespace) (unions : List ClaimedUnion) :
    (nameUnions conventions policy separator occurs ns unions).map (·.1) = unions.map (·.path) := by
  induction unions generalizing ns with
  | nil => rfl
  | cons c unions ih => rw [nameUnions_cons, List.map_cons, List.map_cons, ih]

theorem unionEntry_eq_ok {ns : Namespace} {c : ClaimedUnion} {own : DeclarationNames} :
    unionEntry conventions policy separator occurs ns c = .ok own ↔
      (∃ ns', claimVariants conventions policy separator occurs ns c = .ok ns') ∧
        own = ⟨c.name, chosenNames conventions policy separator occurs c.union,
          isQualified policy occurs (flatNames conventions c.union)⟩ := by
  simp only [unionEntry, bind_eq_ok, pure_eq_ok, exists_and_right, eq_comm (a := own)]

/-- A union that is named has taken the names of its variants. -/
theorem afterUnion_of_ok {ns : Namespace} {c : ClaimedUnion} {own : DeclarationNames}
    (named : unionEntry conventions policy separator occurs ns c = .ok own) :
    own.variants.Nodup ∧ (∀ name ∈ own.variants, name ∉ ns.names) ∧
      afterUnion conventions policy separator occurs ns c = ns.holding own.variants c.path.text := by
  obtain ⟨⟨ns', claimed⟩, rfl⟩ := unionEntry_eq_ok.1 named
  rw [afterUnion, claimed]
  rw [claimVariants, bind_eq_ok, exists_unit_iff] at claimed
  exact Namespace.claimAll_eq_ok_iff.1 claimed.2

/-- A union that fails has taken nothing. -/
theorem afterUnion_of_error {ns : Namespace} {c : ClaimedUnion} {fault : Fault}
    (failed : unionEntry conventions policy separator occurs ns c = .error fault) :
    afterUnion conventions policy separator occurs ns c = ns := by
  unfold afterUnion
  cases claimed : claimVariants conventions policy separator occurs ns c with
  | error _ => rfl
  | ok ns' =>
    have named := unionEntry_eq_ok.2 ⟨⟨ns', claimed⟩, rfl⟩
    exact absurd (failed.symm.trans named) (by simp)

/-- A union that fails makes no difference to the others. -/
theorem eraseIdx_nameUnions {ns : Namespace} {us vs : List ClaimedUnion} {c : ClaimedUnion} {fault : Fault}
    (failed : (nameUnions conventions policy separator occurs ns (us ++ c :: vs))[us.length]? =
      some (c.path, .error fault)) :
    (nameUnions conventions policy separator occurs ns (us ++ c :: vs)).eraseIdx us.length =
      nameUnions conventions policy separator occurs ns (us ++ vs) := by
  have paths : (nameUnions conventions policy separator occurs ns us).map (·.1) = us.map (·.path) :=
    nameUnions_paths occurs ns us
  have length : (nameUnions conventions policy separator occurs ns us).length = us.length := by
    simpa using congrArg List.length paths
  rw [nameUnions_append, nameUnions_cons] at failed ⊢
  rw [← length] at failed ⊢
  rw [List.getElem?_append_right (Nat.le_refl _), Nat.sub_self, List.getElem?_cons_zero, Option.some.injEq,
    Prod.mk.injEq] at failed
  -- Behind the failed union the namespace is the one in front of it, so the rest of the run is the same.
  rw [afterUnion_of_error failed.2, List.eraseIdx_append_of_length_le (Nat.le_refl _), Nat.sub_self,
    nameUnions_append]
  rfl

end

/-! ## The result -/

/-- Claiming the names of a union's variants is atomic.

* A claim fails for the first name that is taken or repeated, and leaves the namespace as it was.
* It succeeds for free and distinct names, and adds each of them for the owner.
* Behind the first pass, no claim of the second pass fails, wherever its name stands.
* So the unions behind one that fails are named as they would be without it. How often a name occurs in the module
  (`occurs`) is counted before any variant is claimed, and is the same in both runs. -/
theorem claimAll_all_or_none (ns : Namespace) (names : List String) (owner : SchemaPath) :
    (∀ fault ns', (Claiming.claimAll names owner.text).run ns = .error fault ns' ↔
      ns' = ns ∧ ns.Refused names owner.text fault) ∧
    (∀ ns', (Claiming.claimAll names owner.text).run ns = .ok () ns' ↔
      names.Nodup ∧ (∀ name ∈ names, ns.holder? name = none) ∧
        ns'.claims = (names.map fun name => (name, owner.text)).reverse ++ ns.claims) ∧
    (ns.checkFree owner.text [] names = .ok () → ∀ front name back, names = front ++ name :: back →
      ∃ between ns', (front.forM fun n => Claiming.claim n owner.text).run ns = .ok () between ∧
        (Claiming.claim name owner.text).run between = .ok () ns') ∧
    ∀ (conventions : Conventions) (policy : NamingPolicy) (separator : String) (occurs : String → Nat)
      (us vs : List ClaimedUnion) (c : ClaimedUnion) (fault : Fault),
      (nameUnions conventions policy separator occurs ns (us ++ c :: vs))[us.length]? =
          some (c.path, .error fault) →
        (nameUnions conventions policy separator occurs ns (us ++ c :: vs)).eraseIdx us.length =
          nameUnions conventions policy separator occurs ns (us ++ vs) := by
  refine ⟨fun fault ns' => ?_, fun ns' => ?_, fun passed front name back split => ?_,
    fun _ _ _ _ _ _ _ _ failed => eraseIdx_nameUnions failed⟩
  · rw [Claiming.run_claimAll, Namespace.settled_eq_error_iff, Namespace.claimAll_eq_error_iff]
  · rw [Claiming.run_claimAll, Namespace.settled_eq_ok_iff, Namespace.claimAll_eq_ok_iff, Namespace.eq_holding_iff]
    simp only [Namespace.holder?_eq_none_iff]
  · subst split
    obtain ⟨distinct, free⟩ := Namespace.checkFree_eq_ok_iff.1 passed
    exact Claiming.exists_run_claim owner.text distinct fun n member => (free n member).2

/-- Two unions with a variant `Dot`, of which the first fails where `Circle` is taken. -/
def dottedUnions : List ClaimedUnion :=
  [⟨⟨["Shape"]⟩, ⟨"Shape", [], [⟨"Dot", [], none⟩, ⟨"Circle", [], none⟩], none⟩, "Shape"⟩,
    ⟨⟨["Mark"]⟩, ⟨"Mark", [], [⟨"Dot", [], none⟩], none⟩, "Mark"⟩]

/-- The names that a module with the unions and a declaration `Circle` starts from. -/
def dottedNames : Namespace :=
  ⟨[("Mark", "Mark"), ("Shape", "Shape"), ("Circle", "Circle")]⟩

/-- `Dot` comes before the name for which the first union fails, and the second union gets it. -/
theorem dot_left_to_second :
    let conventions : Conventions := { typeName := id, constantName := id, fieldNames := fun name => [name] }
    (Claiming.claimAll ["Dot", "Circle"] (SchemaPath.mk ["Shape"]).text).run dottedNames =
        .error (.namingCollision "Circle" "Circle") dottedNames ∧
      (Claiming.claimAll ["Dot"] (SchemaPath.mk ["Mark"]).text).run dottedNames =
        .ok () ⟨("Dot", "Mark") :: dottedNames.claims⟩ ∧
      (nameUnions conventions .flat "_" (fun _ => 1) dottedNames dottedUnions).eraseIdx 0 =
        [(⟨["Mark"]⟩, .ok ⟨"Mark", ["Dot"], false⟩)] := by
  intro conventions
  obtain ⟨failed, -, -, apart⟩ := claimAll_all_or_none dottedNames ["Dot", "Circle"] ⟨["Shape"]⟩
  obtain ⟨-, claimed, -, -⟩ := claimAll_all_or_none dottedNames ["Dot"] ⟨["Mark"]⟩
  have refused : dottedNames.Refused ["Dot", "Circle"] (SchemaPath.mk ["Shape"]).text
      (.namingCollision "Circle" "Circle") :=
    @Namespace.Refused.taken _ _ _ ["Dot"] [] _ _ rfl (by decide) (by decide) rfl
  refine ⟨(failed _ _).2 ⟨rfl, refused⟩, (claimed _).2 ⟨by decide, by decide, rfl⟩, ?_⟩
  exact (apart conventions .flat "_" (fun _ => 1) [] _ _ (.namingCollision "Circle" "Circle") rfl).trans rfl

end SchemaBindings
