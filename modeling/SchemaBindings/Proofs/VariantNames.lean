import SchemaBindings.Proofs.DeclaredNames
import SchemaBindings.Proofs.FieldNames

/-!
# Names of variants

The unions of a module are named one after the other. Behind one of them a name is held if it was before, or for the
union, if that is named and the name is one of its variants (`holder?_afterUnion`). Behind a run of unions it is held if
it was before, or for the union of which it names a variant (`holder?_foldl_afterUnion`).
-/

namespace SchemaBindings

open Declaration

section

variable {conventions : Conventions} {policy : NamingPolicy} {separator : String}
  {occurs : String → Nat}

theorem claimVariants_eq_ok {ns ns' : Namespace} {c : ClaimedUnion} :
    claimVariants conventions policy separator occurs ns c = .ok ns' ↔
      (∀ v ∈ c.union.variants, v.fields.Pairwise (FieldsDiffer conventions)) ∧
        ns.claimAll (chosenNames conventions policy separator occurs c.union) c.path.text = .ok ns' := by
  simp only [claimVariants, bind_eq_ok, exists_unit_iff, forM_eq_ok_iff, checkFieldNames_eq_ok_iff]

/-- A step takes the names of the variants if the union is named, and nothing otherwise. -/
theorem holder?_afterUnion (ns : Namespace) (c : ClaimedUnion) (name label : String) :
    (afterUnion conventions policy separator occurs ns c).holder? name = some label ↔
      ns.holder? name = some label ∨
        ∃ own, unionEntry conventions policy separator occurs ns c = .ok own ∧
          name ∈ own.variants ∧ label = c.path.text := by
  cases entry : unionEntry conventions policy separator occurs ns c with
  | error fault => simp [afterUnion_of_error entry]
  | ok own =>
    obtain ⟨-, free, held⟩ := afterUnion_of_ok entry
    rw [held, Namespace.holder?_holding]
    by_cases variant : name ∈ own.variants
    · have unheld := Namespace.holder?_eq_none_iff.2 (free name variant)
      simp [variant, unheld, eq_comm]
    · simp [variant]

/-- Behind some unions a name is held if it was before, or for the union of which it names a variant. -/
theorem holder?_foldl_afterUnion (ns : Namespace) (unions : List ClaimedUnion)
    (name label : String) :
    (unions.foldl (afterUnion conventions policy separator occurs) ns).holder? name = some label ↔
      ns.holder? name = some label ∨
        ∃ (p : SchemaPath) (own : DeclarationNames),
          (p, .ok own) ∈ nameUnions conventions policy separator occurs ns unions ∧
            name ∈ own.variants ∧ label = p.text := by
  induction unions generalizing ns with
  | nil => simp [nameUnions]
  | cons c unions ih =>
    rw [List.foldl_cons, ih, holder?_afterUnion, nameUnions_cons, or_assoc]
    refine or_congr_right ?_
    constructor
    · rintro (⟨own, named, variant, rfl⟩ | ⟨p, own, member, variant, rfl⟩)
      · exact ⟨c.path, own, named ▸ List.mem_cons_self, variant, rfl⟩
      · exact ⟨p, own, List.mem_cons_of_mem _ member, variant, rfl⟩
    · rintro ⟨p, own, member, variant, rfl⟩
      rcases List.mem_cons.1 member with first | later
      · obtain ⟨rfl, named⟩ := Prod.mk.inj first
        exact .inl ⟨own, named.symm, variant, rfl⟩
      · exact .inr ⟨p, own, later, variant, rfl⟩

end

end SchemaBindings
