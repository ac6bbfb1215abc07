import SchemaBindings.Proofs.Fates

/-!
# Modules that resolution leaves out

A declaration is hidden because a module around it is repeated or has a name that is no identifier. The outermost such
module is not hidden itself (`exists_leftOut`), so resolution rejects it (`Settled.rejected_of_leavesOut`).
-/

namespace SchemaBindings

open Declaration

/-- A module that resolution leaves out, together with everything inside it. -/
structure Site.LeavesOut (t : Site) : Prop where
  visible : t.hidden = false
  isModule : t.declaration.isModule = true
  invalid : t.repeated = true ∨ isIdentifier t.declaration.name = false

mutual

theorem sitesIn_inside (m : ModulePath) (hidden repeated : Bool) :
    ∀ d : DeclarationExpr, ∀ s ∈ sitesIn m hidden repeated d, m <+: s.module
  | .struct _ | .union _ | .typeAlias _ | .const _ => by simp [sitesIn]
  | .module name comment inner => by
    have below := sitesFrom_inside (m ++ [name]) (hidden || repeated || !isIdentifier name) [] inner
    rw [sitesIn]
    refine List.forall_mem_cons.2 ⟨List.prefix_rfl, fun s member => ?_⟩
    exact (List.prefix_append m [name]).trans (below s member)

/-- The sites of a module stand inside it. -/
theorem sitesFrom_inside (m : ModulePath) (hidden : Bool) (seen : List String) :
    ∀ ds : List DeclarationExpr, ∀ s ∈ sitesFrom m hidden seen ds, m <+: s.module
  | [] => by simp [sitesFrom]
  | d :: ds => by
    rw [sitesFrom]
    exact List.forall_mem_append.2
      ⟨sitesIn_inside m hidden (decide (d.name ∈ seen)) d, sitesFrom_inside m hidden (d.name :: seen) ds⟩

end

mutual

theorem exists_leftOut_in (m : ModulePath) (repeated : Bool) :
    ∀ d : DeclarationExpr, ∀ s ∈ sitesIn m false repeated d, s.hidden = true →
      ∃ t ∈ sitesIn m false repeated d, t.LeavesOut ∧ t.path.segments <+: s.module
  | .struct _ | .union _ | .typeAlias _ | .const _ => by simp [sitesIn]
  | .module name comment inner => by
    intro s member hidden
    rw [sitesIn] at member ⊢
    rcases List.mem_cons.1 member with rfl | below
    · exact absurd hidden (by simp)
    cases invalid : repeated || !isIdentifier name with
    | true =>
      refine ⟨_, List.mem_cons_self, ⟨rfl, rfl, ?_⟩, sitesFrom_inside _ _ _ inner s below⟩
      simpa [Declaration.name] using invalid
    | false =>
      rw [Bool.false_or, invalid] at below ⊢
      obtain ⟨t, inside, leaves, around⟩ := exists_leftOut_from (m ++ [name]) [] inner s below hidden
      exact ⟨t, List.mem_cons_of_mem _ inside, leaves, around⟩

theorem exists_leftOut_from (m : ModulePath) (seen : List String) :
    ∀ ds : List DeclarationExpr, ∀ s ∈ sitesFrom m false seen ds, s.hidden = true →
      ∃ t ∈ sitesFrom m false seen ds, t.LeavesOut ∧ t.path.segments <+: s.module
  | [] => by simp [sitesFrom]
  | d :: ds => by
    intro s member hidden
    rw [sitesFrom] at member ⊢
    rcases List.mem_append.1 member with first | rest
    · obtain ⟨t, inside, found⟩ := exists_leftOut_in m _ d s first hidden
      exact ⟨t, List.mem_append_left _ inside, found⟩
    · obtain ⟨t, inside, found⟩ := exists_leftOut_from m _ ds s rest hidden
      exact ⟨t, List.mem_append_right _ inside, found⟩

end

section

variable {document : Document} {s : Site}

/-- Whatever is hidden stands inside a module that resolution leaves out and that is not hidden itself. -/
theorem exists_leftOut (member : s ∈ document.sites) (hidden : s.hidden = true) :
    ∃ t ∈ document.sites, t.LeavesOut ∧ t.path.segments <+: s.module :=
  exists_leftOut_from [] [] document.declarations s member hidden

theorem Settled.rejected_of_leavesOut {config : Config} {t : Site} {fate : Fate}
    (settled : Settled document config t fate) (leaves : t.LeavesOut) : ∃ fault, fate = .rejected fault := by
  cases settled with
  | unseen hidden => exact absurd (leaves.visible.symm.trans hidden) (by simp)
  | repeated _ _ => exact ⟨_, rfl⟩
  | illFormed _ _ _ => exact ⟨_, rfl⟩
  | entered _ first _ identifier =>
    rcases leaves.invalid with again | invalid
    · exact absurd (first.symm.trans again) (by simp)
    · exact absurd (identifier.symm.trans invalid) (by simp)
  | failed survives _ => exact absurd (leaves.isModule.symm.trans survives.isItem) (by simp)
  | rendered survives _ => exact absurd (leaves.isModule.symm.trans survives.isItem) (by simp)

end

end SchemaBindings
