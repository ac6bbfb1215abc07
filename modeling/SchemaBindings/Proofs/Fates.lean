import SchemaBindings.Proofs.LateFaults
import SchemaBindings.Proofs.Sites

/-!
# Fates of declarations

What a run makes of a declaration of a document (`Fate`), and when (`Settled`): it is not seen, rejected by resolution,
left out later, or rendered. The failures of resolution, those of the plan, and the outputs of the plan are those of the
fates, site by site (`rejections_eq`, `failures_eq`, `outputs_eq`).
-/

namespace SchemaBindings

open Candidate Declaration

/-! ## Fates -/

/-- What a run makes of a declaration. -/
inductive Fate where
  /-- It stands inside a module that resolution leaves out. -/
  | unseen
  | rejected (fault : Fault)
  /-- It is a module, and its declarations are looked at. -/
  | entered
  | failed (fault : Fault)
  /-- It is rendered as what it resolves to, under the names that it has got. -/
  | rendered (d : SchemaDeclaration) (own : DeclarationNames)

namespace Fate

/-- The fault for which resolution has left a declaration out. -/
def rejection? : Fate → Option Fault
  | rejected fault => some fault
  | _ => none

/-- The fault for which the run has left a declaration out that resolution has kept. -/
def failure? : Fate → Option Fault
  | failed fault => some fault
  | _ => none

/-- The outputs of a declaration in the module `m`. -/
def outputs (target : Target) (config : Config) (names : NameTable) (m : ModulePath) :
    Fate → List Output
  | rendered d own => target.render ⟨config, names, m⟩ d own
  | _ => []

end Fate

/-- The fate of a site, if items have the given status in the end. -/
def Site.fate (table : List Symbol) (final : SchemaItem → Except Fault DeclarationNames) (s : Site) :
    Fate :=
  match s.outcome table with
  | .unseen => .unseen
  | .rejected fault => .rejected fault
  | .kept d =>
    if d.isModule then .entered
    else
      match final ⟨s.module, d⟩ with
      | .ok own => .rendered d own
      | .error fault => .failed fault

/-- Resolution keeps the declaration of a site as `d`. -/
structure Survives (document : Document) (s : Site) (d : SchemaDeclaration) : Prop where
  visible : s.hidden = false
  first : s.repeated = false
  isItem : s.declaration.isModule = false
  formed : document.WellFormed s.module s.declaration
  resolves : document.ResolvesTo s.module s.declaration d
  item : ⟨s.module, d⟩ ∈ document.resolve.items

/-- When a declaration has which fate. -/
inductive Settled (document : Document) (config : Config) (s : Site) : Fate → Prop
  | unseen : s.hidden = true → Settled document config s .unseen
  | repeated : s.hidden = false → s.repeated = true →
      Settled document config s (.rejected (.duplicateDeclaration s.declaration.name))
  | illFormed {fault : Fault} : s.hidden = false → s.repeated = false →
      ¬ document.WellFormed s.module s.declaration → Settled document config s (.rejected fault)
  | entered : s.hidden = false → s.repeated = false → s.declaration.isModule = true →
      isIdentifier s.declaration.name → Settled document config s .entered
  | failed {d : SchemaDeclaration} {fault : Fault} : Survives document s d →
      LateFault config.target.target config
        (runNames config.target.target config document.resolve) ⟨s.module, d⟩ fault →
      Settled document config s (.failed fault)
  | rendered {d : SchemaDeclaration} {own : DeclarationNames} : Survives document s d →
      (runNames config.target.target config document.resolve).get? s.path = some (.ok own) →
      Settled document config s (.rendered d own)

section

variable {document : Document} {s : Site}

theorem path_of_resolvesTo {d : SchemaDeclaration}
    (resolves : document.ResolvesTo s.module s.declaration d) :
    Item.path ⟨s.module, d⟩ = s.path := by
  rw [Item.path, Site.path, resolves.name_eq]

theorem outcome_of_survives {d : SchemaDeclaration} (survives : Survives document s d) :
    s.outcome document.symbols = .kept d := by
  have decided := s.decided document
  cases outcome : s.outcome document.symbols with
  | unseen =>
    rw [outcome] at decided
    cases decided with
    | unseen hidden => exact absurd (survives.visible.symm.trans hidden) (by simp)
  | rejected fault =>
    rw [outcome] at decided
    cases decided with
    | repeated _ again => exact absurd (survives.first.symm.trans again) (by simp)
    | illFormed _ _ unformed => exact absurd survives.formed unformed
  | kept e =>
    rw [outcome] at decided
    cases decided with
    | kept _ _ _ resolves => rw [resolves.unique survives.resolves]

/-- Every site has the fate that befits it. -/
theorem settled_fate {config : Config} {final : SchemaItem → Except Fault DeclarationNames}
    (planned : plan config.target.target config
      (runNames config.target.target config document.resolve) document.resolve =
        document.resolve.items.map fun i => ⟨i, final i⟩)
    (member : s ∈ document.sites) :
    Settled document config s (s.fate document.symbols final) := by
  have decided := s.decided document
  unfold Site.fate
  cases outcome : s.outcome document.symbols with
  | unseen =>
    rw [outcome] at decided
    cases decided with
    | unseen hidden => exact .unseen hidden
  | rejected fault =>
    rw [outcome] at decided
    cases decided with
    | repeated visible again => exact .repeated visible again
    | illFormed visible first unformed => exact .illFormed visible first unformed
  | kept d =>
    rw [outcome] at decided
    cases decided with
    | kept visible first formed resolves =>
      dsimp only
      cases isItem : d.isModule with
      | true =>
        rw [resolves.isModule_eq] at isItem
        exact .entered visible first isItem formed.name
      | false =>
        have item := document.mem_items_of_kept member outcome isItem
        have survives : Survives document s d :=
          ⟨visible, first, resolves.isModule_eq.symm.trans isItem, formed, resolves, item⟩
        have candidate : (⟨⟨s.module, d⟩, final ⟨s.module, d⟩⟩ : Candidate) ∈
            plan config.target.target config
              (runNames config.target.target config document.resolve) document.resolve := by
          rw [planned]
          exact List.mem_map_of_mem item
        cases status : final ⟨s.module, d⟩ with
        | ok own =>
          obtain ⟨own', status', -, -, found⟩ :=
            status_of_mem_plan candidate (isReady_iff.2 ⟨own, status⟩)
          cases status.symm.trans status'
          rw [path, path_of_resolvesTo resolves] at found
          simpa using Settled.rendered survives found
        | error fault =>
          simpa using Settled.failed survives (lateFault_of_mem_plan candidate status)

/-! ## Failures and outputs, site by site -/

def Site.report (s : Site) (fault? : Option Fault) : Option DeclarationFailure :=
  fault?.map fun fault => ⟨s.path, fault⟩

theorem rejections_eq (document : Document) (final : SchemaItem → Except Fault DeclarationNames) :
    document.resolve.failures =
      document.sites.filterMap fun s => s.report (s.fate document.symbols final).rejection? := by
  rw [document.resolve_failures_eq]
  refine List.filterMap_congr fun s _ => ?_
  unfold Site.rejection? Site.fate
  cases s.outcome document.symbols with
  | unseen => rfl
  | rejected fault => rfl
  | kept d =>
    dsimp only
    split
    · rfl
    · split <;> rfl

theorem failures_eq (document : Document) (final : SchemaItem → Except Fault DeclarationNames) :
    (document.resolve.items.map fun i => (⟨i, final i⟩ : Candidate)).filterMap (·.failure?) =
      document.sites.filterMap fun s => s.report (s.fate document.symbols final).failure? := by
  rw [document.resolve_items_eq, List.filterMap_map, List.filterMap_filterMap]
  refine List.filterMap_congr fun s _ => ?_
  have decided := s.decided document
  unfold Site.kept? Site.fate
  cases outcome : s.outcome document.symbols with
  | unseen => rfl
  | rejected fault => rfl
  | kept d =>
    rw [outcome] at decided
    cases decided with
    | kept _ _ _ resolves =>
      dsimp only
      split
      · rfl
      · have place := path_of_resolvesTo resolves
        cases status : final ⟨s.module, d⟩ <;>
          simp [failure?, fault?, status, Site.report, path, place, Fate.failure?]

theorem flatMap_filterMap {α β γ : Type} (f : α → Option β) (g : β → List γ) (as : List α) :
    (as.filterMap f).flatMap g = as.flatMap fun a => ((f a).map g).getD [] := by
  induction as with
  | nil => rfl
  | cons a as ih =>
    rw [List.flatMap_cons, ← ih]
    cases found : f a with
    | none => rw [List.filterMap_cons_none found]; rfl
    | some b => rw [List.filterMap_cons_some found, List.flatMap_cons]; rfl

theorem outputs_eq (document : Document) (target : Target) (config : Config) (names : NameTable)
    (final : SchemaItem → Except Fault DeclarationNames) :
    (document.resolve.items.map fun i => (⟨i, final i⟩ : Candidate)).flatMap
        (·.outputs target config names) =
      document.sites.flatMap fun s =>
        (s.fate document.symbols final).outputs target config names s.module := by
  rw [document.resolve_items_eq, List.flatMap_map, flatMap_filterMap]
  refine List.flatMap_congr fun s _ => ?_
  unfold Site.kept? Site.fate
  cases s.outcome document.symbols with
  | unseen => rfl
  | rejected fault => rfl
  | kept d =>
    dsimp only
    split
    · rfl
    · cases status : final ⟨s.module, d⟩ <;> simp [Candidate.outputs, status, Fate.outputs]

theorem fate_eq_rendered_iff {table : List Symbol}
    {final : SchemaItem → Except Fault DeclarationNames} {d : SchemaDeclaration}
    {own : DeclarationNames} :
    s.fate table final = .rendered d own ↔
      s.kept? table = some ⟨s.module, d⟩ ∧ final ⟨s.module, d⟩ = .ok own := by
  unfold Site.fate Site.kept?
  cases s.outcome table with
  | unseen => simp
  | rejected fault => simp
  | kept e =>
    dsimp only
    split
    · simp
    · cases status : final ⟨s.module, e⟩ with
      | error fault =>
        simp only [reduceCtorEq, false_iff, not_and, Option.some.injEq, Item.mk.injEq, true_and]
        rintro rfl
        rw [status]
        simp
      | ok names =>
        simp only [Fate.rendered.injEq, Option.some.injEq, Item.mk.injEq, true_and]
        refine and_congr_right ?_
        rintro rfl
        rw [status, Except.ok.injEq]

/-- The arities that ready candidates mention are those of what is rendered. -/
theorem mentioned_iff (document : Document) (final : SchemaItem → Except Fault DeclarationNames)
    (n : Nat) :
    (∃ c ∈ document.resolve.items.map fun i => (⟨i, final i⟩ : Candidate),
        c.isReady = true ∧ n ∈ c.item.declaration.arities) ↔
      ∃ s ∈ document.sites, ∃ d own,
        s.fate document.symbols final = .rendered d own ∧ n ∈ d.arities := by
  constructor
  · rintro ⟨c, member, ready, mentioned⟩
    obtain ⟨i, item, rfl⟩ := List.mem_map.1 member
    obtain ⟨own, status⟩ := isReady_iff.1 ready
    rw [document.resolve_items_eq] at item
    obtain ⟨s, site, kept⟩ := List.mem_filterMap.1 item
    obtain ⟨d, -, -, rfl⟩ := Site.kept?_eq_some_iff.1 kept
    exact ⟨s, site, d, own, fate_eq_rendered_iff.2 ⟨kept, status⟩, mentioned⟩
  · rintro ⟨s, site, d, own, fate, mentioned⟩
    obtain ⟨kept, status⟩ := fate_eq_rendered_iff.1 fate
    have item : ⟨s.module, d⟩ ∈ document.resolve.items := by
      rw [document.resolve_items_eq]
      exact List.mem_filterMap.2 ⟨s, site, kept⟩
    exact ⟨_, List.mem_map_of_mem item, isReady_iff.2 ⟨own, status⟩, mentioned⟩

end

end SchemaBindings
