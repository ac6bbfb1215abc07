import SchemaBindings.Proofs.RunOutputs
import SchemaBindings.Proofs.WellFormed

/-!
# Runs that are not strict

What a run that is not strict returns. It emits one record for each arity that a ready candidate mentions, in ascending
order, and then the outputs of its plan (`generateFor_of_lenient`). A declaration has one output under its own name, and
behind it one for each variant, in declared order (`TargetName.render_places`).
-/

namespace SchemaBindings

open Candidate Declaration

/-! ## The tuples of a run -/

theorem mem_foldlM {ε α β γ : Type} {f : β → α → Except ε β} {names : β → List γ}
    (adds : α → γ → Prop)
    (step : ∀ b a b', f b a = .ok b' → ∀ n, n ∈ names b' ↔ adds a n ∨ n ∈ names b)
    {as : List α} {b b' : β} (folded : as.foldlM f b = .ok b') (n : γ) :
    n ∈ names b' ↔ (∃ a ∈ as, adds a n) ∨ n ∈ names b := by
  induction as generalizing b with
  | nil =>
    cases folded
    simp
  | cons a as ih =>
    rw [List.foldlM_cons, bind_eq_ok] at folded
    obtain ⟨middle, first, rest⟩ := folded
    rw [ih rest, step b a middle first]
    simp only [List.mem_cons, exists_eq_or_imp]
    rw [or_left_comm, or_assoc]

theorem mem_requestTuple {c : Candidate} {arena arena' : TupleArena} {arity : Nat}
    (requested : c.requestTuple arena arity = .ok arena') (n : Nat) :
    n ∈ arena'.arities ↔ arity = n ∨ n ∈ arena.arities := by
  unfold requestTuple at requested
  split at requested
  · next arena₁ record asked =>
    cases requested
    obtain ⟨-, -, equal⟩ := bind_eq_ok.1 asked
    cases equal
    rw [mem_insertOrdered, eq_comm]
  · exact absurd requested (by simp)

/-- The arities that are requested are those that the ready candidates mention. -/
theorem mem_requestTuples {cs : List Candidate} {arena arena' : TupleArena}
    (requested : requestTuples arena cs = .ok arena') (n : Nat) :
    n ∈ arena'.arities ↔
      (∃ c ∈ cs, c.isReady = true ∧ n ∈ c.item.declaration.arities) ∨ n ∈ arena.arities := by
  have step : ∀ (arena : TupleArena) (c : Candidate) (arena' : TupleArena),
      c.item.declaration.arities.foldlM c.requestTuple arena = .ok arena' →
      ∀ n, n ∈ arena'.arities ↔ n ∈ c.item.declaration.arities ∨ n ∈ arena.arities := by
    intro arena c arena' folded n
    rw [mem_foldlM (fun arity n => arity = n) (fun _ _ _ => mem_requestTuple) folded]
    simp
  rw [requestTuples] at requested
  rw [mem_foldlM (fun c n => n ∈ c.item.declaration.arities) step requested]
  simp [and_assoc]

/-! ## The run -/

section

variable (target : Target) (config : Config) (names : NameTable) (r : Resolved)

/-- The plan gives each item its status. -/
theorem plan_eq_final : ∃ final : SchemaItem → Except Fault DeclarationNames,
    plan target config names r = r.items.map fun i => ⟨i, final i⟩ := by
  obtain ⟨final, equal, narrows⟩ := plan_eq_map target config names r
  let start (i : SchemaItem) : Candidate := ⟨i, initialStatus names ⟨config.maxTupleArity, []⟩ i⟩
  refine ⟨fun i => (final (start i)).status, ?_⟩
  rw [equal, candidates, List.map_map]
  refine List.map_congr_left fun i _ => ?_
  calc final (start i) = ⟨(final (start i)).item, (final (start i)).status⟩ := rfl
    _ = ⟨i, (final (start i)).status⟩ := by rw [(narrows (start i)).item]

end

/-- A run that is not strict emits one record per arity that is mentioned, and then the outputs of its plan. -/
theorem generateFor_of_lenient (target : Target) {config : Config} (r : Resolved)
    (valid : config.validate = .ok ()) (lenient : config.strict = false) :
    let names := runNames target config r
    let cs := plan target config names r
    ∃ g, generateFor target config r = .ok g ∧ g.failures = runFailures names r cs ∧
      ∃ arities : List Nat, arities.Pairwise (· < ·) ∧
        (∀ n, n ∈ arities ↔ ∃ c ∈ cs, c.isReady = true ∧ n ∈ c.item.declaration.arities) ∧
        g.outputs = runOutputs target config names (arities.map .ofArity) cs := by
  intro names cs
  obtain ⟨arena, requested, ascending⟩ := exists_planned_tuples target config names r
  have mentioned : ∀ n, n ∈ arena.arities ↔
      ∃ c ∈ cs, c.isReady = true ∧ n ∈ c.item.declaration.arities := by
    intro n
    rw [mem_requestTuples requested]
    simp
    rfl
  let outputs := runOutputs target config names arena.records cs
  refine ⟨⟨outputs, target.assemble config outputs r.moduleComments, runFailures names r cs⟩, ?_, rfl,
    arena.arities, ascending.arities, mentioned, rfl⟩
  unfold generateFor
  rw [valid, lenient]
  dsimp only
  rw [requested]
  rfl

/-! ## Outputs of one declaration -/

theorem map_place_zip (m : ModulePath) {vs : List (Variant TypeRef)} {names : List String}
    (count : names.length = vs.length) :
    (vs.zip names).map (fun x => (m, x.2)) = names.map (m, ·) := by
  have second : (vs.zip names).map Prod.snd = names := List.map_snd_zip (Nat.le_of_eq count)
  conv_rhs => rw [← second, List.map_map]
  rfl

/-- A declaration has one output under its name, and behind it one for each variant in declared order. -/
theorem TargetName.render_places (name : TargetName) (cx : RenderContext) {d : SchemaDeclaration}
    {own : DeclarationNames} (isItem : d.isModule = false)
    (count : own.variants.length = d.variantNames.length) :
    (name.target.render cx d own).map Output.place =
      (cx.module, own.identifier) :: own.variants.map (cx.module, ·) := by
  cases d with
  | union u =>
    rw [variantNames, List.length_map] at count
    rw [← map_place_zip cx.module count]
    cases name with
    | go => simp [target, Target.render, Go.target, Go.unionOutputs, Output.place]
    | rust => simp [target, Target.render, Rust.target, Rust.unionOutputs, Output.place]
  | module _ _ _ => exact absurd isItem (by simp [isModule])
  | _ =>
    rw [List.eq_nil_of_length_eq_zero count]
    cases name <;> rfl

end SchemaBindings
