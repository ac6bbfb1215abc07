import SchemaBindings.Fault

/-!
# Outcomes of checks

When a sequence of checks succeeds, and which faults it can end with. `FaultsIn P x` says that `x` succeeds or
ends with a fault in `P`; it is stable under everything that the checks are built from.
-/

namespace SchemaBindings

variable {ε α β : Type}

/-! ## Success -/

@[simp] theorem bind_eq_ok {x : Except ε α} {f : α → Except ε β} {b : β} :
    x >>= f = .ok b ↔ ∃ a, x = .ok a ∧ f a = .ok b := by
  cases x <;> simp [bind, Except.bind]

/-- A check has no result to speak of. -/
theorem exists_unit_iff {p : Unit → Prop} : (∃ u, p u) ↔ p () := by
  constructor
  · rintro ⟨⟨⟩, holds⟩
    exact holds
  · intro holds
    exact ⟨(), holds⟩

@[simp] theorem map_eq_ok {x : Except ε α} {f : α → β} {b : β} :
    f <$> x = .ok b ↔ ∃ a, x = .ok a ∧ f a = b := by
  cases x <;> simp [Functor.map, Except.map]

@[simp] theorem pure_eq_ok {a b : α} : (pure a : Except ε α) = .ok b ↔ a = b := by
  simp [pure, Except.pure]

@[simp] theorem throw_ne_ok {e : ε} {a : α} : (throw e : Except ε α) ≠ .ok a := by
  simp [throw, throwThe, MonadExceptOf.throw]

theorem exists_of_toOption_map {x : Except ε α} {f : α → β} {b : β} (mapped : x.toOption.map f = some b) :
    ∃ a, x = .ok a ∧ f a = b := by
  cases x with
  | error e => exact absurd mapped.symm (Option.some_ne_none b)
  | ok a => exact ⟨a, rfl, Option.some.inj mapped⟩

theorem exists_of_toOption_any {x : Except ε α} {p : α → Bool} (holds : x.toOption.any p) : ∃ a, x = .ok a ∧ p a := by
  cases x with
  | error e => exact absurd holds Bool.false_ne_true
  | ok a => exact ⟨a, rfl, holds⟩

/-- A step that succeeds on some inputs, with a result that is a function of the input, does the same
one after the other. -/
theorem mapM_eq_ok_iff {f : α → Except ε β} {P : α → Prop} {g : α → β}
    (step : ∀ a b, f a = .ok b ↔ P a ∧ b = g a) {as : List α} {bs : List β} :
    as.mapM f = .ok bs ↔ (∀ a ∈ as, P a) ∧ bs = as.map g := by
  induction as generalizing bs with
  | nil =>
    rw [List.mapM_nil, pure_eq_ok]
    simp [eq_comm]
  | cons a as ih =>
    simp only [List.mapM_cons, bind_eq_ok, pure_eq_ok, step, ih, List.forall_mem_cons, List.map_cons]
    constructor
    · rintro ⟨b, ⟨first, rfl⟩, bs, ⟨rest, rfl⟩, rfl⟩
      exact ⟨⟨first, rest⟩, rfl⟩
    · rintro ⟨⟨first, rest⟩, rfl⟩
      exact ⟨_, ⟨first, rfl⟩, _, ⟨rest, rfl⟩, rfl⟩

theorem forM_eq_ok_iff {f : α → Except ε Unit} {as : List α} :
    as.forM f = .ok () ↔ ∀ a ∈ as, f a = .ok () := by
  induction as with
  | nil => exact iff_of_true rfl (by simp)
  | cons a as ih =>
    have unfolded : (a :: as).forM f = .ok () ↔ f a = .ok () ∧ as.forM f = .ok () :=
      bind_eq_ok.trans exists_unit_iff
    rw [unfolded, ih, List.forall_mem_cons]

/-- A fold whose steps succeed and keep an invariant succeeds and keeps it. -/
theorem exists_foldlM_eq_ok {f : β → α → Except ε β} {Inv : β → Prop} {as : List α}
    (step : ∀ b, Inv b → ∀ a ∈ as, ∃ b', f b a = .ok b' ∧ Inv b') {b : β} (start : Inv b) :
    ∃ b', as.foldlM f b = .ok b' ∧ Inv b' := by
  induction as generalizing b with
  | nil => exact ⟨b, rfl, start⟩
  | cons a as ih =>
    obtain ⟨middle, first, kept⟩ := step b start a List.mem_cons_self
    obtain ⟨last, rest, ended⟩ := ih (fun b inv a member => step b inv a (List.mem_cons_of_mem _ member)) kept
    refine ⟨last, ?_, ended⟩
    rw [List.foldlM_cons, bind_eq_ok]
    exact ⟨middle, first, rest⟩

/-! ## Faults -/

/-- Every fault that can come out is in `P`. -/
def FaultsIn (P : Fault → Prop) (x : Except Fault α) : Prop :=
  ∀ fault, x = .error fault → P fault

namespace FaultsIn

variable {P : Fault → Prop}

theorem ok (a : α) : FaultsIn P (.ok a) := by
  intro fault failed
  cases failed

theorem error {fault : Fault} (h : P fault) : FaultsIn P (.error fault : Except Fault α) :=
  fun _ equal => Except.error.inj equal ▸ h

theorem bind {x : Except Fault α} {f : α → Except Fault β} (first : FaultsIn P x)
    (next : ∀ a, x = .ok a → FaultsIn P (f a)) : FaultsIn P (x >>= f) := by
  cases x with
  | ok a => exact next a rfl
  | error fault => exact error (first fault rfl)

theorem map {x : Except Fault α} {f : α → β} (h : FaultsIn P x) : FaultsIn P (f <$> x) := by
  cases x with
  | ok a => exact ok (f a)
  | error fault => exact error (h fault rfl)

theorem mapM {f : α → Except Fault β} {as : List α} (step : ∀ a ∈ as, FaultsIn P (f a)) :
    FaultsIn P (as.mapM f) := by
  induction as with
  | nil => exact ok []
  | cons a as ih =>
    rw [List.mapM_cons]
    refine bind (step a List.mem_cons_self) fun b _ => bind ?_ fun bs _ => ok (b :: bs)
    exact ih fun a member => step a (List.mem_cons_of_mem _ member)

theorem forM {f : α → Except Fault Unit} {as : List α} (step : ∀ a ∈ as, FaultsIn P (f a)) :
    FaultsIn P (as.forM f) := by
  induction as with
  | nil => exact ok ()
  | cons a as ih =>
    show FaultsIn P (f a >>= fun _ => as.forM f)
    exact bind (step a List.mem_cons_self) fun _ _ =>
      ih fun a member => step a (List.mem_cons_of_mem _ member)

theorem foldlM {f : β → α → Except Fault β} (step : ∀ b a, FaultsIn P (f b a)) (b : β)
    (as : List α) : FaultsIn P (as.foldlM f b) := by
  induction as generalizing b with
  | nil => exact ok b
  | cons a as ih =>
    rw [List.foldlM_cons]
    exact bind (step b a) fun b' _ => ih b'

end FaultsIn

end SchemaBindings
