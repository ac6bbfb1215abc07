import Mathlib.Data.List.Nodup
import SchemaBindings.Ordered

/-!
# Sets ordered by a key

What is put in order by a key has its keys in order (`map_ordered`), if no two elements have the same key. It is a
rearrangement of what has been given (`ordered_perm`).
-/

namespace SchemaBindings

section

variable {α β : Type} [DecidableEq α] [DecidableEq β] {precedes : α → α → Bool}

theorem insertOrdered_perm {a : α} {s : List α} (fresh : a ∉ s) : (insertOrdered precedes a s).Perm (a :: s) := by
  induction s with
  | nil => exact .refl _
  | cons b rest ih =>
    obtain ⟨differ, fresh⟩ := List.ne_and_not_mem_of_not_mem_cons fresh
    rw [insertOrdered, if_neg differ]
    split
    · exact .refl _
    · exact ((ih fresh).cons b).trans (.swap a b rest)

theorem ordered_perm {as : List α} (distinct : as.Nodup) : (ordered precedes as).Perm as := by
  induction as with
  | nil => exact .refl _
  | cons a as ih =>
    obtain ⟨fresh, distinct⟩ := List.nodup_cons.1 distinct
    exact (insertOrdered_perm (mt mem_ordered.1 fresh)).trans ((ih distinct).cons a)

variable {before : β → β → Bool} {key : α → β}

theorem map_insertOrdered {a : α} {s : List α} (fresh : key a ∉ s.map key) :
    (insertOrdered (fun a b => before (key a) (key b)) a s).map key = insertOrdered before (key a) (s.map key) := by
  induction s with
  | nil => rfl
  | cons b rest ih =>
    rw [List.map_cons] at fresh
    obtain ⟨differ, fresh⟩ := List.ne_and_not_mem_of_not_mem_cons fresh
    have other : a ≠ b := fun same => differ (congrArg key same)
    rw [insertOrdered, List.map_cons, insertOrdered, if_neg other, if_neg differ]
    split
    · rfl
    · rw [List.map_cons, ih fresh]

/-- Elements with keys of their own are ordered as their keys are. -/
theorem map_ordered {as : List α} (distinct : (as.map key).Nodup) :
    (ordered (fun a b => before (key a) (key b)) as).map key = ordered before (as.map key) := by
  induction as with
  | nil => rfl
  | cons a as ih =>
    rw [List.map_cons] at distinct
    obtain ⟨fresh, distinct⟩ := List.nodup_cons.1 distinct
    have fresh' : key a ∉ (ordered (fun a b => before (key a) (key b)) as).map key := by
      rw [ih distinct, mem_ordered]
      exact fresh
    rw [List.map_cons]
    show (insertOrdered _ a (ordered _ as)).map key = insertOrdered before (key a) (ordered before (as.map key))
    rw [map_insertOrdered fresh', ih distinct]

end

end SchemaBindings
