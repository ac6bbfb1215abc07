/-!
# Ordered sets as lists

A set whose order shows in the output is a list in ascending order without repetitions.
-/

namespace SchemaBindings

variable {α : Type} [DecidableEq α]

/-- Inserts an element before the first one that it precedes, unless it is there. -/
def insertOrdered (precedes : α → α → Bool) (a : α) : List α → List α
  | [] => [a]
  | b :: rest =>
    if a = b then b :: rest
    else if precedes a b then a :: b :: rest
    else b :: insertOrdered precedes a rest

/-- The elements of a list in ascending order, each once. -/
def ordered (precedes : α → α → Bool) (as : List α) : List α :=
  as.foldr (insertOrdered precedes) []

theorem mem_insertOrdered {precedes : α → α → Bool} {a x : α} {s : List α} :
    x ∈ insertOrdered precedes a s ↔ x = a ∨ x ∈ s := by
  induction s with
  | nil => simp [insertOrdered]
  | cons b rest ih =>
    by_cases equal : a = b
    · simp [insertOrdered, equal]
    · by_cases first : precedes a b
      · simp [insertOrdered, equal, first]
      · simp [insertOrdered, equal, first, ih, or_left_comm]

@[simp] theorem mem_ordered {precedes : α → α → Bool} {x : α} {as : List α} :
    x ∈ ordered precedes as ↔ x ∈ as := by
  induction as with
  | nil => simp [ordered]
  | cons a rest ih => simpa [ordered, mem_insertOrdered] using or_congr_right ih

def orderedNats (ns : List Nat) : List Nat :=
  ordered (fun a b => decide (a < b)) ns

/-- The ascending order of texts, by code points. -/
def orderedStrings (texts : List String) : List String :=
  ordered (fun a b => decide (a < b)) texts

end SchemaBindings
