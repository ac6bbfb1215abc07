import Mathlib.Data.List.Basic

/-!
# Pieces of a text

Where a piece of a text ends can be told by the characters: it goes on as long as they may stand in it.

* A piece can be read off a text that goes on with a character of another kind (`append_injective`).
* Pieces can be read off what a separator makes of them if its first character stands in none of them
  (`intercalate_injective`).
-/

namespace SchemaBindings.Text

/-! ## One piece -/

/-- A piece of characters with the property `p` ends where this text begins. -/
def Ends (p : Char → Bool) (rest : List Char) : Prop :=
  ∀ c ∈ rest.head?, p c = false

theorem ends_nil (p : Char → Bool) : Ends p [] :=
  fun _ first => absurd first (by simp)

theorem ends_cons {p : Char → Bool} {c : Char} (other : p c = false) (rest : List Char) :
    Ends p (c :: rest) := by
  intro d first
  cases first
  exact other

theorem ends_append {p : Char → Bool} {opening : String}
    (other : (opening.toList.head?.any fun c => !p c) = true) (rest : String) : Ends p (opening ++ rest).toList := by
  rw [String.toList_append]
  cases chars : opening.toList with
  | nil =>
    rw [chars] at other
    exact absurd other (by simp)
  | cons c tail =>
    rw [chars] at other
    exact ends_cons (by simpa using other) _

theorem takeWhile_append {p : Char → Bool} {piece rest : List Char} (inside : ∀ c ∈ piece, p c = true)
    (ends : Ends p rest) : (piece ++ rest).takeWhile p = piece := by
  rw [List.takeWhile_append_of_pos inside]
  cases rest with
  | nil => exact List.append_nil piece
  | cons c rest =>
    have other : ¬ p c = true := by simp [ends c rfl]
    rw [List.takeWhile_cons_of_neg other, List.append_nil]

/-- A piece can be read off a text that does not go on with one of its characters. -/
theorem append_injective {p : Char → Bool} {piece piece' rest rest' : List Char}
    (inside : ∀ c ∈ piece, p c = true) (inside' : ∀ c ∈ piece', p c = true) (ends : Ends p rest)
    (ends' : Ends p rest') (same : piece ++ rest = piece' ++ rest') :
    piece = piece' ∧ rest = rest' := by
  have pieces := congrArg (List.takeWhile p) same
  rw [takeWhile_append inside ends, takeWhile_append inside' ends'] at pieces
  subst pieces
  exact ⟨rfl, List.append_cancel_left same⟩

/-! ## Joined pieces -/

theorem intercalate_cons_eq {α : Type} (separator piece : List α) (others : List (List α)) :
    separator.intercalate (piece :: others) = piece ++ others.flatMap (separator ++ ·) := by
  induction others generalizing piece with
  | nil => rw [List.intercalate_singleton, List.flatMap_nil, List.append_nil]
  | cons next others ih =>
    rw [List.intercalate_cons_cons, ih next, List.flatMap_cons, List.append_assoc, List.append_assoc]

theorem inside_of_not_mem {c : Char} {piece : List Char} (plain : c ∉ piece) :
    ∀ d ∈ piece, decide (d ≠ c) = true := by
  intro d member
  have other : d ≠ c := fun same => plain (same ▸ member)
  simpa using other

theorem mem_joined {separator : List Char} {pieces : List (List Char)} {c : Char}
    (member : c ∈ separator.intercalate pieces) : c ∈ separator ∨ ∃ piece ∈ pieces, c ∈ piece := by
  induction pieces with
  | nil => exact absurd member (by simp)
  | cons piece others ih =>
    cases others with
    | nil =>
      rw [List.intercalate_singleton] at member
      exact .inr ⟨piece, List.mem_cons_self, member⟩
    | cons next others =>
      rw [List.intercalate_cons_cons, List.mem_append, List.mem_append] at member
      rcases member with (first | between) | later
      · exact .inr ⟨piece, List.mem_cons_self, first⟩
      · exact .inl between
      · refine (ih later).imp_right fun ⟨piece, among, inside⟩ => ?_
        exact ⟨piece, List.mem_cons_of_mem _ among, inside⟩

theorem joined_eq_nil {separator : List Char} {pieces : List (List Char)}
    (empty : separator.intercalate pieces = []) : ∀ piece ∈ pieces, piece = [] := by
  induction pieces with
  | nil => simp
  | cons piece others ih =>
    cases others with
    | nil => simpa using empty
    | cons next others =>
      rw [List.intercalate_cons_cons, List.append_eq_nil_iff, List.append_eq_nil_iff] at empty
      exact List.forall_mem_cons.2 ⟨empty.1.1, ih empty.2⟩

theorem joined_injective {c : Char} {tail : List Char} {pieces pieces' : List (List Char)}
    (some : pieces ≠ []) (some' : pieces' ≠ []) (plain : ∀ piece ∈ pieces, c ∉ piece)
    (plain' : ∀ piece ∈ pieces', c ∉ piece)
    (same : (c :: tail).intercalate pieces = (c :: tail).intercalate pieces') : pieces = pieces' := by
  induction pieces generalizing pieces' with
  | nil => exact absurd rfl some
  | cons piece others ih =>
    cases pieces' with
    | nil => exact absurd rfl some'
    | cons piece' others' =>
      obtain ⟨first, later⟩ := List.forall_mem_cons.1 plain
      obtain ⟨first', later'⟩ := List.forall_mem_cons.1 plain'
      -- Only a text with several pieces has the first character of the separator.
      cases others with
      | nil =>
        cases others' with
        | nil => simpa using same
        | cons next others' =>
          rw [List.intercalate_singleton, List.intercalate_cons_cons] at same
          exact absurd (by simp [same]) first
      | cons next others =>
        cases others' with
        | nil =>
          rw [List.intercalate_singleton, List.intercalate_cons_cons] at same
          exact absurd (by simp [← same]) first'
        | cons next' others' =>
          rw [List.intercalate_cons_cons, List.intercalate_cons_cons, List.append_assoc,
            List.append_assoc] at same
          obtain ⟨equal, rest⟩ := append_injective (inside_of_not_mem first)
            (inside_of_not_mem first') (ends_cons (by simp) _) (ends_cons (by simp) _) same
          have rest : (c :: tail) ++ _ = (c :: tail) ++ _ := rest
          rw [equal, ih (by simp) (by simp) later later' (List.append_cancel_left rest)]

/-- Texts can be read off what a separator makes of them if its first character stands in none of them. -/
theorem intercalate_injective {separator : String} {c : Char}
    (first : separator.toList.head? = some c) {texts texts' : List String} (some : texts ≠ [])
    (some' : texts' ≠ []) (plain : ∀ text ∈ texts, c ∉ text.toList)
    (plain' : ∀ text ∈ texts', c ∉ text.toList)
    (same : separator.intercalate texts = separator.intercalate texts') : texts = texts' := by
  obtain ⟨tail, separated⟩ := List.head?_eq_some_iff.1 first
  have joined := congrArg String.toList same
  rw [String.toList_intercalate, String.toList_intercalate, separated] at joined
  have pieces : texts.map String.toList = texts'.map String.toList := by
    refine joined_injective (by simpa using some) (by simpa using some') ?_ ?_ joined
    · exact List.forall_mem_map.2 plain
    · exact List.forall_mem_map.2 plain'
  exact List.map_injective_iff.2 (fun _ _ => String.toList_injective) pieces

/-! ## Numbers -/

theorem isDigit_of_mem_toString {n : Nat} {c : Char} (member : c ∈ (toString n).toList) :
    c.isDigit = true := by
  rw [Nat.toString_eq_ofList_toDigits, String.toList_ofList] at member
  exact Nat.isDigit_of_mem_toDigits (by decide) (by decide) member

theorem toString_injective {a b : Nat} (same : toString a = toString b) : a = b := by
  have digits := congrArg String.toList same
  simpa [Nat.toString_eq_ofList_toDigits] using congrArg (Nat.ofDigitChars 10 · 0) digits

end SchemaBindings.Text
