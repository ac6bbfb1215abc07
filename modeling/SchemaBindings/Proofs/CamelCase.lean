import SchemaBindings.Identifier
import SchemaBindings.Text.Words

/-!
# Letters of a name

The words of a name are its letters and numbers in order (`words_flatten`), so underscores are lost in a spelling that
puts nothing between the words. An identifier has ASCII letters and digits besides, and they stay such in every case
style; so its `UpperCamel` spelling consists of them alone (`upperCamel_isAlphanum`).
-/

namespace SchemaBindings.Text

/-! ## The words of a name -/

theorem consFirst_flatten (c : Char) (words : List (List Char)) :
    (consFirst c words).flatten = c :: words.flatten := by
  cases words <;> rfl

theorem splitHumps_flatten (run : LetterRun) (cs : List Char) : (splitHumps run cs).flatten = cs := by
  fun_induction splitHumps run cs with
  | case1 => rfl
  | case2 => rfl
  | case3 run c d rest _ ih =>
    rw [List.flatten_cons, ih]
    rfl
  | case4 run c d rest _ _ ih => rw [List.flatten_cons, consFirst_flatten, ih, List.nil_append]
  | case5 run c d rest _ _ ih => rw [consFirst_flatten, ih]

theorem splitSeparators_flatten (cs : List Char) :
    (splitSeparators cs).flatten = cs.filter isAlphanumeric := by
  induction cs with
  | nil => rfl
  | cons c cs ih =>
    unfold splitSeparators
    split
    · next part => rw [consFirst_flatten, ih, List.filter_cons_of_pos part]
    · next separator => rw [List.flatten_cons, ih, List.filter_cons_of_neg separator, List.nil_append]

/-- The words of a name are its letters and numbers, in order. -/
theorem words_flatten (name : String) :
    (words name).flatten = name.toList.filter isAlphanumeric := by
  rw [words, List.flatMap_def, ← splitSeparators_flatten]
  induction splitSeparators name.toList with
  | nil => rfl
  | cons piece pieces ih =>
    rw [List.map_cons, List.flatten_cons, List.flatten_append, ih, splitHumps_flatten,
      List.flatten_cons]

/-! ## ASCII letters and digits -/

theorem toNat_lt_of_isAlphanum {c : Char} (alphanum : c.isAlphanum = true) : c.toNat < 128 := by
  change (decide (c.val ≥ 'A'.val ∧ c.val ≤ 'Z'.val) || decide (c.val ≥ 'a'.val) && decide (c.val ≤ 'z'.val) ||
    decide (c.val ≥ '0'.val) && decide (c.val ≤ '9'.val)) = true at alphanum
  simp only [Bool.or_eq_true, Bool.and_eq_true, decide_eq_true_eq, UInt32.le_iff_toNat_le, ge_iff_le] at alphanum
  have : c.toNat = c.val.toNat := rfl
  have : 'Z'.val.toNat = 90 := rfl
  have : 'z'.val.toNat = 122 := rfl
  have : '9'.val.toNat = 57 := rfl
  omega

/-- A property of all ASCII characters is checked for one after the other. -/
theorem of_ascii {P : Char → Prop} (all : ∀ n < 128, P (Char.ofNat n)) {c : Char}
    (ascii : c.toNat < 128) : P c := by
  have holds := all c.toNat ascii
  rwa [Char.ofNat_toNat] at holds

theorem isAlphanum_cases {c : Char} (alphanum : c.isAlphanum = true) :
    capitalize c = [c.toUpper] ∧ decapitalize c = [c.toLower] ∧ c ≠ 'Σ' ∧
      c.toUpper.isAlphanum = true ∧ c.toLower.isAlphanum = true := by
  have ascii := toNat_lt_of_isAlphanum alphanum
  have letters : c.isAlphanum = true →
      c.toUpper.isAlphanum = true ∧ c.toLower.isAlphanum = true :=
    of_ascii (P := fun c => c.isAlphanum = true →
      c.toUpper.isAlphanum = true ∧ c.toLower.isAlphanum = true) (by decide +kernel) ascii
  refine ⟨if_pos ascii, if_pos ascii, ?_, letters alphanum⟩
  rintro rfl
  exact absurd alphanum (by decide)

theorem smallWord_isAlphanum {word : List Char} (alphanum : ∀ c ∈ word, c.isAlphanum = true) :
    ∀ c ∈ smallWord word, c.isAlphanum = true := by
  fun_induction smallWord word with
  | case1 => exact alphanum
  | case2 => exact absurd rfl (isAlphanum_cases (alphanum 'Σ' List.mem_cons_self)).2.2.1
  | case3 c =>
    obtain ⟨-, small, -, -, lower⟩ := isAlphanum_cases (alphanum c List.mem_cons_self)
    rw [small]
    simpa using lower
  | case4 c rest _ ih =>
    obtain ⟨first, rest⟩ := List.forall_mem_cons.1 alphanum
    obtain ⟨-, small, -, -, lower⟩ := isAlphanum_cases first
    rw [small, List.singleton_append]
    exact List.forall_mem_cons.2 ⟨lower, ih rest⟩

theorem titleWord_isAlphanum {word : List Char} (alphanum : ∀ c ∈ word, c.isAlphanum = true) :
    ∀ c ∈ titleWord word, c.isAlphanum = true := by
  cases word with
  | nil => exact alphanum
  | cons c rest =>
    obtain ⟨first, rest⟩ := List.forall_mem_cons.1 alphanum
    obtain ⟨capital, -, -, upper, -⟩ := isAlphanum_cases first
    rw [titleWord, capital, List.singleton_append]
    exact List.forall_mem_cons.2 ⟨upper, smallWord_isAlphanum rest⟩

/-! ## Identifiers -/

theorem isIdentifierChar_of_mem {name : String} (identifier : isIdentifier name) {c : Char}
    (member : c ∈ name.toList) : isIdentifierChar c = true := by
  unfold isIdentifier at identifier
  cases chars : name.toList with
  | nil =>
    rw [chars] at member
    exact absurd member List.not_mem_nil
  | cons first rest =>
    rw [chars, isIdentifierChars, Bool.and_eq_true, List.all_eq_true] at identifier
    obtain ⟨letter, rest⟩ := identifier
    rw [chars] at member
    rcases List.mem_cons.1 member with rfl | later
    · simp [isIdentifierChar, Char.isAlphanum, letter]
    · exact rest c later

theorem words_isAlphanum {name : String} (identifier : isIdentifier name) :
    ∀ word ∈ words name, ∀ c ∈ word, c.isAlphanum = true := by
  intro word among c member
  have kept : c ∈ (words name).flatten := List.mem_flatten_of_mem among member
  rw [words_flatten, List.mem_filter] at kept
  have inside := isIdentifierChar_of_mem identifier kept.1
  rw [isIdentifierChar, Bool.or_eq_true, beq_iff_eq] at inside
  rcases inside with alphanum | rfl
  · exact alphanum
  · exact absurd kept.2 (by decide)

/-- The `UpperCamel` spelling of an identifier has letters and digits alone. -/
theorem upperCamel_isAlphanum {name : String} (identifier : isIdentifier name) :
    ∀ c ∈ (upperCamel name).toList, c.isAlphanum = true := by
  intro c member
  rw [upperCamel, String.toList_ofList] at member
  obtain ⟨word, among, member⟩ := List.mem_flatMap.1 member
  exact titleWord_isAlphanum (words_isAlphanum identifier word among) c member

theorem lowerCamel_isAlphanum {name : String} (identifier : isIdentifier name) :
    ∀ c ∈ (lowerCamel name).toList, c.isAlphanum = true := by
  intro c member
  have words := words_isAlphanum identifier
  unfold lowerCamel at member
  split at member
  · exact absurd member List.not_mem_nil
  · next first rest split =>
    rw [split] at words
    rw [String.toList_ofList] at member
    rcases List.mem_append.1 member with first | later
    · exact smallWord_isAlphanum (words _ List.mem_cons_self) c first
    · obtain ⟨word, among, inside⟩ := List.mem_flatMap.1 later
      exact titleWord_isAlphanum (words word (List.mem_cons_of_mem _ among)) c inside

theorem underscore_not_mem_upperCamel {name : String} (identifier : isIdentifier name) :
    '_' ∉ (upperCamel name).toList :=
  fun member => absurd (upperCamel_isAlphanum identifier '_' member) (by decide)

end SchemaBindings.Text
