import SchemaBindings.Proofs.CamelCase
import SchemaBindings.Proofs.TextPieces
import SchemaBindings.Target.Go
import SchemaBindings.Target.Rust

/-!
# Spellings of identifiers

An identifier begins with a letter, so every spelling of it has a first character.

* In `UpperCamel` it is a capital (`upperCamel_head`), and in `lowerCamel` it is none (`lowerCamel_head`).
* The spellings of a module consist of identifier characters, and of a number sign before a raw name
  (`Go.moduleName_isIdentifierChar`, `Rust.moduleName_plain`). None of them is a keyword of the target that leads
  elsewhere.
-/

namespace SchemaBindings

namespace Text

/-! ## First letters -/

theorem isIdentifier_cons {name : String} (identifier : isIdentifier name) :
    ∃ c rest, name.toList = c :: rest ∧ c.isAlpha = true := by
  unfold isIdentifier at identifier
  cases chars : name.toList with
  | nil =>
    rw [chars] at identifier
    exact absurd identifier (by decide)
  | cons c rest =>
    rw [chars, isIdentifierChars, Bool.and_eq_true] at identifier
    exact ⟨c, rest, rfl, identifier.1⟩

theorem isAlpha_cases {c : Char} (letter : c.isAlpha = true) :
    isAlphanumeric c = true ∧ c.isAlphanum = true ∧ c.toUpper.isUpper = true := by
  have alphanum : c.isAlphanum = true := by simp [Char.isAlphanum, letter]
  have ascii := toNat_lt_of_isAlphanum alphanum
  have upper : c.isAlpha = true → c.toUpper.isUpper = true :=
    of_ascii (P := fun c => c.isAlpha = true → c.toUpper.isUpper = true) (by decide +kernel) ascii
  refine ⟨?_, alphanum, upper letter⟩
  unfold isAlphanumeric
  rw [if_pos ascii]
  exact alphanum

theorem consFirst_cons (c : Char) (ws : List (List Char)) :
    ∃ word others, consFirst c ws = (c :: word) :: others := by
  cases ws with
  | nil => exact ⟨[], [], rfl⟩
  | cons word others => exact ⟨word, others, rfl⟩

/-- The first word takes the first character, since no letter before it can end a word. -/
theorem splitHumps_cons (c : Char) (rest : List Char) :
    ∃ word others, splitHumps .empty (c :: rest) = (c :: word) :: others := by
  cases rest with
  | nil => exact ⟨[], [], rfl⟩
  | cons d rest =>
    rw [splitHumps]
    split
    · exact ⟨[], _, rfl⟩
    · rw [if_neg fun capital => nomatch capital.1]
      exact consFirst_cons c _

/-- The first word of an identifier begins with its first letter. -/
theorem words_cons {name : String} (identifier : isIdentifier name) :
    ∃ c word others, words name = (c :: word) :: others ∧ c.isAlpha = true := by
  obtain ⟨c, rest, chars, letter⟩ := isIdentifier_cons identifier
  obtain ⟨piece, pieces, split⟩ := consFirst_cons c (splitSeparators rest)
  obtain ⟨word, others, humps⟩ := splitHumps_cons c piece
  refine ⟨c, word, others ++ pieces.flatMap (splitHumps .empty), ?_, letter⟩
  rw [words, chars, splitSeparators, if_pos (isAlpha_cases letter).1, split, List.flatMap_cons, humps]
  rfl

theorem smallWord_cons {c : Char} (letter : c.isAlpha = true) (word : List Char) :
    ∃ rest, smallWord (c :: word) = c.toLower :: rest := by
  obtain ⟨-, small, sigma, -⟩ := isAlphanum_cases (isAlpha_cases letter).2.1
  cases word with
  | nil =>
    rw [smallWord, if_neg sigma, small]
    exact ⟨[], rfl⟩
  | cons d word =>
    rw [smallWord, small]
    · exact ⟨_, rfl⟩
    · simp

/-- The `UpperCamel` spelling of an identifier begins with a capital. -/
theorem upperCamel_head {name : String} (identifier : isIdentifier name) :
    ∃ c rest, (upperCamel name).toList = c :: rest ∧ c.isUpper = true := by
  obtain ⟨c, word, others, split, letter⟩ := words_cons identifier
  refine ⟨c.toUpper, smallWord word ++ others.flatMap titleWord, ?_, (isAlpha_cases letter).2.2⟩
  rw [upperCamel, String.toList_ofList, split, List.flatMap_cons, titleWord,
    (isAlphanum_cases (isAlpha_cases letter).2.1).1]
  rfl

/-- The `lowerCamel` spelling of an identifier begins with no capital. -/
theorem lowerCamel_head {name : String} (identifier : isIdentifier name) :
    ∃ c rest, (lowerCamel name).toList = c :: rest ∧ c.isUpper = false := by
  obtain ⟨c, word, others, split, letter⟩ := words_cons identifier
  obtain ⟨rest, small⟩ := smallWord_cons letter word
  have lower : c.isAlpha = true → c.toLower.isUpper = false :=
    of_ascii (P := fun c => c.isAlpha = true → c.toLower.isUpper = false) (by decide +kernel)
      (toNat_lt_of_isAlphanum (isAlpha_cases letter).2.1)
  refine ⟨c.toLower, rest ++ others.flatMap titleWord, ?_, lower letter⟩
  rw [lowerCamel, split]
  dsimp only
  rw [String.toList_ofList, small]
  rfl

theorem upperCamel_isIdentifierChar {name : String} (identifier : isIdentifier name) :
    ∀ c ∈ (upperCamel name).toList, isIdentifierChar c = true := by
  intro c member
  rw [isIdentifierChar, upperCamel_isAlphanum identifier c member, Bool.true_or]

/-! ## Snake case -/

theorem snake_isIdentifierChar {name : String} (identifier : isIdentifier name) :
    ∀ c ∈ (snake name).toList, isIdentifierChar c = true := by
  intro c member
  rw [snake, String.toList_ofList] at member
  rcases mem_joined member with between | ⟨word, among, inside⟩
  · rw [List.mem_singleton.1 between]
    decide
  · obtain ⟨letters, word', rfl⟩ := List.mem_map.1 among
    have alphanum := smallWord_isAlphanum (words_isAlphanum identifier letters word') c inside
    rw [isIdentifierChar, alphanum, Bool.true_or]

theorem snake_ne_empty {name : String} (identifier : isIdentifier name) : snake name ≠ "" := by
  intro empty
  obtain ⟨c, word, others, split, letter⟩ := words_cons identifier
  obtain ⟨rest, small⟩ := smallWord_cons letter word
  have pieces := joined_eq_nil (congrArg String.toList empty ▸ String.toList_ofList.symm)
  rw [split] at pieces
  exact absurd (small.symm.trans (pieces _ List.mem_cons_self)) (by simp)

theorem lowerCamel_ne_empty {name : String} (identifier : isIdentifier name) : lowerCamel name ≠ "" := by
  intro empty
  obtain ⟨c, rest, chars, -⟩ := lowerCamel_head identifier
  exact absurd (chars.symm.trans (congrArg String.toList empty)) (by simp)

end Text

/-! ## Numbered names -/

theorem numbered_isIdentifierChar {word : String} (inside : ∀ c ∈ word.toList, isIdentifierChar c = true) (n : Nat) :
    ∀ c ∈ (word ++ toString n).toList, isIdentifierChar c = true := by
  rw [String.toList_append]
  refine List.forall_mem_append.2 ⟨inside, fun c digit => ?_⟩
  simp [isIdentifierChar, Char.isAlphanum, Text.isDigit_of_mem_toString digit]

theorem tupleName_isIdentifierChar (arity : Nat) :
    ∀ c ∈ (tupleName arity).toList, isIdentifierChar c = true :=
  numbered_isIdentifierChar (List.all_eq_true.1 (by decide)) arity

/-! ## Modules -/

theorem toList_toLower (text : String) : text.toLower.toList = text.toList.map Char.toLower :=
  String.toList_map

theorem toLower_isIdentifierChar {c : Char} (inside : isIdentifierChar c = true) :
    isIdentifierChar c.toLower = true := by
  rw [isIdentifierChar, Bool.or_eq_true, beq_iff_eq] at inside
  rcases inside with alphanum | rfl
  · rw [isIdentifierChar, (Text.isAlphanum_cases alphanum).2.2.2.2, Bool.true_or]
  · decide

/-- The name of a package consists of identifier characters. -/
theorem Go.moduleName_isIdentifierChar {segment : String} (identifier : isIdentifier segment) :
    ∀ c ∈ (Go.moduleName segment).toList, isIdentifierChar c = true := by
  have lower : ∀ c ∈ segment.toLower.toList, isIdentifierChar c = true := by
    intro c member
    rw [toList_toLower] at member
    obtain ⟨d, inside, rfl⟩ := List.mem_map.1 member
    exact toLower_isIdentifierChar (Text.isIdentifierChar_of_mem identifier inside)
  intro c member
  unfold Go.moduleName Go.escape at member
  split at member
  · rw [String.toList_append] at member
    rcases List.mem_append.1 member with inside | last
    · exact lower c inside
    · rw [List.mem_singleton.1 last]
      decide
  · exact lower c member

/-- Whether the character can stand in a segment of a path. -/
def Rust.isSegmentChar (c : Char) : Bool :=
  isIdentifierChar c || c == '#'

theorem Rust.isSegmentChar_of_isIdentifierChar {c : Char} (inside : isIdentifierChar c = true) :
    Rust.isSegmentChar c = true := by
  rw [Rust.isSegmentChar, inside, Bool.true_or]

/-- The name of a module in a path consists of segment characters, is not empty, and does not lead to the module
around. -/
theorem Rust.moduleName_plain {segment : String} (identifier : isIdentifier segment) :
    (∀ c ∈ (Rust.moduleName segment).toList, isSegmentChar c = true) ∧
      Rust.moduleName segment ≠ "" ∧ Rust.moduleName segment ≠ "super" := by
  have plain : ∀ c ∈ (Text.snake segment).toList, isSegmentChar c = true := fun c member =>
    isSegmentChar_of_isIdentifierChar (Text.snake_isIdentifierChar identifier c member)
  unfold Rust.moduleName Rust.escape
  split
  · next reserved =>
    refine ⟨?_, by simp [String.append_eq_empty_iff], ?_⟩
    · rw [String.toList_append]
      exact List.forall_mem_append.2 ⟨plain, List.all_eq_true.1 (by decide)⟩
    · have finite : ∀ word ∈ Rust.reservedWords, word ++ "_" ≠ "super" := by decide +kernel
      exact finite _ reserved
  · next unreserved =>
    split
    · refine ⟨?_, by simp [String.append_eq_empty_iff], fun same => ?_⟩
      · rw [String.toList_append]
        exact List.forall_mem_append.2 ⟨List.all_eq_true.1 (by decide), plain⟩
      · have first := congrArg (fun name : String => name.toList.head?) same
        rw [String.toList_append] at first
        exact absurd (Option.some.inj first) (by decide)
    · refine ⟨plain, Text.snake_ne_empty identifier, fun same => unreserved ?_⟩
      rw [same]
      decide +kernel

end SchemaBindings
