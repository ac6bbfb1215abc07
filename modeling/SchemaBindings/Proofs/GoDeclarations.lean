import SchemaBindings.Proofs.SourceLines
import SchemaBindings.Target.Go

/-!
# Declarations in Go source

A line of Go source declares a name at the top level if it begins with one of four words and goes on with the name
(`declaredName?`). All other lines of generated source begin with a blank, a brace, the marker of a comment, or another
word, so what a source declares can be read off its layout (`topLevelNames_text`): it is what the lines outside all
blocks declare.
-/

namespace SchemaBindings.Go

/-! ## Reading -/

/-- The words in front of a name that is declared at the top level. -/
def declarationWords : List String :=
  ["type ", "func ", "const ", "var "]

/-- What stands behind a word in a line that begins with it. -/
def behind? : (word line : List Char) → Option (List Char)
  | [], rest => some rest
  | _ :: _, [] => none
  | c :: word, d :: rest => if c = d then behind? word rest else none

/-- The name behind a word in a line that begins with it. A method has its receiver there, and is no name of the
package. -/
def nameBehind? (word line : String) : Option String :=
  (behind? word.toList line.toList).bind fun rest =>
    let name := rest.takeWhile isIdentifierChar
    if name = [] then none else some (String.ofList name)

/-- The name that a line declares at the top level. -/
def declaredName? (line : String) : Option String :=
  declarationWords.findSome? (nameBehind? · line)

/-- The names that a source declares at the top level, in order. -/
def topLevelNames (source : String) : List String :=
  (Text.lines source).filterMap declaredName?

/-! ## Lines -/

theorem behind?_append (word rest : List Char) : behind? word (word ++ rest) = some rest := by
  induction word with
  | nil => rfl
  | cons c word ih => rw [List.cons_append, behind?, if_pos rfl, ih]

theorem behind?_of_ne {c d : Char} (differ : c ≠ d) (word rest : List Char) :
    behind? (c :: word) (d :: rest) = none := by
  rw [behind?, if_neg differ]

/-- A carriage return at the end of a line is no part of what it begins with. -/
theorem behind?_return {word : List Char} (plain : '\r' ∉ word) (line : List Char) :
    behind? word (line ++ ['\r']) = (behind? word line).map (· ++ ['\r']) := by
  induction word generalizing line with
  | nil => rfl
  | cons c word ih =>
    rw [List.mem_cons, not_or] at plain
    cases line with
    | nil => rw [List.nil_append, behind?_of_ne (Ne.symm plain.1), behind?, Option.map_none]
    | cons d line =>
      rw [List.cons_append, behind?, behind?]
      split
      · exact ih plain.2 line
      · rfl

theorem takeWhile_return (rest : List Char) :
    (rest ++ ['\r']).takeWhile isIdentifierChar = rest.takeWhile isIdentifierChar := by
  induction rest with
  | nil => decide
  | cons c rest ih =>
    rw [List.cons_append, List.takeWhile_cons, List.takeWhile_cons, ih]

theorem nameBehind?_return {word : String} (plain : '\r' ∉ word.toList) {line before : String}
    (ends : line.toList = before.toList ++ ['\r']) : nameBehind? word line = nameBehind? word before := by
  unfold nameBehind?
  rw [ends, behind?_return plain]
  cases behind? word.toList before.toList with
  | none => rfl
  | some rest => simp only [Option.map_some, Option.bind_some, takeWhile_return]

theorem declaredName?_withoutReturn (line : String) :
    declaredName? (String.ofList (Text.withoutReturn line.toList)) = declaredName? line := by
  unfold Text.withoutReturn
  split
  · next last =>
    have ends : line.toList = (String.ofList line.toList.dropLast).toList ++ ['\r'] := by
      obtain ⟨before, equal⟩ := List.getLast?_eq_some_iff.1 last
      rw [String.toList_ofList, equal, List.dropLast_concat]
    have plain : ∀ word ∈ declarationWords, '\r' ∉ word.toList := by decide
    unfold declaredName?
    rw [← List.head?_filterMap, ← List.head?_filterMap]
    refine congrArg List.head? (List.filterMap_congr fun word among => ?_)
    exact (nameBehind?_return (plain word among) ends).symm
  · rw [String.ofList_toList]

theorem nameBehind?_of_head {word line : String} (some : word ≠ "")
    (other : line.toList.head? ≠ word.toList.head?) : nameBehind? word line = none := by
  unfold nameBehind?
  cases letters : word.toList with
  | nil => exact absurd (String.toList_injective letters) some
  | cons c tail =>
    cases chars : line.toList with
    | nil => rfl
    | cons d rest =>
      rw [letters, chars, List.head?_cons, List.head?_cons] at other
      rw [behind?_of_ne (fun same => other (congrArg Option.some same.symm)), Option.bind_none]

/-- A line that begins with another letter declares nothing. -/
theorem declaredName?_eq_none {line : String}
    (other : line.toList.head? ∉ declarationWords.map fun word => word.toList.head?) :
    declaredName? line = none := by
  have filled : ∀ word ∈ declarationWords, word ≠ "" := by decide
  refine List.findSome?_eq_none_iff.2 fun word among => ?_
  exact nameBehind?_of_head (filled word among) fun same => other (List.mem_map.2 ⟨word, among, same.symm⟩)

theorem declaredName?_append_eq_none {opening : String} (filled : opening ≠ "")
    (other : opening.toList.head? ∉ declarationWords.map fun word => word.toList.head?) (rest : String) :
    declaredName? (opening ++ rest) = none := by
  have nonempty : opening.toList ≠ [] := fun empty => filled (String.toList_injective empty)
  refine declaredName?_eq_none ?_
  rwa [String.toList_append, List.head?_append_of_ne_nil _ nonempty]

/-- A line that begins with one of the words and a name declares the name. -/
theorem declaredName?_eq_some {word : String} (among : word ∈ declarationWords) {name rest : String}
    (inside : ∀ c ∈ name.toList, isIdentifierChar c = true) (some : name ≠ "")
    (ends : Text.Ends isIdentifierChar rest.toList) :
    declaredName? (word ++ name ++ rest) = Option.some name := by
  have behind : nameBehind? word (word ++ name ++ rest) = Option.some name := by
    unfold nameBehind?
    rw [String.toList_append, String.toList_append, List.append_assoc, behind?_append, Option.bind_some]
    dsimp only
    rw [Text.takeWhile_append inside ends, String.ofList_toList, if_neg]
    exact fun empty => some (String.toList_injective empty)
  -- No other word begins with the same letter.
  have filled : ∀ word ∈ declarationWords, word ≠ "" := by decide
  have heads : ∀ word ∈ declarationWords, ∀ other ∈ declarationWords, other ≠ word →
      word.toList.head? ≠ other.toList.head? := by
    decide
  have first : (word ++ name ++ rest).toList.head? = word.toList.head? := by
    have nonempty : word.toList ≠ [] := fun empty => filled word among (String.toList_injective empty)
    rw [String.toList_append, String.toList_append, List.append_assoc,
      List.head?_append_of_ne_nil _ nonempty]
  obtain ⟨before, after, split⟩ := List.append_of_mem among
  have distinct : declarationWords.Nodup := by decide
  refine List.findSome?_eq_some_iff.2 ⟨before, word, after, split, behind, fun other earlier => ?_⟩
  have differ : other ≠ word := by
    rw [split] at distinct
    exact (List.nodup_append.1 distinct).2.2 other earlier word List.mem_cons_self
  have listed : other ∈ declarationWords := split ▸ List.mem_append_left _ earlier
  exact nameBehind?_of_head (filled other listed) (first ▸ heads word among other listed differ)

/-! ## Layouts -/

/-- The names that a piece outside all blocks declares. -/
def declaredNames (piece : Layout) : List String :=
  (piece.lineTexts indentation 0).filterMap declaredName?

/-- A source declares what the pieces of its layout declare. -/
theorem topLevelNames_text {pieces : List Layout} (tidy : Layout.TidyAll pieces) :
    topLevelNames (Layout.text indentation pieces) = pieces.flatMap declaredNames := by
  rw [topLevelNames, Layout.lines_text (by decide) tidy, Layout.lineTextsAll_eq_flatMap,
    List.filterMap_map, List.filterMap_flatMap]
  refine List.flatMap_congr fun piece _ => List.filterMap_congr fun line _ => ?_
  rw [Function.comp_apply, declaredName?_withoutReturn]

theorem declaredNames_line (text : String) : declaredNames (.line text) = (declaredName? text).toList := by
  rw [declaredNames, Layout.lineTexts, Layout.indented_zero, List.filterMap_cons, List.filterMap_nil]
  cases declaredName? text with
  | none => rfl
  | some name => rfl

theorem declaredNames_blank : declaredNames .blank = [] := by
  decide

/-- An embedded source declares what it declares by itself. -/
theorem declaredNames_embed (source : String) : declaredNames (.embed source) = topLevelNames source := by
  rw [declaredNames, Layout.lineTexts, topLevelNames, List.filterMap_map]
  refine List.filterMap_congr fun line _ => ?_
  exact congrArg declaredName? (Layout.indented_zero _ _)

theorem declaredNames_comment (text : Option String) : declaredNames (.comment "//" text) = [] := by
  cases text with
  | none => rfl
  | some text =>
    refine List.filterMap_eq_nil_iff.2 fun line member => ?_
    obtain ⟨source, among, rfl⟩ := List.mem_map.1 member
    obtain ⟨content, -, rfl⟩ := List.mem_map.1 among
    rw [Layout.indented_zero]
    dsimp only
    split
    · decide
    · rw [String.append_assoc]
      exact declaredName?_append_eq_none (by decide) (by decide) _

/-- A block declares what its first and its last line declare. -/
theorem declaredNames_block (opening closing : String) (body : List Layout) :
    declaredNames (.block opening closing body) =
      (declaredName? opening).toList ++ (declaredName? closing).toList := by
  have inside : (Layout.lineTextsAll indentation 1 body).filterMap declaredName? = [] := by
    refine List.filterMap_eq_nil_iff.2 fun line member => ?_
    rcases Layout.lineTextsAll_succ indentation 0 body line member with rfl | ⟨rest, rfl⟩
    · decide
    · exact declaredName?_append_eq_none (by decide) (by decide) rest
  rw [← declaredNames_line, ← declaredNames_line, declaredNames, Layout.lineTexts, ← List.singleton_append,
    List.filterMap_append, List.filterMap_append, inside, List.nil_append]
  rfl

theorem declaredNames_braced (head : String) (body : List Layout) :
    declaredNames (.braced head body) = (declaredName? (head ++ " \x7b")).toList := by
  have closing : declaredName? "\x7d" = none := by decide
  rw [Layout.braced, declaredNames_block, closing, Option.toList_none, List.append_nil]

end SchemaBindings.Go
