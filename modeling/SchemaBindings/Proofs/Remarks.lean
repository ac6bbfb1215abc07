import SchemaBindings.Proofs.SourceLines

/-!
# Remarks

A remark is a line that begins with `//` behind blanks. What is left of a text without its remarks (`withoutRemarks`)
is made line by line, whether a line ends with the text or with a line feed, and the lines of the rest are the other
lines of the text (`lines_withoutRemarks`).

Each line of a comment is a remark, whatever its text is, and an indentation does not change what is one. So the text
of a layout without its remarks is that of the layout without its comments (`Layout.withoutRemarks_text`).
-/

namespace SchemaBindings

namespace Text

/-! ## Lines -/

/-- The lines of a text with the line feeds at their ends; the last line may have none. -/
def fullLines : List Char → List (List Char)
  | [] => []
  | '\n' :: rest => ['\n'] :: fullLines rest
  | c :: rest =>
    match fullLines rest with
    | [] => [[c]]
    | line :: others => (c :: line) :: others

/-- A text is a line, or it is a line, a line feed and a text behind. -/
theorem lines_induction {P : List Char → Prop} (last : ∀ line, '\n' ∉ line → P line)
    (more : ∀ line rest, '\n' ∉ line → P rest → P (line ++ '\n' :: rest)) (text : List Char) : P text := by
  have behind : ∀ text line : List Char, '\n' ∉ line → P (line ++ text) := by
    intro text
    induction text with
    | nil =>
      intro line single
      rw [List.append_nil]
      exact last line single
    | cons c text ih =>
      intro line single
      by_cases feed : c = '\n'
      · rw [feed]
        exact more line text single (ih [] List.not_mem_nil)
      · rw [List.append_cons]
        refine ih (line ++ [c]) fun inside => ?_
        rcases List.mem_append.1 inside with before | here
        · exact single before
        · exact feed (List.mem_singleton.1 here).symm
  exact behind text [] List.not_mem_nil

theorem fullLines_cons {c : Char} (other : c ≠ '\n') (rest : List Char) :
    fullLines (c :: rest) =
      match fullLines rest with
      | [] => [[c]]
      | line :: others => (c :: line) :: others := by
  rw [fullLines]
  exact fun same => other same

theorem fullLines_append {line : List Char} (single : '\n' ∉ line) (rest : List Char) :
    fullLines (line ++ '\n' :: rest) = (line ++ ['\n']) :: fullLines rest := by
  induction line with
  | nil => rfl
  | cons c line ih =>
    rw [List.mem_cons, not_or] at single
    rw [List.cons_append, fullLines_cons (Ne.symm single.1), ih single.2]
    rfl

theorem fullLines_single {line : List Char} (single : '\n' ∉ line) (filled : line ≠ []) :
    fullLines line = [line] := by
  induction line with
  | nil => exact absurd rfl filled
  | cons c line ih =>
    rw [List.mem_cons, not_or] at single
    rw [fullLines_cons (Ne.symm single.1)]
    cases line with
    | nil => rfl
    | cons d line => rw [ih single.2 (List.cons_ne_nil d line)]

/-- A line feed ends a line, so the text in front of it can be read alone. -/
theorem fullLines_split (text rest : List Char) :
    fullLines (text ++ '\n' :: rest) = fullLines (text ++ ['\n']) ++ fullLines rest := by
  induction text using lines_induction with
  | last line single => rw [fullLines_append single, fullLines_append single]; rfl
  | more line text single ih =>
    rw [List.append_assoc, List.cons_append, fullLines_append single, ih, List.append_assoc, List.cons_append,
      fullLines_append single, List.cons_append]

theorem splitLines_single {line : List Char} (single : '\n' ∉ line) (filled : line ≠ []) :
    splitLines line = [line] := by
  induction line with
  | nil => exact absurd rfl filled
  | cons c line ih =>
    rw [List.mem_cons, not_or] at single
    rw [splitLines]
    · cases line with
      | nil => rfl
      | cons d line => rw [ih single.2 (List.cons_ne_nil d line)]
    · exact fun same => single.1 same.symm
    · rintro rest - same
      exact single.2 (same ▸ List.mem_cons_self)

/-! ## Remarks -/

/-- Whether a line begins with two slashes behind blanks. -/
def isRemark (line : List Char) : Bool :=
  ['/', '/'].isPrefixOf (line.dropWhile isBlank)

theorem isRemark_append {line : List Char} {c : Char} (blank : isBlank c = true) :
    isRemark (line ++ [c]) = isRemark line := by
  induction line with
  | nil => simp [isRemark, blank]
  | cons d line ih =>
    unfold isRemark at ih ⊢
    by_cases skipped : isBlank d = true
    · rw [List.cons_append, List.dropWhile_cons_of_pos skipped, List.dropWhile_cons_of_pos skipped]
      exact ih
    · rw [List.cons_append, List.dropWhile_cons_of_neg skipped, List.dropWhile_cons_of_neg skipped]
      cases line with
      | nil =>
        have other : ('/' == c) = false := by
          rw [beq_eq_false_iff_ne]
          rintro rfl
          exact absurd blank (by decide)
        simp [List.isPrefixOf, other]
      | cons _ _ => rfl

theorem isRemark_withoutReturn (line : List Char) : isRemark (withoutReturn line) = isRemark line := by
  unfold withoutReturn
  split
  · next last =>
    obtain ⟨front, rfl⟩ := List.getLast?_eq_some_iff.1 last
    rw [List.dropLast_concat, isRemark_append (by decide)]
  · rfl

theorem isRemark_of_start {start : List Char} (remark : isRemark start = true) (rest : List Char) :
    isRemark (start ++ rest) = true := by
  unfold isRemark at remark ⊢
  rw [List.isPrefixOf_iff_prefix] at remark ⊢
  have filled : start.dropWhile isBlank ≠ [] := by
    intro empty
    rw [empty] at remark
    exact absurd (List.prefix_nil.1 remark) (List.cons_ne_nil _ _)
  rw [List.dropWhile_append, if_neg (by simpa using filled)]
  exact remark.trans (List.prefix_append _ _)

theorem isRemark_blanks {blanks : List Char} (blank : ∀ c ∈ blanks, isBlank c = true) (line : List Char) :
    isRemark (blanks ++ line) = isRemark line := by
  unfold isRemark
  rw [List.dropWhile_append_of_pos blank]

/-- The characters of a text without those of its remarks. -/
def dropRemarks (text : List Char) : List Char :=
  ((fullLines text).filter (!isRemark ·)).flatten

theorem dropRemarks_split (text rest : List Char) :
    dropRemarks (text ++ '\n' :: rest) = dropRemarks (text ++ ['\n']) ++ dropRemarks rest := by
  rw [dropRemarks, fullLines_split, List.filter_append, List.flatten_append]
  rfl

theorem dropRemarks_line {line : List Char} (single : '\n' ∉ line) :
    dropRemarks (line ++ ['\n']) = if isRemark line then [] else line ++ ['\n'] := by
  rw [dropRemarks, fullLines_append single, fullLines, List.filter_singleton, isRemark_append (by decide)]
  cases isRemark line with
  | true => rfl
  | false => exact List.append_nil _

/-- The lines of a text without its remarks are its other lines. -/
theorem splitLines_dropRemarks (text : List Char) :
    splitLines (dropRemarks text) = (splitLines text).filter (!isRemark ·) := by
  induction text using lines_induction with
  | last line single =>
    by_cases empty : line = []
    · rw [empty]
      rfl
    · rw [dropRemarks, fullLines_single single empty, splitLines_single single empty, List.filter_singleton]
      cases isRemark line with
      | true => rfl
      | false => exact (congrArg splitLines (List.append_nil line)).trans (splitLines_single single empty)
  | more line rest single ih =>
    rw [dropRemarks_split, dropRemarks_line single, splitLines_append single, List.filter_cons,
      isRemark_withoutReturn, ← ih]
    cases isRemark line with
    | true => rfl
    | false =>
      show splitLines (line ++ ['\n'] ++ dropRemarks rest) = withoutReturn line :: splitLines (dropRemarks rest)
      rw [List.append_assoc]
      exact splitLines_append single (dropRemarks rest)

def withoutRemarks (text : String) : String :=
  String.ofList (dropRemarks text.toList)

theorem lines_withoutRemarks (text : String) :
    lines (withoutRemarks text) = (lines text).filter fun line => !isRemark line.toList := by
  rw [lines, withoutRemarks, String.toList_ofList, splitLines_dropRemarks, lines, List.filter_map]
  simp only [Function.comp_def, String.toList_ofList]

theorem withoutRemarks_append (text rest : String) :
    withoutRemarks (text ++ "\n" ++ rest) = withoutRemarks (text ++ "\n") ++ withoutRemarks rest := by
  have feed : ("\n" : String).toList = ['\n'] := rfl
  rw [withoutRemarks, withoutRemarks, withoutRemarks, String.toList_append, String.toList_append, feed,
    List.append_assoc, List.singleton_append, dropRemarks_split, String.ofList_append]

/-- What is left of lines is what is left of each of them. -/
theorem withoutRemarks_join (ls : List String) :
    withoutRemarks (String.join (ls.map (· ++ "\n"))) = String.join (ls.map fun line => withoutRemarks (line ++ "\n")) := by
  induction ls with
  | nil => rfl
  | cons line ls ih =>
    rw [List.map_cons, List.map_cons, String.join_cons, String.join_cons, withoutRemarks_append, ih]

/-- A remark leaves nothing. -/
theorem withoutRemarks_remark {line : String} (single : OneLine line) (remark : isRemark line.toList = true) :
    withoutRemarks (line ++ "\n") = "" := by
  have feed : ("\n" : String).toList = ['\n'] := rfl
  rw [withoutRemarks, String.toList_append, feed, dropRemarks_line single, if_pos remark]

example : withoutRemarks "a\n  // b\r\nc // d" = "a\nc // d" := by decide +kernel

end Text

/-! ## Layouts -/

namespace Layout

/-- Each line behind the marker is a remark. -/
def isMarker (marker : String) : Bool :=
  decide (OneLine marker) && Text.isRemark marker.toList

/-- What stands before the lines of a block is blank. -/
structure IsIndentation (unit : String) : Prop where
  single : OneLine unit
  blank : unit.toList.all Text.isBlank = true

mutual

/-- The layout without its comments, and without the remarks in what is rendered already. -/
def bare : Layout → Layout
  | line text => line text
  | blank => blank
  | embed text => embed (Text.withoutRemarks text)
  | comment marker text => comment marker (if isMarker marker then none else text)
  | indent body => indent (bareAll body)
  | block opening closing body => block opening closing (bareAll body)

def bareAll : List Layout → List Layout
  | [] => []
  | piece :: rest => piece.bare :: bareAll rest

end

theorem bareAll_eq_map (pieces : List Layout) : bareAll pieces = pieces.map bare := by
  induction pieces with
  | nil => rfl
  | cons piece rest ih => rw [bareAll, ih, List.map_cons]

theorem bare_comment {marker : String} (marks : isMarker marker = true) (text : Option String) :
    (comment marker text).bare = comment marker none := by
  rw [bare, if_pos marks]

/-- The text of a comment does not count. -/
theorem bareAll_comment {marker : String} (marks : isMarker marker = true) (text text' : Option String)
    (rest : List Layout) : bareAll (comment marker text :: rest) = bareAll (comment marker text' :: rest) := by
  rw [bareAll, bareAll, bare_comment marks, bare_comment marks]

theorem bareAll_append (pieces rest : List Layout) : bareAll (pieces ++ rest) = bareAll pieces ++ bareAll rest := by
  rw [bareAll_eq_map, bareAll_eq_map, bareAll_eq_map, List.map_append]

theorem bareAll_flatMap {α : Type} (pieces : α → List Layout) (as : List α) :
    bareAll (as.flatMap pieces) = as.flatMap fun a => bareAll (pieces a) := by
  simp only [bareAll_eq_map, List.map_flatMap]

def lineCode (line : String) : String :=
  Text.withoutRemarks (line ++ "\n")

section

variable {unit : String} (indentation : IsIndentation unit) (depth : Nat)

include indentation

theorem isRemark_indented {line : String} (remark : Text.isRemark line.toList = true) :
    Text.isRemark (indented unit depth line).toList = true := by
  unfold indented
  split
  · next empty =>
    rw [empty] at remark
    exact remark
  · rw [String.toList_append, Text.isRemark_blanks]
    · exact remark
    · intro c member
      rw [String.toList_join, List.mem_flatMap] at member
      obtain ⟨piece, among, inside⟩ := member
      rw [List.eq_of_mem_replicate among] at inside
      exact List.all_eq_true.1 indentation.blank c inside

/-- A line that is a remark leaves nothing at any depth. -/
theorem lineCode_remark {line : String} (single : OneLine line) (remark : Text.isRemark line.toList = true) :
    lineCode (indented unit depth line) = "" :=
  Text.withoutRemarks_remark (oneLine_indented indentation.single depth single)
    (isRemark_indented indentation depth remark)

/-- Each line of a comment is a remark, whatever its text is. -/
theorem lineCode_comment {marker text line : String} (marks : isMarker marker = true)
    (member : line ∈ commentLines marker text) : lineCode (indented unit depth line) = "" := by
  rw [isMarker, Bool.and_eq_true, decide_eq_true_eq] at marks
  refine lineCode_remark indentation depth (oneLine_of_mem_commentLines marks.1 member) ?_
  obtain ⟨source, -, rfl⟩ := List.mem_map.1 member
  dsimp only
  split
  · exact marks.2
  · rw [String.toList_append, String.toList_append, List.append_assoc]
    exact Text.isRemark_of_start marks.2 _

omit indentation in
theorem join_map_eq_empty {α : Type} {f : α → String} {as : List α} (each : ∀ a ∈ as, f a = "") :
    String.join (as.map f) = "" := by
  induction as with
  | nil => rfl
  | cons a as ih =>
    rw [List.map_cons, String.join_cons, each a List.mem_cons_self, ih fun b member => each b (.tail a member)]
    rfl

/-- The lines of an embedded text that are remarks can be left out of it. -/
theorem join_lineCode_filter (ls : List String) (single : ∀ line ∈ ls, OneLine line) :
    String.join ((ls.map (indented unit depth)).map lineCode) =
      String.join (((ls.filter fun line => !Text.isRemark line.toList).map (indented unit depth)).map lineCode) := by
  induction ls with
  | nil => rfl
  | cons line ls ih =>
    obtain ⟨first, others⟩ := List.forall_mem_cons.1 single
    rw [List.map_cons, List.map_cons, String.join_cons, ih others, List.filter_cons]
    cases remark : Text.isRemark line.toList with
    | true =>
      rw [lineCode_remark indentation depth first remark]
      exact String.empty_append
    | false => exact String.join_cons.symm

end

mutual

/-- What is left of a piece is what is left of it without its comments. -/
theorem lineCode_bare {unit : String} (indentation : IsIndentation unit) (depth : Nat) : ∀ piece : Layout,
    String.join ((piece.lineTexts unit depth).map lineCode) = String.join ((piece.bare.lineTexts unit depth).map lineCode)
  | line _ | blank => rfl
  | embed text => by
    rw [bare, lineTexts, lineTexts, Text.lines_withoutRemarks]
    exact join_lineCode_filter indentation depth (Text.lines text) fun _ => oneLine_of_mem_lines
  | comment marker none => by
    rw [bare, ite_self]
  | comment marker (some text) => by
    rw [bare]
    split
    · next marks =>
      rw [lineTexts, lineTexts, List.map_map]
      exact join_map_eq_empty fun line member => lineCode_comment indentation depth marks member
    · rfl
  | indent body => lineCode_bareAll indentation (depth + 1) body
  | block opening closing body => by
    rw [bare, lineTexts, lineTexts, List.map_cons, List.map_cons, List.map_append, List.map_append, String.join_cons,
      String.join_cons, String.join_append, String.join_append, lineCode_bareAll indentation (depth + 1) body]

theorem lineCode_bareAll {unit : String} (indentation : IsIndentation unit) (depth : Nat) : ∀ pieces : List Layout,
    String.join ((lineTextsAll unit depth pieces).map lineCode) =
      String.join ((lineTextsAll unit depth (bareAll pieces)).map lineCode)
  | [] => rfl
  | piece :: rest => by
    rw [bareAll, lineTextsAll, lineTextsAll, List.map_append, List.map_append, String.join_append, String.join_append,
      lineCode_bare indentation depth piece, lineCode_bareAll indentation depth rest]

end

/-- What is left of a source is what is left of it without its comments. -/
theorem withoutRemarks_text {unit : String} (indentation : IsIndentation unit) (pieces : List Layout) :
    Text.withoutRemarks (text unit pieces) = Text.withoutRemarks (text unit (bareAll pieces)) := by
  rw [text, text, renderAll_eq, renderAll_eq, Text.withoutRemarks_join, Text.withoutRemarks_join]
  exact lineCode_bareAll indentation 0 pieces

/-- Sources that differ in comments only leave the same. -/
theorem withoutRemarks_congr {unit : String} (indentation : IsIndentation unit) {pieces pieces' : List Layout}
    (same : bareAll pieces = bareAll pieces') :
    Text.withoutRemarks (text unit pieces) = Text.withoutRemarks (text unit pieces') := by
  rw [withoutRemarks_text indentation pieces, same, ← withoutRemarks_text indentation]

end Layout

end SchemaBindings
