import SchemaBindings.Proofs.PlacedComments

/-!
# Lines that are kept, and lines that are indented

* A text is embedded line by line (`embedded`); one of whole lines without carriage returns (`IsLined`) as it stands
  (`IsLined.embedded_eq`).
* One level of depth more puts one indentation in front of every line that is not empty (`Layout.renderAll_succ`), so
  the depth of a piece can be told from its text alone (`indentText`).
-/

namespace SchemaBindings

/-! ## Texts of whole lines -/

/-- The text has no carriage returns and ends, unless it is empty, with a line feed. -/
def IsLined (text : String) : Prop :=
  '\r' ∉ text.toList ∧ (text.toList = [] ∨ text.toList.getLast? = some '\n')

instance (text : String) : Decidable (IsLined text) :=
  inferInstanceAs (Decidable (_ ∧ _))

namespace Text

theorem withoutReturn_of_not_mem {line : List Char} (plain : '\r' ∉ line) : withoutReturn line = line :=
  if_neg fun last => plain (List.mem_of_getLast? last)

/-- Such a text is what its lines make, each with a line feed behind. -/
theorem flatMap_splitLines {text : List Char} (plain : '\r' ∉ text)
    (ended : text = [] ∨ text.getLast? = some '\n') :
    (splitLines text).flatMap (· ++ ['\n']) = text := by
  induction text using lines_induction with
  | last line single =>
    rcases ended with rfl | last
    · rfl
    · exact absurd (List.mem_of_getLast? last) single
  | more line rest single ih =>
    rw [List.mem_append, not_or, List.mem_cons, not_or] at plain
    have ended' : rest = [] ∨ rest.getLast? = some '\n' := by
      rcases List.eq_nil_or_concat rest with rfl | ⟨front, c, rfl⟩
      · exact .inl rfl
      · refine .inr (ended.elim (fun empty => absurd empty (by simp)) fun last => ?_)
        rw [List.getLast?_append, List.getLast?_cons] at last
        simpa using last
    rw [splitLines_append single, withoutReturn_of_not_mem plain.1, List.flatMap_cons, ih plain.2.2 ended',
      List.append_assoc]
    rfl

end Text

/-- The text line by line, each with a line feed behind. -/
def embedded (text : String) : String :=
  String.join ((Text.lines text).map (· ++ "\n"))

theorem IsLined.embedded_eq {text : String} (lined : IsLined text) : embedded text = text := by
  rw [embedded, ← String.toList_inj, String.toList_join, Text.lines, List.flatMap_map, List.flatMap_map]
  refine Eq.trans (List.flatMap_congr fun line _ => ?_) (Text.flatMap_splitLines lined.1 lined.2)
  rw [String.toList_append, String.toList_ofList]
  rfl

theorem Layout.render_embed (unit text : String) : (embed text).render unit 0 = embedded text := by
  have plain : (Text.lines text).map (indented unit 0) = Text.lines text := by
    rw [List.map_congr_left fun line _ => indented_zero unit line, List.map_id']
  rw [render, join_renderLine, plain, embedded]

/-! ## One level of depth -/

/-- The text with an indentation in front of each line that is not empty. -/
def indentText (unit text : String) : String :=
  String.join ((Text.fullLines text.toList).map fun line =>
    if line = ['\n'] then "\n" else unit ++ String.ofList line)

example : indentText "  " "a\n\n  b\n" = "  a\n\n    b\n" := by decide +kernel

namespace Layout

theorem indented_succ_eq (unit : String) (depth : Nat) (text : String) :
    indented unit (depth + 1) text = indented unit 1 (indented unit depth text) := by
  by_cases empty : text = ""
  · rw [indented, if_pos empty, indented, indented, if_pos empty, if_pos rfl]
  · have filled : indented unit depth text ≠ "" := by
      rw [indented, if_neg empty]
      exact fun nothing => empty (String.append_eq_empty_iff.1 nothing).2
    rw [indented, if_neg empty, List.replicate_succ, String.join_cons]
    conv_rhs => rw [indented, if_neg filled, indented, if_neg empty]
    rw [List.replicate_one, String.join_cons, String.join_nil, String.append_empty, String.append_assoc]

theorem map_indented_succ (unit : String) (depth : Nat) (texts : List String) :
    texts.map (indented unit (depth + 1)) = (texts.map (indented unit depth)).map (indented unit 1) := by
  rw [List.map_map]
  exact List.map_congr_left fun text _ => indented_succ_eq unit depth text

mutual

/-- The lines of a piece one level deeper are its lines, indented once more. -/
theorem lineTexts_succ_eq (unit : String) (depth : Nat) : ∀ piece : Layout,
    piece.lineTexts unit (depth + 1) = (piece.lineTexts unit depth).map (indented unit 1)
  | line text => map_indented_succ unit depth [text]
  | blank => rfl
  | embed text => map_indented_succ unit depth (Text.lines text)
  | comment _ none => rfl
  | comment marker (some text) => map_indented_succ unit depth (commentLines marker text)
  | indent body => lineTextsAll_succ_eq unit (depth + 1) body
  | block opening closing body => by
    rw [lineTexts, lineTexts, lineTextsAll_succ_eq unit (depth + 1) body, List.map_cons, List.map_append,
      List.map_singleton, ← indented_succ_eq, ← indented_succ_eq]

theorem lineTextsAll_succ_eq (unit : String) (depth : Nat) : ∀ pieces : List Layout,
    lineTextsAll unit (depth + 1) pieces = (lineTextsAll unit depth pieces).map (indented unit 1)
  | [] => rfl
  | piece :: rest => by
    rw [lineTextsAll, lineTextsAll, lineTexts_succ_eq unit depth piece, lineTextsAll_succ_eq unit depth rest,
      List.map_append]

end

/-- The text of a line, indented, is its line, indented. -/
theorem indented_one (unit line : String) :
    indented unit 1 line ++ "\n" =
      if line.toList ++ ['\n'] = ['\n'] then "\n" else unit ++ String.ofList (line.toList ++ ['\n']) := by
  have empty : line.toList ++ ['\n'] = ['\n'] ↔ line = "" := by simp
  by_cases nothing : line = ""
  · rw [if_pos (empty.2 nothing), indented, if_pos nothing, String.empty_append]
  · rw [if_neg (mt empty.1 nothing), indented, if_neg nothing, List.replicate_one, String.join_cons,
      String.join_nil, String.append_empty, String.ofList_append, String.ofList_toList, String.append_assoc]

/-- Pieces that stand one level deeper have the same text, indented. -/
theorem renderAll_succ {unit : String} (plain : OneLine unit) (depth : Nat) {pieces : List Layout}
    (tidy : TidyAll pieces) :
    renderAll unit (depth + 1) pieces = indentText unit (renderAll unit depth pieces) := by
  rw [renderAll_eq, renderAll_eq, lineTextsAll_succ_eq, indentText,
    Text.fullLines_join (oneLine_of_mem_lineTextsAll plain depth tidy), List.map_map, List.map_map]
  exact congrArg String.join (List.map_congr_left fun line _ => indented_one unit line)

end Layout

end SchemaBindings
