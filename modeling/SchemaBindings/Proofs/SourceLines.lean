import Mathlib.Data.List.Basic
import SchemaBindings.Proofs.TextPieces
import SchemaBindings.Identifier
import SchemaBindings.Source.Layout

/-!
# Lines of source text

A layout is rendered line by line (`Layout.render_eq`). If each text in it stands in one line, the lines of the source
are the lines of the layout (`lines_text`), except that a carriage return at the end of a line counts as its end.
-/

namespace SchemaBindings

/-! ## Lines of a text -/

namespace Text

/-- A line without the carriage return at its end. -/
def withoutReturn (line : List Char) : List Char :=
  if line.getLast? = some '\r' then line.dropLast else line

theorem withoutReturn_cons {c d : Char} {line : List Char} :
    withoutReturn (c :: d :: line) = c :: withoutReturn (d :: line) := by
  unfold withoutReturn
  rw [List.getLast?_cons_cons]
  split
  · rfl
  · rfl

theorem splitLines_append {line : List Char} (single : '\n' ∉ line) (rest : List Char) :
    splitLines (line ++ '\n' :: rest) = withoutReturn line :: splitLines rest := by
  induction line with
  | nil => rfl
  | cons c line ih =>
    rw [List.mem_cons, not_or] at single
    obtain ⟨other, single⟩ := single
    cases line with
    | nil =>
      by_cases carriage : c = '\r'
      · subst carriage
        rfl
      · have kept : withoutReturn [c] = [c] := by simp [withoutReturn, carriage]
        rw [kept, List.singleton_append, splitLines]
        · rfl
        · exact fun same => other same.symm
        · exact fun _ same _ => carriage same
    | cons d line =>
      rw [withoutReturn_cons, List.cons_append, splitLines]
      · rw [ih single]
      · exact fun same => other same.symm
      · rintro rest' - same
        exact single (by simp [(List.cons.inj same).1])

theorem splitLines_newline {text : List Char} : ∀ line ∈ splitLines text, '\n' ∉ line := by
  fun_induction splitLines text with
  | case1 => simp
  | case2 rest ih => simpa using ih
  | case3 rest ih => simpa using ih
  | case4 c rest plain _ none ih =>
    simpa using fun same => plain same.symm
  | case5 c rest plain _ line others some ih =>
    rw [some, List.forall_mem_cons] at ih
    refine List.forall_mem_cons.2 ⟨?_, ih.2⟩
    rw [List.mem_cons, not_or]
    exact ⟨fun same => plain same.symm, ih.1⟩

end Text

/-! ## Texts in one line -/

def OneLine (text : String) : Prop :=
  '\n' ∉ text.toList

@[simp] theorem oneLine_append {a b : String} : OneLine (a ++ b) ↔ OneLine a ∧ OneLine b := by
  simp [OneLine]

instance (text : String) : Decidable (OneLine text) :=
  inferInstanceAs (Decidable (¬ _ ∈ _))

theorem oneLine_of_isIdentifierChar {text : String}
    (inside : ∀ c ∈ text.toList, isIdentifierChar c = true) : OneLine text :=
  fun newline => absurd (inside _ newline) (by decide)

theorem oneLine_intercalate {separator : String} (between : OneLine separator) {texts : List String}
    (each : ∀ text ∈ texts, OneLine text) : OneLine (separator.intercalate texts) := by
  unfold OneLine
  rw [String.toList_intercalate]
  intro newline
  rcases Text.mem_joined newline with inside | ⟨piece, among, inside⟩
  · exact between inside
  · obtain ⟨text, member, rfl⟩ := List.mem_map.1 among
    exact each text member inside

theorem oneLine_toString (n : Nat) : OneLine (toString n) :=
  fun newline => absurd (Text.isDigit_of_mem_toString newline) (by decide)

theorem oneLine_of_mem_lines {text line : String} (member : line ∈ Text.lines text) : OneLine line := by
  obtain ⟨chars, among, rfl⟩ := List.mem_map.1 member
  unfold OneLine
  rw [String.toList_ofList]
  exact Text.splitLines_newline chars among

/-- The lines of a text that is made of lines. -/
theorem lines_join {ls : List String} (each : ∀ line ∈ ls, OneLine line) :
    Text.lines (String.join (ls.map (· ++ "\n"))) =
      ls.map fun line => String.ofList (Text.withoutReturn line.toList) := by
  have split : ∀ ls : List String, (∀ line ∈ ls, OneLine line) →
      Text.splitLines (String.join (ls.map (· ++ "\n"))).toList =
        ls.map fun line => Text.withoutReturn line.toList := by
    intro ls each
    induction ls with
    | nil => rfl
    | cons line ls ih =>
      obtain ⟨first, others⟩ := List.forall_mem_cons.1 each
      rw [List.map_cons, String.join_cons, String.toList_append, String.toList_append, List.append_assoc]
      exact (Text.splitLines_append first _).trans (congrArg _ (ih others))
  rw [Text.lines, split ls each, List.map_map]
  rfl

/-! ## Lines of a layout -/

namespace Layout

def indented (unit : String) (depth : Nat) (text : String) : String :=
  if text = "" then "" else String.join (List.replicate depth unit) ++ text

mutual

/-- The lines of a piece at a depth. -/
def lineTexts (unit : String) (depth : Nat) : Layout → List String
  | line text => [indented unit depth text]
  | blank => [""]
  | embed text => (Text.lines text).map (indented unit depth)
  | comment _ none => []
  | comment marker (some text) => (commentLines marker text).map (indented unit depth)
  | indent body => lineTextsAll unit (depth + 1) body
  | block opening closing body =>
    indented unit depth opening ::
      (lineTextsAll unit (depth + 1) body ++ [indented unit depth closing])

def lineTextsAll (unit : String) (depth : Nat) : List Layout → List String
  | [] => []
  | piece :: rest => piece.lineTexts unit depth ++ lineTextsAll unit depth rest

end

theorem renderAll_append (unit : String) (depth : Nat) (pieces rest : List Layout) :
    renderAll unit depth (pieces ++ rest) = renderAll unit depth pieces ++ renderAll unit depth rest := by
  induction pieces with
  | nil => exact String.empty_append.symm
  | cons piece pieces ih => rw [List.cons_append, renderAll, renderAll, ih, String.append_assoc]

theorem renderLine_eq (unit : String) (depth : Nat) (text : String) :
    renderLine unit depth text = indented unit depth text ++ "\n" := by
  unfold renderLine indented
  split <;> rfl

theorem join_renderLine (unit : String) (depth : Nat) (texts : List String) :
    String.join (texts.map (renderLine unit depth)) =
      String.join ((texts.map (indented unit depth)).map (· ++ "\n")) := by
  rw [List.map_map]
  exact congrArg String.join (List.map_congr_left fun text _ => renderLine_eq unit depth text)

mutual

/-- A piece is rendered line by line. -/
theorem render_eq (unit : String) (depth : Nat) : ∀ piece : Layout,
    piece.render unit depth = String.join ((piece.lineTexts unit depth).map (· ++ "\n"))
  | line text => by
    rw [render, lineTexts, renderLine_eq, List.map_singleton, String.join_cons, String.join_nil,
      String.append_empty]
  | blank => by rw [render, lineTexts, List.map_singleton, String.join_cons, String.join_nil]; rfl
  | embed text => by rw [render, lineTexts, join_renderLine]
  | comment _ none => by rw [render, lineTexts, List.map_nil, String.join_nil]
  | comment marker (some text) => by rw [render, lineTexts, join_renderLine]
  | indent body => by rw [render, lineTexts, renderAll_eq unit (depth + 1) body]
  | block opening closing body => by
    rw [render, lineTexts, renderAll_eq unit (depth + 1) body, renderLine_eq, renderLine_eq,
      List.map_cons, List.map_append, String.join_cons, String.join_append, List.map_singleton,
      String.join_cons, String.join_nil, String.append_empty, String.append_assoc]

theorem renderAll_eq (unit : String) (depth : Nat) : ∀ pieces : List Layout,
    renderAll unit depth pieces = String.join ((lineTextsAll unit depth pieces).map (· ++ "\n"))
  | [] => by rw [renderAll, lineTextsAll, List.map_nil, String.join_nil]
  | piece :: rest => by
    rw [renderAll, lineTextsAll, render_eq unit depth piece, renderAll_eq unit depth rest,
      List.map_append, String.join_append]

end

mutual

/-- Each text that makes a line stands in one line. -/
def Tidy : Layout → Prop
  | line text => OneLine text
  | blank | embed _ => True
  | comment marker _ => OneLine marker
  | indent body => TidyAll body
  | block opening closing body => OneLine opening ∧ OneLine closing ∧ TidyAll body

def TidyAll : List Layout → Prop
  | [] => True
  | piece :: rest => piece.Tidy ∧ TidyAll rest

end

theorem tidyAll_iff {pieces : List Layout} : TidyAll pieces ↔ ∀ piece ∈ pieces, piece.Tidy := by
  induction pieces with
  | nil => simp [TidyAll]
  | cons piece rest ih => rw [TidyAll, ih, List.forall_mem_cons]

theorem tidyAll_append {pieces rest : List Layout} :
    TidyAll (pieces ++ rest) ↔ TidyAll pieces ∧ TidyAll rest := by
  rw [tidyAll_iff, tidyAll_iff, tidyAll_iff, List.forall_mem_append]

theorem tidyAll_map {α : Type} {piece : α → Layout} {as : List α} :
    TidyAll (as.map piece) ↔ ∀ a ∈ as, (piece a).Tidy := by
  rw [tidyAll_iff, List.forall_mem_map]

theorem tidyAll_flatMap {α : Type} {pieces : α → List Layout} {as : List α} :
    TidyAll (as.flatMap pieces) ↔ ∀ a ∈ as, TidyAll (pieces a) := by
  simp only [tidyAll_iff, List.forall_mem_flatMap]

theorem tidy_braced {head : String} {body : List Layout} :
    (braced head body).Tidy ↔ OneLine head ∧ TidyAll body := by
  simp +decide [braced, Tidy]

theorem oneLine_indented {unit : String} (plain : OneLine unit) (depth : Nat) {text : String}
    (single : OneLine text) : OneLine (indented unit depth text) := by
  unfold indented
  split
  · decide
  · refine oneLine_append.2 ⟨?_, single⟩
    induction depth with
    | zero => exact (by decide : OneLine "")
    | succ depth ih =>
      rw [List.replicate_succ, String.join_cons]
      exact oneLine_append.2 ⟨plain, ih⟩

theorem oneLine_of_mem_commentLines {marker text line : String} (plain : OneLine marker)
    (member : line ∈ commentLines marker text) : OneLine line := by
  obtain ⟨source, among, rfl⟩ := List.mem_map.1 member
  dsimp only
  split
  · exact plain
  · refine oneLine_append.2 ⟨oneLine_append.2 ⟨plain, by decide⟩, ?_⟩
    unfold OneLine
    rw [String.toList_ofList]
    intro newline
    have inside : '\n' ∈ source.toList := by
      unfold Text.trimEnd at newline
      rw [List.mem_reverse] at newline
      exact List.mem_reverse.1 ((List.dropWhile_sublist _).subset newline)
    exact oneLine_of_mem_lines among inside

mutual

theorem oneLine_of_mem_lineTexts {unit : String} (plain : OneLine unit) (depth : Nat) :
    ∀ {piece : Layout}, piece.Tidy → ∀ l ∈ piece.lineTexts unit depth, OneLine l
  | line text, tidy, l, member => by
    rw [List.mem_singleton.1 member]
    exact oneLine_indented plain depth tidy
  | blank, _, l, member => by
    rw [List.mem_singleton.1 member]
    decide
  | embed text, _, l, member => by
    obtain ⟨source, among, rfl⟩ := List.mem_map.1 member
    exact oneLine_indented plain depth (oneLine_of_mem_lines among)
  | comment marker none, _, l, member => absurd member List.not_mem_nil
  | comment marker (some text), tidy, l, member => by
    obtain ⟨source, among, rfl⟩ := List.mem_map.1 member
    exact oneLine_indented plain depth (oneLine_of_mem_commentLines tidy among)
  | indent body, tidy, l, member => oneLine_of_mem_lineTextsAll plain (depth + 1) tidy l member
  | block opening closing body, ⟨first, last, tidy⟩, l, member => by
    rcases List.mem_cons.1 member with rfl | member
    · exact oneLine_indented plain depth first
    rcases List.mem_append.1 member with inside | member
    · exact oneLine_of_mem_lineTextsAll plain (depth + 1) tidy l inside
    · rw [List.mem_singleton.1 member]
      exact oneLine_indented plain depth last

theorem oneLine_of_mem_lineTextsAll {unit : String} (plain : OneLine unit) (depth : Nat) :
    ∀ {pieces : List Layout}, TidyAll pieces → ∀ l ∈ lineTextsAll unit depth pieces, OneLine l
  | [], _, l, member => absurd member List.not_mem_nil
  | piece :: rest, ⟨first, others⟩, l, member => by
    rcases List.mem_append.1 member with inside | later
    · exact oneLine_of_mem_lineTexts plain depth first l inside
    · exact oneLine_of_mem_lineTextsAll plain depth others l later

end

theorem indented_succ (unit : String) (depth : Nat) (text : String) :
    indented unit (depth + 1) text = "" ∨ ∃ rest, indented unit (depth + 1) text = unit ++ rest := by
  unfold indented
  split
  · exact .inl rfl
  · rw [List.replicate_succ, String.join_cons, String.append_assoc]
    exact .inr ⟨_, rfl⟩

theorem indented_zero (unit text : String) : indented unit 0 text = text := by
  unfold indented
  split
  · next empty => exact empty.symm
  · exact String.empty_append

theorem render_line_zero (unit text : String) : (line text).render unit 0 = text ++ "\n" := by
  rw [render, renderLine_eq, indented_zero]

theorem renderAll_line (unit text : String) : renderAll unit 0 [line text] = text ++ "\n" := by
  rw [renderAll, renderAll, String.append_empty, render_line_zero]

mutual

/-- Inside a block every line is empty or begins with an indentation. -/
theorem lineTexts_succ (unit : String) (depth : Nat) : ∀ piece : Layout,
    ∀ l ∈ piece.lineTexts unit (depth + 1), l = "" ∨ ∃ rest, l = unit ++ rest
  | line text, l, member => by
    rw [List.mem_singleton.1 member]
    exact indented_succ unit depth text
  | blank, l, member => .inl (List.mem_singleton.1 member)
  | embed text, l, member => by
    obtain ⟨source, -, rfl⟩ := List.mem_map.1 member
    exact indented_succ unit depth source
  | comment _ none, l, member => absurd member List.not_mem_nil
  | comment marker (some text), l, member => by
    obtain ⟨source, -, rfl⟩ := List.mem_map.1 member
    exact indented_succ unit depth source
  | indent body, l, member => lineTextsAll_succ unit (depth + 1) body l member
  | block opening closing body, l, member => by
    rcases List.mem_cons.1 member with rfl | member
    · exact indented_succ unit depth opening
    rcases List.mem_append.1 member with inside | member
    · exact lineTextsAll_succ unit (depth + 1) body l inside
    · rw [List.mem_singleton.1 member]
      exact indented_succ unit depth closing

theorem lineTextsAll_succ (unit : String) (depth : Nat) : ∀ pieces : List Layout,
    ∀ l ∈ lineTextsAll unit (depth + 1) pieces, l = "" ∨ ∃ rest, l = unit ++ rest
  | [], l, member => absurd member List.not_mem_nil
  | piece :: rest, l, member => by
    rcases List.mem_append.1 member with inside | later
    · exact lineTexts_succ unit depth piece l inside
    · exact lineTextsAll_succ unit depth rest l later

end

theorem lineTextsAll_eq_flatMap (unit : String) (depth : Nat) (pieces : List Layout) :
    lineTextsAll unit depth pieces = pieces.flatMap (lineTexts unit depth) := by
  induction pieces with
  | nil => rfl
  | cons piece rest ih => rw [lineTextsAll, ih, List.flatMap_cons]

/-- The lines of a source are those of its layout, apart from carriage returns at their ends. -/
theorem lines_text {unit : String} (plain : OneLine unit) {pieces : List Layout} (tidy : TidyAll pieces) :
    Text.lines (text unit pieces) =
      (lineTextsAll unit 0 pieces).map fun line => String.ofList (Text.withoutReturn line.toList) := by
  rw [text, renderAll_eq]
  exact lines_join (oneLine_of_mem_lineTextsAll plain 0 tidy)

end Layout

end SchemaBindings
