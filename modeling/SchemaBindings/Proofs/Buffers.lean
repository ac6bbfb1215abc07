import SchemaBindings.Proofs.Indentation

/-!
# Writing into a buffer

A layout is a program of steps that write into a buffer, which holds the text so far and the depth of the next line.

* Each step appends the rendering of its piece at the current depth, and leaves the depth as it was
  (`Buffer.runAll_eq`).
* A program inside an indentation writes what it writes into a fresh buffer, embedded at the same place
  (`Buffer.embedded_in_place`). The text of the fresh buffer has the lines of the program (`Layout.lines_text_of_plain`),
  and a line that is embedded gets the indentation that it has in place (`Layout.lineTextsAll_eq_map`).
-/

namespace SchemaBindings

/-! ## Buffers -/

/-- A text that is being written. -/
structure Buffer where
  /-- The indentation of one level. -/
  unit : String
  text : String := ""
  depth : Nat := 0

namespace Buffer

/-- Appends a text as it is. -/
def write (b : Buffer) (added : String) : Buffer :=
  { b with text := b.text ++ added }

/-- Writes a line at the current depth. -/
def line (b : Buffer) (text : String) : Buffer :=
  b.write (Layout.renderLine b.unit b.depth text)

/-- Goes one level down, writes, and comes back. -/
def indent (b : Buffer) (body : Buffer → Buffer) : Buffer :=
  let inner := body { b with depth := b.depth + 1 }
  { inner with depth := inner.depth - 1 }

mutual

def run (b : Buffer) : Layout → Buffer
  | .line text => b.line text
  | .blank => b.write "\n"
  | .embed text => (Text.lines text).foldl line b
  | .comment _ none => b
  | .comment marker (some text) => (Layout.commentLines marker text).foldl line b
  | .indent body => b.indent (runAll · body)
  | .block opening closing body => ((b.line opening).indent (runAll · body)).line closing

def runAll (b : Buffer) : List Layout → Buffer
  | [] => b
  | piece :: rest => (b.run piece).runAll rest

end

theorem write_empty (b : Buffer) : b.write "" = b := by
  rw [write, String.append_empty]

theorem write_write (b : Buffer) (added more : String) : (b.write added).write more = b.write (added ++ more) := by
  rw [write, write, write, String.append_assoc]

theorem foldl_line (b : Buffer) (texts : List String) :
    texts.foldl line b = b.write (String.join (texts.map (Layout.renderLine b.unit b.depth))) := by
  induction texts generalizing b with
  | nil => exact b.write_empty.symm
  | cons text texts ih =>
    rw [List.foldl_cons, ih, List.map_cons, String.join_cons, ← write_write]
    rfl

/-- A body that writes one level down writes on from where it began, and comes back to the depth there. -/
theorem indent_eq {b : Buffer} {body : Buffer → Buffer} {added : String}
    (inside : body { b with depth := b.depth + 1 } = Buffer.write { b with depth := b.depth + 1 } added) :
    b.indent body = b.write added := by
  rw [indent, inside]
  rfl

mutual

/-- A piece appends its rendering at the current depth. -/
theorem run_eq (b : Buffer) : ∀ piece : Layout, b.run piece = b.write (piece.render b.unit b.depth)
  | .line _ | .blank => rfl
  | .embed text => foldl_line b (Text.lines text)
  | .comment _ none => b.write_empty.symm
  | .comment marker (some text) => foldl_line b (Layout.commentLines marker text)
  | .indent body => by
    rw [run, Layout.render]
    exact indent_eq (runAll_eq { b with depth := b.depth + 1 } body)
  | .block opening closing body => by
    have inside : (b.line opening).indent (runAll · body) =
        (b.line opening).write (Layout.renderAll b.unit (b.depth + 1) body) :=
      indent_eq (runAll_eq { b.line opening with depth := b.depth + 1 } body)
    rw [run, inside, Layout.render, ← write_write, ← write_write]
    rfl

theorem runAll_eq (b : Buffer) : ∀ pieces : List Layout,
    b.runAll pieces = b.write (Layout.renderAll b.unit b.depth pieces)
  | [] => b.write_empty.symm
  | piece :: rest => by
    rw [runAll, run_eq b piece, runAll_eq _ rest, Layout.renderAll, ← write_write]
    rfl

end

end Buffer

/-! ## Lines without carriage returns at their ends -/

/-- The text does not end with a carriage return. -/
def EndsPlain (text : String) : Prop :=
  text.toList.getLast? ≠ some '\r'

theorem EndsPlain.of_not_mem {text : String} (plain : '\r' ∉ text.toList) : EndsPlain text :=
  fun last => plain (List.mem_of_getLast? last)

theorem EndsPlain.behind {text : String} (plain : EndsPlain text) (filled : text ≠ "") (front : String) :
    EndsPlain (front ++ text) := by
  have letters : text.toList ≠ [] := fun empty => filled (String.toList_injective empty)
  rw [EndsPlain, String.toList_append, List.getLast?_append_of_ne_nil _ letters]
  exact plain

namespace Text

theorem mem_of_mem_splitLines {text line : List Char} (member : line ∈ splitLines text) : ∀ c ∈ line, c ∈ text := by
  fun_induction splitLines text generalizing line with
  | case1 => exact absurd member List.not_mem_nil
  | case2 rest ih =>
    rcases List.mem_cons.1 member with rfl | later
    · exact List.forall_mem_nil _
    · exact fun c inside => List.mem_cons_of_mem _ (ih later c inside)
  | case3 rest ih =>
    rcases List.mem_cons.1 member with rfl | later
    · exact List.forall_mem_nil _
    · exact fun c inside => List.mem_cons_of_mem _ (List.mem_cons_of_mem _ (ih later c inside))
  | case4 c rest plain _ none ih =>
    rw [List.mem_singleton.1 member]
    exact List.forall_mem_singleton.2 List.mem_cons_self
  | case5 c rest plain _ first others some ih =>
    rw [some] at ih
    rcases List.mem_cons.1 member with rfl | later
    · refine List.forall_mem_cons.2 ⟨List.mem_cons_self, fun d inside => ?_⟩
      exact List.mem_cons_of_mem _ (ih List.mem_cons_self d inside)
    · exact fun d inside => List.mem_cons_of_mem _ (ih (List.mem_cons_of_mem _ later) d inside)

theorem endsPlain_of_mem_lines {text line : String} (plain : '\r' ∉ text.toList) (member : line ∈ lines text) :
    EndsPlain line := by
  obtain ⟨chars, among, rfl⟩ := List.mem_map.1 member
  refine .of_not_mem fun inside => plain (mem_of_mem_splitLines among _ ?_)
  rwa [String.toList_ofList] at inside

/-- Carriage returns are among the blanks that are dropped at the end of a line. -/
theorem endsPlain_trimEnd (line : List Char) : EndsPlain (String.ofList (trimEnd line)) := by
  rw [EndsPlain, String.toList_ofList, trimEnd, List.getLast?_reverse]
  intro last
  have kept := List.head?_dropWhile_not isBlank line.reverse
  rw [last] at kept
  exact absurd kept (by decide)

end Text

namespace Layout

theorem endsPlain_indented (unit : String) (depth : Nat) {text : String} (plain : EndsPlain text) :
    EndsPlain (indented unit depth text) := by
  unfold indented
  split
  · exact nofun
  · next filled => exact plain.behind filled _

theorem endsPlain_of_mem_commentLines {marker text line : String} (plain : '\r' ∉ marker.toList)
    (member : line ∈ commentLines marker text) : EndsPlain line := by
  obtain ⟨source, -, rfl⟩ := List.mem_map.1 member
  dsimp only
  split
  · exact .of_not_mem plain
  · next kept => exact (Text.endsPlain_trimEnd _).behind (by simpa using kept) _

mutual

/-- The texts that a piece writes as they are. Of a comment that is the marker alone, since its lines lose the blanks
at their ends. -/
def texts : Layout → List String
  | line text | embed text => [text]
  | blank => []
  | comment marker _ => [marker]
  | indent body => textsAll body
  | block opening closing body => opening :: closing :: textsAll body

def textsAll : List Layout → List String
  | [] => []
  | piece :: rest => piece.texts ++ textsAll rest

end

mutual

theorem endsPlain_of_mem_lineTexts (unit : String) (depth : Nat) : ∀ piece : Layout,
    (∀ text ∈ piece.texts, '\r' ∉ text.toList) → ∀ l ∈ piece.lineTexts unit depth, EndsPlain l
  | line text, plain, l, member => by
    rw [List.mem_singleton.1 member]
    exact endsPlain_indented unit depth (.of_not_mem (plain text List.mem_cons_self))
  | blank, _, l, member => by
    rw [List.mem_singleton.1 member]
    exact nofun
  | embed text, plain, l, member => by
    obtain ⟨source, among, rfl⟩ := List.mem_map.1 member
    exact endsPlain_indented unit depth (Text.endsPlain_of_mem_lines (plain text List.mem_cons_self) among)
  | comment _ none, _, l, member => absurd member List.not_mem_nil
  | comment marker (some text), plain, l, member => by
    obtain ⟨source, among, rfl⟩ := List.mem_map.1 member
    exact endsPlain_indented unit depth (endsPlain_of_mem_commentLines (plain marker List.mem_cons_self) among)
  | indent body, plain, l, member => endsPlain_of_mem_lineTextsAll unit (depth + 1) body plain l member
  | block opening closing body, plain, l, member => by
    obtain ⟨first, last, inside⟩ : '\r' ∉ opening.toList ∧ '\r' ∉ closing.toList ∧
        ∀ text ∈ textsAll body, '\r' ∉ text.toList := by
      simpa [texts] using plain
    rcases List.mem_cons.1 member with rfl | member
    · exact endsPlain_indented unit depth (.of_not_mem first)
    rcases List.mem_append.1 member with within | member
    · exact endsPlain_of_mem_lineTextsAll unit (depth + 1) body inside l within
    · rw [List.mem_singleton.1 member]
      exact endsPlain_indented unit depth (.of_not_mem last)

theorem endsPlain_of_mem_lineTextsAll (unit : String) (depth : Nat) : ∀ pieces : List Layout,
    (∀ text ∈ textsAll pieces, '\r' ∉ text.toList) → ∀ l ∈ lineTextsAll unit depth pieces, EndsPlain l
  | [], _, l, member => absurd member List.not_mem_nil
  | piece :: rest, plain, l, member => by
    obtain ⟨first, others⟩ := List.forall_mem_append.1 plain
    rcases List.mem_append.1 member with here | later
    · exact endsPlain_of_mem_lineTexts unit depth piece first l here
    · exact endsPlain_of_mem_lineTextsAll unit depth rest others l later

end

/-! ## Embedding -/

section

variable {unit : String} {pieces : List Layout}

/-- The lines at a depth are those at the margin, each with its indentation. -/
theorem lineTextsAll_eq_map (unit : String) (depth : Nat) (pieces : List Layout) :
    lineTextsAll unit depth pieces = (lineTextsAll unit 0 pieces).map (indented unit depth) := by
  induction depth with
  | zero => rw [List.map_congr_left fun text _ => indented_zero unit text, List.map_id']
  | succ depth ih => rw [lineTextsAll_succ_eq, ih, ← map_indented_succ]

/-- Of texts without carriage returns, the lines of the source are the lines of the layout. -/
theorem lines_text_of_plain (plain : OneLine unit) (tidy : TidyAll pieces)
    (returnFree : ∀ text ∈ textsAll pieces, '\r' ∉ text.toList) :
    Text.lines (text unit pieces) = lineTextsAll unit 0 pieces := by
  have kept : ∀ l ∈ lineTextsAll unit 0 pieces, String.ofList (Text.withoutReturn l.toList) = l := by
    intro l member
    rw [Text.withoutReturn, if_neg (endsPlain_of_mem_lineTextsAll unit 0 pieces returnFree l member),
      String.ofList_toList]
  rw [lines_text plain tidy, List.map_congr_left kept, List.map_id']

/-- The text of a layout is embedded as the layout is rendered in place. -/
theorem render_embed_text (plain : OneLine unit) (tidy : TidyAll pieces)
    (returnFree : ∀ text ∈ textsAll pieces, '\r' ∉ text.toList) (depth : Nat) :
    (embed (text unit pieces)).render unit depth = renderAll unit depth pieces := by
  rw [render_eq, lineTexts, lines_text_of_plain plain tidy returnFree, ← lineTextsAll_eq_map, ← renderAll_eq]

end

end Layout

/-- A program leaves the depth as it was. If no line of it breaks and no text has a carriage return, then inside an
indentation it writes what it writes into a fresh buffer, embedded there. -/
theorem Buffer.embedded_in_place (b : Buffer) (pieces : List Layout) :
    (b.runAll pieces).depth = b.depth ∧
    (OneLine b.unit → Layout.TidyAll pieces → (∀ text ∈ Layout.textsAll pieces, '\r' ∉ text.toList) →
      let fresh := (Buffer.mk b.unit "" 0).runAll pieces
      b.run (.indent [.embed fresh.text]) = b.run (.indent pieces) ∧
        (b.run (.indent pieces)).text = b.text ++ Layout.renderAll b.unit (b.depth + 1) pieces) := by
  constructor
  · rw [runAll_eq]
    rfl
  · intro plain tidy returnFree fresh
    have written : fresh.text = Layout.text b.unit pieces := by
      show ((Buffer.mk b.unit "" 0).runAll pieces).text = _
      rw [runAll_eq]
      exact String.empty_append
    have same := Layout.render_embed_text plain tidy returnFree (b.depth + 1)
    constructor
    · rw [run_eq, run_eq, Layout.render, Layout.render, Layout.renderAll, Layout.renderAll, String.append_empty,
        written, same]
    · rw [run_eq]
      rfl

/-- A comment, a block with a blank and a text of several lines, and an empty line one level down. -/
def sampleProgram : List Layout :=
  [.comment "//" (some "First.\n\nSecond. "),
    .block "func f() \x7b" "\x7d" [.line "return", .blank, .embed "x\n\n\ty"], .indent [.line ""]]

theorem sample_embedded_in_place :
    let fresh := (Buffer.mk "\t" "" 0).runAll sampleProgram
    (Buffer.mk "\t" "a\n" 1).run (.indent [.embed fresh.text]) = (Buffer.mk "\t" "a\n" 1).run (.indent sampleProgram) ∧
      ((Buffer.mk "\t" "a\n" 1).run (.indent sampleProgram)).text =
        "a\n\t\t// First.\n\t\t//\n\t\t// Second.\n\t\tfunc f() \x7b\n" ++
          "\t\t\treturn\n\n\t\t\tx\n\n\t\t\t\ty\n\t\t\x7d\n\n" := by
  have tidy : Layout.TidyAll sampleProgram := by
    simp +decide [sampleProgram, Layout.TidyAll, Layout.Tidy]
  have returnFree : ∀ text ∈ Layout.textsAll sampleProgram, '\r' ∉ text.toList := by decide +kernel
  obtain ⟨same, written⟩ :=
    (Buffer.embedded_in_place ⟨"\t", "a\n", 1⟩ sampleProgram).2 (by decide : OneLine "\t") tidy returnFree
  refine ⟨same, written.trans ?_⟩
  decide +kernel

end SchemaBindings
