import SchemaBindings.Proofs.GoOutputs
import SchemaBindings.Proofs.Indentation
import SchemaBindings.Proofs.QuotedTexts

/-!
# Qualifiers in Go source

A line of Go source is made of words, string literals and what stands between them. A word that is a name, a point and
another name uses a name of the package that is called like the first one (`qualifier?`). The qualifiers of a source
are those of its lines that are no remarks (`sourceQualifiers`).

* Texts with something between them have the qualifiers of both (`Qualified.append`).
* What stands in a literal does not count (`qualifiers_literal`), nor does a comment (`pieceQualifiers_comment`).
* The qualifiers of a source can be read off its layout (`sourceQualifiers_text`).
-/

namespace SchemaBindings.Go

/-! ## Reading -/

def isWordChar (c : Char) : Bool :=
  isIdentifierChar c || c == '.'

def beginsName (text : List Char) : Bool :=
  text.head?.any fun c => c.isAlpha || c == '_'

/-- The qualifier of a word: the name in front of its first point, if another name stands behind it. -/
def qualifier? (word : List Char) : Option String :=
  let name := word.takeWhile isIdentifierChar
  match word.dropWhile isIdentifierChar with
  | '.' :: rest => if beginsName name && beginsName rest then some (String.ofList name) else none
  | _ => none

/-- What stands outside of string literals, with the quotes that open them. The flag is set inside of a literal. -/
def outsideLiterals : Bool → List Char → List Char
  | _, [] => []
  | false, '"' :: rest => '"' :: outsideLiterals true rest
  | false, c :: rest => c :: outsideLiterals false rest
  | true, '"' :: rest => outsideLiterals false rest
  | true, '\\' :: _ :: rest => outsideLiterals true rest
  | true, _ :: rest => outsideLiterals true rest

/-- The qualifiers of the words in a text, in order. -/
def qualifiers (text : List Char) : List String :=
  ((outsideLiterals false text).splitOnP (!isWordChar ·)).filterMap qualifier?

/-- The qualifiers in a line; none in a remark. -/
def lineQualifiers (line : String) : List String :=
  if Text.isRemark line.toList then [] else qualifiers line.toList

def sourceQualifiers (source : String) : List String :=
  (Text.lines source).flatMap lineQualifiers

example : sourceQualifiers
    "// See a.b.\nfunc New(x map[a.T]*b_1.U) \x7b y := 1.5 + v.(type) + \"c.d\\\"e.f\" + g.H \x7d" =
    ["a", "b_1", "g"] := by decide +kernel

/-! ## Texts -/

def Pointless (text : String) : Prop :=
  '.' ∉ text.toList

instance (text : String) : Decidable (Pointless text) :=
  inferInstanceAs (Decidable (¬ _ ∈ _))

/-- The text has neither points nor quotes. -/
def Plain (text : String) : Prop :=
  ∀ c ∈ text.toList, c ≠ '.' ∧ c ≠ '"'

instance (text : String) : Decidable (Plain text) :=
  List.decidableBAll _ text.toList

/-- No character of the text stands in a word or opens a literal. -/
def Separates (text : String) : Prop :=
  text.toList ≠ [] ∧ ∀ c ∈ text.toList, isWordChar c = false ∧ c ≠ '"'

instance (text : String) : Decidable (Separates text) :=
  @instDecidableAnd _ _ inferInstance (List.decidableBAll _ text.toList)

/-- The text has no literals, and its words have these qualifiers. -/
structure Qualified (text : String) (names : List String) : Prop where
  unquoted : '"' ∉ text.toList
  qualifiers_eq : qualifiers text.toList = names

@[simp] theorem pointless_append {a b : String} : Pointless (a ++ b) ↔ Pointless a ∧ Pointless b := by
  simp [Pointless]

theorem Plain.pointless {text : String} (plain : Plain text) : Pointless text :=
  fun point => (plain '.' point).1 rfl

theorem Plain.unquoted {text : String} (plain : Plain text) : '"' ∉ text.toList :=
  fun quote => (plain '"' quote).2 rfl

@[simp] theorem plain_append {a b : String} : Plain (a ++ b) ↔ Plain a ∧ Plain b := by
  rw [Plain, String.toList_append, List.forall_mem_append]
  rfl

theorem plain_intercalate {between : String} (plain : Plain between) {texts : List String}
    (each : ∀ text ∈ texts, Plain text) : Plain (between.intercalate texts) := by
  intro c member
  rw [String.toList_intercalate] at member
  rcases Text.mem_joined member with inside | ⟨piece, among, inside⟩
  · exact plain c inside
  · obtain ⟨text, listed, rfl⟩ := List.mem_map.1 among
    exact each text listed c inside

theorem plain_of_isIdentifierChar {text : String} (inside : ∀ c ∈ text.toList, isIdentifierChar c = true) :
    Plain text := by
  intro c member
  have letter := inside c member
  constructor
  · rintro rfl
    exact absurd letter (by decide)
  · rintro rfl
    exact absurd letter (by decide)

theorem outsideLiterals_append {text : List Char} (unquoted : '"' ∉ text) (rest : List Char) :
    outsideLiterals false (text ++ rest) = text ++ outsideLiterals false rest := by
  induction text with
  | nil => rfl
  | cons c text ih =>
    rw [List.mem_cons, not_or] at unquoted
    rw [List.cons_append, outsideLiterals, ih unquoted.2]
    · rfl
    · exact fun same => unquoted.1 same.symm

theorem outsideLiterals_of_unquoted {text : List Char} (unquoted : '"' ∉ text) : outsideLiterals false text = text := by
  have whole := outsideLiterals_append unquoted []
  rwa [List.append_nil, outsideLiterals, List.append_nil] at whole

theorem qualifiers_append {text : List Char} (unquoted : '"' ∉ text) {c : Char} (between : isWordChar c = false)
    (other : c ≠ '"') (rest : List Char) : qualifiers (text ++ c :: rest) = qualifiers text ++ qualifiers rest := by
  have behind : outsideLiterals false (c :: rest) = c :: outsideLiterals false rest :=
    @outsideLiterals_append [c] (fun quote => other (List.mem_singleton.1 quote).symm) rest
  rw [qualifiers, outsideLiterals_append unquoted, behind, List.splitOnP_append_cons _ _ (by rw [between]; rfl),
    List.filterMap_append, qualifiers, outsideLiterals_of_unquoted unquoted]
  rfl

theorem qualifiers_cons {c : Char} (between : isWordChar c = false) (other : c ≠ '"') (rest : List Char) :
    qualifiers (c :: rest) = qualifiers rest :=
  qualifiers_append List.not_mem_nil between other rest

theorem outsideLiterals_plain {c : Char} (open' : c ≠ '"') (escape : c ≠ '\\') (rest : List Char) :
    outsideLiterals true (c :: rest) = outsideLiterals true rest := by
  rw [outsideLiterals]
  · exact fun same => open' same
  · rintro _ _ same -
    exact escape same

theorem hexDigit_plain {c : Char} {n : Nat} (value : Text.hexValue? c = some n) : c ≠ '"' ∧ c ≠ '\\' := by
  have quote : Text.hexValue? '"' = none := by decide
  have backslash : Text.hexValue? '\\' = none := by decide
  constructor
  · rintro rfl
    exact Option.some_ne_none n (value.symm.trans quote)
  · rintro rfl
    exact Option.some_ne_none n (value.symm.trans backslash)

/-- What stands in a literal does not count. -/
theorem outsideLiterals_inside {inside text : List Char} (elements : Text.Elements inside text) (rest : List Char) :
    outsideLiterals true (inside ++ '"' :: rest) = outsideLiterals false rest := by
  induction elements with
  | nil => rfl
  | cons first others ih =>
    rw [List.append_assoc, ← ih]
    cases first with
    | plain open' escape shown => exact outsideLiterals_plain open' escape _
    | short escaped => rfl
    | byte value =>
      unfold Text.byteChar? at value
      simp only [Option.bind_eq_bind, Option.bind_eq_some_iff] at value
      obtain ⟨m, first, n, second, -⟩ := value
      have high := hexDigit_plain first
      have low := hexDigit_plain second
      exact (outsideLiterals_plain high.1 high.2 _).trans (outsideLiterals_plain low.1 low.2 _)

theorem qualifiers_literal {before inside text : List Char} (unquoted : '"' ∉ before)
    (elements : Text.Elements inside text) (rest : List Char) :
    qualifiers (before ++ '"' :: (inside ++ '"' :: rest)) = qualifiers before ++ qualifiers rest := by
  rw [qualifiers, outsideLiterals_append unquoted, outsideLiterals, outsideLiterals_inside elements,
    List.splitOnP_append_cons _ _ (by decide), List.filterMap_append, qualifiers, outsideLiterals_of_unquoted unquoted]
  rfl

/-! ## Words -/

theorem beginsName_of_isIdentifier {name : String} (identifier : isIdentifier name) (rest : List Char) :
    beginsName (name.toList ++ rest) = true := by
  obtain ⟨c, tail, chars, letter⟩ := Text.isIdentifier_cons identifier
  rw [chars, List.cons_append, beginsName, List.head?_cons, Option.any_some, letter, Bool.true_or]

/-- A text of word characters is one word. -/
theorem qualifiers_word {word : List Char} (inside : ∀ c ∈ word, isWordChar c = true) :
    qualifiers word = (qualifier? word).toList := by
  have unquoted : '"' ∉ word := fun quote => absurd (inside _ quote) (by decide)
  have single : word.splitOnP (!isWordChar ·) = [word] :=
    List.splitOnP_eq_singleton fun c member => by rw [inside c member]; rfl
  rw [qualifiers, outsideLiterals_of_unquoted unquoted, single, List.filterMap_cons, List.filterMap_nil]
  cases qualifier? word <;> rfl

/-- A name behind a qualifier. -/
theorem qualified_reference {q name : String} (package : isIdentifier q) (identifier : isIdentifier name) :
    Qualified (q ++ "." ++ name) [q] := by
  have first : ∀ c ∈ q.toList, isIdentifierChar c = true := fun c => Text.isIdentifierChar_of_mem package
  have last : ∀ c ∈ name.toList, isIdentifierChar c = true := fun c => Text.isIdentifierChar_of_mem identifier
  have chars : (q ++ "." ++ name).toList = q.toList ++ '.' :: name.toList := by simp
  have word : ∀ c ∈ q.toList ++ '.' :: name.toList, isWordChar c = true := by
    refine List.forall_mem_append.2 ⟨fun c member => ?_, List.forall_mem_cons.2 ⟨by decide, fun c member => ?_⟩⟩
    · rw [isWordChar, first c member, Bool.true_or]
    · rw [isWordChar, last c member, Bool.true_or]
  have ends : Text.Ends isIdentifierChar ('.' :: name.toList) := Text.ends_cons (by decide) _
  constructor
  · rw [chars]
    exact fun quote => absurd (word _ quote) (by decide)
  · have begins := beginsName_of_isIdentifier package []
    have begins' := beginsName_of_isIdentifier identifier []
    rw [List.append_nil] at begins begins'
    rw [chars, qualifiers_word word, qualifier?, Text.takeWhile_append first ends,
      List.dropWhile_append_of_pos first, List.dropWhile_cons_of_neg (by decide)]
    simp [begins, begins']

theorem mem_of_mem_splitOnP {p : Char → Bool} {text word : List Char} (among : word ∈ text.splitOnP p) :
    ∀ c ∈ word, c ∈ text := by
  induction text generalizing word with
  | nil =>
    rw [List.splitOnP_nil, List.mem_singleton] at among
    rw [among]
    exact nofun
  | cons d text ih =>
    rw [List.splitOnP_cons_eq_if_modifyHead] at among
    split at among
    · rcases List.mem_cons.1 among with rfl | later
      · exact nofun
      · exact fun c member => List.mem_cons_of_mem _ (ih later c member)
    · cases pieces : text.splitOnP p with
      | nil => exact absurd pieces (List.splitOnP_ne_nil p text)
      | cons first others =>
        rw [pieces] at among ih
        rcases List.mem_cons.1 among with rfl | later
        · refine List.forall_mem_cons.2 ⟨List.mem_cons_self, fun c member => ?_⟩
          exact List.mem_cons_of_mem _ (ih List.mem_cons_self c member)
        · exact fun c member => List.mem_cons_of_mem _ (ih (List.mem_cons_of_mem _ later) c member)

theorem outsideLiterals_sublist (inside : Bool) (text : List Char) :
    (outsideLiterals inside text).Sublist text := by
  fun_induction outsideLiterals inside text with
  | case1 => exact .refl []
  | case2 rest ih | case3 c rest _ ih => exact ih.cons_cons _
  | case4 rest ih | case6 c rest _ _ ih => exact ih.cons _
  | case5 c rest ih => exact (ih.cons c).cons _

theorem qualifier?_eq_none {word : List Char} (pointless : '.' ∉ word) : qualifier? word = none := by
  unfold qualifier?
  dsimp only
  split
  · next rest behind =>
    have point : '.' ∈ word.dropWhile isIdentifierChar := by
      rw [behind]
      exact List.mem_cons_self
    exact absurd ((List.dropWhile_sublist _).subset point) pointless
  · rfl

theorem filterMap_qualifier?_eq_nil {text : List Char} (pointless : '.' ∉ text) :
    (text.splitOnP (!isWordChar ·)).filterMap qualifier? = [] := by
  refine List.filterMap_eq_nil_iff.2 fun word among => qualifier?_eq_none fun point => pointless ?_
  exact mem_of_mem_splitOnP among '.' point

/-- Without points there are no qualifiers. -/
theorem qualifiers_eq_nil {text : List Char} (pointless : '.' ∉ text) : qualifiers text = [] :=
  filterMap_qualifier?_eq_nil fun point => pointless ((outsideLiterals_sublist false text).subset point)

/-- A literal without points, and what stands behind it. -/
theorem qualifiers_opened {before rest : List Char} (unquoted : '"' ∉ before) (pointless : '.' ∉ rest) :
    qualifiers (before ++ '"' :: rest) = qualifiers before := by
  have behind := filterMap_qualifier?_eq_nil fun point =>
    pointless ((outsideLiterals_sublist true rest).subset point)
  rw [qualifiers, outsideLiterals_append unquoted, outsideLiterals, List.splitOnP_append_cons _ _ (by decide),
    List.filterMap_append, behind, List.append_nil, qualifiers, outsideLiterals_of_unquoted unquoted]

/-- A word has no qualifier unless it begins with a name. -/
theorem qualifiers_of_beginsName {word : List Char} (inside : ∀ c ∈ word, isWordChar c = true)
    (other : beginsName word = false) : qualifiers word = [] := by
  have begins : beginsName (word.takeWhile isIdentifierChar) = false := by
    cases word with
    | nil => rfl
    | cons c rest =>
      rw [List.takeWhile_cons]
      split
      · exact other
      · rfl
  have none : qualifier? word = none := by
    unfold qualifier?
    dsimp only
    split
    · rw [begins]
      rfl
    · rfl
  rw [qualifiers_word inside, none]
  rfl

theorem Plain.qualified {text : String} (plain : Plain text) : Qualified text [] :=
  ⟨plain.unquoted, qualifiers_eq_nil plain.pointless⟩

section

variable {a b between : String} {names names' : List String}

/-- Texts with something between them have the qualifiers of both. -/
theorem Qualified.qualifiers_append (left : Qualified a names) (separates : Separates between)
    (right : qualifiers b.toList = names') : qualifiers (a ++ between ++ b).toList = names ++ names' := by
  obtain ⟨filled, each⟩ := separates
  rw [String.toList_append, String.toList_append]
  have behind : ∀ chars : List Char, (∀ c ∈ chars, isWordChar c = false ∧ c ≠ '"') →
      qualifiers (chars ++ b.toList) = names' := by
    intro chars each
    induction chars with
    | nil => exact right
    | cons c chars ih =>
      obtain ⟨⟨other, unquoted⟩, others⟩ := List.forall_mem_cons.1 each
      exact (qualifiers_cons other unquoted _).trans (ih others)
  cases chars : between.toList with
  | nil => exact absurd chars filled
  | cons c rest =>
    rw [chars] at each
    obtain ⟨⟨other, unquoted⟩, others⟩ := List.forall_mem_cons.1 each
    rw [List.append_assoc, List.cons_append, Go.qualifiers_append left.unquoted other unquoted, left.qualifiers_eq,
      behind rest others]

theorem Qualified.append (left : Qualified a names) (separates : Separates between) (right : Qualified b names') :
    Qualified (a ++ between ++ b) (names ++ names') where
  unquoted := by
    rw [String.toList_append, String.toList_append, List.mem_append, List.mem_append]
    rintro ((inside | inside) | inside)
    · exact left.unquoted inside
    · exact (separates.2 _ inside).2 rfl
    · exact right.unquoted inside
  qualifiers_eq := left.qualifiers_append separates right.qualifiers_eq

end

section

variable {a between : String} {names names' : List String}

theorem Qualified.close (left : Qualified a names) (separates : Separates between) :
    Qualified (a ++ between) names := by
  have whole := left.append separates (by decide : Plain "").qualified
  rwa [String.append_empty, List.append_nil] at whole

theorem Qualified.open' (separates : Separates between) (right : Qualified a names) :
    Qualified (between ++ a) names := by
  have whole := (by decide : Plain "").qualified.append separates right
  rwa [String.empty_append, List.nil_append] at whole

/-- Texts with commas between them have the qualifiers of all. -/
theorem qualified_intercalate {α : Type} {as : List α} {text : α → String} {names : α → List String}
    (each : ∀ a ∈ as, Qualified (text a) (names a)) :
    Qualified (", ".intercalate (as.map text)) (as.flatMap names) := by
  induction as with
  | nil => exact (by decide : Plain "").qualified
  | cons a as ih =>
    obtain ⟨first, others⟩ := List.forall_mem_cons.1 each
    cases as with
    | nil =>
      rw [List.map_singleton, String.intercalate_singleton, List.flatMap_singleton]
      exact first
    | cons b as =>
      rw [List.map_cons, List.map_cons, String.intercalate_cons_cons, List.flatMap_cons]
      exact first.append (by decide) (ih others)

/-- Arguments behind a name. -/
theorem Qualified.arguments (left : Qualified a names) {texts : List String}
    (inside : Qualified (", ".intercalate texts) names') : Qualified (a ++ typeArguments texts) (names ++ names') := by
  unfold typeArguments bracketed
  split
  · next empty =>
    rw [empty, String.intercalate_nil] at inside
    have none : names' = [] := inside.qualifiers_eq.symm
    rw [none, List.append_nil, String.append_empty]
    exact left
  · rw [← String.append_assoc, ← String.append_assoc]
    exact (left.append (by decide) inside).close (by decide)

end

/-! ## Layouts -/

/-- A character at the end stands outside of all literals or in one. -/
theorem outsideLiterals_concat {c : Char} (other : c ≠ '"') (inside : Bool) (text : List Char) :
    outsideLiterals inside (text ++ [c]) = outsideLiterals inside text ++ [c] ∨
      outsideLiterals inside (text ++ [c]) = outsideLiterals inside text := by
  fun_induction outsideLiterals inside text with
  | case1 inside =>
    cases inside with
    | false => exact .inl (outsideLiterals_of_unquoted fun quote => other (List.mem_singleton.1 quote).symm)
    | true =>
      refine .inr ?_
      rw [List.nil_append, outsideLiterals]
      · rfl
      · exact other
      · exact nofun
  | case2 rest ih =>
    exact ih.imp (congrArg _) (congrArg _)
  | case3 d rest open' ih =>
    rw [List.cons_append, outsideLiterals]
    · exact ih.imp (congrArg _) (congrArg _)
    · exact open'
  | case4 rest ih => exact ih
  | case5 d rest ih => exact ih
  | case6 d rest open' escape ih =>
    by_cases last : d = '\\' ∧ rest = []
    · obtain ⟨rfl, rfl⟩ := last
      exact .inr rfl
    · rw [List.cons_append, outsideLiterals]
      · exact ih
      · exact open'
      · rintro e others rfl same
        cases rest with
        | nil => exact last ⟨rfl, rfl⟩
        | cons f rest => exact escape f rest rfl rfl

/-- What stands at the end and is no part of a word does not count. -/
theorem qualifiers_concat {c : Char} (between : isWordChar c = false) (other : c ≠ '"') (text : List Char) :
    qualifiers (text ++ [c]) = qualifiers text := by
  rcases outsideLiterals_concat other false text with outside | inside
  · rw [qualifiers, outside, List.splitOnP_append_cons _ _ (by rw [between]; rfl), List.filterMap_append, qualifiers,
      List.splitOnP_nil]
    exact List.append_nil _
  · rw [qualifiers, inside, qualifiers]

theorem lineQualifiers_withoutReturn (line : String) :
    lineQualifiers (String.ofList (Text.withoutReturn line.toList)) = lineQualifiers line := by
  rw [lineQualifiers, String.toList_ofList, Text.isRemark_withoutReturn, lineQualifiers]
  congr 1
  unfold Text.withoutReturn
  split
  · next last =>
    obtain ⟨front, chars⟩ := List.getLast?_eq_some_iff.1 last
    rw [chars, List.dropLast_concat, qualifiers_concat (by decide) (by decide)]
  · rfl

theorem lineQualifiers_tab (line : String) : lineQualifiers (indentation ++ line) = lineQualifiers line := by
  have chars : (indentation ++ line).toList = ['\t'] ++ line.toList := String.toList_append
  rw [lineQualifiers, chars, Text.isRemark_blanks (List.forall_mem_singleton.2 rfl),
    lineQualifiers]
  exact congrArg _ (qualifiers_cons (by decide) (by decide) line.toList)

/-- An indentation has no words. -/
theorem lineQualifiers_indented (depth : Nat) (line : String) :
    lineQualifiers (Layout.indented indentation depth line) = lineQualifiers line := by
  unfold Layout.indented
  split
  · next empty => rw [empty]
  · induction depth with
    | zero => rw [List.replicate_zero, String.join_nil, String.empty_append]
    | succ depth ih => rw [List.replicate_succ, String.join_cons, String.append_assoc, lineQualifiers_tab, ih]

def pieceQualifiers (piece : Layout) : List String :=
  (piece.lineTexts indentation 0).flatMap lineQualifiers

/-- The qualifiers of a source are those of the pieces of its layout. -/
theorem sourceQualifiers_text {pieces : List Layout} (tidy : Layout.TidyAll pieces) :
    sourceQualifiers (Layout.text indentation pieces) = pieces.flatMap pieceQualifiers := by
  rw [sourceQualifiers, Layout.lines_text (by decide) tidy, Layout.lineTextsAll_eq_flatMap, List.flatMap_map,
    List.flatMap_assoc]
  refine List.flatMap_congr fun piece _ => List.flatMap_congr fun line _ => ?_
  exact lineQualifiers_withoutReturn line

theorem pieceQualifiers_line (text : String) : pieceQualifiers (.line text) = lineQualifiers text := by
  rw [pieceQualifiers, Layout.lineTexts, Layout.indented_zero, List.flatMap_singleton]

theorem pieceQualifiers_blank : pieceQualifiers .blank = [] := by
  decide

/-- A comment has no qualifiers, whatever its text is. -/
theorem pieceQualifiers_comment (text : Option String) : pieceQualifiers (.comment "//" text) = [] := by
  cases text with
  | none => rfl
  | some text =>
    refine List.flatMap_eq_nil_iff.2 fun line member => ?_
    obtain ⟨source, among, rfl⟩ := List.mem_map.1 member
    obtain ⟨content, -, rfl⟩ := List.mem_map.1 among
    rw [lineQualifiers_indented, lineQualifiers, if_pos]
    dsimp only
    split
    · decide
    · rw [String.toList_append, String.toList_append, List.append_assoc]
      exact Text.isRemark_of_start (by decide) _

/-- The qualifiers of several pieces that stand one level deeper. -/
theorem flatMap_lineTextsAll_one (body : List Layout) :
    (Layout.lineTextsAll indentation 1 body).flatMap lineQualifiers = body.flatMap pieceQualifiers := by
  rw [Layout.lineTextsAll_succ_eq, Layout.lineTextsAll_eq_flatMap, List.flatMap_map, List.flatMap_assoc]
  exact List.flatMap_congr fun piece _ => List.flatMap_congr fun line _ => lineQualifiers_indented 1 line

theorem pieceQualifiers_indent (body : List Layout) : pieceQualifiers (.indent body) = body.flatMap pieceQualifiers :=
  flatMap_lineTextsAll_one body

theorem pieceQualifiers_block (opening closing : String) (body : List Layout) :
    pieceQualifiers (.block opening closing body) =
      lineQualifiers opening ++ body.flatMap pieceQualifiers ++ lineQualifiers closing := by
  rw [pieceQualifiers, Layout.lineTexts, Layout.indented_zero, Layout.indented_zero, List.flatMap_cons,
    List.flatMap_append, flatMap_lineTextsAll_one, List.flatMap_singleton, List.append_assoc]

theorem pieceQualifiers_braced (head : String) (body : List Layout) :
    pieceQualifiers (.braced head body) = lineQualifiers (head ++ " \x7b") ++ body.flatMap pieceQualifiers := by
  have closing : lineQualifiers "\x7d" = [] := by decide
  rw [Layout.braced, pieceQualifiers_block, closing, List.append_nil]

/-! ## Lines -/

/-- A line without points has no qualifiers. -/
theorem lineQualifiers_eq_nil {line : String} (pointless : Pointless line) : lineQualifiers line = [] := by
  unfold lineQualifiers
  split
  · rfl
  · exact qualifiers_eq_nil pointless

/-- A line that begins like a remark is one. -/
theorem lineQualifiers_remark {start : String} (remark : Text.isRemark start.toList) (rest : String) :
    lineQualifiers (start ++ rest) = [] := by
  rw [lineQualifiers, if_pos]
  rw [String.toList_append]
  exact Text.isRemark_of_start remark _

theorem not_isBlank_of_isIdentifierChar {c : Char} (inside : isIdentifierChar c = true) : Text.isBlank c = false := by
  have finite : isIdentifierChar c = true → Text.isBlank c = false := by
    refine Text.of_ascii (P := fun c => isIdentifierChar c = true → Text.isBlank c = false) (by decide +kernel) ?_
    rw [isIdentifierChar, Bool.or_eq_true, beq_iff_eq] at inside
    rcases inside with alphanum | rfl
    · exact Text.toNat_lt_of_isAlphanum alphanum
    · decide
  exact finite inside

/-- A line that begins with a name is no remark. -/
theorem lineQualifiers_of_head {line : String} (first : line.toList.head?.any isIdentifierChar) :
    lineQualifiers line = qualifiers line.toList := by
  have code : Text.isRemark line.toList = false := by
    cases chars : line.toList with
    | nil => rfl
    | cons c rest =>
      rw [chars, List.head?_cons, Option.any_some] at first
      have shown : Text.isBlank c = false := not_isBlank_of_isIdentifierChar first
      have other : ('/' == c) = false := by
        rw [beq_eq_false_iff_ne]
        rintro rfl
        exact absurd first (by decide)
      rw [Text.isRemark, List.dropWhile_cons_of_neg (by rw [shown]; decide), List.isPrefixOf, other]
      rfl
  rw [lineQualifiers, if_neg (by rw [code]; decide)]

end SchemaBindings.Go
