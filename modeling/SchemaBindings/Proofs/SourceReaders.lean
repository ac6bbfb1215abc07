import SchemaBindings.Proofs.SourceLines

/-!
# Reading source texts

A reader takes something off the front of a source, or refuses it. What a reader of a whole declaration makes of a
source follows from what each step takes off, one after the other (`SourceReader.run_bind_of`):

* the text that must stand there (`exactly_append`), a word (`word_append`), and blanks (`blanks_append`);
* the lines that begin with a marker, which are those of a comment (`remarks_comment`);
* pieces that follow each other (`run_mapM`), or are separated (`run_separated`);
* as many pieces as there are (`run_many`), and one of two kinds of text (`run_orElse_of`, `run_orElse_refused`);
* nothing, where what has been read must satisfy a condition (`run_guard`).
-/

namespace SchemaBindings

/-- A reader takes something off the front of a text. -/
abbrev SourceReader := StateT (List Char) Option

namespace SourceReader

variable {α β : Type} {source rest : List Char}

theorem run_bind_of {reader : SourceReader α} {next : α → SourceReader β} {a : α}
    (reads : reader.run source = some (a, rest)) : (reader >>= next).run source = (next a).run rest := by
  rw [StateT.run_bind, reads]
  rfl

theorem run_bind_refused {reader : SourceReader α} (next : α → SourceReader β) (refused : reader.run source = none) :
    (reader >>= next).run source = none := by
  rw [StateT.run_bind, refused]
  rfl

/-! ## Texts and words -/

theorem append_ne_empty {ending : String} (filled : ending ≠ "") (text : String) : text ++ ending ≠ "" :=
  fun empty => filled (String.append_eq_empty_iff.1 empty).2

def exactly (text : String) : SourceReader Unit := fun source =>
  (source.dropPrefix? text.toList).map ((), ·)

def word (inside : Char → Bool) : SourceReader String := fun source =>
  let letters := source.takeWhile inside
  if letters = [] then none else some (String.ofList letters, source.dropWhile inside)

def blanks : SourceReader Unit := fun source =>
  some ((), source.dropWhile (· = ' '))

theorem exactly_append (text : String) (rest : List Char) :
    (exactly text).run (text.toList ++ rest) = some ((), rest) := by
  have dropped : (text.toList ++ rest).dropPrefix? text.toList = some rest :=
    List.dropPrefix?_append_of_beq rest BEq.rfl
  exact congrArg (Option.map ((), ·)) dropped

theorem exactly_refused {text : String} (other : text.toList.isPrefixOf source = false) :
    (exactly text).run source = none := by
  have unlike : source.dropPrefix? text.toList = none := by
    cases dropped : source.dropPrefix? text.toList with
    | none => rfl
    | some rest =>
      obtain ⟨start, same, whole⟩ := List.dropPrefix?_eq_some_iff.1 dropped
      have begins : text.toList.isPrefixOf source = true := by
        rw [List.isPrefixOf_iff_prefix, same, eq_of_beq whole]
        exact List.prefix_append _ _
      exact absurd (other.symm.trans begins) (by decide)
  exact congrArg (Option.map ((), ·)) unlike

theorem ends_toList {inside : Char → Bool} {opening : String}
    (other : (opening.toList.head?.any fun c => !inside c) = true) (rest : List Char) :
    Text.Ends inside (opening.toList ++ rest) := by
  have ends := Text.ends_append other (String.ofList rest)
  rwa [String.toList_append, String.toList_ofList] at ends

theorem word_refused {inside : Char → Bool} (ends : Text.Ends inside source) : (word inside).run source = none := by
  have letters : source.takeWhile inside = [] := @Text.takeWhile_append inside [] source (by simp) ends
  show (if _ then _ else _) = _
  rw [if_pos letters]

theorem dropWhile_append {inside : Char → Bool} {piece rest : List Char} (each : ∀ c ∈ piece, inside c = true)
    (ends : Text.Ends inside rest) : (piece ++ rest).dropWhile inside = rest := by
  rw [List.dropWhile_append_of_pos each]
  cases rest with
  | nil => rfl
  | cons c rest => exact List.dropWhile_cons_of_neg (by simp [ends c rfl])

theorem word_append {inside : Char → Bool} {name : String} (each : ∀ c ∈ name.toList, inside c = true)
    (some : name ≠ "") (ends : Text.Ends inside rest) :
    (word inside).run (name.toList ++ rest) = Option.some (name, rest) := by
  have letters : name.toList ≠ [] := fun empty => some (String.toList_injective empty)
  show (if _ then _ else _) = _
  rw [Text.takeWhile_append each ends, if_neg letters, dropWhile_append each ends, String.ofList_toList]

/-- Blanks in front of a text do not count, those at its front included. -/
theorem blanks_append {padding : List Char} (blank : ∀ c ∈ padding, c = ' ') (text rest : List Char) :
    blanks.run (padding ++ text ++ '\n' :: rest) = some ((), text.dropWhile (· = ' ') ++ '\n' :: rest) := by
  have padded : ∀ c ∈ padding, decide (c = ' ') = true := fun c member => decide_eq_true (blank c member)
  show some ((), _) = _
  rw [List.append_assoc, List.dropWhile_append_of_pos padded, List.dropWhile_append]
  split
  · next empty =>
    rw [List.isEmpty_iff] at empty
    rw [empty]
    rfl
  · rfl

/-! ## Remarks -/

/-- What stands behind the lines that begin with the marker. Inside of such a line it is dropped up to its end. -/
def behindRemarks (marker : List Char) : Bool → List Char → List Char
  | _, [] => []
  | inside, c :: rest =>
    if inside then behindRemarks marker (c ≠ '\n') rest
    else if marker.isPrefixOf (c :: rest) then behindRemarks marker true rest
    else c :: rest

/-- The lines that begin with the marker. -/
def remarks (marker : String) : SourceReader Unit := fun source =>
  some ((), behindRemarks marker.toList false source)

theorem behindRemarks_inside {line : List Char} (single : '\n' ∉ line) (marker rest : List Char) :
    behindRemarks marker true (line ++ '\n' :: rest) = behindRemarks marker false rest := by
  induction line with
  | nil => simp [behindRemarks]
  | cons c line ih =>
    rw [List.mem_cons, not_or] at single
    have other : c ≠ '\n' := fun same => single.1 same.symm
    rw [List.cons_append, behindRemarks, if_pos rfl, decide_eq_true other, ih single.2]

theorem behindRemarks_line {marker : List Char} (some : marker ≠ []) {line : List Char} (single : '\n' ∉ line)
    (begins : marker <+: line) (rest : List Char) :
    behindRemarks marker false (line ++ '\n' :: rest) = behindRemarks marker false rest := by
  have opens : marker.isPrefixOf (line ++ '\n' :: rest) = true :=
    List.isPrefixOf_iff_prefix.2 (begins.trans (List.prefix_append _ _))
  cases line with
  | nil => exact absurd (List.prefix_nil.1 begins) some
  | cons c line =>
    rw [List.cons_append] at opens ⊢
    rw [behindRemarks, if_neg (by decide), if_pos opens]
    exact behindRemarks_inside (fun inside => single (List.mem_cons_of_mem _ inside)) marker rest

theorem behindRemarks_of_other {marker : List Char} (other : marker.isPrefixOf rest = false) :
    behindRemarks marker false rest = rest := by
  cases rest with
  | nil => rfl
  | cons c rest => rw [behindRemarks, if_neg (by decide), if_neg (by simp [other])]

theorem behindRemarks_join {marker : List Char} (some : marker ≠ []) {ls : List String}
    (each : ∀ line ∈ ls, OneLine line ∧ marker <+: line.toList) (rest : List Char) :
    behindRemarks marker false ((String.join (ls.map (· ++ "\n"))).toList ++ rest) =
      behindRemarks marker false rest := by
  induction ls with
  | nil => rfl
  | cons line ls ih =>
    obtain ⟨⟨single, begins⟩, others⟩ := List.forall_mem_cons.1 each
    rw [List.map_cons, String.join_cons, String.toList_append, String.toList_append, List.append_assoc,
      List.append_assoc]
    exact (behindRemarks_line some single begins _).trans (ih others)

/-- Lines with a marker are remarks of what stands behind them. -/
theorem remarks_join {marker : String} (some : marker ≠ "") {ls : List String}
    (each : ∀ line ∈ ls, OneLine line ∧ marker.toList <+: line.toList)
    (other : marker.toList.isPrefixOf rest = false) :
    (remarks marker).run ((String.join (ls.map (· ++ "\n"))).toList ++ rest) = Option.some ((), rest) := by
  have letters : marker.toList ≠ [] := fun empty => some (String.toList_injective empty)
  have dropped := (behindRemarks_join letters each rest).trans (behindRemarks_of_other other)
  exact congrArg (fun rest => Option.some ((), rest)) dropped

theorem commentLines_begin {marker text line : String} (member : line ∈ Layout.commentLines marker text) :
    marker.toList <+: line.toList := by
  obtain ⟨source, -, rfl⟩ := List.mem_map.1 member
  dsimp only
  split
  · exact List.prefix_refl _
  · rw [String.toList_append, String.toList_append, List.append_assoc]
    exact List.prefix_append _ _

/-- A comment is a remark of what stands behind it, where its lines begin with the indented marker. -/
theorem remarks_comment {unit marker opening : String} {depth : Nat} (plain : OneLine unit) (single : OneLine marker)
    (some : marker ≠ "") (mark : Layout.indented unit depth marker = opening) (text : Option String)
    (other : opening.toList.isPrefixOf rest = false) :
    (remarks opening).run (((Layout.comment marker text).render unit depth).toList ++ rest) =
      Option.some ((), rest) := by
  subst mark
  have indentation : ∀ line : String, line ≠ "" →
      Layout.indented unit depth line = String.join (List.replicate depth unit) ++ line := by
    intro line some
    rw [Layout.indented, if_neg some]
  have filled : Layout.indented unit depth marker ≠ "" := by
    rw [indentation marker some]
    exact append_ne_empty some _
  rw [Layout.render_eq]
  refine remarks_join filled (fun line member => ?_) other
  cases text with
  | none => exact absurd member List.not_mem_nil
  | some text =>
    obtain ⟨source, among, rfl⟩ := List.mem_map.1 member
    have opens := commentLines_begin among
    have filled' : source ≠ "" := by
      rintro rfl
      exact some (String.toList_injective (List.prefix_nil.1 opens))
    refine ⟨Layout.oneLine_indented plain depth (Layout.oneLine_of_mem_commentLines single among), ?_⟩
    rw [indentation marker some, indentation source filled', String.toList_append, String.toList_append]
    exact (List.prefix_append_right_inj _).2 opens

/-! ## Several pieces -/

/-- Pieces that follow each other are read one after the other. -/
theorem run_mapM {γ : Type} (reader : β → SourceReader α) (key : γ → β) (value : γ → α) {text : γ → List Char}
    {xs : List γ} (reads : ∀ x ∈ xs, ∀ rest, (reader (key x)).run (text x ++ rest) = some (value x, rest))
    (rest : List Char) :
    ((xs.map key).mapM reader).run (xs.flatMap text ++ rest) = some (xs.map value, rest) := by
  induction xs with
  | nil => rfl
  | cons x xs ih =>
    obtain ⟨first, others⟩ := List.forall_mem_cons.1 reads
    rw [List.map_cons, List.mapM_cons, List.flatMap_cons, List.append_assoc, run_bind_of (first _),
      run_bind_of (ih others)]
    rfl

/-- Reads a piece behind a separator. -/
def behind (separator : String) (reader : SourceReader α) : SourceReader α := do
  exactly separator
  reader

/-- Reads one piece for each key, with a separator between them. -/
def separated (separator : String) (reader : β → SourceReader α) : List β → SourceReader (List α)
  | [] => pure []
  | key :: keys => do
    let first ← reader key
    let others ← keys.mapM fun key => behind separator (reader key)
    return first :: others

section

variable {γ : Type} (key : γ → β) (value : γ → α) {text : γ → String} {separator : String}
  {reader : β → SourceReader α} {xs : List γ}

/-- Behind a piece stand further ones, or what stands behind all. -/
theorem run_behind (follows : List Char → Prop) (between : ∀ tail, follows (separator.toList ++ tail))
    (last : follows rest)
    (reads : ∀ x ∈ xs, ∀ tail, follows tail →
      (reader (key x)).run ((text x).toList ++ tail) = some (value x, tail)) :
    let later := xs.flatMap (fun x => separator.toList ++ (text x).toList) ++ rest
    follows later ∧ ((xs.map key).mapM fun key => behind separator (reader key)).run later =
      some (xs.map value, rest) := by
  induction xs with
  | nil => exact ⟨last, rfl⟩
  | cons x xs ih =>
    obtain ⟨first, others⟩ := List.forall_mem_cons.1 reads
    obtain ⟨follow, later⟩ := ih others
    dsimp only at later ⊢
    rw [List.flatMap_cons, List.append_assoc, List.append_assoc]
    refine ⟨between _, ?_⟩
    have piece : (behind separator (reader (key x))).run (separator.toList ++ ((text x).toList ++ _)) = _ :=
      (run_bind_of (exactly_append separator _)).trans (first _ follow)
    rw [List.map_cons, List.mapM_cons, run_bind_of piece, run_bind_of later]
    rfl

/-- Separated pieces are read one after the other. -/
theorem run_separated (follows : List Char → Prop) (between : ∀ tail, follows (separator.toList ++ tail))
    (last : follows rest)
    (reads : ∀ x ∈ xs, ∀ tail, follows tail →
      (reader (key x)).run ((text x).toList ++ tail) = some (value x, tail)) :
    (separated separator reader (xs.map key)).run ((separator.intercalate (xs.map text)).toList ++ rest) =
      some (xs.map value, rest) := by
  cases xs with
  | nil => rfl
  | cons x xs =>
    obtain ⟨first, others⟩ := List.forall_mem_cons.1 reads
    obtain ⟨follow, later⟩ := run_behind key value follows between last others
    rw [String.toList_intercalate, List.map_cons, List.map_cons, List.map_cons, Text.intercalate_cons_eq,
      List.append_assoc, List.map_map, List.flatMap_map, separated]
    exact (run_bind_of (first _ follow)).trans (run_bind_of later)

end

/-! ## As many pieces as there are -/

/-- The pieces in front, up to the first that is refused or takes nothing off, and what stands behind them. -/
def piecesOf (reader : SourceReader α) (source : List Char) : List α × List Char :=
  match reader.run source with
  | none => ([], source)
  | some (a, rest) =>
    if rest.length < source.length then
      let (others, last) := piecesOf reader rest
      (a :: others, last)
    else ([], source)
termination_by source.length

/-- Reads as many pieces as there are. -/
def many (reader : SourceReader α) : SourceReader (List α) := fun source =>
  some (piecesOf reader source)

section

variable {γ : Type} {reader : SourceReader α} (value : γ → α) {text : γ → List Char} {xs : List γ}

/-- Behind a piece stand further ones, or what stands behind all. -/
theorem run_many_of_follows (follows : List Char → Prop) (between : ∀ x ∈ xs, ∀ tail, follows (text x ++ tail))
    (last : follows rest) (filled : ∀ x ∈ xs, text x ≠ [])
    (reads : ∀ x ∈ xs, ∀ tail, follows tail → reader.run (text x ++ tail) = some (value x, tail))
    (refused : reader.run rest = none) :
    follows (xs.flatMap text ++ rest) ∧ (many reader).run (xs.flatMap text ++ rest) = some (xs.map value, rest) := by
  have pieces : follows (xs.flatMap text ++ rest) ∧
      piecesOf reader (xs.flatMap text ++ rest) = (xs.map value, rest) := by
    induction xs with
    | nil =>
      refine ⟨last, ?_⟩
      show piecesOf reader rest = ([], rest)
      rw [piecesOf, refused]
    | cons x xs ih =>
      obtain ⟨opens, between⟩ := List.forall_mem_cons.1 between
      obtain ⟨some, filled⟩ := List.forall_mem_cons.1 filled
      obtain ⟨first, reads⟩ := List.forall_mem_cons.1 reads
      obtain ⟨follow, tail⟩ := ih between filled reads
      rw [List.flatMap_cons, List.append_assoc]
      refine ⟨opens _, ?_⟩
      have shorter : (xs.flatMap text ++ rest).length < (text x ++ (xs.flatMap text ++ rest)).length := by
        rw [@List.length_append _ (text x)]
        exact Nat.lt_add_of_pos_left (List.length_pos_of_ne_nil some)
      rw [piecesOf, first _ follow]
      dsimp only
      rw [if_pos shorter, tail]
      rfl
  exact ⟨pieces.1, congrArg some pieces.2⟩

theorem many_refused (refused : reader.run rest = none) : (many reader).run rest = some ([], rest) := by
  show some (piecesOf reader rest) = some ([], rest)
  rw [piecesOf, refused]

/-- Pieces are read up to a text that is refused. -/
theorem run_many (filled : ∀ x ∈ xs, text x ≠ [])
    (reads : ∀ x ∈ xs, ∀ tail, reader.run (text x ++ tail) = some (value x, tail))
    (refused : reader.run rest = none) :
    (many reader).run (xs.flatMap text ++ rest) = some (xs.map value, rest) :=
  (run_many_of_follows value (fun _ => True) (fun _ _ _ => trivial) trivial filled
    (fun x among tail _ => reads x among tail) refused).2

end

/-! ## Conditions and alternatives -/

theorem run_guard {condition : Prop} [Decidable condition] (holds : condition) :
    (guard condition : SourceReader Unit).run source = some ((), source) := by
  rw [guard, if_pos holds]
  rfl

theorem run_orElse_of {first second : SourceReader α} {a : α} (reads : first.run source = some (a, rest)) :
    (first <|> second).run source = some (a, rest) := by
  show (first.run source <|> second.run source) = _
  rw [reads]
  rfl

theorem run_orElse_refused {first second : SourceReader α} (refused : first.run source = none) :
    (first <|> second).run source = second.run source := by
  show (first.run source <|> second.run source) = _
  rw [refused]
  rfl

end SourceReader

end SchemaBindings
