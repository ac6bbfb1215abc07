import Mathlib.Data.List.Induction
import SchemaBindings.Proofs.TextPieces
import SchemaBindings.Source.FilePath

/-!
# Segments of file paths

A path is its segments. Plain names (`IsPlain`) joined to a path are its segments and its components, and can be read
off it again (`segments_ofComponents`, `components_ofComponents`).

A relative path that is appended to a directory goes on from there: its segments follow those of the directory
(`segments_push`), and so do its components (`components_push`).
-/

namespace SchemaBindings.FilePath

/-- A name that leads one step down. -/
structure IsPlain (name : String) : Prop where
  filled : name ≠ ""
  single : '/' ∉ name.toList
  inside : name ≠ "."
  down : name ≠ ".."

/-! ## Ends of a path -/

theorem endsWith_iff (path : String) : path.endsWith "/" = true ↔ ∃ front, path.toList = front ++ ['/'] := by
  rw [← String.endsWith_toSlice, String.Slice.endsWith_string_iff, String.copy_toSlice]
  exact ⟨fun ⟨front, same⟩ => ⟨front, same.symm⟩, fun ⟨front, same⟩ => ⟨front, same.symm⟩⟩

theorem isAbsolute_iff (path : String) : isAbsolute path = true ↔ ∃ rest, path.toList = '/' :: rest := by
  rw [isAbsolute, String.startsWith_string_iff]
  exact ⟨fun ⟨rest, same⟩ => ⟨rest, same.symm⟩, fun ⟨rest, same⟩ => ⟨rest, same.symm⟩⟩

theorem isAbsolute_eq_false {path : String} (plain : '/' ∉ path.toList) : isAbsolute path = false := by
  rw [Bool.eq_false_iff, ne_eq, isAbsolute_iff]
  rintro ⟨rest, same⟩
  exact plain (same ▸ List.mem_cons_self)

/-! ## Segments -/

theorem splitSegments_ne_nil (path : List Char) : splitSegments path ≠ [] := by
  fun_cases splitSegments path <;> simp

theorem splitSegments_single {segment : List Char} (plain : '/' ∉ segment) : splitSegments segment = [segment] := by
  induction segment with
  | nil => rfl
  | cons c segment ih =>
    rw [List.mem_cons, not_or] at plain
    rw [splitSegments, if_neg (Ne.symm plain.1), ih plain.2]

/-- A separator stands between two paths. -/
theorem splitSegments_append (path rest : List Char) :
    splitSegments (path ++ '/' :: rest) = splitSegments path ++ splitSegments rest := by
  induction path with
  | nil => rfl
  | cons c path ih =>
    rw [List.cons_append, splitSegments, splitSegments, ih]
    split
    · rfl
    · cases split : splitSegments path with
      | nil => exact absurd split (splitSegments_ne_nil path)
      | cons segment segments => rfl

theorem segments_append (path rest : String) : segments (path ++ "/" ++ rest) = segments path ++ segments rest := by
  rw [segments, String.toList_append, String.toList_append, List.append_assoc, segments, segments, ← List.map_append,
    ← splitSegments_append]
  rfl

theorem segments_single {name : String} (plain : '/' ∉ name.toList) : segments name = [name] := by
  rw [segments, splitSegments_single plain, List.map_singleton, String.ofList_toList]

theorem segments_ne_nil (path : String) : segments path ≠ [] :=
  mt List.map_eq_nil_iff.1 (splitSegments_ne_nil _)

/-- The segments behind which those of an appended path stand. -/
def base (path : String) : List String :=
  if path = "" then [] else if path.endsWith "/" then (segments path).dropLast else segments path

/-- A path that is empty or ends with a separator has an empty segment at its end. -/
theorem segments_eq_base (path : String) : segments path = base path ∨ segments path = base path ++ [""] := by
  unfold base
  split
  · next empty =>
    rw [empty]
    exact .inr rfl
  · split
    · next closed =>
      obtain ⟨front, chars⟩ := (endsWith_iff path).1 closed
      have last : segments path = segments (String.ofList front) ++ [""] := by
        rw [segments, chars, splitSegments_append, List.map_append, segments, String.toList_ofList]
        rfl
      rw [last, List.dropLast_concat]
      exact .inr rfl
    · exact .inl rfl

/-- A relative path goes on behind the segments of the path to which it is appended. -/
theorem segments_push (path : String) {rest : String} (relative : isAbsolute rest = false) :
    segments (push path rest) = base path ++ segments rest := by
  unfold push base
  rw [if_neg (by rw [← isAbsolute, relative]; exact Bool.false_ne_true)]
  by_cases empty : path = ""
  · rw [if_pos (.inl empty), if_pos empty, empty, String.empty_append, List.nil_append]
  · rw [if_neg empty]
    by_cases closed : path.endsWith "/" = true
    · rw [if_pos (.inr closed), if_pos closed]
      obtain ⟨front, chars⟩ := (endsWith_iff path).1 closed
      have split : ∀ rest : String, segments (path ++ rest) = segments (String.ofList front) ++ segments rest := by
        intro rest
        rw [segments, String.toList_append, chars, List.append_assoc, List.singleton_append, splitSegments_append,
          List.map_append, segments, String.toList_ofList, segments]
      have whole := split ""
      rw [String.append_empty] at whole
      have short : (segments (String.ofList front) ++ segments "").dropLast = segments (String.ofList front) :=
        List.dropLast_concat
      rw [split, whole, short]
    · rw [if_neg (not_or.2 ⟨empty, closed⟩), if_neg closed, segments_append]

/-! ## Plain names -/

theorem isAbsolute_push {path rest : String} (relative : isAbsolute path = false) (relative' : isAbsolute rest = false) :
    isAbsolute (push path rest) = false := by
  have appended : ∀ behind : String, path ≠ "" → isAbsolute (path ++ behind) = false := by
    intro behind filled
    rw [Bool.eq_false_iff, ne_eq, isAbsolute_iff] at relative ⊢
    rintro ⟨tail, same⟩
    rw [String.toList_append] at same
    cases chars : path.toList with
    | nil => exact filled (String.toList_eq_nil_iff.1 chars)
    | cons c front =>
      rw [chars, List.cons_append, List.cons_eq_cons] at same
      exact relative ⟨front, by rw [chars, same.1]⟩
  unfold push
  rw [if_neg (by rw [← isAbsolute, relative']; exact Bool.false_ne_true)]
  by_cases empty : path = ""
  · rw [if_pos (.inl empty), empty, String.empty_append]
    exact relative'
  · split
    · exact appended rest empty
    · rw [String.append_assoc]
      exact appended _ empty

theorem isAbsolute_ofComponents {names : List String} (plain : ∀ name ∈ names, IsPlain name) :
    isAbsolute (ofComponents names) = false := by
  induction names using List.reverseRecOn with
  | nil => decide +kernel
  | append_singleton names name ih =>
    obtain ⟨before, last⟩ := List.forall_mem_append.1 plain
    rw [ofComponents, List.foldl_append]
    exact isAbsolute_push (ih before) (isAbsolute_eq_false (last name List.mem_cons_self).single)

theorem ofComponents_single {name : String} (plain : '/' ∉ name.toList) : ofComponents [name] = name := by
  have relative := isAbsolute_eq_false plain
  rw [ofComponents, List.foldl_cons, List.foldl_nil, push, if_neg (by rw [← isAbsolute, relative]; exact Bool.false_ne_true),
    if_pos (.inl rfl), String.empty_append]

/-- Plain names are the segments of the path that they are joined to. -/
theorem base_ofComponents {names : List String} (plain : ∀ name ∈ names, IsPlain name) :
    base (ofComponents names) = names ∧ (names ≠ [] → segments (ofComponents names) = names) := by
  induction names using List.reverseRecOn with
  | nil => exact ⟨rfl, fun some => absurd rfl some⟩
  | append_singleton names name ih =>
    obtain ⟨before, last⟩ := List.forall_mem_append.1 plain
    have last := last name List.mem_cons_self
    have joined : segments (ofComponents (names ++ [name])) = names ++ [name] := by
      rw [ofComponents, List.foldl_append, List.foldl_cons, List.foldl_nil,
        segments_push _ (isAbsolute_eq_false last.single), segments_single last.single]
      exact congrArg (· ++ [name]) (ih before).1
    refine ⟨?_, fun _ => joined⟩
    -- The last name is not empty, so no segment stands behind it.
    rcases segments_eq_base (ofComponents (names ++ [name])) with same | closed
    · exact same.symm.trans joined
    · have behind := congrArg List.getLast? (joined.symm.trans closed)
      rw [List.getLast?_concat, List.getLast?_concat] at behind
      exact absurd (Option.some.inj behind) last.filled

theorem segments_ofComponents {names : List String} (some : names ≠ []) (plain : ∀ name ∈ names, IsPlain name) :
    segments (ofComponents names) = names :=
  (base_ofComponents plain).2 some

/-! ## Components -/

theorem isComponent_of_isPlain {name : String} (plain : IsPlain name) : isComponent name = true := by
  simp [isComponent, plain.filled, plain.inside]

/-- Plain names are the components of the path that they are joined to. -/
theorem components_ofComponents {names : List String} (plain : ∀ name ∈ names, IsPlain name) :
    components (ofComponents names) = names := by
  cases names with
  | nil => decide +kernel
  | cons name names =>
    obtain ⟨first, others⟩ := List.forall_mem_cons.1 plain
    rw [components, segments_ofComponents (List.cons_ne_nil _ _) plain]
    dsimp only
    rw [if_neg first.filled, List.filter_eq_self.2 fun name member => isComponent_of_isPlain (others name member)]
    rfl

/-- Plain names that are appended to a directory are components behind those of the directory. -/
theorem components_push (path : String) {names : List String} (some : names ≠ [])
    (plain : ∀ name ∈ names, IsPlain name) :
    components (push path (ofComponents names)) = components path ++ names := by
  have kept : names.filter isComponent = names :=
    List.filter_eq_self.2 fun name member => isComponent_of_isPlain (plain name member)
  have split := segments_push path (isAbsolute_ofComponents plain)
  cases before : base path with
  | nil =>
    have nothing : segments path = [""] := by
      rcases segments_eq_base path with same | closed
      · exact absurd (same.trans before) (segments_ne_nil path)
      · rw [closed, before, List.nil_append]
    rw [before, List.nil_append] at split
    rw [components, split, ← components, components_ofComponents plain, components, nothing]
    rfl
  | cons first rest =>
    have around : components path = (if first = "" then [] else [first]) ++ rest.filter isComponent := by
      rcases segments_eq_base path with same | closed
      · rw [components, same, before]
      · rw [components, closed, before, List.cons_append]
        dsimp only
        have void : [""].filter isComponent = [] := by decide
        rw [List.filter_append, void, List.append_nil]
    rw [segments_ofComponents some plain] at split
    rw [components, split, before, around, List.cons_append]
    dsimp only
    rw [List.filter_append, kept, List.append_assoc]

end SchemaBindings.FilePath
