import SchemaBindings.Proofs.RustHeads

/-!
# Texts of Rust types

The text of a type without parameters tells the type, apart from what is written like a built-in type (`denoted`).

1. What stands before the arguments of a legible type ends where the characters of paths end, the arguments end where
   their bracket is closed, and so a legible type can be read off a text that begins with it (`reads`).
2. A type is written like its reading (`typeText_denoted`), and the reading is legible (`legible_denoted`).
3. In a run whose references lead to modules with names, two types are written alike exactly if they have the same
   reading (`typeText_eq_iff`).
-/

namespace SchemaBindings.Rust

/-! ## Where a type ends -/

/-- Whether the character can stand in the path in front of the arguments of a type. -/
def isHeadChar (c : Char) : Bool :=
  isSegmentChar c || c == ':'

/-- Whether a type that could end in front of the character goes on with it. -/
def goesOn (c : Char) : Bool :=
  isHeadChar c || c == '<'

theorem ends_head {rest : List Char} (ends : Text.Ends goesOn rest) : Text.Ends isHeadChar rest := by
  intro c first
  have other := ends c first
  rw [goesOn, Bool.or_eq_false_iff] at other
  exact other.1

section

variable {cx : RenderContext} {declared : SchemaPath → Prop}

/-! ## Heads -/

theorem builtIn_segments_plain {b : BuiltIn} (unlike : b ≠ .scalar .bytes) :
    (∀ segment ∈ b.segments, ∀ c ∈ segment.toList, isSegmentChar c = true) ∧
      ∃ segment ∈ b.segments, segment ≠ "" := by
  have finite : ∀ b ∈ BuiltIn.all, b ≠ .scalar .bytes →
      (∀ segment ∈ b.segments, segment.toList.all isSegmentChar) ∧ ∃ segment ∈ b.segments, segment ≠ "" := by
    decide +kernel
  obtain ⟨inside, filled⟩ := finite b b.mem_all unlike
  exact ⟨fun segment among => List.all_eq_true.1 (inside segment among), filled⟩

theorem head_segments_plain (places : Places cx declared) {t : TypeRef} {h : Head}
    (head : head? t = some h) (legible : LegiblePart cx.module declared t) :
    (∀ segment ∈ h.segments cx, ∀ c ∈ segment.toList, isSegmentChar c = true) ∧
      ∃ segment ∈ h.segments cx, segment ≠ "" := by
  have last : ∀ (destination : ModulePath) (name : String),
      name ∈ segments cx.module destination name := by
    simp [segments]
  cases h with
  | builtIn b => exact builtIn_segments_plain (builtIn_ne_bytes head legible)
  | tuple arity =>
    have plain := fun c inside =>
      isSegmentChar_of_isIdentifierChar (tupleName_isIdentifierChar arity c inside)
    exact ⟨segments_plain tuplesModule_identifiers plain, _, last _ _, tupleName_ne_empty arity⟩
  | declared p =>
    cases t <;> cases head
    have plain := fun c inside =>
      isSegmentChar_of_isIdentifierChar (places.name_isIdentifierChar legible.1 c inside)
    exact ⟨segments_plain (places.modules p legible.1) plain, _, last _ _, places.name_ne_empty legible.1⟩

def Head.text (cx : RenderContext) (h : Head) : String :=
  "::".intercalate (h.segments cx)

theorem head_isHeadChar (places : Places cx declared) {t : TypeRef} {h : Head}
    (head : head? t = some h) (legible : LegiblePart cx.module declared t) :
    ∀ c ∈ (h.text cx).toList, isHeadChar c = true := by
  intro c inside
  rw [Head.text, String.toList_intercalate] at inside
  rcases Text.mem_joined inside with between | ⟨piece, among, inside⟩
  · have colon : c = ':' := by simpa using between
    rw [colon]
    decide
  · obtain ⟨segment, member, rfl⟩ := List.mem_map.1 among
    rw [isHeadChar, (head_segments_plain places head legible).1 segment member c inside, Bool.true_or]

theorem head_text_ne_empty (places : Places cx declared) {t : TypeRef} {h : Head}
    (head : head? t = some h) (legible : LegiblePart cx.module declared t) : h.text cx ≠ "" := by
  intro empty
  obtain ⟨-, segment, member, some⟩ := head_segments_plain places head legible
  have pieces := congrArg String.toList empty
  rw [Head.text, String.toList_intercalate] at pieces
  refine some (String.toList_injective ?_)
  exact Text.joined_eq_nil pieces _ (List.mem_map_of_mem member)

/-- The text in front of the arguments tells the segments. -/
theorem segments_eq_of_text (places : Places cx declared) {t u : TypeRef} {h k : Head}
    (head : head? t = some h) (head' : head? u = some k) (legible : LegiblePart cx.module declared t)
    (legible' : LegiblePart cx.module declared u) (same : h.text cx = k.text cx) :
    h.segments cx = k.segments cx := by
  obtain ⟨plain, segment, member, -⟩ := head_segments_plain places head legible
  obtain ⟨plain', segment', member', -⟩ := head_segments_plain places head' legible'
  refine Text.intercalate_injective rfl (List.ne_nil_of_mem member) (List.ne_nil_of_mem member') ?_ ?_ same
  · exact fun segment member colon => absurd (plain segment member _ colon) (by decide)
  · exact fun segment member colon => absurd (plain' segment member _ colon) (by decide)

/-! ## Arguments -/

/-- The type can be read off a text that begins with it. -/
def Reads (cx : RenderContext) (declared : SchemaPath → Prop) (t : TypeRef) : Prop :=
  ∀ u r s, Legible cx.module declared u → Text.Ends goesOn r → Text.Ends goesOn s →
    (typeText cx t).toList ++ r = (typeText cx u).toList ++ s → t = u ∧ r = s

theorem genericList_toList {texts : List String} (some : texts ≠ []) :
    (genericList texts).toList = '<' :: ([',', ' '].intercalate (texts.map String.toList) ++ ['>']) := by
  rw [genericList, bracketed, if_neg some, String.toList_append, String.toList_append,
    String.toList_intercalate]
  rfl

theorem joined_reads {ts us : List TypeRef} {r s : List Char} (each : ∀ t ∈ ts, Reads cx declared t)
    (legible : ∀ u ∈ us, Legible cx.module declared u) (some : ts ≠ []) (some' : us ≠ [])
    (same : [',', ' '].intercalate (ts.map fun t => (typeText cx t).toList) ++ '>' :: r =
      [',', ' '].intercalate (us.map fun u => (typeText cx u).toList) ++ '>' :: s) : ts = us ∧ r = s := by
  have closed : ∀ rest, Text.Ends goesOn ('>' :: rest) := Text.ends_cons (by decide)
  have comma : ∀ rest, Text.Ends goesOn (',' :: rest) := Text.ends_cons (by decide)
  induction ts generalizing us with
  | nil => exact absurd rfl some
  | cons t ts ih =>
    cases us with
    | nil => exact absurd rfl some'
    | cons u us =>
      obtain ⟨first, others⟩ := List.forall_mem_cons.1 each
      obtain ⟨first', others'⟩ := List.forall_mem_cons.1 legible
      cases ts with
      | nil =>
        cases us with
        | nil =>
          rw [List.map_singleton, List.map_singleton, List.intercalate_singleton,
            List.intercalate_singleton] at same
          obtain ⟨rfl, rest⟩ := first u _ _ first' (closed _) (closed _) same
          exact ⟨rfl, (List.cons.inj rest).2⟩
        | cons u' us =>
          rw [List.map_singleton, List.map_cons, List.map_cons, List.intercalate_singleton,
            List.intercalate_cons_cons, List.append_assoc, List.append_assoc] at same
          obtain ⟨-, rest⟩ := first u _ _ first' (closed _) (comma _) same
          exact absurd (List.cons.inj rest).1 (by decide)
      | cons t' ts =>
        cases us with
        | nil =>
          rw [List.map_singleton, List.map_cons, List.map_cons, List.intercalate_singleton,
            List.intercalate_cons_cons, List.append_assoc, List.append_assoc] at same
          obtain ⟨-, rest⟩ := first u _ _ first' (comma _) (closed _) same
          exact absurd (List.cons.inj rest).1 (by decide)
        | cons u' us =>
          rw [List.map_cons, List.map_cons, List.map_cons, List.map_cons, List.intercalate_cons_cons,
            List.intercalate_cons_cons, List.append_assoc, List.append_assoc, List.append_assoc,
            List.append_assoc] at same
          obtain ⟨rfl, rest⟩ := first u _ _ first' (comma _) (comma _) same
          have rest := (List.cons.inj (List.cons.inj rest).2).2
          obtain ⟨equal, rest⟩ := ih others others' (by simp) (by simp) rest
          exact ⟨by rw [equal], rest⟩

theorem arguments_read {ts us : List TypeRef} {r s : List Char} (each : ∀ t ∈ ts, Reads cx declared t)
    (legible : ∀ u ∈ us, Legible cx.module declared u) (ends : Text.Ends goesOn r)
    (ends' : Text.Ends goesOn s)
    (same : (genericList (ts.map (typeText cx))).toList ++ r =
      (genericList (us.map (typeText cx))).toList ++ s) : ts = us ∧ r = s := by
  -- A text that does not go on with a type does not begin with arguments.
  have unopened : ∀ {vs : List TypeRef} {rest tail : List Char}, vs ≠ [] → Text.Ends goesOn rest →
      rest ≠ (genericList (vs.map (typeText cx))).toList ++ tail := by
    rintro vs rest tail some ends rfl
    rw [genericList_toList (by simpa using some)] at ends
    exact absurd (ends '<' rfl) (by decide)
  cases ts with
  | nil =>
    cases us with
    | nil => exact ⟨rfl, same⟩
    | cons u us => exact absurd same (unopened (by simp) ends)
  | cons t ts =>
    cases us with
    | nil => exact absurd same.symm (unopened (by simp) ends')
    | cons u us =>
      rw [genericList_toList (by simp), genericList_toList (by simp), List.cons_append,
        List.cons_append, List.append_assoc, List.append_assoc, List.map_map, List.map_map] at same
      exact joined_reads each legible (by simp) (by simp) (List.cons.inj same).2

theorem ends_arguments (ts : List TypeRef) {rest : List Char} (ends : Text.Ends goesOn rest) :
    Text.Ends isHeadChar ((genericList (ts.map (typeText cx))).toList ++ rest) := by
  cases ts with
  | nil => exact ends_head ends
  | cons t ts =>
    rw [genericList_toList (by simp)]
    exact Text.ends_cons (by decide) _

/-! ## Types -/

/-- A legible type that has no head is an array. -/
theorem exists_array {t : TypeRef} (headless : head? t = none)
    (legible : LegiblePart cx.module declared t) : ∃ item length, t = .array item length := by
  cases t with
  | array item length => exact ⟨item, length, rfl⟩
  | param g => exact legible.elim
  | _ => exact absurd headless (by simp [head?])

theorem array_toList (item : TypeRef) (length : Nat) (rest : List Char) :
    (typeText cx (.array item length)).toList ++ rest =
      '[' :: ((typeText cx item).toList ++ ';' :: ' ' :: ((toString length).toList ++ ']' :: rest)) := by
  show ("[" ++ typeText cx item ++ "; " ++ toString length ++ "]").toList ++ rest = _
  simp only [String.toList_append, List.append_assoc]
  rfl

/-- No path begins like an array. -/
theorem head_ne_array (places : Places cx declared) {t : TypeRef} {h : Head} (head : head? t = some h)
    (legible : LegiblePart cx.module declared t) {r s : List Char} :
    (typeText cx t).toList ++ r ≠ '[' :: s := by
  intro same
  have inside := head_isHeadChar places head legible
  rw [typeText_of_head cx head, ← Head.text, String.toList_append] at same
  cases chars : (h.text cx).toList with
  | nil => exact head_text_ne_empty places head legible (String.toList_injective chars)
  | cons c rest =>
    rw [chars] at same inside
    rw [(List.cons.inj same).1] at inside
    exact absurd (inside '[' List.mem_cons_self) (by decide)

/-- Every legible type can be read off a text that begins with it. -/
theorem reads (places : Places cx declared) (t : TypeRef) (legible : Legible cx.module declared t) :
    Reads cx declared t := by
  induction t using SchemaType.children_induction with
  | step t ih =>
    obtain ⟨own, parts⟩ := legible_iff.1 legible
    intro u r s legible' ends ends' same
    obtain ⟨own', parts'⟩ := legible_iff.1 legible'
    cases head : head? t with
    | some h =>
      cases head' : head? u with
      | some k =>
        rw [typeText_of_head cx head, typeText_of_head cx head', String.toList_append,
          String.toList_append, List.append_assoc, List.append_assoc] at same
        obtain ⟨path, rest⟩ := Text.append_injective (head_isHeadChar places head own)
          (head_isHeadChar places head' own') (ends_arguments _ ends) (ends_arguments _ ends') same
        obtain ⟨children, rest⟩ :=
          arguments_read (fun v child => ih v child (parts v child)) parts' ends ends' rest
        have segments :=
          segments_eq_of_text places head head' own own' (String.toList_injective path)
        obtain rfl := head_eq places head head' own own' children segments
        exact ⟨eq_of_head head head' children, rest⟩
      | none =>
        obtain ⟨item, length, rfl⟩ := exists_array head' own'
        rw [array_toList] at same
        exact absurd same (head_ne_array places head own)
    | none =>
      obtain ⟨item, length, rfl⟩ := exists_array head own
      rw [array_toList] at same
      cases head' : head? u with
      | some k => exact absurd same.symm (head_ne_array places head' own')
      | none =>
        obtain ⟨item', length', rfl⟩ := exists_array head' own'
        rw [array_toList] at same
        have child : item ∈ (SchemaType.array item length).children := List.mem_singleton_self item
        have child' : item' ∈ (SchemaType.array item' length').children := List.mem_singleton_self item'
        obtain ⟨rfl, rest⟩ := ih item child (parts item child) item' _ _ (parts' item' child')
          (Text.ends_cons (by decide) _) (Text.ends_cons (by decide) _) (List.cons.inj same).2
        obtain ⟨digits, last⟩ := Text.append_injective (fun _ => Text.isDigit_of_mem_toString)
          (fun _ => Text.isDigit_of_mem_toString) (Text.ends_cons (by decide) _)
          (Text.ends_cons (by decide) _) (List.cons.inj (List.cons.inj rest).2).2
        obtain rfl := Text.toString_injective (String.toList_injective digits)
        exact ⟨rfl, (List.cons.inj last).2⟩

end

/-! ## What a text is read as -/

theorem builtIn?_cases {m : ModulePath} {p : SchemaPath} {arguments : List TypeRef} {t : TypeRef}
    (found : builtIn? m p arguments = some t) :
    p.module = m ∧ t.children = arguments ∧
      ((Text.upperCamel p.name = "String" ∧ t = .scalar .string) ∨
        (∃ item, Text.upperCamel p.name = "Vec" ∧ t = .list item) ∨
          ∃ item, Text.upperCamel p.name = "Option" ∧ t = .option item) := by
  unfold builtIn? at found
  split at found
  · next home =>
    split at found
    · split at found
      · next name =>
        cases found
        exact ⟨home, rfl, .inl ⟨name, rfl⟩⟩
      · exact absurd found (by simp)
    · next item =>
      split at found
      · next name =>
        cases found
        exact ⟨home, rfl, .inr (.inl ⟨item, name, rfl⟩)⟩
      · split at found
        · next name =>
          cases found
          exact ⟨home, rfl, .inr (.inr ⟨item, name, rfl⟩)⟩
        · exact absurd found (by simp)
    · exact absurd found (by simp)
  · exact absurd found (by simp)

/-- A declared type with the name of a built-in one is written like it. -/
theorem typeText_builtIn? {cx : RenderContext} {p : SchemaPath} {arguments : List TypeRef}
    (spelled : cx.identifierOf p = Text.upperCamel p.name) :
    typeText cx ((builtIn? cx.module p arguments).getD (.named p arguments)) =
      typeText cx (.named p arguments) := by
  cases found : builtIn? cx.module p arguments with
  | none => rfl
  | some t =>
    obtain ⟨home, rfl, form⟩ := builtIn?_cases found
    have written : typeText cx (.named p t.children) =
        Text.upperCamel p.name ++ genericList (t.children.map (typeText cx)) := by
      show relativePath cx.module p.module (cx.identifierOf p) ++ genericList (typeTexts cx _) = _
      rw [home, relativePath_self, spelled, typeTexts_eq_map]
    rw [written, Option.getD_some]
    rcases form with ⟨name, rfl⟩ | ⟨item, name, rfl⟩ | ⟨item, name, rfl⟩
    · rw [name]
      rfl
    · rw [name, typeText_of_head cx rfl]
      rfl
    · rw [name, typeText_of_head cx rfl]
      rfl

/-- A type and its reading are written alike. -/
theorem typeText_denoted {cx : RenderContext} (t : TypeRef)
    (spelled : ∀ p ∈ t.references, cx.identifierOf p = Text.upperCamel p.name) :
    typeText cx (denoted cx.module t) = typeText cx t := by
  induction t using SchemaType.children_induction with
  | step t ih =>
    have parts : ∀ u ∈ t.children, typeText cx (denoted cx.module u) = typeText cx u :=
      fun u child => ih u child fun p referred =>
        spelled p (SchemaType.mem_references_of_child child referred)
    have listed : ∀ us : List TypeRef, us = t.children →
        typeTexts cx (denotedAll cx.module us) = typeTexts cx us := by
      rintro us rfl
      rw [denotedAll_eq_map, typeTexts_eq_map, typeTexts_eq_map, List.map_map]
      exact List.map_congr_left parts
    cases t with
    | scalar s =>
      rw [denoted]
      split
      · next bytes =>
        subst bytes
        show "Vec<" ++ "u8" ++ ">" = "Vec<u8>"
        decide
      · rfl
    | tuple elements =>
      show relativePath _ _ (tupleName (denotedAll _ _).length) ++ genericList (typeTexts cx _) = _
      rw [listed elements rfl, denotedAll_eq_map, List.length_map]
      rfl
    | named p arguments =>
      rw [denoted, typeText_builtIn? (spelled p (SchemaType.mem_references.2 ⟨_, List.mem_cons_self⟩))]
      show relativePath _ _ _ ++ genericList (typeTexts cx _) = _
      rw [listed arguments rfl]
      rfl
    | param g => rfl
    | list item =>
      show "Vec<" ++ typeText cx (denoted cx.module item) ++ ">" = _
      rw [parts item (List.mem_singleton_self item)]
      rfl
    | array item length =>
      show "[" ++ typeText cx (denoted cx.module item) ++ "; " ++ toString length ++ "]" = _
      rw [parts item (List.mem_singleton_self item)]
      rfl
    | option item =>
      show "Option<" ++ typeText cx (denoted cx.module item) ++ ">" = _
      rw [parts item (List.mem_singleton_self item)]
      rfl
    | hashSet item =>
      show "::std::collections::HashSet<" ++ typeText cx (denoted cx.module item) ++ ">" = _
      rw [parts item (List.mem_singleton_self item)]
      rfl
    | map key value =>
      show "::std::collections::BTreeMap<" ++ typeText cx (denoted cx.module key) ++ ", " ++
        typeText cx (denoted cx.module value) ++ ">" = _
      rw [parts key List.mem_cons_self, parts value (List.mem_cons_of_mem _ (List.mem_singleton_self value))]
      rfl

theorem parameters_of_child {t u : TypeRef} (child : u ∈ t.children) (free : t.parameters = []) :
    u.parameters = [] := by
  rw [List.eq_nil_iff_forall_not_mem] at free ⊢
  intro g inside
  rw [SchemaType.mem_parameters] at inside
  exact free g (SchemaType.mem_parameters.2 (SchemaType.mem_walk_iff.2 (.inr ⟨u, child, inside⟩)))

/-- A type without parameters is read as a legible type. -/
theorem legible_denoted {m : ModulePath} {declared : SchemaPath → Prop} (t : TypeRef)
    (free : t.parameters = []) (known : ∀ p ∈ t.references, declared p) :
    Legible m declared (denoted m t) := by
  induction t using SchemaType.children_induction with
  | step t ih =>
    have parts : ∀ u ∈ t.children, Legible m declared (denoted m u) := fun u child =>
      ih u child (parameters_of_child child free) fun p referred =>
        known p (SchemaType.mem_references_of_child child referred)
    have listed : ∀ us : List TypeRef, us = t.children →
        ∀ u ∈ denotedAll m us, Legible m declared u := by
      rintro us rfl u member
      rw [denotedAll_eq_map] at member
      obtain ⟨v, child, rfl⟩ := List.mem_map.1 member
      exact parts v child
    cases t with
    | scalar s =>
      have plain : ∀ s : Scalar, s ≠ .bytes → Legible m declared (.scalar s) := fun s unlike =>
        legible_iff.2 ⟨unlike, fun u child => absurd child List.not_mem_nil⟩
      rw [denoted]
      split
      · exact legible_iff.2 ⟨trivial, List.forall_mem_singleton.2 (plain .u8 (by decide))⟩
      · next unlike => exact plain s unlike
    | param g => exact absurd free (by simp [SchemaType.parameters, SchemaType.walk, SchemaType.param?])
    | tuple elements => exact legible_iff.2 ⟨trivial, listed elements rfl⟩
    | list item | array item length | option item | hashSet item =>
      exact legible_iff.2 ⟨trivial, List.forall_mem_singleton.2 (parts item (List.mem_singleton_self item))⟩
    | map key value =>
      exact legible_iff.2 ⟨trivial, listed [key, value] rfl⟩
    | named p arguments =>
      have among := known p (SchemaType.mem_references.2 ⟨_, List.mem_cons_self⟩)
      rw [denoted]
      cases found : builtIn? m p (denotedAll m arguments) with
      | none => exact legible_iff.2 ⟨⟨among, found⟩, listed arguments rfl⟩
      | some t =>
        obtain ⟨-, children, form⟩ := builtIn?_cases found
        refine legible_iff.2 ⟨?_, children ▸ listed arguments rfl⟩
        rcases form with ⟨-, rfl⟩ | ⟨item, -, rfl⟩ | ⟨item, -, rfl⟩
        · exact (by decide : Scalar.string ≠ .bytes)
        · trivial
        · trivial

/-! ## Runs -/

/-- The declared type is emitted, and written in the module `m` with the `UpperCamel` spelling of its name. -/
def Known (document : Document) (config : Config) (m : ModulePath) (p : SchemaPath) : Prop :=
  Emitted Rust.target config document p ∧
    RenderContext.identifierOf ⟨config, runNames Rust.target config document.resolve, m⟩ p =
      Text.upperCamel p.name

theorem target_moduleName : target.conventions.moduleName = moduleName := by
  dsimp only [target, conventions]

theorem places_of_plan (document : Document) (config : Config) (m : ModulePath) :
    Places ⟨config, runNames Rust.target config document.resolve, m⟩ (Known document config m) where
  modules := by
    rintro p ⟨emitted, -⟩
    exact emitted.module_identifiers
  names := by
    rintro p ⟨emitted, spelled⟩
    exact ⟨emitted.isIdentifier_name, spelled⟩
  apart := by
    rintro p ⟨emitted, -⟩
    rw [← target_moduleName]
    exact emitted.module_ne_tuples
  distinct := by
    rintro p q ⟨emitted, -⟩ ⟨emitted', -⟩ modules names
    rw [← target_moduleName] at modules
    exact emitted.eq_of_place emitted' modules names

section

variable {document : Document} {config : Config} {c : Candidate}

/-- The types of a declaration without generics are read as legible types. -/
theorem legible_of_plan
    (closed : ReferToIdentifiers
      (plan Rust.target config (runNames Rust.target config document.resolve) document.resolve))
    (member : c ∈ plan Rust.target config (runNames Rust.target config document.resolve) document.resolve)
    (ready : c.isReady = true) (free : c.item.declaration.generics = []) {ty t : TypeRef}
    (type : ty ∈ c.item.declaration.types) (inside : t ∈ ty.walk) (m : ModulePath) :
    (∀ p ∈ t.references, RenderContext.identifierOf
      ⟨config, runNames Rust.target config document.resolve, m⟩ p = Text.upperCamel p.name) ∧
      Legible m (Known document config m) (denoted m t) := by
  have mentioned : ∀ p ∈ t.references, p ∈ c.references := by
    intro p referred
    obtain ⟨arguments, within⟩ := SchemaType.mem_references.1 referred
    refine Declaration.mem_references.2 ⟨ty, type, ?_⟩
    exact SchemaType.mem_references.2 ⟨arguments, SchemaType.mem_walk_trans within inside⟩
  have spelled : ∀ p ∈ t.references, RenderContext.identifierOf
      ⟨config, runNames Rust.target config document.resolve, m⟩ p = Text.upperCamel p.name :=
    fun p referred => identifierOf_eq rfl member (mentioned p referred) m
  refine ⟨spelled, legible_denoted t ?_ fun p referred => ?_⟩
  · rw [List.eq_nil_iff_forall_not_mem]
    intro g occurs
    have walked := SchemaType.mem_walk_trans (SchemaType.mem_parameters.1 occurs) inside
    have listed := (mem_generics_of_param (item_of_mem_plan member) type walked).1
    rw [free] at listed
    exact absurd listed List.not_mem_nil
  · exact ⟨exists_referent closed member ready (mentioned p referred), spelled p referred⟩

end

/-- Two types of declarations without generics in the same module are written alike exactly if they are read as the same
type: apart from `bytes`, which is written like a list of `u8`, and from declared types of the module with the name of
a built-in type, the text of a type tells the type. -/
theorem typeText_eq_iff {document : Document} {config : Config}
    (closed : ReferToIdentifiers
      (plan Rust.target config (runNames Rust.target config document.resolve) document.resolve))
    {c d : Candidate}
    (member : c ∈ plan Rust.target config (runNames Rust.target config document.resolve) document.resolve)
    (ready : c.isReady = true)
    (member' : d ∈ plan Rust.target config (runNames Rust.target config document.resolve) document.resolve)
    (ready' : d.isReady = true) (sameModule : d.item.module = c.item.module)
    (free : c.item.declaration.generics = []) (free' : d.item.declaration.generics = [])
    {ty t ty' u : TypeRef} (type : ty ∈ c.item.declaration.types) (inside : t ∈ ty.walk)
    (type' : ty' ∈ d.item.declaration.types) (inside' : u ∈ ty'.walk) :
    let names := runNames Rust.target config document.resolve
    typeText ⟨config, names, c.item.module⟩ t = typeText ⟨config, names, d.item.module⟩ u ↔
      denoted c.item.module t = denoted d.item.module u := by
  intro names
  rw [sameModule]
  obtain ⟨spelled, legible⟩ := legible_of_plan closed member ready free type inside c.item.module
  obtain ⟨spelled', legible'⟩ := legible_of_plan closed member' ready' free' type' inside' c.item.module
  rw [← typeText_denoted t spelled, ← typeText_denoted u spelled']
  constructor
  · intro same
    have places := places_of_plan document config c.item.module
    have chars := congrArg (fun text : String => text.toList ++ []) same
    exact (reads places _ legible _ _ _ legible' (Text.ends_nil _) (Text.ends_nil _) chars).1
  · intro same
    rw [same]

/-- A struct with a text and a value of a type called `String`, which the other declarations hold. -/
def labelDocument (name : String) (others : List DeclarationExpr) : Document :=
  ⟨.struct ⟨"Label", [], [⟨"text", .scalar .string, none⟩, ⟨"kind", .named name [], none⟩], none⟩ :: others⟩

def labelItem (p : SchemaPath) : SchemaItem :=
  ⟨[], .struct ⟨"Label", [], [⟨"text", .scalar .string, none⟩, ⟨"kind", .named p [], none⟩], none⟩⟩

/-- The type stands in a module inside. -/
def innerString : Document :=
  labelDocument "m::String" [.module "m" none [.struct ⟨"String", [], [], none⟩]]

/-- The type stands next to the struct. -/
def ownString : Document :=
  labelDocument "String" [.struct ⟨"String", [], [], none⟩]

theorem innerString_typeText_differs :
    let names := runNames Rust.target {} innerString.resolve
    typeText ⟨{}, names, []⟩ (.scalar .string) ≠ typeText ⟨{}, names, []⟩ (.named ⟨["m", "String"]⟩ []) := by
  intro names
  have item : labelItem ⟨["m", "String"]⟩ ∈ innerString.resolve.items :=
    List.mem_of_getElem? (i := 0) (by with_unfolding_all rfl)
  obtain ⟨c, member, same⟩ : ∃ c ∈ plan Rust.target {} names innerString.resolve,
      c.item = labelItem ⟨["m", "String"]⟩ := exists_candidate item
  have ready : ∀ c ∈ plan Rust.target {} names innerString.resolve, c.isReady = true := by decide +kernel
  have closed : ReferToIdentifiers (plan Rust.target {} names innerString.resolve) := by
    unfold ReferToIdentifiers
    decide +kernel
  have free : c.item.declaration.generics = [] := by
    rw [same]
    rfl
  have text : (.scalar .string : TypeRef) ∈ c.item.declaration.types := by
    rw [same]
    exact List.mem_cons_self
  have kind : (.named ⟨["m", "String"]⟩ [] : TypeRef) ∈ c.item.declaration.types := by
    rw [same]
    exact List.mem_cons_of_mem _ (List.mem_singleton_self _)
  have agree := typeText_eq_iff closed member (ready c member) member (ready c member) rfl free free text
    List.mem_cons_self kind List.mem_cons_self
  rw [same] at agree
  have text : denoted [] (.scalar .string) = .scalar .string := rfl
  have kind : denoted [] (.named ⟨["m", "String"]⟩ []) = .named ⟨["m", "String"]⟩ [] := rfl
  intro equal
  exact absurd (text.symm.trans ((agree.1 equal).trans kind)) (by simp)

/-- The type is called like the type of texts and stands in the module of the struct: both are emitted, and the two
fields of the struct are written with the same type. -/
theorem ownString_typeText_same :
    let names := runNames Rust.target {} ownString.resolve
    ∃ c ∈ plan Rust.target {} names ownString.resolve, c.isReady = true ∧
      c.item.declaration.generics = [] ∧ .scalar .string ∈ c.item.declaration.types ∧
      .named ⟨["String"]⟩ [] ∈ c.item.declaration.types ∧
      typeText ⟨{}, names, c.item.module⟩ (.scalar .string) =
        typeText ⟨{}, names, c.item.module⟩ (.named ⟨["String"]⟩ []) := by
  intro names
  have item : labelItem ⟨["String"]⟩ ∈ ownString.resolve.items :=
    List.mem_of_getElem? (i := 0) (by with_unfolding_all rfl)
  obtain ⟨c, member, same⟩ : ∃ c ∈ plan Rust.target {} names ownString.resolve,
      c.item = labelItem ⟨["String"]⟩ := exists_candidate item
  have ready : ∀ c ∈ plan Rust.target {} names ownString.resolve, c.isReady = true := by decide +kernel
  refine ⟨c, member, ready c member, ?_⟩
  rw [same]
  refine ⟨rfl, List.mem_cons_self, List.mem_cons_of_mem _ (List.mem_singleton_self _), ?_⟩
  decide +kernel

end SchemaBindings.Rust
