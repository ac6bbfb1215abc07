import SchemaBindings.Proofs.Sites

/-!
# Replaced declarations

Resolution treats the declarations of a document independently: whoever replaces one that is no module by another one
of the same name and the same number of generics changes nothing but the entry of that declaration.

* A document without one of its declarations is a `Gap`, and `Gap.fill` puts declarations into it.
* The symbols of a document depend on names and on numbers of generics only (`Gap.symbols_fill`).
* Whatever stands in a gap, resolution makes the same of everything around it. The gap is in the result again, and
  the failures in front of its own and behind it are the same, unless it lies inside a module that is left out and
  nothing in it is looked at (`Gap.resolveAll_fill`).
-/

namespace SchemaBindings

open Declaration

/-! ## Gaps -/

/-- Declarations with a gap for further ones, in the list itself or inside one of its modules. -/
inductive Gap (τ κ : Type) where
  | here (before after : List (Declaration τ κ))
  | inside (before : List (Declaration τ κ)) (name : String) (comment : Option String) (inner : Gap τ κ)
      (after : List (Declaration τ κ))

namespace Gap

variable {τ κ : Type}

/-- The declarations with `own` in the gap. -/
def fill (own : List (Declaration τ κ)) : Gap τ κ → List (Declaration τ κ)
  | here before after => before ++ own ++ after
  | inside before name comment inner after => before ++ module name comment (inner.fill own) :: after

def module : Gap τ κ → ModulePath
  | here _ _ => []
  | inside _ name _ inner _ => name :: inner.module

end Gap

/-! ## Symbols -/

theorem symbolsIn_eq (m : ModulePath) {d : DeclarationExpr} (isItem : d.isModule = false) :
    symbolsIn m d = (d.genericCount?.map (⟨(SchemaPath.mk m).child d.name, ·⟩)).toList := by
  cases d with
  | module _ _ _ => exact absurd isItem (by simp [isModule])
  | _ => rfl

/-- Declarations of one name are the same for the symbols of a list if they declare the same symbols themselves. -/
theorem symbols_congr {m : ModulePath} {d e : DeclarationExpr} (name : d.name = e.name)
    (same : symbolsIn m d = symbolsIn m e) (seen : List String) (before after : List DeclarationExpr) :
    symbols m seen (before ++ d :: after) = symbols m seen (before ++ e :: after) := by
  induction before generalizing seen with
  | nil => rw [List.nil_append, List.nil_append, symbols, symbols, name, same]
  | cons first before ih => rw [List.cons_append, List.cons_append, symbols, symbols, ih, ih]

theorem Gap.symbols_fill (gap : Gap TypeExpr ConstantExpr) {d e : DeclarationExpr} (isItem : d.isModule = false)
    (isItem' : e.isModule = false) (name : d.name = e.name) (count : d.genericCount? = e.genericCount?)
    (m : ModulePath) (seen : List String) : symbols m seen (gap.fill [d]) = symbols m seen (gap.fill [e]) := by
  induction gap generalizing m seen with
  | here before after =>
    have same : symbolsIn m d = symbolsIn m e := by
      rw [symbolsIn_eq m isItem, symbolsIn_eq m isItem', name, count]
    rw [fill, fill, List.append_assoc, List.append_assoc]
    exact symbols_congr name same seen before after
  | inside before name comment inner after ih =>
    have same : symbolsIn m (.module name comment (inner.fill [d])) =
        symbolsIn m (.module name comment (inner.fill [e])) := by
      rw [symbolsIn, symbolsIn, ih]
    rw [fill, fill]
    exact symbols_congr (by rfl) same seen before after

/-! ## Resolution -/

/-- The entry of a declaration among others: what it resolves to by itself, or the failure of a repeated name. -/
def ownEntry (table : List Symbol) (m : ModulePath) (repeated : Bool) (d : DeclarationExpr) : Resolved :=
  if repeated then ⟨[], [⟨(SchemaPath.mk m).child d.name, .duplicateDeclaration d.name⟩]⟩ else resolveIn table m d

theorem Resolved.append_assoc (r s t : Resolved) : (r.append s).append t = r.append (s.append t) := by
  simp only [append, List.append_assoc]

/-- What is made of declarations around one depends on that one through its name only. -/
theorem resolveAll_around (table : List Symbol) (m : ModulePath) (seen : List String)
    (before after : List DeclarationExpr) (name : String) :
    ∃ (first rest : Resolved) (repeated : Bool), ∀ d : DeclarationExpr, d.name = name →
      resolveAll table m seen (before ++ d :: after) =
        first.append ((ownEntry table m repeated d).append rest) := by
  induction before generalizing seen with
  | nil =>
    refine ⟨{}, resolveAll table m (if name ∈ seen then seen else name :: seen) after, name ∈ seen, ?_⟩
    rintro d rfl
    rw [List.nil_append, resolveAll, ownEntry]
    by_cases repeated : d.name ∈ seen
    · rw [if_pos repeated, if_pos (decide_eq_true repeated), if_pos repeated]
      rfl
    · rw [if_neg repeated, if_neg (by simpa using repeated), if_neg repeated]
      rfl
  | cons e before ih =>
    by_cases repeated : e.name ∈ seen
    · obtain ⟨first, rest, again, around⟩ := ih seen
      refine ⟨(ownEntry table m true e).append first, rest, again, fun d named => ?_⟩
      rw [List.cons_append, resolveAll, if_pos repeated, around d named, Resolved.append_assoc]
      rfl
    · obtain ⟨first, rest, again, around⟩ := ih (e.name :: seen)
      refine ⟨(resolveIn table m e).append first, rest, again, fun d named => ?_⟩
      rw [List.cons_append, resolveAll, if_neg repeated, around d named, Resolved.append_assoc]

/-- Resolution makes a document with the gap of a document with a gap, or it looks at nothing inside the gap. -/
theorem Gap.resolveAll_fill (gap : Gap TypeExpr ConstantExpr) (table : List Symbol) (name : String)
    (m : ModulePath) (seen : List String) :
    (∃ r : Resolved, ∀ d : DeclarationExpr, d.name = name → resolveAll table m seen (gap.fill [d]) = r) ∨
      ∃ (gap' : Gap TypeRef ConstantValue) (before after : List DeclarationFailure) (repeated : Bool),
        gap'.module = gap.module ∧ ∀ d : DeclarationExpr, d.name = name →
          resolveAll table m seen (gap.fill [d]) =
            ⟨gap'.fill (ownEntry table (m ++ gap.module) repeated d).declarations,
              before ++ (ownEntry table (m ++ gap.module) repeated d).failures ++ after⟩ := by
  induction gap generalizing m seen with
  | here before after =>
    obtain ⟨first, rest, repeated, around⟩ := resolveAll_around table m seen before after name
    refine .inr ⟨.here first.declarations rest.declarations, first.failures, rest.failures, repeated, rfl, ?_⟩
    intro d named
    rw [fill, List.append_assoc, List.singleton_append, around d named]
    simp only [module, List.append_nil, fill, Resolved.append, List.append_assoc]
  | inside before inner comment gap after ih =>
    obtain ⟨first, rest, repeated, around⟩ := resolveAll_around table m seen before after inner
    have around (d : DeclarationExpr) : resolveAll table m seen (fill [d] (.inside before inner comment gap after)) =
        first.append ((ownEntry table m repeated (.module inner comment (gap.fill [d]))).append rest) :=
      around _ rfl
    cases repeated with
    | true =>
      have left (ds : List DeclarationExpr) : ownEntry table m true (.module inner comment ds) =
          ⟨[], [⟨(SchemaPath.mk m).child inner, .duplicateDeclaration inner⟩]⟩ := rfl
      exact .inl ⟨_, fun d _ => (around d).trans (by rw [left])⟩
    | false =>
      cases checked : checkIdentifier inner with
      | error fault =>
        have left (ds : List DeclarationExpr) : ownEntry table m false (.module inner comment ds) =
            ⟨[], [⟨(SchemaPath.mk m).child inner, fault⟩]⟩ := by
          rw [ownEntry, if_neg Bool.false_ne_true, resolveIn, checked]
        exact .inl ⟨_, fun d _ => (around d).trans (by rw [left])⟩
      | ok _ =>
        have entered (ds : List DeclarationExpr) : ownEntry table m false (.module inner comment ds) =
            ⟨[.module inner comment (resolveAll table (m ++ [inner]) [] ds).declarations],
              (resolveAll table (m ++ [inner]) [] ds).failures⟩ := by
          rw [ownEntry, if_neg Bool.false_ne_true, resolveIn, checked]
        rcases ih (m ++ [inner]) [] with ⟨r, constant⟩ | ⟨gap', lead, trail, repeated, place, made⟩
        · exact .inl ⟨_, fun d named => (around d).trans (by rw [entered, constant d named])⟩
        · refine .inr ⟨.inside first.declarations inner comment gap' rest.declarations, first.failures ++ lead,
            trail ++ rest.failures, repeated, congrArg (inner :: ·) place, fun d named => ?_⟩
          have path : m ++ module (.inside before inner comment gap after) = m ++ [inner] ++ gap.module := by
            simp [module]
          rw [around, entered, made d named, path]
          simp only [fill, Resolved.append, List.append_assoc, List.cons_append, List.nil_append]

/-! ## The result -/

/-- The entry of a declaration that is no module: one declaration that it resolves to, or one failure at its path. -/
inductive Document.OwnEntry (document : Document) (m : ModulePath) (d : DeclarationExpr) : Resolved → Prop
  | kept {d' : SchemaDeclaration} : document.ResolvesTo m d d' → document.OwnEntry m d ⟨[d'], []⟩
  | failed {fault : Fault} : document.OwnEntry m d ⟨[], [⟨(SchemaPath.mk m).child d.name, fault⟩]⟩

theorem Document.ownEntry (document : Document) (m : ModulePath) (repeated : Bool) {d : DeclarationExpr}
    (isItem : d.isModule = false) : document.OwnEntry m d (ownEntry document.symbols m repeated d) := by
  cases repeated with
  | true => exact .failed
  | false =>
    rw [SchemaBindings.ownEntry, if_neg Bool.false_ne_true]
    rcases resolveIn_cases document.symbols m isItem with ⟨d', -, made⟩ | ⟨fault, made⟩
    · have kept : d' ∈ (resolveIn document.symbols m d).declarations := by
        rw [made]
        exact List.mem_singleton_self _
      rw [made]
      exact .kept ((mem_resolveIn_iff document).1 kept).2
    · rw [made]
      exact .failed

/-- Two documents that differ in one declaration that is no module, of the same name and with the same number of
generics, are resolved in the same way, but for the entry of that declaration: it is the declaration that it
resolves to, or one failure at its path. All other declarations stay as they are, at their places, and all other failures
in their order. -/
theorem resolve_eq_of_replaced (gap : Gap TypeExpr ConstantExpr) {d e : DeclarationExpr} (isItem : d.isModule = false)
    (isItem' : e.isModule = false) (name : d.name = e.name) (count : d.genericCount? = e.genericCount?) :
    Document.resolve ⟨gap.fill [d]⟩ = Document.resolve ⟨gap.fill [e]⟩ ∨
      ∃ (gap' : Gap TypeRef ConstantValue) (before after : List DeclarationFailure) (own own' : Resolved),
        gap'.module = gap.module ∧
          Document.OwnEntry ⟨gap.fill [d]⟩ gap.module d own ∧ Document.OwnEntry ⟨gap.fill [e]⟩ gap.module e own' ∧
          Document.resolve ⟨gap.fill [d]⟩ = ⟨gap'.fill own.declarations, before ++ own.failures ++ after⟩ ∧
          Document.resolve ⟨gap.fill [e]⟩ = ⟨gap'.fill own'.declarations, before ++ own'.failures ++ after⟩ := by
  have symbols : Document.symbols ⟨gap.fill [d]⟩ = Document.symbols ⟨gap.fill [e]⟩ :=
    gap.symbols_fill isItem isItem' name count [] []
  unfold Document.resolve
  rw [← symbols]
  rcases gap.resolveAll_fill (Document.symbols ⟨gap.fill [d]⟩) d.name [] [] with
    ⟨r, constant⟩ | ⟨gap', before, after, repeated, place, made⟩
  · exact .inl ((constant d rfl).trans (constant e name.symm).symm)
  · refine .inr ⟨gap', before, after, _, _, place, Document.ownEntry _ _ repeated isItem, ?_, made d rfl,
      made e name.symm⟩
    rw [symbols]
    exact Document.ownEntry _ _ repeated isItem'

/-- A gap in a module in front of an alias of a type that nobody declares; a struct outside refers to what fills
the gap. -/
def partGap : Gap TypeExpr ConstantExpr :=
  .inside [.struct ⟨"Whole", [], [⟨"part", .named "m::Part" [], none⟩], none⟩] "m" none
    (.here [] [.typeAlias ⟨"Other", .named "Missing" [], none⟩]) []

/-- A struct takes the place of a union, and one of its fields has a type that nobody declares. -/
theorem part_resolve_eq :
    let union : DeclarationExpr := .union ⟨"Part", [], [⟨"V", [], none⟩], none⟩
    let struct : DeclarationExpr := .struct ⟨"Part", [], [⟨"x", .named "Unknown" [], none⟩], none⟩
    ∃ (gap' : Gap TypeRef ConstantValue) (before after : List DeclarationFailure) (own own' : Resolved),
      gap'.module = ["m"] ∧
        Document.resolve ⟨partGap.fill [union]⟩ = ⟨gap'.fill own.declarations, before ++ own.failures ++ after⟩ ∧
        Document.resolve ⟨partGap.fill [struct]⟩ = ⟨gap'.fill own'.declarations, before ++ own'.failures ++ after⟩ ∧
        before ++ own.failures ++ after = [⟨⟨["m", "Other"]⟩, .unknownType "Missing"⟩] ∧
        before ++ own'.failures ++ after =
          [⟨⟨["m", "Part"]⟩, .unknownType "Unknown"⟩, ⟨⟨["m", "Other"]⟩, .unknownType "Missing"⟩] := by
  intro union struct
  have failures : (Document.resolve ⟨partGap.fill [union]⟩).failures =
      [⟨⟨["m", "Other"]⟩, .unknownType "Missing"⟩] := by decide +kernel
  have failures' : (Document.resolve ⟨partGap.fill [struct]⟩).failures =
      [⟨⟨["m", "Part"]⟩, .unknownType "Unknown"⟩, ⟨⟨["m", "Other"]⟩, .unknownType "Missing"⟩] := by decide +kernel
  have replaced := resolve_eq_of_replaced partGap (d := union) (e := struct) rfl rfl rfl rfl
  rcases replaced with same | ⟨gap', before, after, own, own', place, -, -, made, made'⟩
  · rw [same, failures'] at failures
    exact absurd failures (by decide)
  · rw [made] at failures
    rw [made'] at failures'
    exact ⟨gap', before, after, own, own', place, made, made', failures, failures'⟩

end SchemaBindings
