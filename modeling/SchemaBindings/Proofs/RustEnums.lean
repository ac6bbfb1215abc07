import SchemaBindings.Proofs.RustRecords
import SchemaBindings.Proofs.UnionTexts

/-!
# Enums in Rust source

A reader of unions. It reads the enum with what it binds and its cases up to its end, and then the conversions up to the
end of the source. A conversion must bind what the enum binds, take the type from which it converts, and return the case
of the enum that is made from its value.

The source of a union is read as its type and its alternatives (`readUnion_enumLayout`).
-/

namespace SchemaBindings.Rust

open SourceReader

/-! ## Reading -/

/-- A case of an enum and the type that it wraps. -/
def readCase : SourceReader (String × TypeUse) := do
  exactly "    "
  let name ← word isIdentifierChar
  exactly "("
  let payload ← TargetName.rust.readTypeUse
  exactly "),\n"
  return (name, payload)

def readCases : SourceReader (List (String × TypeUse)) :=
  (do
    exactly " \x7b\x7d\n"
    return []) <|> (do
    exactly " \x7b\n"
    let cases ← many readCase
    exactly "\x7d\n"
    return cases)

/-- The conversion of a type into the enum, and the case in which it wraps the value. -/
def readConversion (enum : TypeUse) : SourceReader (TypeUse × String) := do
  exactly "\nimpl"
  let binders ← TargetName.rust.readBinders
  exactly " From<"
  let payload ← TargetName.rust.readTypeUse
  exactly "> for "
  let result ← TargetName.rust.readTypeUse
  guard (binders = enum.arguments ∧ result = enum)
  exactly " \x7b\n    fn from(value: "
  exactly (TargetName.rust.useText payload)
  exactly ") -> Self \x7b\n        Self::"
  let name ← word isIdentifierChar
  exactly "(value)\n    \x7d\n\x7d\n"
  return (payload, name)

/-- A union: its enum and the conversions into it. -/
def readUnion : SourceReader UnionText := do
  readHead
  exactly "pub enum "
  let enum ← TargetName.rust.readBoundType
  let cases ← readCases
  let conversions ← many (readConversion enum)
  return ⟨enum, [], cases, enum.arguments, conversions⟩

/-! ## Cases -/

def enumCase (a : String × TypeUse) : EnumCase :=
  ⟨a.1, TargetName.rust.useText a.2⟩

def caseText (c : EnumCase) : String :=
  c.name ++ "(" ++ c.payload ++ "),"

section

variable {alternatives : List (String × TypeUse)} {rest : List Char}

theorem caseText_ne_empty (c : EnumCase) : caseText c ≠ "" :=
  append_ne_empty (by decide) _

theorem readCase_render {a : String × TypeUse} (named : NamedAlternative a) (rest : List Char) :
    readCase.run (((Layout.line (caseText (enumCase a))).render indentation 1).toList ++ rest) = some (a, rest) := by
  have text : ((Layout.line (caseText (enumCase a))).render indentation 1).toList ++ rest =
      "    ".toList ++ (a.1.toList ++ ("(".toList ++
        ((TargetName.rust.useText a.2).toList ++ ("),\n".toList ++ rest)))) := by
    rw [Layout.render_line (caseText_ne_empty _)]
    simp [caseText, enumCase, indentation]
  rw [text, readCase, run_bind_of (exactly_append _ _), run_bind_of (named.name.read (by decide) _),
    run_bind_of (exactly_append _ _),
    run_bind_of (TargetName.rust.readTypeUse_useText named.type (ends_toList (by decide) _) rfl),
    run_bind_of (exactly_append _ _)]
  rfl

/-- Behind its head an enum has the cases for the alternatives. -/
theorem readCases_render (named : ∀ a ∈ alternatives, NamedAlternative a) (head : String) (rest : List Char) :
    let cases := alternatives.map enumCase
    let enum : Layout := if cases.isEmpty then .line (head ++ " \x7b\x7d")
      else .braced head (cases.map fun c => .line (caseText c))
    ∃ source, (enum.render indentation 0).toList ++ rest = head.toList ++ ' ' :: source ∧
      readCases.run (' ' :: source) = some (alternatives, rest) := by
  intro cases enum
  cases empty : alternatives.isEmpty with
  | true =>
    refine ⟨"\x7b\x7d\n".toList ++ rest, ?_, ?_⟩
    · have single : enum = .line (head ++ " \x7b\x7d") := if_pos (by rw [List.isEmpty_map, empty])
      rw [single, Layout.render_line_zero]
      simp
    · rw [List.isEmpty_iff.1 empty]
      exact run_orElse_of (run_bind_of (exactly_append " \x7b\x7d\n" _))
  | false =>
    have filled : ∀ a ∈ alternatives, ((Layout.line (caseText (enumCase a))).render indentation 1).toList ≠ [] := by
      intro a _
      rw [Layout.render_line (caseText_ne_empty _)]
      simp
    have pieces := run_many id filled (fun a among => readCase_render (named a among))
      (run_bind_refused _ (exactly_refused rfl) : readCase.run ("\x7d\n".toList ++ rest) = none)
    refine ⟨"\x7b\n".toList ++ ((alternatives.flatMap fun a =>
      ((Layout.line (caseText (enumCase a))).render indentation 1).toList) ++ ("\x7d\n".toList ++ rest)), ?_, ?_⟩
    · have braced : enum = .braced head (cases.map fun c => .line (caseText c)) :=
        if_neg (by rw [List.isEmpty_map, empty]; decide)
      rw [braced, Layout.render_braced_zero, Layout.renderAll_map, List.flatMap_map]
      simp only [List.append_assoc]
      rfl
    · refine (run_orElse_refused (run_bind_refused _ (exactly_refused rfl))).trans ?_
      refine (run_bind_of (exactly_append " \x7b\n" _)).trans ?_
      rw [run_bind_of pieces, run_bind_of (exactly_append _ _), List.map_id]
      rfl

/-! ## Conversions -/

theorem readConversion_render {enum : TypeUse} (bound : enum.Named) {a : String × TypeUse} (named : NamedAlternative a)
    (rest : List Char) :
    (readConversion enum).run
      ((Layout.renderAll indentation 0
        (conversionLayout enum.name (genericList enum.arguments) (enumCase a))).toList ++ rest) =
          some (a.swap, rest) := by
  let binders := TargetName.rust.binderText enum.arguments
  let payload := TargetName.rust.useText a.2
  let body := " \x7b\n    fn from(value: ".toList ++ (payload.toList ++ (") -> Self \x7b\n        Self::".toList ++
    (a.1.toList ++ ("(value)\n    \x7d\n\x7d\n".toList ++ rest))))
  let result := "> for ".toList ++ ((TargetName.rust.useText enum).toList ++ body)
  let source := " From<".toList ++ (payload.toList ++ result)
  have filled : "Self::" ++ a.1 ++ "(value)" ≠ "" := append_ne_empty (by decide) _
  have use : enum.name ++ binders = TargetName.rust.useText enum :=
    congrArg (enum.name ++ ·) (genericList_eq enum.arguments).symm
  have text : (Layout.renderAll indentation 0
      (conversionLayout enum.name (genericList enum.arguments) (enumCase a))).toList ++ rest =
        "\nimpl".toList ++ (binders.toList ++ source) := by
    rw [genericList_eq]
    simp only [conversionLayout, enumCase, Layout.renderAll, String.toList_append, Layout.render_braced,
      Layout.render_line filled]
    simp [source, result, body, binders, payload, ← use, indentation, Layout.render]
  have unopened : "<".toList.isPrefixOf source = false := rfl
  have ends : Text.Ends isIdentifierChar result := Text.ends_cons (by decide) _
  have ends' : Text.Ends isIdentifierChar body := Text.ends_cons (by decide) _
  rw [text, readConversion, run_bind_of (exactly_append _ _),
    run_bind_of (TargetName.rust.readBinders_binderText bound.arguments unopened), run_bind_of (exactly_append _ _),
    run_bind_of (TargetName.rust.readTypeUse_useText named.type ends rfl), run_bind_of (exactly_append _ _),
    run_bind_of (TargetName.rust.readTypeUse_useText bound ends' rfl), run_bind_of (run_guard ⟨rfl, rfl⟩),
    run_bind_of (exactly_append _ _), run_bind_of (exactly_append _ _), run_bind_of (exactly_append _ _),
    run_bind_of (named.name.read (by decide) _), run_bind_of (exactly_append _ _)]
  rfl

end

/-! ## Unions -/

theorem enumCases_eq (u : Union TypeRef) (names : List String) :
    enumCases u names = (TargetName.rust.alternatives u names).map enumCase := by
  rw [TargetName.alternatives, List.map_map]
  rfl

/-- The source of a union is read as its type and its alternatives. -/
theorem readUnion_enumLayout {u : Union TypeRef} {names : DeclarationNames}
    (bound : TypeUse.Named ⟨names.identifier, u.generics⟩)
    (each : ∀ a ∈ TargetName.rust.alternatives u names.variants, NamedAlternative a) :
    readUnion.run (Layout.text indentation (enumLayout u names)).toList =
      some (TargetName.rust.unionText ⟨names.identifier, u.generics⟩ (TargetName.rust.alternatives u names.variants),
        []) := by
  let alternatives := TargetName.rust.alternatives u names.variants
  let binders := TargetName.rust.binderText u.generics
  let conversion := fun a => (Layout.renderAll indentation 0
    (conversionLayout names.identifier (genericList u.generics) (enumCase a))).toList
  obtain ⟨cases, enumText, reads⟩ := readCases_render each ("pub enum " ++ names.identifier ++ binders)
    (alternatives.flatMap conversion ++ [])
  let head := "pub enum ".toList ++ (names.identifier.toList ++ (binders.toList ++ ' ' :: cases))
  have text : (Layout.text indentation (enumLayout u names)).toList =
      ((Layout.comment "///" u.comment).render indentation 0).toList ++
        ((Layout.renderAll indentation 0 (attributes names.identifier)).toList ++ head) := by
    have together : ("pub enum " ++ names.identifier ++ binders).toList ++ ' ' :: cases = head := by
      simp [head]
    rw [← together, ← enumText, Layout.text]
    unfold enumLayout
    rw [enumCases_eq]
    dsimp only
    rw [Layout.renderAll_append, Layout.renderAll_append, Layout.renderAll_append, Layout.renderAll, Layout.renderAll,
      Layout.renderAll, Layout.renderAll, List.flatMap_map, String.toList_append, Layout.renderAll_flatMap]
    simp only [String.toList_append, List.append_assoc, String.toList_empty, List.append_nil, binders, ← genericList_eq]
    rfl
  have plain : "#".toList.isPrefixOf head = false := rfl
  have ends : Text.Ends isIdentifierChar (' ' :: cases) := Text.ends_cons (by decide) _
  have filled : ∀ a ∈ alternatives, conversion a ≠ [] := by
    intro a _
    simp [conversion, conversionLayout, Layout.renderAll, Layout.render, Layout.braced]
  have refused : (readConversion ⟨names.identifier, u.generics⟩).run [] = none :=
    run_bind_refused _ (exactly_refused rfl)
  have conversions := run_many Prod.swap filled (fun a among => readConversion_render bound (each a among)) refused
  rw [text, readUnion, run_bind_of (readHead_render u.comment names.identifier plain),
    run_bind_of (exactly_append _ _), run_bind_of (TargetName.rust.readBoundType_append bound ends rfl),
    run_bind_of reads, run_bind_of conversions]
  show some (UnionText.mk _ _ _ _ _, _) = some (UnionText.mk _ _ _ (u.generics ++ []) _, _)
  rw [List.append_nil]
  rfl

end SchemaBindings.Rust
