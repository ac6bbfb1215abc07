import SchemaBindings.Proofs.GoRecords

/-!
# Records in Rust source

A reader of records, which is told as much as that for Go: the texts of the types of the fields. A literal of a struct is
made of the names of its members alone, and each is initialized from the parameter with its name.

The source of a record is read as its type and what its fields are called (`readRecord_recordLayout`), whatever stands in
the texts of the types of these.
-/

namespace SchemaBindings.Rust

open SourceReader

/-! ## Reading -/

/-- The line of a member with a type of this text, and the remarks in front of it. -/
def readMember (type : String) : SourceReader String := do
  remarks "    ///"
  exactly "    pub "
  let name ← word isSegmentChar
  exactly (": " ++ type ++ ",\n")
  return name

/-- The members of a struct with types of these texts. -/
def readMembers (types : List String) : SourceReader (List String) := do
  if types.isEmpty then
    exactly " \x7b\x7d\n"
    return []
  else
    exactly " \x7b\n"
    let members ← types.mapM readMember
    exactly "\x7d\n"
    return members

/-- A parameter with a type of this text. -/
def readParameter (type : String) : SourceReader String := do
  let name ← word isSegmentChar
  exactly (": " ++ type)
  return name

/-- The names in a literal with one for each of the types. -/
def readLiteral (types : List String) : SourceReader (List String) := do
  if types.isEmpty then
    exactly "\x7b\x7d\n"
    return []
  else
    exactly "\x7b "
    let names ← separated ", " (fun _ => word isSegmentChar) types
    exactly " \x7d\n"
    return names

/-- The comment and the attributes in front of a declaration. -/
def readHead : SourceReader Unit := do
  remarks "///"
  remarks "#"

/-- A record: a struct and the function that makes a value of it. -/
def readRecord (types : List String) : SourceReader RecordText := do
  readHead
  exactly "pub struct "
  let type ← TargetName.rust.readBoundType
  let members ← readMembers types
  exactly "\nimpl"
  let binders ← TargetName.rust.readBinders
  exactly " "
  let result ← TargetName.rust.readTypeUse
  exactly " \x7b\n    #[must_use]\n    pub fn new("
  let parameters ← separated ", " readParameter types
  exactly ") -> Self \x7b\n        Self "
  let names ← readLiteral types
  exactly "    \x7d\n\x7d\n"
  return ⟨type, members, binders, parameters, result, names.map fun name => (name, name)⟩

/-! ## Fields -/

/-- The text is made of characters of a segment, and not empty. -/
structure IsFieldName (name : String) : Prop where
  inside : ∀ c ∈ name.toList, isSegmentChar c = true
  nonempty : name ≠ ""

/-- A name can be read off a text that goes on with another character. -/
theorem IsFieldName.read {name : String} (named : IsFieldName name) {opening : String}
    (other : (opening.toList.head?.any fun c => !isSegmentChar c) = true) (rest : List Char) :
    (word isSegmentChar).run (name.toList ++ (opening.toList ++ rest)) = some (name, opening.toList ++ rest) :=
  word_append named.inside named.nonempty (ends_toList other rest)

section

variable {fields : List RenderedField}

theorem readMember_render {f : RenderedField} (named : IsFieldName f.name) (rest : List Char) :
    (readMember f.type).run ((Layout.renderAll indentation 1
      [.comment "///" f.comment, .line ("pub " ++ f.name ++ ": " ++ f.type ++ ",")]).toList ++ rest) =
        some (f.name, rest) := by
  have filled : "pub " ++ f.name ++ ": " ++ f.type ++ "," ≠ "" := append_ne_empty (by decide) _
  have line : ((Layout.line ("pub " ++ f.name ++ ": " ++ f.type ++ ",")).render indentation 1).toList ++ rest =
      "    pub ".toList ++ (f.name.toList ++ ((": " ++ f.type ++ ",\n").toList ++ rest)) := by
    rw [Layout.render_line filled]
    simp [indentation]
  have other : ((": " ++ f.type ++ ",\n").toList.head?.any fun c => !isSegmentChar c) = true := by
    rw [String.append_assoc, String.toList_append]
    rfl
  have mark : Layout.indented indentation 1 "///" = "    ///" := by decide
  have plain : "    ///".toList.isPrefixOf
      ("    pub ".toList ++ (f.name.toList ++ ((": " ++ f.type ++ ",\n").toList ++ rest))) = false := rfl
  have comment := remarks_comment (by decide) (by decide) (by decide) mark f.comment plain
  rw [Layout.renderAll, Layout.renderAll, Layout.renderAll, String.append_empty, String.toList_append,
    List.append_assoc, line, readMember, run_bind_of comment, run_bind_of (exactly_append _ _),
    run_bind_of (named.read other _), run_bind_of (exactly_append _ _)]
  rfl

/-- Behind its head a struct has the members of the fields. -/
theorem readMembers_render (named : ∀ f ∈ fields, IsFieldName f.name) (head : String) (rest : List Char) :
    let type : Layout := if fields.isEmpty then .line (head ++ " \x7b\x7d") else .braced head
      (fields.flatMap fun f => [.comment "///" f.comment, .line ("pub " ++ f.name ++ ": " ++ f.type ++ ",")])
    ∃ source, (type.render indentation 0).toList ++ rest = head.toList ++ ' ' :: source ∧
      (readMembers (fields.map (·.type))).run (' ' :: source) = some (fields.map (·.name), rest) := by
  intro type
  cases fields with
  | nil =>
    refine ⟨"\x7b\x7d\n".toList ++ rest, ?_, run_bind_of (exactly_append " \x7b\x7d\n" _)⟩
    show ((Layout.line (head ++ " \x7b\x7d")).render indentation 0).toList ++ rest = _
    rw [Layout.render_line_zero]
    simp
  | cons f fields =>
    have members := run_mapM readMember RenderedField.type RenderedField.name
      (fun f among rest => readMember_render (named f among) rest) ("\x7d\n".toList ++ rest)
    refine ⟨"\x7b\n".toList ++ _, ?_, (run_bind_of (exactly_append " \x7b\n" _)).trans
      ((run_bind_of members).trans (run_bind_of (exactly_append _ _)))⟩
    show ((Layout.braced head _).render indentation 0).toList ++ rest = _
    rw [Layout.render_braced_zero, Layout.renderAll_flatMap]
    simp only [List.append_assoc]
    rfl

theorem readParameters_intercalate (named : ∀ f ∈ fields, IsFieldName f.name) (rest : List Char) :
    (separated ", " readParameter (fields.map (·.type))).run
      ((", ".intercalate (fields.map fun f => f.name ++ ": " ++ f.type)).toList ++ rest) =
        some (fields.map (·.name), rest) := by
  refine run_separated RenderedField.type RenderedField.name (fun _ => True) (fun _ => trivial) trivial
    fun f among tail _ => ?_
  have parts : (f.name ++ ": " ++ f.type).toList ++ tail =
      f.name.toList ++ ((": " ++ f.type).toList ++ tail) := by
    simp
  have other : ((": " ++ f.type).toList.head?.any fun c => !isSegmentChar c) = true := by
    rw [String.toList_append]
    rfl
  rw [parts, readParameter, run_bind_of ((named f among).read other _), run_bind_of (exactly_append _ _)]
  rfl

/-- A literal has the names of the fields. -/
theorem readLiteral_render (named : ∀ f ∈ fields, IsFieldName f.name) (rest : List Char) :
    let construction := if fields.isEmpty then "Self \x7b\x7d"
      else "Self \x7b " ++ ", ".intercalate (fields.map (·.name)) ++ " \x7d"
    ∃ source, ((Layout.line construction).render indentation 2).toList ++ rest = "        Self ".toList ++ source ∧
      (readLiteral (fields.map (·.type))).run source = some (fields.map (·.name), rest) := by
  intro construction
  cases fields with
  | nil =>
    refine ⟨"\x7b\x7d\n".toList ++ rest, ?_, run_bind_of (exactly_append _ _)⟩
    show ((Layout.line "Self \x7b\x7d").render indentation 2).toList ++ rest = _
    rw [Layout.render_line (by decide)]
    simp [indentation]
  | cons f fields =>
    have names : (separated ", " (fun _ => word isSegmentChar) ((f :: fields).map (·.type))).run
        ((", ".intercalate ((f :: fields).map (·.name))).toList ++ (" \x7d\n".toList ++ rest)) =
          some ((f :: fields).map (·.name), " \x7d\n".toList ++ rest) := by
      refine run_separated RenderedField.type RenderedField.name (Text.Ends isSegmentChar)
        (fun tail => Text.ends_cons (by decide) _) (Text.ends_cons (by decide) _) fun f among tail ends => ?_
      exact word_append (named f among).inside (named f among).nonempty ends
    have reads : (readLiteral ((f :: fields).map (·.type))).run ("\x7b ".toList ++
        ((", ".intercalate ((f :: fields).map (·.name))).toList ++ (" \x7d\n".toList ++ rest))) =
          some ((f :: fields).map (·.name), rest) := by
      rw [readLiteral, if_neg (by simp), run_bind_of (exactly_append _ _), run_bind_of names,
        run_bind_of (exactly_append _ _)]
      rfl
    refine ⟨_, ?_, reads⟩
    have filled : "Self \x7b " ++ ", ".intercalate ((f :: fields).map (·.name)) ++ " \x7d" ≠ "" :=
      append_ne_empty (by decide) _
    show ((Layout.line ("Self \x7b " ++ ", ".intercalate ((f :: fields).map (·.name)) ++ " \x7d")).render
      indentation 2).toList ++ rest = _
    rw [Layout.render_line filled]
    simp [indentation]

end

/-- The attributes of a record are remarks of what stands behind them. -/
theorem readAttributes (name : String) {rest : List Char} (other : "#".toList.isPrefixOf rest = false) :
    (remarks "#").run ((Layout.renderAll indentation 0 (attributes name)).toList ++ rest) = some ((), rest) := by
  have lines : ∀ name, ∀ line ∈ Layout.lineTextsAll indentation 0 (attributes name),
      OneLine line ∧ "#".toList <+: line.toList := by
    intro name
    unfold attributes caseAttribute
    split <;> decide
  rw [Layout.renderAll_eq]
  exact remarks_join (by decide) (lines name) other

theorem attributes_head (name : String) :
    ∃ rest, (Layout.renderAll indentation 0 (attributes name)).toList = '#' :: rest := by
  unfold attributes caseAttribute
  split
  · exact ⟨_, rfl⟩
  · exact ⟨_, rfl⟩

theorem readHead_render (comment : Option String) (name : String) {rest : List Char}
    (other : "#".toList.isPrefixOf rest = false) :
    readHead.run (((Layout.comment "///" comment).render indentation 0).toList ++
      ((Layout.renderAll indentation 0 (attributes name)).toList ++ rest)) = some ((), rest) := by
  have plain : "///".toList.isPrefixOf ((Layout.renderAll indentation 0 (attributes name)).toList ++ rest) = false := by
    obtain ⟨tail, head⟩ := attributes_head name
    rw [head]
    rfl
  have mark : Layout.indented indentation 0 "///" = "///" := Layout.indented_zero _ _
  have comments := remarks_comment (by decide) (by decide) (by decide) mark comment plain
  exact (run_bind_of comments).trans (readAttributes name other)

/-- The source of a record is read as its type and what its fields are called. -/
theorem readRecord_recordLayout {type : TypeUse} (bound : type.Named) {fields : List RenderedField}
    (named : ∀ f ∈ fields, IsFieldName f.name) (comment : Option String) (rest : List Char) :
    (readRecord (fields.map (·.type))).run
      ((Layout.text indentation (recordLayout type.name type.arguments fields comment)).toList ++ rest) =
        some (⟨type, fields.map (·.name), type.arguments, fields.map (·.name), type,
          fields.map fun f => (f.name, f.name)⟩, rest) := by
  let binders := TargetName.rust.binderText type.arguments
  let this := TargetName.rust.useText type
  obtain ⟨literal, literalText, names⟩ := readLiteral_render named ("    \x7d\n\x7d\n".toList ++ rest)
  let body := " \x7b\n    #[must_use]\n    pub fn new(".toList ++
    ((", ".intercalate (fields.map fun f => f.name ++ ": " ++ f.type)).toList ++
      (") -> Self \x7b\n        Self ".toList ++ literal))
  let result := " ".toList ++ (this.toList ++ body)
  obtain ⟨struct, structText, members⟩ := readMembers_render named ("pub struct " ++ type.name ++ binders)
    ("\nimpl".toList ++ (binders.toList ++ result))
  have whole : (Layout.text indentation (recordLayout type.name type.arguments fields comment)).toList ++ rest =
      ((Layout.comment "///" comment).render indentation 0).toList ++
        ((Layout.renderAll indentation 0 (attributes type.name)).toList ++
          ("pub struct ".toList ++ (type.name.toList ++ (binders.toList ++ ' ' :: struct)))) := by
    have together : ("pub struct " ++ type.name ++ binders).toList ++ ' ' :: struct =
        "pub struct ".toList ++ (type.name.toList ++ (binders.toList ++ ' ' :: struct)) := by
      simp
    have use : type.name ++ binders = this := congrArg (type.name ++ ·) (genericList_eq type.arguments).symm
    rw [← together, ← structText, Layout.text]
    unfold recordLayout
    dsimp only
    rw [Layout.renderAll_append, Layout.renderAll_append, Layout.renderAll, Layout.renderAll, Layout.renderAll,
      Layout.renderAll, Layout.renderAll, Layout.renderAll, genericList_eq]
    simp only [String.toList_append, Layout.render_braced, Layout.renderAll, List.append_assoc, String.toList_empty,
      List.append_nil]
    refine (List.append_right_inj _).2 ((List.append_right_inj _).2 ((List.append_right_inj _).2 ?_))
    have closing : (String.join (List.replicate 1 indentation)).toList ++ ("\x7d\n".toList ++
        ((String.join (List.replicate 0 indentation)).toList ++ ("\x7d\n".toList ++ rest))) =
          "    \x7d\n\x7d\n".toList ++ rest := rfl
    rw [closing, literalText, Layout.render_line (by decide)]
    simp [body, result, ← use, binders, Layout.render, indentation]
  have plain : "#".toList.isPrefixOf
      ("pub struct ".toList ++ (type.name.toList ++ (binders.toList ++ ' ' :: struct))) = false := rfl
  have ends : Text.Ends isIdentifierChar (' ' :: struct) := Text.ends_cons (by decide) _
  have declared := TargetName.rust.readBoundType_append bound ends rfl
  have unopened : "<".toList.isPrefixOf result = false := rfl
  have taken := TargetName.rust.readBinders_binderText bound.arguments unopened
  have ends' : Text.Ends isIdentifierChar body := Text.ends_cons (by decide) _
  have returned := TargetName.rust.readTypeUse_useText bound ends' rfl
  rw [whole, readRecord, run_bind_of (readHead_render comment type.name plain),
    run_bind_of (exactly_append _ _), run_bind_of declared, run_bind_of members, run_bind_of (exactly_append _ _),
    run_bind_of taken, run_bind_of (exactly_append _ _), run_bind_of returned, run_bind_of (exactly_append _ _),
    run_bind_of (readParameters_intercalate named _), run_bind_of (exactly_append _ _), run_bind_of names,
    run_bind_of (exactly_append _ _), List.map_map]
  rfl

/-! ## Outputs -/

theorem isFieldName_fieldName {name : String} (identifier : isIdentifier name) : IsFieldName (fieldName name) := by
  obtain ⟨inside, filled, -⟩ := moduleName_plain identifier
  rw [moduleName] at inside filled
  rw [fieldName]
  exact ⟨inside, filled⟩

section

variable (cx : RenderContext) {fields : List (Field TypeRef)}

/-- The record of some fields, read with the types of these. -/
theorem readRecord_fields {type : TypeUse} (bound : type.Named) (identifiers : ∀ f ∈ fields, isIdentifier f.name)
    (comment : Option String) :
    (readRecord (fields.map fun f => typeText cx f.type)).run
      (Layout.text indentation (recordLayout type.name type.arguments (fields.map (renderField cx)) comment)).toList =
        some (TargetName.rust.recordText type fields, []) := by
  have named : ∀ f ∈ fields.map (renderField cx), IsFieldName f.name := by
    intro rendered member
    obtain ⟨f, among, rfl⟩ := List.mem_map.1 member
    rw [renderField]
    dsimp only
    exact isFieldName_fieldName (identifiers f among)
  have reads := readRecord_recordLayout bound named comment []
  simp only [List.map_map, Function.comp_def, renderField, List.append_nil] at reads
  simp only [TargetName.recordText, TargetName.memberName, TargetName.parameterName]
  exact reads

theorem readRecord_structOutput {s : Struct TypeRef} {name : String} (bound : TypeUse.Named ⟨name, s.generics⟩)
    (identifiers : ∀ f ∈ s.fields, isIdentifier f.name) :
    (readRecord (s.fields.map fun f => typeText cx f.type)).run (structOutput cx s name).source.toList =
      some (TargetName.rust.recordText ⟨name, s.generics⟩ s.fields, []) :=
  readRecord_fields cx bound identifiers s.comment

theorem readRecord_variant {u : Union TypeRef} {v : Variant TypeRef} {name : String}
    (bound : TypeUse.Named ⟨name, v.usedGenerics u.generics⟩) (identifiers : ∀ f ∈ v.fields, isIdentifier f.name) :
    (readRecord (v.fields.map fun f => typeText cx f.type)).run
      (Layout.text indentation
        (recordLayout name (v.usedGenerics u.generics) (v.fields.map (renderField cx)) v.comment)).toList =
          some (TargetName.rust.recordText ⟨name, v.usedGenerics u.generics⟩ v.fields, []) :=
  readRecord_fields cx bound identifiers v.comment

end

end SchemaBindings.Rust
