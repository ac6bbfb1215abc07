import SchemaBindings.Proofs.Constructors
import SchemaBindings.Proofs.GoTexts
import SchemaBindings.Proofs.SourceReaders

/-!
# Records in Go source

A reader of records. It is told the texts of the types of the fields, and reads the type and what it binds, the names of
the members, and the type parameters, the parameters, the result and the assignments of the constructor. The same types
must stand behind the members and behind the parameters, one after the other, and nothing else may stand between them.

The source of a record is read as its type and what its fields are called (`readRecord_recordLayout`), whatever stands in
the texts of the types of these.
-/

namespace SchemaBindings

/-! ## Lines of a source -/

namespace Layout

theorem render_line {text : String} (filled : text ≠ "") (unit : String) (depth : Nat) :
    (line text).render unit depth = String.join (List.replicate depth unit) ++ text ++ "\n" := by
  rw [render, renderLine, if_neg filled]

theorem render_braced (unit head : String) (depth : Nat) (body : List Layout) :
    ((braced head body).render unit depth).toList =
      (String.join (List.replicate depth unit) ++ head ++ " \x7b\n").toList ++
        ((renderAll unit (depth + 1) body).toList ++ (String.join (List.replicate depth unit) ++ "\x7d\n").toList) := by
  have filled : head ++ " \x7b" ≠ "" := SourceReader.append_ne_empty (by decide) head
  rw [braced, render, renderLine, if_neg filled, renderLine, if_neg (by decide)]
  simp

theorem render_braced_zero (unit head : String) (body : List Layout) :
    ((braced head body).render unit 0).toList =
      head.toList ++ (" \x7b\n".toList ++ ((renderAll unit 1 body).toList ++ "\x7d\n".toList)) := by
  rw [render_braced]
  simp

theorem renderAll_map {α : Type} (unit : String) (depth : Nat) (piece : α → Layout) (as : List α) :
    (renderAll unit depth (as.map piece)).toList = as.flatMap fun a => ((piece a).render unit depth).toList := by
  induction as with
  | nil => rfl
  | cons a as ih => rw [List.map_cons, renderAll, String.toList_append, ih, List.flatMap_cons]

theorem renderAll_flatMap {α : Type} (unit : String) (depth : Nat) (pieces : α → List Layout) (as : List α) :
    (renderAll unit depth (as.flatMap pieces)).toList =
      as.flatMap fun a => (renderAll unit depth (pieces a)).toList := by
  induction as with
  | nil => rfl
  | cons a as ih => rw [List.flatMap_cons, renderAll_append, String.toList_append, ih, List.flatMap_cons]

end Layout

namespace Go

open SourceReader

/-! ## Reading -/

/-- The line of a member with a type of this text, and the remarks in front of it. -/
def readMember (type : String) : SourceReader String := do
  remarks "\t//"
  exactly "\t"
  let name ← word isIdentifierChar
  blanks
  exactly (String.ofList (type.toList.dropWhile (· = ' ')) ++ "\n")
  return name

/-- The members of a struct with types of these texts. -/
def readMembers (types : List String) : SourceReader (List String) := do
  if types.isEmpty then
    exactly "\x7b\x7d\n"
    return []
  else
    exactly " \x7b\n"
    let members ← types.mapM readMember
    exactly "\x7d\n"
    return members

/-- A parameter with a type of this text. -/
def readParameter (type : String) : SourceReader String := do
  let name ← word isIdentifierChar
  exactly (" " ++ type)
  return name

/-- The line that assigns a parameter to a member. -/
def readAssignment : SourceReader (String × String) := do
  exactly "\t\t"
  let member ← word isIdentifierChar
  exactly ": "
  let parameter ← word isIdentifierChar
  exactly ",\n"
  return (member, parameter)

/-- The assignments of a literal with one for each of the types. -/
def readAssignments (types : List String) : SourceReader (List (String × String)) := do
  if types.isEmpty then
    exactly "\x7b\x7d\n"
    return []
  else
    exactly "\x7b\n"
    let assignments ← types.mapM fun _ => readAssignment
    exactly "\t\x7d\n"
    return assignments

/-- A record: a struct type and the function that makes a value of it. -/
def readRecord (types : List String) : SourceReader RecordText := do
  remarks "//"
  exactly "type "
  let type ← TargetName.go.readBoundType
  exactly " struct"
  let members ← readMembers types
  exactly ("\nfunc New" ++ type.name)
  let binders ← TargetName.go.readBinders
  exactly "("
  let parameters ← separated ", " readParameter types
  exactly ") "
  let result ← TargetName.go.readTypeUse
  exactly " \x7b\n\treturn "
  exactly (TargetName.go.useText result)
  let initializers ← readAssignments types
  exactly "\x7d\n"
  return ⟨type, members, binders, parameters, result, initializers⟩

/-! ## Fields -/

/-- The member and the parameter of a field have names. -/
structure RenderedField.Named (f : RenderedField) : Prop where
  member : IsName f.member
  parameter : IsName f.parameter

/-- A name can be read off a text that goes on with another character. -/
theorem IsName.read {name : String} (named : IsName name) {opening : String}
    (other : (opening.toList.head?.any fun c => !isIdentifierChar c) = true) (rest : List Char) :
    (word isIdentifierChar).run (name.toList ++ (opening.toList ++ rest)) = some (name, opening.toList ++ rest) :=
  word_append named.inside named.nonempty (ends_toList other rest)

theorem IsName.append_ne_empty {name : String} (named : IsName name) (rest : String) : name ++ rest ≠ "" :=
  fun empty => named.nonempty (String.append_eq_empty_iff.1 empty).1

/-- A name does not begin like a remark. -/
theorem IsName.not_remark {name : String} (named : IsName name) (rest : List Char) :
    "\t//".toList.isPrefixOf ("\t".toList ++ (name.toList ++ rest)) = false := by
  cases letters : name.toList with
  | nil => exact absurd (String.toList_injective letters) named.nonempty
  | cons c tail =>
    have other : '/' ≠ c := by
      rintro rfl
      exact absurd (named.inside '/' (letters ▸ List.mem_cons_self)) (by decide)
    have differ : ('/' == c) = false := beq_false_of_ne other
    show ('\t' == '\t' && ('/' == c && _)) = false
    rw [differ, Bool.false_and, Bool.and_false]

/-! ## Members -/

theorem readMember_render {f : RenderedField} (named : f.Named) (width : Nat) (rest : List Char) :
    (readMember f.type).run ((Layout.renderAll indentation 1
      [.comment "//" f.comment, .line (padTo width f.member ++ " " ++ f.type)]).toList ++ rest) =
        some (f.member, rest) := by
  let padding := ' ' :: List.replicate (width - f.member.length) ' '
  have blank : ∀ c ∈ padding, c = ' ' := List.forall_mem_cons.2 ⟨rfl, fun c => List.eq_of_mem_replicate⟩
  have filled : padTo width f.member ++ " " ++ f.type ≠ "" := by
    rw [padTo, String.append_assoc, String.append_assoc]
    exact named.member.append_ne_empty _
  have line : ((Layout.line (padTo width f.member ++ " " ++ f.type)).render indentation 1).toList ++ rest =
      "\t".toList ++ (f.member.toList ++ (padding ++ f.type.toList ++ '\n' :: rest)) := by
    rw [Layout.render_line filled]
    simp [padTo, padding, indentation, ← List.replicate_succ, List.replicate_succ']
  have mark : Layout.indented indentation 1 "//" = "\t//" := by decide
  have comment := remarks_comment (by decide) (by decide) (by decide) mark f.comment
    (named.member.not_remark (padding ++ f.type.toList ++ '\n' :: rest))
  have ends : Text.Ends isIdentifierChar (padding ++ f.type.toList ++ '\n' :: rest) :=
    Text.ends_cons (by decide) _
  have last : f.type.toList.dropWhile (· = ' ') ++ '\n' :: rest =
      (String.ofList (f.type.toList.dropWhile (· = ' ')) ++ "\n").toList ++ rest := by
    rw [String.toList_append, String.toList_ofList, List.append_assoc]
    rfl
  rw [Layout.renderAll, Layout.renderAll, Layout.renderAll, String.append_empty, String.toList_append,
    List.append_assoc, line, readMember, run_bind_of comment, run_bind_of (exactly_append _ _),
    run_bind_of (word_append named.member.inside named.member.nonempty ends),
    run_bind_of (blanks_append blank _ _), last,
    run_bind_of (exactly_append _ _)]
  rfl

section

variable {fields : List RenderedField}

/-- Behind its head a struct type has the members of the fields. -/
theorem readMembers_render (named : ∀ f ∈ fields, f.Named) (head : String) (width : Nat) (rest : List Char) :
    let type : Layout := if fields.isEmpty then .line (head ++ "\x7b\x7d") else .braced head
      (fields.flatMap fun f => [.comment "//" f.comment, .line (padTo width f.member ++ " " ++ f.type)])
    ∃ source, (type.render indentation 0).toList ++ rest = head.toList ++ source ∧
      (readMembers (fields.map (·.type))).run source = some (fields.map (·.member), rest) := by
  intro type
  cases fields with
  | nil =>
    refine ⟨"\x7b\x7d\n".toList ++ rest, ?_, run_bind_of (exactly_append _ _)⟩
    show ((Layout.line (head ++ "\x7b\x7d")).render indentation 0).toList ++ rest = _
    rw [Layout.render_line_zero]
    simp
  | cons f fields =>
    have members := run_mapM readMember RenderedField.type RenderedField.member
      (fun f among rest => readMember_render (named f among) width rest) ("\x7d\n".toList ++ rest)
    refine ⟨" \x7b\n".toList ++ _, ?_,
      (run_bind_of (exactly_append _ _)).trans ((run_bind_of members).trans (run_bind_of (exactly_append _ _)))⟩
    show ((Layout.braced head _).render indentation 0).toList ++ rest = _
    rw [Layout.render_braced_zero, Layout.renderAll_flatMap]
    simp only [List.append_assoc]

theorem readParameters_intercalate (named : ∀ f ∈ fields, f.Named) (rest : List Char) :
    (separated ", " readParameter (fields.map (·.type))).run
      ((", ".intercalate (fields.map fun f => f.parameter ++ " " ++ f.type)).toList ++ rest) =
        some (fields.map (·.parameter), rest) := by
  refine run_separated RenderedField.type RenderedField.parameter (fun _ => True) (fun _ => trivial) trivial
    fun f among tail _ => ?_
  have parts : (f.parameter ++ " " ++ f.type).toList ++ tail =
      f.parameter.toList ++ ((" " ++ f.type).toList ++ tail) := by
    simp
  have other : ((" " ++ f.type).toList.head?.any fun c => !isIdentifierChar c) = true := by
    rw [String.toList_append]
    rfl
  rw [parts, readParameter, run_bind_of ((named f among).parameter.read other _), run_bind_of (exactly_append _ _)]
  rfl

theorem readAssignment_render {f : RenderedField} (named : f.Named) (rest : List Char) :
    readAssignment.run (((Layout.line (f.member ++ ": " ++ f.parameter ++ ",")).render indentation 2).toList ++ rest) =
      some ((f.member, f.parameter), rest) := by
  have filled : f.member ++ ": " ++ f.parameter ++ "," ≠ "" := append_ne_empty (by decide) _
  have line : ((Layout.line (f.member ++ ": " ++ f.parameter ++ ",")).render indentation 2).toList ++ rest =
      "\t\t".toList ++ (f.member.toList ++ (": ".toList ++ (f.parameter.toList ++ (",\n".toList ++ rest)))) := by
    rw [Layout.render_line filled]
    simp [indentation]
  rw [line, readAssignment, run_bind_of (exactly_append _ _),
    run_bind_of (named.member.read (by decide) _), run_bind_of (exactly_append _ _),
    run_bind_of (named.parameter.read (by decide) _), run_bind_of (exactly_append _ _)]
  rfl

/-- Behind its type a literal assigns the parameters of the fields to their members. -/
theorem readAssignments_render (named : ∀ f ∈ fields, f.Named) (this : String) (rest : List Char) :
    let literal : Layout := if fields.isEmpty then .line ("return " ++ this ++ "\x7b\x7d")
      else .block ("return " ++ this ++ "\x7b") "\x7d"
        (fields.map fun f => .line (f.member ++ ": " ++ f.parameter ++ ","))
    ∃ source, (literal.render indentation 1).toList ++ rest = ("\treturn " ++ this).toList ++ source ∧
      (readAssignments (fields.map (·.type))).run source =
        some (fields.map fun f => (f.member, f.parameter), rest) := by
  intro literal
  have filled : ∀ rest : String, "return " ++ this ++ rest ≠ "" := by
    intro rest empty
    rw [String.append_assoc] at empty
    exact absurd (String.append_eq_empty_iff.1 empty).1 (by decide)
  cases fields with
  | nil =>
    refine ⟨"\x7b\x7d\n".toList ++ rest, ?_, run_bind_of (exactly_append _ _)⟩
    show ((Layout.line ("return " ++ this ++ "\x7b\x7d")).render indentation 1).toList ++ rest = _
    rw [Layout.render_line (filled _)]
    simp [indentation]
  | cons f fields =>
    have assignments := run_mapM (fun _ => readAssignment) RenderedField.type (fun f => (f.member, f.parameter))
      (fun f among rest => readAssignment_render (named f among) rest) ("\t\x7d\n".toList ++ rest)
    refine ⟨"\x7b\n".toList ++ _, ?_,
      (run_bind_of (exactly_append _ _)).trans ((run_bind_of assignments).trans (run_bind_of (exactly_append _ _)))⟩
    show ((Layout.block _ _ _).render indentation 1).toList ++ rest = _
    rw [Layout.render, Layout.renderLine, if_neg (filled _), String.toList_append, String.toList_append,
      Layout.renderAll_map]
    simp [indentation, Layout.renderLine]

end

/-- A record whose members are padded to a width of its own. -/
def alignedRecord (width : Nat) (type : TypeUse) (fields : List RenderedField) (comment : Option String) :
    List Layout :=
  let binders := TargetName.go.binderText type.arguments
  let this := TargetName.go.useText type
  let head := "type " ++ type.name ++ binders ++ " struct"
  let parameters := fields.map fun f => f.parameter ++ " " ++ f.type
  [.comment "//" comment,
    if fields.isEmpty then .line (head ++ "\x7b\x7d")
      else .braced head
        (fields.flatMap fun f => [.comment "//" f.comment, .line (padTo width f.member ++ " " ++ f.type)]),
    .blank,
    .braced ("func New" ++ type.name ++ binders ++ "(" ++ ", ".intercalate parameters ++ ") " ++ this)
      [if fields.isEmpty then .line ("return " ++ this ++ "\x7b\x7d")
        else .block ("return " ++ this ++ "\x7b") "\x7d"
          (fields.map fun f => .line (f.member ++ ": " ++ f.parameter ++ ","))]]

section

variable {type : TypeUse} {fields : List RenderedField}

/-- The source of a record is read as its type and what its fields are called, to whatever width its members are
padded. -/
theorem readRecord_alignedRecord (width : Nat) (bound : type.Named) (named : ∀ f ∈ fields, f.Named)
    (comment : Option String) (others : List Layout) :
    (readRecord (fields.map (·.type))).run
      (Layout.text indentation (alignedRecord width type fields comment ++ others)).toList =
        some (⟨type, fields.map (·.member), type.arguments, fields.map (·.parameter), type,
          fields.map fun f => (f.member, f.parameter)⟩, (Layout.text indentation others).toList) := by
  let binders := TargetName.go.binderText type.arguments
  let this := TargetName.go.useText type
  obtain ⟨literal, literalText, assignments⟩ := readAssignments_render named this
    ("\x7d\n".toList ++ (Layout.renderAll indentation 0 others).toList)
  let body := " \x7b\n\treturn ".toList ++ (this.toList ++ literal)
  let parameters := "(".toList ++ ((", ".intercalate (fields.map fun f => f.parameter ++ " " ++ f.type)).toList ++
    (") ".toList ++ (this.toList ++ body)))
  obtain ⟨struct, structText, members⟩ := readMembers_render named ("type " ++ type.name ++ binders ++ " struct") width
    (("\nfunc New" ++ type.name).toList ++ (binders.toList ++ parameters))
  let head := " struct".toList ++ struct
  have whole : (Layout.text indentation (alignedRecord width type fields comment ++ others)).toList =
      ((Layout.comment "//" comment).render indentation 0).toList ++
        ("type ".toList ++ (type.name.toList ++ (binders.toList ++ head))) := by
    have together : ("type " ++ type.name ++ binders ++ " struct").toList ++ struct =
        "type ".toList ++ (type.name.toList ++ (binders.toList ++ head)) := by
      simp [head]
    rw [← together, ← structText, Layout.text, Layout.renderAll_append]
    unfold alignedRecord
    dsimp only
    rw [Layout.renderAll, Layout.renderAll, Layout.renderAll, Layout.renderAll, Layout.renderAll]
    simp only [String.toList_append, Layout.render_braced_zero, Layout.renderAll, List.append_assoc,
      String.toList_empty, List.append_nil]
    refine (List.append_right_inj _).2 ((List.append_right_inj _).2 ?_)
    rw [literalText]
    simp [body, parameters, this, binders, Layout.render]
  have remark : "//".toList.isPrefixOf ("type ".toList ++ (type.name.toList ++ (binders.toList ++ head))) = false := rfl
  have mark : Layout.indented indentation 0 "//" = "//" := Layout.indented_zero _ _
  have comments := remarks_comment (by decide) (by decide) (by decide) mark comment remark
  have ends : Text.Ends isIdentifierChar head := Text.ends_cons (by decide) _
  have declared := TargetName.go.readBoundType_append bound ends rfl
  have unopened : "[".toList.isPrefixOf parameters = false := rfl
  have taken := TargetName.go.readBinders_binderText bound.arguments unopened
  have ends' : Text.Ends isIdentifierChar body := Text.ends_cons (by decide) _
  have returned := TargetName.go.readTypeUse_useText bound ends' rfl
  rw [whole, readRecord, run_bind_of comments, run_bind_of (exactly_append _ _), run_bind_of declared,
    run_bind_of (exactly_append _ _), run_bind_of members, run_bind_of (exactly_append _ _), run_bind_of taken,
    run_bind_of (exactly_append _ _), run_bind_of (readParameters_intercalate named _),
    run_bind_of (exactly_append _ _), run_bind_of returned, run_bind_of (exactly_append _ _),
    run_bind_of (exactly_append _ _), run_bind_of assignments, run_bind_of (exactly_append _ _)]
  rfl

/-- A declared record is padded to the width of its longest member. -/
theorem recordLayout_eq (type : TypeUse) (fields : List RenderedField) (comment : Option String) :
    recordLayout type.name type.arguments fields comment =
      alignedRecord ((fields.map (·.member.utf8ByteSize)).foldl max 0) type fields comment :=
  rfl

theorem readRecord_recordLayout (bound : type.Named) (named : ∀ f ∈ fields, f.Named) (comment : Option String)
    (others : List Layout) :
    (readRecord (fields.map (·.type))).run
      (Layout.text indentation (recordLayout type.name type.arguments fields comment ++ others)).toList =
        some (⟨type, fields.map (·.member), type.arguments, fields.map (·.parameter), type,
          fields.map fun f => (f.member, f.parameter)⟩, (Layout.text indentation others).toList) := by
  rw [recordLayout_eq]
  exact readRecord_alignedRecord _ bound named comment others

end

/-! ## Outputs -/

theorem isName_parameterName {name : String} (identifier : isIdentifier name) : IsName (parameterName name) := by
  have inside : ∀ c ∈ (Text.lowerCamel name).toList, isIdentifierChar c = true := fun c member => by
    rw [isIdentifierChar, Text.lowerCamel_isAlphanum identifier c member, Bool.true_or]
  unfold parameterName escape
  split
  · refine ⟨?_, by simp⟩
    rw [String.toList_append]
    exact List.forall_mem_append.2 ⟨inside, List.all_eq_true.1 (by decide)⟩
  · exact ⟨inside, Text.lowerCamel_ne_empty identifier⟩

theorem renderField_named {cx : RenderContext} {f : Field TypeRef} (identifier : isIdentifier f.name) :
    (renderField cx f).Named :=
  ⟨isName_upperCamel identifier, isName_parameterName identifier⟩

section

variable (cx : RenderContext) {fields : List (Field TypeRef)}

/-- The record of some fields, read with the types of these. -/
theorem readRecord_fields {type : TypeUse} (bound : type.Named) (identifiers : ∀ f ∈ fields, isIdentifier f.name)
    (comment : Option String) (others : List Layout) :
    (readRecord (fields.map fun f => typeText cx f.type)).run
      (Layout.text indentation
        (recordLayout type.name type.arguments (fields.map (renderField cx)) comment ++ others)).toList =
          some (TargetName.go.recordText type fields, (Layout.text indentation others).toList) := by
  have named : ∀ f ∈ fields.map (renderField cx), f.Named :=
    List.forall_mem_map.2 fun f among => renderField_named (identifiers f among)
  have reads := readRecord_recordLayout bound named comment others
  simp only [List.map_map] at reads
  exact reads

theorem readRecord_structOutput {s : Struct TypeRef} {name : String} (bound : TypeUse.Named ⟨name, s.generics⟩)
    (identifiers : ∀ f ∈ s.fields, isIdentifier f.name) :
    (readRecord (s.fields.map fun f => typeText cx f.type)).run (structOutput cx s name).source.toList =
      some (TargetName.go.recordText ⟨name, s.generics⟩ s.fields, []) := by
  have reads := readRecord_fields cx bound identifiers s.comment []
  rwa [List.append_nil] at reads

/-- Behind the record of a variant stands the method that marks it. -/
def markerText (identifier name : String) (used : List String) : String :=
  "\nfunc (" ++ name ++ typeArguments used ++ ") " ++ markerName identifier ++ "() \x7b\x7d\n"

theorem readRecord_variant {u : Union TypeRef} {v : Variant TypeRef} {name : String}
    (bound : TypeUse.Named ⟨name, v.usedGenerics u.generics⟩) (identifiers : ∀ f ∈ v.fields, isIdentifier f.name)
    (identifier : String) :
    (readRecord (v.fields.map fun f => typeText cx f.type)).run
      (Layout.text indentation (variantLayout cx u identifier v name)).toList =
        some (TargetName.go.recordText ⟨name, v.usedGenerics u.generics⟩ v.fields,
          (markerText identifier name (v.usedGenerics u.generics)).toList) := by
  refine (readRecord_fields cx bound identifiers v.comment _).trans ?_
  rw [Layout.text, Layout.renderAll, Layout.renderAll, Layout.renderAll, Layout.render_line_zero]
  simp [Layout.render, markerText]

end

end Go

end SchemaBindings
