import SchemaBindings.Proofs.EmittedRecords

/-!
# Tuple records in source

The record of an arity has the type parameters `T1`, `T2`, … and one field for each of them, in order. Its source is
read as such in both targets (`readRecord_tupleOutput`), with the fields as each target spells them: the members are
`F1`, `F2`, … in Go and `f1`, `f2`, … in Rust, and the parameters of the constructor are `f1`, `f2`, … in both.
-/

namespace SchemaBindings

open TupleRecord

/-! ## Numbered fields -/

theorem toLower_of_isDigit {c : Char} (digit : c.isDigit = true) : c.toLower = c := by
  have alphanum : c.isAlphanum = true := by rw [Char.isAlphanum, digit, Bool.or_true]
  exact Text.of_ascii (P := fun c => c.isDigit = true → c.toLower = c) (by decide +kernel)
    (Text.toNat_lt_of_isAlphanum alphanum) digit

/-- A field in lower case. -/
theorem toLower_field (n : Nat) : ("F" ++ toString n).toLower = "f" ++ toString n := by
  have digits : (toString n).toList.map Char.toLower = (toString n).toList :=
    (List.map_congr_left fun c member => toLower_of_isDigit (Text.isDigit_of_mem_toString member)).trans (List.map_id _)
  refine String.toList_injective ?_
  rw [toList_toLower, String.toList_append, List.map_append, digits, String.toList_append]
  rfl

def TargetName.memberLetter : TargetName → String
  | go => "F"
  | rust => "f"

theorem zip_numbered (letter letter' : String) (arity : Nat) :
    (numbered letter arity).zip (numbered letter' arity) =
      (List.range arity).map fun i => (letter ++ toString (i + 1), letter' ++ toString (i + 1)) :=
  List.zip_map'

/-- The record of an arity as a type. -/
def tupleUse (arity : Nat) : TypeUse :=
  ⟨tupleName arity, numbered "T" arity⟩

theorem tupleUse_named (arity : Nat) : (tupleUse arity).Named where
  name := Go.isName_tupleName arity
  arguments := List.forall_mem_map.2 fun i _ => Go.isName_numbered (Go.isName_word _ (by decide)) (i + 1)

/-- What the source of a tuple record says: each field is a member, and is initialized from the parameter at its place. -/
def TargetName.tupleText (target : TargetName) (arity : Nat) : RecordText where
  type := tupleUse arity
  members := numbered target.memberLetter arity
  binders := numbered "T" arity
  parameters := numbered "f" arity
  result := tupleUse arity
  initializers := (numbered target.memberLetter arity).zip (numbered "f" arity)

/-- The names are a letter with a number behind it, from one up to the arity. -/
def CountsUp (letter : String) (arity : Nat) (names : List String) : Prop :=
  names.length = arity ∧ ∀ k < arity, names[k]? = some (letter ++ toString (k + 1))

theorem countsUp_numbered (letter : String) (arity : Nat) : CountsUp letter arity (numbered letter arity) := by
  refine ⟨(List.length_map _).trans List.length_range, fun k within => ?_⟩
  rw [numbered, List.getElem?_map, List.getElem?_range within]
  rfl

/-- The text of a record is that of a tuple: it has a type parameter and a field of this type for each element, in
order, and its constructor binds the type parameters, makes the tuple with them, and pairs members and parameters. -/
structure RecordText.IsTuple (text : RecordText) (target : TargetName) (arity : Nat) (types : List String) : Prop where
  name : text.type.name = "Tuple" ++ toString arity
  generics : CountsUp "T" arity text.type.arguments
  types_eq : types = text.type.arguments
  members : CountsUp target.memberLetter arity text.members
  parameters : CountsUp "f" arity text.parameters
  binders_eq : text.binders = text.type.arguments
  result_eq : text.result = text.type
  initializers_eq : text.initializers = text.members.zip text.parameters

theorem TargetName.tupleText_isTuple (target : TargetName) (arity : Nat) :
    (target.tupleText arity).IsTuple target arity (numbered "T" arity) where
  name := rfl
  generics := countsUp_numbered "T" arity
  types_eq := rfl
  members := countsUp_numbered target.memberLetter arity
  parameters := countsUp_numbered "f" arity
  binders_eq := rfl
  result_eq := rfl
  initializers_eq := rfl

/-! ## Sources -/

namespace Go

def tupleField (i : Nat) : RenderedField :=
  ⟨"F" ++ toString (i + 1), "f" ++ toString (i + 1), "T" ++ toString (i + 1), none⟩

theorem tupleField_named (i : Nat) : (tupleField i).Named where
  member := isName_numbered (isName_word _ (by decide)) (i + 1)
  parameter := isName_numbered ⟨List.all_eq_true.1 (by decide), by decide⟩ (i + 1)

/-- Without a comment and a width, a member is its line alone. -/
theorem renderAll_tupleFields (depth : Nat) (places : List Nat) :
    Layout.renderAll indentation depth ((places.map tupleField).flatMap fun f =>
        [.comment "//" f.comment, .line (padTo 0 f.member ++ " " ++ f.type)]) =
      Layout.renderAll indentation depth
        (places.map fun i => .line ((tupleField i).member ++ " " ++ (tupleField i).type)) := by
  induction places with
  | nil => rfl
  | cons i places ih =>
    have plain : padTo 0 (tupleField i).member = (tupleField i).member := by simp [padTo]
    rw [List.map_cons, List.flatMap_cons, List.map_cons, Layout.renderAll_append, ih, plain]
    simp only [Layout.renderAll, Layout.render, tupleField, String.empty_append, String.append_empty]

/-- The source of a tuple record is that of a record whose members are not padded. -/
theorem tupleOutput_source {arity : Nat} (filled : arity ≠ 0) :
    (tupleOutput (.ofArity arity)).source = Layout.text indentation
      (alignedRecord 0 (tupleUse arity) ((List.range arity).map tupleField) none) := by
  have some : ((List.range arity).map tupleField).isEmpty = false := by simpa using filled
  have members := renderAll_tupleFields 1 (List.range arity)
  rw [tupleOutput, ofArity, alignedRecord, tupleUse]
  dsimp only
  rw [zip_numbered, some, ← typeParameters_eq]
  simp only [numbered, List.map_map, Function.comp_def, toLower_field]
  simp only [Layout.text, Layout.renderAll, Layout.braced, Layout.render, Bool.false_eq_true, if_false, members,
    String.empty_append]
  rfl

theorem readRecord_tupleOutput {arity : Nat} (filled : arity ≠ 0) :
    (readRecord (numbered "T" arity)).run
      (tupleOutput (.ofArity arity)).source.toList = some (TargetName.go.tupleText arity, []) := by
  have reads := readRecord_alignedRecord 0 (tupleUse_named arity)
    (List.forall_mem_map.2 fun i (_ : i ∈ List.range arity) => tupleField_named i) none []
  rw [List.append_nil, ← tupleOutput_source filled] at reads
  simp only [List.map_map] at reads
  refine reads.trans ?_
  rw [TargetName.tupleText, TargetName.memberLetter, zip_numbered]
  rfl

end Go

namespace Rust

def tupleField (i : Nat) : RenderedField :=
  ⟨"f" ++ toString (i + 1), "T" ++ toString (i + 1), none⟩

theorem tupleField_named (i : Nat) : IsFieldName (tupleField i).name := by
  have name : Go.IsName (tupleField i).name :=
    Go.isName_numbered ⟨List.all_eq_true.1 (by decide), by decide⟩ (i + 1)
  exact ⟨fun c member => isSegmentChar_of_isIdentifierChar (name.inside c member), name.nonempty⟩

theorem tupleOutput_source (arity : Nat) :
    (tupleOutput (.ofArity arity)).source = Layout.text indentation
      (recordLayout (tupleName arity) (numbered "T" arity) ((List.range arity).map tupleField) none) := by
  rw [tupleOutput, ofArity]
  dsimp only
  rw [zip_numbered, List.map_map]
  simp only [Function.comp_def, toLower_field]
  rfl

theorem readRecord_tupleOutput (arity : Nat) :
    (readRecord (numbered "T" arity)).run
      (tupleOutput (.ofArity arity)).source.toList = some (TargetName.rust.tupleText arity, []) := by
  have reads := readRecord_recordLayout (tupleUse_named arity)
    (List.forall_mem_map.2 fun i (_ : i ∈ List.range arity) => tupleField_named i) none []
  rw [List.append_nil, tupleUse, ← tupleOutput_source] at reads
  simp only [List.map_map] at reads
  refine reads.trans ?_
  rw [TargetName.tupleText, TargetName.memberLetter, zip_numbered]
  rfl

end Rust

/-- The source of the record of an arity has as many type parameters and fields, in order. -/
theorem TargetName.readRecord_tupleOutput (target : TargetName) {arity : Nat} (filled : arity ≠ 0) :
    (target.readRecord (numbered "T" arity)).run
      (target.target.tupleOutput (.ofArity arity)).source.toList = some (target.tupleText arity, []) := by
  cases target with
  | go => exact Go.readRecord_tupleOutput filled
  | rust => exact Rust.readRecord_tupleOutput arity

end SchemaBindings
