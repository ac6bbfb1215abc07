import SchemaBindings.Proofs.GoTexts
import SchemaBindings.Proofs.SourceReaders

/-!
# Uses of types in source text

A type is bound by name, with type parameters in brackets, and used by name, with arguments in brackets. In Go each type
parameter has a constraint behind it. Both are read off a text that does not go on with them (`readBinders_binderText`,
`readTypeUse_useText`).
-/

namespace SchemaBindings

open SourceReader

/-- A type of the package, and the arguments with which it is used. -/
structure TypeUse where
  name : String
  arguments : List String
deriving DecidableEq

/-! ## Reading -/

def TargetName.openingBracket : TargetName → String
  | go => "["
  | rust => "<"

def TargetName.closingBracket : TargetName → String
  | go => "]"
  | rust => ">"

/-- What stands behind a type parameter where it is bound. -/
def TargetName.constraint : TargetName → String
  | go => " any"
  | rust => ""

/-- A name and what stands behind it. -/
def readEnding (ending : String) : SourceReader String := do
  let name ← word isIdentifierChar
  exactly ending
  return name

/-- Names in brackets with commas between them, and the ending behind each of them, if there are any. -/
def TargetName.readBracketed (target : TargetName) (ending : String) : SourceReader (List String) :=
  (do
    exactly target.openingBracket
    let first ← readEnding ending
    let others ← many (behind ", " (readEnding ending))
    exactly target.closingBracket
    return first :: others) <|> pure []

def TargetName.readBinders (target : TargetName) : SourceReader (List String) :=
  target.readBracketed target.constraint

def TargetName.readTypeUse (target : TargetName) : SourceReader TypeUse := do
  let name ← word isIdentifierChar
  let arguments ← target.readBracketed ""
  return ⟨name, arguments⟩

/-- A type where it is declared, with the type parameters that it binds. -/
def TargetName.readBoundType (target : TargetName) : SourceReader TypeUse := do
  let name ← word isIdentifierChar
  let parameters ← target.readBinders
  return ⟨name, parameters⟩

/-- Types with commas between them, if there are any. -/
def TargetName.readTypeUses (target : TargetName) : SourceReader (List TypeUse) :=
  (do
    let first ← target.readTypeUse
    let others ← many (behind ", " target.readTypeUse)
    return first :: others) <|> pure []

/-! ## Texts -/

def TargetName.useText (target : TargetName) (t : TypeUse) : String :=
  t.name ++ bracketed target.openingBracket target.closingBracket t.arguments

def TargetName.binderText (target : TargetName) (names : List String) : String :=
  bracketed target.openingBracket target.closingBracket (names.map (· ++ target.constraint))

/-- The names in the use of a type are made of identifier characters. -/
structure TypeUse.Named (t : TypeUse) : Prop where
  name : Go.IsName t.name
  arguments : ∀ a ∈ t.arguments, Go.IsName a

theorem Go.typeParameters_eq (names : List String) : typeParameters names = TargetName.go.binderText names :=
  rfl

theorem Rust.genericList_eq (names : List String) : genericList names = TargetName.rust.binderText names := by
  rw [TargetName.binderText, TargetName.constraint]
  simp only [String.append_empty, List.map_id']
  rfl

section

variable (target : TargetName) {rest : List Char}

theorem TargetName.ends_bracketed (names : List String) (ends : Text.Ends isIdentifierChar rest) :
    Text.Ends isIdentifierChar
      ((bracketed target.openingBracket target.closingBracket names).toList ++ rest) := by
  unfold bracketed
  split
  · exact ends
  · rw [String.append_assoc, String.toList_append, List.append_assoc]
    cases target with
    | go => exact Text.ends_cons (by decide) _
    | rust => exact Text.ends_cons (by decide) _

theorem run_readEnding {ending name : String} (named : Go.IsName name)
    (ends : Text.Ends isIdentifierChar (ending.toList ++ rest)) :
    (readEnding ending).run (name.toList ++ (ending.toList ++ rest)) = some (name, rest) := by
  rw [readEnding, run_bind_of (word_append named.inside named.nonempty ends), run_bind_of (exactly_append _ _)]
  rfl

theorem bracketed_cons_toList (opening closing ending first : String) (others : List String) (rest : List Char) :
    (bracketed opening closing ((first :: others).map (· ++ ending))).toList ++ rest =
      opening.toList ++ (first.toList ++ (ending.toList ++
        ((others.flatMap fun name => ", ".toList ++ (name.toList ++ ending.toList)) ++ (closing.toList ++ rest)))) := by
  rw [bracketed, if_neg (by simp), String.toList_append, String.toList_append, String.toList_intercalate,
    List.map_cons, List.map_cons, Text.intercalate_cons_eq]
  simp [List.flatMap_map]

/-- A closing bracket ends a name, and no further one stands in front of it. -/
theorem TargetName.closingBracket_ends (ending : String) :
    Text.Ends isIdentifierChar (target.closingBracket.toList ++ rest) ∧
      (behind ", " (readEnding ending)).run (target.closingBracket.toList ++ rest) = none := by
  cases target with
  | go => exact ⟨Text.ends_cons (by decide) _, run_bind_refused _ (exactly_refused rfl)⟩
  | rust => exact ⟨Text.ends_cons (by decide) _, run_bind_refused _ (exactly_refused rfl)⟩

theorem TargetName.readBracketed_bracketed {ending : String} {names : List String}
    (closes : ∀ tail, Text.Ends isIdentifierChar tail → Text.Ends isIdentifierChar (ending.toList ++ tail))
    (named : ∀ name ∈ names, Go.IsName name) (unopened : target.openingBracket.toList.isPrefixOf rest = false) :
    (target.readBracketed ending).run
      ((bracketed target.openingBracket target.closingBracket (names.map (· ++ ending))).toList ++ rest) =
        some (names, rest) := by
  cases names with
  | nil => exact run_orElse_refused (run_bind_refused _ (exactly_refused unopened))
  | cons first others =>
    obtain ⟨head, tail⟩ := List.forall_mem_cons.1 named
    obtain ⟨closed, last⟩ := @TargetName.closingBracket_ends target rest ending
    have reads : ∀ name ∈ others, ∀ rest, Text.Ends isIdentifierChar rest → (behind ", " (readEnding ending)).run
        (", ".toList ++ (name.toList ++ ending.toList) ++ rest) = some (name, rest) := by
      intro name among rest ends
      rw [List.append_assoc, List.append_assoc]
      exact (run_bind_of (exactly_append _ _)).trans (run_readEnding (tail name among) (closes rest ends))
    obtain ⟨ends, later⟩ := run_many_of_follows id (Text.Ends isIdentifierChar)
      (fun _ _ _ => Text.ends_cons (by decide) _) closed (fun _ _ => by simp) reads last
    rw [bracketed_cons_toList]
    refine run_orElse_of ?_
    rw [run_bind_of (exactly_append _ _), run_bind_of (run_readEnding head (closes _ ends)), run_bind_of later,
      run_bind_of (exactly_append _ _), List.map_id]
    rfl

/-- The use of a type is read off a text that does not go on with it. -/
theorem TargetName.readTypeUse_useText {t : TypeUse} (named : t.Named) (ends : Text.Ends isIdentifierChar rest)
    (unopened : target.openingBracket.toList.isPrefixOf rest = false) :
    target.readTypeUse.run ((target.useText t).toList ++ rest) = some (t, rest) := by
  have closes : ∀ tail, Text.Ends isIdentifierChar tail → Text.Ends isIdentifierChar ("".toList ++ tail) := fun _ => id
  have arguments := target.readBracketed_bracketed closes named.arguments unopened
  simp only [String.append_empty, List.map_id'] at arguments
  rw [useText, String.toList_append, List.append_assoc, readTypeUse,
    run_bind_of (word_append named.name.inside named.name.nonempty (target.ends_bracketed _ ends)),
    run_bind_of arguments]
  rfl

theorem TargetName.readBinders_binderText {names : List String} (named : ∀ name ∈ names, Go.IsName name)
    (unopened : target.openingBracket.toList.isPrefixOf rest = false) :
    target.readBinders.run ((target.binderText names).toList ++ rest) = some (names, rest) := by
  refine target.readBracketed_bracketed (fun tail ends => ?_) named unopened
  cases target with
  | go => exact Text.ends_cons (by decide) _
  | rust => exact ends

/-- A type is read off its declaration, with what it binds. -/
theorem TargetName.readBoundType_append {t : TypeUse} (named : t.Named) (ends : Text.Ends isIdentifierChar rest)
    (unopened : target.openingBracket.toList.isPrefixOf rest = false) :
    target.readBoundType.run (t.name.toList ++ ((target.binderText t.arguments).toList ++ rest)) = some (t, rest) := by
  have closes : Text.Ends isIdentifierChar ((target.binderText t.arguments).toList ++ rest) :=
    target.ends_bracketed _ ends
  rw [readBoundType, run_bind_of (word_append named.name.inside named.name.nonempty closes),
    run_bind_of (target.readBinders_binderText named.arguments unopened)]
  rfl

theorem TargetName.readTypeUses_none (ends : Text.Ends isIdentifierChar rest) :
    target.readTypeUses.run rest = some ([], rest) := by
  have refused : target.readTypeUse.run rest = none := run_bind_refused _ (word_refused ends)
  exact run_orElse_refused (run_bind_refused _ refused)

end

end SchemaBindings
