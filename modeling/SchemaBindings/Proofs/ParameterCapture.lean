import SchemaBindings.Proofs.LateFaults
import SchemaBindings.Proofs.ReferredNames
import SchemaBindings.Proofs.RelativePaths

/-!
# Parameters and other types

A generic parameter is written as it is declared, so it is an identifier. In a declaration that resolution keeps, other
types are written with a character that stands in no identifier, except for

* a scalar that is written with one word,
* a type without arguments that is declared in the same module.

Such a type is written like a parameter exactly if the spellings agree, and nothing keeps a parameter from having the
spelling of one (`typeText_param_iff`).
-/

namespace SchemaBindings

/-! ## Marks -/

/-- The text has a mark: a character that stands in no identifier. -/
def HasMark (text : String) : Prop :=
  ∃ c ∈ text.toList, isIdentifierChar c = false

theorem HasMark.ne_identifier {text name : String} (marked : HasMark text)
    (identifier : isIdentifier name) : text ≠ name := by
  rintro rfl
  obtain ⟨c, inside, mark⟩ := marked
  exact absurd (Text.isIdentifierChar_of_mem identifier inside) (by simp [mark])

theorem HasMark.append_left {text : String} (marked : HasMark text) (rest : String) :
    HasMark (text ++ rest) := by
  obtain ⟨c, inside, mark⟩ := marked
  exact ⟨c, by simp [inside], mark⟩

theorem HasMark.append_right {text : String} (marked : HasMark text) (before : String) :
    HasMark (before ++ text) := by
  obtain ⟨c, inside, mark⟩ := marked
  exact ⟨c, by simp [inside], mark⟩

theorem hasMark_bracketed {opening : String} (marked : HasMark opening) (closing : String)
    {names : List String} (some : names ≠ []) : HasMark (bracketed opening closing names) := by
  rw [bracketed, if_neg some]
  exact (marked.append_left _).append_left _

/-! ## Forms of types -/

/-- The types that can be written with one word in the module `m`. -/
inductive SchemaType.OneWord (m : ModulePath) : TypeRef → Prop
  | scalar (s : Scalar) : OneWord m (.scalar s)
  | named {p : SchemaPath} : p.module = m → OneWord m (.named p [])
  | param (g : String) : OneWord m (.param g)

open SchemaType (OneWord)

/-- In Go every other type has a mark. -/
theorem Go.hasMark_typeText {cx : RenderContext} {t : TypeRef} (wide : t.arity? ≠ some 0)
    (long : ¬ OneWord cx.module t) : HasMark (typeText cx t) := by
  have bracket : HasMark "[" := ⟨'[', by decide, by decide⟩
  have star : HasMark "*" := ⟨'*', by decide, by decide⟩
  cases t with
  | scalar s => exact absurd (.scalar s) long
  | param g => exact absurd (.param g) long
  | tuple elements =>
    cases elements with
    | nil => exact absurd rfl wide
    | cons first others => exact (hasMark_bracketed bracket _ (by simp [typeTexts])).append_right _
  | list item => exact .append_left ⟨'[', by decide, by decide⟩ _
  | array item length => exact ((bracket.append_left _).append_left _).append_left _
  | option item => exact star.append_left _
  | map key value =>
    exact ((HasMark.append_left ⟨'[', by decide, by decide⟩ _).append_left _).append_left _
  | hashSet item => exact (HasMark.append_left ⟨'[', by decide, by decide⟩ _).append_left _
  | named p arguments =>
    cases arguments with
    | cons first others => exact (hasMark_bracketed bracket _ (by simp [typeTexts])).append_right _
    | nil =>
      have outside : p.module ≠ cx.module := fun same => long (.named same)
      have qualified : HasMark (qualifier cx p.module) := by
        rw [qualifier, if_neg outside]
        exact HasMark.append_right ⟨'.', by decide, by decide⟩ _
      exact (qualified.append_left _).append_left _

/-- In Rust every other type has a mark. -/
theorem Rust.hasMark_typeText {cx : RenderContext} {t : TypeRef} (wide : t.arity? ≠ some 0)
    (long : ¬ OneWord cx.module t) : HasMark (typeText cx t) := by
  have angle : HasMark "<" := ⟨'<', by decide, by decide⟩
  cases t with
  | scalar s => exact absurd (.scalar s) long
  | param g => exact absurd (.param g) long
  | tuple elements =>
    cases elements with
    | nil => exact absurd rfl wide
    | cons first others => exact (hasMark_bracketed angle _ (by simp [typeTexts])).append_right _
  | list item => exact (HasMark.append_left ⟨'<', by decide, by decide⟩ _).append_left _
  | array item length =>
    exact (((HasMark.append_left ⟨'[', by decide, by decide⟩ _).append_left _).append_left _).append_left _
  | option item => exact (HasMark.append_left ⟨'<', by decide, by decide⟩ _).append_left _
  | map key value =>
    exact (((HasMark.append_left ⟨'<', by decide, by decide⟩ _).append_left _).append_left _).append_left _
  | hashSet item => exact (HasMark.append_left ⟨'<', by decide, by decide⟩ _).append_left _
  | named p arguments =>
    cases arguments with
    | cons first others => exact (hasMark_bracketed angle _ (by simp [typeTexts])).append_right _
    | nil =>
      have outside : cx.module ≠ p.module := fun same => long (.named same.symm)
      exact .append_left ⟨':', colon_mem_relativePath outside _, by decide⟩ _

/-! ## Texts of types -/

def TargetName.typeText : TargetName → RenderContext → TypeRef → String
  | go => Go.typeText
  | rust => Rust.typeText

def TargetName.scalarText : TargetName → Scalar → String
  | go => Go.scalarText
  | rust => Rust.scalarText

section

variable (target : TargetName) (cx : RenderContext)

theorem TargetName.typeText_scalar (s : Scalar) : target.typeText cx (.scalar s) = target.scalarText s := by
  cases target with
  | go => rfl
  | rust => rfl

theorem TargetName.typeText_param (g : String) : target.typeText cx (.param g) = g := by
  cases target with
  | go => rfl
  | rust => rfl

/-- Inside its module a type without arguments is written with its name alone. -/
theorem TargetName.typeText_named {p : SchemaPath} (inside : p.module = cx.module) :
    target.typeText cx (.named p []) = cx.identifierOf p := by
  cases target with
  | go =>
    calc Go.qualifier cx p.module ++ cx.identifierOf p ++ "" = "" ++ cx.identifierOf p ++ "" := by
          rw [Go.qualifier, if_pos inside]
      _ = cx.identifierOf p := by rw [String.empty_append, String.append_empty]
  | rust =>
    calc Rust.relativePath cx.module p.module (cx.identifierOf p) ++ "" =
          cx.identifierOf p ++ "" := by rw [inside, Rust.relativePath_self]
      _ = cx.identifierOf p := String.append_empty

theorem TargetName.hasMark_typeText {t : TypeRef} (wide : t.arity? ≠ some 0)
    (long : ¬ OneWord cx.module t) : HasMark (target.typeText cx t) := by
  cases target with
  | go => exact Go.hasMark_typeText wide long
  | rust => exact Rust.hasMark_typeText wide long

theorem TargetName.conventions_typeName : target.target.conventions.typeName = Text.upperCamel := by
  cases target <;> rfl

end

/-! ## Types like a parameter -/

/-- A type of a declaration is written like a parameter of it exactly if it is the parameter, or a scalar whose text is
the parameter, or a type without arguments of the same module whose name is spelled like the parameter. -/
theorem typeText_param_iff {document : Document} {config : Config} {c : Candidate}
    (member : c ∈ plan config.target.target config (runNames config.target.target config document.resolve)
      document.resolve)
    {g : String} {ty : TypeRef} (type : ty ∈ c.item.declaration.types) (occurs : .param g ∈ ty.walk)
    {ty' t : TypeRef} (type' : ty' ∈ c.item.declaration.types) (inside : t ∈ ty'.walk) :
    let cx : RenderContext :=
      ⟨config, runNames config.target.target config document.resolve, c.item.module⟩
    config.target.typeText cx t = config.target.typeText cx (.param g) ↔
      t = .param g ∨ (∃ s, t = .scalar s ∧ config.target.scalarText s = g) ∨
        ∃ p, t = .named p [] ∧ p.module = c.item.module ∧ Text.upperCamel p.name = g := by
  intro cx
  have item := item_of_mem_plan member
  rw [TargetName.typeText_param]
  have spelled : ∀ p, t = .named p [] → cx.identifierOf p = Text.upperCamel p.name := by
    rintro p rfl
    have referred : p ∈ c.references :=
      Declaration.mem_references.2 ⟨ty', type', SchemaType.mem_references.2 ⟨[], inside⟩⟩
    exact identifierOf_eq config.target.conventions_typeName member referred c.item.module
  constructor
  · intro same
    by_cases short : OneWord cx.module t
    · cases short with
      | scalar s => exact .inr (.inl ⟨s, rfl, by rwa [TargetName.typeText_scalar] at same⟩)
      | param h => exact .inl (by rwa [TargetName.typeText_param, ← SchemaType.param.injEq] at same)
      | @named p home =>
        rw [TargetName.typeText_named _ _ home, spelled p rfl] at same
        exact .inr (.inr ⟨p, rfl, home, same⟩)
    · -- A longer text has a mark, and a parameter has none.
      have wide : t.arity? ≠ some 0 := fun empty => by
        have mentioned : 0 ∈ c.item.declaration.arities :=
          Declaration.mem_arities.2 ⟨ty', type', List.mem_filterMap.2 ⟨t, inside, empty⟩⟩
        exact absurd (two_le_of_mem_arities item mentioned) (by decide)
      have marked := config.target.hasMark_typeText cx wide short
      exact absurd same (marked.ne_identifier (mem_generics_of_param item type occurs).2)
  · rintro (rfl | ⟨s, rfl, same⟩ | ⟨p, rfl, home, same⟩)
    · exact TargetName.typeText_param _ _ _
    · rw [TargetName.typeText_scalar, same]
    · rw [TargetName.typeText_named _ _ home, spelled p rfl, same]

/-- A struct with a parameter and a text. -/
def boxDocument (g : String) : Document :=
  ⟨[.struct ⟨"Box", [g], [⟨"item", .param g, none⟩, ⟨"label", .scalar .string, none⟩], none⟩]⟩

def boxItem (g : String) : SchemaItem :=
  ⟨[], .struct ⟨"Box", [g], [⟨"item", .param g, none⟩, ⟨"label", .scalar .string, none⟩], none⟩⟩

theorem box_typeText_differs :
    let config : Config := { target := .rust }
    let names := runNames config.target.target config (boxDocument "T").resolve
    config.target.typeText ⟨config, names, []⟩ (.scalar .string) ≠
      config.target.typeText ⟨config, names, []⟩ (.param "T") := by
  intro config names
  have item : boxItem "T" ∈ (boxDocument "T").resolve.items := List.mem_of_getElem? (i := 0) rfl
  obtain ⟨c, member, same⟩ : ∃ c ∈ plan config.target.target config names (boxDocument "T").resolve,
      c.item = boxItem "T" := exists_candidate item
  have param : (.param "T" : TypeRef) ∈ c.item.declaration.types := by
    rw [same]
    exact List.mem_of_getElem? (i := 0) rfl
  have text : (.scalar .string : TypeRef) ∈ c.item.declaration.types := by
    rw [same]
    exact List.mem_of_getElem? (i := 1) rfl
  have agree := typeText_param_iff member param List.mem_cons_self text List.mem_cons_self
  rw [same] at agree
  intro equal
  rcases agree.1 equal with param | ⟨s, scalar, spelled⟩ | ⟨p, named, -⟩
  · exact absurd param (by simp)
  · obtain rfl := SchemaType.scalar.inj scalar
    exact absurd spelled (by decide)
  · exact absurd named (by simp)

/-- A parameter with the name of the type of texts: the struct is emitted, and its label is written like its item. -/
theorem box_label_captured :
    let config : Config := { target := .rust }
    let names := runNames Rust.target config (boxDocument "String").resolve
    ∃ c ∈ plan Rust.target config names (boxDocument "String").resolve, c.isReady = true ∧
      .param "String" ∈ c.item.declaration.types ∧ .scalar .string ∈ c.item.declaration.types ∧
      config.target.typeText ⟨config, names, c.item.module⟩ (.scalar .string) =
        config.target.typeText ⟨config, names, c.item.module⟩ (.param "String") := by
  intro config names
  have item : boxItem "String" ∈ (boxDocument "String").resolve.items :=
    List.mem_of_getElem? (i := 0) rfl
  obtain ⟨c, member, same⟩ : ∃ c ∈ plan Rust.target config names (boxDocument "String").resolve,
      c.item = boxItem "String" := exists_candidate item
  have ready : ∀ c ∈ plan Rust.target config names (boxDocument "String").resolve, c.isReady = true := by
    decide +kernel
  refine ⟨c, member, ready c member, ?_, ?_, rfl⟩
  · rw [same]
    exact List.mem_of_getElem? (i := 0) rfl
  · rw [same]
    exact List.mem_of_getElem? (i := 1) rfl

end SchemaBindings
