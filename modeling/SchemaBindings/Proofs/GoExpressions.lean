import SchemaBindings.Proofs.GoImports
import SchemaBindings.Proofs.GoTexts

/-!
# Go type expressions

A type is written as a type expression (`TypeExpression.ofType`), and its text is that of the expression
(`TypeExpression.text_ofType`). In an expression it is plain which packages it uses, since a name of another package
says so.

An expression uses exactly the packages that its type mentions (`TypeExpression.mem_packages_iff`): `math/big` for
integers of 128 bits, and the modules of references and of tuples, at any depth, unless they are the module in which
the type stands.
-/

namespace SchemaBindings.Go

/-! ## What a type mentions -/

/-- The type mentions the package in the module `m`. -/
inductive Mentioned (m : ModulePath) : TypeRef → Package → Prop
  /-- Integers of 128 bits have no type of their own. -/
  | integer {s : Scalar} (wide : s = .u128 ∨ s = .i128) : Mentioned m (.scalar s) .big
  | reference {p : SchemaPath} (outside : p.module ≠ m) (arguments : List TypeRef) :
      Mentioned m (.named p arguments) (.module p.module)
  | tuple (outside : tuplesModule ≠ m) (elements : List TypeRef) : Mentioned m (.tuple elements) (.module tuplesModule)
  | inside {t u : TypeRef} {p : Package} (child : u ∈ t.children) (mentioned : Mentioned m u p) : Mentioned m t p

section

variable {m : ModulePath} {t : TypeRef} {p : Package}

theorem modulePackage?_of_ne {n : ModulePath} (outside : n ≠ m) : modulePackage? m n = some (.module n) :=
  if_neg outside

/-- What a type needs by itself it mentions. -/
theorem Mentioned.of_typePackage? (needed : typePackage? m t = some p) : Mentioned m t p := by
  cases t with
  | scalar s =>
    have wide : s = .u128 ∨ s = .i128 := by
      by_contra narrow
      rw [typePackage?, scalarPackage?, if_neg narrow] at needed
      cases needed
    obtain ⟨rfl, -⟩ := scalarPackage?_eq_some needed
    exact .integer wide
  | tuple elements =>
    obtain ⟨outside, rfl⟩ := modulePackage?_eq_some needed
    exact .tuple outside elements
  | named path arguments =>
    obtain ⟨outside, rfl⟩ := modulePackage?_eq_some needed
    exact .reference outside arguments
  | _ => exact absurd needed (by simp [typePackage?])

/-- A type mentions what one of the types inside it needs. -/
theorem mentioned_iff : Mentioned m t p ↔ ∃ u ∈ t.walk, typePackage? m u = some p := by
  constructor
  · intro mentioned
    induction mentioned with
    | integer wide => exact ⟨_, SchemaType.mem_walk_iff.2 (.inl rfl), if_pos wide⟩
    | reference outside arguments => exact ⟨_, SchemaType.mem_walk_iff.2 (.inl rfl), modulePackage?_of_ne outside⟩
    | tuple outside elements => exact ⟨_, SchemaType.mem_walk_iff.2 (.inl rfl), modulePackage?_of_ne outside⟩
    | inside child mentioned ih =>
      obtain ⟨u, walked, needed⟩ := ih
      exact ⟨u, SchemaType.mem_walk_iff.2 (.inr ⟨_, child, walked⟩), needed⟩
  · rintro ⟨u, walked, needed⟩
    induction t using SchemaType.children_induction with
    | step t ih =>
      rcases SchemaType.mem_walk_iff.1 walked with rfl | ⟨v, child, walked⟩
      · exact .of_typePackage? needed
      · exact .inside child (ih v child walked)

theorem needs_iff_mentioned {ts : List TypeRef} : Needs m ts p ↔ ∃ t ∈ ts, Mentioned m t p := by
  simp only [Needs, mentioned_iff]

end

/-! ## Expressions -/

inductive TypeExpression where
  /-- A name with its arguments, and the package that declares it if that is another one. -/
  | named (package? : Option Package) (name : String) (arguments : List TypeExpression)
  | pointer (item : TypeExpression)
  | slice (item : TypeExpression)
  | array (length : Nat) (item : TypeExpression)
  | map (key value : TypeExpression)
  | emptyStruct

namespace TypeExpression

/-- What stands in front of a name of the package. -/
def qualification (config : Config) : Option Package → String
  | none => ""
  | some p => p.qualifier config ++ "."

mutual

def text (config : Config) : TypeExpression → String
  | named package? name arguments =>
    qualification config package? ++ name ++ typeArguments (texts config arguments)
  | pointer item => "*" ++ item.text config
  | slice item => "[]" ++ item.text config
  | array length item => "[" ++ toString length ++ "]" ++ item.text config
  | map key value => "map[" ++ key.text config ++ "]" ++ value.text config
  | emptyStruct => "struct\x7b\x7d"

def texts (config : Config) : List TypeExpression → List String
  | [] => []
  | e :: es => e.text config :: texts config es

end

mutual

def packages : TypeExpression → List Package
  | named package? _ arguments => package?.toList ++ packagesAll arguments
  | pointer item | slice item | array _ item => item.packages
  | map key value => key.packages ++ value.packages
  | emptyStruct => []

def packagesAll : List TypeExpression → List Package
  | [] => []
  | e :: es => e.packages ++ packagesAll es

end

def ofScalar : Scalar → TypeExpression
  | .u128 | .i128 => pointer (named (some .big) "Int" [])
  | .bytes => slice (named none "byte" [])
  | s => named none (scalarText s) []

mutual

def ofType (cx : RenderContext) : TypeRef → TypeExpression
  | .scalar s => ofScalar s
  | .tuple elements =>
    named (modulePackage? cx.module tuplesModule) (tupleName elements.length) (ofTypes cx elements)
  | .list item => slice (ofType cx item)
  | .array item length => array length (ofType cx item)
  | .option item => pointer (ofType cx item)
  | .map key value => map (ofType cx key) (ofType cx value)
  | .hashSet item => map (ofType cx item) emptyStruct
  | .named path arguments =>
    named (modulePackage? cx.module path.module) (cx.identifierOf path) (ofTypes cx arguments)
  | .param g => named none g []

def ofTypes (cx : RenderContext) : List TypeRef → List TypeExpression
  | [] => []
  | t :: ts => ofType cx t :: ofTypes cx ts

end

theorem qualification_modulePackage? (cx : RenderContext) (n : ModulePath) :
    qualification cx.config (modulePackage? cx.module n) = qualifier cx n := by
  unfold modulePackage? qualifier
  split <;> rfl

theorem text_ofScalar (config : Config) (s : Scalar) : (ofScalar s).text config = scalarText s := by
  cases s <;> rfl

theorem packages_ofScalar (s : Scalar) : (ofScalar s).packages = (scalarPackage? s).toList := by
  cases s <;> rfl

mutual

/-- A type is written as its expression. -/
theorem text_ofType (cx : RenderContext) : ∀ t : TypeRef, (ofType cx t).text cx.config = typeText cx t
  | .scalar s => text_ofScalar cx.config s
  | .tuple elements => by
    rw [ofType, text, qualification_modulePackage?, texts_ofTypes cx elements, typeText]
  | .list item => by rw [ofType, text, text_ofType cx item, typeText]
  | .array item length => by rw [ofType, text, text_ofType cx item, typeText]
  | .option item => by rw [ofType, text, text_ofType cx item, typeText]
  | .map key value => by rw [ofType, text, text_ofType cx key, text_ofType cx value, typeText]
  | .hashSet item => by
    rw [ofType, text, text_ofType cx item, typeText, text, String.append_assoc, String.append_assoc,
      String.append_assoc]
    rfl
  | .named path arguments => by
    rw [ofType, text, qualification_modulePackage?, texts_ofTypes cx arguments, typeText]
  | .param g => by
    rw [ofType, text, texts, qualification, String.empty_append]
    exact String.append_empty

theorem texts_ofTypes (cx : RenderContext) : ∀ ts : List TypeRef, texts cx.config (ofTypes cx ts) = typeTexts cx ts
  | [] => rfl
  | t :: ts => by rw [ofTypes, texts, text_ofType cx t, texts_ofTypes cx ts, typeTexts]

end

theorem ofTypes_eq_map (cx : RenderContext) (ts : List TypeRef) : ofTypes cx ts = ts.map (ofType cx) := by
  induction ts with
  | nil => rfl
  | cons t ts ih => rw [ofTypes, ih, List.map_cons]

theorem mem_packagesAll {es : List TypeExpression} {p : Package} :
    p ∈ packagesAll es ↔ ∃ e ∈ es, p ∈ e.packages := by
  induction es with
  | nil => simp [packagesAll]
  | cons e es ih => rw [packagesAll, List.mem_append, ih, List.exists_mem_cons_iff]

/-- The packages in an expression are that of the type itself and those of its parts. -/
theorem mem_packages_ofType {cx : RenderContext} {t : TypeRef} {p : Package} :
    p ∈ (ofType cx t).packages ↔
      typePackage? cx.module t = some p ∨ ∃ u ∈ t.children, p ∈ (ofType cx u).packages := by
  have all : ∀ ts, p ∈ packagesAll (ofTypes cx ts) ↔ ∃ u ∈ ts, p ∈ (ofType cx u).packages := by
    intro ts
    simp only [mem_packagesAll, ofTypes_eq_map, List.mem_map, exists_exists_and_eq_and]
  cases t with
  | scalar s => simp [ofType, packages_ofScalar, typePackage?, SchemaType.children]
  | tuple elements | named path arguments =>
    rw [ofType, packages, List.mem_append, Option.mem_toList, all]
    rfl
  | map key value => simp [ofType, packages, typePackage?, SchemaType.children]
  | list item | array item length | option item | hashSet item =>
    simp [ofType, packages, typePackage?, SchemaType.children]
  | param g => simp [ofType, packages, packagesAll, typePackage?, SchemaType.children]

/-- An expression uses the packages that its type mentions. -/
theorem mem_packages_iff {cx : RenderContext} {t : TypeRef} {p : Package} :
    p ∈ (ofType cx t).packages ↔ Mentioned cx.module t p := by
  constructor
  · intro used
    induction t using SchemaType.children_induction with
    | step t ih =>
      rcases mem_packages_ofType.1 used with needed | ⟨u, child, used⟩
      · exact .of_typePackage? needed
      · exact .inside child (ih u child used)
  · intro mentioned
    induction mentioned with
    | integer wide => exact mem_packages_ofType.2 (.inl (if_pos wide))
    | reference outside _ | tuple outside _ => exact mem_packages_ofType.2 (.inl (modulePackage?_of_ne outside))
    | inside child _ ih => exact mem_packages_ofType.2 (.inr ⟨_, child, ih⟩)

end TypeExpression

end SchemaBindings.Go
