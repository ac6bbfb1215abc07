import SchemaBindings.Proofs.GoFiles
import SchemaBindings.Proofs.TypeUses

/-!
# Names of emitted types

A struct and a union are called by the `UpperCamel` spelling of their name, and so is a variant, with the name of its
union in front if it is qualified (`TargetName.variants_eq`). Such a name begins with a capital and is made of identifier
characters, and the generics of a declaration are distinct identifiers.
-/

namespace SchemaBindings

/-! ## Spellings -/

def IsCapitalized (name : String) : Prop :=
  ∃ c rest, name.toList = c :: rest ∧ c.isUpper = true

theorem isCapitalized_upperCamel {name : String} (identifier : isIdentifier name) :
    IsCapitalized (Text.upperCamel name) :=
  Text.upperCamel_head identifier

theorem IsCapitalized.append {name : String} (capital : IsCapitalized name) (rest : String) :
    IsCapitalized (name ++ rest) := by
  obtain ⟨c, tail, chars, upper⟩ := capital
  exact ⟨c, tail ++ rest.toList, by rw [String.toList_append, chars, List.cons_append], upper⟩

/-- Parameters of Go begin with no capital. -/
theorem IsCapitalized.ne_parameterName {name field : String} (capital : IsCapitalized name)
    (identifier : isIdentifier field) : name ≠ Go.parameterName field := by
  obtain ⟨c, tail, chars, upper⟩ := capital
  obtain ⟨d, rest, small, lower⟩ := Text.lowerCamel_head identifier
  have head : ∃ rest, (Go.parameterName field).toList = d :: rest := by
    unfold Go.parameterName Go.escape
    split
    · exact ⟨rest ++ "_".toList, by rw [String.toList_append, small, List.cons_append]⟩
    · exact ⟨rest, small⟩
  rintro rfl
  obtain ⟨rest', chars'⟩ := head
  obtain rfl := (List.cons.inj (chars.symm.trans chars')).1
  exact absurd upper (by rw [lower]; exact Bool.noConfusion)

theorem Go.isName_of_isIdentifier {name : String} (identifier : isIdentifier name) : Go.IsName name where
  inside := fun _ => Text.isIdentifierChar_of_mem identifier
  nonempty := by
    obtain ⟨c, rest, letters, -⟩ := Text.isIdentifier_cons identifier
    rintro rfl
    exact absurd letters (by simp)

theorem zip_variants {u : Union TypeRef} (nameOf : Variant TypeRef → String) :
    u.variants.zip (u.variants.map nameOf) = u.variants.map fun v => (v, nameOf v) := by
  have paired := List.zip_map' (f := id) (g := nameOf) (l := u.variants)
  rwa [List.map_id] at paired

section

variable (target : TargetName)

theorem TargetName.typeName_eq : target.target.conventions.typeName = Text.upperCamel := by
  cases target <;> rfl

theorem TargetName.isCapitalized_variantName {separator owner variant : String} (identifier : isIdentifier owner)
    (identifier' : isIdentifier variant) (qualified : Bool) :
    IsCapitalized (target.target.conventions.variantName separator owner qualified variant) := by
  rw [Conventions.variantName, Conventions.qualifiedName, target.typeName_eq]
  split
  · exact ((isCapitalized_upperCamel identifier).append _).append _
  · exact isCapitalized_upperCamel identifier'

/-! ## Names in the table -/

variable {document : Document} {config : Config} {i : SchemaItem} {u : Union TypeRef} {own : DeclarationNames}

def TargetName.variantName (config : Config) (u : Union TypeRef) (own : DeclarationNames) (v : Variant TypeRef) :
    String :=
  target.target.conventions.variantName config.separator u.name own.qualified v.name

/-- The type of a variant with the generics that it uses. -/
def TargetName.variantUse (config : Config) (u : Union TypeRef) (own : DeclarationNames) (v : Variant TypeRef) :
    TypeUse :=
  ⟨target.variantName config u own v, v.usedGenerics u.generics⟩

theorem TargetName.variants_eq (item : i ∈ document.resolve.items) (declared : i.declaration = .union u)
    (found : (runNames target.target config document.resolve).get? i.path = some (.ok own)) :
    own.variants = u.variants.map (target.variantName config u own) := by
  rw [variants_eq_map item found, declared]
  exact List.map_map

/-- The name of a type begins with a capital and is made of identifier characters, and its arguments are distinct and
made of such characters too. -/
structure TypeUse.Declared (t : TypeUse) : Prop where
  named : t.Named
  capitalized : IsCapitalized t.name
  distinct : t.arguments.Nodup

theorem generics_nodup (item : i ∈ document.resolve.items) : i.declaration.generics.Nodup := by
  obtain ⟨-, d, -, formed, resolves⟩ := (standsIn_resolve_iff document).1 (Declaration.mem_items_iff.1 item).1
  rw [resolves.generics_eq]
  exact formed.generics.nodup

theorem isName_generic (item : i ∈ document.resolve.items) : ∀ g ∈ i.declaration.generics, Go.IsName g :=
  fun _ generic => Go.isName_of_isIdentifier (isIdentifier_generic item generic)

/-- A declaration that is called by the name of a type has the form of one. -/
theorem declared_of_name (item : i ∈ document.resolve.items) {name : String}
    (spelled : name = Text.upperCamel i.declaration.name) : TypeUse.Declared ⟨name, i.declaration.generics⟩ := by
  have identifier := isIdentifier_name item
  subst spelled
  exact ⟨⟨Go.isName_upperCamel identifier, isName_generic item⟩, isCapitalized_upperCamel identifier,
    generics_nodup item⟩

theorem TargetName.declared_union (item : i ∈ document.resolve.items) (declared : i.declaration = .union u)
    (found : (runNames target.target config document.resolve).get? i.path = some (.ok own)) :
    TypeUse.Declared ⟨own.identifier, u.generics⟩ := by
  have spelled : own.identifier = Text.upperCamel i.declaration.name := by
    rw [identifier_eq item found, declared]
    exact congrFun target.typeName_eq _
  have whole := declared_of_name item spelled
  rwa [declared] at whole

theorem TargetName.declared_variantUse (valid : config.validate = .ok ()) (item : i ∈ document.resolve.items)
    (declared : i.declaration = .union u) {v : Variant TypeRef} (variant : v ∈ u.variants) :
    (target.variantUse config u own v).Declared := by
  have separator := (names_of_validate valid).1
  have owner := isIdentifier_name item
  have generics := isName_generic item
  have distinct := generics_nodup item
  have name : isIdentifier v.name :=
    isIdentifier_variantName item (by rw [declared]; exact List.mem_map_of_mem variant)
  rw [declared] at owner generics distinct
  refine ⟨⟨?_, fun g used => generics g (List.mem_filter.1 used).1⟩,
    target.isCapitalized_variantName owner name own.qualified, distinct.filter _⟩
  cases target with
  | go => exact Go.isName_variantName separator owner name own.qualified
  | rust => exact Go.isName_variantName separator owner name own.qualified

end

end SchemaBindings
