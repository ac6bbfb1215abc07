import SchemaBindings.Proofs.CamelCase
import SchemaBindings.Proofs.Escalation

/-!
# Qualified names with an underscore

A declared name in `UpperCamel` has no underscore. So if the separator has one, a qualified name is no declared name
and no flat name, and the name of its union can be read off it: it ends where the first underscore of the separator
begins (`join_injective`).

The names of a union's variants are then had by no other declaration, and what is left for it to fail for is its own
name, its own fields and its own variants (`go_failure_iff`).
-/

namespace SchemaBindings

open Declaration

/-! ## Reading a joined name -/

/-- Names without an underscore can be read off what a separator with one makes of them. -/
theorem join_injective {separator owner owner' name name' : String}
    (underscore : '_' ∈ separator.toList) (plain : '_' ∉ owner.toList) (plain' : '_' ∉ owner'.toList)
    (same : owner ++ separator ++ name = owner' ++ separator ++ name') :
    owner = owner' ∧ name = name' := by
  obtain ⟨before, after, split, first⟩ := List.eq_append_cons_of_mem underscore
  -- The first underscore stands where the separator has its first one.
  have lead : ∀ (owner name : String), '_' ∉ owner.toList →
      (owner ++ separator ++ name).toList.takeWhile (· ≠ '_') = owner.toList ++ before := by
    intro owner name plain
    rw [String.toList_append, String.toList_append, split, List.append_assoc, List.append_assoc,
      List.takeWhile_append_of_pos, List.takeWhile_append_of_pos, List.cons_append,
      List.takeWhile_cons_of_neg (by simp), List.append_nil]
    · intro c member
      have other : c ≠ '_' := fun equal => first (equal ▸ member)
      simpa using other
    · intro c member
      have other : c ≠ '_' := fun equal => plain (equal ▸ member)
      simpa using other
  have owners : owner.toList ++ before = owner'.toList ++ before := by
    rw [← lead owner name plain, ← lead owner' name' plain', same]
  obtain rfl : owner = owner' := String.toList_inj.1 (List.append_cancel_right owners)
  exact ⟨rfl, (String.append_right_inj _).1 same⟩

theorem underscore_mem_join {separator : String} (underscore : '_' ∈ separator.toList)
    (owner name : String) : '_' ∈ (owner ++ separator ++ name).toList := by
  rw [String.toList_append, String.toList_append]
  exact List.mem_append_left _ (List.mem_append_right _ underscore)

/-! ## Names of a resolved document -/

theorem names_isIdentifier {document : Document} {i : SchemaItem}
    (item : i ∈ document.resolve.items) :
    isIdentifier i.declaration.name ∧ ∀ v ∈ i.declaration.variantNames, isIdentifier v := by
  obtain ⟨-, d, -, formed, resolves⟩ :=
    (standsIn_resolve_iff document).1 (mem_items_iff.1 item).1
  rw [resolves.name_eq, resolves.variantNames_eq]
  exact ⟨formed.name, formed.variants.identifiers⟩

/-! ## The spellings of Go -/

theorem go_emittedName (d : SchemaDeclaration) :
    emittedName Go.conventions d = Text.upperCamel d.name := by
  cases d <;> rfl

section

variable {document : Document} {i : SchemaItem}

theorem go_emittedName_plain (item : i ∈ document.resolve.items) :
    '_' ∉ (emittedName Go.conventions i.declaration).toList := by
  rw [go_emittedName]
  exact Text.underscore_not_mem_upperCamel (names_isIdentifier item).1

theorem go_flatNamesOf_plain (item : i ∈ document.resolve.items) {name : String}
    (flat : name ∈ flatNamesOf Go.conventions i.declaration) : '_' ∉ name.toList := by
  obtain ⟨v, variant, rfl⟩ := List.mem_map.1 flat
  exact Text.underscore_not_mem_upperCamel ((names_isIdentifier item).2 v variant)

/-- A qualified name of Go is the declared name, the separator and a flat name. -/
theorem go_qualifiedNamesOf (separator : String) (d : SchemaDeclaration) :
    qualifiedNamesOf Go.conventions separator d =
      (flatNamesOf Go.conventions d).map (emittedName Go.conventions d ++ separator ++ ·) := by
  rw [go_emittedName, flatNamesOf, List.map_map]
  rfl

theorem mem_qualifiedNamesOf_go {separator : String} {d : SchemaDeclaration} {name : String}
    (qualified : name ∈ qualifiedNamesOf Go.conventions separator d) :
    ∃ flat, name = emittedName Go.conventions d ++ separator ++ flat := by
  rw [go_qualifiedNamesOf] at qualified
  obtain ⟨flat, -, rfl⟩ := List.mem_map.1 qualified
  exact ⟨flat, rfl⟩

variable {policy : NamingPolicy} {separator : String}

/-- The names of a union's variants are had by no other declaration. -/
theorem go_names_free (reserved : List (String × String)) (unflat : policy ≠ .flat)
    (underscore : '_' ∈ separator.toList) (item : i ∈ document.resolve.items)
    (claims : ClaimsName Go.conventions (document.resolve.itemsOf i.module) i) :
    let table := NameTable.build Go.conventions policy separator reserved document.resolve
    let items := document.resolve.itemsOf i.module
    ∀ name ∈ variantNamesOf Go.conventions policy separator items i,
      ¬ ∃ j ∈ items, HasName Go.conventions table items i j name := by
  rintro table items name chosen ⟨j, among, has⟩
  have item' := (Resolved.mem_itemsOf.1 among).1
  have inside : j.module = i.module := (Resolved.mem_itemsOf.1 among).2
  unfold variantNamesOf at chosen
  by_cases qualifies : Qualifies Go.conventions policy items i
  · rw [if_pos qualifies] at chosen
    obtain ⟨flat, rfl⟩ := mem_qualifiedNamesOf_go chosen
    have joined := underscore_mem_join underscore (emittedName Go.conventions i.declaration) flat
    rcases has with emitted | ⟨before, own, found, variant⟩
    · rw [← emitted] at joined
      exact go_emittedName_plain item' joined
    · rw [variants_eq item' found, inside, variantNamesOf] at variant
      split at variant
      · -- Both names are joined, and the same, so the unions emit the same name.
        obtain ⟨flat', same⟩ := mem_qualifiedNamesOf_go variant
        obtain ⟨owners, -⟩ := join_injective underscore (go_emittedName_plain item)
          (go_emittedName_plain item') same
        exact claims j before owners.symm
      · exact go_flatNamesOf_plain item' variant joined
  · rw [if_neg qualifies] at chosen
    have plain := go_flatNamesOf_plain item chosen
    cases policy with
    | flat => exact unflat rfl
    | qualified => exact qualifies (.inl rfl)
    | auto =>
      have uncrowded : ¬ IsCrowded Go.conventions items i := fun crowded =>
        qualifies (.inr ⟨rfl, crowded⟩)
      obtain ⟨before, own, found, qualified, variant⟩ :=
        (hasName_iff_of_not_isCrowded uncrowded among chosen).1 has
      rw [union_of_variant item' found variant, inside, decide_eq_true_iff] at qualified
      rw [variants_eq item' found, inside, variantNamesOf, if_pos qualified] at variant
      obtain ⟨flat, rfl⟩ := mem_qualifiedNamesOf_go variant
      exact plain (underscore_mem_join underscore _ _)

/-- Two names of a union's variants are the same exactly if their flat names are. -/
theorem go_variantNamesOf_nodup (items : List SchemaItem) :
    (variantNamesOf Go.conventions policy separator items i).Nodup ↔
      (flatNamesOf Go.conventions i.declaration).Nodup := by
  unfold variantNamesOf
  split
  · rw [go_qualifiedNamesOf]
    exact List.nodup_map_iff fun name name' same => (String.append_right_inj _).1 same
  · exact Iff.rfl

/-- Two names of a union's variants that are the same are qualified. -/
theorem qualified_of_repeated (unflat : policy ≠ .flat) {items : List SchemaItem} {name : String}
    (twice : 2 ≤ (variantNamesOf Go.conventions policy separator items i).count name) :
    2 ≤ (qualifiedNamesOf Go.conventions separator i.declaration).count name := by
  unfold variantNamesOf at twice
  split at twice
  · exact twice
  · next unqualified =>
    cases policy with
    | flat => exact absurd rfl unflat
    | qualified => exact absurd (.inl rfl) unqualified
    | auto =>
      have single := flatNamesOf_nodup fun crowded => unqualified (.inr ⟨rfl, crowded⟩)
      have once := List.nodup_iff_count_le_one.1 single name
      omega

/-- If the separator has an underscore and names are not flat, a union of Go fails exactly if a declaration in front of
it emits its name, two fields of one of its variants have a spelling in common, or two of its variants have the same
`UpperCamel` name. The fault names the declaration in front, a field of the union, or the union itself. -/
theorem go_failure_iff (document : Document) {policy : NamingPolicy} (unflat : policy ≠ .flat)
    {separator : String} (underscore : '_' ∈ separator.toList) (reserved : List (String × String))
    {i : SchemaItem} (item : i ∈ document.resolve.items) {u : Union TypeRef}
    (declared : i.declaration = .union u) :
    let table := NameTable.build Go.conventions policy separator reserved document.resolve
    let before := itemsBefore i.path (document.resolve.itemsOf i.module)
    let own := Text.upperCamel u.name
    ((∃ fault, table.get? i.path = some (.error fault)) ↔
      (∃ j ∈ before, emittedName Go.conventions j.declaration = own) ∨
        (∃ v ∈ u.variants, ¬ v.fields.Pairwise (FieldsDiffer Go.conventions)) ∨
        ¬ (u.variants.map fun v => Text.upperCamel v.name).Nodup) ∧
      ∀ fault, table.get? i.path = some (.error fault) →
        (∃ j ∈ before, emittedName Go.conventions j.declaration = own ∧
          fault = .namingCollision own j.path.text) ∨
        (∃ v ∈ u.variants, ∃ f ∈ v.fields, ∃ name,
          fault = .namingCollision name (fieldLabel (i.path.text ++ "." ++ v.name) f)) ∨
        ∃ name, 2 ≤ (u.variants.map fun v => own ++ separator ++ Text.upperCamel v.name).count name ∧
          fault = .namingCollision name i.path.text := by
  intro table before own
  have emits : emittedName Go.conventions i.declaration = own := by
    rw [go_emittedName, declared]
    rfl
  have flat : flatNamesOf Go.conventions i.declaration =
      u.variants.map fun v => Text.upperCamel v.name := by
    rw [declared, flatNamesOf_union]
    rfl
  have qualified : qualifiedNamesOf Go.conventions separator i.declaration =
      u.variants.map fun v => own ++ separator ++ Text.upperCamel v.name := by
    rw [go_qualifiedNamesOf, emits, flat, List.map_map]
    rfl
  by_cases claims : ClaimsName Go.conventions (document.resolve.itemsOf i.module) i
  · have free := go_names_free reserved unflat underscore item claims
    have first : ¬ ∃ j ∈ before, emittedName Go.conventions j.declaration = own := by
      rintro ⟨j, member, same⟩
      exact claims j member (same.trans emits.symm)
    constructor
    · have fails : (∃ fault, table.get? i.path = some (.error fault)) ↔ ¬ (_ ∧ _ ∧ _) :=
        get?_union_fails_iff policy separator reserved item declared claims
      rw [fails, go_variantNamesOf_nodup, flat, and_iff_left free, not_and_or, or_iff_right first]
      simp only [not_forall, exists_prop]
    · intro fault failed
      cases get?_union_eq_error item declared claims failed with
      | @field v f g k name member sublist =>
        have field := sublist.subset List.mem_cons_self
        exact .inr (.inl ⟨v, member, f, field, name, rfl⟩)
      | taken chosen among has => exact absurd ⟨_, among, has⟩ (free _ chosen)
      | @repeated name twice =>
        have twice := qualified_of_repeated unflat twice
        rw [qualified] at twice
        exact .inr (.inr ⟨name, twice, rfl⟩)
  · obtain ⟨j, member, same, failed⟩ :=
      get?_of_not_claimsName policy separator reserved item claims
    rw [emits] at same failed
    refine ⟨iff_of_true ⟨_, failed⟩ (.inl ⟨j, member, same⟩), fun fault failed' => ?_⟩
    cases failed.symm.trans failed'
    exact .inl ⟨j, member, same, rfl⟩

end

theorem crossing_third_named :
    ¬ ∃ fault, (NameTable.build Go.conventions .auto "_" [] crossingDocument.resolve).get?
      ⟨["Third"]⟩ = some (.error fault) := by
  have unflat : NamingPolicy.auto ≠ .flat := by decide
  have underscore : '_' ∈ "_".toList := by decide
  obtain ⟨fails, -⟩ := go_failure_iff crossingDocument unflat underscore []
    crossing_third rfl
  intro failed
  rcases fails.1 failed with first | ⟨v, member, collide⟩ | repeated
  · exact absurd first (by decide +kernel)
  · exact collide (plainUnion_fields_differ _ _ _ v member)
  · exact absurd repeated (by decide +kernel)

end SchemaBindings
