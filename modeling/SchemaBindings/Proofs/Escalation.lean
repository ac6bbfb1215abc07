import SchemaBindings.Proofs.UnionEntries
import SchemaBindings.Target.Go

/-!
# Escalation to qualified names

What the automatic policy makes of a union that has its own name and whose fields differ.

* In a crowded module the union is qualified, and it fails exactly if its qualified names collide.
* Where it is not crowded the union stays flat. The choice looks at declared names and at flat names, so one name can
  still be taken: a union in front has got it as a qualified name (`hasName_iff_of_not_isCrowded`). Then the union fails
  for a flat name, whether or not its qualified names are free (`automatic_failure_iff`).
-/

namespace SchemaBindings

open Declaration

section

variable {conventions : Conventions} {separator : String} {items : List SchemaItem} {i : SchemaItem}

theorem variantNamesOf_of_isCrowded (crowded : IsCrowded conventions items i) :
    variantNamesOf conventions .auto separator items i =
      qualifiedNamesOf conventions separator i.declaration := by
  unfold variantNamesOf
  rw [if_pos (.inr ⟨rfl, crowded⟩)]

theorem variantNamesOf_of_not_isCrowded (uncrowded : ¬ IsCrowded conventions items i) :
    variantNamesOf conventions .auto separator items i = flatNamesOf conventions i.declaration := by
  unfold variantNamesOf
  rw [if_neg]
  rintro (forced | ⟨-, crowded⟩)
  · exact absurd forced (by simp)
  · exact uncrowded crowded

theorem flatNamesOf_nodup (uncrowded : ¬ IsCrowded conventions items i) :
    (flatNamesOf conventions i.declaration).Nodup := by
  refine List.nodup_iff_count_le_one.2 fun name => ?_
  by_contra twice
  have flat : name ∈ flatNamesOf conventions i.declaration := List.count_pos_iff.1 (by omega)
  exact uncrowded ⟨name, flat, .inr (.inl (by omega))⟩

end

/-- The item `j` stands in front of the union `i`, and the name is a qualified name that it has got. -/
def HasQualifiedName (table : NameTable) (items : List SchemaItem) (i j : SchemaItem) (name : String) :
    Prop :=
  j ∈ itemsBefore i.path items ∧
    ∃ own, table.get? j.path = some (.ok own) ∧ own.qualified = true ∧ name ∈ own.variants

section

variable {conventions : Conventions} {separator : String} {reserved : List (String × String)}
  {document : Document} {i : SchemaItem}

/-- A flat name that is in use nowhere else can only be taken by a qualified one. -/
theorem hasName_iff_of_not_isCrowded
    (uncrowded : ¬ IsCrowded conventions (document.resolve.itemsOf i.module) i) {j : SchemaItem}
    (among : j ∈ document.resolve.itemsOf i.module) {name : String}
    (flat : name ∈ flatNamesOf conventions i.declaration) :
    let table := NameTable.build conventions .auto separator reserved document.resolve
    let items := document.resolve.itemsOf i.module
    HasName conventions table items i j name ↔ HasQualifiedName table items i j name := by
  intro table items
  constructor
  · rintro (emitted | ⟨before, own, found, variant⟩)
    · exact absurd ⟨name, flat, .inl ⟨j, among, emitted⟩⟩ uncrowded
    · obtain ⟨item', inside⟩ := Resolved.mem_itemsOf.1 among
      have claims := claimsName_of_get? item' found
      have qualified := union_of_variant item' found variant
      have variants := variants_eq item' found
      rw [inside] at claims variants qualified
      refine ⟨before, own, found, ?_, variant⟩
      -- Were the union in front flat, the name would be a flat name of both.
      by_contra unqualified
      have uncrowded' : ¬ IsCrowded conventions items j := fun crowded =>
        unqualified (qualified.trans (decide_eq_true (.inr ⟨rfl, crowded⟩)))
      rw [variants, variantNamesOf_of_not_isCrowded uncrowded'] at variant
      exact uncrowded ⟨name, flat,
        .inr (.inr ⟨j, among, path_ne_of_mem_itemsBefore before, claims, variant⟩)⟩
  · rintro ⟨before, own, found, -, variant⟩
    exact .inr ⟨before, own, found, variant⟩

/-- A fault of a union with its own name and with fields that differ is about one of the names it is to take. -/
theorem fault_of_fields_differ {table : NameTable} {items : List SchemaItem} {u : Union TypeRef}
    {names : List String} {fault : Fault}
    (differ : ∀ v ∈ u.variants, v.fields.Pairwise (FieldsDiffer conventions))
    (failed : UnionFault conventions table items i u names fault) :
    ∃ name takenBy, fault = .namingCollision name takenBy ∧
      ((∃ j ∈ items, HasName conventions table items i j name ∧ takenBy = j.path.text) ∧ name ∈ names ∨
        2 ≤ names.count name ∧ takenBy = i.path.text) := by
  cases failed with
  | @field v f g k name member sublist spelled spelled' =>
    have apart := List.pairwise_iff_forall_sublist.1 (differ v member) sublist
    exact absurd spelled' (apart k name spelled)
  | taken chosen among has => exact ⟨_, _, rfl, .inl ⟨⟨_, among, has, rfl⟩, chosen⟩⟩
  | repeated twice => exact ⟨_, _, rfl, .inr ⟨twice, rfl⟩⟩

/-- A union with its own name whose fields differ fails under the automatic policy in two cases. In a crowded module its
qualified names collide, with each other or with a name that an item has. Where it is not crowded, a union in front has
got one of its flat names as a qualified name. The fault names such a name and who has it. -/
theorem automatic_failure_iff (document : Document) (conventions : Conventions) (separator : String)
    (reserved : List (String × String)) {i : SchemaItem} (item : i ∈ document.resolve.items)
    {u : Union TypeRef} (declared : i.declaration = .union u)
    (claims : ClaimsName conventions (document.resolve.itemsOf i.module) i)
    (differ : ∀ v ∈ u.variants, v.fields.Pairwise (FieldsDiffer conventions)) :
    let table := NameTable.build conventions .auto separator reserved document.resolve
    let items := document.resolve.itemsOf i.module
    let flat := flatNamesOf conventions i.declaration
    let qualified := qualifiedNamesOf conventions separator i.declaration
    ((∃ fault, table.get? i.path = some (.error fault)) ↔
      IsCrowded conventions items i ∧ (¬ qualified.Nodup ∨
          ∃ name ∈ qualified, ∃ j ∈ items, HasName conventions table items i j name) ∨
        ¬ IsCrowded conventions items i ∧
          ∃ name ∈ flat, ∃ j ∈ items, HasQualifiedName table items i j name) ∧
      ∀ fault, table.get? i.path = some (.error fault) →
        ∃ name takenBy, fault = .namingCollision name takenBy ∧
          (IsCrowded conventions items i ∧ name ∈ qualified ∨
            ¬ IsCrowded conventions items i ∧ name ∈ flat ∧
              ∃ j ∈ items, HasQualifiedName table items i j name ∧ takenBy = j.path.text) := by
  intro table items flat qualified
  have fails : (∃ fault, table.get? i.path = some (.error fault)) ↔ ¬ (_ ∧ _ ∧ _) :=
    get?_union_fails_iff .auto separator reserved item declared claims
  by_cases crowded : IsCrowded conventions items i
  · have names : variantNamesOf conventions .auto separator items i = qualified :=
      variantNamesOf_of_isCrowded crowded
    constructor
    · rw [fails, names]
      simp only [crowded, true_and, not_true, false_and, or_false]
      rw [and_iff_right differ, not_and_or]
      simp only [not_forall, not_not, exists_prop]
      exact Iff.rfl
    · intro fault failed
      have cause := get?_union_eq_error item declared claims failed
      rw [names] at cause
      obtain ⟨name, takenBy, rfl, ⟨-, chosen⟩ | ⟨twice, -⟩⟩ := fault_of_fields_differ differ cause
      · exact ⟨name, takenBy, rfl, .inl ⟨crowded, chosen⟩⟩
      · exact ⟨name, takenBy, rfl, .inl ⟨crowded, List.count_pos_iff.1 (by omega)⟩⟩
  · have names : variantNamesOf conventions .auto separator items i = flat :=
      variantNamesOf_of_not_isCrowded crowded
    have single : flat.Nodup := flatNamesOf_nodup crowded
    constructor
    · rw [fails, names]
      simp only [crowded, false_and, not_false_eq_true, true_and, false_or]
      rw [and_iff_right differ, and_iff_right single]
      simp only [not_forall, not_not, exists_prop]
      refine exists_congr fun name => and_congr_right fun chosen => exists_congr fun j => ?_
      exact and_congr_right fun among => hasName_iff_of_not_isCrowded crowded among chosen
    · intro fault failed
      have cause := get?_union_eq_error item declared claims failed
      rw [names] at cause
      obtain ⟨name, takenBy, rfl, ⟨⟨j, among, has, rfl⟩, chosen⟩ | ⟨twice, -⟩⟩ :=
        fault_of_fields_differ differ cause
      · have qualified := (hasName_iff_of_not_isCrowded crowded among chosen).1 has
        exact ⟨name, _, rfl, .inr ⟨crowded, chosen, j, among, qualified, rfl⟩⟩
      · have once := List.nodup_iff_count_le_one.1 single name
        omega

end

/-! ## A flat name that is taken -/

/-- A union whose variants have no fields. -/
def plainUnion {τ : Type} (name : String) (variants : List String) : Union τ :=
  ⟨name, [], variants.map fun v => ⟨v, [], none⟩, none⟩

theorem plainUnion_fields_differ (conventions : Conventions) (name : String)
    (variants : List String) :
    ∀ v ∈ (plainUnion name variants).variants, v.fields.Pairwise (FieldsDiffer conventions) := by
  intro v member
  obtain ⟨n, -, rfl⟩ := List.mem_map.1 member
  exact .nil

/-- The first union is qualified because of the second, and then has the flat name of the third if nothing separates the
parts of a qualified name. -/
def crossingDocument : Document :=
  ⟨[.union (plainUnion "Sample" ["Variant1"]), .union (plainUnion "Other" ["Variant1"]),
    .union (plainUnion "Third" ["SampleVariant1"])]⟩

def crossingUnions : List SchemaItem :=
  [⟨[], .union (plainUnion "Sample" ["Variant1"])⟩, ⟨[], .union (plainUnion "Other" ["Variant1"])⟩,
    ⟨[], .union (plainUnion "Third" ["SampleVariant1"])⟩]

theorem crossing_items : crossingDocument.resolve.items = crossingUnions := rfl

theorem crossing_third : (⟨[], .union (plainUnion "Third" ["SampleVariant1"])⟩ : SchemaItem) ∈
    crossingDocument.resolve.items := by
  rw [crossing_items]
  simp [crossingUnions]

theorem crossing_third_fails :
    ∃ name takenBy, (NameTable.build Go.conventions .auto "" [] crossingDocument.resolve).get?
      ⟨["Third"]⟩ = some (.error (.namingCollision name takenBy)) := by
  obtain ⟨fails, faults⟩ := automatic_failure_iff crossingDocument Go.conventions "" []
    crossing_third rfl
    (by decide +kernel) (plainUnion_fields_differ _ _ _)
  have first : (⟨[], .union (plainUnion "Sample" ["Variant1"])⟩ : SchemaItem) ∈
      itemsBefore ⟨["Third"]⟩ (crossingDocument.resolve.itemsOf []) := by
    show _ ∈ crossingUnions.take 2
    simp [crossingUnions]
  have uncrowded : ¬ IsCrowded Go.conventions (crossingDocument.resolve.itemsOf [])
      ⟨[], .union (plainUnion "Third" ["SampleVariant1"])⟩ := by
    decide +kernel
  obtain ⟨fault, failed⟩ := fails.2 (.inr ⟨uncrowded, "SampleVariant1", by decide +kernel, _,
    mem_of_mem_itemsBefore first, first, ⟨"Sample", ["SampleVariant1"], true⟩, by decide +kernel, rfl,
    by simp⟩)
  obtain ⟨name, takenBy, rfl, -⟩ := faults fault failed
  exact ⟨name, takenBy, failed⟩

/-- The third union fails for its flat name, although its qualified name is free. -/
theorem crossing_flat_name_taken :
    let table := NameTable.build Go.conventions .auto "" [] crossingDocument.resolve
    let items := crossingDocument.resolve.itemsOf []
    items = crossingUnions ∧
      (∀ i ∈ items, ClaimsName Go.conventions items i) ∧
      flatNamesOf Go.conventions (.union (plainUnion "Third" ["SampleVariant1"])) = ["SampleVariant1"] ∧
      table.get? ⟨["Third"]⟩ = some (.error (.namingCollision "SampleVariant1" "Sample")) ∧
      qualifiedNamesOf Go.conventions "" (.union (plainUnion "Third" ["SampleVariant1"])) =
        ["ThirdSampleVariant1"] ∧
      (∀ j ∈ items, emittedName Go.conventions j.declaration ≠ "ThirdSampleVariant1") ∧
      "ThirdSampleVariant1" ∉ table.entries.flatMap entryNames := by
  refine ⟨rfl, ?_⟩
  decide +kernel

end SchemaBindings
