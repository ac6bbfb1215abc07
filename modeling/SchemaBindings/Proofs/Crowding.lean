import SchemaBindings.Proofs.VariantNames

/-!
# Crowded names

Under the automatic policy a union has qualified names if its module is crowded for it: one of its flat names is in use
otherwise (`IsCrowded`).

* The unions of a module that are named one after the other are those with a name of their own (`unionsFrom`).
* The choice between the two ways of naming counts a flat name in the module, and it is counted once exactly if it is in
  use nowhere else (`occurrencesIn_ne_one_iff`). So the choice is `Qualifies`, and the names are `variantNamesOf`.
-/

namespace SchemaBindings

open Declaration

/-! ## The choice -/

def flatNamesOf (conventions : Conventions) (d : SchemaDeclaration) : List String :=
  d.variantNames.map conventions.typeName

/-- A flat name of the item is in use otherwise: an item of the module emits it, or it is the flat name of another
variant, of the item or of another union that has got its own name. -/
def IsCrowded (conventions : Conventions) (items : List SchemaItem) (i : SchemaItem) : Prop :=
  ∃ name ∈ flatNamesOf conventions i.declaration,
    (∃ j ∈ items, emittedName conventions j.declaration = name) ∨
      2 ≤ (flatNamesOf conventions i.declaration).count name ∨
      ∃ j ∈ items, j.path ≠ i.path ∧ ClaimsName conventions items j ∧
        name ∈ flatNamesOf conventions j.declaration

instance (conventions : Conventions) (items : List SchemaItem) (i : SchemaItem) :
    Decidable (IsCrowded conventions items i) :=
  inferInstanceAs (Decidable (∃ name ∈ flatNamesOf conventions i.declaration, _ ∨ _ ∨ _))

/-- Whether the variants of an item carry the name of their union. -/
def Qualifies (conventions : Conventions) (policy : NamingPolicy) (items : List SchemaItem)
    (i : SchemaItem) : Prop :=
  policy = .qualified ∨ policy = .auto ∧ IsCrowded conventions items i

instance (conventions : Conventions) (policy : NamingPolicy) (items : List SchemaItem)
    (i : SchemaItem) : Decidable (Qualifies conventions policy items i) :=
  inferInstanceAs (Decidable (_ ∨ _ ∧ _))

/-- The names of a declaration's variants with its own name. -/
def qualifiedNamesOf (conventions : Conventions) (separator : String) (d : SchemaDeclaration) :
    List String :=
  d.variantNames.map fun v => conventions.qualifiedName d.name v separator

def variantNamesOf (conventions : Conventions) (policy : NamingPolicy) (separator : String)
    (items : List SchemaItem) (i : SchemaItem) : List String :=
  if Qualifies conventions policy items i then qualifiedNamesOf conventions separator i.declaration
  else flatNamesOf conventions i.declaration

theorem flatNamesOf_union (conventions : Conventions) (u : Union TypeRef) :
    flatNamesOf conventions (.union u) = flatNames conventions u := by
  simp [flatNamesOf, variantNames, flatNames]

theorem exists_union_of_mem_flatNamesOf {conventions : Conventions} {d : SchemaDeclaration}
    {name : String} (flat : name ∈ flatNamesOf conventions d) : ∃ u, d = .union u := by
  cases d with
  | union u => exact ⟨u, rfl⟩
  | _ => exact absurd flat List.not_mem_nil

theorem qualifiedNamesOf_union (conventions : Conventions) (separator : String) (u : Union TypeRef) :
    qualifiedNamesOf conventions separator (.union u) = qualifiedNames conventions separator u := by
  simp [qualifiedNamesOf, variantNames, qualifiedNames, name]

/-! ## The unions of a module -/

section

variable {conventions : Conventions}

/-- The unions among items behind others that have got their own name. -/
def unionsFrom (conventions : Conventions) (before items : List SchemaItem) : List ClaimedUnion :=
  (claimedFrom conventions before items).filterMap ClaimedItem.union?

theorem claimedItem_union?_eq_some {before : List SchemaItem} {i : SchemaItem} {c : ClaimedUnion} :
    (claimedItem conventions before i).union? = some c ↔
      (∀ j ∈ before,
        emittedName conventions j.declaration ≠ emittedName conventions i.declaration) ∧
      ∃ u, i.declaration = .union u ∧ c = ⟨i.path, u, emittedName conventions i.declaration⟩ := by
  by_cases free : ∀ j ∈ before,
      emittedName conventions j.declaration ≠ emittedName conventions i.declaration
  · rw [claimedItem_of_free free, and_iff_right free]
    obtain ⟨m, d⟩ := i
    cases d <;> simp [ClaimedItem.union?, eq_comm]
  · obtain ⟨j, -, -, failed⟩ := claimedItem_of_taken free
    rw [failed]
    exact iff_of_false (by simp [ClaimedItem.union?]) fun both => free both.1

theorem mem_unionsFrom {before items : List SchemaItem} {c : ClaimedUnion}
    (member : c ∈ unionsFrom conventions before items) :
    ∃ j ∈ items, c.path = j.path ∧ j.declaration = .union c.union := by
  obtain ⟨claimed, among, union⟩ := List.mem_filterMap.1 member
  have item : claimed.item ∈ items := by
    rw [← claimedFrom_items conventions before items]
    exact List.mem_map_of_mem among
  refine ⟨claimed.item, item, union?_path union, ?_⟩
  unfold ClaimedItem.union? at union
  split at union
  · next declared =>
    cases union
    exact declared
  · exact absurd union (by simp)

theorem mem_unionsFrom_nil_iff {items : List SchemaItem} (distinct : (items.map Item.path).Nodup)
    {c : ClaimedUnion} :
    c ∈ unionsFrom conventions [] items ↔
      ∃ j ∈ items, ClaimsName conventions items j ∧
        ∃ u, j.declaration = .union u ∧ c = ⟨j.path, u, emittedName conventions j.declaration⟩ := by
  unfold unionsFrom
  rw [List.mem_filterMap]
  constructor
  · rintro ⟨claimed, among, union⟩
    obtain ⟨item, equal⟩ := (mem_claimedFrom_iff distinct).1 among
    rw [equal] at union
    exact ⟨claimed.item, item, claimedItem_union?_eq_some.1 union⟩
  · rintro ⟨j, item, claims, declared⟩
    refine ⟨_, (mem_claimedFrom_iff distinct).2 ⟨?_, ?_⟩,
      claimedItem_union?_eq_some.2 ⟨claims, declared⟩⟩
    · rwa [claimedItem_item]
    · rw [claimedItem_item]

/-- The place of a union among the unions of its module. -/
theorem unionsFrom_split {items : List SchemaItem} {i : SchemaItem} {u : Union TypeRef}
    (distinct : (items.map Item.path).Nodup) (member : i ∈ items)
    (declared : i.declaration = .union u) (claims : ClaimsName conventions items i) :
    ∃ later : List ClaimedUnion,
      unionsFrom conventions [] items = unionsFrom conventions [] (itemsBefore i.path items) ++
        ⟨i.path, u, emittedName conventions i.declaration⟩ :: later ∧
      (∀ c ∈ unionsFrom conventions [] (itemsBefore i.path items), c.path ≠ i.path) ∧
      ∀ c ∈ later, c.path ≠ i.path ∧ ∀ j ∈ itemsBefore i.path items, c.path ≠ j.path := by
  obtain ⟨after, split⟩ := exists_split distinct member
  have union := claimedItem_union?_eq_some.2 ⟨claims, u, declared, rfl⟩
  rw [split, List.map_append, List.map_cons, List.nodup_append, List.nodup_cons] at distinct
  obtain ⟨-, ⟨notAfter, -⟩, apart⟩ := distinct
  refine ⟨unionsFrom conventions (itemsBefore i.path items ++ [i]) after, ?_, ?_, ?_⟩
  · unfold unionsFrom
    rw [claimedFrom_split split, List.filterMap_append, List.filterMap_cons_some union]
  · intro c among
    obtain ⟨j, before, path, -⟩ := mem_unionsFrom among
    rw [path]
    exact apart _ (List.mem_map_of_mem before) _ List.mem_cons_self
  · intro c among
    obtain ⟨k, behind, path, -⟩ := mem_unionsFrom among
    rw [path]
    refine ⟨fun same => notAfter (same ▸ List.mem_map_of_mem behind), fun j before same => ?_⟩
    have later : k.path ∈ i.path :: after.map Item.path :=
      List.mem_cons_of_mem _ (List.mem_map_of_mem behind)
    exact apart _ (List.mem_map_of_mem before) _ later same.symm

/-! ## The choice is the one that is made -/

/-- What the module of some items counts of a name. -/
def occurrencesIn (conventions : Conventions) (items : List SchemaItem) : String → Nat :=
  occurrences (claimItems conventions {} items).1
    ((unionsFrom conventions [] items).flatMap fun c => flatNames conventions c.union)

theorem holds_iff {ns : Namespace} {name : String} : ns.holds name = true ↔ name ∈ ns.names := by
  rw [Namespace.holds, Option.isSome_iff_exists, Namespace.mem_names_iff]

/-- A flat name of a union with a name of its own is counted once exactly if it is in use nowhere else. -/
theorem occurrencesIn_ne_one_iff {items : List SchemaItem} {i : SchemaItem} {u : Union TypeRef}
    (distinct : (items.map Item.path).Nodup) (member : i ∈ items)
    (declared : i.declaration = .union u) (claims : ClaimsName conventions items i)
    {name : String} (flat : name ∈ flatNamesOf conventions i.declaration) :
    occurrencesIn conventions items name ≠ 1 ↔
      (∃ j ∈ items, emittedName conventions j.declaration = name) ∨
        2 ≤ (flatNamesOf conventions i.declaration).count name ∨
        ∃ j ∈ items, j.path ≠ i.path ∧ ClaimsName conventions items j ∧
          name ∈ flatNamesOf conventions j.declaration := by
  have emitted : name ∈ (claimItems conventions {} items).1.names ↔
      ∃ j ∈ items, emittedName conventions j.declaration = name :=
    (claimItems_eq (Namespace.holds_nil conventions) items).1.names
  obtain ⟨later, split, early, late⟩ := unionsFrom_split distinct member declared claims
  have elsewhere : (∃ j ∈ items, j.path ≠ i.path ∧ ClaimsName conventions items j ∧
      name ∈ flatNamesOf conventions j.declaration) ↔
      0 < ((unionsFrom conventions [] (itemsBefore i.path items)).flatMap fun c =>
          flatNames conventions c.union).count name ∨
        0 < (later.flatMap fun c => flatNames conventions c.union).count name := by
    have among : (∃ j ∈ items, j.path ≠ i.path ∧ ClaimsName conventions items j ∧
        name ∈ flatNamesOf conventions j.declaration) ↔
        ∃ c ∈ unionsFrom conventions [] items, c.path ≠ i.path ∧
          name ∈ flatNames conventions c.union := by
      constructor
      · rintro ⟨j, item, other, claims', flat'⟩
        obtain ⟨u', declared'⟩ := exists_union_of_mem_flatNamesOf flat'
        refine ⟨_, (mem_unionsFrom_nil_iff distinct).2 ⟨j, item, claims', u', declared', rfl⟩,
          other, ?_⟩
        rwa [declared', flatNamesOf_union] at flat'
      · rintro ⟨c, union, other, flat'⟩
        obtain ⟨j, item, claims', u', declared', rfl⟩ := (mem_unionsFrom_nil_iff distinct).1 union
        refine ⟨j, item, other, claims', ?_⟩
        rwa [declared', flatNamesOf_union]
    rw [among, split, List.count_pos_iff, List.count_pos_iff, List.mem_flatMap, List.mem_flatMap]
    constructor
    · rintro ⟨c, union, other, flat'⟩
      rcases List.mem_append.1 union with before | behind
      · exact .inl ⟨c, before, flat'⟩
      · rcases List.mem_cons.1 behind with rfl | after
        · exact absurd rfl other
        · exact .inr ⟨c, after, flat'⟩
    · rintro (⟨c, before, flat'⟩ | ⟨c, after, flat'⟩)
      · exact ⟨c, List.mem_append_left _ before, early c before, flat'⟩
      · exact ⟨c, List.mem_append_right _ (List.mem_cons_of_mem _ after), (late c after).1, flat'⟩
  have own : 0 < (flatNames conventions u).count name := by
    rwa [declared, flatNamesOf_union, ← List.count_pos_iff] at flat
  rw [elsewhere, ← emitted, ← holds_iff, declared, flatNamesOf_union, occurrencesIn, occurrences, split,
    List.flatMap_append, List.flatMap_cons, List.count_append, List.count_append]
  by_cases held : (claimItems conventions {} items).1.holds name = true
  · simp only [held, if_true, true_or, iff_true]
    omega
  · simp only [held, Bool.false_eq_true, if_false, false_or]
    omega

theorem isQualified_iff (policy : NamingPolicy) {items : List SchemaItem} {i : SchemaItem}
    {u : Union TypeRef} (distinct : (items.map Item.path).Nodup) (member : i ∈ items)
    (declared : i.declaration = .union u) (claims : ClaimsName conventions items i) :
    isQualified policy (occurrencesIn conventions items) (flatNames conventions u) = true ↔
      Qualifies conventions policy items i := by
  unfold Qualifies
  cases policy with
  | flat => simp [isQualified]
  | qualified => simp [isQualified]
  | auto =>
    rw [← flatNamesOf_union, ← declared]
    simp only [isQualified, List.any_eq_true, decide_eq_true_eq, reduceCtorEq, false_or, true_and]
    unfold IsCrowded
    refine exists_congr fun name => and_congr_right fun flat => ?_
    exact occurrencesIn_ne_one_iff distinct member declared claims flat

theorem chosenNames_eq (policy : NamingPolicy) (separator : String) {items : List SchemaItem}
    {i : SchemaItem} {u : Union TypeRef} (distinct : (items.map Item.path).Nodup)
    (member : i ∈ items) (declared : i.declaration = .union u)
    (claims : ClaimsName conventions items i) :
    chosenNames conventions policy separator (occurrencesIn conventions items) u =
      variantNamesOf conventions policy separator items i := by
  have qualified := isQualified_iff policy distinct member declared claims
  unfold chosenNames variantNamesOf
  rw [declared, flatNamesOf_union, qualifiedNamesOf_union]
  by_cases qualifies : Qualifies conventions policy items i
  · rw [if_pos (qualified.2 qualifies), if_pos qualifies]
  · rw [if_neg (mt qualified.1 qualifies), if_neg qualifies]

end

end SchemaBindings
