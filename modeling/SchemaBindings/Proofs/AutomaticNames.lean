import Mathlib.Data.List.NodupEquivFin
import SchemaBindings.Proofs.Accounting
import SchemaBindings.Proofs.DeclarationOrder

/-!
# Which unions the automatic policy qualifies

The automatic policy counts names, and the counts find exactly the flat names that collide (`Collides`).

* Every name that is emitted in a module is held by one of the items that emit it, the first of them
  (`exists_holdsName_iff`).
* A flat name that is counted twice in its own union stands at two positions there (`two_le_count_iff`), and any other
  collision has another holder or another union on its side (`isCrowded_iff_collides`).

So a named union is qualified exactly if one of its flat names collides, and its variants are all named in the same way
(`automatic_qualified_iff`).
-/

namespace SchemaBindings

open Declaration

/-! ## Holders -/

def HoldsName (conventions : Conventions) (items : List SchemaItem) (j : SchemaItem) : Prop :=
  ⟨j, .ok (emittedName conventions j.declaration)⟩ ∈ (claimItems conventions {} items).2

section

variable {conventions : Conventions} {items : List SchemaItem} {i : SchemaItem}

theorem holdsName_iff (distinct : (items.map Item.path).Nodup) {j : SchemaItem} :
    HoldsName conventions items j ↔ j ∈ items ∧ ClaimsName conventions items j := by
  have claimed : (claimItems conventions {} items).2 = claimedFrom conventions [] items :=
    (claimItems_eq (Namespace.holds_nil conventions) items).2
  unfold HoldsName
  rw [claimed, mem_claimedFrom_iff distinct]
  refine and_congr_right fun _ => ?_
  by_cases claims : ClaimsName conventions items j
  · exact iff_of_true (claimedItem_of_free claims).symm claims
  · obtain ⟨k, -, -, failed⟩ := claimedItem_of_taken claims
    refine iff_of_false (fun same => ?_) claims
    rw [failed] at same
    exact absurd (congrArg ClaimedItem.name same) (by simp)

/-- A name that is emitted is held by the first item that emits it. -/
theorem exists_holdsName_iff (distinct : (items.map Item.path).Nodup) {name : String} :
    (∃ j, HoldsName conventions items j ∧ emittedName conventions j.declaration = name) ↔
      ∃ j ∈ items, emittedName conventions j.declaration = name := by
  constructor
  · rintro ⟨j, holds, emits⟩
    exact ⟨j, ((holdsName_iff distinct).1 holds).1, emits⟩
  · rintro ⟨j, member, emits⟩
    have found : (items.find? (emittedName conventions ·.declaration == name)).isSome = true :=
      List.find?_isSome.2 ⟨j, member, by simpa using emits⟩
    obtain ⟨first, found⟩ := Option.isSome_iff_exists.1 found
    obtain ⟨emits', before, after, split, unlike⟩ := List.find?_eq_some_iff_append.1 found
    have emits' : emittedName conventions first.declaration = name := by simpa using emits'
    refine ⟨first, (holdsName_iff distinct).2 ⟨List.mem_of_find?_eq_some found, fun k earlier => ?_⟩, emits'⟩
    rw [split] at distinct earlier
    rw [itemsBefore_split distinct] at earlier
    rw [emits']
    simpa using unlike k earlier

/-! ## Collisions -/

/-- The flat name of the variant at the position `k` of the union `i` collides. -/
inductive Collides (conventions : Conventions) (items : List SchemaItem) (i : SchemaItem) (k : Nat) (name : String) :
    Prop
  /-- A declaration holds the name, which may be the union itself. -/
  | declared {j : SchemaItem} : HoldsName conventions items j → emittedName conventions j.declaration = name →
      Collides conventions items i k name
  /-- Another variant has the same flat name, in this union or in another one with a name of its own. -/
  | variant {j : SchemaItem} {l : Nat} : HoldsName conventions items j →
      (flatNamesOf conventions j.declaration)[l]? = some name → (j.path, l) ≠ (i.path, k) →
      Collides conventions items i k name

theorem two_le_count_iff {names : List String} {name : String} :
    2 ≤ names.count name ↔ ∃ k l : Nat, k ≠ l ∧ names[k]? = some name ∧ names[l]? = some name := by
  rw [← List.duplicate_iff_two_le_count, List.duplicate_iff_exists_distinct_get]
  constructor
  · rintro ⟨k, l, before, here, there⟩
    refine ⟨k, l, (Fin.lt_def.1 before).ne, ?_, ?_⟩
    · rw [List.getElem?_eq_getElem k.isLt, here, List.get_eq_getElem]
    · rw [List.getElem?_eq_getElem l.isLt, there, List.get_eq_getElem]
  · rintro ⟨k, l, differ, here, there⟩
    obtain ⟨inside, here⟩ := List.getElem?_eq_some_iff.1 here
    obtain ⟨inside', there⟩ := List.getElem?_eq_some_iff.1 there
    rcases Nat.lt_or_gt_of_ne differ with before | behind
    · exact ⟨⟨k, inside⟩, ⟨l, inside'⟩, before, here.symm, there.symm⟩
    · exact ⟨⟨l, inside'⟩, ⟨k, inside⟩, behind, there.symm, here.symm⟩

/-- The counts of a module see a flat name twice exactly if it collides. -/
theorem isCrowded_iff_collides (distinct : (items.map Item.path).Nodup) (member : i ∈ items)
    (claims : ClaimsName conventions items i) :
    IsCrowded conventions items i ↔
      ∃ k name, (flatNamesOf conventions i.declaration)[k]? = some name ∧ Collides conventions items i k name := by
  have holds : HoldsName conventions items i := (holdsName_iff distinct).2 ⟨member, claims⟩
  constructor
  · rintro ⟨name, flat, cause⟩
    obtain ⟨k, here⟩ := List.mem_iff_getElem?.1 flat
    rcases cause with emitted | twice | ⟨j, among, other, claims', flat'⟩
    · obtain ⟨j, holds', emits⟩ := (exists_holdsName_iff distinct).2 emitted
      exact ⟨k, name, here, .declared holds' emits⟩
    · obtain ⟨k, l, differ, here, there⟩ := two_le_count_iff.1 twice
      exact ⟨k, name, here, .variant holds there fun same => differ (Prod.mk.inj same).2.symm⟩
    · obtain ⟨l, there⟩ := List.mem_iff_getElem?.1 flat'
      have holds' := (holdsName_iff distinct).2 ⟨among, claims'⟩
      exact ⟨k, name, here, .variant holds' there fun same => other (Prod.mk.inj same).1⟩
  · rintro ⟨k, name, here, collides⟩
    refine ⟨name, List.mem_of_getElem? here, ?_⟩
    cases collides with
    | declared holds' emits => exact .inl ((exists_holdsName_iff distinct).1 ⟨_, holds', emits⟩)
    | @variant j l holds' there differ =>
      obtain ⟨among, claims'⟩ := (holdsName_iff distinct).1 holds'
      by_cases same : j.path = i.path
      · obtain rfl := eq_of_path_eq distinct among member same
        exact .inr (.inl (two_le_count_iff.2 ⟨k, l, fun at' => differ (by rw [at']), here, there⟩))
      · exact .inr (.inr ⟨j, among, same, claims', List.mem_of_getElem? there⟩)

end

/-! ## The choice -/

/-- Under the automatic policy a named union is qualified exactly if one of its flat names collides: with the name of a
declaration that holds it, or with the flat name of another variant. All its variants carry flat names, or all of them
qualified ones. -/
theorem automatic_qualified_iff (document : Document) (conventions : Conventions) (separator : String)
    (reserved : List (String × String)) {i : SchemaItem} (item : i ∈ document.resolve.items) {u : Union TypeRef}
    (declared : i.declaration = .union u) {own : DeclarationNames}
    (found : (NameTable.build conventions .auto separator reserved document.resolve).get? i.path = some (.ok own)) :
    (own.qualified = true ↔
        ∃ k name, (flatNames conventions u)[k]? = some name ∧
          Collides conventions (document.resolve.itemsOf i.module) i k name) ∧
      own.variants = u.variants.map fun v => conventions.variantName separator u.name own.qualified v.name := by
  have member : i ∈ document.resolve.itemsOf i.module := Resolved.mem_itemsOf.2 ⟨item, rfl⟩
  have crowded := isCrowded_iff_collides (document.itemsOf_paths_nodup i.module) member (claimsName_of_get? item found)
  rw [declared, flatNamesOf_union] at crowded
  refine ⟨(qualified_iff_isCrowded item declared found).trans crowded, ?_⟩
  rw [variants_eq_map item found, declared]
  exact List.map_map

/-- Two unions share the name of a variant, and a third one has variants of its own. -/
def escalatingDocument : Document :=
  ⟨[.union (plainUnion "UnionA" ["Variant1", "Only"]), .union (plainUnion "UnionB" ["Variant1"]),
    .union (plainUnion "UnionC" ["Variant3"])]⟩

/-- The first union collides with the second, so its other variant is qualified as well, and the third one collides with
none. -/
theorem escalating_collides :
    let table := NameTable.build Go.conventions .auto "_" [] escalatingDocument.resolve
    let items := escalatingDocument.resolve.itemsOf []
    let first : SchemaItem := ⟨[], .union (plainUnion "UnionA" ["Variant1", "Only"])⟩
    let third : SchemaItem := ⟨[], .union (plainUnion "UnionC" ["Variant3"])⟩
    table.get? first.path = some (.ok ⟨"UnionA", ["UnionA_Variant1", "UnionA_Only"], true⟩) ∧
      (∃ k name, ["Variant1", "Only"][k]? = some name ∧ Collides Go.conventions items first k name) ∧
      table.get? third.path = some (.ok ⟨"UnionC", ["Variant3"], false⟩) ∧
      ¬ ∃ k name, ["Variant3"][k]? = some name ∧ Collides Go.conventions items third k name := by
  intro table items first third
  have found : table.get? first.path = some (.ok ⟨"UnionA", ["UnionA_Variant1", "UnionA_Only"], true⟩) := by
    decide +kernel
  have found' : table.get? third.path = some (.ok ⟨"UnionC", ["Variant3"], false⟩) := by
    decide +kernel
  have item : first ∈ escalatingDocument.resolve.items := List.mem_of_getElem? (i := 0) rfl
  have item' : third ∈ escalatingDocument.resolve.items := List.mem_of_getElem? (i := 2) rfl
  have choice := automatic_qualified_iff escalatingDocument Go.conventions "_" [] item rfl found
  have choice' := automatic_qualified_iff escalatingDocument Go.conventions "_" [] item' rfl found'
  have flat : flatNames Go.conventions (plainUnion "UnionA" ["Variant1", "Only"]) = ["Variant1", "Only"] := by
    decide +kernel
  have flat' : flatNames Go.conventions (plainUnion "UnionC" ["Variant3"]) = ["Variant3"] := by
    decide +kernel
  rw [flat] at choice
  rw [flat'] at choice'
  exact ⟨found, choice.1.1 rfl, found', fun collides => absurd (choice'.1.2 collides) (by decide)⟩

end SchemaBindings
