import SchemaBindings.Proofs.Escalation

/-!
# Order of declarations

Two schemas in which a module has the same declarations in another order. Whether a union is qualified under the
automatic policy depends on the order in one way only: a union that shares a flat name with it counts if it has got its
own name, and which of several declarations with the same emitted name gets it is a matter of order
(`isCrowded_iff_of_perm`).

* If the same unions get their names in both orders, the choice and the names are the same (`automatic_names_eq_iff`).
* So no order matters to a module whose declarations emit different names (`names_eq_of_distinct`).
-/

namespace SchemaBindings

open Declaration

section

variable {conventions : Conventions} {items items' : List SchemaItem} {i : SchemaItem}

/-- The item `j` shares a flat name with `i`, and it gets its own name in one of the two orders only. -/
def TellsApart (conventions : Conventions) (items items' : List SchemaItem) (i j : SchemaItem) : Prop :=
  j.path ≠ i.path ∧
    (∃ name ∈ flatNamesOf conventions i.declaration, name ∈ flatNamesOf conventions j.declaration) ∧
    ¬ (ClaimsName conventions items j ↔ ClaimsName conventions items' j)

/-- If no union tells two orders apart, a union is crowded in both or in none. -/
theorem isCrowded_iff_of_perm (perm : items.Perm items')
    (same : ∀ j ∈ items, ¬ TellsApart conventions items items' i j) :
    IsCrowded conventions items i ↔ IsCrowded conventions items' i := by
  unfold IsCrowded
  refine exists_congr fun name => and_congr_right fun flat => ?_
  refine or_congr ?_ (or_congr_right (exists_congr fun j => ?_))
  · simp only [perm.mem_iff]
  · rw [← perm.mem_iff]
    refine and_congr_right fun member => and_congr_right fun other => and_congr_left fun flat' => ?_
    by_contra differ
    exact same j member ⟨other, ⟨name, flat, flat'⟩, differ⟩

theorem claimsName_of_distinct
    (distinct : (items.map fun j => emittedName conventions j.declaration).Nodup) (member : i ∈ items) :
    ClaimsName conventions items i := by
  intro j before same
  have equal := List.inj_on_of_nodup_map distinct (mem_of_mem_itemsBefore before) member same
  exact path_ne_of_mem_itemsBefore before (by rw [equal])

theorem qualifies_iff (items : List SchemaItem) (i : SchemaItem) :
    Qualifies conventions .auto items i ↔ IsCrowded conventions items i := by
  simp [Qualifies]

end

section

variable {document document' : Document} {conventions : Conventions} {separator : String}
  {i : SchemaItem}

theorem qualified_iff_isCrowded {reserved : List (String × String)}
    (item : i ∈ document.resolve.items) {u : Union TypeRef} (declared : i.declaration = .union u)
    {own : DeclarationNames}
    (found : (NameTable.build conventions .auto separator reserved document.resolve).get? i.path =
      some (.ok own)) :
    own.qualified = true ↔ IsCrowded conventions (document.resolve.itemsOf i.module) i := by
  have claims := claimsName_of_get? item found
  rw [((get?_union_eq_ok_iff item declared claims).1 found).2, decide_eq_true_iff, qualifies_iff]

/-- What a union is called is decided by whether it is crowded. -/
theorem names_eq_iff (reserved reserved' : List (String × String))
    (item : i ∈ document.resolve.items) (item' : i ∈ document'.resolve.items) {u : Union TypeRef}
    (declared : i.declaration = .union u) {own own' : DeclarationNames}
    (found : (NameTable.build conventions .auto separator reserved document.resolve).get? i.path =
      some (.ok own))
    (found' : (NameTable.build conventions .auto separator reserved' document'.resolve).get? i.path =
      some (.ok own')) :
    own = own' ↔ (IsCrowded conventions (document.resolve.itemsOf i.module) i ↔
      IsCrowded conventions (document'.resolve.itemsOf i.module) i) := by
  have claims := claimsName_of_get? item found
  have claims' := claimsName_of_get? item' found'
  have choice := qualified_iff_isCrowded item declared found
  have choice' := qualified_iff_isCrowded item' declared found'
  have named := ((get?_union_eq_ok_iff item declared claims).1 found).2
  have named' := ((get?_union_eq_ok_iff item' declared claims').1 found').2
  constructor
  · rintro rfl
    exact choice.symm.trans choice'
  · intro agree
    rw [named, named']
    simp only [variantNamesOf, qualifies_iff, agree]

end

/-- In two schemas with the same declarations of a module, in any two orders, a union that is named in both is qualified
where it is crowded, and it has the same names in both exactly if it is crowded in both or in none. Where its names
differ, another union that shares a flat name with it gets its own name in one of the orders only. -/
theorem automatic_names_eq_iff (document document' : Document) (conventions : Conventions)
    (separator : String) (reserved reserved' : List (String × String)) {i : SchemaItem}
    (item : i ∈ document.resolve.items)
    (reordered : (document.resolve.itemsOf i.module).Perm (document'.resolve.itemsOf i.module))
    {u : Union TypeRef} (declared : i.declaration = .union u) {own own' : DeclarationNames}
    (found : (NameTable.build conventions .auto separator reserved document.resolve).get? i.path =
      some (.ok own))
    (found' : (NameTable.build conventions .auto separator reserved' document'.resolve).get? i.path =
      some (.ok own')) :
    let items := document.resolve.itemsOf i.module
    let items' := document'.resolve.itemsOf i.module
    (own.qualified = true ↔ IsCrowded conventions items i) ∧
      (own'.qualified = true ↔ IsCrowded conventions items' i) ∧
      (own = own' ↔ (IsCrowded conventions items i ↔ IsCrowded conventions items' i)) ∧
      (own ≠ own' → ∃ j ∈ items, TellsApart conventions items items' i j) := by
  intro items items'
  have item' : i ∈ document'.resolve.items := by
    have member : i ∈ items := Resolved.mem_itemsOf.2 ⟨item, rfl⟩
    exact (Resolved.mem_itemsOf.1 (reordered.mem_iff.1 member)).1
  have equal := names_eq_iff reserved reserved' item item' declared found found'
  refine ⟨qualified_iff_isCrowded item declared found, qualified_iff_isCrowded item' declared found',
    equal, fun differ => ?_⟩
  by_contra noOne
  push Not at noOne
  exact differ (equal.2 (isCrowded_iff_of_perm reordered noOne))

/-- If the declarations of a module emit different names, their order does not matter at all. -/
theorem names_eq_of_distinct (reserved reserved' : List (String × String)) {document document' : Document}
    {conventions : Conventions} {separator : String} {i : SchemaItem}
    (item : i ∈ document.resolve.items)
    (reordered : (document.resolve.itemsOf i.module).Perm (document'.resolve.itemsOf i.module))
    (distinct : ((document.resolve.itemsOf i.module).map
      fun j => emittedName conventions j.declaration).Nodup)
    {u : Union TypeRef} (declared : i.declaration = .union u) {own own' : DeclarationNames}
    (found : (NameTable.build conventions .auto separator reserved document.resolve).get? i.path =
      some (.ok own))
    (found' : (NameTable.build conventions .auto separator reserved' document'.resolve).get? i.path =
      some (.ok own')) :
    own = own' := by
  have member : i ∈ document.resolve.itemsOf i.module := Resolved.mem_itemsOf.2 ⟨item, rfl⟩
  have item' := (Resolved.mem_itemsOf.1 (reordered.mem_iff.1 member)).1
  refine (names_eq_iff reserved reserved' item item' declared found found').2 ?_
  refine isCrowded_iff_of_perm reordered fun j among ⟨_, _, differ⟩ => differ (iff_of_true ?_ ?_)
  · exact claimsName_of_distinct distinct among
  · have distinct' := (reordered.map fun j => emittedName conventions j.declaration).nodup_iff.1 distinct
    exact claimsName_of_distinct distinct' (reordered.mem_iff.1 among)

/-! ## An order that matters -/

/-- A struct and a union emit the same name, and the union shares a variant's name with another one. -/
def structFirst : Document :=
  ⟨[.struct ⟨"foo", [], [], none⟩, .union (plainUnion "Foo" ["X"]), .union (plainUnion "Bar" ["X"])]⟩

/-- The same with the struct in the second place. -/
def unionFirst : Document :=
  ⟨[.union (plainUnion "Foo" ["X"]), .struct ⟨"foo", [], [], none⟩, .union (plainUnion "Bar" ["X"])]⟩

theorem structFirst_reordered :
    (structFirst.resolve.itemsOf []).Perm (unionFirst.resolve.itemsOf []) :=
  .swap _ _ _

theorem structFirst_bar : (⟨[], .union (plainUnion "Bar" ["X"])⟩ : SchemaItem) ∈
    structFirst.resolve.items :=
  List.mem_of_getElem? (i := 2) rfl

theorem structFirst_tellsApart :
    ∃ j ∈ structFirst.resolve.itemsOf [], TellsApart Go.conventions (structFirst.resolve.itemsOf [])
      (unionFirst.resolve.itemsOf []) ⟨[], .union (plainUnion "Bar" ["X"])⟩ j := by
  have found : (NameTable.build Go.conventions .auto "_" [] structFirst.resolve).get? ⟨["Bar"]⟩ =
      some (.ok ⟨"Bar", ["X"], false⟩) := by
    decide +kernel
  have found' : (NameTable.build Go.conventions .auto "_" [] unionFirst.resolve).get? ⟨["Bar"]⟩ =
      some (.ok ⟨"Bar", ["Bar_X"], true⟩) := by
    decide +kernel
  obtain ⟨-, -, -, apart⟩ := automatic_names_eq_iff structFirst unionFirst Go.conventions "_" [] []
    structFirst_bar structFirst_reordered rfl found found'
  exact apart (by decide)

/-- The union that is named in both orders is flat in one of them and qualified in the other. -/
theorem order_changes_names :
    (structFirst.resolve.itemsOf []).Perm (unionFirst.resolve.itemsOf []) ∧
      (NameTable.build Go.conventions .auto "_" [] structFirst.resolve).get? ⟨["Bar"]⟩ =
        some (.ok ⟨"Bar", ["X"], false⟩) ∧
      (NameTable.build Go.conventions .auto "_" [] unionFirst.resolve).get? ⟨["Bar"]⟩ =
        some (.ok ⟨"Bar", ["Bar_X"], true⟩) := by
  refine ⟨structFirst_reordered, ?_⟩
  decide +kernel

end SchemaBindings
