import SchemaBindings.Proofs.Acceptance
import SchemaBindings.Proofs.NameTable

/-!
# Declared names

Which declarations of a module get their own name: those that emit a name that none in front of them emits. Whether a
declaration in front has got it does not matter, since the name is taken either way.

* `Namespace.Holds`: after some items the namespace holds what they emit, each name for the first that emits it.
* `claimItems_eq`: so what becomes of an item is a function of the items in front of it (`claimedItem`).
* `get?_eq_some_iff`: the table has one entry for each item, and it is the one that the item's module makes.
-/

namespace SchemaBindings

open Declaration

/-! ## Items of a module -/

def Resolved.itemsOf (r : Resolved) (m : ModulePath) : List SchemaItem :=
  r.items.filter (·.module = m)

/-- The items in front of the one at a path. -/
def itemsBefore (p : SchemaPath) (items : List SchemaItem) : List SchemaItem :=
  items.takeWhile (·.path ≠ p)

theorem itemsBefore_split {before after : List SchemaItem} {i : SchemaItem}
    (distinct : ((before ++ i :: after).map Item.path).Nodup) :
    itemsBefore i.path (before ++ i :: after) = before := by
  have other : ∀ j ∈ before, j.path ≠ i.path := by
    rw [List.map_append, List.nodup_append] at distinct
    intro j member
    exact distinct.2.2 _ (List.mem_map_of_mem member) _ List.mem_cons_self
  unfold itemsBefore
  rw [List.takeWhile_append_of_pos (by simpa using other), List.takeWhile_cons_of_neg (by simp),
    List.append_nil]

theorem exists_split {items : List SchemaItem} {i : SchemaItem}
    (distinct : (items.map Item.path).Nodup) (member : i ∈ items) :
    ∃ after, items = itemsBefore i.path items ++ i :: after := by
  obtain ⟨before, after, rfl⟩ := List.append_of_mem member
  exact ⟨after, by rw [itemsBefore_split distinct]⟩

theorem eq_of_path_eq {items : List SchemaItem} (distinct : (items.map Item.path).Nodup)
    {i j : SchemaItem} (member : i ∈ items) (member' : j ∈ items) (same : i.path = j.path) : i = j :=
  List.inj_on_of_nodup_map distinct member member' same

/-! ## Claims -/

/-- The namespace holds the names that the items emit, each for the first item that emits it. -/
def Namespace.Holds (ns : Namespace) (conventions : Conventions) (items : List SchemaItem) : Prop :=
  ∀ name, ns.holder? name =
    (items.find? (emittedName conventions ·.declaration == name)).map (·.path.text)

/-- An item gets the name that it emits if no item in front of it emits the same. -/
def ClaimsName (conventions : Conventions) (items : List SchemaItem) (i : SchemaItem) : Prop :=
  ∀ j ∈ itemsBefore i.path items,
    emittedName conventions j.declaration ≠ emittedName conventions i.declaration

instance (conventions : Conventions) (items : List SchemaItem) (i : SchemaItem) :
    Decidable (ClaimsName conventions items i) :=
  inferInstanceAs (Decidable (∀ j ∈ itemsBefore i.path items, _))

/-- What becomes of an item behind others. -/
def claimedItem (conventions : Conventions) (before : List SchemaItem) (i : SchemaItem) : ClaimedItem :=
  let name := emittedName conventions i.declaration
  match before.find? (emittedName conventions ·.declaration == name) with
  | some j => ⟨i, .error (.namingCollision name j.path.text)⟩
  | none => ⟨i, .ok name⟩

/-- What becomes of items behind others. -/
def claimedFrom (conventions : Conventions) (before : List SchemaItem) :
    List SchemaItem → List ClaimedItem
  | [] => []
  | i :: items =>
    claimedItem conventions before i :: claimedFrom conventions (before ++ [i]) items

section

variable {conventions : Conventions}

theorem Namespace.holds_nil (conventions : Conventions) : Namespace.Holds {} conventions [] :=
  fun _ => rfl

theorem Namespace.Holds.names {ns : Namespace} {items : List SchemaItem}
    (holds : ns.Holds conventions items) {name : String} :
    name ∈ ns.names ↔ ∃ i ∈ items, emittedName conventions i.declaration = name := by
  have free : ns.holder? name = none ↔ name ∉ ns.names := holder?_eq_none_iff
  rw [holds name, Option.map_eq_none_iff, List.find?_eq_none] at free
  rw [← not_iff_not, ← free]
  simp

/-- A name that is taken stays with its holder, so an item without a name changes nothing. -/
theorem Namespace.Holds.taken {ns : Namespace} {before : List SchemaItem}
    (holds : ns.Holds conventions before) {i j : SchemaItem}
    (found : before.find? (emittedName conventions ·.declaration ==
      emittedName conventions i.declaration) = some j) :
    ns.Holds conventions (before ++ [i]) := by
  intro name
  rw [holds name, List.find?_append]
  by_cases same : emittedName conventions i.declaration = name
  · subst same
    rw [found]
    rfl
  · have other : [i].find? (emittedName conventions ·.declaration == name) = none := by
      simpa using same
    rw [other, Option.or_none]

theorem Namespace.Holds.free {ns : Namespace} {before : List SchemaItem}
    (holds : ns.Holds conventions before) {i : SchemaItem}
    (unfound : before.find? (emittedName conventions ·.declaration ==
      emittedName conventions i.declaration) = none) :
    Namespace.Holds ⟨(emittedName conventions i.declaration, i.path.text) :: ns.claims⟩ conventions
      (before ++ [i]) := by
  intro name
  have later := holds name
  unfold holder? at later ⊢
  rw [List.lookup_cons, later, List.find?_append]
  by_cases same : emittedName conventions i.declaration = name
  · subst same
    simp [unfound]
  · have other : [i].find? (emittedName conventions ·.declaration == name) = none := by
      simpa using same
    rw [other, Option.or_none, beq_false_of_ne (Ne.symm same)]

/-- One claim behind the items `before`. -/
theorem claimItems_cons {ns : Namespace} {before : List SchemaItem}
    (holds : ns.Holds conventions before) (i : SchemaItem) (items : List SchemaItem) :
    ∃ ns' : Namespace, ns'.Holds conventions (before ++ [i]) ∧
      claimItems conventions ns (i :: items) = ((claimItems conventions ns' items).1,
        claimedItem conventions before i :: (claimItems conventions ns' items).2) := by
  have holder := holds (emittedName conventions i.declaration)
  cases found : before.find? (emittedName conventions ·.declaration ==
      emittedName conventions i.declaration) with
  | some j =>
    refine ⟨ns, holds.taken found, ?_⟩
    rw [found] at holder
    simp only [claimItems, claimedItem, Namespace.claim, holder, found, Option.map_some]
  | none =>
    refine ⟨_, holds.free found, ?_⟩
    rw [found] at holder
    simp only [claimItems, claimedItem, Namespace.claim, holder, found, Option.map_none]

/-- What becomes of the items of a module depends on what they emit and in which order they stand, and the namespace
holds what they emit, whether or not they have got it. -/
theorem claimItems_eq {ns : Namespace} {before : List SchemaItem}
    (holds : ns.Holds conventions before) (items : List SchemaItem) :
    (claimItems conventions ns items).1.Holds conventions (before ++ items) ∧
      (claimItems conventions ns items).2 = claimedFrom conventions before items := by
  induction items generalizing ns before with
  | nil =>
    rw [List.append_nil]
    exact ⟨holds, rfl⟩
  | cons i items ih =>
    obtain ⟨ns', holds', equal⟩ := claimItems_cons holds i items
    obtain ⟨held, rest⟩ := ih holds'
    rw [List.append_assoc, List.singleton_append] at held
    rw [equal, claimedFrom, ← rest]
    exact ⟨held, rfl⟩

theorem claimedFrom_append (before xs ys : List SchemaItem) :
    claimedFrom conventions before (xs ++ ys) =
      claimedFrom conventions before xs ++ claimedFrom conventions (before ++ xs) ys := by
  induction xs generalizing before with
  | nil => simp [claimedFrom]
  | cons x xs ih =>
    rw [List.cons_append, claimedFrom, claimedFrom, ih, List.append_assoc, List.singleton_append,
      List.cons_append]

theorem claimedItem_item (conventions : Conventions) (before : List SchemaItem) (i : SchemaItem) :
    (claimedItem conventions before i).item = i := by
  unfold claimedItem
  dsimp only
  split <;> rfl

theorem claimedItem_of_free {before : List SchemaItem} {i : SchemaItem}
    (free : ∀ j ∈ before,
      emittedName conventions j.declaration ≠ emittedName conventions i.declaration) :
    claimedItem conventions before i = ⟨i, .ok (emittedName conventions i.declaration)⟩ := by
  have unfound : before.find? (emittedName conventions ·.declaration ==
      emittedName conventions i.declaration) = none := by
    simpa using free
  simp only [claimedItem, unfound]

/-- An item without a name has lost it to one in front of it. -/
theorem claimedItem_of_taken {before : List SchemaItem} {i : SchemaItem}
    (taken : ¬ ∀ j ∈ before,
      emittedName conventions j.declaration ≠ emittedName conventions i.declaration) :
    ∃ j ∈ before, emittedName conventions j.declaration = emittedName conventions i.declaration ∧
      claimedItem conventions before i =
        ⟨i, .error (.namingCollision (emittedName conventions i.declaration) j.path.text)⟩ := by
  cases found : before.find? (emittedName conventions ·.declaration ==
      emittedName conventions i.declaration) with
  | none =>
    refine absurd (fun j member => ?_) taken
    simpa using List.find?_eq_none.1 found j member
  | some j =>
    refine ⟨j, List.mem_of_find?_eq_some found, by simpa using List.find?_some found, ?_⟩
    simp only [claimedItem, found]

theorem claimedFrom_items (conventions : Conventions) (before items : List SchemaItem) :
    (claimedFrom conventions before items).map (·.item) = items := by
  induction items generalizing before with
  | nil => rfl
  | cons i items ih => rw [claimedFrom, List.map_cons, ih, claimedItem_item]

theorem claimedFrom_split {items before after : List SchemaItem} {i : SchemaItem}
    (split : items = before ++ i :: after) :
    claimedFrom conventions [] items = claimedFrom conventions [] before ++
      claimedItem conventions before i :: claimedFrom conventions (before ++ [i]) after := by
  rw [split, claimedFrom_append]
  rfl

/-- Every item of a module has become what it becomes behind those in front of it. -/
theorem mem_claimedFrom_iff {items : List SchemaItem} (distinct : (items.map Item.path).Nodup)
    {c : ClaimedItem} :
    c ∈ claimedFrom conventions [] items ↔
      c.item ∈ items ∧ c = claimedItem conventions (itemsBefore c.item.path items) c.item := by
  have stands : ∀ i ∈ items,
      claimedItem conventions (itemsBefore i.path items) i ∈ claimedFrom conventions [] items := by
    intro i member
    obtain ⟨after, split⟩ := exists_split distinct member
    rw [claimedFrom_split split]
    exact List.mem_append_right _ List.mem_cons_self
  constructor
  · intro member
    have item : c.item ∈ items := by
      rw [← claimedFrom_items conventions [] items]
      exact List.mem_map_of_mem member
    refine ⟨item, ?_⟩
    -- The list has one element for each item, so the two with this item are the same.
    have items' : ((claimedFrom conventions [] items).map (·.item)).Nodup := by
      rw [claimedFrom_items]
      exact distinct.of_map
    refine List.inj_on_of_nodup_map items' member (stands _ item) ?_
    rw [claimedItem_item]
  · rintro ⟨item, equal⟩
    rw [equal]
    exact stands _ item

end

/-! ## Entries -/

section

variable {conventions : Conventions} {policy : NamingPolicy} {separator : String}

/-- An item is named at once, or it is a union with a name of its own. -/
theorem ClaimedItem.entry_or_union (conventions : Conventions) (c : ClaimedItem) :
    (∃ x, c.entry? conventions = some (c.item.path, x) ∧ c.union? = none) ∨
      ∃ u, c.entry? conventions = none ∧ c.union? = some u ∧ u.path = c.item.path := by
  obtain ⟨item, name⟩ := c
  cases name with
  | error fault => exact .inl ⟨_, rfl, rfl⟩
  | ok name =>
    obtain ⟨m, d⟩ := item
    cases d with
    | union u => exact .inr ⟨_, rfl, rfl, rfl⟩
    | _ => exact .inl ⟨_, rfl, rfl⟩

theorem entries_paths_perm (conventions : Conventions) (claimed : List ClaimedItem) :
    ((claimed.filterMap (ClaimedItem.entry? conventions)).map (·.1) ++
      (claimed.filterMap ClaimedItem.union?).map (·.path)).Perm (claimed.map (·.item.path)) := by
  induction claimed with
  | nil => exact .nil
  | cons c claimed ih =>
    rw [List.map_cons]
    rcases c.entry_or_union conventions with ⟨x, entry, union⟩ | ⟨u, entry, union, path⟩
    · rw [List.filterMap_cons_some entry, List.filterMap_cons_none union]
      exact ih.cons _
    · rw [List.filterMap_cons_none entry, List.filterMap_cons_some union, List.map_cons, path]
      exact List.perm_middle.trans (ih.cons _)

/-- A module makes one entry for each of its items. -/
theorem nameItems_paths_perm (items : List SchemaItem) :
    ((nameItems conventions policy separator items).map (·.1)).Perm (items.map Item.path) := by
  have claimed := (claimItems_eq (Namespace.holds_nil conventions) items).2
  have paths := congrArg (List.map Item.path) (claimedFrom_items conventions [] items)
  rw [List.map_map] at paths
  unfold nameItems
  dsimp only
  rw [List.map_append, nameUnions_paths, claimed]
  exact (entries_paths_perm conventions _).trans (.of_eq paths)

end

section

variable {conventions : Conventions} {policy : NamingPolicy} {separator : String}
  {reserved : List (String × String)} {document : Document}

theorem Document.itemsOf_paths_nodup (document : Document) (m : ModulePath) :
    ((document.resolve.itemsOf m).map Item.path).Nodup :=
  (List.filter_sublist.map _).nodup document.resolve_items_paths_nodup

theorem Resolved.mem_itemsOf {r : Resolved} {m : ModulePath} {i : SchemaItem} :
    i ∈ r.itemsOf m ↔ i ∈ r.items ∧ i.module = m := by
  simp [itemsOf]

theorem Document.module_mem_modulePaths (document : Document) {i : SchemaItem}
    (item : i ∈ document.resolve.items) : i.module ∈ document.resolve.modulePaths :=
  ((standsIn_resolve_iff document).1 (mem_items_iff.1 item).1).1

/-- The entry of an item in the table is the one that its module makes for it. -/
theorem get?_eq_some_iff {i : SchemaItem} (item : i ∈ document.resolve.items)
    {x : Except Fault DeclarationNames} :
    (NameTable.build conventions policy separator reserved document.resolve).get? i.path = some x ↔
      (i.path, x) ∈ nameItems conventions policy separator (document.resolve.itemsOf i.module) := by
  have distinct : ((nameItems conventions policy separator
      (document.resolve.itemsOf i.module)).map (·.1)).Nodup :=
    (nameItems_paths_perm _).nodup_iff.2 (document.itemsOf_paths_nodup i.module)
  have made : ∀ y, (NameTable.build conventions policy separator reserved document.resolve).get? i.path =
      some y →
      (i.path, y) ∈ nameItems conventions policy separator (document.resolve.itemsOf i.module) := by
    intro y found
    obtain ⟨j, item', entry, member⟩ := mem_build_entries (mem_of_lookup_eq_some found)
    obtain rfl := eq_of_path_eq document.resolve_items_paths_nodup item item' entry.path
    exact member
  refine ⟨made x, fun member => ?_⟩
  -- The look-up finds an entry for the path, and the module makes only one.
  have listed : (i.path, x) ∈
      (NameTable.build conventions policy separator reserved document.resolve).entries :=
    List.mem_flatMap.2 ⟨i.module, document.module_mem_modulePaths item, member⟩
  cases found : (NameTable.build conventions policy separator reserved document.resolve).get? i.path with
  | none =>
    have missing := List.lookup_eq_none_iff.1 found _ listed
    exact absurd missing (by simp)
  | some y =>
    have same := List.inj_on_of_nodup_map distinct member (made y found) rfl
    rw [(Prod.mk.inj same).2]

/-- Every item has an entry. -/
theorem exists_get? {i : SchemaItem} (item : i ∈ document.resolve.items) :
    ∃ x, (NameTable.build conventions policy separator reserved document.resolve).get? i.path =
      some x := by
  have path : i.path ∈ (nameItems conventions policy separator
      (document.resolve.itemsOf i.module)).map (·.1) :=
    (nameItems_paths_perm _).mem_iff.2
      (List.mem_map_of_mem (Resolved.mem_itemsOf.2 ⟨item, rfl⟩))
  obtain ⟨⟨p, x⟩, member, rfl⟩ := List.mem_map.1 path
  exact ⟨x, (get?_eq_some_iff item).2 member⟩

end

end SchemaBindings
