import Mathlib.Data.List.TakeWhile
import SchemaBindings.Proofs.Crowding

/-!
# Entries of unions

What the table of a resolved document says of a union, as a statement about the items of its module.

* At the turn of a union a name is taken if an item of the module emits it, or a variant of a union in front has got it
  (`HasName`).
* A union with a name of its own is named exactly if the fields of each variant differ, its names are distinct, and no
  item has one of them (`get?_union_eq_ok_iff`); otherwise its fault says which of these fails (`UnionFault`).
-/

namespace SchemaBindings

open Declaration

/-! ## Entries -/

section

variable {conventions : Conventions} {policy : NamingPolicy} {separator : String}
  {reserved : List (String × String)} {document : Document} {i : SchemaItem}

/-- What is named at once has no variants. -/
theorem entry?_eq_ok {c : ClaimedItem} {p : SchemaPath} {own : DeclarationNames}
    (entry : c.entry? conventions = some (p, .ok own)) :
    c.name = .ok own.identifier ∧ own.variants = [] := by
  obtain ⟨⟨m, d⟩, name⟩ := c
  cases name with
  | error fault => exact absurd entry (by simp [ClaimedItem.entry?])
  | ok name =>
    cases d with
    | union u => exact absurd entry (by simp [ClaimedItem.entry?])
    | struct s =>
      obtain ⟨-, named⟩ := Prod.mk.inj (Option.some.inj entry)
      obtain ⟨-, -, same⟩ := bind_eq_ok.1 named
      cases same
      exact ⟨rfl, rfl⟩
    | _ =>
      cases entry
      exact ⟨rfl, rfl⟩

/-- The entries of a module are those of the items that are named at once, and those of the unions. -/
theorem nameItems_eq (conventions : Conventions) (policy : NamingPolicy) (separator : String)
    (items : List SchemaItem) :
    nameItems conventions policy separator items =
      (claimedFrom conventions [] items).filterMap (ClaimedItem.entry? conventions) ++
        nameUnions conventions policy separator (occurrencesIn conventions items)
          (claimItems conventions {} items).1 (unionsFrom conventions [] items) := by
  have claimed : (claimItems conventions {} items).2 = claimedFrom conventions [] items :=
    (claimItems_eq (Namespace.holds_nil conventions) items).2
  unfold occurrencesIn unionsFrom
  rw [← claimed]
  rfl

theorem path_ne_of_mem_itemsBefore {p : SchemaPath} {items : List SchemaItem} {j : SchemaItem}
    (before : j ∈ itemsBefore p items) : j.path ≠ p := by
  simpa using List.mem_takeWhile_imp before

theorem mem_of_mem_itemsBefore {p : SchemaPath} {items : List SchemaItem} {j : SchemaItem}
    (before : j ∈ itemsBefore p items) : j ∈ items :=
  (List.takeWhile_sublist _).subset before

/-- The namespace at the turn of a union. -/
def atTurn (conventions : Conventions) (policy : NamingPolicy) (separator : String)
    (items : List SchemaItem) (i : SchemaItem) : Namespace :=
  (unionsFrom conventions [] (itemsBefore i.path items)).foldl
    (afterUnion conventions policy separator (occurrencesIn conventions items))
    (claimItems conventions {} items).1

/-- At the turn of a union, the namespace holds what the items emit and the variants of the unions in front. -/
theorem holder?_atTurn {items : List SchemaItem} {u : Union TypeRef}
    (distinct : (items.map Item.path).Nodup) (member : i ∈ items)
    (declared : i.declaration = .union u) (claims : ClaimsName conventions items i)
    (name label : String) :
    (atTurn conventions policy separator items i).holder? name = some label ↔
      (claimItems conventions {} items).1.holder? name = some label ∨
        ∃ j ∈ itemsBefore i.path items, ∃ own,
          (j.path, .ok own) ∈ nameItems conventions policy separator items ∧
            name ∈ own.variants ∧ label = j.path.text := by
  obtain ⟨later, split, -, late⟩ := unionsFrom_split distinct member declared claims
  have entries := nameItems_eq conventions policy separator items
  rw [split, nameUnions_append, nameUnions_cons] at entries
  unfold atTurn
  rw [holder?_foldl_afterUnion]
  refine or_congr_right ?_
  constructor
  · rintro ⟨p, own, named, variant, rfl⟩
    have path := List.mem_map_of_mem (f := (·.1)) named
    rw [nameUnions_paths] at path
    obtain ⟨c, among, same⟩ := List.mem_map.1 path
    obtain ⟨j, before, same', -⟩ := mem_unionsFrom among
    obtain rfl : p = j.path := same.symm.trans same'
    refine ⟨j, before, own, ?_, variant, rfl⟩
    rw [entries]
    exact List.mem_append_right _ (List.mem_append_left _ named)
  · rintro ⟨j, before, own, entry, variant, rfl⟩
    refine ⟨j.path, own, ?_, variant, rfl⟩
    rw [entries] at entry
    rcases List.mem_append.1 entry with atOnce | union
    · obtain ⟨c, -, entry⟩ := List.mem_filterMap.1 atOnce
      rw [(entry?_eq_ok entry).2] at variant
      exact absurd variant List.not_mem_nil
    · rcases List.mem_append.1 union with early | behind
      · exact early
      · -- No item in front of the union is a union from there on.
        have path := List.mem_map_of_mem (f := (·.1)) behind
        rw [List.map_cons, nameUnions_paths] at path
        rcases List.mem_cons.1 path with same | after
        · exact absurd same (path_ne_of_mem_itemsBefore before)
        · obtain ⟨c, among, same⟩ := List.mem_map.1 after
          exact absurd same ((late c among).2 j before)

/-- The item `j` has the name at the turn of the union `i`: it emits it, or it stands in front of the union and one of
its variants has got it. -/
def HasName (conventions : Conventions) (table : NameTable) (items : List SchemaItem)
    (i j : SchemaItem) (name : String) : Prop :=
  emittedName conventions j.declaration = name ∨
    j ∈ itemsBefore i.path items ∧
      ∃ own, table.get? j.path = some (.ok own) ∧ name ∈ own.variants

/-- A union with a name of its own is named in a namespace that holds the names that the items have at its turn. -/
theorem get?_union (item : i ∈ document.resolve.items) {u : Union TypeRef}
    (declared : i.declaration = .union u)
    (claims : ClaimsName conventions (document.resolve.itemsOf i.module) i) :
    (NameTable.build conventions policy separator reserved document.resolve).get? i.path =
      some (unionEntry conventions policy separator
        (occurrencesIn conventions (document.resolve.itemsOf i.module))
        (atTurn conventions policy separator (document.resolve.itemsOf i.module) i)
        ⟨i.path, u, emittedName conventions i.declaration⟩) := by
  have member : i ∈ document.resolve.itemsOf i.module := Resolved.mem_itemsOf.2 ⟨item, rfl⟩
  obtain ⟨later, split, -⟩ :=
    unionsFrom_split (document.itemsOf_paths_nodup i.module) member declared claims
  rw [get?_eq_some_iff item, nameItems_eq, split, nameUnions_append, nameUnions_cons]
  exact List.mem_append_right _ (List.mem_append_right _ List.mem_cons_self)

theorem holder?_atTurn_hasName (item : i ∈ document.resolve.items) {u : Union TypeRef}
    (declared : i.declaration = .union u)
    (claims : ClaimsName conventions (document.resolve.itemsOf i.module) i)
    (reserved : List (String × String)) {name label : String}
    (held : (atTurn conventions policy separator (document.resolve.itemsOf i.module) i).holder? name =
      some label) :
    ∃ j ∈ document.resolve.itemsOf i.module,
      HasName conventions (NameTable.build conventions policy separator reserved document.resolve)
        (document.resolve.itemsOf i.module) i j name ∧ label = j.path.text := by
  have member : i ∈ document.resolve.itemsOf i.module := Resolved.mem_itemsOf.2 ⟨item, rfl⟩
  have distinct := document.itemsOf_paths_nodup i.module
  rcases (holder?_atTurn distinct member declared claims _ _).1 held with
    emitted | ⟨j, before, own, entry, variant, rfl⟩
  · have first : (claimItems conventions {} (document.resolve.itemsOf i.module)).1.holder? name = _ :=
      (claimItems_eq (Namespace.holds_nil conventions) (document.resolve.itemsOf i.module)).1 name
    rw [first, Option.map_eq_some_iff] at emitted
    obtain ⟨j, found, rfl⟩ := emitted
    refine ⟨j, List.mem_of_find?_eq_some found, .inl ?_, rfl⟩
    simpa using List.find?_some found
  · have among := mem_of_mem_itemsBefore before
    obtain ⟨item', inside⟩ := Resolved.mem_itemsOf.1 among
    rw [← inside] at entry
    exact ⟨j, among, .inr ⟨before, own, (get?_eq_some_iff item').2 entry, variant⟩, rfl⟩

theorem mem_names_atTurn (reserved : List (String × String)) (item : i ∈ document.resolve.items) {u : Union TypeRef}
    (declared : i.declaration = .union u)
    (claims : ClaimsName conventions (document.resolve.itemsOf i.module) i) {name : String} :
    name ∈ (atTurn conventions policy separator (document.resolve.itemsOf i.module) i).names ↔
      ∃ j ∈ document.resolve.itemsOf i.module,
        HasName conventions (NameTable.build conventions policy separator reserved document.resolve)
          (document.resolve.itemsOf i.module) i j name := by
  have member : i ∈ document.resolve.itemsOf i.module := Resolved.mem_itemsOf.2 ⟨item, rfl⟩
  have distinct := document.itemsOf_paths_nodup i.module
  rw [Namespace.mem_names_iff]
  constructor
  · rintro ⟨label, held⟩
    obtain ⟨j, among, has, -⟩ := holder?_atTurn_hasName item declared claims reserved held
    exact ⟨j, among, has⟩
  · rintro ⟨j, among, emitted | ⟨before, own, found, variant⟩⟩
    · have held : name ∈ (claimItems conventions {} (document.resolve.itemsOf i.module)).1.names ↔ _ :=
        (claimItems_eq (Namespace.holds_nil conventions) (document.resolve.itemsOf i.module)).1.names
      obtain ⟨label, holder⟩ := Namespace.mem_names_iff.1 (held.2 ⟨j, among, emitted⟩)
      exact ⟨label, (holder?_atTurn distinct member declared claims _ _).2 (.inl holder)⟩
    · obtain ⟨item', inside⟩ := Resolved.mem_itemsOf.1 among
      rw [get?_eq_some_iff item', inside] at found
      exact ⟨_, (holder?_atTurn distinct member declared claims _ _).2
        (.inr ⟨j, before, own, found, variant, rfl⟩)⟩

/-! ## Success and failure -/

/-- An item whose name has been taken fails for it. -/
theorem get?_of_not_claimsName (policy : NamingPolicy) (separator : String)
    (reserved : List (String × String)) (item : i ∈ document.resolve.items)
    (lost : ¬ ClaimsName conventions (document.resolve.itemsOf i.module) i) :
    ∃ j ∈ itemsBefore i.path (document.resolve.itemsOf i.module),
      emittedName conventions j.declaration = emittedName conventions i.declaration ∧
        (NameTable.build conventions policy separator reserved document.resolve).get? i.path =
          some (.error (.namingCollision (emittedName conventions i.declaration) j.path.text)) := by
  have member : i ∈ document.resolve.itemsOf i.module := Resolved.mem_itemsOf.2 ⟨item, rfl⟩
  obtain ⟨j, before, same, claimed⟩ := claimedItem_of_taken lost
  refine ⟨j, before, same, ?_⟩
  have among : claimedItem conventions (itemsBefore i.path (document.resolve.itemsOf i.module)) i ∈
      claimedFrom conventions [] (document.resolve.itemsOf i.module) := by
    refine (mem_claimedFrom_iff (document.itemsOf_paths_nodup i.module)).2 ?_
    rw [claimedItem_item]
    exact ⟨member, rfl⟩
  rw [get?_eq_some_iff item, nameItems_eq]
  refine List.mem_append_left _ (List.mem_filterMap.2 ⟨_, among, ?_⟩)
  rw [claimed]
  rfl

/-- An item that is named has got its own name. -/
theorem claimsName_of_get? (item : i ∈ document.resolve.items) {own : DeclarationNames}
    (found : (NameTable.build conventions policy separator reserved document.resolve).get? i.path =
      some (.ok own)) :
    ClaimsName conventions (document.resolve.itemsOf i.module) i := by
  by_contra lost
  obtain ⟨j, -, -, failed⟩ := get?_of_not_claimsName policy separator reserved item lost
  exact absurd (found.symm.trans failed) (by simp)

/-- A union with a name of its own is named if the fields of each variant differ, and its names are distinct and had
by no item. -/
theorem get?_union_eq_ok_iff (item : i ∈ document.resolve.items) {u : Union TypeRef}
    (declared : i.declaration = .union u)
    (claims : ClaimsName conventions (document.resolve.itemsOf i.module) i)
    {own : DeclarationNames} :
    let table := NameTable.build conventions policy separator reserved document.resolve
    let items := document.resolve.itemsOf i.module
    let names := variantNamesOf conventions policy separator items i
    table.get? i.path = some (.ok own) ↔
      ((∀ v ∈ u.variants, v.fields.Pairwise (FieldsDiffer conventions)) ∧ names.Nodup ∧
        ∀ name ∈ names, ¬ ∃ j ∈ items, HasName conventions table items i j name) ∧
      own = ⟨emittedName conventions i.declaration, names,
        decide (Qualifies conventions policy items i)⟩ := by
  intro table items names
  have member : i ∈ items := Resolved.mem_itemsOf.2 ⟨item, rfl⟩
  have distinct := document.itemsOf_paths_nodup i.module
  have qualified : isQualified policy (occurrencesIn conventions items) (flatNames conventions u) =
      decide (Qualifies conventions policy items i) := by
    rw [Bool.eq_iff_iff, decide_eq_true_iff]
    exact isQualified_iff policy distinct member declared claims
  have chosen := chosenNames_eq policy separator distinct member declared claims
  rw [get?_union item declared claims, Option.some.injEq, unionEntry_eq_ok]
  refine and_congr ?_ ?_
  · simp only [claimVariants_eq_ok, exists_and_left, Namespace.exists_claimAll_iff,
      mem_names_atTurn reserved item declared claims]
    rw [chosen]
  · rw [chosen, qualified]

theorem get?_union_fails_iff (policy : NamingPolicy) (separator : String)
    (reserved : List (String × String)) (item : i ∈ document.resolve.items) {u : Union TypeRef}
    (declared : i.declaration = .union u)
    (claims : ClaimsName conventions (document.resolve.itemsOf i.module) i) :
    let table := NameTable.build conventions policy separator reserved document.resolve
    let items := document.resolve.itemsOf i.module
    let names := variantNamesOf conventions policy separator items i
    (∃ fault, table.get? i.path = some (.error fault)) ↔
      ¬ ((∀ v ∈ u.variants, v.fields.Pairwise (FieldsDiffer conventions)) ∧ names.Nodup ∧
        ∀ name ∈ names, ¬ ∃ j ∈ items, HasName conventions table items i j name) := by
  intro table items names
  obtain ⟨x, found⟩ : ∃ x, table.get? i.path = some x := exists_get? item
  constructor
  · rintro ⟨fault, failed⟩ fine
    have named := (get?_union_eq_ok_iff item declared claims).2 ⟨fine, rfl⟩
    exact absurd (failed.symm.trans named) (by simp)
  · intro unfine
    cases x with
    | error fault => exact ⟨fault, found⟩
    | ok own => exact absurd ((get?_union_eq_ok_iff item declared claims).1 found).1 unfine

/-- A declaration without variants has none in the table either. -/
theorem variants_eq_nil (item : i ∈ document.resolve.items) (single : ∀ u, i.declaration ≠ .union u)
    {own : DeclarationNames}
    (found : (NameTable.build conventions policy separator reserved document.resolve).get? i.path =
      some (.ok own)) :
    own.variants = [] := by
  rw [get?_eq_some_iff item, nameItems_eq] at found
  rcases List.mem_append.1 found with atOnce | union
  · obtain ⟨c, -, entry⟩ := List.mem_filterMap.1 atOnce
    exact (entry?_eq_ok entry).2
  · have path := List.mem_map_of_mem (f := (·.1)) union
    rw [nameUnions_paths] at path
    obtain ⟨c, among, same⟩ := List.mem_map.1 path
    obtain ⟨j, member, same', declared⟩ := mem_unionsFrom among
    have equal : j = i := by
      refine eq_of_path_eq (document.itemsOf_paths_nodup i.module) member ?_ (same'.symm.trans same)
      exact Resolved.mem_itemsOf.2 ⟨item, rfl⟩
    rw [equal] at declared
    exact absurd declared (single _)

/-- The variants of an item have the names that were chosen for them, one for each variant. -/
theorem variants_eq (item : i ∈ document.resolve.items) {own : DeclarationNames}
    (found : (NameTable.build conventions policy separator reserved document.resolve).get? i.path =
      some (.ok own)) :
    own.variants = variantNamesOf conventions policy separator
      (document.resolve.itemsOf i.module) i := by
  by_cases union : ∃ u, i.declaration = .union u
  · obtain ⟨u, declared⟩ := union
    have claims := claimsName_of_get? item found
    rw [((get?_union_eq_ok_iff item declared claims).1 found).2]
  · have single : i.declaration.variantNames = [] := by
      cases declared : i.declaration with
      | union u => exact absurd ⟨u, declared⟩ union
      | _ => rfl
    rw [variants_eq_nil item (fun u declared => union ⟨u, declared⟩) found, variantNamesOf,
      qualifiedNamesOf, flatNamesOf, single]
    simp

/-- Every name of a variant comes from a union, which has made its choice. -/
theorem union_of_variant (item : i ∈ document.resolve.items) {own : DeclarationNames}
    (found : (NameTable.build conventions policy separator reserved document.resolve).get? i.path =
      some (.ok own)) {name : String} (variant : name ∈ own.variants) :
    own.qualified = decide (Qualifies conventions policy (document.resolve.itemsOf i.module) i) := by
  by_cases union : ∃ u, i.declaration = .union u
  · obtain ⟨u, declared⟩ := union
    have claims := claimsName_of_get? item found
    rw [((get?_union_eq_ok_iff item declared claims).1 found).2]
  · rw [variants_eq_nil item (fun u declared => union ⟨u, declared⟩) found] at variant
    exact absurd variant List.not_mem_nil

/-- Why a union with a name of its own fails. -/
inductive UnionFault (conventions : Conventions) (table : NameTable) (items : List SchemaItem)
    (i : SchemaItem) (u : Union TypeRef) (names : List String) : Fault → Prop
  /-- Two fields of a variant have a spelling in common. -/
  | field {v : Variant TypeRef} {f g : Field TypeRef} {k : Nat} {name : String} : v ∈ u.variants →
      [f, g].Sublist v.fields → (conventions.fieldNames f.name)[k]? = some name →
      (conventions.fieldNames g.name)[k]? = some name →
      UnionFault conventions table items i u names
        (.namingCollision name (fieldLabel (i.path.text ++ "." ++ v.name) f))
  /-- Another item has the name of a variant. -/
  | taken {j : SchemaItem} {name : String} : name ∈ names → j ∈ items →
      HasName conventions table items i j name →
      UnionFault conventions table items i u names (.namingCollision name j.path.text)
  /-- Two variants have the same name. -/
  | repeated {name : String} : 2 ≤ names.count name →
      UnionFault conventions table items i u names (.namingCollision name i.path.text)

theorem get?_union_eq_error (item : i ∈ document.resolve.items) {u : Union TypeRef}
    (declared : i.declaration = .union u)
    (claims : ClaimsName conventions (document.resolve.itemsOf i.module) i) {fault : Fault} :
    let table := NameTable.build conventions policy separator reserved document.resolve
    let items := document.resolve.itemsOf i.module
    table.get? i.path = some (.error fault) →
      UnionFault conventions table items i u
        (variantNamesOf conventions policy separator items i) fault := by
  intro table items failed
  have member : i ∈ items := Resolved.mem_itemsOf.2 ⟨item, rfl⟩
  have distinct := document.itemsOf_paths_nodup i.module
  rw [get?_union item declared claims, Option.some.injEq] at failed
  refine FaultsIn.bind (P := UnionFault conventions table items i u
    (variantNamesOf conventions policy separator items i)) ?_ (fun _ _ => .ok _) fault failed
  refine .bind (.forM fun v among fault failed => ?_) fun _ _ fault failed => ?_
  · obtain ⟨f, g, sublist, k, name, spelled, spelled', rfl⟩ := checkFieldNames_eq_error failed
    exact .field among sublist spelled spelled'
  · rw [chosenNames_eq policy separator distinct member declared claims] at failed
    obtain ⟨name, chosen, ⟨takenBy, held, rfl⟩ | ⟨twice, rfl⟩⟩ := Namespace.claimAll_eq_error failed
    · obtain ⟨j, among, has, rfl⟩ := holder?_atTurn_hasName item declared claims reserved held
      exact .taken chosen among has
    · exact .repeated twice

end

end SchemaBindings
