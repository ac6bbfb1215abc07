import SchemaBindings.Proofs.ModulePlaces
import SchemaBindings.Proofs.ReferenceClosure
import SchemaBindings.Proofs.UnionEntries

/-!
# Names in the types of what is emitted

What the texts of types are made of.

* A declaration that is named has the name that it emits (`identifier_eq`), so a reference is always written with the
  `UpperCamel` spelling of the name that it refers to (`identifierOf_eq`).
* A generic parameter is one of the generics of its declaration, and an identifier (`mem_generics_of_param`).
* If the modules of its references are named by identifiers, what an emitted declaration refers to is emitted
  (`exists_referent`), and it can be told by its place in the output (`Emitted.eq_of_place`).
-/

namespace SchemaBindings

open Declaration

/-! ## Inside types -/

namespace SchemaType

variable {ν : Type}

/-- What holds of a type if it holds of the types that it is built from holds of all. -/
theorem children_induction {P : SchemaType ν → Prop} (step : ∀ t, (∀ u ∈ t.children, P u) → P t)
    (t : SchemaType ν) : P t :=
  step t fun u _ => children_induction step u
termination_by sizeOf t
decreasing_by
  rename_i child
  cases t with
  | scalar s | param g => exact absurd child (by simp [children])
  | tuple elements | named p arguments =>
    have smaller := List.sizeOf_lt_of_mem child
    simp only [children] at smaller
    simp only [tuple.sizeOf_spec, named.sizeOf_spec]
    omega
  | list item | array item length | option item | hashSet item =>
    obtain rfl := List.mem_singleton.1 child
    simp only [list.sizeOf_spec, array.sizeOf_spec, option.sizeOf_spec, hashSet.sizeOf_spec]
    omega
  | map key value =>
    rw [map.sizeOf_spec]
    rcases List.mem_cons.1 child with rfl | last
    · omega
    · obtain rfl := List.mem_singleton.1 last
      omega

theorem mem_walk_iff {t u : SchemaType ν} : u ∈ t.walk ↔ u = t ∨ ∃ v ∈ t.children, u ∈ v.walk := by
  rw [walk_eq_cons, List.mem_cons, List.mem_flatMap]

theorem mem_walk_trans {t u v : SchemaType ν} (inner : u ∈ v.walk) (outer : v ∈ t.walk) : u ∈ t.walk := by
  induction t using children_induction with
  | step t ih =>
    rcases mem_walk_iff.1 outer with rfl | ⟨w, child, inside⟩
    · exact inner
    · exact mem_walk_iff.2 (.inr ⟨w, child, ih w child inside⟩)

theorem mem_references_of_child {t u : SchemaType ν} (child : u ∈ t.children) {name : ν}
    (referred : name ∈ u.references) : name ∈ t.references := by
  obtain ⟨arguments, inside⟩ := mem_references.1 referred
  exact mem_references.2 ⟨arguments, mem_walk_iff.2 (.inr ⟨u, child, inside⟩)⟩

end SchemaType

/-! ## Names of declarations -/

section

variable {conventions : Conventions} {policy : NamingPolicy} {separator : String}
  {reserved : List (String × String)} {document : Document} {i : SchemaItem}

theorem claimedItem_eq_ok {before : List SchemaItem} {name : String}
    (named : (claimedItem conventions before i).name = .ok name) :
    name = emittedName conventions i.declaration := by
  unfold claimedItem at named
  dsimp only at named
  split at named
  · exact absurd named (by simp)
  · exact (Except.ok.inj named).symm

theorem entry?_path {c : ClaimedItem} {e : NameEntry} (entry : c.entry? conventions = some e) :
    e.1 = c.item.path := by
  unfold ClaimedItem.entry? at entry
  split at entry
  · cases entry
    rfl
  · split at entry
    · exact absurd entry (by simp)
    · cases entry
      rfl
    · cases entry
      rfl

/-- An item that is named has the name that its declaration emits. -/
theorem identifier_eq (item : i ∈ document.resolve.items) {own : DeclarationNames}
    (found : (NameTable.build conventions policy separator reserved document.resolve).get? i.path =
      some (.ok own)) :
    own.identifier = emittedName conventions i.declaration := by
  have distinct := document.itemsOf_paths_nodup i.module
  have member : i ∈ document.resolve.itemsOf i.module := Resolved.mem_itemsOf.2 ⟨item, rfl⟩
  by_cases union : ∃ u, i.declaration = .union u
  · obtain ⟨u, declared⟩ := union
    rw [((get?_union_eq_ok_iff item declared (claimsName_of_get? item found)).1 found).2]
  · rw [get?_eq_some_iff item, nameItems_eq] at found
    rcases List.mem_append.1 found with atOnce | later
    · obtain ⟨c, claimed, entry⟩ := List.mem_filterMap.1 atOnce
      obtain ⟨among, equal⟩ := (mem_claimedFrom_iff distinct).1 claimed
      obtain rfl : c.item = i := eq_of_path_eq distinct among member (entry?_path entry).symm
      have named := (entry?_eq_ok entry).1
      rw [equal] at named
      exact claimedItem_eq_ok named
    · have path := List.mem_map_of_mem (f := (·.1)) later
      rw [nameUnions_paths] at path
      obtain ⟨c, among, same⟩ := List.mem_map.1 path
      obtain ⟨j, member', same', declared⟩ := mem_unionsFrom among
      obtain rfl : j = i := eq_of_path_eq distinct member' member (same'.symm.trans same)
      exact absurd ⟨_, declared⟩ union

end

/-! ## Types of declarations -/

section

variable {document : Document} {i : SchemaItem}

theorem Document.ResolvesTo.genericCount?_eq {m : ModulePath} {d : DeclarationExpr}
    {d' : SchemaDeclaration} (resolves : document.ResolvesTo m d d') :
    d'.genericCount? = d.genericCount? := by
  cases resolves <;> rfl

theorem Document.ResolvesTo.fieldNames_eq {m : ModulePath} {d : DeclarationExpr}
    {d' : SchemaDeclaration} (resolves : document.ResolvesTo m d d') :
    d'.records.map (·.map (·.name)) = d.records.map (·.map (·.name)) := by
  cases resolves with
  | struct s => exact congrArg ([·]) (map_name_map_field _ s.fields)
  | union u =>
    have each : ∀ v : Variant TypeExpr, (v.map (document.resolved m)).fields.map (·.name) =
        v.fields.map (·.name) := fun v => map_name_map_field _ v.fields
    simp [Declaration.records, Union.map, each]
  | _ => rfl

theorem isIdentifier_name (item : i ∈ document.resolve.items) : isIdentifier i.declaration.name := by
  obtain ⟨-, d, -, formed, resolves⟩ := (standsIn_resolve_iff document).1 (mem_items_iff.1 item).1
  rw [resolves.name_eq]
  exact formed.name

theorem mem_types_of_record {d : SchemaDeclaration} {fields : List (Field TypeRef)} (record : fields ∈ d.records)
    {f : Field TypeRef} (field : f ∈ fields) : f.type ∈ d.types := by
  cases d with
  | struct s =>
    rw [List.mem_singleton.1 record] at field
    exact List.mem_map_of_mem field
  | union u =>
    obtain ⟨v, variant, rfl⟩ := List.mem_map.1 record
    exact List.mem_flatMap.2 ⟨v, variant, List.mem_map_of_mem field⟩
  | typeAlias a | const c | module _ _ _ => exact absurd record List.not_mem_nil

theorem isIdentifier_generic (item : i ∈ document.resolve.items) {g : String}
    (generic : g ∈ i.declaration.generics) : isIdentifier g := by
  obtain ⟨-, d, -, formed, resolves⟩ := (standsIn_resolve_iff document).1 (mem_items_iff.1 item).1
  exact formed.generics.identifiers g (resolves.generics_eq ▸ generic)

theorem isIdentifier_variantName (item : i ∈ document.resolve.items) {name : String}
    (variant : name ∈ i.declaration.variantNames) : isIdentifier name := by
  obtain ⟨-, d, -, formed, resolves⟩ := (standsIn_resolve_iff document).1 (mem_items_iff.1 item).1
  exact formed.variants.identifiers name (resolves.variantNames_eq ▸ variant)

theorem isIdentifier_fieldName (item : i ∈ document.resolve.items) {fields : List (Field TypeRef)}
    (record : fields ∈ i.declaration.records) {f : Field TypeRef} (field : f ∈ fields) :
    isIdentifier f.name := by
  obtain ⟨-, d, -, formed, resolves⟩ := (standsIn_resolve_iff document).1 (mem_items_iff.1 item).1
  have listed := List.mem_map_of_mem (f := fun fields : List (Field TypeRef) => fields.map (·.name)) record
  rw [resolves.fieldNames_eq] at listed
  obtain ⟨source, among, same⟩ := List.mem_map.1 listed
  refine (formed.fields source among).identifiers f.name ?_
  rw [same]
  exact List.mem_map_of_mem field

/-- An item at the path of a declared type is a struct, a union or an alias. -/
theorem genericCount?_of_genericCountAt? (item : i ∈ document.resolve.items) :
    document.genericCountAt? i.path = i.declaration.genericCount? := by
  obtain ⟨-, d, declared, -, resolves⟩ :=
    (standsIn_resolve_iff document).1 (mem_items_iff.1 item).1
  rw [resolves.genericCount?_eq, Item.path, SchemaPath.child, Document.genericCountAt?_append, declared]
  rfl

theorem emittedName_of_genericCount? (conventions : Conventions) {d : SchemaDeclaration} {k : Nat}
    (count : d.genericCount? = some k) : emittedName conventions d = conventions.typeName d.name := by
  cases d with
  | const c => exact absurd count (by simp [Declaration.genericCount?])
  | _ => rfl

/-- A generic parameter inside the types of an item is one of its generics, and an identifier. -/
theorem mem_generics_of_param (item : i ∈ document.resolve.items) {t : TypeRef} {g : String}
    (type : t ∈ i.declaration.types) (inside : .param g ∈ t.walk) :
    g ∈ i.declaration.generics ∧ isIdentifier g := by
  obtain ⟨source, admitted, made⟩ := document.exists_admitted item type inside
  cases source with
  | param name =>
    obtain rfl : name = g := SchemaType.param.inj made
    exact ⟨admitted, isIdentifier_generic item admitted⟩
  | _ => exact absurd made (by simp [Document.resolved, SchemaType.rename])

/-- The generics of an item are the parameters inside its types. -/
theorem mem_generics_iff (item : i ∈ document.resolve.items) (g : String) :
    g ∈ i.declaration.generics ↔ ∃ t ∈ i.declaration.types, .param g ∈ t.walk := by
  constructor
  · intro generic
    obtain ⟨-, d, -, formed, resolves⟩ := (standsIn_resolve_iff document).1 (mem_items_iff.1 item).1
    obtain ⟨source, among, inside⟩ := formed.used g (resolves.generics_eq ▸ generic)
    refine ⟨document.resolved i.module source, ?_, ?_⟩
    · rw [resolves.types_eq]
      exact List.mem_map_of_mem among
    · rw [Document.resolved, SchemaType.walk_rename]
      exact List.mem_map_of_mem inside
  · rintro ⟨t, type, inside⟩
    exact (mem_generics_of_param item type inside).1

end

/-! ## References -/

section

variable {document : Document} {target : Target} {config : Config} {c : Candidate}

/-- Every reference is written with the `UpperCamel` spelling of the name that it refers to. -/
theorem identifierOf_eq (spelling : target.conventions.typeName = Text.upperCamel)
    (member : c ∈ plan target config (runNames target config document.resolve) document.resolve)
    {p : SchemaPath} (referred : p ∈ c.references) (m : ModulePath) :
    RenderContext.identifierOf ⟨config, runNames target config document.resolve, m⟩ p =
      Text.upperCamel p.name := by
  obtain ⟨t, type, inside⟩ := Declaration.mem_references.1 referred
  obtain ⟨k, declared⟩ := document.declared_of_mem_references (item_of_mem_plan member) type inside
  unfold RenderContext.identifierOf NameTable.identifier?
  split
  · next own found =>
    obtain ⟨i, item, rfl, -⟩ := exists_item_of_get? found
    rw [genericCount?_of_genericCountAt? item] at declared
    rw [Option.getD_some, identifier_eq item found, emittedName_of_genericCount? _ declared, spelling,
      Item.path, SchemaPath.name_child]
  · rfl

end

/-- The modules of what a ready candidate refers to are named by identifiers. Other modules are left out by resolution,
and so is what they hold. -/
def ReferToIdentifiers (cs : List Candidate) : Prop :=
  ∀ c ∈ cs, c.isReady = true → ∀ p ∈ c.references, ∀ name ∈ p.module, isIdentifier name

def Emitted (target : Target) (config : Config) (document : Document) (p : SchemaPath) : Prop :=
  ∃ d ∈ plan target config (runNames target config document.resolve) document.resolve,
    d.isReady = true ∧ d.path = p

section

variable {document : Document} {target : Target} {config : Config} {p q : SchemaPath}

theorem exists_referent {c : Candidate}
    (closed : ReferToIdentifiers
      (plan target config (runNames target config document.resolve) document.resolve))
    (member : c ∈ plan target config (runNames target config document.resolve) document.resolve)
    (ready : c.isReady = true) (referred : p ∈ c.references) : Emitted target config document p :=
  (rendered_iff_identifiers member ready referred).2 (closed c member ready p referred)

theorem Emitted.module_identifiers (emitted : Emitted target config document p) :
    ∀ segment ∈ p.module, isIdentifier segment := by
  obtain ⟨d, member, -, rfl⟩ := emitted
  exact identifiers_of_mem_plan member

theorem Emitted.isIdentifier_name (emitted : Emitted target config document p) : isIdentifier p.name := by
  obtain ⟨d, member, -, rfl⟩ := emitted
  rw [Candidate.path, Item.path, SchemaPath.name_child]
  exact SchemaBindings.isIdentifier_name (item_of_mem_plan member)

/-- Modules in which something is emitted are not called like that of the tuple records. -/
theorem Emitted.module_ne_tuples (emitted : Emitted target config document p) :
    p.module.map target.conventions.moduleName ≠ tuplesModule.map target.conventions.moduleName := by
  obtain ⟨d, member, ready, rfl⟩ := emitted
  rw [Candidate.path, path_module]
  intro same
  cases place : d.item.module with
  | nil => exact absurd same (by simp [place, tuplesModule])
  | cons segment rest =>
    rw [place] at same
    exact moduleName_ne_tuples member ready place (List.cons.inj same).1

/-- The modules in which something is emitted can be told by their emitted paths. -/
theorem Emitted.module_eq (emitted : Emitted target config document p)
    (emitted' : Emitted target config document q)
    (modules : p.module.map target.conventions.moduleName =
      q.module.map target.conventions.moduleName) : p.module = q.module := by
  obtain ⟨c, member, ready, rfl⟩ := emitted
  obtain ⟨d, member', ready', rfl⟩ := emitted'
  rw [Candidate.path, Candidate.path, path_module, path_module] at modules ⊢
  exact module_eq_of_emittedPath member ready member' ready' modules

/-- What is emitted can be told by the emitted path of its module and its emitted name. -/
theorem Emitted.eq_of_place (emitted : Emitted target config document p)
    (emitted' : Emitted target config document q)
    (modules : p.module.map target.conventions.moduleName =
      q.module.map target.conventions.moduleName)
    {m : ModulePath}
    (names : RenderContext.identifierOf ⟨config, runNames target config document.resolve, m⟩ p =
      RenderContext.identifierOf ⟨config, runNames target config document.resolve, m⟩ q) : p = q := by
  have sameModule := emitted.module_eq emitted' modules
  obtain ⟨c, member, ready, rfl⟩ := emitted
  obtain ⟨d, member', ready', rfl⟩ := emitted'
  obtain ⟨own, status, -, -, found⟩ := status_of_mem_plan member ready
  obtain ⟨other, status', -, -, found'⟩ := status_of_mem_plan member' ready'
  rw [RenderContext.identifierOf, RenderContext.identifierOf, identifier?_of_mem_plan member status,
    identifier?_of_mem_plan member' status', Option.getD_some, Option.getD_some] at names
  by_contra differ
  have disjoint := emitted_disjoint found found' sameModule differ
  exact disjoint List.mem_cons_self (names ▸ List.mem_cons_self)

/-! ### Modules of outputs -/

variable {g : Generation} {o : Output}

/-- The module of an output is that of the tuple records, or something is emitted in it. -/
theorem module_of_mem_outputs (naming : target.NamesOutputs)
    (generated : generateFor target config document.resolve = .ok g) (emitted : o ∈ g.outputs) :
    o.module = tuplesModule ∨ ∃ p, Emitted target config document p ∧ o.module = p.module := by
  obtain ⟨arena, -, outputs⟩ := outputs_of_generateFor generated
  rw [outputs] at emitted
  rcases List.mem_append.1 emitted with record | declared
  · obtain ⟨t, -, rfl⟩ := List.mem_map.1 record
    exact .inl (congrArg Prod.fst (naming.tuples t))
  · obtain ⟨c, member, inside⟩ := List.mem_flatMap.1 declared
    obtain ⟨own, status, module, -⟩ := place_of_mem_outputs naming (List.mem_map_of_mem inside)
    refine .inr ⟨c.path, ⟨c, member, Candidate.isReady_iff.2 ⟨own, status⟩, rfl⟩, ?_⟩
    rw [Candidate.path, path_module]
    exact module

/-- The segments of the module of an output are identifiers. -/
theorem module_identifiers (naming : target.NamesOutputs)
    (generated : generateFor target config document.resolve = .ok g) (emitted : o ∈ g.outputs) :
    ∀ segment ∈ o.module, isIdentifier segment := by
  rcases module_of_mem_outputs naming generated emitted with tuples | ⟨p, emitted, module⟩
  · rw [tuples]
    decide +kernel
  · rw [module]
    exact emitted.module_identifiers

/-- The modules that hold an output can be told by their emitted paths. -/
theorem module_eq_of_mem_outputs (naming : target.NamesOutputs)
    (generated : generateFor target config document.resolve = .ok g) {o' : Output} (emitted : o ∈ g.outputs)
    (emitted' : o' ∈ g.outputs)
    (same : o.module.map target.conventions.moduleName = o'.module.map target.conventions.moduleName) :
    o.module = o'.module := by
  rcases module_of_mem_outputs naming generated emitted with tuples | ⟨p, here, module⟩
  · rcases module_of_mem_outputs naming generated emitted' with tuples' | ⟨q, here', module'⟩
    · rw [tuples, tuples']
    · rw [tuples, module'] at same
      exact absurd same.symm here'.module_ne_tuples
  · rcases module_of_mem_outputs naming generated emitted' with tuples' | ⟨q, here', module'⟩
    · rw [module, tuples'] at same
      exact absurd same here.module_ne_tuples
    · rw [module, module'] at same ⊢
      exact here.module_eq here' same

end

end SchemaBindings
