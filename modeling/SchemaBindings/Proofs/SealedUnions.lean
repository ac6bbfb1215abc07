import SchemaBindings.Proofs.Exhaustiveness

/-!
# Which Go unions are sealed

A type belongs to an interface if it has its methods with the same signatures, and a union is sealed at an instantiation
if the types of its package that belong to it there are those that the cases of its match function list.

1. The variants of a union have its marker method, and no other type of the package has it (`hasMethod_iff`,
   `NamedUnion.eq_of_identifier`).
2. The method has no parameters, so it mentions no arguments: each variant belongs to every instantiation of its union,
   with whatever arguments of its own (`belongs_iff`).
3. A list of cases is finite, so it lists no variant with all arguments (`exists_unlisted`), and every generic is used
   by a variant (`exists_variant_using`).

So only unions without generics are sealed. Their cases list each variant, unless the type parameter for the result
hides it (`sealed_iff`).
-/

namespace SchemaBindings.Go

/-! ## Types -/

/-- A type of Go: one of the package with its arguments, or any other one. -/
inductive GoType where
  | declared (name : String) (arguments : List GoType)
  | other (text : String)

/-- What a type stands for where parameters stand for the given types. A parameter hides a type of the package with its
name, and takes no arguments. -/
def meaning? (scope : List (String × GoType)) (t : TypeUse) : Option GoType :=
  match scope.lookup t.name with
  | some bound => if t.arguments = [] then some bound else none
  | none => some (.declared t.name (t.arguments.map fun a => (scope.lookup a).getD (.declared a [])))

/-- The name of a method, and what the types of its parameters stand for. -/
def signature? (scope : List (String × GoType)) (method : Method) : Option (String × List GoType) := do
  let parameters ← method.parameters.mapM (meaning? scope)
  return (method.name, parameters)

theorem signature?_marker (scope : List (String × GoType)) (identifier : String) :
    signature? scope (markerMethod identifier) = some (markerName identifier, []) :=
  rfl

/-- The cases of a match function list the type. -/
def Lists (text : UnionText) (scope : List (String × GoType)) (type : GoType) : Prop :=
  ∃ c ∈ text.dispatch, meaning? scope c.1 = some type

/-- Cases do not list all instances of a type with parameters. -/
theorem exists_unlisted (text : UnionText) (scope : List (String × GoType)) (name : String) {count : Nat}
    (some : count ≠ 0) : ∃ arguments, arguments.length = count ∧ ¬ Lists text scope (.declared name arguments) := by
  -- An argument that has all listed types as parts is larger than each of them.
  let listed := text.dispatch.filterMap fun c => meaning? scope c.1
  let large := GoType.declared "" listed
  refine ⟨List.replicate count large, List.length_replicate, fun ⟨c, among, stands⟩ => ?_⟩
  have member : GoType.declared name (List.replicate count large) ∈ listed :=
    List.mem_filterMap.2 ⟨c, among, stands⟩
  have inner : large ∈ List.replicate count large := List.mem_replicate.2 ⟨some, rfl⟩
  have smaller := List.sizeOf_lt_of_mem member
  have larger := List.sizeOf_lt_of_mem inner
  simp only [GoType.declared.sizeOf_spec, large] at smaller larger
  omega

/-! ## Unions of a package -/

section

variable {document : Document} {config : Config} {m : ModulePath}

/-- A union of a module, with its entry in the table of names. -/
structure NamedUnion (document : Document) (config : Config) (m : ModulePath) where
  union : Union TypeRef
  names : DeclarationNames
  item : (⟨m, .union union⟩ : SchemaItem) ∈ document.resolve.items
  found : (runNames Go.target config document.resolve).get? (Item.path (⟨m, .union union⟩ : SchemaItem)) =
    some (.ok names)

namespace NamedUnion

abbrev context (_ : NamedUnion document config m) : RenderContext :=
  ⟨config, runNames Go.target config document.resolve, m⟩

def outputs (n : NamedUnion document config m) : List Output :=
  unionOutputs n.context n.union n.names

def variantName (n : NamedUnion document config m) (v : Variant TypeRef) : String :=
  TargetName.go.variantName config n.union n.names v

/-- A variant of the union has the method with this receiver: both are read in the output of the variant, which declares
the type of the receiver. -/
def HasMethod (n : NamedUnion document config m) (receiver : TypeUse) (method : Method) : Prop :=
  ∃ v ∈ n.union.variants, ∃ o ∈ n.outputs, o.identifier = n.variantName v ∧ ∃ record methods,
    (TargetName.go.readVariant (v.fields.map fun f => typeText n.context f.type)).run o.source.toList =
      some ((record, methods), []) ∧
    record.type = receiver ∧ (receiver, method) ∈ methods

end NamedUnion

/-- A type belongs to the instance of an interface: for each of its methods, the text of a variant of the package gives
the type a method with the same signature. -/
def Belongs (document : Document) (config : Config) (m : ModulePath) (contract : List Method)
    (scope : List (String × GoType)) (type : GoType) : Prop :=
  ∀ method ∈ contract, ∃ (n : NamedUnion document config m) (receiver : TypeUse) (received : Method)
    (arguments : List GoType), n.HasMethod receiver received ∧ arguments.length = receiver.arguments.length ∧
      type = .declared receiver.name arguments ∧
      ∃ signature, signature? (receiver.arguments.zip arguments) received = some signature ∧
        signature? scope method = some signature

/-- Unions of a module that are called alike are the same. -/
theorem NamedUnion.eq_of_identifier {n n' : NamedUnion document config m}
    (same : n.names.identifier = n'.names.identifier) : n = n' := by
  obtain ⟨u, own, item, found⟩ := n
  obtain ⟨u', own', item', found'⟩ := n'
  have path : Item.path (⟨m, .union u⟩ : SchemaItem) = Item.path (⟨m, .union u'⟩ : SchemaItem) := by
    by_contra differ
    have home : (Item.path (⟨m, .union u⟩ : SchemaItem)).module = (Item.path (⟨m, .union u'⟩ : SchemaItem)).module :=
      (path_module _).trans (path_module (⟨m, .union u'⟩ : SchemaItem)).symm
    have disjoint := emitted_disjoint found found' home differ
    exact disjoint List.mem_cons_self (same ▸ List.mem_cons_self)
  have distinct := document.itemsOf_paths_nodup m
  have items := eq_of_path_eq distinct (Resolved.mem_itemsOf.2 ⟨item, rfl⟩) (Resolved.mem_itemsOf.2 ⟨item', rfl⟩) path
  cases items
  cases found.symm.trans found'
  rfl

section

variable (valid : config.validate = .ok ()) (n : NamedUnion document config m)

include valid

/-- The variants of a union have the method that marks them, and no other one. -/
theorem NamedUnion.hasMethod_iff {receiver : TypeUse} {method : Method} :
    n.HasMethod receiver method ↔
      (∃ v ∈ n.union.variants, receiver = TargetName.go.variantUse config n.union n.names v) ∧
        method = markerMethod n.names.identifier := by
  obtain ⟨contract, outputOf, outputs, identifier, -, each⟩ :=
    TargetName.go.exists_unionOutputs n.context valid n.item rfl n.found
  have outputs : n.outputs = contract :: n.union.variants.map outputOf := outputs
  have variants := TargetName.go.variants_eq n.item rfl n.found
  have distinct := emitted_nodup n.found
  rw [variants, List.nodup_cons] at distinct
  constructor
  · rintro ⟨v, variant, o, output, named, record, methods, reads, -, member⟩
    rw [outputs] at output
    rcases List.mem_cons.1 output with rfl | output
    · have listed : n.variantName v ∈ n.union.variants.map (TargetName.go.variantName config n.union n.names) :=
        List.mem_map_of_mem variant
      rw [← named, identifier] at listed
      exact absurd listed distinct.1
    · obtain ⟨w, variant', rfl⟩ := List.mem_map.1 output
      obtain ⟨spelled, reads'⟩ := each w variant'
      obtain rfl : w = v := List.inj_on_of_nodup_map distinct.2 variant' variant (spelled.symm.trans named)
      cases reads.symm.trans reads'
      obtain ⟨rfl, rfl⟩ := Prod.mk.inj (List.mem_singleton.1 member)
      exact ⟨⟨w, variant, rfl⟩, rfl⟩
  · rintro ⟨⟨v, variant, rfl⟩, rfl⟩
    obtain ⟨spelled, reads⟩ := each v variant
    refine ⟨v, variant, outputOf v, ?_, spelled, _, _, reads, rfl, List.mem_singleton_self _⟩
    rw [outputs]
    exact List.mem_cons_of_mem _ (List.mem_map_of_mem variant)

/-- Each variant belongs to every instance of its union, with any arguments, and nothing else does. -/
theorem NamedUnion.belongs_iff (scope : List (String × GoType)) {type : GoType} :
    Belongs document config m [markerMethod n.names.identifier] scope type ↔
      ∃ v ∈ n.union.variants, ∃ arguments : List GoType,
        arguments.length = (v.usedGenerics n.union.generics).length ∧ type = .declared (n.variantName v) arguments := by
  constructor
  · intro belongs
    obtain ⟨n', receiver, received, arguments, has, count, rfl, signature, own, asked⟩ :=
      belongs _ (List.mem_singleton_self _)
    obtain ⟨⟨v, variant, rfl⟩, rfl⟩ := (n'.hasMethod_iff valid).1 has
    have marker : markerName n.names.identifier = markerName n'.names.identifier := by
      rw [signature?_marker] at own asked
      exact congrArg Prod.fst (Option.some.inj (asked.trans own.symm))
    obtain rfl := NamedUnion.eq_of_identifier ((String.append_right_inj "is").1 marker)
    exact ⟨v, variant, arguments, count, rfl⟩
  · rintro ⟨v, variant, arguments, count, rfl⟩ method member
    obtain rfl := List.mem_singleton.1 member
    exact ⟨n, _, _, arguments, (n.hasMethod_iff valid).2 ⟨⟨v, variant, rfl⟩, rfl⟩, count, rfl, _,
      signature?_marker _ _, signature?_marker _ _⟩

end

/-- Every generic of a union is used by a variant. -/
theorem exists_variant_using {u : Union TypeRef} (item : (⟨m, .union u⟩ : SchemaItem) ∈ document.resolve.items)
    {g : String} (generic : g ∈ u.generics) : ∃ v ∈ u.variants, g ∈ v.usedGenerics u.generics := by
  obtain ⟨-, d, -, formed, resolves⟩ := (standsIn_resolve_iff document).1 (Declaration.mem_items_iff.1 item).1
  generalize kept : (Declaration.union u : SchemaDeclaration) = d' at resolves
  have resolves : document.ResolvesTo m d d' := resolves
  cases resolves with
  | union source =>
    cases kept
    obtain ⟨t, among, inside⟩ := formed.used g generic
    obtain ⟨v, variant, f, field, rfl⟩ := mem_types_union.1 among
    refine ⟨v.map (document.resolved m), List.mem_map_of_mem variant, List.mem_filter.2 ⟨generic, decide_eq_true ?_⟩⟩
    exact (mem_parametersOf_map document m).2 ⟨f, field, inside⟩
  | _ => exact absurd kept (by simp)

/-! ## Sealed unions -/

/-- What a type without arguments stands for where the only parameter is that for the result. -/
theorem meaning?_result (name : String) (result : GoType) :
    meaning? [("R", result)] ⟨name, []⟩ = some (if name = "R" then result else .declared name []) := by
  unfold meaning?
  by_cases hidden : name = "R"
  · subst hidden
    rfl
  · have other : (name == "R") = false := beq_false_of_ne hidden
    rw [if_neg hidden, List.lookup_cons, other]
    rfl

/-- Without generics, the types that the cases list are the variants if none is hidden by the result. -/
theorem listed_iff_of_visible {names : List String} {result : GoType} :
    (∀ type, (∃ name ∈ names, type = .declared name []) ↔
      ∃ name ∈ names, meaning? [("R", result)] ⟨name, []⟩ = some type) ↔
        ∀ name ∈ names, name = "R" → result = .declared "R" [] := by
  simp only [meaning?_result, Option.some.injEq]
  constructor
  · rintro same name among rfl
    obtain ⟨other, -, listed⟩ := (same (.declared "R" [])).1 ⟨"R", among, rfl⟩
    split at listed
    · exact listed
    · next visible => exact absurd (GoType.declared.inj listed).1 visible
  · intro visible type
    refine exists_congr fun name => and_congr_right fun among => ?_
    split
    · next hidden => rw [visible name among hidden, hidden, eq_comm]
    · exact eq_comm

theorem lists_iff {text : UnionText} {uses : List TypeUse} (dispatched : text.dispatch.map (·.1) = uses)
    (scope : List (String × GoType)) (type : GoType) :
    Lists text scope type ↔ ∃ use ∈ uses, meaning? scope use = some type := by
  subst dispatched
  simp only [Lists, List.mem_map, exists_exists_and_eq_and]

/-- A union without generics is sealed if no variant is hidden by the result. -/
theorem NamedUnion.sealed_iff_of_plain (valid : config.validate = .ok ()) (n : NamedUnion document config m)
    (plain : n.union.generics = []) {text : UnionText} (methods : text.methods = [markerMethod n.names.identifier])
    (dispatched : text.dispatch.map (·.1) =
      n.union.variants.map (TargetName.go.variantUse config n.union n.names)) (result : GoType) :
    (∀ type, Belongs document config m text.methods [] type ↔ Lists text [("R", result)] type) ↔
      ∀ v ∈ n.union.variants, n.variantName v = "R" → result = .declared "R" [] := by
  have unused : ∀ v : Variant TypeRef, v.usedGenerics n.union.generics = [] := fun v => by
    rw [plain]
    rfl
  have names : ∀ type, (∃ name ∈ n.union.variants.map n.variantName, type = GoType.declared name []) ↔
      Belongs document config m text.methods [] type := by
    intro type
    rw [methods, n.belongs_iff valid]
    simp only [unused, List.length_nil, List.length_eq_zero_iff, List.mem_map, exists_exists_and_eq_and,
      exists_eq_left]
  have cases : ∀ type, (∃ name ∈ n.union.variants.map n.variantName, meaning? [("R", result)] ⟨name, []⟩ = some type) ↔
      Lists text [("R", result)] type := by
    intro type
    rw [lists_iff dispatched]
    simp only [TargetName.variantUse, unused, List.mem_map, exists_exists_and_eq_and]
    rfl
  simp only [← names, ← cases, listed_iff_of_visible, List.forall_mem_map]

/-- At an instance of a union and a result type, the types that belong to the union are exactly those that the cases of
its match function list if and only if the union has no generics, and no variant is called like the type parameter for
the result unless the result is that variant. -/
theorem sealed_iff (valid : config.validate = .ok ()) (n : NamedUnion document config m) :
    ∃ contract outputs text, n.outputs = contract :: outputs ∧
      readUnion.run contract.source.toList = some (text, []) ∧
      text.type = ⟨n.names.identifier, n.union.generics⟩ ∧
      text.binders = n.union.generics ++ [resultParameter n.union.generics] ∧
      ∀ (arguments : List GoType) (result : GoType), arguments.length = n.union.generics.length →
        let scope := n.union.generics.zip arguments
        let body := scope ++ [(resultParameter n.union.generics, result)]
        (∀ type, Belongs document config m text.methods scope type ↔ Lists text body type) ↔
          n.union.generics = [] ∧ ∀ v ∈ n.union.variants, n.variantName v = "R" → result = .declared "R" [] := by
  obtain ⟨contract, outputOf, outputs, -, reads, -⟩ :=
    TargetName.go.exists_unionOutputs n.context valid n.item rfl n.found
  refine ⟨contract, _, _, outputs, reads, rfl, rfl, fun arguments result count => ?_⟩
  intro scope body
  cases generics : n.union.generics with
  | nil =>
    have empty : scope = [] := by
      show n.union.generics.zip arguments = []
      rw [generics, List.zip_nil_left]
    have single : body = [("R", result)] := by
      show scope ++ [(resultParameter n.union.generics, result)] = _
      rw [empty, generics]
      rfl
    rw [empty, single, n.sealed_iff_of_plain valid generics rfl (TargetName.go.dispatch_types _) result]
    simp only [true_and]
  | cons g others =>
    refine iff_of_false (fun same => ?_) (by simp)
    have generic : g ∈ n.union.generics := by
      rw [generics]
      exact List.mem_cons_self
    obtain ⟨v, variant, used⟩ := exists_variant_using n.item generic
    obtain ⟨own, count, unlisted⟩ := exists_unlisted _ body (n.variantName v)
      (fun none => absurd (List.length_eq_zero_iff.1 none) (List.ne_nil_of_mem used))
    exact unlisted ((same _).1 ((n.belongs_iff valid scope).2 ⟨v, variant, own, count, rfl⟩))

end

def lampUnion {ν : Type} : Union (SchemaType ν) :=
  ⟨"Lamp", [], [⟨"on", [⟨"level", .scalar .u8, none⟩], none⟩, ⟨"off", [], none⟩], none⟩

/-- The union alone, with its names. -/
def lamp : NamedUnion ⟨[.union lampUnion]⟩ {} [] where
  union := lampUnion
  names := ⟨"Lamp", ["On", "Off"], false⟩
  item := List.mem_of_getElem? (i := 0) rfl
  found := by decide +kernel

theorem lamp_sealed :
    ∃ contract outputs text, lamp.outputs = contract :: outputs ∧
      readUnion.run contract.source.toList = some (text, []) ∧ text.type = ⟨"Lamp", []⟩ ∧
      ∀ (result type : GoType),
        Belongs ⟨[.union lampUnion]⟩ {} [] text.methods [] type ↔ Lists text [("R", result)] type := by
  have valid : Config.validate {} = .ok () := by decide +kernel
  obtain ⟨contract, outputs, text, emitted, reads, type, -, same⟩ := sealed_iff valid lamp
  have visible : ∀ v ∈ lamp.union.variants, lamp.variantName v ≠ "R" := by decide +kernel
  refine ⟨contract, outputs, text, emitted, reads, type, fun result => (same [] result rfl).2 ⟨rfl, ?_⟩⟩
  exact fun v variant hidden => absurd hidden (visible v variant)

/-- A union whose variant uses its generic. -/
def boxUnion {ν : Type} : Union (SchemaType ν) :=
  ⟨"Box", ["T"], [⟨"full", [⟨"item", .param "T", none⟩], none⟩], none⟩

/-- The union alone, with its names. -/
def box : NamedUnion ⟨[.union boxUnion]⟩ {} [] where
  union := boxUnion
  names := ⟨"Box", ["Full"], false⟩
  item := List.mem_of_getElem? (i := 0) rfl
  found := by decide +kernel

/-- A box that is full of text belongs to the boxes for numbers, and the match function for these does not list it. -/
theorem box_not_sealed :
    ∃ contract outputs text, box.outputs = contract :: outputs ∧
      readUnion.run contract.source.toList = some (text, []) ∧ text.type = ⟨"Box", ["T"]⟩ ∧
      ∃ type, Belongs ⟨[.union boxUnion]⟩ {} [] text.methods [("T", .other "int")] type ∧
        ∀ result, ¬ Lists text [("T", .other "int"), ("R", result)] type := by
  have valid : Config.validate {} = .ok () := by decide +kernel
  have uses : box.union.variants.map (TargetName.go.variantUse {} box.union box.names) = [⟨"Full", ["T"]⟩] := by
    decide +kernel
  have names : box.union.variants.map box.variantName = ["Full"] := by decide +kernel
  obtain ⟨contract, outputOf, outputs, -, reads, -⟩ :=
    TargetName.go.exists_unionOutputs box.context valid box.item rfl box.found
  refine ⟨contract, _, _, outputs, reads, rfl, .declared "Full" [.other "string"], ?_, fun result listed => ?_⟩
  · obtain ⟨v, variant, name⟩ : ∃ v ∈ box.union.variants, box.variantName v = "Full" :=
      List.mem_map.1 (names ▸ List.mem_singleton_self _)
    have count : ∀ v ∈ box.union.variants, (v.usedGenerics box.union.generics).length = 1 := by decide +kernel
    exact (box.belongs_iff valid _).2 ⟨v, variant, [.other "string"], (count v variant).symm, by rw [name]⟩
  · obtain ⟨use, among, stands⟩ := (lists_iff ((TargetName.go.dispatch_types _).trans uses) _ _).1 listed
    obtain rfl := List.mem_singleton.1 among
    have stands : GoType.declared "Full" [.other "int"] = .declared "Full" [.other "string"] := Option.some.inj stands
    exact absurd stands (by simp)

end SchemaBindings.Go
