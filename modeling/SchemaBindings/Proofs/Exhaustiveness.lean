import SchemaBindings.Proofs.EmittedRecords
import SchemaBindings.Proofs.GoMatches
import SchemaBindings.Proofs.RustEnums

/-!
# Unions are exhaustive

A union in the table of names has one name for each variant, in declared order (`variants_eq_map`), so pairing variants
with names drops none (`TargetName.alternatives_eq`). The names of the alternatives come from another spelling than the
names of the variants, but the names of the variants, flat or qualified, are made from this spelling, so they cannot
differ if it does not (`TargetName.alternativeNames_nodup`).

The source of a union is then read as exactly these alternatives, and that of a variant as its record and the methods
that mark it (`unionOutputs_exhaustive`).
-/

namespace SchemaBindings

open SourceReader

/-! ## Reading -/

def TargetName.readUnion : TargetName → SourceReader UnionText
  | go => Go.readUnion
  | rust => Rust.readUnion

/-- Reads a variant: its record with types of these texts, and the methods behind it with their receivers. -/
def TargetName.readVariant (target : TargetName) (types : List String) :
    SourceReader (RecordText × List (TypeUse × Method)) := do
  let record ← target.readRecord types
  match target with
  | go =>
    let methods ← many Go.readReceived
    return (record, methods)
  | rust => return (record, [])

/-! ## Names -/

section

variable (target : TargetName) {u : Union TypeRef}

/-- Each variant has an alternative, if there is a name for each. -/
theorem TargetName.alternatives_eq (nameOf : Variant TypeRef → String) :
    target.alternatives u (u.variants.map nameOf) = u.variants.map fun v =>
      (target.alternativeName v.name, ⟨nameOf v, v.usedGenerics u.generics⟩) := by
  rw [alternatives, zip_variants, List.map_map]
  rfl

theorem TargetName.alternativeName_eq {a b : String}
    (same : target.alternativeName a = target.alternativeName b) : Text.upperCamel a = Text.upperCamel b := by
  cases target with
  | go => exact (String.append_right_inj "on").1 same
  | rust => exact same

/-- Variants whose names differ have alternatives whose names differ. -/
theorem TargetName.alternativeNames_nodup {separator owner : String} {qualified : Bool}
    (distinct : (u.variants.map fun v =>
      target.target.conventions.variantName separator owner qualified v.name).Nodup) :
    (u.variants.map fun v => target.alternativeName v.name).Nodup := by
  refine List.pairwise_map.2 ((List.pairwise_map.1 distinct).imp fun {v w} differ same => differ ?_)
  have spelled := target.alternativeName_eq same
  -- A variant is called by its `UpperCamel` spelling, with the name of its union in front if it is qualified.
  rw [Conventions.variantName, Conventions.variantName, Conventions.qualifiedName, Conventions.qualifiedName,
    target.typeName_eq, spelled]

end

/-! ## Unions of the table -/

section

variable (target : TargetName) {document : Document} {config : Config} {i : SchemaItem} {u : Union TypeRef}
  {own : DeclarationNames}

/-- The names in the alternatives of a declared union are made of identifier characters. -/
theorem TargetName.named_alternative (valid : config.validate = .ok ()) (item : i ∈ document.resolve.items)
    (declared : i.declaration = .union u) {v : Variant TypeRef} (variant : v ∈ u.variants) :
    NamedAlternative (target.alternativeName v.name, target.variantUse config u own v) := by
  have name : isIdentifier v.name :=
    isIdentifier_variantName item (by rw [declared]; exact List.mem_map_of_mem variant)
  have spelled := Go.isName_upperCamel name
  refine ⟨?_, (target.declared_variantUse valid item declared variant).named⟩
  cases target with
  | go => exact spelled.append (List.all_eq_true.1 (by decide))
  | rust => exact spelled

/-- The types that are dispatched are those of the variants. -/
theorem TargetName.dispatch_types (type : TypeUse) :
    ((target.unionText type (u.variants.map fun v =>
      (target.alternativeName v.name, target.variantUse config u own v))).dispatch.map (·.1)) =
        u.variants.map (target.variantUse config u own) := by
  dsimp only [unionText]
  rw [List.map_map, List.map_map]
  rfl

/-! ## Sources -/

theorem Go.readVariant_variantLayout (cx : RenderContext) {v : Variant TypeRef} {name identifier : String}
    (marked : IsName identifier) (bound : TypeUse.Named ⟨name, v.usedGenerics u.generics⟩)
    (fields : ∀ f ∈ v.fields, isIdentifier f.name) :
    (TargetName.go.readVariant (v.fields.map fun f => typeText cx f.type)).run
      (Layout.text indentation (variantLayout cx u identifier v name)).toList =
        some ((TargetName.go.recordText ⟨name, v.usedGenerics u.generics⟩ v.fields,
          [(⟨name, v.usedGenerics u.generics⟩, markerMethod identifier)]), []) := by
  have methods := readMethods_markerText marked bound
  refine (run_bind_of (readRecord_variant cx bound fields identifier)).trans ?_
  exact run_bind_of methods

theorem Rust.readVariant_recordLayout (cx : RenderContext) {v : Variant TypeRef} {name : String}
    (bound : TypeUse.Named ⟨name, v.usedGenerics u.generics⟩) (fields : ∀ f ∈ v.fields, isIdentifier f.name) :
    (TargetName.rust.readVariant (v.fields.map fun f => typeText cx f.type)).run
      (Layout.text indentation
        (recordLayout name (v.usedGenerics u.generics) (v.fields.map (renderField cx)) v.comment)).toList =
          some ((TargetName.rust.recordText ⟨name, v.usedGenerics u.generics⟩ v.fields, []), []) :=
  run_bind_of (readRecord_variant cx bound fields)

theorem Go.unionOutputs_eq (cx : RenderContext) {nameOf : Variant TypeRef → String}
    (variants : own.variants = u.variants.map nameOf) :
    unionOutputs cx u own =
      ⟨own.identifier, cx.module, Layout.text indentation (contractLayout u own), []⟩ ::
        u.variants.map fun v => ⟨nameOf v, cx.module,
          Layout.text indentation (variantLayout cx u own.identifier v (nameOf v)),
          typeImports cx (v.fields.map (·.type))⟩ := by
  unfold unionOutputs
  rw [variants, zip_variants, List.map_map]
  rfl

theorem Rust.unionOutputs_eq (cx : RenderContext) {nameOf : Variant TypeRef → String}
    (variants : own.variants = u.variants.map nameOf) :
    unionOutputs cx u own =
      ⟨own.identifier, cx.module, Layout.text indentation (enumLayout u own), []⟩ ::
        u.variants.map fun v => ⟨nameOf v, cx.module,
          Layout.text indentation
            (recordLayout (nameOf v) (v.usedGenerics u.generics) (v.fields.map (renderField cx)) v.comment), []⟩ := by
  unfold unionOutputs
  rw [variants, zip_variants, List.map_map]
  rfl

/-- The outputs of a union are the union itself, which is read as its alternatives, and one output for each variant,
which is read as its record and the methods that mark it. -/
theorem TargetName.exists_unionOutputs (cx : RenderContext) (valid : config.validate = .ok ())
    (item : i ∈ document.resolve.items) (declared : i.declaration = .union u)
    (found : (runNames target.target config document.resolve).get? i.path = some (.ok own)) :
    let alternatives := u.variants.map fun v => (target.alternativeName v.name, target.variantUse config u own v)
    ∃ contract outputOf, target.target.unionOutputs cx u own = contract :: u.variants.map outputOf ∧
      contract.identifier = own.identifier ∧
      target.readUnion.run contract.source.toList =
        some (target.unionText ⟨own.identifier, u.generics⟩ alternatives, []) ∧
      ∀ v ∈ u.variants, (outputOf v).identifier = target.variantName config u own v ∧
        (target.readVariant (v.fields.map fun f => target.typeText cx f.type)).run (outputOf v).source.toList =
          some ((target.recordText (target.variantUse config u own v) v.fields,
            (target.markers own.identifier).map (target.variantUse config u own v, ·)), []) := by
  intro alternatives
  have variants := target.variants_eq item declared found
  have each : ∀ v ∈ u.variants, NamedAlternative (target.alternativeName v.name, target.variantUse config u own v) :=
    fun v variant => target.named_alternative valid item declared variant
  have listed : target.alternatives u own.variants = alternatives := by
    rw [variants]
    exact target.alternatives_eq _
  have fields : ∀ v ∈ u.variants, ∀ f ∈ v.fields, isIdentifier f.name := fun v variant f field =>
    isIdentifier_fieldName item (by rw [declared]; exact List.mem_map_of_mem variant) field
  have bound := (target.declared_union item declared found).named
  have named : ∀ a ∈ target.alternatives u own.variants, NamedAlternative a := by
    rw [listed]
    exact List.forall_mem_map.2 each
  rw [← listed]
  cases target with
  | go =>
    exact ⟨_, _, Go.unionOutputs_eq cx variants, rfl, Go.readUnion_contractLayout bound named, fun v variant =>
      ⟨rfl, Go.readVariant_variantLayout cx bound.name (each v variant).type (fields v variant)⟩⟩
  | rust =>
    exact ⟨_, _, Rust.unionOutputs_eq cx variants, rfl, Rust.readUnion_enumLayout bound named, fun v variant =>
      ⟨rfl, Rust.readVariant_recordLayout cx (each v variant).type (fields v variant)⟩⟩

/-! ## Exhaustiveness -/

/-- A named union has one name for each variant, in declared order. Its text binds its generics and has one alternative
for each variant, with a name of its own, and a type of its own that leads to it. The text of each variant binds the
generics with which it is used there, and defines the methods that the union asks for. -/
theorem unionOutputs_exhaustive (cx : RenderContext) (valid : config.validate = .ok ())
    (item : i ∈ document.resolve.items) (declared : i.declaration = .union u)
    (found : (runNames target.target config document.resolve).get? i.path = some (.ok own)) :
    own.variants = u.variants.map (target.variantName config u own) ∧
      ∃ contract outputOf text, target.target.unionOutputs cx u own = contract :: u.variants.map outputOf ∧
        contract.identifier = own.identifier ∧
        target.readUnion.run contract.source.toList = some (text, []) ∧
        text.type = ⟨own.identifier, u.generics⟩ ∧
        text.binders = u.generics ++ target.dispatchExtras u.generics ∧
        text.methods = target.markers own.identifier ∧
        text.Exhaustive
          (u.variants.map fun v => (target.alternativeName v.name, target.variantUse config u own v)) ∧
        ∀ v ∈ u.variants, (outputOf v).identifier = target.variantName config u own v ∧
          ∃ record, (target.readVariant (v.fields.map fun f => target.typeText cx f.type)).run
              (outputOf v).source.toList =
                some ((record, text.methods.map (target.variantUse config u own v, ·)), []) ∧
            record.type = target.variantUse config u own v ∧ record.binders = v.usedGenerics u.generics ∧
            record.result = target.variantUse config u own v := by
  have variants := target.variants_eq item declared found
  have distinct : (u.variants.map (target.variantName config u own)).Nodup := by
    rw [← variants]
    exact (List.nodup_cons.1 (emitted_nodup found)).2
  obtain ⟨contract, outputOf, outputs, identifier, reads, each⟩ :=
    target.exists_unionOutputs cx valid item declared found
  refine ⟨variants, contract, outputOf, _, outputs, identifier, reads, rfl, rfl, rfl, ?_, fun v variant =>
    ⟨(each v variant).1, _, (each v variant).2, rfl, rfl, rfl⟩⟩
  exact
    { alternatives_eq := rfl
      dispatch_eq := rfl
      names_nodup := by
        dsimp only [TargetName.unionText]
        rw [List.map_map]
        exact target.alternativeNames_nodup distinct
      types_nodup := by
        dsimp only [TargetName.unionText]
        rw [List.map_map, List.map_map]
        exact distinct }

end

/-- A union of which one variant uses its generic and the other does not. -/
def shapeUnion {ν : Type} : Union (SchemaType ν) :=
  ⟨"Shape", ["T"], [⟨"circle", [⟨"radius", .param "T", none⟩], none⟩, ⟨"dot", [], none⟩], none⟩

/-- The union alone. -/
def shapeDocument : Document :=
  ⟨[.union shapeUnion]⟩

theorem shape_exhaustive :
    let names := runNames Go.target {} shapeDocument.resolve
    ∃ contract circle dot text,
      Go.unionOutputs ⟨{}, names, []⟩ shapeUnion ⟨"Shape", ["Circle", "Dot"], false⟩ = [contract, circle, dot] ∧
        Go.readUnion.run contract.source.toList = some (text, []) ∧ text.type = ⟨"Shape", ["T"]⟩ ∧
        text.alternatives = [("onCircle", ⟨"Circle", ["T"]⟩), ("onDot", ⟨"Dot", []⟩)] ∧
        text.dispatch = [(⟨"Circle", ["T"]⟩, "onCircle"), (⟨"Dot", []⟩, "onDot")] := by
  let i : SchemaItem := ⟨[], .union shapeUnion⟩
  have valid : Config.validate {} = .ok () := by decide +kernel
  have item : i ∈ shapeDocument.resolve.items := List.mem_of_getElem? (i := 0) rfl
  have found : (runNames Go.target {} shapeDocument.resolve).get? i.path =
      some (.ok ⟨"Shape", ["Circle", "Dot"], false⟩) := by
    decide +kernel
  obtain ⟨-, contract, outputOf, text, outputs, -, reads, type, -, -, exhaustive, -⟩ :=
    unionOutputs_exhaustive .go ⟨{}, runNames Go.target {} shapeDocument.resolve, []⟩ valid item rfl found
  refine ⟨contract, _, _, text, outputs, reads, type, exhaustive.alternatives_eq.trans ?_,
    exhaustive.dispatch_eq.trans ?_⟩
  · decide +kernel
  · decide +kernel

end SchemaBindings
