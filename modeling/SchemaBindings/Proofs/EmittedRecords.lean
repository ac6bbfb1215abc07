import SchemaBindings.Proofs.EmittedNames
import SchemaBindings.Proofs.ParameterCapture
import SchemaBindings.Proofs.RunOutputs
import SchemaBindings.Proofs.RustRecords

/-!
# Records that a run emits

A run emits a record for each struct, and one for each variant of a union (`emittedRecords`). Its fields differ in every
namespace of the target, since the table of names has an entry for the declaration (`fields_differ_of_get?`), and its
source is read as what its fields are called (`TargetName.exists_record`). The constructor in it takes one argument for
each field, and it returns them exactly if no generic stands in the way (`generate_constructs_iff`).
-/

namespace SchemaBindings

/-! ## Fields of named declarations -/

section

variable {conventions : Conventions} {policy : NamingPolicy} {separator : String}
  {reserved : List (String × String)} {document : Document} {i : SchemaItem}

theorem entry?_fields_differ {c : ClaimedItem} {p : SchemaPath} {own : DeclarationNames}
    (entry : c.entry? conventions = some (p, .ok own)) {s : Struct TypeRef}
    (declared : c.item.declaration = .struct s) :
    s.fields.Pairwise (FieldsDiffer conventions) := by
  obtain ⟨⟨m, d⟩, name⟩ := c
  obtain rfl : d = .struct s := declared
  cases name with
  | error fault => exact absurd entry (by simp [ClaimedItem.entry?])
  | ok name =>
    obtain ⟨-, named⟩ := Prod.mk.inj (Option.some.inj entry)
    obtain ⟨_, checked, -⟩ := bind_eq_ok.1 named
    exact checkFieldNames_eq_ok_iff.1 checked

/-- If a declaration is named, the fields of each record of it differ. -/
theorem fields_differ_of_get? (item : i ∈ document.resolve.items) {own : DeclarationNames}
    (found : (NameTable.build conventions policy separator reserved document.resolve).get? i.path = some (.ok own)) :
    ∀ fields ∈ i.declaration.records, fields.Pairwise (FieldsDiffer conventions) := by
  have distinct := document.itemsOf_paths_nodup i.module
  have member : i ∈ document.resolve.itemsOf i.module := Resolved.mem_itemsOf.2 ⟨item, rfl⟩
  intro fields record
  cases declared : i.declaration with
  | union u =>
    rw [declared] at record
    obtain ⟨v, variant, rfl⟩ := List.mem_map.1 record
    exact ((get?_union_eq_ok_iff item declared (claimsName_of_get? item found)).1 found).1.1 v variant
  | struct s =>
    rw [declared] at record
    obtain rfl := List.mem_singleton.1 record
    rw [get?_eq_some_iff item, nameItems_eq] at found
    rcases List.mem_append.1 found with atOnce | later
    · obtain ⟨c, claimed, entry⟩ := List.mem_filterMap.1 atOnce
      have among := ((mem_claimedFrom_iff distinct).1 claimed).1
      obtain rfl : c.item = i := eq_of_path_eq distinct among member (entry?_path entry).symm
      exact entry?_fields_differ entry declared
    · have path := List.mem_map_of_mem (f := (·.1)) later
      rw [nameUnions_paths] at path
      obtain ⟨c, among, same⟩ := List.mem_map.1 path
      obtain ⟨j, member', same', union⟩ := mem_unionsFrom among
      obtain rfl : j = i := eq_of_path_eq distinct member' member (same'.symm.trans same)
      exact absurd (declared.symm.trans union) (by simp)
  | typeAlias a | const c | module _ _ _ =>
    rw [declared] at record
    exact absurd record List.not_mem_nil

end

/-! ## Records of a declaration -/

/-- A record with its name, its generics and its fields. -/
structure EmittedRecord where
  name : String
  generics : List String
  fields : List (Field TypeRef)

/-- The type of a record with its own generics. -/
def EmittedRecord.use (record : EmittedRecord) : TypeUse :=
  ⟨record.name, record.generics⟩

/-- The records that a declaration emits under the given names: a struct itself, and each variant of a union. -/
def emittedRecords (own : DeclarationNames) : SchemaDeclaration → List EmittedRecord
  | .struct s => [⟨own.identifier, s.generics, s.fields⟩]
  | .union u => (u.variants.zip own.variants).map fun (v, name) => ⟨name, v.usedGenerics u.generics, v.fields⟩
  | .typeAlias _ | .const _ | .module _ _ _ => []

def TargetName.readRecord : TargetName → List String → SourceReader RecordText
  | go => Go.readRecord
  | rust => Rust.readRecord

/-- The generics of a record, which its constructor binds as they are, do not hide what this mentions: no keyword, no
constraint of generics and not the record is called like a generic, and in Go no parameter either. The record itself is
not called like a keyword. -/
structure EmittedRecord.Callable (target : TargetName) (record : EmittedRecord) : Prop where
  name : record.name ∉ target.keywords
  generics : ∀ g ∈ record.generics, g ∉ target.keywords ∧ g ∉ target.constraints ∧ g ≠ record.name
  fields : target = .go → ∀ f ∈ record.fields, Go.parameterName f.name ∉ record.generics

theorem mem_records_of_mem_emittedRecords {own : DeclarationNames} {d : SchemaDeclaration} {record : EmittedRecord}
    (emitted : record ∈ emittedRecords own d) : record.fields ∈ d.records := by
  cases d with
  | struct s =>
    obtain rfl := List.mem_singleton.1 emitted
    exact List.mem_singleton_self _
  | union u =>
    obtain ⟨⟨v, name⟩, among, rfl⟩ := List.mem_map.1 emitted
    exact List.mem_map_of_mem (List.of_mem_zip among).1
  | typeAlias a | const c | module _ _ _ => exact absurd emitted List.not_mem_nil

section

variable (target : TargetName)

/-- Parameters differ from their record, so only its generics can stand in the way. -/
theorem EmittedRecord.callable_recordText_iff {record : EmittedRecord} (capitalized : IsCapitalized record.name)
    (identifiers : ∀ f ∈ record.fields, isIdentifier f.name) :
    (target.recordText record.use record.fields).Callable target ↔ record.Callable target := by
  constructor
  · rintro ⟨name, binders, parameters⟩
    exact ⟨name, binders, fun go f field => (parameters go _ (by cases go; exact List.mem_map_of_mem field)).1⟩
  · rintro ⟨name, generics, fields⟩
    refine ⟨name, generics, fun go => ?_⟩
    subst go
    exact List.forall_mem_map.2 fun f field =>
      ⟨fields rfl f field, (capitalized.ne_parameterName (identifiers f field)).symm⟩

/-- Each record has an output, and its source is read as its type and what its fields are called. -/
theorem TargetName.exists_record (cx : RenderContext) {own : DeclarationNames} {d : SchemaDeclaration}
    (identifiers : ∀ fields ∈ d.records, ∀ f ∈ fields, isIdentifier f.name) {record : EmittedRecord}
    (emitted : record ∈ emittedRecords own d) (named : record.use.Named) :
    ∃ o ∈ target.target.render cx d own, o.module = cx.module ∧ o.identifier = record.name ∧
      ∃ rest, (target.readRecord (record.fields.map fun f => target.typeText cx f.type)).run o.source.toList =
        some (target.recordText record.use record.fields, rest) := by
  have fields := identifiers _ (mem_records_of_mem_emittedRecords emitted)
  cases d with
  | struct s =>
    obtain rfl := List.mem_singleton.1 emitted
    cases target with
    | go => exact ⟨_, List.mem_singleton_self _, rfl, rfl, _, Go.readRecord_structOutput cx named fields⟩
    | rust => exact ⟨_, List.mem_singleton_self _, rfl, rfl, _, Rust.readRecord_structOutput cx named fields⟩
  | union u =>
    obtain ⟨⟨v, name⟩, among, rfl⟩ := List.mem_map.1 emitted
    cases target with
    | go =>
      exact ⟨_, List.mem_cons_of_mem _ (List.mem_map_of_mem among), rfl, rfl, _,
        Go.readRecord_variant cx named fields own.identifier⟩
    | rust =>
      exact ⟨_, List.mem_cons_of_mem _ (List.mem_map_of_mem among), rfl, rfl, _,
        Rust.readRecord_variant cx named fields⟩
  | typeAlias a | const c | module _ _ _ => exact absurd emitted List.not_mem_nil

/-! ## Records of a named declaration -/

variable {document : Document} {config : Config} {i : SchemaItem} {own : DeclarationNames}

theorem TargetName.emittedRecords_union (item : i ∈ document.resolve.items) {u : Union TypeRef}
    (declared : i.declaration = .union u)
    (found : (runNames target.target config document.resolve).get? i.path = some (.ok own)) :
    emittedRecords own (.union u) =
      u.variants.map fun v => ⟨target.variantName config u own v, v.usedGenerics u.generics, v.fields⟩ := by
  rw [emittedRecords, target.variants_eq item declared found, zip_variants, List.map_map]
  rfl

theorem TargetName.declared_record (valid : config.validate = .ok ()) (item : i ∈ document.resolve.items)
    (found : (runNames target.target config document.resolve).get? i.path = some (.ok own)) :
    ∀ record ∈ emittedRecords own i.declaration, record.use.Declared := by
  cases declared : i.declaration with
  | struct s =>
    refine List.forall_mem_singleton.2 ?_
    have spelled : own.identifier = Text.upperCamel i.declaration.name := by
      rw [identifier_eq item found, declared]
      exact congrFun target.typeName_eq _
    have whole := declared_of_name item spelled
    rwa [declared] at whole
  | union u =>
    rw [target.emittedRecords_union item declared found]
    exact List.forall_mem_map.2 fun v variant => target.declared_variantUse valid item declared variant
  | typeAlias a | const c | module _ _ _ => exact fun _ emitted => absurd emitted List.not_mem_nil

/-- The text of a record is faithful, and a call returns its arguments if the record is callable. -/
theorem TargetName.recordText_constructs (valid : config.validate = .ok ()) (item : i ∈ document.resolve.items)
    (found : (runNames target.target config document.resolve).get? i.path = some (.ok own)) {record : EmittedRecord}
    (emitted : record ∈ emittedRecords own i.declaration) :
    let text := target.recordText record.use record.fields
    text.Faithful target.keywords record.use record.fields.length ∧
      ∀ α (arguments values : List α), arguments.length = record.fields.length →
        (text.construct target arguments = some values ↔ record.Callable target ∧ values = arguments) := by
  have fields := mem_records_of_mem_emittedRecords emitted
  have differ := fields_differ_of_get? item found _ fields
  have declared := target.declared_record valid item found record emitted
  have faithful := target.recordText_faithful record.use differ
  refine ⟨faithful, fun α arguments values lengths => ?_⟩
  rw [RecordText.construct_eq_some_iff faithful declared.distinct lengths,
    record.callable_recordText_iff target declared.capitalized fun f field => isIdentifier_fieldName item fields field]

end

/-! ## Records of a run -/

/-- Each record that a run emits has a member and a parameter for each field, in declared order and with the same type.
The members are distinct, and so are the parameters, which are no keywords. A call of the constructor with one argument
for each field returns the record of these arguments exactly if the record is callable, and nothing else in any case. -/
theorem generate_constructs_iff {document : Document} {config : Config} {g : Generation}
    (generated : generate config document.resolve = .ok g) :
    let target := config.target
    let names := runNames target.target config document.resolve
    ∀ c ∈ plan target.target config names document.resolve, ∀ own, c.status = .ok own →
      ∀ record ∈ emittedRecords own c.item.declaration,
        ∃ o ∈ g.outputs, o.module = c.item.module ∧ o.identifier = record.name ∧
          ∃ text rest,
            (target.readRecord (record.fields.map fun f =>
              target.typeText ⟨config, names, c.item.module⟩ f.type)).run o.source.toList = some (text, rest) ∧
            text.members = record.fields.map (fun f => target.memberName f.name) ∧
            text.parameters = record.fields.map (fun f => target.parameterName f.name) ∧
            text.Faithful target.keywords record.use record.fields.length ∧
            ∀ α (arguments values : List α), arguments.length = record.fields.length →
              (text.construct target arguments = some values ↔ record.Callable target ∧ values = arguments) := by
  intro target names c member own status record emitted
  have item := item_of_mem_plan member
  obtain ⟨valid, -⟩ := files_of_generateFor generated
  obtain ⟨own', status', -, -, found⟩ := status_of_mem_plan member (Candidate.isReady_iff.2 ⟨own, status⟩)
  cases status.symm.trans status'
  obtain ⟨o, rendered, module, identifier, rest, reads⟩ := target.exists_record ⟨config, names, c.item.module⟩
    (fun fields record f field => isIdentifier_fieldName item record field) emitted
      (target.declared_record valid item found record emitted).named
  obtain ⟨faithful, constructs⟩ := target.recordText_constructs valid item found emitted
  refine ⟨o, mem_outputs_of_mem_plan generated member ?_, module, identifier, _, rest, reads, rfl, rfl, faithful,
    constructs⟩
  rwa [Candidate.outputs, status]

/-- Fields of which one is called like a keyword. -/
def keywordFields {ν : Type} : List (Field (SchemaType ν)) :=
  [⟨"type", .scalar .string, none⟩, ⟨"on_item", .param "T", some "The labelled item."⟩]

def keywordDocument : Document :=
  ⟨[.struct ⟨"Label", ["T"], keywordFields, none⟩]⟩

theorem keyword_constructs :
    ∃ g, generate {} keywordDocument.resolve = .ok g ∧ ∃ o ∈ g.outputs, ∃ text rest,
      (Go.readRecord ["string", "T"]).run o.source.toList = some (text, rest) ∧
        text.members = ["Type", "OnItem"] ∧ text.binders = ["T"] ∧ text.parameters = ["type_", "onItem"] ∧
        text.construct .go ["name", "thing"] = some ["name", "thing"] := by
  have valid : Config.validate {} = .ok () := by decide +kernel
  obtain ⟨g, generated⟩ := exists_generateFor_of_lenient (Config.target {}).target keywordDocument.resolve valid rfl
  obtain ⟨c, member, same⟩ : ∃ c ∈ plan Go.target {} (runNames Go.target {} keywordDocument.resolve)
      keywordDocument.resolve, c.item = ⟨[], .struct ⟨"Label", ["T"], keywordFields, none⟩⟩ :=
    exists_candidate (List.mem_of_getElem? (i := 0) rfl)
  have named : ∀ c ∈ plan Go.target {} (runNames Go.target {} keywordDocument.resolve) keywordDocument.resolve,
      c.status.toOption.map (·.identifier) = some "Label" := by
    decide +kernel
  obtain ⟨own, status, identifier⟩ := exists_of_toOption_map (named c member)
  let record : EmittedRecord := ⟨"Label", ["T"], keywordFields⟩
  have emitted : record ∈ emittedRecords own c.item.declaration := by
    rw [same]
    exact List.mem_singleton.2 (by rw [identifier])
  have callable : record.Callable .go :=
    { name := by decide
      generics := by decide
      fields := fun _ => by decide +kernel }
  obtain ⟨o, output, -, -, text, rest, reads, members, parameters, faithful, constructs⟩ :=
    generate_constructs_iff generated c member own status record emitted
  refine ⟨g, generated, o, output, text, rest, reads, members.trans ?_, faithful.binders_eq, parameters.trans ?_,
    (constructs String _ _ rfl).2 ⟨callable, rfl⟩⟩
  · decide +kernel
  · decide +kernel

/-- A struct whose only generic has this name. -/
def boxOf (generic : String) : Document :=
  ⟨[.struct ⟨"Box", [generic], [⟨"item", .param generic, none⟩], none⟩]⟩

/-- In Go a generic that is called like a field hides the parameter for it, and in Rust one that is called like the record
hides the record. -/
theorem hidden_not_constructed :
    (∃ g, generate {} (boxOf "item").resolve = .ok g ∧ ∃ o ∈ g.outputs, ∃ text rest,
      (Go.readRecord ["item"]).run o.source.toList = some (text, rest) ∧
        text.binders = ["item"] ∧ text.parameters = ["item"] ∧ text.construct .go ["thing"] = none) ∧
    ∃ g, generate { target := .rust } (boxOf "Box").resolve = .ok g ∧ ∃ o ∈ g.outputs, ∃ text rest,
      (Rust.readRecord ["Box"]).run o.source.toList = some (text, rest) ∧
        text.binders = ["Box"] ∧ text.result = ⟨"Box", ["Box"]⟩ ∧ text.construct .rust ["thing"] = none := by
  constructor
  · have returned : (generate {} (boxOf "item").resolve).toOption.map (fun g => g.outputs.map fun o =>
        ((Go.readRecord ["item"]).run o.source.toList).map (·.1)) =
          some [some ⟨⟨"Box", ["item"]⟩, ["Item"], ["item"], ["item"], ⟨"Box", ["item"]⟩, [("Item", "item")]⟩] := by
      decide +kernel
    obtain ⟨g, generated, returned⟩ := exists_of_toOption_map returned
    obtain ⟨o, listed, reads⟩ := List.map_eq_singleton_iff.1 returned
    obtain ⟨⟨text, rest⟩, reads, rfl⟩ := Option.map_eq_some_iff.1 reads
    exact ⟨g, generated, o, listed ▸ List.mem_singleton_self o, _, rest, reads, rfl, rfl, rfl⟩
  · have returned : (generate { target := .rust } (boxOf "Box").resolve).toOption.map (fun g => g.outputs.map fun o =>
        ((Rust.readRecord ["Box"]).run o.source.toList).map (·.1)) =
          some [some ⟨⟨"Box", ["Box"]⟩, ["item"], ["Box"], ["item"], ⟨"Box", ["Box"]⟩, [("item", "item")]⟩] := by
      decide +kernel
    obtain ⟨g, generated, returned⟩ := exists_of_toOption_map returned
    obtain ⟨o, listed, reads⟩ := List.map_eq_singleton_iff.1 returned
    obtain ⟨⟨text, rest⟩, reads, rfl⟩ := Option.map_eq_some_iff.1 reads
    exact ⟨g, generated, o, listed ▸ List.mem_singleton_self o, _, rest, reads, rfl, rfl, rfl⟩

end SchemaBindings
