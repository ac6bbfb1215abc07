import SchemaBindings.Proofs.IntroducedNames
import SchemaBindings.Proofs.RustHeads

/-!
# Types that a run emits

A run emits a type for each struct, union and alias, and one for each variant of a union (`emittedTypes`).

1. A type binds the parameters that occur in what it is built from and no others, in declared order
   (`TargetName.closed_of_mem_emittedTypes`). The variants share the generics of their union, and each of them leaves
   out those that it does not use; no generic is left out by all of them.
2. The output of a type binds exactly these, and mentions the type with all of them (`TargetName.exists_output`).
3. A reference has one argument for each generic of the declaration that it leads to
   (`Document.genericCountAt?_of_named`), and the type of the declaration binds all its generics
   (`head?_emittedTypes`), so nothing is missing and nothing is too much (`TargetName.fullyApplied`).
-/

namespace SchemaBindings

open SourceReader

/-! ## Types -/

/-- What a type is emitted as. -/
inductive EmittedForm where
  | record
  /-- A union with the uses of its variants. -/
  | union (variants : List TypeUse)
  | alias

/-- A type with its name, the generics that it binds and the types that it is built from. -/
structure EmittedType where
  form : EmittedForm
  name : String
  generics : List String
  types : List TypeRef

/-- The type with its generics as arguments. -/
def EmittedType.use (e : EmittedType) : TypeUse :=
  ⟨e.name, e.generics⟩

def EmittedRecord.emitted (record : EmittedRecord) : EmittedType :=
  ⟨.record, record.name, record.generics, record.fields.map (·.type)⟩

/-- The types that a declaration emits under the given names. A union is built from what its variants are built from. -/
def emittedTypes (own : DeclarationNames) (d : SchemaDeclaration) : List EmittedType :=
  let records := (emittedRecords own d).map (·.emitted)
  match d with
  | .struct _ => records
  | .union u =>
    ⟨.union (records.map (·.use)), own.identifier, u.generics, records.flatMap (·.types)⟩ :: records
  | .typeAlias a => [⟨.alias, own.identifier, [], [a.target]⟩]
  | .const _ | .module _ _ _ => []

/-- The type binds the parameters that occur in what it is built from: each of them once, in declared order, and
nothing else. A union binds what is passed to its variants. -/
structure EmittedType.Closed (declared : List String) (e : EmittedType) : Prop where
  binds_iff : ∀ g, g ∈ e.generics ↔ ∃ t ∈ e.types, .param g ∈ t.walk
  distinct : e.generics.Nodup
  ordered : e.generics.Sublist declared
  passed_iff : ∀ variants, e.form = .union variants → ∀ g, g ∈ e.generics ↔ ∃ use ∈ variants, g ∈ use.arguments

/-! ## Generics of types -/

theorem mem_usedGenerics_iff {v : Variant TypeRef} {generics : List String} {g : String} :
    g ∈ v.usedGenerics generics ↔ g ∈ generics ∧ ∃ t ∈ v.fields.map (·.type), .param g ∈ t.walk := by
  rw [Variant.usedGenerics, List.mem_filter, decide_eq_true_eq]
  simp only [parametersOf, List.mem_flatMap, SchemaType.mem_parameters, List.mem_map, exists_exists_and_eq_and]

section

variable (target : TargetName) {document : Document} {config : Config} {i : SchemaItem} {u : Union TypeRef}
  {own : DeclarationNames}

def TargetName.variantType (config : Config) (u : Union TypeRef) (own : DeclarationNames) (v : Variant TypeRef) :
    EmittedType :=
  EmittedRecord.emitted ⟨target.variantName config u own v, v.usedGenerics u.generics, v.fields⟩

def TargetName.unionType (config : Config) (u : Union TypeRef) (own : DeclarationNames) : EmittedType :=
  ⟨.union (u.variants.map (target.variantUse config u own)), own.identifier, u.generics,
    (Declaration.union u : SchemaDeclaration).types⟩

/-- A named union emits itself and its variants. -/
theorem TargetName.emittedTypes_union (item : i ∈ document.resolve.items) (declared : i.declaration = .union u)
    (found : (runNames target.target config document.resolve).get? i.path = some (.ok own)) :
    emittedTypes own (.union u) =
      target.unionType config u own :: u.variants.map (target.variantType config u own) := by
  have records : (emittedRecords own (.union u)).map (·.emitted) =
      u.variants.map (target.variantType config u own) := by
    rw [target.emittedRecords_union item declared found, List.map_map]
    rfl
  rw [emittedTypes, records, List.map_map, List.flatMap_map]
  rfl

/-- A variant binds the generics of its union that occur in its fields. -/
theorem TargetName.closed_variantType (item : i ∈ document.resolve.items) (declared : i.declaration = .union u)
    {v : Variant TypeRef} (variant : v ∈ u.variants) : (target.variantType config u own v).Closed u.generics where
  binds_iff g := by
    refine mem_usedGenerics_iff.trans (and_iff_right_of_imp ?_)
    rintro ⟨t, type, inside⟩
    have among : t ∈ i.declaration.types := by
      rw [declared]
      exact List.mem_flatMap.2 ⟨v, variant, type⟩
    have generic := (mem_generics_of_param item among inside).1
    rwa [declared] at generic
  distinct := by
    have distinct := generics_nodup item
    rw [declared] at distinct
    exact distinct.filter _
  ordered := List.filter_sublist
  passed_iff := nofun

/-- A union binds its generics, and each of them is passed to a variant. -/
theorem TargetName.closed_unionType (item : i ∈ document.resolve.items) (declared : i.declaration = .union u) :
    (target.unionType config u own).Closed u.generics := by
  have binds := mem_generics_iff item
  have distinct := generics_nodup item
  rw [declared] at binds distinct
  refine ⟨binds, distinct, List.Sublist.refl _, fun variants form g => ?_⟩
  cases form
  constructor
  · intro generic
    obtain ⟨t, type, inside⟩ := (binds g).1 generic
    obtain ⟨v, variant, field⟩ := List.mem_flatMap.1 type
    exact ⟨_, List.mem_map_of_mem variant, mem_usedGenerics_iff.2 ⟨generic, t, field, inside⟩⟩
  · rintro ⟨use, used, passed⟩
    obtain ⟨v, -, rfl⟩ := List.mem_map.1 used
    exact (mem_usedGenerics_iff.1 passed).1

/-- Every type that is emitted is closed. -/
theorem TargetName.closed_of_mem_emittedTypes (item : i ∈ document.resolve.items)
    (found : (runNames target.target config document.resolve).get? i.path = some (.ok own)) :
    ∀ e ∈ emittedTypes own i.declaration, e.Closed i.declaration.generics := by
  have binds := mem_generics_iff item
  have distinct := generics_nodup item
  cases declared : i.declaration with
  | struct s =>
    rw [declared] at binds distinct
    exact List.forall_mem_singleton.2 ⟨binds, distinct, List.Sublist.refl _, nofun⟩
  | union u =>
    rw [target.emittedTypes_union item declared found]
    refine List.forall_mem_cons.2 ⟨target.closed_unionType item declared, List.forall_mem_map.2 fun v variant => ?_⟩
    exact target.closed_variantType item declared variant
  | typeAlias a =>
    rw [declared] at binds
    exact List.forall_mem_singleton.2 ⟨binds, List.nodup_nil, List.Sublist.refl _, nofun⟩
  | const c | module _ _ _ => exact nofun

end

/-! ## Outputs -/

def TargetName.aliasEnd : TargetName → String
  | go => "\n"
  | rust => ";\n"

/-- The source is read as the type with its generics, and as nothing else. A record has the texts of what it is built
from, and its constructor binds its generics and makes a value of it. A union mentions the uses of its variants, and an
alias is another name for the text of one type. -/
def EmittedType.ReadFrom (target : TargetName) (cx : RenderContext) (source : String) (e : EmittedType) : Prop :=
  match e.form with
  | .record =>
    ∃ text methods,
      (target.readVariant (e.types.map (target.typeText cx))).run source.toList = some ((text, methods), []) ∧
      text.type = e.use ∧ text.binders = e.generics ∧ text.result = e.use ∧ ∀ method ∈ methods, method.1 = e.use
  | .union variants =>
    ∃ text, target.readUnion.run source.toList = some (text, []) ∧ text.type = e.use ∧
      text.alternatives.map (·.2) = variants ∧ text.dispatch.map (·.1) = variants
  | .alias =>
    ∃ t, e.types = [t] ∧ e.generics = [] ∧
      target.readAlias.run source.toList = some (e.name, (target.typeText cx t ++ target.aliasEnd).toList)

section

variable (target : TargetName) (cx : RenderContext) {document : Document} {config : Config} {i : SchemaItem}
  {own : DeclarationNames}

theorem TargetName.readAlias_aliasOutput {name : String} (named : Go.IsName name) (a : Alias TypeRef) :
    target.readAlias.run (target.target.aliasOutput cx a name).source.toList =
      some (name, (target.typeText cx a.target ++ target.aliasEnd).toList) := by
  cases target with
  | go => exact Go.readAlias_aliasOutput cx named a
  | rust => exact Rust.readAlias_aliasOutput cx named a

theorem EmittedRecord.readFrom {record : EmittedRecord} {source : String} {methods : List (TypeUse × Method)}
    (reads : (target.readVariant (record.fields.map fun f => target.typeText cx f.type)).run source.toList =
      some ((target.recordText record.use record.fields, methods), []))
    (received : ∀ method ∈ methods, method.1 = record.use) : record.emitted.ReadFrom target cx source := by
  refine ⟨target.recordText record.use record.fields, methods, ?_, rfl, rfl, rfl, received⟩
  show (target.readVariant ((record.fields.map (·.type)).map (target.typeText cx))).run _ = _
  rwa [List.map_map]

/-- Each type has an output that is read as it. -/
theorem TargetName.exists_output (valid : config.validate = .ok ()) (item : i ∈ document.resolve.items)
    (found : (runNames target.target config document.resolve).get? i.path = some (.ok own)) :
    ∀ e ∈ emittedTypes own i.declaration, ∃ o ∈ target.target.render cx i.declaration own,
      o.identifier = e.name ∧ e.ReadFrom target cx o.source := by
  cases declared : i.declaration with
  | struct s =>
    have fields : ∀ f ∈ s.fields, isIdentifier f.name := fun f =>
      isIdentifier_fieldName item (by rw [declared]; exact List.mem_singleton_self _)
    have records := target.declared_record valid item found
    rw [declared] at records
    have bound := (records ⟨own.identifier, s.generics, s.fields⟩ (List.mem_singleton_self _)).named
    refine List.forall_mem_singleton.2 ⟨_, List.mem_singleton_self _, ?_, ?_⟩
    · cases target <;> rfl
    · let record : EmittedRecord := ⟨own.identifier, s.generics, s.fields⟩
      exact record.readFrom target cx (target.readVariant_structOutput cx bound fields) (List.forall_mem_nil _)
  | union u =>
    obtain ⟨contract, outputOf, outputs, called, reads, each⟩ := target.exists_unionOutputs cx valid item declared found
    rw [target.emittedTypes_union item declared found, Target.render, outputs]
    refine List.forall_mem_cons.2 ⟨⟨contract, List.mem_cons_self, called, _, reads, rfl, ?_, ?_⟩,
      List.forall_mem_map.2 fun v variant => ?_⟩
    · exact List.map_map
    · exact target.dispatch_types _
    · obtain ⟨called, reads⟩ := each v variant
      refine ⟨outputOf v, List.mem_cons_of_mem _ (List.mem_map_of_mem variant), called, ?_⟩
      let record : EmittedRecord := ⟨target.variantName config u own v, v.usedGenerics u.generics, v.fields⟩
      exact record.readFrom target cx reads (List.forall_mem_map.2 fun _ _ => rfl)
  | typeAlias a =>
    have named := (target.emittedName_selfAlone (isIdentifier_name item)).1
    rw [← identifier_eq item found] at named
    refine List.forall_mem_singleton.2 ⟨_, List.mem_singleton_self _, ?_, a.target, rfl, rfl, ?_⟩
    · cases target <;> rfl
    · exact target.readAlias_aliasOutput cx named a
  | const c | module _ _ _ => exact List.forall_mem_nil _

end

/-! ## References -/

def IsPartOf (part text : String) : Prop :=
  part.toList <:+: text.toList

theorem IsPartOf.append {part text : String} (inside : IsPartOf part text) (rest : String) :
    IsPartOf part (text ++ rest) := by
  rw [IsPartOf, String.toList_append]
  exact inside.trans (List.prefix_append _ _).isInfix

theorem IsPartOf.behind {part text : String} (inside : IsPartOf part text) (before : String) :
    IsPartOf part (before ++ text) := by
  rw [IsPartOf, String.toList_append]
  exact inside.trans (List.suffix_append _ _).isInfix

theorem isPartOf_self (text : String) : IsPartOf text text :=
  List.infix_refl _

theorem isPartOf_bracketed (opening closing : String) {name : String} {names : List String} (among : name ∈ names) :
    IsPartOf name (bracketed opening closing names) := by
  have within : IsPartOf name (", ".intercalate names) := by
    rw [IsPartOf, String.toList_intercalate]
    cases names with
    | nil => exact absurd among List.not_mem_nil
    | cons first others =>
      rw [List.map_cons, Text.intercalate_cons_eq, List.flatMap_map]
      rcases List.mem_cons.1 among with rfl | later
      · exact (List.prefix_append _ _).isInfix
      · have piece : name.toList <:+ ", ".toList ++ name.toList := List.suffix_append _ _
        refine (piece.isInfix.trans ?_).trans (List.suffix_append _ _).isInfix
        exact List.infix_of_mem_flatten (List.mem_map_of_mem (f := fun a : String => ", ".toList ++ a.toList) later)
  rw [bracketed, if_neg (List.ne_nil_of_mem among)]
  exact (within.behind opening).append closing

/-- The name of a declaration in front of its arguments, with the way to its module. -/
def TargetName.placeText : TargetName → RenderContext → SchemaPath → String
  | go => fun cx p => Go.qualifier cx p.module ++ cx.identifierOf p
  | rust => fun cx p => Rust.relativePath cx.module p.module (cx.identifierOf p)

section

variable (target : TargetName) (cx : RenderContext)

/-- A reference is written as a use of the declaration. -/
theorem TargetName.typeText_reference (p : SchemaPath) (arguments : List TypeRef) :
    target.typeText cx (.named p arguments) =
      target.useText ⟨target.placeText cx p, arguments.map (target.typeText cx)⟩ := by
  cases target with
  | go =>
    show Go.qualifier cx p.module ++ cx.identifierOf p ++ Go.typeArguments (Go.typeTexts cx arguments) = _
    rw [Go.typeTexts_eq_map]
    rfl
  | rust =>
    show Rust.relativePath cx.module p.module (cx.identifierOf p) ++ Rust.genericList (Rust.typeTexts cx arguments) = _
    rw [Rust.typeTexts_eq_map]
    rfl

theorem Go.isPartOf_of_child {t u : TypeRef} (child : u ∈ t.children) : IsPartOf (typeText cx u) (typeText cx t) := by
  have among : ∀ ts : List TypeRef, u ∈ ts → IsPartOf (typeText cx u) (typeArguments (typeTexts cx ts)) := by
    intro ts member
    rw [typeTexts_eq_map]
    exact isPartOf_bracketed _ _ (List.mem_map_of_mem member)
  have self := isPartOf_self (typeText cx u)
  cases t with
  | scalar s | param g => exact absurd child List.not_mem_nil
  | tuple elements => exact (among elements child).behind _
  | named p arguments => exact (among arguments child).behind _
  | list item =>
    obtain rfl := List.mem_singleton.1 child
    exact self.behind "[]"
  | array item length =>
    obtain rfl := List.mem_singleton.1 child
    exact self.behind ("[" ++ toString length ++ "]")
  | option item =>
    obtain rfl := List.mem_singleton.1 child
    exact self.behind "*"
  | map key value =>
    rcases List.mem_cons.1 child with rfl | last
    · exact ((self.behind "map[").append "]").append _
    · obtain rfl := List.mem_singleton.1 last
      exact self.behind ("map[" ++ typeText cx key ++ "]")
  | hashSet item =>
    obtain rfl := List.mem_singleton.1 child
    exact (self.behind "map[").append _

theorem Rust.isPartOf_of_child {t u : TypeRef} (child : u ∈ t.children) :
    IsPartOf (typeText cx u) (typeText cx t) := by
  have among : ∀ ts : List TypeRef, u ∈ ts → IsPartOf (typeText cx u) (genericList (typeTexts cx ts)) := by
    intro ts member
    rw [typeTexts_eq_map]
    exact isPartOf_bracketed _ _ (List.mem_map_of_mem member)
  have self := isPartOf_self (typeText cx u)
  cases t with
  | scalar s | param g => exact absurd child List.not_mem_nil
  | tuple elements => exact (among elements child).behind _
  | named p arguments => exact (among arguments child).behind _
  | list item =>
    obtain rfl := List.mem_singleton.1 child
    exact (self.behind "Vec<").append ">"
  | array item length =>
    obtain rfl := List.mem_singleton.1 child
    exact (((self.behind "[").append "; ").append (toString length)).append "]"
  | option item =>
    obtain rfl := List.mem_singleton.1 child
    exact (self.behind "Option<").append ">"
  | map key value =>
    rcases List.mem_cons.1 child with rfl | last
    · exact (((self.behind "::std::collections::BTreeMap<").append ", ").append _).append ">"
    · obtain rfl := List.mem_singleton.1 last
      exact (self.behind ("::std::collections::BTreeMap<" ++ typeText cx key ++ ", ")).append ">"
  | hashSet item =>
    obtain rfl := List.mem_singleton.1 child
    exact (self.behind "::std::collections::HashSet<").append ">"

/-- The text of a type has the texts of the types inside it. -/
theorem TargetName.isPartOf_of_mem_walk {t u : TypeRef} (inside : u ∈ t.walk) :
    IsPartOf (target.typeText cx u) (target.typeText cx t) := by
  induction t using SchemaType.children_induction with
  | step t ih =>
    rcases SchemaType.mem_walk_iff.1 inside with rfl | ⟨v, child, deeper⟩
    · exact isPartOf_self _
    · refine (ih v child deeper).trans ?_
      cases target with
      | go => exact Go.isPartOf_of_child cx child
      | rust => exact Rust.isPartOf_of_child cx child

end

/-- A reference in the text of the type `t` is written as a use of what stands at the path, with the texts of the
arguments. If a declaration is emitted there, it has the name of its first type, which binds as many generics. -/
structure FullyApplied (target : TargetName) (cx : RenderContext) (cs : List Candidate) (t : TypeRef) (p : SchemaPath)
    (arguments : List TypeRef) : Prop where
  inside : IsPartOf (target.typeText cx (.named p arguments)) (target.typeText cx t)
  text_eq : target.typeText cx (.named p arguments) =
    target.useText ⟨target.placeText cx p, arguments.map (target.typeText cx)⟩
  binds : ∀ d ∈ cs, d.path = p → ∀ own, d.status = .ok own →
    ∃ e, (emittedTypes own d.item.declaration).head? = some e ∧ e.name = cx.identifierOf p ∧
      e.generics.length = arguments.length

/-- What a type can refer to emits a type of its own, in front of others, which binds the generics of the declaration. -/
theorem head?_emittedTypes {d : SchemaDeclaration} {k : Nat} (count : d.genericCount? = some k)
    (own : DeclarationNames) :
    ∃ e, (emittedTypes own d).head? = some e ∧ e.name = own.identifier ∧ e.generics.length = k := by
  cases d with
  | struct s | union u | typeAlias a =>
    cases count
    exact ⟨_, rfl, rfl, rfl⟩
  | const c | module _ _ _ => exact absurd count (by simp [Declaration.genericCount?])

theorem mem_types_of_mem_emittedTypes {own : DeclarationNames} {d : SchemaDeclaration} :
    ∀ e ∈ emittedTypes own d, ∀ t ∈ e.types, t ∈ d.types := by
  have records : ∀ e ∈ (emittedRecords own d).map (·.emitted), ∀ t ∈ e.types, t ∈ d.types :=
    List.forall_mem_map.2 fun record emitted => List.forall_mem_map.2 fun f field =>
      mem_types_of_record (mem_records_of_mem_emittedRecords emitted) field
  cases d with
  | struct s => exact records
  | union u =>
    refine List.forall_mem_cons.2 ⟨fun t type => ?_, records⟩
    obtain ⟨e, emitted, inside⟩ := List.mem_flatMap.1 type
    exact records e emitted t inside
  | typeAlias a => exact List.forall_mem_singleton.2 fun t => id
  | const c | module _ _ _ => exact nofun

section

variable {document : Document} {config : Config} {i : SchemaItem}

theorem TargetName.fullyApplied (target : TargetName) (item : i ∈ document.resolve.items) {t : TypeRef}
    (type : t ∈ i.declaration.types) {p : SchemaPath} {arguments : List TypeRef}
    (inside : .named p arguments ∈ t.walk) (m : ModulePath) :
    FullyApplied target ⟨config, runNames target.target config document.resolve, m⟩
      (plan target.target config (runNames target.target config document.resolve) document.resolve) t p arguments where
  inside := target.isPartOf_of_mem_walk _ inside
  text_eq := target.typeText_reference _ p arguments
  binds := by
    rintro d member rfl own status
    have count := document.genericCountAt?_of_named item type inside
    rw [Candidate.path, genericCount?_of_genericCountAt? (item_of_mem_plan member)] at count
    obtain ⟨e, head, name, generics⟩ := head?_emittedTypes count own
    refine ⟨e, head, ?_, generics⟩
    rw [name, RenderContext.identifierOf, identifier?_of_mem_plan member status]
    rfl

/-- Each type that a run emits binds the parameters that occur in what it is built from, each of them once, in declared
order, and no others. Each reference in its text passes as many arguments as the type of the declaration binds, if that
is emitted. A run that is not strict ends with outputs, and whenever a run does, one of them is read as the type with
these generics. -/
theorem generate_types_closed (document : Document) (config : Config) (valid : config.validate = .ok ()) :
    let target := config.target
    let names := runNames target.target config document.resolve
    let cs := plan target.target config names document.resolve
    (config.strict = false → ∃ g, generate config document.resolve = .ok g) ∧
      ∀ c ∈ cs, ∀ own, c.status = .ok own → ∀ e ∈ emittedTypes own c.item.declaration,
        let cx : RenderContext := ⟨config, names, c.item.module⟩
        e.Closed c.item.declaration.generics ∧
        (∀ t ∈ e.types, ∀ p arguments, .named p arguments ∈ t.walk → FullyApplied target cx cs t p arguments) ∧
        ∀ g, generate config document.resolve = .ok g →
          ∃ o ∈ g.outputs, o.module = c.item.module ∧ o.identifier = e.name ∧ e.ReadFrom target cx o.source := by
  intro target names cs
  refine ⟨exists_generateFor_of_lenient target.target document.resolve valid, fun c member own status e emitted => ?_⟩
  have item := item_of_mem_plan member
  obtain ⟨own', status', -, -, found⟩ := status_of_mem_plan member (Candidate.isReady_iff.2 ⟨own, status⟩)
  cases status.symm.trans status'
  refine ⟨target.closed_of_mem_emittedTypes item found e emitted, fun t type p arguments inside => ?_,
    fun g generated => ?_⟩
  · exact target.fullyApplied item (mem_types_of_mem_emittedTypes e emitted t type) inside c.item.module
  · obtain ⟨o, rendered, called, reads⟩ := target.exists_output _ valid item found e emitted
    have output : o ∈ c.outputs target.target config names := by rwa [Candidate.outputs, status]
    obtain ⟨-, -, module, -⟩ := place_of_mem_outputs target.namesOutputs (List.mem_map_of_mem output)
    exact ⟨o, mem_outputs_of_mem_plan generated member output, module, called, reads⟩

end

/-- A union with a generic, and a struct that passes its own generic on to it. -/
def drawingDocument : Document :=
  ⟨[.union shapeUnion, .struct ⟨"Drawing", ["K"], [⟨"shapes", .list (.named "Shape" [.param "K"]), none⟩], none⟩]⟩

theorem drawing_types_closed :
    let shapes : TypeRef := .list (.named ⟨["Shape"]⟩ [.param "K"])
    let drawing : EmittedType := ⟨.record, "Drawing", ["K"], [shapes]⟩
    let names := runNames Go.target {} drawingDocument.resolve
    ∃ g, generate {} drawingDocument.resolve = .ok g ∧
      (∃ o ∈ g.outputs, ∃ text methods,
        (TargetName.go.readVariant ["[]Shape[K]"]).run o.source.toList = some ((text, methods), []) ∧
          text.type = ⟨"Drawing", ["K"]⟩) ∧
      drawing.Closed ["K"] ∧
      ∃ d ∈ plan Go.target {} names drawingDocument.resolve, ∃ own shape, d.status = .ok own ∧
        (emittedTypes own d.item.declaration).head? = some shape ∧ shape.name = "Shape" ∧ shape.generics.length = 1 := by
  intro shapes drawing names
  have valid : Config.validate {} = .ok () := by decide +kernel
  obtain ⟨returns, types⟩ := generate_types_closed drawingDocument {} valid
  obtain ⟨g, generated⟩ := returns rfl
  obtain ⟨c, member, same⟩ : ∃ c ∈ plan Go.target {} names drawingDocument.resolve,
      c.item = ⟨[], .struct ⟨"Drawing", ["K"], [⟨"shapes", shapes, none⟩], none⟩⟩ :=
    exists_candidate (List.mem_of_getElem? (i := 1) rfl)
  have named : ∀ c ∈ plan Go.target {} names drawingDocument.resolve,
      c.status.toOption.map (·.identifier) = some c.item.declaration.name := by
    decide +kernel
  obtain ⟨own, status, identifier⟩ := exists_of_toOption_map (named c member)
  have emitted : drawing ∈ emittedTypes own c.item.declaration := by
    rw [same] at identifier ⊢
    obtain ⟨name, variants, qualified⟩ := own
    obtain rfl : name = "Drawing" := identifier
    exact List.mem_singleton_self _
  obtain ⟨closed, applied, outputs⟩ := types c member own status drawing emitted
  obtain ⟨o, output, -, -, text, methods, reads, type, -⟩ := outputs g generated
  rw [same] at reads closed applied
  have written : TargetName.go.typeText ⟨{}, names, []⟩ shapes = "[]Shape[K]" := by decide +kernel
  obtain ⟨d, member', path⟩ : ∃ d ∈ plan Go.target {} names drawingDocument.resolve, d.path = ⟨["Shape"]⟩ := by
    decide +kernel
  obtain ⟨own', status', -⟩ := exists_of_toOption_map (named d member')
  have reference := applied shapes (List.mem_singleton_self _) ⟨["Shape"]⟩ [.param "K"]
    (List.mem_of_getElem? (i := 1) rfl)
  obtain ⟨shape, head, called, arity⟩ := reference.binds d member' path own' status'
  refine ⟨g, generated, ⟨o, output, text, methods, ?_, type⟩, closed, d, member', own', shape, status', head, ?_, arity⟩
  · rw [← written]
    exact reads
  · refine called.trans ?_
    decide +kernel

end SchemaBindings
