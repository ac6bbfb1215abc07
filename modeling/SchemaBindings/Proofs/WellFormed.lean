import SchemaBindings.Proofs.TypeResolution

/-!
# Well-formed declarations

What a declaration must satisfy (`Document.WellFormed`) and what it resolves to, stated without the order in which
the checks are made. Each check succeeds exactly if its part holds, so a declaration resolves exactly if
it is well formed.

* `FreshNames seen names` is the state of the checks that look for repeated names from the left.
* `Struct.map`, `Union.map` and `Alias.map` replace the types of a declaration and keep the rest.
-/

namespace SchemaBindings

open SchemaType

/-! ## Declarations with other types -/

section

variable {τ σ κ : Type}

def Field.map (g : τ → σ) (f : Field τ) : Field σ :=
  ⟨f.name, g f.type, f.comment⟩

def Struct.map (g : τ → σ) (s : Struct τ) : Struct σ :=
  ⟨s.name, s.generics, s.fields.map (Field.map g), s.comment⟩

def Variant.map (g : τ → σ) (v : Variant τ) : Variant σ :=
  ⟨v.name, v.fields.map (Field.map g), v.comment⟩

def Union.map (g : τ → σ) (u : Union τ) : Union σ :=
  ⟨u.name, u.generics, u.variants.map (Variant.map g), u.comment⟩

def Alias.map (g : τ → σ) (a : Alias τ) : Alias σ :=
  ⟨a.name, g a.target, a.comment⟩

/-- The fields of each record that a declaration is made of. -/
def Declaration.records : Declaration τ κ → List (List (Field τ))
  | .struct s => [s.fields]
  | .union u => u.variants.map (·.fields)
  | .typeAlias _ | .const _ | .module _ _ _ => []

def Declaration.variantNames : Declaration τ κ → List String
  | .union u => u.variants.map (·.name)
  | .struct _ | .typeAlias _ | .const _ | .module _ _ _ => []

def Declaration.generics : Declaration τ κ → List String
  | .struct s => s.generics
  | .union u => u.generics
  | .typeAlias _ | .const _ | .module _ _ _ => []

theorem map_name_map_field (g : τ → σ) (fs : List (Field τ)) :
    (fs.map (Field.map g)).map (·.name) = fs.map (·.name) := by
  rw [List.map_map]
  rfl

theorem map_name_map_variant (g : τ → σ) (vs : List (Variant τ)) :
    (vs.map (Variant.map g)).map (·.name) = vs.map (·.name) := by
  rw [List.map_map]
  rfl

end

/-! ## Well-formedness -/

structure DistinctIdentifiers (names : List String) : Prop where
  identifiers : ∀ name ∈ names, isIdentifier name
  nodup : names.Nodup

/-- What makes a declaration of the module `m` acceptable. -/
structure Document.WellFormed (document : Document) (m : ModulePath) (d : DeclarationExpr) :
    Prop where
  name : isIdentifier d.name
  fields : ∀ fields ∈ d.records, DistinctIdentifiers (fields.map (·.name))
  variants : DistinctIdentifiers d.variantNames
  generics : DistinctIdentifiers d.generics
  /-- Every generic parameter occurs in the type of a field, at any depth. -/
  used : ∀ g ∈ d.generics, ∃ t ∈ d.types, param g ∈ t.walk
  /-- Every type is admitted, with every type inside it. -/
  types : ∀ t ∈ d.types, ∀ u ∈ t.walk, document.Admits m d.generics u
  /-- The literal of a constant fits its type. -/
  value : ∀ c, d = .const c → ∃ value, fold c.value.type c.value.literal = .ok value

/-! ## Checks of names -/

/-- The names differ from each other and from those in `seen`. -/
def FreshNames (seen names : List String) : Prop :=
  names.Nodup ∧ ∀ name ∈ names, name ∉ seen

theorem freshNames_nil (seen : List String) : FreshNames seen [] :=
  ⟨List.nodup_nil, fun _ member => absurd member List.not_mem_nil⟩

theorem freshNames_cons {seen names : List String} {name : String} :
    FreshNames seen (name :: names) ↔ name ∉ seen ∧ FreshNames (name :: seen) names := by
  unfold FreshNames
  rw [List.nodup_cons, List.forall_mem_cons]
  constructor
  · rintro ⟨⟨other, nodup⟩, fresh, rest⟩
    refine ⟨fresh, nodup, fun n member repeated => ?_⟩
    rcases List.mem_cons.1 repeated with rfl | before
    · exact other member
    · exact rest n member before
  · rintro ⟨fresh, nodup, rest⟩
    refine ⟨⟨fun member => rest name member List.mem_cons_self, nodup⟩, fresh, ?_⟩
    exact fun n member before => rest n member (List.mem_cons_of_mem _ before)

theorem freshNames_of_nothing_seen {names : List String} : FreshNames [] names ↔ names.Nodup := by
  simp [FreshNames]

theorem distinctIdentifiers_iff {names : List String} :
    DistinctIdentifiers names ↔ (∀ name ∈ names, isIdentifier name) ∧ names.Nodup :=
  ⟨fun h => ⟨h.identifiers, h.nodup⟩, fun h => ⟨h.1, h.2⟩⟩

theorem distinctIdentifiers_nil : DistinctIdentifiers [] :=
  ⟨fun _ member => absurd member List.not_mem_nil, List.nodup_nil⟩

theorem checkIdentifier_eq_ok_iff {name : String} :
    checkIdentifier name = .ok () ↔ isIdentifier name := by
  unfold checkIdentifier
  split <;> simp_all

theorem checkFields_eq_ok_iff {seen : List String} {fs : List (Field TypeRef)} :
    checkFields seen fs = .ok () ↔
      (∀ name ∈ fs.map (·.name), isIdentifier name) ∧ FreshNames seen (fs.map (·.name)) := by
  induction fs generalizing seen with
  | nil => simp [checkFields, freshNames_nil]
  | cons f fs ih =>
    simp only [checkFields, bind_eq_ok, exists_unit_iff, checkIdentifier_eq_ok_iff, List.map_cons,
      List.forall_mem_cons, freshNames_cons]
    by_cases repeated : f.name ∈ seen
    · simp [repeated]
    · simp [repeated, ih, and_assoc]

theorem checkVariantNames_eq_ok_iff {seen : List String} {vs : List (Variant TypeRef)} :
    checkVariantNames seen vs = .ok () ↔ FreshNames seen (vs.map (·.name)) := by
  induction vs generalizing seen with
  | nil => simp [checkVariantNames, freshNames_nil]
  | cons v vs ih =>
    rw [checkVariantNames, List.map_cons, freshNames_cons]
    by_cases repeated : v.name ∈ seen
    · simp [repeated]
    · simp [repeated, ih]

theorem checkGenericNames_eq_ok_iff {seen gs : List String} :
    checkGenericNames seen gs = .ok () ↔ (∀ name ∈ gs, isIdentifier name) ∧ FreshNames seen gs := by
  induction gs generalizing seen with
  | nil => simp [checkGenericNames, freshNames_nil]
  | cons g gs ih =>
    simp only [checkGenericNames, bind_eq_ok, exists_unit_iff, checkIdentifier_eq_ok_iff, List.forall_mem_cons,
      freshNames_cons]
    by_cases repeated : g ∈ seen
    · simp [repeated]
    · simp [repeated, ih, and_assoc]

theorem checkFields_nil_eq_ok_iff {fs : List (Field TypeRef)} :
    checkFields [] fs = .ok () ↔ DistinctIdentifiers (fs.map (·.name)) := by
  rw [checkFields_eq_ok_iff, freshNames_of_nothing_seen, distinctIdentifiers_iff]

theorem checkGenerics_eq_ok_iff {generics : List String} {fields : List (Field TypeRef)} :
    checkGenerics generics fields = .ok () ↔
      DistinctIdentifiers generics ∧ ∀ g ∈ generics, g ∈ parametersOf fields := by
  unfold checkGenerics
  rw [bind_eq_ok, exists_unit_iff, checkGenericNames_eq_ok_iff, freshNames_of_nothing_seen,
    ← distinctIdentifiers_iff]
  refine and_congr_right fun _ => ?_
  cases unused : generics.find? (· ∉ parametersOf fields) with
  | none =>
    refine iff_of_true rfl fun g member => ?_
    simpa using List.find?_eq_none.1 unused g member
  | some g =>
    refine iff_of_false throw_ne_ok fun all => ?_
    have missing : g ∉ parametersOf fields := by simpa using List.find?_some unused
    exact missing (all g (List.mem_of_find?_eq_some unused))

/-! ## Resolution of a declaration -/

section

variable (document : Document) (m : ModulePath)

/-- The type with its names replaced by what they refer to in the module. -/
def Document.resolved (t : TypeExpr) : TypeRef :=
  t.rename (document.referent m)

theorem resolveField_eq_ok_iff (generics : List String) (f : Field TypeExpr)
    (f' : Field TypeRef) :
    (Scope.mk document.symbols m generics).resolveField f = .ok f' ↔
      (∀ u ∈ f.type.walk, document.Admits m generics u) ∧ f' = f.map (document.resolved m) := by
  simp only [Scope.resolveField, bind_eq_ok, pure_eq_ok, resolveType_eq_ok_iff]
  constructor
  · rintro ⟨_, ⟨admitted, rfl⟩, rfl⟩
    exact ⟨admitted, rfl⟩
  · rintro ⟨admitted, rfl⟩
    exact ⟨_, ⟨admitted, rfl⟩, rfl⟩

theorem resolveFields_eq_ok_iff {generics : List String} {fs : List (Field TypeExpr)}
    {fs' : List (Field TypeRef)} :
    fs.mapM (Scope.mk document.symbols m generics).resolveField = .ok fs' ↔
      (∀ f ∈ fs, ∀ u ∈ f.type.walk, document.Admits m generics u) ∧
        fs' = fs.map (Field.map (document.resolved m)) :=
  mapM_eq_ok_iff (resolveField_eq_ok_iff document m generics)

theorem mem_parametersOf_map {fs : List (Field TypeExpr)} {name : String} :
    name ∈ parametersOf (fs.map (Field.map (document.resolved m))) ↔
      ∃ f ∈ fs, param name ∈ f.type.walk := by
  have same : ∀ f : Field TypeExpr, (f.map (document.resolved m)).type.parameters = f.type.parameters :=
    fun f => parameters_rename _ f.type
  simp only [parametersOf, List.mem_flatMap, List.mem_map, exists_exists_and_eq_and, same]
  simp only [mem_parameters]

/-- A struct resolves exactly if it is well formed. -/
theorem resolveStruct_eq_ok_iff {s : Struct TypeExpr} {s' : Struct TypeRef} :
    (Scope.mk document.symbols m s.generics).resolveStruct s = .ok s' ↔
      document.WellFormed m (.struct s) ∧ s' = s.map (document.resolved m) := by
  simp only [Scope.resolveStruct, bind_eq_ok, exists_unit_iff, pure_eq_ok,
    resolveFields_eq_ok_iff, Struct.check, checkIdentifier_eq_ok_iff, checkFields_nil_eq_ok_iff,
    checkGenerics_eq_ok_iff]
  constructor
  · rintro ⟨_, ⟨types, rfl⟩, ⟨name, fields, generics, used⟩, rfl⟩
    rw [map_name_map_field] at fields
    -- The checks look at the resolved fields, which have the names and the parameters of the declared ones.
    refine ⟨⟨name, ?_, distinctIdentifiers_nil, generics, fun g member => ?_, ?_, ?_⟩, rfl⟩
    · exact fun _ record => List.mem_singleton.1 record ▸ fields
    · obtain ⟨f, among, inside⟩ := (mem_parametersOf_map document m).1 (used g member)
      exact ⟨f.type, List.mem_map_of_mem among, inside⟩
    · exact List.forall_mem_map.2 types
    · rintro _ ⟨⟩
  · rintro ⟨formed, rfl⟩
    refine ⟨_, ⟨List.forall_mem_map.1 formed.types, rfl⟩, ⟨formed.name, ?_, formed.generics, ?_⟩, rfl⟩
    · rw [map_name_map_field]
      exact formed.fields _ List.mem_cons_self
    · intro g member
      obtain ⟨t, among, inside⟩ := formed.used g member
      obtain ⟨f, field, rfl⟩ := List.mem_map.1 among
      exact (mem_parametersOf_map document m).2 ⟨f, field, inside⟩

theorem resolveVariant_eq_ok_iff (generics : List String) (v : Variant TypeExpr)
    (v' : Variant TypeRef) :
    (Scope.mk document.symbols m generics).resolveVariant v = .ok v' ↔
      (isIdentifier v.name ∧ DistinctIdentifiers (v.fields.map (·.name)) ∧
        ∀ f ∈ v.fields, ∀ u ∈ f.type.walk, document.Admits m generics u) ∧
        v' = v.map (document.resolved m) := by
  simp only [Scope.resolveVariant, bind_eq_ok, exists_unit_iff, pure_eq_ok,
    resolveFields_eq_ok_iff, Variant.check, checkIdentifier_eq_ok_iff, checkFields_nil_eq_ok_iff]
  constructor
  · rintro ⟨_, ⟨types, rfl⟩, ⟨name, fields⟩, rfl⟩
    rw [map_name_map_field] at fields
    exact ⟨⟨name, fields, types⟩, rfl⟩
  · rintro ⟨⟨name, fields, types⟩, rfl⟩
    refine ⟨_, ⟨types, rfl⟩, ⟨name, ?_⟩, rfl⟩
    rwa [map_name_map_field]

theorem mem_types_union {u : Union TypeExpr} {t : TypeExpr} :
    t ∈ (Declaration.union u : DeclarationExpr).types ↔
      ∃ v ∈ u.variants, ∃ f ∈ v.fields, f.type = t := by
  simp only [Declaration.types, List.mem_flatMap, List.mem_map]

theorem mem_parametersOf_flatMap {vs : List (Variant TypeExpr)} {name : String} :
    name ∈ parametersOf ((vs.map (Variant.map (document.resolved m))).flatMap (·.fields)) ↔
      ∃ v ∈ vs, ∃ f ∈ v.fields, param name ∈ f.type.walk := by
  have fields : (vs.map (Variant.map (document.resolved m))).flatMap (·.fields) =
      (vs.flatMap (·.fields)).map (Field.map (document.resolved m)) := by
    rw [List.flatMap_map, List.map_flatMap]
    rfl
  rw [fields, mem_parametersOf_map]
  simp only [List.mem_flatMap]
  constructor
  · rintro ⟨f, ⟨v, variant, field⟩, inside⟩
    exact ⟨v, variant, f, field, inside⟩
  · rintro ⟨v, variant, f, field, inside⟩
    exact ⟨f, ⟨v, variant, field⟩, inside⟩

/-- A union resolves exactly if it is well formed. -/
theorem resolveUnion_eq_ok_iff {u : Union TypeExpr} {u' : Union TypeRef} :
    (Scope.mk document.symbols m u.generics).resolveUnion u = .ok u' ↔
      document.WellFormed m (.union u) ∧ u' = u.map (document.resolved m) := by
  simp only [Scope.resolveUnion, bind_eq_ok, exists_unit_iff, pure_eq_ok,
    mapM_eq_ok_iff (resolveVariant_eq_ok_iff document m u.generics), Union.check,
    checkIdentifier_eq_ok_iff, checkVariantNames_eq_ok_iff, freshNames_of_nothing_seen,
    checkGenerics_eq_ok_iff]
  constructor
  · rintro ⟨_, ⟨variants, rfl⟩, ⟨name, distinct, generics, used⟩, rfl⟩
    rw [map_name_map_variant] at distinct
    refine ⟨⟨name, ?_, ⟨?_, distinct⟩, generics, fun g member => ?_, fun t among => ?_, ?_⟩, rfl⟩
    · exact List.forall_mem_map.2 fun v variant => (variants v variant).2.1
    · exact List.forall_mem_map.2 fun v variant => (variants v variant).1
    · obtain ⟨v, variant, f, field, inside⟩ := (mem_parametersOf_flatMap document m).1 (used g member)
      exact ⟨f.type, mem_types_union.2 ⟨v, variant, f, field, rfl⟩, inside⟩
    · obtain ⟨v, variant, f, field, rfl⟩ := mem_types_union.1 among
      exact (variants v variant).2.2 f field
    · rintro _ ⟨⟩
  · rintro ⟨formed, rfl⟩
    refine ⟨_, ⟨fun v variant => ⟨?_, ?_, fun f field => ?_⟩, rfl⟩,
      ⟨formed.name, ?_, formed.generics, fun g member => ?_⟩, rfl⟩
    · exact formed.variants.identifiers _ (List.mem_map_of_mem variant)
    · exact formed.fields _ (List.mem_map_of_mem variant)
    · exact formed.types _ (mem_types_union.2 ⟨v, variant, f, field, rfl⟩)
    · rw [map_name_map_variant]
      exact formed.variants.nodup
    · obtain ⟨t, among, inside⟩ := formed.used g member
      obtain ⟨v, variant, f, field, rfl⟩ := mem_types_union.1 among
      exact (mem_parametersOf_flatMap document m).2 ⟨v, variant, f, field, inside⟩

/-- An alias resolves exactly if it is well formed. -/
theorem resolveAlias_eq_ok_iff {a : Alias TypeExpr} {a' : Alias TypeRef} :
    (Scope.mk document.symbols m []).resolveAlias a = .ok a' ↔
      document.WellFormed m (.typeAlias a) ∧ a' = a.map (document.resolved m) := by
  simp only [Scope.resolveAlias, bind_eq_ok, exists_unit_iff, pure_eq_ok,
    checkIdentifier_eq_ok_iff, resolveType_eq_ok_iff]
  constructor
  · rintro ⟨name, _, ⟨types, rfl⟩, rfl⟩
    refine ⟨⟨name, ?_, distinctIdentifiers_nil, distinctIdentifiers_nil, ?_, ?_, ?_⟩, rfl⟩
    · exact fun _ record => absurd record List.not_mem_nil
    · exact fun _ generic => absurd generic List.not_mem_nil
    · exact fun _ target => List.mem_singleton.1 target ▸ types
    · rintro _ ⟨⟩
  · rintro ⟨formed, rfl⟩
    exact ⟨formed.name, _, ⟨formed.types _ List.mem_cons_self, rfl⟩, rfl⟩

/-- A constant resolves exactly if it is well formed. -/
theorem resolveConstant_eq_ok_iff {c : Constant ConstantExpr} {c' : Constant ConstantValue} :
    resolveConstant c = .ok c' ↔
      document.WellFormed m (.const c) ∧
        ∃ value, fold c.value.type c.value.literal = .ok value ∧ c' = ⟨c.name, value, c.comment⟩ := by
  simp only [resolveConstant, bind_eq_ok, exists_unit_iff, pure_eq_ok, checkIdentifier_eq_ok_iff]
  constructor
  · rintro ⟨name, value, folds, rfl⟩
    refine ⟨⟨name, ?_, distinctIdentifiers_nil, distinctIdentifiers_nil, ?_, ?_, ?_⟩,
      value, folds, rfl⟩
    · exact fun _ record => absurd record List.not_mem_nil
    · exact fun _ generic => absurd generic List.not_mem_nil
    · exact fun _ type => absurd type List.not_mem_nil
    · rintro _ ⟨⟩
      exact ⟨value, folds⟩
  · rintro ⟨formed, value, folds, rfl⟩
    exact ⟨formed.name, value, folds, rfl⟩

/-- A module is well formed exactly if its name is an identifier. -/
theorem wellFormed_module_iff {name : String} {comment : Option String}
    {inner : List DeclarationExpr} :
    document.WellFormed m (.module name comment inner) ↔ isIdentifier name := by
  refine ⟨fun formed => formed.name, fun identifier => ?_⟩
  refine ⟨identifier, ?_, distinctIdentifiers_nil, distinctIdentifiers_nil, ?_, ?_, ?_⟩
  · exact fun _ record => absurd record List.not_mem_nil
  · exact fun _ generic => absurd generic List.not_mem_nil
  · exact fun _ type => absurd type List.not_mem_nil
  · rintro _ ⟨⟩

end

end SchemaBindings
