import SchemaBindings.Proofs.DeclarationTree
import SchemaBindings.Resolution.Resolved

/-!
# Edits of comments

A change of the comments of a schema (`CommentEdit`): of modules by their paths, and of everything else by its text.
Resolution passes comments on and never looks at them, so it commutes with each edit (`CommentEdit.resolve_document`).
-/

namespace SchemaBindings

/-- A change of the comments of modules, and one of the comments of declarations, variants and fields. -/
structure CommentEdit where
  module : ModulePath → Option String → Option String
  own : Option String → Option String

namespace CommentEdit

def erase : CommentEdit :=
  ⟨fun _ _ => none, fun _ => none⟩

variable {τ κ : Type} (e : CommentEdit)

def field (f : Field τ) : Field τ :=
  { f with comment := e.own f.comment }

def variant (v : Variant τ) : Variant τ :=
  { v with fields := v.fields.map e.field, comment := e.own v.comment }

def struct (s : Struct τ) : Struct τ :=
  { s with fields := s.fields.map e.field, comment := e.own s.comment }

def union (u : Union τ) : Union τ :=
  { u with variants := u.variants.map e.variant, comment := e.own u.comment }

def typeAlias (a : Alias τ) : Alias τ :=
  { a with comment := e.own a.comment }

def constant (c : Constant κ) : Constant κ :=
  { c with comment := e.own c.comment }

mutual

/-- The declaration of the module `m` with its comments changed. -/
def declaration (m : ModulePath) : Declaration τ κ → Declaration τ κ
  | .struct s => .struct (e.struct s)
  | .union u => .union (e.union u)
  | .typeAlias a => .typeAlias (e.typeAlias a)
  | .const c => .const (e.constant c)
  | .module name comment inner => .module name (e.module (m ++ [name]) comment) (declarations (m ++ [name]) inner)

/-- The declarations of the module `m` with their comments changed. -/
def declarations (m : ModulePath) : List (Declaration τ κ) → List (Declaration τ κ)
  | [] => []
  | d :: ds => declaration m d :: declarations m ds

end

def item (i : Item τ κ) : Item τ κ :=
  ⟨i.module, e.declaration i.module i.declaration⟩

def document (d : Document) : Document :=
  ⟨e.declarations [] d.declarations⟩

/-- What has been resolved with its comments changed; `m` is the module of the declarations. -/
def resolved (m : ModulePath) (r : Resolved) : Resolved :=
  ⟨e.declarations m r.declarations, r.failures⟩

/-! ## What an edit keeps -/

theorem declarations_eq_map (m : ModulePath) (ds : List (Declaration τ κ)) :
    e.declarations m ds = ds.map (e.declaration m) := by
  induction ds with
  | nil => rfl
  | cons d ds ih => rw [declarations, ih, List.map_cons]

@[simp] theorem name_declaration (m : ModulePath) (d : Declaration τ κ) : (e.declaration m d).name = d.name := by
  cases d <;> rfl

@[simp] theorem path_item (i : Item τ κ) : (e.item i).path = i.path := by
  rw [Item.path, Item.path, item, name_declaration]

theorem types_fields (fields : List (Field τ)) : (fields.map e.field).map (·.type) = fields.map (·.type) := by
  rw [List.map_map]
  rfl

@[simp] theorem types_declaration (m : ModulePath) (d : Declaration τ κ) :
    (e.declaration m d).types = d.types := by
  cases d with
  | struct s => exact e.types_fields s.fields
  | union u =>
    show (u.variants.map e.variant).flatMap _ = _
    rw [List.flatMap_map]
    exact List.flatMap_congr fun v _ => e.types_fields v.fields
  | typeAlias a | const c | module _ _ _ => rfl

theorem items_declarations (m : ModulePath) (ds : List (Declaration τ κ)) :
    Declaration.items m (e.declarations m ds) = (Declaration.items m ds).map e.item := by
  induction ds using Declaration.module_induction generalizing m with
  | step ds ih =>
    rw [declarations_eq_map, Declaration.items_eq_flatMap, Declaration.items_eq_flatMap, List.flatMap_map,
      List.map_flatMap]
    refine List.flatMap_congr fun d among => ?_
    cases d with
    | module name comment inner => exact ih name comment inner among (m ++ [name])
    | struct s | union u | typeAlias a | const c => rfl

/-- The modules are the same, with the comments that the edit makes of theirs. -/
theorem modules_declarations (m : ModulePath) (ds : List (Declaration τ κ)) :
    Declaration.modules m (e.declarations m ds) =
      (Declaration.modules m ds).map fun x => (x.1, e.module x.1 x.2) := by
  induction ds using Declaration.module_induction generalizing m with
  | step ds ih =>
    rw [declarations_eq_map, Declaration.modules_eq_flatMap, Declaration.modules_eq_flatMap, List.flatMap_map,
      List.map_flatMap]
    refine List.flatMap_congr fun d among => ?_
    cases d with
    | module name comment inner => exact congrArg (_ :: ·) (ih name comment inner among (m ++ [name]))
    | struct s | union u | typeAlias a | const c => rfl

/-! ## Symbols -/

mutual

theorem symbolsIn_declaration (m : ModulePath) :
    ∀ d : DeclarationExpr, symbolsIn m (e.declaration m d) = symbolsIn m d
  | .struct _ | .union _ | .typeAlias _ | .const _ => rfl
  | .module name _ inner => symbols_declarations (m ++ [name]) [] inner

theorem symbols_declarations (m : ModulePath) (seen : List String) :
    ∀ ds : List DeclarationExpr, symbols m seen (e.declarations m ds) = symbols m seen ds
  | [] => rfl
  | d :: ds => by
    rw [declarations, symbols, symbols, name_declaration, symbolsIn_declaration m d, symbols_declarations m seen ds,
      symbols_declarations m (d.name :: seen) ds]

end

@[simp] theorem symbols_document (d : Document) : (e.document d).symbols = d.symbols :=
  e.symbols_declarations [] [] d.declarations

/-! ## Resolution -/

theorem checkFields_fields (seen : List String) (fields : List (Field TypeRef)) :
    checkFields seen (fields.map e.field) = checkFields seen fields := by
  induction fields generalizing seen with
  | nil => rfl
  | cons f fields ih =>
    rw [List.map_cons, checkFields, checkFields, ih]
    rfl

theorem parametersOf_fields (fields : List (Field TypeRef)) :
    parametersOf (fields.map e.field) = parametersOf fields := by
  rw [parametersOf, List.flatMap_map]
  rfl

theorem check_struct (s : Struct TypeRef) : (e.struct s).check = s.check := by
  rw [Struct.check, Struct.check, struct, checkFields_fields, checkGenerics, checkGenerics, parametersOf_fields]

theorem check_variant (v : Variant TypeRef) : (e.variant v).check = v.check := by
  rw [Variant.check, Variant.check, variant, checkFields_fields]

theorem checkVariantNames_variants (seen : List String) (variants : List (Variant TypeRef)) :
    checkVariantNames seen (variants.map e.variant) = checkVariantNames seen variants := by
  induction variants generalizing seen with
  | nil => rfl
  | cons v variants ih =>
    rw [List.map_cons, checkVariantNames, checkVariantNames, ih]
    rfl

theorem check_union (u : Union TypeRef) : (e.union u).check = u.check := by
  have fields : (u.variants.map e.variant).flatMap (·.fields) = (u.variants.flatMap (·.fields)).map e.field := by
    rw [List.flatMap_map, List.map_flatMap]
    rfl
  rw [Union.check, Union.check, union, checkVariantNames_variants, checkGenerics, checkGenerics, fields,
    parametersOf_fields]

/-- Steps that each commute with a change commute with it one after the other. -/
theorem mapM_map {ε α β : Type} {f : α → Except ε β} {change : α → α} {change' : β → β}
    (step : ∀ a, f (change a) = change' <$> f a) (as : List α) :
    (as.map change).mapM f = List.map change' <$> as.mapM f := by
  induction as with
  | nil => rfl
  | cons a as ih =>
    rw [List.map_cons, List.mapM_cons, List.mapM_cons, step, ih]
    cases f a with
    | error fault => rfl
    | ok b => cases as.mapM f <;> rfl

/-- What is built from a part and then checked commutes with a change that the check does not see. -/
theorem build_map {ε α β : Type} {check : β → Except ε Unit} {change : α → α} {change' : β → β}
    (checked : ∀ b, check (change' b) = check b) (build : α → β) {build' : α → β}
    (built : ∀ a, build' (change a) = change' (build a)) (part : Except ε α) :
    (do let a ← change <$> part; check (build' a); return build' a) =
      change' <$> (do let a ← part; check (build a); return build a) := by
  cases part with
  | error fault => rfl
  | ok a =>
    show (do check (build' (change a)); return build' (change a)) = change' <$> (do check (build a); return build a)
    rw [built, checked]
    cases check (build a) <;> rfl

variable (scope : Scope)

theorem resolveField_field (f : Field TypeExpr) :
    scope.resolveField (e.field f) = e.field <$> scope.resolveField f := by
  rw [Scope.resolveField, Scope.resolveField, field]
  cases scope.resolveType f.type <;> rfl

theorem resolveStruct_struct (s : Struct TypeExpr) :
    scope.resolveStruct (e.struct s) = e.struct <$> scope.resolveStruct s := by
  unfold Scope.resolveStruct
  rw [struct, mapM_map (e.resolveField_field scope)]
  exact build_map e.check_struct (fun fields => ⟨s.name, s.generics, fields, s.comment⟩) (fun _ => rfl) _

theorem resolveVariant_variant (v : Variant TypeExpr) :
    scope.resolveVariant (e.variant v) = e.variant <$> scope.resolveVariant v := by
  unfold Scope.resolveVariant
  rw [variant, mapM_map (e.resolveField_field scope)]
  exact build_map e.check_variant (fun fields => ⟨v.name, fields, v.comment⟩) (fun _ => rfl) _

theorem resolveUnion_union (u : Union TypeExpr) :
    scope.resolveUnion (e.union u) = e.union <$> scope.resolveUnion u := by
  unfold Scope.resolveUnion
  rw [union, mapM_map (e.resolveVariant_variant scope)]
  exact build_map e.check_union (fun variants => ⟨u.name, u.generics, variants, u.comment⟩) (fun _ => rfl) _

theorem resolveAlias_typeAlias (a : Alias TypeExpr) :
    scope.resolveAlias (e.typeAlias a) = e.typeAlias <$> scope.resolveAlias a := by
  rw [Scope.resolveAlias, Scope.resolveAlias, typeAlias]
  cases checkIdentifier a.name with
  | error fault => rfl
  | ok _ => cases scope.resolveType a.target <;> rfl

theorem resolveConstant_constant (c : Constant ConstantExpr) :
    resolveConstant (e.constant c) = e.constant <$> resolveConstant c := by
  rw [resolveConstant, resolveConstant, constant]
  cases checkIdentifier c.name with
  | error fault => rfl
  | ok _ => cases fold c.value.type c.value.literal <;> rfl

/-- The result of a declaration whose comments are changed. -/
theorem ofExcept_map {m : ModulePath} {α : Type} (wrap : α → SchemaDeclaration) {change : α → α}
    (wrapped : ∀ a, wrap (change a) = e.declaration m (wrap a)) (path : SchemaPath) (result : Except Fault α) :
    Resolved.ofExcept path (wrap <$> (change <$> result)) = e.resolved m (.ofExcept path (wrap <$> result)) := by
  cases result with
  | error fault => rfl
  | ok a => exact congrArg (fun d => Resolved.mk [d] []) (wrapped a)

theorem resolved_append (m : ModulePath) (r s : Resolved) :
    e.resolved m (r.append s) = (e.resolved m r).append (e.resolved m s) := by
  simp only [resolved, Resolved.append, declarations_eq_map, List.map_append]

mutual

theorem resolveIn_declaration (table : List Symbol) (m : ModulePath) :
    ∀ d : DeclarationExpr, resolveIn table m (e.declaration m d) = e.resolved m (resolveIn table m d)
  | .struct s => by
    rw [declaration, resolveIn, resolveIn, ← e.ofExcept_map .struct fun _ => rfl, ← resolveStruct_struct]
    rfl
  | .union u => by
    rw [declaration, resolveIn, resolveIn, ← e.ofExcept_map .union fun _ => rfl, ← resolveUnion_union]
    rfl
  | .typeAlias a => by
    rw [declaration, resolveIn, resolveIn, ← e.ofExcept_map .typeAlias fun _ => rfl, ← resolveAlias_typeAlias]
    rfl
  | .const c => by
    rw [declaration, resolveIn, resolveIn, ← e.ofExcept_map .const fun _ => rfl, ← resolveConstant_constant]
    rfl
  | .module name comment inner => by
    rw [declaration, resolveIn, resolveIn]
    cases checkIdentifier name with
    | error fault => rfl
    | ok _ =>
      show Resolved.mk _ _ = _
      rw [resolveAll_declarations table (m ++ [name]) [] inner]
      rfl

theorem resolveAll_declarations (table : List Symbol) (m : ModulePath) (seen : List String) :
    ∀ ds : List DeclarationExpr,
      resolveAll table m seen (e.declarations m ds) = e.resolved m (resolveAll table m seen ds)
  | [] => rfl
  | d :: ds => by
    rw [declarations, resolveAll, resolveAll, name_declaration]
    split
    · rw [resolveAll_declarations table m seen ds, resolved_append]
      rfl
    · rw [resolveIn_declaration table m d, resolveAll_declarations table m (d.name :: seen) ds, resolved_append]

end

/-- Resolution passes the comments on: it commutes with an edit. -/
theorem resolve_document (d : Document) : (e.document d).resolve = e.resolved [] d.resolve := by
  rw [Document.resolve, symbols_document]
  exact e.resolveAll_declarations d.symbols [] [] d.declarations

end CommentEdit

end SchemaBindings
