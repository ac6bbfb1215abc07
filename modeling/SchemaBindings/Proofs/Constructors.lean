import Mathlib.Data.Option.Basic
import SchemaBindings.Generation.Run
import SchemaBindings.Proofs.FieldNames
import SchemaBindings.Proofs.TypeUses

/-!
# Constructors

What the text of a record says about its construction (`RecordText`), and what a call of its constructor makes of some
arguments (`RecordText.construct`).

1. The constructor declares its type parameters and its parameters. Go has one scope for both, and Rust has one for types
   and one for values. A scope takes no keyword, and no name twice.
2. Its body makes a value of the record, which a name of the scope can hide.
3. Each member gets the value of the parameter from which it is initialized.

Values are passed on as they are; what the texts of their types stand for is not looked at.

The names in the text are the spellings of the fields in a target, and the generics as they are declared. If the fields
differ in every namespace of the target, the text is faithful to them (`TargetName.recordText_faithful`), and a call
returns its arguments exactly if no generic stands in the way (`RecordText.construct_eq_some_iff`).
-/

namespace SchemaBindings

/-! ## Scopes -/

/-- What a name stands for inside of a constructor. -/
inductive Meaning (α : Type) where
  | typeParameter
  | argument (value : α)

abbrev LocalScope (α : Type) :=
  List (String × Meaning α)

namespace LocalScope

variable {α : Type}

def names (scope : LocalScope α) : List String :=
  scope.map (·.1)

/-- The names can be declared together: they differ, and none of them is a keyword. -/
def Declarable (keywords : List String) (scope : LocalScope α) : Prop :=
  scope.names.Nodup ∧ ∀ name ∈ scope.names, name ∉ keywords

instance (keywords : List String) (scope : LocalScope α) : Decidable (scope.Declarable keywords) :=
  inferInstanceAs (Decidable (_ ∧ _))

def isTypeParameter (scope : LocalScope α) (name : String) : Bool :=
  match scope.lookup name with
  | some .typeParameter => true
  | _ => false

def value? (scope : LocalScope α) (name : String) : Option α :=
  match scope.lookup name with
  | some (.argument value) => some value
  | _ => none

variable {scope : LocalScope α} {name : String}

theorem isTypeParameter_of_mem (distinct : scope.names.Nodup) (member : (name, .typeParameter) ∈ scope) :
    scope.isTypeParameter name = true := by
  rw [isTypeParameter, (lookup_eq_some_iff distinct).2 member]

theorem value?_of_mem (distinct : scope.names.Nodup) {value : α} (member : (name, .argument value) ∈ scope) :
    scope.value? name = some value := by
  rw [value?, (lookup_eq_some_iff distinct).2 member]

end LocalScope

def TargetName.keywords : TargetName → List String
  | go => Go.keywords
  | rust => Rust.keywords ++ Rust.reservedWords

/-- What the type parameters of a function are constrained by, which has to be visible behind them. -/
def TargetName.constraints : TargetName → List String
  | go => ["any"]
  | rust => []

/-! ## Calls -/

/-- The type with the generics that it binds and the names of its members. Its constructor has type parameters and
parameters, makes a value of a type, and initializes each member from a parameter. -/
structure RecordText where
  type : TypeUse
  members : List String
  binders : List String
  parameters : List String
  result : TypeUse
  initializers : List (String × String)
deriving DecidableEq

namespace RecordText

section

variable {α : Type} (target : TargetName) (text : RecordText)

/-- The scopes in the body of the constructor in which types and values are looked up. In Go they are one. -/
def scopes (arguments : List α) : LocalScope α × LocalScope α :=
  let types := text.binders.map (·, .typeParameter)
  let values := text.parameters.zip (arguments.map .argument)
  match target with
  | .go => (types ++ values, types ++ values)
  | .rust => (types, values)

/-- The result is the record, with type parameters of the constructor as arguments. -/
def NamesRecord (types : LocalScope α) : Prop :=
  text.result.name = text.type.name ∧ text.result.name ∉ target.keywords ∧ text.result.name ∉ types.names ∧
    text.result.arguments.length = text.type.arguments.length ∧
    ∀ a ∈ text.result.arguments, types.isTypeParameter a = true

instance (types : LocalScope α) : Decidable (text.NamesRecord target types) :=
  inferInstanceAs (Decidable (_ ∧ _ ∧ _ ∧ _ ∧ _))

/-- The values of the members that a call of the constructor returns, in declared order. -/
def construct (arguments : List α) : Option (List α) := do
  let (types, values) := text.scopes target arguments
  guard (arguments.length = text.parameters.length)
  guard (types.Declarable target.keywords ∧ values.Declarable target.keywords)
  guard (∀ c ∈ target.constraints, c ∉ text.binders)
  guard (text.NamesRecord target types)
  text.members.mapM fun member => do
    let parameter ← text.initializers.lookup member
    values.value? parameter

end

/-- The text declares a type with a constructor that binds the same generics and makes a value of it. The constructor
takes a value for each of so many fields, under names of their own that are no keywords, and initializes the member of
each field from the parameter at its place. -/
structure Faithful (text : RecordText) (keywords : List String) (type : TypeUse) (arity : Nat) : Prop where
  type_eq : text.type = type
  binders_eq : text.binders = type.arguments
  result_eq : text.result = type
  members_length : text.members.length = arity
  members_nodup : text.members.Nodup
  parameters_length : text.parameters.length = arity
  parameters_nodup : text.parameters.Nodup
  plain : ∀ name ∈ text.parameters, name ∉ keywords
  initializers_eq : text.initializers = text.members.zip text.parameters

/-- The names that the constructor declares do not stand in the way of each other, of the record, or of their own
constraint. -/
structure Callable (target : TargetName) (text : RecordText) : Prop where
  name : text.type.name ∉ target.keywords
  binders : ∀ g ∈ text.binders, g ∉ target.keywords ∧ g ∉ target.constraints ∧ g ≠ text.type.name
  parameters : target = .go → ∀ name ∈ text.parameters, name ∉ text.binders ∧ name ≠ text.type.name

theorem mapM_eq_some_of_getElem {α β : Type} {f : α → Option β} {xs : List α} {ys : List β}
    (lengths : xs.length = ys.length)
    (each : ∀ i (x : i < xs.length) (y : i < ys.length), f xs[i] = some ys[i]) : xs.mapM f = some ys := by
  induction xs generalizing ys with
  | nil =>
    obtain rfl := List.eq_nil_of_length_eq_zero lengths.symm
    rfl
  | cons x xs ih =>
    cases ys with
    | nil => exact absurd lengths (by simp)
    | cons y ys =>
      have first : f x = some y := each 0 (Nat.zero_lt_succ _) (Nat.zero_lt_succ _)
      have others := ih (Nat.succ.inj lengths) fun i x y => each (i + 1) (Nat.succ_lt_succ x) (Nat.succ_lt_succ y)
      rw [List.mapM_cons, first, others]
      rfl

theorem mem_zip_getElem {α β : Type} {xs : List α} {ys : List β} {i : Nat} (x : i < xs.length) (y : i < ys.length) :
    (xs[i], ys[i]) ∈ xs.zip ys := by
  have within : i < (xs.zip ys).length := by
    rw [List.length_zip]
    exact Nat.lt_min.2 ⟨x, y⟩
  have pair : (xs.zip ys)[i] = (xs[i], ys[i]) := List.getElem_zip
  exact pair ▸ List.getElem_mem within

section

variable {α : Type} {target : TargetName} {text : RecordText} {type : TypeUse} {arity : Nat}
  {arguments values : List α}

theorem typeParameters_names (names : List String) :
    LocalScope.names (names.map (·, @Meaning.typeParameter α)) = names := by
  rw [LocalScope.names, List.map_map]
  exact List.map_id _

theorem arguments_names {names : List String} (lengths : arguments.length = names.length) :
    LocalScope.names (names.zip (arguments.map .argument)) = names := by
  refine List.map_fst_zip ?_
  rw [List.length_map, lengths]

/-- The type parameters are looked up among those of the function, in Go also among its parameters. -/
theorem names_scopes_fst (lengths : arguments.length = text.parameters.length) :
    (text.scopes target arguments).1.names = text.binders ++ if target = .go then text.parameters else [] := by
  cases target with
  | go =>
    show LocalScope.names (_ ++ _) = _
    rw [LocalScope.names, List.map_append]
    exact congrArg₂ _ (typeParameters_names _) (arguments_names lengths)
  | rust => exact (typeParameters_names _).trans (List.append_nil _).symm

theorem names_scopes_snd (lengths : arguments.length = text.parameters.length) :
    (text.scopes target arguments).2.names = (if target = .go then text.binders else []) ++ text.parameters := by
  cases target with
  | go =>
    show LocalScope.names (_ ++ _) = _
    rw [LocalScope.names, List.map_append]
    exact congrArg₂ _ (typeParameters_names _) (arguments_names lengths)
  | rust => exact arguments_names lengths

theorem typeParameter_mem_scopes {g : String} (binder : g ∈ text.binders) :
    (g, .typeParameter) ∈ (text.scopes target arguments).1 := by
  have member := List.mem_map_of_mem (f := (·, @Meaning.typeParameter α)) binder
  cases target with
  | go => exact List.mem_append_left _ member
  | rust => exact member

theorem argument_mem_scopes {pair : String × Meaning α}
    (passed : pair ∈ text.parameters.zip (arguments.map .argument)) : pair ∈ (text.scopes target arguments).2 := by
  cases target with
  | go => exact List.mem_append_right _ passed
  | rust => exact passed

/-- The scopes can be declared exactly if no type parameter is a keyword, or a parameter of the same scope. -/
theorem declarable_scopes_iff (faithful : text.Faithful target.keywords type arity) (generics : type.arguments.Nodup)
    (lengths : arguments.length = text.parameters.length) :
    ((text.scopes target arguments).1.Declarable target.keywords ∧
      (text.scopes target arguments).2.Declarable target.keywords) ↔
        (∀ g ∈ text.binders, g ∉ target.keywords) ∧ (target = .go → text.binders.Disjoint text.parameters) := by
  have binders : text.binders.Nodup := by rwa [faithful.binders_eq]
  rw [LocalScope.Declarable, LocalScope.Declarable, names_scopes_fst lengths, names_scopes_snd lengths]
  cases target with
  | go =>
    rw [if_pos rfl, if_pos rfl, and_self, List.nodup_append', List.forall_mem_append]
    exact ⟨fun ⟨⟨_, _, apart⟩, plain, _⟩ => ⟨plain, fun _ => apart⟩,
      fun ⟨plain, apart⟩ => ⟨⟨binders, faithful.parameters_nodup, apart rfl⟩, plain, faithful.plain⟩⟩
  | rust =>
    rw [if_neg nofun, if_neg nofun, List.append_nil, List.nil_append]
    exact ⟨fun ⟨⟨_, plain⟩, _⟩ => ⟨plain, nofun⟩,
      fun ⟨plain, _⟩ => ⟨⟨binders, plain⟩, faithful.parameters_nodup, faithful.plain⟩⟩

/-- The result is the record exactly if that is called like no keyword and like no other name of the scope. -/
theorem namesRecord_iff (faithful : text.Faithful target.keywords type arity)
    (distinct : (text.scopes target arguments).1.names.Nodup)
    (lengths : arguments.length = text.parameters.length) :
    text.NamesRecord target (text.scopes target arguments).1 ↔
      text.type.name ∉ target.keywords ∧ text.type.name ∉ text.binders ∧
        (target = .go → text.type.name ∉ text.parameters) := by
  have result : text.result = text.type := faithful.result_eq.trans faithful.type_eq.symm
  have binders : text.binders = text.type.arguments := by rw [faithful.binders_eq, faithful.type_eq]
  have bound : ∀ a ∈ text.type.arguments, (text.scopes target arguments).1.isTypeParameter a = true := fun a argument =>
    LocalScope.isTypeParameter_of_mem distinct (typeParameter_mem_scopes (binders ▸ argument))
  have visible : text.type.name ∉ (if target = .go then text.parameters else []) ↔
      (target = .go → text.type.name ∉ text.parameters) := by
    split
    · next go => simp [go]
    · next other => simp [other]
  rw [NamesRecord, result, names_scopes_fst lengths, List.mem_append, not_or, visible]
  exact ⟨fun ⟨_, plain, shown, _⟩ => ⟨plain, shown⟩, fun ⟨plain, shown⟩ => ⟨rfl, plain, shown, rfl, bound⟩⟩

/-- In the scopes of a constructor each member is initialized by the argument at its place. -/
theorem mapM_members (faithful : text.Faithful target.keywords type arity)
    (distinct : (text.scopes target arguments).2.names.Nodup) (lengths : arguments.length = text.parameters.length) :
    (text.members.mapM fun member => do
      let parameter ← text.initializers.lookup member
      (text.scopes target arguments).2.value? parameter) = some arguments := by
  have together : text.members.length = text.parameters.length :=
    faithful.members_length.trans faithful.parameters_length.symm
  have keys : (text.initializers.map (·.1)).Nodup := by
    rw [faithful.initializers_eq, List.map_fst_zip (Nat.le_of_eq together)]
    exact faithful.members_nodup
  refine mapM_eq_some_of_getElem (together.trans lengths.symm) fun i member argument => ?_
  have parameter : i < text.parameters.length := together ▸ member
  have assigned : text.initializers.lookup text.members[i] = some text.parameters[i] := by
    refine (lookup_eq_some_iff keys).2 ?_
    rw [faithful.initializers_eq]
    exact mem_zip_getElem member parameter
  have place : i < (arguments.map Meaning.argument).length := by rwa [List.length_map]
  have passed : _ ∈ (text.scopes target arguments).2 := argument_mem_scopes (mem_zip_getElem parameter place)
  rw [List.getElem_map] at passed
  rw [assigned]
  exact LocalScope.value?_of_mem distinct passed

/-- A call returns its arguments if no name stands in the way, and nothing else in any case. -/
theorem construct_eq_some_iff (faithful : text.Faithful target.keywords type arity) (generics : type.arguments.Nodup)
    (lengths : arguments.length = arity) :
    text.construct target arguments = some values ↔ text.Callable target ∧ values = arguments := by
  have lengths' : arguments.length = text.parameters.length := lengths.trans faithful.parameters_length.symm
  have declarable := declarable_scopes_iff faithful generics lengths'
  simp only [construct, Option.bind_eq_bind, Option.bind_eq_some_iff, Option.guard_eq_some', exists_const]
  constructor
  · rintro ⟨-, declared, unhidden, names, members⟩
    obtain ⟨plain, apart⟩ := declarable.1 declared
    obtain ⟨name, shown, unlike⟩ := (namesRecord_iff faithful declared.1.1 lengths').1 names
    refine ⟨⟨name, fun g binder => ⟨plain g binder, fun constraint => unhidden g constraint binder, ?_⟩,
      fun go p parameter => ⟨fun binder => apart go binder parameter, ?_⟩⟩, ?_⟩
    · rintro rfl
      exact shown binder
    · rintro rfl
      exact unlike go parameter
    · exact (Option.some.inj ((mapM_members faithful declared.2.1 lengths').symm.trans members)).symm
  · rintro ⟨callable, rfl⟩
    have declared := declarable.2
      ⟨fun g binder => (callable.binders g binder).1, fun go g binder parameter =>
        (callable.parameters go g parameter).1 binder⟩
    refine ⟨lengths', declared, fun c constraint binder => (callable.binders c binder).2.1 constraint, ?_,
      mapM_members faithful declared.2.1 lengths'⟩
    exact (namesRecord_iff faithful declared.1.1 lengths').2 ⟨callable.name,
      fun binder => (callable.binders _ binder).2.2 rfl, fun go parameter => (callable.parameters go _ parameter).2 rfl⟩

end

end RecordText

/-! ## Spellings of fields -/

def TargetName.memberName : TargetName → String → String
  | go => Go.memberName
  | rust => Rust.fieldName

def TargetName.parameterName : TargetName → String → String
  | go => Go.parameterName
  | rust => Rust.fieldName

def TargetName.recordText (target : TargetName) (type : TypeUse) (fields : List (Field TypeRef)) : RecordText where
  type := type
  members := fields.map fun f => target.memberName f.name
  binders := type.arguments
  parameters := fields.map fun f => target.parameterName f.name
  result := type
  initializers := fields.map fun f => (target.memberName f.name, target.parameterName f.name)

theorem Go.escape_not_mem_keywords (name : String) : escape name ∉ keywords := by
  have ends : ∀ word ∈ keywords, word.toList.getLast? ≠ some '_' := by decide
  unfold escape
  split
  · intro keyword
    refine ends _ keyword ?_
    rw [String.toList_append]
    exact List.getLast?_concat
  · next plain => exact plain

theorem Rust.escape_not_mem_keywords (name : String) : escape name ∉ keywords ++ reservedWords := by
  have ends : ∀ word ∈ keywords ++ reservedWords, word.toList.getLast? ≠ some '_' := by decide
  have plain : ∀ word ∈ keywords ++ reservedWords, '#' ∉ word.toList := by decide
  unfold escape
  split
  · intro keyword
    refine ends _ keyword ?_
    rw [String.toList_append]
    exact List.getLast?_concat
  split
  · intro keyword
    refine plain _ keyword ?_
    rw [String.toList_append]
    exact List.mem_append_left _ (by decide)
  · next unreserved unlike => simp [unreserved, unlike]

section

variable (target : TargetName) {fields : List (Field TypeRef)}

theorem TargetName.parameterName_not_mem_keywords (name : String) : target.parameterName name ∉ target.keywords := by
  cases target with
  | go => exact Go.escape_not_mem_keywords _
  | rust => exact Rust.escape_not_mem_keywords _

theorem TargetName.memberNames_nodup (differ : fields.Pairwise (FieldsDiffer target.target.conventions)) :
    (fields.map fun f => target.memberName f.name).Nodup := by
  refine List.pairwise_map.2 (differ.imp fun {f g} apart same => ?_)
  cases target with
  | go => exact apart 0 _ rfl (congrArg some same.symm)
  | rust => exact apart 0 _ rfl (congrArg some same.symm)

theorem TargetName.parameterNames_nodup (differ : fields.Pairwise (FieldsDiffer target.target.conventions)) :
    (fields.map fun f => target.parameterName f.name).Nodup := by
  refine List.pairwise_map.2 (differ.imp fun {f g} apart same => ?_)
  cases target with
  | go => exact apart 1 _ rfl (congrArg some same.symm)
  | rust => exact apart 0 _ rfl (congrArg some same.symm)

/-- The text of a record whose fields differ is faithful to them. -/
theorem TargetName.recordText_faithful (type : TypeUse)
    (differ : fields.Pairwise (FieldsDiffer target.target.conventions)) :
    (target.recordText type fields).Faithful target.keywords type fields.length where
  type_eq := rfl
  binders_eq := rfl
  result_eq := rfl
  members_length := List.length_map _
  members_nodup := target.memberNames_nodup differ
  parameters_length := List.length_map _
  parameters_nodup := target.parameterNames_nodup differ
  plain := List.forall_mem_map.2 fun f _ => target.parameterName_not_mem_keywords f.name
  initializers_eq := List.zip_map'.symm

end

end SchemaBindings
