import SchemaBindings.Proofs.ReferredNames
import SchemaBindings.Proofs.RelativePaths

/-!
# Heads of Rust types

How the text of a type is read (`denoted`), and what stands before its arguments (`Head`). A type without parameters is
read as itself, apart from what is written like a built-in type:

* `bytes` is written like a list of `u8`;
* a type that is called `String`, `Vec` or `Option` is written like the built-in type of that name, in its own module
  and with as many arguments.

A type of another module has a path with at least two segments, none of them empty, so it is never written like a
built-in type (`builtIn_of_segments`). Where the declared types can be told by their places (`Places`), the head and the
parts of a type tell which type it is (`head_eq`, `eq_of_head`).
-/

namespace SchemaBindings.Rust

/-! ## Readings -/

/-- The built-in type whose name a type of the module `m` has. -/
def builtIn? (m : ModulePath) (p : SchemaPath) (arguments : List TypeRef) : Option TypeRef :=
  if p.module = m then
    match arguments with
    | [] => if Text.upperCamel p.name = "String" then some (.scalar .string) else none
    | [item] =>
      if Text.upperCamel p.name = "Vec" then some (.list item)
      else if Text.upperCamel p.name = "Option" then some (.option item)
      else none
    | _ => none
  else none

mutual

/-- The type as which the text of a type is read in the module `m`. -/
def denoted (m : ModulePath) : TypeRef → TypeRef
  | .scalar s => if s = .bytes then .list (.scalar .u8) else .scalar s
  | .tuple elements => .tuple (denotedAll m elements)
  | .list item => .list (denoted m item)
  | .array item length => .array (denoted m item) length
  | .option item => .option (denoted m item)
  | .map key value => .map (denoted m key) (denoted m value)
  | .hashSet item => .hashSet (denoted m item)
  | .named p arguments =>
    (builtIn? m p (denotedAll m arguments)).getD (.named p (denotedAll m arguments))
  | .param g => .param g

def denotedAll (m : ModulePath) : List TypeRef → List TypeRef
  | [] => []
  | t :: ts => denoted m t :: denotedAll m ts

end

theorem denotedAll_eq_map (m : ModulePath) (ts : List TypeRef) : denotedAll m ts = ts.map (denoted m) := by
  induction ts with
  | nil => rfl
  | cons t ts ih => rw [denotedAll, ih, List.map_cons]

theorem typeTexts_eq_map (cx : RenderContext) (ts : List TypeRef) :
    typeTexts cx ts = ts.map (typeText cx) := by
  induction ts with
  | nil => rfl
  | cons t ts ih => rw [typeTexts, ih, List.map_cons]

/-! ## Heads -/

inductive BuiltIn where
  | scalar (s : Scalar)
  | list
  | option
  | map
  | hashSet
deriving DecidableEq

namespace BuiltIn

/-- The segments of the path to a built-in type; a path from the root of all begins with an empty one. -/
def segments : BuiltIn → List String
  | scalar s => [scalarText s]
  | list => ["Vec"]
  | option => ["Option"]
  | map => ["", "std", "collections", "BTreeMap"]
  | hashSet => ["", "std", "collections", "HashSet"]

def all : List BuiltIn :=
  Scalar.all.map scalar ++ [list, option, map, hashSet]

theorem mem_all (b : BuiltIn) : b ∈ all := by
  cases b with
  | scalar s => exact List.mem_append_left _ (List.mem_map_of_mem s.mem_all)
  | _ => exact List.mem_append_right _ (by decide)

theorem segments_injective {b b' : BuiltIn} (same : b.segments = b'.segments) : b = b' := by
  have finite : ∀ b ∈ all, ∀ b' ∈ all, b.segments = b'.segments → b = b' := by decide +kernel
  exact finite b b.mem_all b' b'.mem_all same

/-- Of the built-in types that are written without a path, these have a capital. -/
theorem of_capital {b : BuiltIn} (unlike : b ≠ .scalar .bytes) {name : String} (single : b.segments = [name])
    (capital : ∃ c rest, name.toList = c :: rest ∧ c.isUpper = true) :
    b = .scalar .string ∨ b = .list ∨ b = .option := by
  have finite : ∀ b ∈ all, b ≠ .scalar .bytes →
      (b.segments.headD "").toList.head?.any Char.isUpper = true →
        b = .scalar .string ∨ b = .list ∨ b = .option := by
    decide +kernel
  obtain ⟨c, rest, chars, upper⟩ := capital
  refine finite b b.mem_all unlike ?_
  rw [single, List.headD_cons, chars]
  exact upper

theorem segments_ne_tuple (b : BuiltIn) (arity : Nat) : b.segments ≠ [tupleName arity] := by
  have finite : ∀ b ∈ all, (b.segments.headD "").toList.head? ≠ some 'T' := by decide +kernel
  intro same
  refine finite b b.mem_all ?_
  rw [same, List.headD_cons, tupleName, String.toList_append]
  rfl

end BuiltIn

/-- What stands before the arguments of a type. -/
inductive Head where
  | builtIn (b : BuiltIn)
  | tuple (arity : Nat)
  | declared (p : SchemaPath)

/-- The segments of the path that stands before the arguments. -/
def Head.segments (cx : RenderContext) : Head → List String
  | builtIn b => b.segments
  | tuple arity => Rust.segments cx.module tuplesModule (tupleName arity)
  | declared p => Rust.segments cx.module p.module (cx.identifierOf p)

/-- What stands before the arguments; an array has none in front, and a parameter is no path to a type. -/
def head? : TypeRef → Option Head
  | .scalar s => some (.builtIn (.scalar s))
  | .tuple elements => some (.tuple elements.length)
  | .list _ => some (.builtIn .list)
  | .option _ => some (.builtIn .option)
  | .map _ _ => some (.builtIn .map)
  | .hashSet _ => some (.builtIn .hashSet)
  | .named p _ => some (.declared p)
  | .array _ _ | .param _ => none

theorem typeText_of_head (cx : RenderContext) {t : TypeRef} {h : Head} (head : head? t = some h) :
    typeText cx t = "::".intercalate (h.segments cx) ++ genericList (t.children.map (typeText cx)) := by
  rw [← typeTexts_eq_map]
  cases t with
  | array item length => exact absurd head (by simp [head?])
  | param g => exact absurd head (by simp [head?])
  | scalar s =>
    cases head
    show scalarText s = "::".intercalate [scalarText s] ++ ""
    rw [String.intercalate_singleton, String.append_empty]
  | tuple elements =>
    cases head
    show relativePath _ _ _ ++ _ = "::".intercalate (Rust.segments _ _ _) ++ _
    rw [relativePath_eq]
    rfl
  | named p arguments =>
    cases head
    show relativePath _ _ _ ++ _ = "::".intercalate (Rust.segments _ _ _) ++ _
    rw [relativePath_eq]
    rfl
  | list item =>
    cases head
    show "Vec<" ++ typeText cx item ++ ">" = "Vec" ++ ("<" ++ ", ".intercalate [typeText cx item] ++ ">")
    rw [String.intercalate_singleton, ← String.append_assoc, ← String.append_assoc]
    rfl
  | option item =>
    cases head
    show "Option<" ++ typeText cx item ++ ">" =
      "Option" ++ ("<" ++ ", ".intercalate [typeText cx item] ++ ">")
    rw [String.intercalate_singleton, ← String.append_assoc, ← String.append_assoc]
    rfl
  | hashSet item =>
    cases head
    show "::std::collections::HashSet<" ++ typeText cx item ++ ">" =
      "::std::collections::HashSet" ++ ("<" ++ ", ".intercalate [typeText cx item] ++ ">")
    rw [String.intercalate_singleton, ← String.append_assoc, ← String.append_assoc]
    rfl
  | map key value =>
    cases head
    show "::std::collections::BTreeMap<" ++ typeText cx key ++ ", " ++ typeText cx value ++ ">" =
      "::std::collections::BTreeMap" ++
        ("<" ++ ", ".intercalate [typeText cx key, typeText cx value] ++ ">")
    rw [String.intercalate_cons_cons, String.intercalate_singleton]
    simp only [← String.append_assoc]
    rfl

/-- The type with this head and these parts. -/
def Head.type? : Head → List TypeRef → Option TypeRef
  | builtIn (.scalar s), [] => some (.scalar s)
  | builtIn .list, [item] => some (.list item)
  | builtIn .option, [item] => some (.option item)
  | builtIn .map, [key, value] => some (.map key value)
  | builtIn .hashSet, [item] => some (.hashSet item)
  | tuple _, elements => some (.tuple elements)
  | declared p, arguments => some (.named p arguments)
  | builtIn _, _ => none

theorem type?_of_head {t : TypeRef} {h : Head} (head : head? t = some h) : h.type? t.children = some t := by
  cases t with
  | array item length => exact absurd head (by simp [head?])
  | param g => exact absurd head (by simp [head?])
  | _ =>
    cases head
    rfl

/-- The head and the parts tell the type. -/
theorem eq_of_head {t u : TypeRef} {h : Head} (head : head? t = some h) (head' : head? u = some h)
    (children : t.children = u.children) : t = u := by
  have type := type?_of_head head
  rw [children, type?_of_head head'] at type
  exact (Option.some.inj type).symm

/-! ## Legible types -/

/-- A type that is read as itself, apart from its parts; `declared` holds of the declared types that may occur. -/
def LegiblePart (m : ModulePath) (declared : SchemaPath → Prop) : TypeRef → Prop
  | .scalar s => s ≠ .bytes
  | .named p arguments => declared p ∧ builtIn? m p arguments = none
  | .param _ => False
  | .tuple _ | .list _ | .array _ _ | .option _ | .map _ _ | .hashSet _ => True

/-- A type that is read as itself, with every type inside it. -/
def Legible (m : ModulePath) (declared : SchemaPath → Prop) (t : TypeRef) : Prop :=
  ∀ u ∈ t.walk, LegiblePart m declared u

theorem legible_iff {m : ModulePath} {declared : SchemaPath → Prop} {t : TypeRef} :
    Legible m declared t ↔ LegiblePart m declared t ∧ ∀ u ∈ t.children, Legible m declared u := by
  constructor
  · intro whole
    refine ⟨whole t (SchemaType.mem_walk_iff.2 (.inl rfl)), fun u child v inside => ?_⟩
    exact whole v (SchemaType.mem_walk_iff.2 (.inr ⟨u, child, inside⟩))
  · rintro ⟨own, parts⟩ u inside
    rcases SchemaType.mem_walk_iff.1 inside with rfl | ⟨v, child, inside⟩
    · exact own
    · exact parts v child u inside

/-! ## Heads of legible types -/

/-- The declared types that may occur can be told by their names and the emitted paths of their modules. -/
structure Places (cx : RenderContext) (declared : SchemaPath → Prop) : Prop where
  modules : ∀ p, declared p → ∀ segment ∈ p.module, isIdentifier segment
  names : ∀ p, declared p → isIdentifier p.name ∧ cx.identifierOf p = Text.upperCamel p.name
  /-- The module of the tuple records is apart. -/
  apart : ∀ p, declared p → p.module.map moduleName ≠ tuplesModule.map moduleName
  distinct : ∀ p q, declared p → declared q → p.module.map moduleName = q.module.map moduleName →
    cx.identifierOf p = cx.identifierOf q → p = q

theorem tuplesModule_identifiers : ∀ segment ∈ tuplesModule, isIdentifier segment := by
  decide +kernel

theorem tupleName_ne_empty (arity : Nat) : tupleName arity ≠ "" := by
  simp [tupleName, String.append_eq_empty_iff]

section

variable {cx : RenderContext} {declared : SchemaPath → Prop}

theorem Places.name_isIdentifierChar (places : Places cx declared) {p : SchemaPath} (among : declared p) :
    ∀ c ∈ (cx.identifierOf p).toList, isIdentifierChar c = true := by
  obtain ⟨identifier, spelled⟩ := places.names p among
  rw [spelled]
  exact Text.upperCamel_isIdentifierChar identifier

theorem Places.name_ne_empty (places : Places cx declared) {p : SchemaPath} (among : declared p) :
    cx.identifierOf p ≠ "" := by
  obtain ⟨identifier, spelled⟩ := places.names p among
  obtain ⟨c, rest, chars, -⟩ := Text.upperCamel_head identifier
  intro empty
  rw [spelled] at empty
  rw [empty] at chars
  exact absurd chars (by simp)

/-- A path to a name leads to a built-in type only if it stays in the module. -/
theorem builtIn_of_segments {source destination : ModulePath} {name : String} {b : BuiltIn}
    (identifiers : ∀ segment ∈ destination, isIdentifier segment) (some : name ≠ "")
    (same : segments source destination name = b.segments) :
    source = destination ∧ b.segments = [name] := by
  have filled : "" ∉ b.segments := fun empty =>
    segments_ne_empty identifiers some "" (same ▸ empty) rfl
  obtain ⟨word, single⟩ : ∃ word, b.segments = [word] := by
    cases b with
    | map | hashSet => exact absurd List.mem_cons_self filled
    | _ => exact ⟨_, rfl⟩
  obtain ⟨rfl, rfl⟩ := eq_of_segments_singleton (same.trans single)
  exact ⟨rfl, single⟩

theorem builtIn_ne_bytes {t : TypeRef} {b : BuiltIn} (head : head? t = some (.builtIn b))
    (legible : LegiblePart cx.module declared t) : b ≠ .scalar .bytes := by
  rintro rfl
  cases t with
  | scalar s =>
    cases head
    exact legible rfl
  | _ => exact absurd head (by simp [head?])

/-- A built-in type and a declared one with the same parts are written differently. -/
theorem builtIn_ne_declared (places : Places cx declared) {t : TypeRef} {b : BuiltIn} {p : SchemaPath}
    (head : head? t = some (.builtIn b)) (legible : LegiblePart cx.module declared t)
    (legible' : LegiblePart cx.module declared (.named p t.children)) :
    b.segments ≠ segments cx.module p.module (cx.identifierOf p) := by
  intro same
  obtain ⟨among, plain⟩ := legible'
  obtain ⟨identifier, spelled⟩ := places.names p among
  obtain ⟨home, single⟩ :=
    builtIn_of_segments (places.modules p among) (places.name_ne_empty among) same.symm
  rw [spelled] at single
  unfold builtIn? at plain
  rw [if_pos home.symm] at plain
  -- The declared type has the name and the parts of the built-in one, so it is read as that.
  rcases BuiltIn.of_capital (builtIn_ne_bytes head legible) single (Text.upperCamel_head identifier)
    with rfl | rfl | rfl
  · have name : Text.upperCamel p.name = "String" := (List.singleton_inj.1 single).symm
    cases t <;> cases head
    simp [SchemaType.children, name] at plain
  · have name : Text.upperCamel p.name = "Vec" := (List.singleton_inj.1 single).symm
    cases t <;> cases head
    simp [SchemaType.children, name] at plain
  · have name : Text.upperCamel p.name = "Option" := (List.singleton_inj.1 single).symm
    cases t <;> cases head
    simp [SchemaType.children, name] at plain

/-- Legible types with the same parts have the same head if it is written the same. -/
theorem head_eq (places : Places cx declared) {t u : TypeRef} {h k : Head} (head : head? t = some h)
    (head' : head? u = some k) (legible : LegiblePart cx.module declared t)
    (legible' : LegiblePart cx.module declared u) (children : t.children = u.children)
    (same : h.segments cx = k.segments cx) : h = k := by
  have outside : ∀ {p}, declared p →
      segments cx.module tuplesModule (tupleName t.children.length) ≠
        segments cx.module p.module (cx.identifierOf p) := by
    intro p among same
    have modules := segments_injective tuplesModule_identifiers (places.modules p among) same
    exact places.apart p among modules.1.symm
  cases h with
  | builtIn b =>
    cases k with
    | builtIn b' => rw [BuiltIn.segments_injective same]
    | tuple arity =>
      have single := builtIn_of_segments tuplesModule_identifiers (tupleName_ne_empty _) same.symm
      exact absurd single.2 (b.segments_ne_tuple arity)
    | declared p =>
      cases u <;> cases head'
      rw [SchemaType.children] at children
      rw [← children] at legible'
      exact absurd same (builtIn_ne_declared places head legible legible')
  | tuple arity =>
    cases t <;> cases head
    cases k with
    | builtIn b' =>
      have single := builtIn_of_segments tuplesModule_identifiers (tupleName_ne_empty _) same
      exact absurd single.2 (b'.segments_ne_tuple _)
    | tuple arity' =>
      cases u <;> cases head'
      rw [SchemaType.children, SchemaType.children] at children
      rw [children]
    | declared p =>
      cases u <;> cases head'
      exact absurd same (outside legible'.1)
  | declared p =>
    cases t <;> cases head
    cases k with
    | builtIn b' =>
      rw [SchemaType.children] at children
      rw [children] at legible
      exact absurd same.symm (builtIn_ne_declared places head' legible' legible)
    | tuple arity' =>
      cases u <;> cases head'
      rw [SchemaType.children, SchemaType.children] at children
      rw [SchemaType.children, children] at outside
      exact absurd same.symm (outside legible.1)
    | declared q =>
      cases u <;> cases head'
      obtain ⟨modules, names⟩ := segments_injective (places.modules p legible.1)
        (places.modules q legible'.1) same
      rw [places.distinct p q legible.1 legible'.1 modules names]

end

end SchemaBindings.Rust
