import SchemaBindings.Proofs.GoRecords

/-!
# Unions in source text

What the text of a union says about its variants (`UnionText`): the alternatives that it has, with the type that each of
them takes, and the types that it dispatches, with the alternative that each of them leads to. In Go the alternatives
are the handlers of the match function, and the cases of its type switch dispatch; in Rust the alternatives are the
cases of the enum, and the conversions dispatch.
-/

namespace SchemaBindings

open SourceReader

/-! ## Texts of unions -/

/-- A method without a result: its name and the types of its parameters. -/
structure Method where
  name : String
  parameters : List TypeUse
deriving DecidableEq

/-- A union with the generics that it binds, the methods that a type needs to belong to it, and its alternatives with
the types that they take. It dispatches types to alternatives, where some type parameters are bound. -/
structure UnionText where
  type : TypeUse
  methods : List Method
  alternatives : List (String × TypeUse)
  binders : List String
  dispatch : List (TypeUse × String)
deriving DecidableEq

/-- There is one alternative for each variant, in declared order, and the type of each variant leads to the alternative
for it. No two alternatives have the same name, and no two types. -/
structure UnionText.Exhaustive (text : UnionText) (variants : List (String × TypeUse)) : Prop where
  alternatives_eq : text.alternatives = variants
  dispatch_eq : text.dispatch = variants.map Prod.swap
  names_nodup : (text.alternatives.map (·.1)).Nodup
  types_nodup : (text.dispatch.map (·.1.name)).Nodup

/-! ## Alternatives -/

/-- The name of the alternative for a variant. -/
def TargetName.alternativeName : TargetName → String → String
  | go => fun variant => "on" ++ Text.upperCamel variant
  | rust => Text.upperCamel

def TargetName.alternatives (target : TargetName) (u : Union TypeRef) (names : List String) :
    List (String × TypeUse) :=
  (u.variants.zip names).map fun (v, name) =>
    (target.alternativeName v.name, ⟨name, v.usedGenerics u.generics⟩)

def Go.markerMethod (identifier : String) : Method :=
  ⟨markerName identifier, []⟩

def TargetName.markers : TargetName → String → List Method
  | go, identifier => [Go.markerMethod identifier]
  | rust, _ => []

/-- The type parameters that a union has where it dispatches, besides its generics. -/
def TargetName.dispatchExtras : TargetName → List String → List String
  | go, generics => [Go.resultParameter generics]
  | rust, _ => []

def TargetName.unionText (target : TargetName) (type : TypeUse) (alternatives : List (String × TypeUse)) :
    UnionText where
  type := type
  methods := target.markers type.name
  alternatives := alternatives
  binders := type.arguments ++ target.dispatchExtras type.arguments
  dispatch := alternatives.map Prod.swap

/-- The names in an alternative are made of identifier characters. -/
structure NamedAlternative (a : String × TypeUse) : Prop where
  name : Go.IsName a.1
  type : a.2.Named

end SchemaBindings
