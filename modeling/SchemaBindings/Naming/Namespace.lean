import SchemaBindings.Fault

/-!
# Namespaces

A namespace holds the names that are taken, each with the label of its holder. A name is claimed alone
(`Namespace.claim`) or in place, with a namespace that changes (`Claiming`). Several names are claimed in place
for one owner: all of them are looked at, and then each is claimed (`Claiming.claimAll`).
-/

namespace SchemaBindings

/-- Claimed names with the labels of their holders, the latest claim first. -/
structure Namespace where
  claims : List (String × String) := []
deriving DecidableEq, Repr

namespace Namespace

/-- The namespace in which some names are taken from the start; of two labels for a name the later one
counts. -/
def reserving (reserved : List (String × String)) : Namespace :=
  ⟨reserved.reverse⟩

def holder? (ns : Namespace) (name : String) : Option String :=
  ns.claims.lookup name

def holds (ns : Namespace) (name : String) : Bool :=
  (ns.holder? name).isSome

def claim (ns : Namespace) (name owner : String) : Except Fault Namespace :=
  match ns.holder? name with
  | some takenBy => .error (.namingCollision name takenBy)
  | none => .ok ⟨(name, owner) :: ns.claims⟩

/-- Names that are claimed together must be free and distinct; `before` lists those in front. -/
def checkFree (ns : Namespace) (owner : String) (before : List String) :
    List String → Except Fault Unit
  | [] => .ok ()
  | name :: names =>
    match ns.holder? name with
    | some takenBy => .error (.namingCollision name takenBy)
    | none =>
      if name ∈ before then .error (.namingCollision name owner)
      else ns.checkFree owner (name :: before) names

end Namespace

/-! ## Claims in place -/

/-- Changes to a namespace that can fail. A fault takes nothing back: the namespace stays as it is then. -/
abbrev Claiming := EStateM Fault Namespace

namespace Claiming

/-- A check in which the namespace has no part. -/
def check : Except Fault Unit → Claiming Unit
  | .error fault => throw fault
  | .ok () => pure ()

def claim (name owner : String) : Claiming Unit := do
  match (← get).claim name owner with
  | .error fault => throw fault
  | .ok ns => set ns

/-- Claims several names for one owner, one after the other, if they are free and distinct. -/
def claimAll (names : List String) (owner : String) : Claiming Unit := do
  check ((← get).checkFree owner [] names)
  -- A fault from here on would leave the names in front of it claimed.
  names.forM fun name => claim name owner

end Claiming

end SchemaBindings
