import SchemaBindings.Fault
import SchemaBindings.Ordered

/-!
# Tuples as records

A target without tuples of its own gets one generic record per arity that is used: `Tuple3` with the
parameters `T1`, `T2`, `T3` and the fields `F1`, `F2`, `F3`. The records live in a module of their own,
directly under the root, which refers to nothing. `TupleArena` holds the arities that have been requested,
up to a ceiling.
-/

namespace SchemaBindings

def tuplesModuleName : String := "tuples"

def tuplesModule : ModulePath := [tuplesModuleName]

def tupleName (arity : Nat) : String :=
  "Tuple" ++ toString arity

structure TupleRecord where
  arity : Nat
  parameters : List String
  fields : List String
deriving DecidableEq, Repr

namespace TupleRecord

/-- The names `letter1`, `letter2`, … of an arity. -/
def numbered (letter : String) (arity : Nat) : List String :=
  (List.range arity).map fun i => letter ++ toString (i + 1)

def ofArity (arity : Nat) : TupleRecord :=
  ⟨arity, numbered "T" arity, numbered "F" arity⟩

def name (t : TupleRecord) : String :=
  tupleName t.arity

end TupleRecord

/-- The arities that have been requested, in ascending order, and the largest one allowed. -/
structure TupleArena where
  max : Nat
  arities : List Nat := []
deriving DecidableEq, Repr

namespace TupleArena

/-- Whether an arity can be requested. -/
def check (arena : TupleArena) (arity : Nat) : Except Fault Unit :=
  if arity < 2 then .error (.invalidArity arity)
  else if arena.max < arity then .error (.unsupportedArity arity arena.max)
  else .ok ()

def request (arena : TupleArena) (arity : Nat) : Except Fault (TupleArena × TupleRecord) := do
  arena.check arity
  let arities := insertOrdered (fun a b => decide (a < b)) arity arena.arities
  return ({ arena with arities }, .ofArity arity)

def records (arena : TupleArena) : List TupleRecord :=
  arena.arities.map .ofArity

end TupleArena

end SchemaBindings
