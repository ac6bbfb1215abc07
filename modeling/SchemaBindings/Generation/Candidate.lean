import SchemaBindings.Naming.Table
import SchemaBindings.TupleRecord

/-!
# Candidates of a run

Every item of a resolved schema is a candidate for output. It starts with its emitted names, or with the
fault that keeps it out: a module around it has no name, one of its tuples is too large, or it has no
name itself.
-/

namespace SchemaBindings

/-! ## What a declaration mentions -/

/-- The declared types that occur in a declaration, in path order. -/
def Declaration.references (d : SchemaDeclaration) : List SchemaPath :=
  ordered SchemaPath.precedes (d.types.flatMap SchemaType.references)

/-- The arities of the tuples that occur in a declaration, in ascending order. -/
def Declaration.arities (d : SchemaDeclaration) : List Nat :=
  orderedNats (d.types.flatMap SchemaType.arities)

theorem Declaration.mem_references {d : SchemaDeclaration} {p : SchemaPath} :
    p ∈ d.references ↔ ∃ t ∈ d.types, p ∈ t.references := by
  simp [references]

theorem Declaration.mem_arities {d : SchemaDeclaration} {n : Nat} :
    n ∈ d.arities ↔ ∃ t ∈ d.types, n ∈ t.arities := by
  simp [arities, orderedNats]

/-! ## Candidates -/

/-- An item with its emitted names, or the fault that keeps it out of the output. -/
structure Candidate where
  item : SchemaItem
  status : Except Fault DeclarationNames

namespace Candidate

def path (c : Candidate) : SchemaPath :=
  c.item.path

/-- The declared types that the item mentions. -/
def references (c : Candidate) : List SchemaPath :=
  c.item.declaration.references

/-- Whether nothing keeps the item out. -/
def isReady (c : Candidate) : Bool :=
  match c.status with
  | .ok _ => true
  | .error _ => false

/-- The fault that keeps the item out. -/
def fault? (c : Candidate) : Option Fault :=
  match c.status with
  | .ok _ => none
  | .error fault => some fault

/-- Keeps the item out for a fault. -/
def fail (c : Candidate) (fault : Fault) : Candidate :=
  { c with status := .error fault }

def failure? (c : Candidate) : Option DeclarationFailure :=
  c.fault?.map fun fault => ⟨c.path, fault⟩

end Candidate

/-! ## Their start -/

/-- The status of an item by itself; the first problem counts. -/
def initialStatus (names : NameTable) (arena : TupleArena) (item : SchemaItem) :
    Except Fault DeclarationNames :=
  match names.failedAncestor? item.module with
  | some m => .error (.dependencyFailed m.text)
  | none => do
    item.declaration.arities.forM arena.check
    (names.get? item.path).getD (.error (.unknownType item.path.text))

def candidates (names : NameTable) (arena : TupleArena) (items : List SchemaItem) : List Candidate :=
  items.map fun item => ⟨item, initialStatus names arena item⟩

end SchemaBindings
