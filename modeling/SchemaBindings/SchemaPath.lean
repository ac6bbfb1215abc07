/-!
# Paths of declarations

The place of a declaration: the names of the modules around it, outermost first, and its own name. The root
module has the empty path.
-/

namespace SchemaBindings

/-- The path of a module: the names from the root down. -/
abbrev ModulePath := List String

/-- The order of module paths: by their first different names, and a path before its extensions. -/
def modulePrecedes (m n : ModulePath) : Bool :=
  decide (m < n)

structure SchemaPath where
  segments : List String
deriving DecidableEq, Repr

namespace SchemaPath

def root : SchemaPath := ⟨[]⟩

def child (p : SchemaPath) (name : String) : SchemaPath :=
  ⟨p.segments ++ [name]⟩

/-- The path of the module around; the root stays. -/
def module (p : SchemaPath) : ModulePath :=
  p.segments.dropLast

/-- The last name; empty for the root. -/
def name (p : SchemaPath) : String :=
  p.segments.getLastD ""

def isRoot (p : SchemaPath) : Bool :=
  p.segments.isEmpty

def text (p : SchemaPath) : String :=
  if p.isRoot then "<root>" else "::".intercalate p.segments

/-- The order of paths: by their first different names, and a path before its extensions. -/
def precedes (p q : SchemaPath) : Bool :=
  decide (p.segments < q.segments)

@[simp] theorem module_child (p : SchemaPath) (name : String) :
    (p.child name).module = p.segments := by
  simp [child, module]

@[simp] theorem name_child (p : SchemaPath) (name : String) : (p.child name).name = name := by
  simp [child, SchemaPath.name]

theorem child_injective {p q : SchemaPath} {a b : String} (h : p.child a = q.child b) :
    p = q ∧ a = b := by
  cases p
  cases q
  simpa [child] using h

end SchemaPath

end SchemaBindings
