import SchemaBindings.Generation.Dependency
import SchemaBindings.Generation.ImportGraph

/-!
# Import cycles

A module imports another if one of its ready candidates refers to a declaration there. For a target whose
modules may not import each other, every reference whose module leads back to the module of the
candidate is a fault of the candidate.
-/

namespace SchemaBindings

/-- The modules that a candidate refers to, other than its own. -/
def Candidate.importedModules (c : Candidate) : List ModulePath :=
  (c.references.map (·.module)).filter (· ≠ c.item.module)

/-- Which module imports which, over the ready candidates. -/
def moduleImports (cs : List Candidate) : List Import :=
  (cs.filter (·.isReady)).flatMap fun c => c.importedModules.map (c.item.module, ·)

/-- The first reference of a candidate to another module that leads back to its own. -/
def Candidate.cyclicReference? (graph : ImportGraph) (c : Candidate) : Option SchemaPath :=
  c.references.find? fun p => p.module ≠ c.item.module ∧ graph.leads p.module c.item.module

/-- Fails the ready candidates that close a cycle, all by the imports from before. -/
def breakImportCycles (cs : List Candidate) : List Candidate :=
  let graph := ImportGraph.ofImports (moduleImports cs)
  cs.map fun c =>
    if c.isReady then
      match c.cyclicReference? graph with
      | some p => c.fail (.importCycle (SchemaPath.mk c.item.module).text p.text)
      | none => c
    else c

end SchemaBindings
