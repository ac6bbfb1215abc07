import SchemaBindings.SchemaPath

/-!
# Import graphs

Which modules a chain of imports leads to. A graph numbers its modules by their place in a list, and a set of
modules is a natural number: the bit at the number of a module says whether it belongs.

* The row of a module is the set that it leads to; at first that is what it imports itself.
* The modules are taken up one after the other as a station of chains: what leads to the station leads to
  all that the station leads to. After the last one every chain counts.
-/

namespace SchemaBindings

/-- An import: the module that imports, and the one that is imported. -/
abbrev Import := ModulePath × ModulePath

/-- The modules of a graph in the order of their numbers, and the set that each one leads to. -/
structure ImportGraph where
  modules : List ModulePath
  rows : List Nat
deriving Repr

namespace ImportGraph

/-- The modules that occur in imports, each once. -/
def modulesOf (imports : List Import) : List ModulePath :=
  (imports.flatMap fun e => [e.1, e.2]).eraseDups

/-- The set of the modules that `m` imports itself. -/
def directRow (modules : List ModulePath) (imports : List Import) (m : ModulePath) : Nat :=
  (imports.filter fun e => e.1 = m).foldl (fun row e => row ||| 1 <<< modules.idxOf e.2) 0

/-- The rows with chains through one more module. -/
def closeThrough (rows : List Nat) (station : Nat) : List Nat :=
  let onward := rows.getD station 0
  rows.map fun row => if row.testBit station then row ||| onward else row

def ofImports (imports : List Import) : ImportGraph :=
  let modules := modulesOf imports
  let direct := modules.map (directRow modules imports)
  ⟨modules, (List.range modules.length).foldl closeThrough direct⟩

/-- Whether a chain of at least one import leads from `m` to `n`. -/
def leads (graph : ImportGraph) (m n : ModulePath) : Bool :=
  (graph.rows.getD (graph.modules.idxOf m) 0).testBit (graph.modules.idxOf n)

example :
    let graph := ofImports [(["a"], ["b"]), (["b"], ["c"]), (["c"], ["b"])]
    graph.leads ["a"] ["c"] ∧ graph.leads ["c"] ["c"] ∧ ¬ graph.leads ["c"] ["a"] ∧
      ¬ graph.leads ["a"] ["d"] := by
  decide +kernel

end ImportGraph

end SchemaBindings
