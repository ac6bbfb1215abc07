import SchemaBindings.Generation.Candidate

/-!
# Failed dependencies

A candidate that refers to a failed declaration fails too. Failures spread in rounds: in each, every ready
candidate looks for the first of its references that has failed before the round. It has looked for the
earlier ones in earlier rounds, so it only looks for those of the round before. The rounds end when one
fails nothing.
-/

namespace SchemaBindings

namespace Candidate

/-- The first reference of the item that is among the failed paths. -/
def failedReference? (failed : List SchemaPath) (c : Candidate) : Option SchemaPath :=
  c.references.find? (· ∈ failed)

/-- Keeps a ready item out if it refers to a failed path. -/
def blame (failed : List SchemaPath) (c : Candidate) : Candidate :=
  if c.isReady then
    match c.failedReference? failed with
    | some p => c.fail (.dependencyFailed p.text)
    | none => c
  else c

end Candidate

def failedPaths (cs : List Candidate) : List SchemaPath :=
  (cs.filter (!·.isReady)).map (·.path)

/-- One round: the ready candidates that refer to a failed path fail. -/
def spread (failed : List SchemaPath) (cs : List Candidate) : List Candidate :=
  cs.map (·.blame failed)

/-- The paths of the candidates that fail in a round. -/
def newlyFailed (failed : List SchemaPath) (cs : List Candidate) : List SchemaPath :=
  (cs.filter fun c => c.isReady && (c.failedReference? failed).isSome).map (·.path)

/-- At most the given number of rounds, the first one for the paths in `failed`, and none for no paths. -/
def settle : Nat → (failed : List SchemaPath) → List Candidate → List Candidate
  | 0, _, cs => cs
  | rounds + 1, failed, cs =>
    if failed = [] then cs else settle rounds (newlyFailed failed cs) (spread failed cs)

/-- Spreads failures until nothing changes; the paths in `failed` have failed from the start. Each round
behind the first is for a candidate that the one before has failed, so one round more than there are
candidates is enough. -/
def propagate (failed : List SchemaPath) (cs : List Candidate) : List Candidate :=
  settle (cs.length + 1) (failed ++ failedPaths cs) cs

end SchemaBindings
