import SchemaBindings.Proofs.ResolutionFailures
import SchemaBindings.Proofs.RunOutputs

/-!
# References of what a run emits

A declaration that a run emits can lack one that it refers to in one way only: the other one stands in a module
that is left out because a name on the way to it is no identifier. Such a module is reported as a whole, but its
types stay in the symbol table, so references to them resolve and nothing fails for them.

* In a module that is kept a declared type is kept, or its own path has failed and whatever refers to it fails
  (`rendered_iff_identifiers`).
* `references_closed_iff` says the same of the table of names and of the outputs.
-/

namespace SchemaBindings

open Declaration

theorem mem_failedPaths_of_reported {r : Resolved} {p : SchemaPath} {fault : Fault}
    (own : fault.IsOwn) (reported : ⟨p, fault⟩ ∈ r.failures) : p ∈ r.failedPaths := by
  refine List.mem_filterMap.2 ⟨_, reported, ?_⟩
  cases fault with
  | duplicateDeclaration name => exact own.elim
  | _ => rfl

section

variable {document : Document} {target : Target} {config : Config} {names : NameTable}

theorem identifiers_of_mem_plan {c : Candidate}
    (member : c ∈ plan target config names document.resolve) :
    ∀ name ∈ c.path.module, isIdentifier name := by
  rw [Candidate.path, path_module]
  exact document.identifiers_of_mem_items (item_of_mem_plan member)

/-- A reference of what a run emits leads to something that it emits too exactly if no module on the way to it
has been left out for its name. -/
theorem rendered_iff_identifiers {c : Candidate}
    (member : c ∈ plan target config names document.resolve) (ready : c.isReady = true)
    {p : SchemaPath} (referred : p ∈ c.references) :
    (∃ d ∈ plan target config names document.resolve, d.isReady = true ∧ d.path = p) ↔
      ∀ name ∈ p.module, isIdentifier name := by
  constructor
  · rintro ⟨d, member', -, rfl⟩
    exact identifiers_of_mem_plan member'
  · intro identifiers
    obtain ⟨t, type, inside⟩ := Declaration.mem_references.1 referred
    obtain ⟨k, declared⟩ :=
      document.declared_of_mem_references (item_of_mem_plan member) type inside
    obtain ⟨unfailed, settled⟩ := references_of_mem_plan member ready referred
    -- Had the referent been reported, or failed later, the failure would have spread to the candidate.
    rcases document.kept_or_reported declared identifiers with ⟨i, item, rfl⟩ | ⟨fault, own, reported⟩
    · obtain ⟨d, member', rfl⟩ := exists_candidate item
      exact ⟨d, member', settled d member' rfl, rfl⟩
    · exact absurd (mem_failedPaths_of_reported own reported) unfailed

end

section

variable {document : Document} {target : Target} {config : Config}

theorem identifier?_of_mem_plan {d : Candidate} {own : DeclarationNames}
    (member : d ∈ plan target config (runNames target config document.resolve) document.resolve)
    (status : d.status = .ok own) :
    (runNames target config document.resolve).identifier? d.path = some own.identifier := by
  obtain ⟨_, status', -, -, found⟩ := status_of_mem_plan member (Candidate.isReady_iff.2 ⟨own, status⟩)
  cases status.symm.trans status'
  rw [NameTable.identifier?, found]

theorem identifiers_of_identifier? {p : SchemaPath}
    (named : ((runNames target config document.resolve).identifier? p).isSome) :
    ∀ name ∈ p.module, isIdentifier name := by
  cases found : (runNames target config document.resolve).get? p with
  | none =>
    rw [NameTable.identifier?, found] at named
    exact absurd named (by simp)
  | some entry =>
    obtain ⟨i, item, rfl, -⟩ := exists_item_of_get? found
    rw [path_module]
    exact document.identifiers_of_mem_items item

/-- A declaration of a plan is emitted in its module under its name in the table. -/
theorem exists_output_of_mem_plan (naming : target.NamesOutputs) {d : Candidate}
    (member : d ∈ plan target config (runNames target config document.resolve) document.resolve)
    {own : DeclarationNames} (status : d.status = .ok own) :
    ∃ o ∈ d.outputs target config (runNames target config document.resolve),
      o.place = (d.path.module, own.identifier) := by
  obtain ⟨-, isItem⟩ := mem_items_iff.1 (item_of_mem_plan member)
  rw [Candidate.outputs, status, Candidate.path, path_module]
  exact naming.declared _ _ own isItem

theorem identifiers_of_mem_runOutputs (naming : target.NamesOutputs) {records : List TupleRecord}
    {o : Output}
    (emitted : o ∈ runOutputs target config (runNames target config document.resolve) records
      (plan target config (runNames target config document.resolve) document.resolve)) :
    ∀ name ∈ o.module, isIdentifier name := by
  rcases List.mem_append.1 emitted with record | declared
  · obtain ⟨t, -, rfl⟩ := List.mem_map.1 record
    have module : (target.tupleOutput t).module = tuplesModule :=
      congrArg Prod.fst (naming.tuples t)
    rw [module]
    decide +kernel
  · obtain ⟨d, member, emitted⟩ := List.mem_flatMap.1 declared
    obtain ⟨own, -, module, -⟩ := place_of_mem_outputs naming (List.mem_map_of_mem emitted)
    have identifiers := identifiers_of_mem_plan member
    rw [Candidate.path, path_module, ← module] at identifiers
    exact identifiers

end

/-- A run that is not strict ends with an output, and for every reference of a declaration that it emits the
following are the same: the referent is emitted too, it has a name in the table, there is an output in its
module under the name that the reference is rendered with, and no module around it has been left out for its
name. -/
theorem references_closed_iff (document : Document) (config : Config)
    (valid : config.validate = .ok ()) (lenient : config.strict = false) :
    let target := config.target.target
    let names := runNames target config document.resolve
    let cs := plan target config names document.resolve
    ∃ g, generate config document.resolve = .ok g ∧
      ∀ c ∈ cs, c.isReady = true → ∀ p ∈ c.references,
        ((∃ d ∈ cs, d.isReady = true ∧ d.path = p) ↔ ∀ name ∈ p.module, isIdentifier name) ∧
        ((names.identifier? p).isSome ↔ ∀ name ∈ p.module, isIdentifier name) ∧
        ((∃ o ∈ g.outputs, o.module = p.module ∧
            o.identifier = RenderContext.identifierOf ⟨config, names, c.item.module⟩ p) ↔
          ∀ name ∈ p.module, isIdentifier name) := by
  intro target names cs
  have naming : target.NamesOutputs := config.target.namesOutputs
  obtain ⟨g, generated⟩ := exists_generateFor_of_lenient target document.resolve valid lenient
  obtain ⟨arena, -, outputs⟩ := outputs_of_generateFor generated
  refine ⟨g, generated, fun c member ready p referred => ?_⟩
  have rendered := rendered_iff_identifiers member ready referred
  refine ⟨rendered, ⟨identifiers_of_identifier?, fun identifiers => ?_⟩, ?_, fun identifiers => ?_⟩
  · obtain ⟨d, member', ready', rfl⟩ := rendered.2 identifiers
    obtain ⟨own, status⟩ := Candidate.isReady_iff.1 ready'
    rw [identifier?_of_mem_plan member' status]
    rfl
  · rintro ⟨o, emitted, module, -⟩
    rw [← module]
    rw [outputs] at emitted
    exact identifiers_of_mem_runOutputs naming emitted
  · obtain ⟨d, member', ready', rfl⟩ := rendered.2 identifiers
    obtain ⟨own, status⟩ := Candidate.isReady_iff.1 ready'
    obtain ⟨o, emitted, place⟩ := exists_output_of_mem_plan naming member' status
    refine ⟨o, ?_, congrArg Prod.fst place, ?_⟩
    · rw [outputs]
      exact List.mem_append_right _ (List.mem_flatMap.2 ⟨d, member', emitted⟩)
    · rw [RenderContext.identifierOf, identifier?_of_mem_plan member' status]
      exact congrArg Prod.snd place

/-- A struct that refers to one inside the module `m`. -/
def outwardDocument (m : String) : Document :=
  ⟨[.module m none [.struct ⟨"X", [], [], none⟩],
    .struct ⟨"A", [], [⟨"x", .named (m ++ "::X") [], none⟩], none⟩]⟩

theorem outward_references_closed :
    ∃ g, generate {} (outwardDocument "m").resolve = .ok g ∧
      ∃ o ∈ g.outputs, o.module = ["m"] ∧ o.identifier = "X" := by
  obtain ⟨g, generated, closed⟩ :=
    references_closed_iff (outwardDocument "m") {} (by decide +kernel) rfl
  have referred : ∃ c ∈ plan Go.target {} (runNames Go.target {} (outwardDocument "m").resolve)
      (outwardDocument "m").resolve, c.isReady = true ∧ ⟨["m", "X"]⟩ ∈ c.references := by
    decide +kernel
  obtain ⟨c, member, ready, referred⟩ := referred
  obtain ⟨o, emitted, module, identifier⟩ :=
    (closed c member ready _ referred).2.2.2 (by decide +kernel)
  have named : RenderContext.identifierOf
      ⟨{}, runNames Go.target {} (outwardDocument "m").resolve, c.item.module⟩ ⟨["m", "X"]⟩ = "X" := by
    show ((runNames Go.target {} (outwardDocument "m").resolve).identifier? ⟨["m", "X"]⟩).getD _ = "X"
    decide +kernel
  exact ⟨g, generated, o, emitted, module, identifier.trans named⟩

/-- The module of the referent is left out for its name, and the struct is emitted with a reference to a type that
neither the table nor the output has. -/
theorem outward_reference_dangling :
    let r := (outwardDocument "1bad").resolve
    let names := runNames Go.target {} r
    let cs := plan Go.target {} names r
    (generate {} r).toOption.map (·.outputs.map Output.place) = some [([], "A")] ∧
      ∃ c ∈ cs, c.isReady = true ∧ c.path = ⟨["A"]⟩ ∧
        ∃ p ∈ c.references, p = ⟨["1bad", "X"]⟩ ∧ names.identifier? p = none ∧
          ∀ d ∈ cs, d.isReady = true → d.path ≠ p := by
  decide +kernel

end SchemaBindings
