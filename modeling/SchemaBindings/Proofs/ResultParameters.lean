import SchemaBindings.Proofs.EmittedTypes
import SchemaBindings.Proofs.Escalation
import SchemaBindings.Proofs.SealedUnions

/-!
# The type parameter for the result of a match

The type parameters of a match function are the generics of the union and one for the result. That one is the first of
four names that is no generic, and the last of them if all four are generics (`resultParameter_eq_getD`). No other names
are looked at.

What the function says is read off its text by a reader that is not told its type parameters (`readMatchFunction`). They
are fresh exactly if one of the four names is no generic, and the first such name is neither the name of the union nor
that of a variant (`matchFunction_fresh_iff`).
-/

namespace SchemaBindings.Go

open SourceReader

/-! ## Reading -/

/-- No two type parameters have the same name, and the one for the result has the name of no type that the function
mentions. -/
structure MatchText.Fresh (text : MatchText) : Prop where
  parameters_nodup : text.parameters.Nodup
  value : text.result ≠ text.value.name
  handlers : ∀ h ∈ text.handlers, text.result ≠ h.2.1.name
  cases : ∀ c ∈ text.cases, text.result ≠ c.1.name

/-- The match function behind the interface of a union. -/
def readMatchOf : SourceReader MatchText := do
  let _ ← readInterface
  exactly "\n"
  readMatchFunction

/-! ## The result -/

/-- The names that a type parameter for the result can have, in the order in which they are tried. -/
def resultCandidates : List String := ["R", "Result", "Out", "MatchResult"]

section

variable {generics : List String}

/-- The parameter for the result is the first of the names that is no generic, and the last name if there is none. -/
theorem resultParameter_eq_getD :
    resultParameter generics = (resultCandidates.find? (· ∉ generics)).getD "MatchResult" := by
  have split : resultCandidates.find? (· ∉ generics) =
      (["R", "Result", "Out"].find? (· ∉ generics)).or (["MatchResult"].find? (· ∉ generics)) := by
    show (["R", "Result", "Out"] ++ ["MatchResult"]).find? _ = _
    exact List.find?_append
  rw [split, resultParameter]
  cases ["R", "Result", "Out"].find? (· ∉ generics) with
  | some name => rfl
  | none =>
    rw [Option.none_or]
    cases found : ["MatchResult"].find? (· ∉ generics) with
    | some name => exact (List.mem_singleton.1 (List.mem_of_find?_eq_some found)).symm
    | none => rfl

theorem find?_resultCandidates_eq_some_iff {r : String} :
    resultCandidates.find? (· ∉ generics) = some r ↔ resultParameter generics = r ∧ r ∉ generics := by
  rw [resultParameter_eq_getD]
  cases found : resultCandidates.find? (· ∉ generics) with
  | some name =>
    have free : name ∉ generics := by simpa using List.find?_some found
    rw [Option.getD_some, Option.some.injEq]
    exact ⟨fun same => ⟨same, same ▸ free⟩, And.left⟩
  | none =>
    have taken : "MatchResult" ∈ generics := by
      simpa using List.find?_eq_none.1 found "MatchResult" (by decide)
    refine iff_of_false (by simp) ?_
    rintro ⟨rfl, free⟩
    exact free taken

/-- The parameter for the result is a generic only if all of the names are generics. -/
theorem resultParameter_not_mem_iff : resultParameter generics ∉ generics ↔ ∃ r ∈ resultCandidates, r ∉ generics := by
  have found : (∃ r, resultCandidates.find? (· ∉ generics) = some r) ↔ ∃ r ∈ resultCandidates, r ∉ generics := by
    rw [← Option.isSome_iff_exists, List.find?_isSome]
    simp
  rw [← found]
  simp only [find?_resultCandidates_eq_some_iff, exists_eq_left']

end

/-! ## Match functions of unions -/

section

variable {document : Document} {config : Config} {m : ModulePath} (n : NamedUnion document config m)

/-- What the match function of a union states. -/
def NamedUnion.matchText : MatchText where
  name := n.names.identifier
  parameters := n.union.generics ++ [resultParameter n.union.generics]
  value := ⟨n.names.identifier, n.union.generics⟩
  handlers := n.union.variants.map fun v => (TargetName.go.alternativeName v.name,
    TargetName.go.variantUse config n.union n.names v, resultParameter n.union.generics)
  result := resultParameter n.union.generics
  cases := n.union.variants.map fun v =>
    (TargetName.go.variantUse config n.union n.names v, TargetName.go.alternativeName v.name)

/-- The match function of a union is read off the first of its outputs. -/
theorem NamedUnion.exists_matchFunction (valid : config.validate = .ok ()) :
    ∃ contract outputs, n.outputs = contract :: outputs ∧
      readMatchOf.run contract.source.toList = some (n.matchText, []) := by
  have variants := TargetName.go.variants_eq n.item rfl n.found
  have listed : TargetName.go.alternatives n.union n.names.variants = n.union.variants.map fun v =>
      (TargetName.go.alternativeName v.name, TargetName.go.variantUse config n.union n.names v) := by
    rw [variants]
    exact TargetName.go.alternatives_eq _
  have each : ∀ a ∈ TargetName.go.alternatives n.union n.names.variants, NamedAlternative a := by
    rw [listed]
    exact List.forall_mem_map.2 fun v variant => TargetName.go.named_alternative valid n.item rfl variant
  have bound := (TargetName.go.declared_union n.item rfl n.found).named
  refine ⟨_, _, unionOutputs_eq n.context variants, ?_⟩
  rw [readMatchOf, run_bind_of (readInterface_contractLayout bound), run_bind_of (exactly_append "\n" _),
    readMatchFunction_matchLayout bound each, Go.matchText, listed, List.map_map, List.map_map]
  rfl

theorem NamedUnion.matchText_parameters_nodup_iff :
    n.matchText.parameters.Nodup ↔ resultParameter n.union.generics ∉ n.union.generics := by
  have generics : n.union.generics.Nodup := generics_nodup n.item
  unfold matchText
  rw [List.nodup_append_comm, List.singleton_append, List.nodup_cons, and_iff_left generics]

theorem NamedUnion.matchText_handlers_names : n.matchText.handlers.map (·.2.1.name) = n.names.variants := by
  rw [TargetName.go.variants_eq n.item rfl n.found]
  exact List.map_map

theorem NamedUnion.matchText_cases_names : n.matchText.cases.map (·.1.name) = n.names.variants := by
  rw [TargetName.go.variants_eq n.item rfl n.found]
  exact List.map_map

/-- The type parameters are fresh if the one for the result is no generic, and has neither the name of the union nor
that of a variant. -/
theorem NamedUnion.matchText_fresh_iff :
    n.matchText.Fresh ↔ resultParameter n.union.generics ∉ n.union.generics ∧
      resultParameter n.union.generics ≠ n.names.identifier ∧
      resultParameter n.union.generics ∉ n.names.variants := by
  have handled := n.matchText_handlers_names
  have listed := n.matchText_cases_names
  constructor
  · rintro ⟨distinct, value, handlers, -⟩
    refine ⟨n.matchText_parameters_nodup_iff.1 distinct, value, fun taken => ?_⟩
    rw [← handled] at taken
    obtain ⟨h, among, same⟩ := List.mem_map.1 taken
    exact handlers h among same.symm
  · rintro ⟨free, value, unlike⟩
    refine ⟨n.matchText_parameters_nodup_iff.2 free, value, fun h among same => unlike ?_,
      fun c among same => unlike ?_⟩
    · rw [← handled]
      exact List.mem_map.2 ⟨h, among, same.symm⟩
    · rw [← listed]
      exact List.mem_map.2 ⟨c, among, same.symm⟩

/-- The text of a match function has the generics of its union as type parameters and one for the result, and mentions
the union and its variants. The type parameters differ exactly if one of the names for the result is no generic. They
are fresh exactly if the first such name is neither the name of the union nor that of a variant. -/
theorem matchFunction_fresh_iff (valid : config.validate = .ok ()) :
    ∃ contract outputs text, n.outputs = contract :: outputs ∧
      readMatchOf.run contract.source.toList = some (text, []) ∧
      text.name = n.names.identifier ∧ text.parameters = n.union.generics ++ [text.result] ∧
      text.result = (resultCandidates.find? (· ∉ n.union.generics)).getD "MatchResult" ∧
      text.value = ⟨n.names.identifier, n.union.generics⟩ ∧
      text.handlers.map (·.2.1.name) = n.names.variants ∧ (∀ h ∈ text.handlers, h.2.2 = text.result) ∧
      text.cases.map (·.1.name) = n.names.variants ∧
      (text.parameters.Nodup ↔ ∃ r ∈ resultCandidates, r ∉ n.union.generics) ∧
      (text.Fresh ↔ ∃ r, resultCandidates.find? (· ∉ n.union.generics) = some r ∧
        r ≠ n.names.identifier ∧ r ∉ n.names.variants) := by
  obtain ⟨contract, outputs, emitted, reads⟩ := n.exists_matchFunction valid
  refine ⟨contract, outputs, n.matchText, emitted, reads, rfl, rfl, resultParameter_eq_getD, rfl,
    n.matchText_handlers_names, ?_, n.matchText_cases_names, ?_, ?_⟩
  · exact List.forall_mem_map.2 fun _ _ => rfl
  · exact n.matchText_parameters_nodup_iff.trans resultParameter_not_mem_iff
  · rw [n.matchText_fresh_iff]
    simp only [find?_resultCandidates_eq_some_iff, and_assoc, exists_eq_left']

end

/-- A union with a generic that has the first of the names. -/
def eitherUnion {ν : Type} : Union (SchemaType ν) :=
  ⟨"Either", ["L", "R"],
    [⟨"left", [⟨"value", .param "L", none⟩], none⟩, ⟨"right", [⟨"value", .param "R", none⟩], none⟩], none⟩

/-- The union alone, with its names. -/
def either : NamedUnion ⟨[.union eitherUnion]⟩ {} [] where
  union := eitherUnion
  names := ⟨"Either", ["Left", "Right"], false⟩
  item := List.mem_of_getElem? (i := 0) rfl
  found := by decide +kernel

theorem either_match_fresh :
    ∃ contract outputs text, either.outputs = contract :: outputs ∧
      readMatchOf.run contract.source.toList = some (text, []) ∧
      text.parameters = ["L", "R", "Result"] ∧ text.Fresh := by
  have valid : Config.validate {} = .ok () := by decide +kernel
  obtain ⟨contract, outputs, text, emitted, reads, -, parameters, result, -, -, -, -, -, fresh⟩ :=
    matchFunction_fresh_iff either valid
  refine ⟨contract, outputs, text, emitted, reads, ?_, fresh.2 ⟨"Result", by decide⟩⟩
  rw [parameters, result]
  decide

/-- A union that uses each of the names as a generic. -/
def exhaustingUnion {ν : Type} : Union (SchemaType ν) :=
  ⟨"Both", resultCandidates, [⟨"full", [⟨"first", .param "R", none⟩, ⟨"second", .param "Result", none⟩,
    ⟨"third", .param "Out", none⟩, ⟨"fourth", .param "MatchResult", none⟩], none⟩], none⟩

/-- A union that is called like a parameter for the result, and the one that leaves no name for it. -/
def capturingDocument : Document :=
  ⟨[.union (plainUnion "R" ["only"]), .union exhaustingUnion]⟩

/-- The union that is called like the parameter, with its names. -/
def captured : NamedUnion capturingDocument {} [] where
  union := plainUnion "R" ["only"]
  names := ⟨"R", ["Only"], false⟩
  item := List.mem_of_getElem? (i := 0) rfl
  found := by decide +kernel

/-- The union that leaves no name, with its names. -/
def exhausting : NamedUnion capturingDocument {} [] where
  union := exhaustingUnion
  names := ⟨"Both", ["Full"], false⟩
  item := List.mem_of_getElem? (i := 1) rfl
  found := by decide +kernel

/-- The parameter for the result hides the union from its own match function, and the other union has two parameters
with one name. -/
theorem captured_not_fresh :
    (∃ contract outputs text, captured.outputs = contract :: outputs ∧
      readMatchOf.run contract.source.toList = some (text, []) ∧
      text.parameters = ["R"] ∧ text.value = ⟨"R", []⟩ ∧ ¬ text.Fresh) ∧
    ∃ contract outputs text, exhausting.outputs = contract :: outputs ∧
      readMatchOf.run contract.source.toList = some (text, []) ∧
      text.parameters = ["R", "Result", "Out", "MatchResult", "MatchResult"] ∧ ¬ text.Fresh := by
  have valid : Config.validate {} = .ok () := by decide +kernel
  constructor
  · obtain ⟨contract, outputs, emitted, reads⟩ := captured.exists_matchFunction valid
    refine ⟨contract, outputs, captured.matchText, emitted, reads, rfl, rfl, fun fresh => ?_⟩
    exact fresh.value rfl
  · obtain ⟨contract, outputs, emitted, reads⟩ := exhausting.exists_matchFunction valid
    refine ⟨contract, outputs, exhausting.matchText, emitted, reads, by decide, fun fresh => ?_⟩
    exact absurd fresh.parameters_nodup (by decide)

end SchemaBindings.Go
