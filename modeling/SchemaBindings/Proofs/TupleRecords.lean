import SchemaBindings.Proofs.Accounting
import SchemaBindings.Proofs.LeftOutModules
import SchemaBindings.Proofs.StrictRuns
import SchemaBindings.Proofs.TupleTexts

/-!
# Tuple records of a run

A run that succeeds emits one record for each arity that occurs in a declaration that it renders, and no other
(`generate_tuples`).

* The arities are told by the declarations of the document as they are written (`Declaration.UsesTuple`); resolution
  keeps them (`usesTuple_iff`).
* A declaration with a tuple that is too large is not rendered, and it is reported, or a module around it is
  (`exists_report_of_not_rendered`).
* No other output stands in the module of the records (`filter_runOutputs`).
-/

namespace SchemaBindings

open Candidate Declaration

/-! ## Tuples in a declaration -/

/-- A tuple of `n` elements occurs in a type of the declaration, at any depth. -/
def Declaration.UsesTuple {ν κ : Type} (d : Declaration (SchemaType ν) κ) (n : Nat) : Prop :=
  ∃ t ∈ d.types, ∃ elements, .tuple elements ∈ t.walk ∧ elements.length = n

theorem usesTuple_iff_exists {ν κ : Type} {d : Declaration (SchemaType ν) κ} {n : Nat} :
    d.UsesTuple n ↔ ∃ t ∈ d.types, n ∈ t.arities := by
  simp only [UsesTuple, SchemaType.mem_arities]

theorem mem_arities_iff_usesTuple {d : SchemaDeclaration} {n : Nat} : n ∈ d.arities ↔ d.UsesTuple n := by
  rw [Declaration.mem_arities, usesTuple_iff_exists]

/-- Resolution keeps the tuples of a declaration. -/
theorem Document.ResolvesTo.usesTuple_iff {document : Document} {m : ModulePath} {d : DeclarationExpr}
    {d' : SchemaDeclaration} (resolves : document.ResolvesTo m d d') {n : Nat} :
    d'.UsesTuple n ↔ d.UsesTuple n := by
  rw [usesTuple_iff_exists, usesTuple_iff_exists, resolves.types_eq]
  simp only [List.mem_map, exists_exists_and_eq_and, Document.resolved, SchemaType.arities_rename]

theorem isModule_of_usesTuple {ν κ : Type} {d : Declaration (SchemaType ν) κ} {n : Nat} (uses : d.UsesTuple n) :
    d.isModule = false := by
  obtain ⟨t, type, -⟩ := uses
  cases d with
  | module _ _ _ => exact absurd type List.not_mem_nil
  | _ => rfl

theorem check_eq_ok_iff {max n : Nat} : TupleArena.check ⟨max, []⟩ n = .ok () ↔ 2 ≤ n ∧ n ≤ max := by
  unfold TupleArena.check
  split
  · next small => exact ⟨fun checked => absurd checked (by simp), fun within => absurd within.1 (Nat.not_le.2 small)⟩
  split
  · next large => exact ⟨fun checked => absurd checked (by simp), fun within => absurd within.2 (Nat.not_le.2 large)⟩
  · next long short => exact ⟨fun _ => ⟨Nat.not_lt.1 long, Nat.not_lt.1 short⟩, fun _ => rfl⟩

/-! ## Outputs and failures -/

section

variable {document : Document} {config : Config} {g : Generation}

/-- In the module of the records nothing else is emitted. -/
theorem filter_runOutputs (target : TargetName) (tuples : List TupleRecord) (r : Resolved) :
    let names := runNames target.target config r
    (runOutputs target.target config names tuples (plan target.target config names r)).filter
        (·.module = tuplesModule) = tuples.map target.target.tupleOutput := by
  intro names
  have naming := target.namesOutputs
  have records : ∀ o ∈ tuples.map target.target.tupleOutput, decide (o.module = tuplesModule) = true :=
    List.forall_mem_map.2 fun t _ => decide_eq_true (congrArg Prod.fst (naming.tuples t))
  have others : ∀ o ∈ (plan target.target config names r).flatMap (·.outputs target.target config names),
      ¬ decide (o.module = tuplesModule) = true := by
    intro o emitted inside
    obtain ⟨c, member, emitted⟩ := List.mem_flatMap.1 emitted
    refine outputs_outside_tuples naming member emitted ?_
    rw [of_decide_eq_true inside]
    rfl
  rw [runOutputs, List.filter_append, List.filter_eq_self.2 records, List.filter_eq_nil_iff.2 others, List.append_nil]

/-- What has a fate that is a failure is reported. -/
theorem mem_failures_of_fate {fate : Site → Fate}
    (failures : g.failures = document.sites.filterMap (fun s => s.report (fate s).rejection?) ++
      lateFailures document config fate)
    {s : Site} (member : s ∈ document.sites) {fault : Fault}
    (failed : fate s = .rejected fault ∨ fate s = .failed fault) : ⟨s.path, fault⟩ ∈ g.failures := by
  rw [failures, lateFailures]
  rcases failed with rejected | failed
  · refine List.mem_append_left _ (List.mem_filterMap.2 ⟨s, member, ?_⟩)
    rw [rejected]
    rfl
  · refine List.mem_append_right _ (List.mem_append_right _ (List.mem_filterMap.2 ⟨s, member, ?_⟩))
    rw [failed]
    rfl

/-- A declaration that is not rendered is reported, or a module around it is. -/
theorem exists_report_of_not_rendered {fate : Site → Fate}
    (settled : ∀ s ∈ document.sites, Settled document config s (fate s))
    (failures : g.failures = document.sites.filterMap (fun s => s.report (fate s).rejection?) ++
      lateFailures document config fate)
    {s : Site} (member : s ∈ document.sites) (isItem : s.declaration.isModule = false)
    (out : ∀ d own, fate s ≠ .rendered d own) :
    ∃ t ∈ document.sites, (t = s ∨ t.declaration.isModule = true ∧ t.path.segments <+: s.module) ∧
      ∃ fault, ⟨t.path, fault⟩ ∈ g.failures := by
  cases hidden : s.hidden with
  | true =>
    obtain ⟨t, around, leaves, prefixed⟩ := exists_leftOut member hidden
    obtain ⟨fault, rejected⟩ := (settled t around).rejected_of_leavesOut leaves
    exact ⟨t, around, .inr ⟨leaves.isModule, prefixed⟩, fault, mem_failures_of_fate failures around (.inl rejected)⟩
  | false =>
    rcases (settled s member).cases_of_visible hidden isItem with
      ⟨fault, rejected⟩ | ⟨fault, failed⟩ | ⟨d, own, rendered⟩
    · exact ⟨s, member, .inl rfl, fault, mem_failures_of_fate failures member (.inl rejected)⟩
    · exact ⟨s, member, .inl rfl, fault, mem_failures_of_fate failures member (.inr failed)⟩
    · exact absurd rendered (out d own)

end

/-! ## The records of a run -/

/-- What a run emits for the tuples of a document, by the fates of its declarations. -/
structure RecordsTuples (document : Document) (config : Config) (g : Generation) (fate : Site → Fate)
    (arities : List Nat) : Prop where
  settled : ∀ s ∈ document.sites, Settled document config s (fate s)
  outputs : g.outputs = arities.map (fun n => config.target.target.tupleOutput (.ofArity n)) ++
    document.sites.flatMap fun s => s.outputs document config (fate s)
  /-- The other outputs stand in other modules. -/
  records : g.outputs.filter (·.module = tuplesModule) =
    arities.map fun n => config.target.target.tupleOutput (.ofArity n)
  ascending : arities.Pairwise (· < ·)
  used : ∀ n, n ∈ arities ↔
    ∃ s ∈ document.sites, (∃ d own, fate s = .rendered d own) ∧ s.declaration.UsesTuple n
  bounds : ∀ n ∈ arities, 2 ≤ n ∧ n ≤ config.maxTupleArity
  /-- A record is called after its arity, and its source is read as that of a tuple with as many elements. -/
  texts : ∀ n ∈ arities,
    let record := config.target.target.tupleOutput (.ofArity n)
    record.identifier = "Tuple" ++ toString n ∧ ∃ text types,
      (config.target.readRecord types).run record.source.toList = some (text, []) ∧
        text.IsTuple config.target n types
  /-- A declaration with a larger tuple fails: it is reported, or a module around it is. -/
  large : ∀ s ∈ document.sites, ∀ n, s.declaration.UsesTuple n → config.maxTupleArity < n →
    (∀ d own, fate s ≠ .rendered d own) ∧
      ∃ t ∈ document.sites, (t = s ∨ t.declaration.isModule = true ∧ t.path.segments <+: s.module) ∧
        ∃ fault, ⟨t.path, fault⟩ ∈ g.failures

/-- The arities that a run has requested are those of the tuples in what it renders. -/
theorem mem_requested_iff {document : Document} {config : Config} {arena : TupleArena}
    {final : SchemaItem → Except Fault DeclarationNames}
    (requested : requestTuples ⟨config.maxTupleArity, []⟩ (plan config.target.target config
      (runNames config.target.target config document.resolve) document.resolve) = .ok arena)
    (planned : plan config.target.target config (runNames config.target.target config document.resolve)
      document.resolve = document.resolve.items.map fun i => ⟨i, final i⟩) (n : Nat) :
    n ∈ arena.arities ↔ ∃ s ∈ document.sites,
      (∃ d own, s.fate document.symbols final = .rendered d own) ∧ s.declaration.UsesTuple n := by
  rw [mem_requestTuples requested, planned, mentioned_iff, or_iff_left List.not_mem_nil]
  refine exists_congr fun s => and_congr_right fun member => ?_
  have settled := settled_fate planned member
  constructor
  · rintro ⟨d, own, fate, mentioned⟩
    rw [fate] at settled
    cases settled with
    | rendered survives _ =>
      exact ⟨⟨d, own, fate⟩, survives.resolves.usesTuple_iff.1 (mem_arities_iff_usesTuple.1 mentioned)⟩
  · rintro ⟨⟨d, own, fate⟩, uses⟩
    rw [fate] at settled
    cases settled with
    | rendered survives _ => exact ⟨d, own, fate, mem_arities_iff_usesTuple.2 (survives.resolves.usesTuple_iff.2 uses)⟩

/-- What is requested has passed its check. -/
theorem bounds_of_requested {target : Target} {config : Config} {names : NameTable} {r : Resolved} {arena : TupleArena}
    (requested : requestTuples ⟨config.maxTupleArity, []⟩ (plan target config names r) = .ok arena) :
    ∀ n ∈ arena.arities, 2 ≤ n ∧ n ≤ config.maxTupleArity := by
  intro n asked
  rcases (mem_requestTuples requested n).1 asked with ⟨c, member, ready, mentioned⟩ | before
  · obtain ⟨own, -, -, checked, -⟩ := status_of_mem_plan member ready
    exact check_eq_ok_iff.1 (checked n mentioned)
  · exact absurd before List.not_mem_nil

/-- A run that succeeds emits exactly one record for each arity that occurs in what it renders, in ascending order. -/
theorem generate_tuples {document : Document} {config : Config} {g : Generation}
    (generated : generate config document.resolve = .ok g) :
    ∃ fate arities, RecordsTuples document config g fate arities := by
  let target := config.target.target
  let names := runNames target config document.resolve
  obtain ⟨arena, requested, ascending⟩ := exists_planned_tuples target config names document.resolve
  obtain ⟨outputs, found⟩ := eq_of_generateFor generated requested
  obtain ⟨final, planned⟩ := plan_eq_final target config names document.resolve
  have settled : ∀ s ∈ document.sites, Settled document config s (s.fate document.symbols final) :=
    fun s => settled_fate planned
  have failures : g.failures =
      document.sites.filterMap (fun s => s.report (s.fate document.symbols final).rejection?) ++
        lateFailures document config (Site.fate document.symbols final) := by
    rw [found, runFailures, planned, failures_eq, rejections_eq document final, List.append_assoc]
    rfl
  have used := mem_requested_iff requested planned
  have bounds := bounds_of_requested requested
  refine ⟨Site.fate document.symbols final, arena.arities, settled, ?_, ?_, ascending.arities, used, bounds, ?_, ?_⟩
  · rw [outputs, runOutputs, planned, outputs_eq, TupleArena.records, List.map_map]
    rfl
  · rw [outputs, filter_runOutputs, TupleArena.records, List.map_map]
    rfl
  · intro n asked
    have filled : n ≠ 0 := Nat.ne_of_gt (Nat.lt_of_lt_of_le Nat.two_pos (bounds n asked).1)
    exact ⟨congrArg Prod.snd (config.target.namesOutputs.tuples (.ofArity n)),
      _, _, config.target.readRecord_tupleOutput filled, config.target.tupleText_isTuple n⟩
  · intro s member n uses large
    have out : ∀ d own, s.fate document.symbols final ≠ .rendered d own := fun d own rendered =>
      absurd (bounds n ((used n).2 ⟨s, member, ⟨d, own, rendered⟩, uses⟩)).2 (Nat.not_le.2 large)
    exact ⟨out, exists_report_of_not_rendered settled failures member (isModule_of_usesTuple uses) out⟩

/-- Tuples of two and three elements in a struct, larger ones in a struct that fails for them, in one that refers to it,
and in two modules that import each other. -/
def nestedDocument : Document :=
  ⟨[.struct ⟨"A", [], [⟨"x", .list (.tuple [.scalar .u8, .tuple (List.replicate 3 (.scalar .u8))]), none⟩], none⟩,
    .struct ⟨"Large", [], [⟨"x", .tuple (List.replicate 13 (.scalar .u8)), none⟩], none⟩,
    .struct ⟨"Late", [], [⟨"x", .tuple (List.replicate 4 (.scalar .u8)), none⟩, ⟨"y", .named "Large" [], none⟩], none⟩,
    .module "p" none
      [.struct ⟨"P", [], [⟨"x", .tuple (List.replicate 5 (.scalar .u8)), none⟩, ⟨"y", .named "q::Q" [], none⟩], none⟩],
    .module "q" none [.struct ⟨"Q", [], [⟨"x", .option (.named "p::P" []), none⟩], none⟩]]⟩

theorem nested_tuples :
    ∃ g fate, generate {} nestedDocument.resolve = .ok g ∧ RecordsTuples nestedDocument {} g fate [2, 3] ∧
      g.failures.map (·.path.text) = ["Large", "Late", "p::P", "q::Q"] ∧
      g.outputs.map (·.identifier) = ["Tuple2", "Tuple3", "A"] := by
  have returned : (generate {} nestedDocument.resolve).toOption.map (fun g =>
      ((g.outputs.filter (·.module = tuplesModule)).map (·.identifier), g.failures.map (·.path.text),
        g.outputs.map (·.identifier))) =
      some (["Tuple2", "Tuple3"], ["Large", "Late", "p::P", "q::Q"], ["Tuple2", "Tuple3", "A"]) := by
    decide +kernel
  cases run : generate {} nestedDocument.resolve with
  | error fault =>
    rw [run] at returned
    exact absurd returned (by simp [Except.toOption])
  | ok g =>
    rw [run] at returned
    obtain ⟨records, rest⟩ := Prod.mk.inj (Option.some.inj returned)
    obtain ⟨failures, outputs⟩ := Prod.mk.inj rest
    obtain ⟨fate, arities, tuples⟩ := generate_tuples run
    rw [tuples.records, List.map_map] at records
    have two : arities = [2, 3] := List.map_injective_iff.2 (fun _ _ => tupleName_injective) records
    exact ⟨g, fate, rfl, two ▸ tuples, failures, outputs⟩

end SchemaBindings
