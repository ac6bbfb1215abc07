import SchemaBindings.Proofs.Acceptance
import SchemaBindings.Proofs.Plan
import SchemaBindings.Proofs.TextPieces

/-!
# Outputs of a run

What a run emits, apart from the texts.

* Both targets name the outputs of a declaration as the table does (`Target.NamesOutputs`).
* The tuples of a plan are all within bounds, so a run that is not strict always succeeds
  (`exists_generateFor_of_lenient`), with one record per arity.
* `generate_outputs_distinct`: no two outputs have the same module and identifier.
-/

namespace SchemaBindings

open Candidate

/-! ## Names of outputs -/

/-- The module and the identifier of an output. -/
def Output.place (o : Output) : ModulePath × String :=
  (o.module, o.identifier)

/-- The target puts each output of a declaration in its module under one of its names in the table, the first
of them under the declared name, and a tuple record under its own name in the module of the records. -/
structure Target.NamesOutputs (target : Target) : Prop where
  declared : ∀ cx d own, d.isModule = false →
    ∃ o ∈ target.render cx d own, o.place = (cx.module, own.identifier)
  emitted : ∀ cx d own, ((target.render cx d own).map Output.place).Sublist
    ((own.identifier :: own.variants).map (cx.module, ·))
  tuples : ∀ t, (target.tupleOutput t).place = (tuplesModule, t.name)

theorem map_snd_zip_sublist {α β γ : Type} (f : β → γ) (as : List α) (bs : List β) :
    ((as.zip bs).map fun x => f x.2).Sublist (bs.map f) := by
  induction as generalizing bs with
  | nil => exact List.nil_sublist _
  | cons a as ih =>
    cases bs with
    | nil => exact .slnil
    | cons b bs => exact (ih bs).cons_cons _

/-- It is enough to know where each kind of declaration goes; a union has one output more than named variants. -/
theorem Target.namesOutputs_of {target : Target}
    (structs : ∀ cx s identifier, (target.structOutput cx s identifier).place = (cx.module, identifier))
    (aliases : ∀ cx a identifier, (target.aliasOutput cx a identifier).place = (cx.module, identifier))
    (constants : ∀ cx c identifier,
      (target.constantOutput cx c identifier).place = (cx.module, identifier))
    (unions : ∀ cx u own, (target.unionOutputs cx u own).map Output.place =
      (cx.module, own.identifier) :: (u.variants.zip own.variants).map fun x => (cx.module, x.2))
    (tuples : ∀ t, (target.tupleOutput t).place = (tuplesModule, t.name)) :
    target.NamesOutputs := by
  refine ⟨fun cx d own isItem => ?_, fun cx d own => ?_, tuples⟩
  · cases d with
    | struct s => exact ⟨_, List.mem_cons_self, structs cx s own.identifier⟩
    | union u =>
      have first : (cx.module, own.identifier) ∈ (target.unionOutputs cx u own).map Output.place := by
        rw [unions]
        exact List.mem_cons_self
      exact List.mem_map.1 first
    | typeAlias a => exact ⟨_, List.mem_cons_self, aliases cx a own.identifier⟩
    | const c => exact ⟨_, List.mem_cons_self, constants cx c own.identifier⟩
    | module _ _ _ => exact absurd isItem (by simp [Declaration.isModule])
  · cases d with
    | struct s =>
      rw [render, List.map_singleton, structs]
      exact (List.nil_sublist _).cons_cons _
    | union u =>
      rw [render, unions, List.map_cons]
      exact (map_snd_zip_sublist (cx.module, ·) u.variants own.variants).cons_cons _
    | typeAlias a =>
      rw [render, List.map_singleton, aliases]
      exact (List.nil_sublist _).cons_cons _
    | const c =>
      rw [render, List.map_singleton, constants]
      exact (List.nil_sublist _).cons_cons _
    | module _ _ _ => exact List.nil_sublist _

theorem go_namesOutputs : Go.target.NamesOutputs := by
  refine Target.namesOutputs_of (fun _ _ _ => rfl) (fun _ _ _ => rfl) (fun _ _ _ => rfl) ?_ fun _ => rfl
  intro cx u own
  show (Go.unionOutputs cx u own).map Output.place = _
  simp [Go.unionOutputs, Output.place]

theorem rust_namesOutputs : Rust.target.NamesOutputs := by
  refine Target.namesOutputs_of (fun _ _ _ => rfl) (fun _ _ _ => rfl) (fun _ _ _ => rfl) ?_ fun _ => rfl
  intro cx u own
  show (Rust.unionOutputs cx u own).map Output.place = _
  simp [Rust.unionOutputs, Output.place]

theorem TargetName.namesOutputs : ∀ name : TargetName, name.target.NamesOutputs
  | go => go_namesOutputs
  | rust => rust_namesOutputs

theorem tupleName_injective {a b : Nat} (same : tupleName a = tupleName b) : a = b :=
  Text.toString_injective ((String.append_right_inj "Tuple").1 same)

/-! ## Tuple records -/

theorem insertOrdered_pairwise {α : Type} [DecidableEq α] {precedes : α → α → Bool} {a : α}
    {s : List α} (trans : ∀ a b c, precedes a b → precedes b c → precedes a c)
    (total : ∀ a b, a ≠ b → precedes a b = false → precedes b a)
    (ascending : s.Pairwise (precedes · ·)) : (insertOrdered precedes a s).Pairwise (precedes · ·) := by
  induction s with
  | nil => exact List.pairwise_singleton _ a
  | cons b rest ih =>
    obtain ⟨least, rest'⟩ := List.pairwise_cons.1 ascending
    unfold insertOrdered
    split
    · exact ascending
    · next differ =>
      split
      · next before =>
        refine List.pairwise_cons.2 ⟨List.forall_mem_cons.2 ⟨before, fun c member => ?_⟩, ascending⟩
        exact trans a b c before (least c member)
      -- The new element goes further down, and whatever stands there comes after the first one.
      · next after =>
        refine List.pairwise_cons.2 ⟨fun c member => ?_, ih rest'⟩
        rcases mem_insertOrdered.1 member with rfl | later
        · exact total c b differ (by simpa using after)
        · exact least c later

/-- An ordered set is in ascending order. -/
theorem ordered_pairwise {α : Type} [DecidableEq α] {precedes : α → α → Bool}
    (trans : ∀ a b c, precedes a b → precedes b c → precedes a c)
    (total : ∀ a b, a ≠ b → precedes a b = false → precedes b a) (as : List α) :
    (ordered precedes as).Pairwise (precedes · ·) := by
  induction as with
  | nil => exact List.Pairwise.nil
  | cons a as ih => exact insertOrdered_pairwise trans total ih

theorem string_trans (a b c : String) : decide (a < b) = true → decide (b < c) = true → decide (a < c) = true := by
  simp only [decide_eq_true_eq]
  exact String.lt_trans

theorem string_total (a b : String) (differ : a ≠ b) (after : decide (a < b) = false) : decide (b < a) = true := by
  rw [decide_eq_false_iff_not] at after
  exact decide_eq_true (Decidable.byContradiction fun before =>
    differ (String.le_antisymm (String.not_lt.1 before) (String.not_lt.1 after)))

theorem orderedStrings_ascending (texts : List String) : (orderedStrings texts).Pairwise (· < ·) :=
  (ordered_pairwise string_trans string_total texts).imp of_decide_eq_true

/-- The arities of an arena in ascending order, under its ceiling. -/
structure TupleArena.Ascending (max : Nat) (arena : TupleArena) : Prop where
  max : arena.max = max
  arities : arena.arities.Pairwise (· < ·)

theorem request_eq_ok {arena : TupleArena} {max arity : Nat} (ascending : arena.Ascending max)
    (checked : TupleArena.check ⟨max, []⟩ arity = .ok ()) :
    ∃ arena' record, arena.request arity = .ok (arena', record) ∧ arena'.Ascending max := by
  have checked' : arena.check arity = .ok () := by
    rw [← checked, TupleArena.check, TupleArena.check, ascending.max]
  refine ⟨⟨arena.max, insertOrdered (fun a b => decide (a < b)) arity arena.arities⟩, .ofArity arity, ?_,
    ascending.max, ?_⟩
  · rw [TupleArena.request, checked']
    rfl
  have total : ∀ a b : Nat, a ≠ b → decide (a < b) = false → decide (b < a) = true := by
    intro a b differ after
    rw [decide_eq_false_iff_not] at after
    rw [decide_eq_true_iff]
    omega
  have sorted := insertOrdered_pairwise (a := arity) (s := arena.arities)
    (fun a b c => by simpa using Nat.lt_trans) total (by simpa using ascending.arities)
  simpa using sorted

/-- The records of checked tuples can all be requested. -/
theorem exists_requestTuples {arena : TupleArena} {max : Nat} {cs : List Candidate}
    (ascending : arena.Ascending max)
    (checked : ∀ c ∈ cs, c.isReady = true → ∀ arity ∈ c.item.declaration.arities,
      TupleArena.check ⟨max, []⟩ arity = .ok ()) :
    ∃ arena', requestTuples arena cs = .ok arena' ∧ arena'.Ascending max := by
  refine exists_foldlM_eq_ok (fun arena ascending c member => ?_) ascending
  obtain ⟨member, ready⟩ := List.mem_filter.1 member
  refine exists_foldlM_eq_ok (fun arena ascending arity mentioned => ?_) ascending
  obtain ⟨arena', record, requested, ascending'⟩ :=
    request_eq_ok ascending (checked c member ready arity mentioned)
  exact ⟨arena', by rw [requestTuple, requested], ascending'⟩

/-! ## Runs -/

section

variable {target : Target} {config : Config} {r : Resolved}

theorem exists_planned_tuples (target : Target) (config : Config) (names : NameTable) (r : Resolved) :
    ∃ arena, requestTuples ⟨config.maxTupleArity, []⟩ (plan target config names r) = .ok arena ∧
      arena.Ascending config.maxTupleArity := by
  refine exists_requestTuples ⟨rfl, List.Pairwise.nil⟩ fun c member ready => ?_
  obtain ⟨own, -, -, checked, -⟩ := status_of_mem_plan member ready
  exact checked

/-- What a run that succeeds has emitted: one record per arity, and then the outputs of its plan. -/
theorem outputs_of_generateFor {g : Generation} (generated : generateFor target config r = .ok g) :
    ∃ arena : TupleArena, arena.Ascending config.maxTupleArity ∧
      g.outputs = runOutputs target config (runNames target config r) arena.records
        (plan target config (runNames target config r) r) := by
  obtain ⟨arena, requested, ascending⟩ :=
    exists_planned_tuples target config (runNames target config r) r
  refine ⟨arena, ascending, ?_⟩
  unfold generateFor at generated
  rw [bind_eq_ok, exists_unit_iff] at generated
  obtain ⟨-, generated⟩ := generated
  dsimp only at generated
  split at generated
  · exact absurd generated throw_ne_ok
  · rw [requested] at generated
    cases generated
    rfl

/-- A run that succeeds has emitted the outputs of each candidate. -/
theorem mem_outputs_of_mem_plan {g : Generation} (generated : generateFor target config r = .ok g) {c : Candidate}
    (member : c ∈ plan target config (runNames target config r) r) {o : Output}
    (emitted : o ∈ c.outputs target config (runNames target config r)) : o ∈ g.outputs := by
  obtain ⟨arena, -, outputs⟩ := outputs_of_generateFor generated
  rw [outputs, runOutputs]
  exact List.mem_append_right _ (List.mem_flatMap.2 ⟨c, member, emitted⟩)

/-- A run that succeeds has a valid configuration, and its files hold its outputs. -/
theorem files_of_generateFor {g : Generation} (generated : generateFor target config r = .ok g) :
    config.validate = .ok () ∧ g.files = target.assemble config g.outputs r.moduleComments := by
  unfold generateFor at generated
  rw [bind_eq_ok, exists_unit_iff] at generated
  obtain ⟨valid, generated⟩ := generated
  constructor
  · cases checked : config.validate with
    | ok _ => rfl
    | error fault =>
      rw [checked] at valid
      exact absurd valid (by simp [Except.mapError])
  · dsimp only at generated
    split at generated
    · exact absurd generated throw_ne_ok
    · obtain ⟨arena, -, generated⟩ := bind_eq_ok.1 generated
      cases generated
      rfl

/-- The separator of a valid configuration keeps names together, and the package is an identifier. -/
theorem names_of_validate (valid : config.validate = .ok ()) :
    isSeparator config.separator ∧ isIdentifier config.package := by
  unfold Config.validate at valid
  split at valid
  · exact absurd valid (by simp)
  split at valid
  · exact absurd valid (by simp)
  · next separator =>
    split at valid
    · exact absurd valid (by simp)
    · next package => exact ⟨by simpa using separator, by simpa using package⟩

/-- A run that is not strict ends with an output. -/
theorem exists_generateFor_of_lenient (target : Target) (r : Resolved)
    (valid : config.validate = .ok ()) (lenient : config.strict = false) :
    ∃ g, generateFor target config r = .ok g := by
  obtain ⟨arena, requested, -⟩ := exists_planned_tuples target config (runNames target config r) r
  unfold generateFor
  rw [valid, lenient]
  dsimp only
  rw [requested]
  exact ⟨_, rfl⟩

/-! ## Distinct outputs -/

theorem place_of_mem_outputs (naming : target.NamesOutputs) {names : NameTable} {c : Candidate}
    {place : ModulePath × String}
    (emitted : place ∈ (c.outputs target config names).map Output.place) :
    ∃ own, c.status = .ok own ∧ place.1 = c.item.module ∧ place.2 ∈ own.identifier :: own.variants := by
  unfold outputs at emitted
  cases status : c.status with
  | error fault =>
    rw [status] at emitted
    exact absurd emitted List.not_mem_nil
  | ok own =>
    rw [status] at emitted
    have listed := (naming.emitted _ _ _).subset emitted
    obtain ⟨name, named, rfl⟩ := List.mem_map.1 listed
    exact ⟨own, rfl, rfl, named⟩

theorem outputs_places_nodup (naming : target.NamesOutputs) {c : Candidate}
    (member : c ∈ plan target config (runNames target config r) r) :
    ((c.outputs target config (runNames target config r)).map Output.place).Nodup := by
  cases ready : c.isReady with
  | false =>
    obtain ⟨fault, status⟩ := not_isReady_iff.1 ready
    rw [outputs, status]
    exact List.nodup_nil
  | true =>
    obtain ⟨own, status, -, -, found⟩ := status_of_mem_plan member ready
    rw [outputs, status]
    refine (naming.emitted _ _ _).nodup ((emitted_nodup found).map fun _ _ same => ?_)
    exact (Prod.mk.inj same).2

/-- Two declarations of a plan with different paths have no output in common. -/
theorem outputs_places_disjoint (naming : target.NamesOutputs) {c d : Candidate}
    (member : c ∈ plan target config (runNames target config r) r)
    (member' : d ∈ plan target config (runNames target config r) r) (differ : c.path ≠ d.path) :
    ((c.outputs target config (runNames target config r)).map Output.place).Disjoint
      ((d.outputs target config (runNames target config r)).map Output.place) := by
  intro place emitted emitted'
  obtain ⟨own, status, module, named⟩ := place_of_mem_outputs naming emitted
  obtain ⟨other, status', module', named'⟩ := place_of_mem_outputs naming emitted'
  obtain ⟨_, status₁, -, -, found⟩ := status_of_mem_plan member (isReady_iff.2 ⟨own, status⟩)
  obtain ⟨_, status₂, -, -, found'⟩ := status_of_mem_plan member' (isReady_iff.2 ⟨other, status'⟩)
  cases status.symm.trans status₁
  cases status'.symm.trans status₂
  have sameModule : c.path.module = d.path.module := by
    rw [path, path, path_module, path_module, ← module, ← module']
  exact emitted_disjoint found found' sameModule differ named named'

theorem tuples_places_nodup (naming : target.NamesOutputs) {max : Nat} {arena : TupleArena}
    (ascending : arena.Ascending max) :
    ((arena.records.map target.tupleOutput).map Output.place).Nodup := by
  have places : (arena.records.map target.tupleOutput).map Output.place =
      arena.arities.map fun arity => (tuplesModule, tupleName arity) := by
    rw [TupleArena.records, List.map_map, List.map_map]
    exact List.map_congr_left fun arity _ => naming.tuples (.ofArity arity)
  rw [places]
  have distinct : arena.arities.Nodup := ascending.arities.imp Nat.ne_of_lt
  exact distinct.map fun _ _ same => tupleName_injective (Prod.mk.inj same).2

theorem outputs_outside_tuples (naming : target.NamesOutputs) {c : Candidate}
    (member : c ∈ plan target config (runNames target config r) r) {o : Output}
    (emitted : o ∈ c.outputs target config (runNames target config r)) :
    (o.module.map target.conventions.moduleName).head? ≠
      some (target.conventions.moduleName tuplesModuleName) := by
  intro taken
  obtain ⟨own, status, module, -⟩ := place_of_mem_outputs naming (List.mem_map_of_mem emitted)
  rw [List.head?_map, Option.map_eq_some_iff] at taken
  obtain ⟨segment, first, taken⟩ := taken
  obtain ⟨rest, place⟩ := List.head?_eq_some_iff.1 first
  exact moduleName_ne_tuples member (isReady_iff.2 ⟨own, status⟩) (module.symm.trans place) taken

theorem declared_places_nodup (naming : target.NamesOutputs)
    (paths : ((plan target config (runNames target config r) r).map (·.path)).Nodup) :
    (((plan target config (runNames target config r) r).flatMap
      (·.outputs target config (runNames target config r))).map Output.place).Nodup := by
  rw [List.map_flatMap, List.nodup_flatMap]
  refine ⟨fun c member => outputs_places_nodup naming member, ?_⟩
  exact (List.pairwise_map.1 paths).imp_of_mem fun member member' differ =>
    outputs_places_disjoint naming member member' differ

end

theorem plan_paths_nodup (target : Target) (config : Config) (names : NameTable)
    (document : Document) :
    ((plan target config names document.resolve).map (·.path)).Nodup := by
  have items : (plan target config names document.resolve).map (·.path) =
      ((plan target config names document.resolve).map (·.item)).map Item.path := by
    rw [List.map_map]
    rfl
  rw [items, plan_items]
  exact document.resolve_items_paths_nodup

/-- The outputs of a run are those of its tuple records and of the declarations of its plan. No two of them have the
same module and identifier, and no declaration is emitted in the module of the tuple records or below it. -/
theorem generate_outputs_distinct {document : Document} {config : Config} {g : Generation}
    (generated : generate config document.resolve = .ok g) :
    let target := config.target.target
    let names := runNames target config document.resolve
    let cs := plan target config names document.resolve
    (∃ tuples, g.outputs = runOutputs target config names tuples cs) ∧
      (g.outputs.map fun o => (o.module, o.identifier)).Nodup ∧
      ∀ c ∈ cs, ∀ o ∈ c.outputs target config names,
        (o.module.map target.conventions.moduleName).head? ≠
          some (target.conventions.moduleName tuplesModuleName) := by
  intro target names cs
  have naming : target.NamesOutputs := config.target.namesOutputs
  obtain ⟨arena, ascending, outputs⟩ := outputs_of_generateFor generated
  refine ⟨⟨_, outputs⟩, ?_, fun c member o => outputs_outside_tuples naming member⟩
  show (g.outputs.map Output.place).Nodup
  rw [outputs, runOutputs, List.map_append, List.nodup_append]
  refine ⟨tuples_places_nodup naming ascending,
    declared_places_nodup naming (plan_paths_nodup target config names document), ?_⟩
  rintro place tuple _ emitted rfl
  obtain ⟨o, record, rfl⟩ := List.mem_map.1 tuple
  obtain ⟨t, -, rfl⟩ := List.mem_map.1 record
  obtain ⟨o, emitted, same⟩ := List.mem_map.1 emitted
  obtain ⟨c, member, emitted⟩ := List.mem_flatMap.1 emitted
  refine outputs_outside_tuples naming member emitted ?_
  have module : o.module = tuplesModule := by
    rw [naming.tuples] at same
    exact congrArg Prod.fst same
  rw [module]
  rfl

/-- A struct, a variant and a constant of another module with the same name, and a tuple. -/
def crowdedDocument : Document :=
  ⟨[.struct ⟨"V", [], [⟨"x", .tuple [.scalar .u8, .scalar .u8], none⟩], none⟩,
    .union ⟨"U", [], [⟨"V", [], none⟩, ⟨"W", [], none⟩], none⟩,
    .module "m" none [.const ⟨"V", ⟨.u8, .int "1"⟩, none⟩]]⟩

theorem crowded_outputs_distinct :
    ∃ g, generate {} crowdedDocument.resolve = .ok g ∧
      (g.outputs.map fun o => (o.module, o.identifier)) =
        [(["tuples"], "Tuple2"), ([], "V"), ([], "U"), ([], "U_V"), ([], "U_W"), (["m"], "V")] ∧
      (g.outputs.map fun o => (o.module, o.identifier)).Nodup := by
  have places : (generate {} crowdedDocument.resolve).toOption.map
      (fun g => g.outputs.map fun o => (o.module, o.identifier)) =
        some [(["tuples"], "Tuple2"), ([], "V"), ([], "U"), ([], "U_V"), ([], "U_W"), (["m"], "V")] := by
    decide +kernel
  cases run : generate {} crowdedDocument.resolve with
  | error fault =>
    rw [run] at places
    exact absurd places (by simp [Except.toOption])
  | ok g =>
    rw [run] at places
    exact ⟨g, rfl, Option.some.inj places, (generate_outputs_distinct run).2.1⟩

end SchemaBindings
