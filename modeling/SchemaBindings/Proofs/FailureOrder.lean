import SchemaBindings.Proofs.EnteredModules
import SchemaBindings.Proofs.Fates
import SchemaBindings.Proofs.OrderedKeys
import SchemaBindings.Proofs.StrictRuns

/-!
# The order of failures

A run looks for failures in three stages (`Stage`): what resolution rejects, modules whose name is taken, and declarations
that cannot be generated. It reports the failures of a stage behind those of the stages before
(`generate_reports_by_stage`).

* The modules without a name stand in the order of their paths (`failedModules_paths`), each at one position of the walk
  over the document (`failedModules_perm`).
* The failures of the other two stages stand in the order of the walk (`filter_stage_precedes`).

So a run reports its failures in the order of the walk only if the walk meets them in the order of the stages.
-/

namespace SchemaBindings

open Declaration

/-! ## Modules without a name -/

namespace SchemaPath

theorem precedes_trans (p q r : SchemaPath) (first : p.precedes q) (second : q.precedes r) : p.precedes r :=
  decide_eq_true (List.lt_trans (of_decide_eq_true first) (of_decide_eq_true second))

theorem precedes_total (p q : SchemaPath) (differ : p ≠ q) (after : p.precedes q = false) : q.precedes p := by
  have before := List.le_iff_lt_or_eq.1 (List.not_lt.1 (of_decide_eq_false after))
  refine decide_eq_true (before.resolve_right fun same => differ ?_)
  cases p
  cases q
  exact congrArg SchemaPath.mk same.symm

theorem precedes_asymm {p q : SchemaPath} (before : p.precedes q) : q.precedes p = false :=
  decide_eq_false (List.lt_asymm (of_decide_eq_true before))

end SchemaPath

section

variable {conventions : Conventions} {reserved : List (String × String)} {modules : List ModulePath}

theorem claimModules_paths (ns : Namespace) (ms : List ModulePath) :
    ((claimModules conventions ns ms).map (·.1)).Sublist (ms.map SchemaPath.mk) := by
  induction ms generalizing ns with
  | nil => exact List.nil_sublist _
  | cons m ms ih =>
    unfold claimModules
    dsimp only
    split
    · exact (ih ns).cons_cons _
    · exact (ih _).cons _

/-- The modules without a name are listed in the order of their paths, each once. -/
theorem failedModules_paths (distinct : modules.Nodup) :
    ((failedModules conventions reserved modules).map (·.1)).Pairwise fun p q => p.precedes q := by
  have keys : ((modules.flatMap fun parent =>
      claimModules conventions (if parent = [] then .reserving reserved else {}) (childModules parent modules)).map
        (·.1)).Nodup := by
    rw [List.map_flatMap, List.nodup_flatMap]
    constructor
    · intro parent _
      exact ((distinct.filter _).map fun _ _ => SchemaPath.mk.inj).sublist (claimModules_paths _ _)
    -- The modules inside two different ones differ in the module around them.
    · refine distinct.imp fun differ p first second => differ ?_
      obtain ⟨m, child, rfl⟩ := List.mem_map.1 ((claimModules_paths _ _).subset first)
      obtain ⟨n, child', same⟩ := List.mem_map.1 ((claimModules_paths _ _).subset second)
      obtain rfl := SchemaPath.mk.inj same
      have around := (of_decide_eq_true (List.mem_filter.1 child).2).2
      exact around.symm.trans (of_decide_eq_true (List.mem_filter.1 child').2).2
  rw [failedModules, map_ordered keys]
  exact ordered_pairwise SchemaPath.precedes_trans SchemaPath.precedes_total _

end

/-! ## Stages -/

/-- When a run finds a failure. -/
inductive Stage where
  | resolution
  /-- Modules get their names. -/
  | naming
  | generation
deriving DecidableEq

/-- The turn of a stage. -/
def Stage.rank : Stage → Nat
  | resolution => 0
  | naming => 1
  | generation => 2

/-- A failure with its stage, and with the position of the declaration or the module in the walk over the document. -/
structure Report where
  position : Nat
  stage : Stage
  failure : DeclarationFailure
deriving DecidableEq

/-- Which of two failures a run reports first: that of the earlier stage. Modules stand in the order of their paths, and
the other failures of one stage in that of the walk. -/
inductive Report.Precedes (a b : Report) : Prop
  | stage : a.stage.rank < b.stage.rank → a.Precedes b
  | path : a.stage = .naming → b.stage = .naming → a.failure.path.precedes b.failure.path → a.Precedes b
  | position : a.stage = b.stage → a.stage ≠ .naming → a.position < b.position → a.Precedes b

theorem Report.Precedes.asymm {a b : Report} (first : a.Precedes b) (second : b.Precedes a) : False := by
  cases first with
  | stage earlier =>
    cases second with
    | stage later => exact Nat.lt_asymm earlier later
    | path last first _ =>
      rw [first, last] at earlier
      exact Nat.lt_irrefl _ earlier
    | position same _ _ =>
      rw [same] at earlier
      exact Nat.lt_irrefl _ earlier
  | path stage stage' before =>
    cases second with
    | stage later =>
      rw [stage, stage'] at later
      exact Nat.lt_irrefl _ later
    | path _ _ after => exact absurd after (by rw [SchemaPath.precedes_asymm before]; simp)
    | position _ other _ => exact other stage'
  | position same other before =>
    cases second with
    | stage later =>
      rw [same] at later
      exact Nat.lt_irrefl _ later
    | path _ stage _ => exact other stage
    | position _ _ after => exact Nat.lt_asymm before after

/-! ## Reports of a walk -/

section

variable (faults : Site → Option (Stage × Fault)) (sites : List Site)

def reportsOf : List Report :=
  sites.zipIdx.filterMap fun place =>
    (faults place.1).map fun found => ⟨place.2, found.1, ⟨place.1.path, found.2⟩⟩

theorem reportsOf_positions : (reportsOf faults sites).Pairwise fun a b => a.position < b.position := by
  have ascending : (sites.zipIdx.map Prod.snd).Pairwise (· < ·) := by
    rw [List.zipIdx_map_snd]
    exact List.pairwise_lt_range' 1
  refine List.pairwise_filterMap.2 ((List.pairwise_map.1 ascending).imp fun before a made b made' => ?_)
  obtain ⟨_, -, rfl⟩ := Option.map_eq_some_iff.1 made
  obtain ⟨_, -, rfl⟩ := Option.map_eq_some_iff.1 made'
  exact before

theorem reportsOf_nodup : (reportsOf faults sites).Nodup := by
  refine (reportsOf_positions faults sites).imp fun before => ?_
  rintro rfl
  exact Nat.lt_irrefl _ before

/-- The failures of one stage. -/
theorem reportsOf_stage (stage : Stage) :
    ((reportsOf faults sites).filter (·.stage = stage)).map (·.failure) =
      sites.filterMap fun s => s.report (((faults s).filter (·.1 = stage)).map (·.2)) := by
  have places : sites = sites.zipIdx.map Prod.fst := (List.zipIdx_map_fst 0 sites).symm
  conv_rhs => rw [places, List.filterMap_map]
  rw [reportsOf, List.filter_filterMap, List.map_filterMap]
  refine List.filterMap_congr fun place _ => ?_
  cases found : faults place.1 with
  | none => simp [found, Site.report]
  | some fault =>
    by_cases same : fault.1 = stage <;> simp [found, same, Site.report, Option.filter]

theorem filter_stages_perm (reports : List Report) :
    (reports.filter (·.stage = .resolution) ++ (reports.filter (·.stage = .naming) ++
      reports.filter (·.stage = .generation))).Perm reports := by
  induction reports with
  | nil => exact .refl _
  | cons report reports ih =>
    cases stage : report.stage with
    | resolution => simpa [stage] using ih
    | naming =>
      simp only [List.filter_cons, stage, reduceCtorEq, decide_false, decide_true, if_true, Bool.false_eq_true, if_false]
      exact List.perm_middle.trans (ih.cons report)
    | generation =>
      simp only [List.filter_cons, stage, reduceCtorEq, decide_false, decide_true, if_true, Bool.false_eq_true, if_false]
      rw [← List.append_assoc] at ih ⊢
      exact List.perm_middle.trans (ih.cons report)

end

/-! ## Reports of a run -/

/-- The stage at which a site with the given fate has failed, and its fault. A module that is entered fails if it has no
name. -/
def Site.fault? (names : NameTable) (s : Site) : Fate → Option (Stage × Fault)
  | .rejected fault => some (.resolution, fault)
  | .entered => (names.failedModules.lookup s.path).map (.naming, ·)
  | .failed fault => some (.generation, fault)
  | .unseen | .rendered _ _ => none

/-- The failures of a document, each at the position of its declaration or module in the walk. -/
def Document.reports (document : Document) (names : NameTable) (fate : Site → Fate) : List Report :=
  reportsOf (fun s => s.fault? names (fate s)) document.sites

section

variable (names : NameTable)

theorem fault?_resolution (s : Site) (fate : Fate) :
    ((s.fault? names fate).filter (·.1 = .resolution)).map (·.2) = fate.rejection? := by
  cases fate with
  | entered => cases found : names.failedModules.lookup s.path <;> simp [Site.fault?, found, Fate.rejection?]
  | _ => simp [Site.fault?, Fate.rejection?, Option.filter]

theorem fault?_generation (s : Site) (fate : Fate) :
    ((s.fault? names fate).filter (·.1 = .generation)).map (·.2) = fate.failure? := by
  cases fate with
  | entered => cases found : names.failedModules.lookup s.path <;> simp [Site.fault?, found, Fate.failure?]
  | _ => simp [Site.fault?, Fate.failure?, Option.filter]

theorem report_naming (table : List Symbol) (final : SchemaItem → Except Fault DeclarationNames) (s : Site) :
    s.report (((s.fault? names (s.fate table final)).filter (·.1 = .naming)).map (·.2)) =
      (s.entered? table).bind fun m => (names.failedModules.lookup ⟨m⟩).map fun fault => ⟨⟨m⟩, fault⟩ := by
  unfold Site.fate Site.entered?
  cases s.outcome table with
  | unseen => rfl
  | rejected fault => rfl
  | kept d =>
    dsimp only
    cases isModule : d.isModule with
    | true =>
      rw [if_pos rfl, if_pos rfl]
      show _ = (names.failedModules.lookup s.path).map fun fault => (⟨s.path, fault⟩ : DeclarationFailure)
      cases found : names.failedModules.lookup s.path <;> simp [Site.fault?, found, Site.report]
    | false =>
      rw [if_neg (by simp), if_neg (by simp)]
      cases final ⟨s.module, d⟩ <;> rfl

end

section

variable {conventions : Conventions} {policy : NamingPolicy} {separator : String}
  {reserved : List (String × String)} {document : Document}

theorem failedModules_nodup : ((NameTable.build conventions policy separator reserved
    document.resolve).failedModules.map (·.1)).Nodup := by
  refine (failedModules_paths document.modulePaths_nodup).imp fun {p _} before => ?_
  rintro rfl
  exact absurd before (by rw [SchemaPath.precedes_asymm before]; simp)

/-- A module without a name is one that the walk enters. -/
theorem mem_failedModules_iff {p : SchemaPath} {fault : Fault} :
    (p, fault) ∈ (NameTable.build conventions policy separator reserved document.resolve).failedModules ↔
      p.segments ∈ document.sites.filterMap (Site.entered? document.symbols) ∧
        (NameTable.build conventions policy separator reserved document.resolve).failedModules.lookup p =
          some fault := by
  rw [lookup_eq_some_iff failedModules_nodup]
  refine ⟨fun failed => ⟨?_, failed⟩, fun both => both.2⟩
  obtain ⟨m, kept, inside, path⟩ := mem_modules_of_mem_failedModules failed
  obtain rfl : p = ⟨m⟩ := path
  rw [document.modulePaths_eq] at kept
  exact (List.mem_cons.1 kept).resolve_left inside

/-- The modules of a document that have no name are those that the walk reports for it. -/
theorem failedModules_perm (final : SchemaItem → Except Fault DeclarationNames) :
    let names := NameTable.build conventions policy separator reserved document.resolve
    (((document.reports names (Site.fate document.symbols final)).filter (·.stage = .naming)).map (·.failure)).Perm
      (names.failedModules.map fun f => ⟨f.1, f.2⟩) := by
  intro names
  let failure (m : ModulePath) : Option DeclarationFailure :=
    (names.failedModules.lookup ⟨m⟩).map fun fault => ⟨⟨m⟩, fault⟩
  have listed : ((document.reports names (Site.fate document.symbols final)).filter (·.stage = .naming)).map
      (·.failure) = (document.sites.filterMap (Site.entered? document.symbols)).filterMap failure := by
    rw [Document.reports, reportsOf_stage, List.filterMap_filterMap]
    exact List.filterMap_congr fun s _ => report_naming names document.symbols final s
  have distinct : ((document.sites.filterMap (Site.entered? document.symbols)).filterMap failure).Nodup := by
    refine document.enteredPaths_nodup.filterMap fun m n f first second => ?_
    obtain ⟨_, -, rfl⟩ := Option.map_eq_some_iff.1 first
    obtain ⟨_, -, same⟩ := Option.map_eq_some_iff.1 second
    exact SchemaPath.mk.inj (congrArg DeclarationFailure.path same).symm
  have distinct' : (names.failedModules.map fun f => (⟨f.1, f.2⟩ : DeclarationFailure)).Nodup :=
    (List.Nodup.of_map _ failedModules_nodup).map fun _ _ same =>
      Prod.ext (congrArg DeclarationFailure.path same) (congrArg DeclarationFailure.fault same)
  rw [listed, List.perm_ext_iff_of_nodup distinct distinct']
  rintro ⟨p, fault⟩
  have member : (⟨p, fault⟩ : DeclarationFailure) ∈ names.failedModules.map (fun f => ⟨f.1, f.2⟩) ↔
      (p, fault) ∈ names.failedModules := by
    simp
  rw [member, List.mem_filterMap]
  refine Iff.trans ?_ mem_failedModules_iff.symm
  constructor
  · rintro ⟨m, entered, found⟩
    obtain ⟨_, found, equal⟩ := Option.map_eq_some_iff.1 found
    cases equal
    exact ⟨entered, found⟩
  · rintro ⟨entered, found⟩
    exact ⟨p.segments, entered, Option.map_eq_some_iff.2 ⟨fault, found, rfl⟩⟩

/-- In the order of their paths the modules without a name are what the table of names lists. -/
theorem ordered_naming (final : SchemaItem → Except Fault DeclarationNames) :
    let names := NameTable.build conventions policy separator reserved document.resolve
    let modules := ordered (fun a b : Report => a.failure.path.precedes b.failure.path)
      ((document.reports names (Site.fate document.symbols final)).filter (·.stage = .naming))
    (modules.Pairwise fun a b => a.failure.path.precedes b.failure.path) ∧
      modules.map (·.failure) = names.failedModules.map fun f => ⟨f.1, f.2⟩ := by
  intro names modules
  let found := (document.reports names (Site.fate document.symbols final)).filter (·.stage = .naming)
  have listed : (found.map (·.failure)).Perm (names.failedModules.map fun f => ⟨f.1, f.2⟩) := failedModules_perm final
  have paths : (found.map (·.failure.path)).Nodup := by
    have same := listed.map DeclarationFailure.path
    rw [List.map_map, List.map_map] at same
    exact same.nodup_iff.2 failedModules_nodup
  have ascending : modules.Pairwise fun a b => a.failure.path.precedes b.failure.path := by
    have keys : modules.map (·.failure.path) = ordered SchemaPath.precedes (found.map (·.failure.path)) :=
      map_ordered paths
    have sorted := ordered_pairwise SchemaPath.precedes_trans SchemaPath.precedes_total (found.map (·.failure.path))
    rw [← keys] at sorted
    exact List.pairwise_map.1 sorted
  have asymm : ∀ f g : DeclarationFailure, f.path.precedes g.path → g.path.precedes f.path → f = g :=
    fun f g before after => absurd after (by rw [SchemaPath.precedes_asymm before]; simp)
  refine ⟨ascending, List.Perm.eq_of_pairwise (fun f g _ _ => asymm f g) ?_ ?_ ?_⟩
  · exact List.pairwise_map.2 ascending
  · exact List.pairwise_map.2 (List.pairwise_map.1 (failedModules_paths document.modulePaths_nodup))
  · exact ((ordered_perm ((reportsOf_nodup _ _).filter _)).map _).trans listed

end

/-! ## Runs -/

theorem filter_stage_precedes {document : Document} {names : NameTable} {fate : Site → Fate} {stage : Stage}
    (other : stage ≠ .naming) :
    ((document.reports names fate).filter (·.stage = stage)).Pairwise Report.Precedes := by
  refine ((reportsOf_positions _ _).filter _).imp_of_mem fun {a b} member member' before => ?_
  have stage := of_decide_eq_true (List.mem_filter.1 member).2
  have stage' := of_decide_eq_true (List.mem_filter.1 member').2
  exact .position (stage.trans stage'.symm) (stage ▸ other) before

/-- The failures of a run, put in order, are what it reports. -/
theorem exists_reported (document : Document) (config : Config)
    (final : SchemaItem → Except Fault DeclarationNames) :
    let names := runNames config.target.target config document.resolve
    ∃ reported : List Report,
      reported.Perm (document.reports names (Site.fate document.symbols final)) ∧
        reported.Pairwise Report.Precedes ∧
        reported.map (·.failure) =
          runFailures names document.resolve (document.resolve.items.map fun i => ⟨i, final i⟩) := by
  intro names
  let reports := document.reports names (Site.fate document.symbols final)
  let byPath := ordered (fun a b : Report => a.failure.path.precedes b.failure.path)
    (reports.filter (·.stage = .naming))
  have named : (byPath.Pairwise fun a b => a.failure.path.precedes b.failure.path) ∧
      byPath.map (·.failure) = names.failedModules.map fun f => ⟨f.1, f.2⟩ :=
    ordered_naming final
  obtain ⟨ascending, modules⟩ := named
  have stages : ∀ stage, ∀ a ∈ reports.filter (·.stage = stage), a.stage = stage :=
    fun stage a member => of_decide_eq_true (List.mem_filter.1 member).2
  have naming : ∀ a ∈ byPath, a.stage = .naming := fun a member => stages _ a (mem_ordered.1 member)
  refine ⟨reports.filter (·.stage = .resolution) ++ (byPath ++ reports.filter (·.stage = .generation)), ?_, ?_, ?_⟩
  · have rearranged : byPath.Perm (reports.filter (·.stage = .naming)) :=
      ordered_perm ((reportsOf_nodup _ _).filter _)
    exact ((rearranged.append_right _).append_left _).trans (filter_stages_perm reports)
  · refine List.pairwise_append.2 ⟨filter_stage_precedes (by decide), List.pairwise_append.2
      ⟨?_, filter_stage_precedes (by decide), fun a first b last => ?_⟩, fun a first b later => ?_⟩
    · exact ascending.imp_of_mem fun member member' before => .path (naming _ member) (naming _ member') before
    · exact .stage (by rw [naming a first, stages _ b last]; decide)
    · rcases List.mem_append.1 later with middle | last
      · exact .stage (by rw [stages _ a first, naming b middle]; decide)
      · exact .stage (by rw [stages _ a first, stages _ b last]; decide)
  · rw [List.map_append, List.map_append, runFailures, List.append_assoc, failures_eq, rejections_eq document final]
    refine congrArg₂ (· ++ ·) ?_ (congrArg₂ (· ++ ·) modules ?_)
    · exact (reportsOf_stage _ _ _).trans (List.filterMap_congr fun s _ => by rw [fault?_resolution])
    · exact (reportsOf_stage _ _ _).trans (List.filterMap_congr fun s _ => by rw [fault?_generation])

/-- A strict run ends with the first of its failures. -/
theorem generateFor_of_failing {target : Target} (config : Config) (valid : config.validate = .ok ())
    (strict : config.strict = true) {r : Resolved} {first : DeclarationFailure} {rest : List DeclarationFailure}
    (failing : runFailures (runNames target config r) r (plan target config (runNames target config r) r) =
      first :: rest) :
    generateFor target config r = .error (.aborted first) := by
  obtain ⟨arena, requested, -⟩ := exists_planned_tuples target config (runNames target config r) r
  rw [generateFor_of_requested config valid requested, strict, failing]

/-- A run with a valid configuration reports the failures of a document in the order of their stages: it returns all of
them, or ends with the first one if it is strict. The order is that of the walk exactly if the walk meets them so. -/
theorem generate_reports_by_stage {document : Document} {config : Config} (valid : config.validate = .ok ()) :
    ∃ (fate : Site → Fate) (reported : List Report) (g : Generation),
      (∀ s ∈ document.sites, Settled document config s (fate s)) ∧
      generate config document.resolve =
        (match config.strict, reported with
        | true, first :: _ => .error (.aborted first.failure)
        | _, _ => .ok g) ∧
      g.failures = reported.map (·.failure) ∧
      reported.Pairwise Report.Precedes ∧
      let reports := document.reports (runNames config.target.target config document.resolve) fate
      reported.Perm reports ∧ (reported = reports ↔ reports.Pairwise Report.Precedes) := by
  let target := config.target.target
  let names := runNames target config document.resolve
  obtain ⟨arena, requested, -⟩ := exists_planned_tuples target config names document.resolve
  obtain ⟨final, planned⟩ := plan_eq_final target config names document.resolve
  obtain ⟨reported, rearranged, ascending, failures⟩ :=
    exists_reported document config final
  rw [← planned] at failures
  let outputs := runOutputs target config names arena.records (plan target config names document.resolve)
  let g : Generation := ⟨outputs, target.assemble config outputs document.resolve.moduleComments,
    reported.map (·.failure)⟩
  refine ⟨Site.fate document.symbols final, reported, g, fun s => settled_fate planned, ?_, rfl, ascending, rearranged,
    fun same => same ▸ ascending, fun sorted => ?_⟩
  · refine (generateFor_of_requested config valid requested).trans ?_
    rw [← failures]
    cases config.strict with
    | false => rfl
    | true => cases reported <;> rfl
  · exact List.Perm.eq_of_pairwise (fun _ _ _ _ before after => (before.asymm after).elim) ascending sorted rearranged

/-- A struct with a tuple that is too large, two modules with the same emitted name, and a struct that refers to nothing. -/
def stagedDocument : Document :=
  ⟨[.struct ⟨"Wide", [], [⟨"x", .tuple (List.replicate 13 (.scalar .u8)), none⟩], none⟩,
    .module "geo" none [.struct ⟨"A", [], [], none⟩],
    .module "Geo" none [.struct ⟨"B", [], [], none⟩],
    .struct ⟨"Lost", [], [⟨"x", .named "Missing" [], none⟩], none⟩]⟩

theorem staged_failures : (generate {} stagedDocument.resolve).toOption.map (·.failures.map (·.path)) =
    some [⟨["Lost"]⟩, ⟨["Geo"]⟩, ⟨["Wide"]⟩, ⟨["Geo", "B"]⟩] := by
  decide +kernel

theorem staged_reports :
    ∃ (g : Generation) (reported : List Report), generate {} stagedDocument.resolve = .ok g ∧
      g.failures = reported.map (·.failure) ∧ reported.Pairwise Report.Precedes ∧
      g.failures.map (·.path) = [⟨["Lost"]⟩, ⟨["Geo"]⟩, ⟨["Wide"]⟩, ⟨["Geo", "B"]⟩] := by
  have valid : Config.validate {} = .ok () := by decide +kernel
  obtain ⟨-, reported, g, -, generated, failures, ascending, -⟩ :=
    @generate_reports_by_stage stagedDocument {} valid
  have returned := staged_failures
  rw [generated] at returned
  exact ⟨g, reported, generated, failures, ascending, Option.some.inj returned⟩

/-- The walk meets the failures in another order, and a strict run ends with the one that it meets last. -/
theorem staged_order_differs :
    ∃ g failure, generate {} stagedDocument.resolve = .ok g ∧
      generate { strict := true } stagedDocument.resolve = .error (.aborted failure) ∧
      ¬ (g.failures.map (·.path)).Sublist (stagedDocument.sites.map Site.path) ∧
      failure.path = ⟨["Lost"]⟩ ∧ ⟨["Wide"]⟩ ∈ g.failures.map (·.path) ∧
      (stagedDocument.sites.map Site.path).idxOf ⟨["Wide"]⟩ < (stagedDocument.sites.map Site.path).idxOf ⟨["Lost"]⟩ := by
  let names := runNames Go.target {} stagedDocument.resolve
  let failures := runFailures names stagedDocument.resolve (plan Go.target {} names stagedDocument.resolve)
  have valid : Config.validate {} = .ok () := by decide +kernel
  obtain ⟨arena, requested, -⟩ := exists_planned_tuples Go.target {} names stagedDocument.resolve
  have lenient : generate {} stagedDocument.resolve = .ok _ := generateFor_of_requested {} valid requested
  have paths : failures.map (·.path) = [⟨["Lost"]⟩, ⟨["Geo"]⟩, ⟨["Wide"]⟩, ⟨["Geo", "B"]⟩] := by
    have returned := staged_failures
    rw [lenient] at returned
    exact Option.some.inj returned
  obtain ⟨first, rest, listed, path, -⟩ := List.map_eq_cons_iff.1 paths
  refine ⟨_, first, lenient, generateFor_of_failing { strict := true } valid rfl listed, ?_, path, ?_, by decide +kernel⟩
  · show ¬ (failures.map (·.path)).Sublist _
    rw [paths]
    decide +kernel
  · show ⟨["Wide"]⟩ ∈ failures.map (·.path)
    rw [paths]
    decide

end SchemaBindings
