import SchemaBindings.Proofs.Fates
import SchemaBindings.Proofs.LenientRuns
import SchemaBindings.Proofs.UnionEntries

/-!
# Accounting

A run that is not strict accounts for every declaration of the document (`generate_accounts`).

* What resolution rejects has one of its failures.
* What it keeps and the run leaves out has one failure that is found later, and no output.
* What is rendered has its outputs, and no failure that is found later.
-/

namespace SchemaBindings

open Candidate Declaration

/-! ## One failure at a path -/

theorem path_of_failure? {c : Candidate} {failure : DeclarationFailure}
    (failed : c.failure? = some failure) : failure.path = c.path := by
  obtain ⟨fault, -, rfl⟩ := Option.map_eq_some_iff.1 failed
  rfl

theorem filter_path {cs : List Candidate} (distinct : (cs.map (·.path)).Nodup) {c : Candidate}
    (member : c ∈ cs) : cs.filter (·.path = c.path) = [c] := by
  induction cs with
  | nil => exact absurd member List.not_mem_nil
  | cons b cs ih =>
    rw [List.map_cons, List.nodup_cons] at distinct
    obtain ⟨apart, distinct⟩ := distinct
    rcases List.mem_cons.1 member with rfl | later
    · have others : cs.filter (·.path = c.path) = [] := by
        rw [List.filter_eq_nil_iff]
        intro d among same
        exact apart (of_decide_eq_true same ▸ List.mem_map_of_mem among)
      rw [List.filter_cons_of_pos (by simp), others]
    · have differ : b.path ≠ c.path := fun same => apart (same ▸ List.mem_map_of_mem later)
      rw [List.filter_cons_of_neg (by simpa using differ), ih distinct later]

/-- Among candidates with distinct paths, the failures at the path of one are its own. -/
theorem filter_failures {cs : List Candidate} (distinct : (cs.map (·.path)).Nodup) {c : Candidate}
    (member : c ∈ cs) :
    (cs.filterMap (·.failure?)).filter (·.path = c.path) = c.failure?.toList := by
  have commute : (cs.filterMap (·.failure?)).filter (·.path = c.path) =
      (cs.filter (·.path = c.path)).filterMap (·.failure?) := by
    rw [List.filter_filterMap, List.filterMap_filter]
    refine List.filterMap_congr fun d _ => ?_
    cases failed : d.failure? with
    | none => simp
    | some failure =>
      rw [Option.filter_some, path_of_failure? failed]
  rw [commute, filter_path distinct member]
  cases failed : c.failure? with
  | none => rw [List.filterMap_cons_none failed]; rfl
  | some failure => rw [List.filterMap_cons_some failed]; rfl

/-- The path of a kept module is that of no item. -/
theorem path_ne_of_mem_modulePaths {document : Document} {m : ModulePath}
    (kept : m ∈ document.resolve.modulePaths) {i : SchemaItem} (item : i ∈ document.resolve.items)
    (inside : m ≠ []) : (⟨m⟩ : SchemaPath) ≠ i.path := by
  rcases mem_modulePaths_iff.1 kept with rfl | ⟨rest, name, comment, inner, rfl, stands⟩
  · exact absurd rfl inside
  · intro same
    obtain ⟨place, named⟩ : rest = i.module ∧ [name] = [i.declaration.name] :=
      List.append_inj' (SchemaPath.mk.inj same) rfl
    obtain ⟨stands', isItem⟩ := mem_items_iff.1 item
    -- One declaration of the document cannot resolve to a module and to an item.
    obtain ⟨-, d, declared, -, resolves⟩ := (standsIn_resolve_iff document).1 stands
    obtain ⟨-, e, declared', -, resolves'⟩ := (standsIn_resolve_iff document).1 stands'
    have sameName : name = i.declaration.name := List.singleton_inj.1 named
    rw [← place, ← sameName] at declared'
    cases declared.symm.trans declared'
    have agree := resolves.isModule_eq.trans resolves'.isModule_eq.symm
    rw [isItem] at agree
    exact absurd agree (by simp [isModule])

/-! ## The accounts of a run -/

/-- The failures that are found behind those of resolution: of modules without a name, and of items. -/
def lateFailures (document : Document) (config : Config) (fate : Site → Fate) :
    List DeclarationFailure :=
  (runNames config.target.target config document.resolve).failedModules.map
      (fun f => ⟨f.1, f.2⟩) ++
    document.sites.filterMap fun s => s.report (fate s).failure?

def Site.outputs (document : Document) (config : Config) (s : Site) (fate : Fate) : List Output :=
  fate.outputs config.target.target config (runNames config.target.target config document.resolve)
    s.module

/-- What the variant `v` of a union is called. -/
def Conventions.variantName (conventions : Conventions) (separator owner : String) (qualified : Bool)
    (v : String) : String :=
  if qualified then conventions.qualifiedName owner v separator else conventions.typeName v

/-- The fates account for what a run has returned. -/
structure Accounts (document : Document) (config : Config) (g : Generation) (fate : Site → Fate) :
    Prop where
  settled : ∀ s ∈ document.sites, Settled document config s (fate s)
  /-- A declaration that is looked at is rejected, or left out later, or rendered. -/
  decided : ∀ s ∈ document.sites, s.hidden = false → s.declaration.isModule = false →
    (∃ fault, fate s = .rejected fault) ∨ (∃ fault, fate s = .failed fault) ∨
      ∃ d own, fate s = .rendered d own
  failures : g.failures = document.sites.filterMap (fun s => s.report (fate s).rejection?) ++
    lateFailures document config fate
  /-- Of the later failures one stands at the path of a declaration that resolution has kept if the run has left it out,
  and none if not. -/
  single : ∀ s ∈ document.sites, ∀ d, Survives document s d →
    (lateFailures document config fate).filter (·.path = s.path) =
      (s.report (fate s).failure?).toList
  /-- The records of the tuples that are mentioned, in ascending arity, and then the outputs of what is rendered. -/
  outputs : ∃ arities : List Nat, arities.Pairwise (· < ·) ∧
    (∀ n, n ∈ arities ↔
      ∃ s ∈ document.sites, ∃ d own, fate s = .rendered d own ∧ n ∈ d.arities) ∧
    g.outputs = arities.map (fun n => config.target.target.tupleOutput (.ofArity n)) ++
      document.sites.flatMap fun s => s.outputs document config (fate s)
  /-- What is rendered has one output under its own name, and then one for each variant in declared order. -/
  places : ∀ s ∈ document.sites, ∀ d own, fate s = .rendered d own →
    (s.outputs document config (fate s)).map Output.place =
        (s.module, own.identifier) :: own.variants.map (s.module, ·) ∧
      own.variants = s.declaration.variantNames.map
        (config.target.target.conventions.variantName config.separator s.declaration.name own.qualified)

/-- The names of variants stand in declared order, all of them flat or all of them qualified. -/
theorem variants_eq_map {document : Document} {conventions : Conventions} {policy : NamingPolicy}
    {separator : String} {reserved : List (String × String)} {i : SchemaItem}
    (item : i ∈ document.resolve.items) {own : DeclarationNames}
    (found : (NameTable.build conventions policy separator reserved document.resolve).get? i.path =
      some (.ok own)) :
    own.variants = i.declaration.variantNames.map
      (conventions.variantName separator i.declaration.name own.qualified) := by
  have chosen := variants_eq item found
  cases variants : own.variants with
  | nil =>
    have nothing : i.declaration.variantNames = [] := by
      rw [variants, variantNamesOf] at chosen
      split at chosen
      · exact List.map_eq_nil_iff.1 chosen.symm
      · exact List.map_eq_nil_iff.1 chosen.symm
    rw [nothing, List.map_nil]
  | cons name rest =>
    have first : name ∈ own.variants := by
      rw [variants]
      exact List.mem_cons_self
    rw [← variants, chosen, union_of_variant item found first, variantNamesOf]
    by_cases qualifies : Qualifies conventions policy (document.resolve.itemsOf i.module) i
    · simp [qualifies, qualifiedNamesOf, Conventions.variantName]
    · simp [qualifies, flatNamesOf, Conventions.variantName]

theorem places_of_rendered {document : Document} {config : Config} {s : Site}
    {d : SchemaDeclaration} {own : DeclarationNames} (survives : Survives document s d)
    (found : (runNames config.target.target config document.resolve).get? s.path = some (.ok own)) :
    (s.outputs document config (.rendered d own)).map Output.place =
        (s.module, own.identifier) :: own.variants.map (s.module, ·) ∧
      own.variants = s.declaration.variantNames.map
        (config.target.target.conventions.variantName config.separator s.declaration.name
          own.qualified) := by
  rw [← path_of_resolvesTo survives.resolves] at found
  have variants := variants_eq_map survives.item found
  constructor
  · refine config.target.render_places _ ?_ ?_
    · exact survives.resolves.isModule_eq.trans survives.isItem
    · rw [variants, List.length_map]
  · rw [← survives.resolves.variantNames_eq, ← survives.resolves.name_eq]
    exact variants

theorem single_of_survives {document : Document} {config : Config} {s : Site}
    {d : SchemaDeclaration} (final : SchemaItem → Except Fault DeclarationNames)
    (survives : Survives document s d) :
    (lateFailures document config (Site.fate document.symbols final)).filter (·.path = s.path) =
      (s.report (s.fate document.symbols final).failure?).toList := by
  have place := path_of_resolvesTo survives.resolves
  have modules : ((runNames config.target.target config document.resolve).failedModules.map
      fun f => (⟨f.1, f.2⟩ : DeclarationFailure)).filter (·.path = s.path) = [] := by
    rw [List.filter_eq_nil_iff]
    intro failure reported same
    obtain ⟨f, failed, rfl⟩ := List.mem_map.1 reported
    obtain ⟨m, kept, inside, path⟩ := mem_modules_of_mem_failedModules failed
    rw [decide_eq_true_iff, path, ← place] at same
    exact path_ne_of_mem_modulePaths kept survives.item inside same
  have distinct : ((document.resolve.items.map fun i => (⟨i, final i⟩ : Candidate)).map
      (·.path)).Nodup := by
    rw [List.map_map]
    exact document.resolve_items_paths_nodup
  have own := filter_failures distinct (List.mem_map_of_mem survives.item)
  rw [lateFailures, List.filter_append, modules, List.nil_append, ← failures_eq, ← place]
  refine own.trans (congrArg Option.toList ?_)
  rw [Site.fate, outcome_of_survives survives]
  dsimp only
  rw [if_neg (by rw [survives.resolves.isModule_eq, survives.isItem]; simp)]
  cases status : final ⟨s.module, d⟩ with
  | ok own => rfl
  | error fault => simp [failure?, fault?, Site.report, path, place, Fate.failure?]

theorem Settled.cases_of_visible {document : Document} {config : Config} {s : Site} {fate : Fate}
    (settled : Settled document config s fate) (visible : s.hidden = false)
    (isItem : s.declaration.isModule = false) :
    (∃ fault, fate = .rejected fault) ∨ (∃ fault, fate = .failed fault) ∨
      ∃ d own, fate = .rendered d own := by
  cases settled with
  | unseen hidden => exact absurd (visible.symm.trans hidden) (by simp)
  | repeated _ _ => exact .inl ⟨_, rfl⟩
  | illFormed _ _ _ => exact .inl ⟨_, rfl⟩
  | entered _ _ isModule _ => exact absurd (isItem.symm.trans isModule) (by simp)
  | failed _ _ => exact .inr (.inl ⟨_, rfl⟩)
  | rendered _ _ => exact .inr (.inr ⟨_, _, rfl⟩)

/-- A run that is not strict accounts for every declaration of a document once: the walk meets each of them once, in
depth-first order, and each has one fate. -/
theorem generate_accounts (document : Document) (config : Config)
    (valid : config.validate = .ok ()) (lenient : config.strict = false) :
    document.sites.filterMap Site.item? = items [] document.declarations ∧
      ∃ g, generate config document.resolve = .ok g ∧
        ∃ fate : Site → Fate, Accounts document config g fate := by
  obtain ⟨g, generated, failures, arities, ascending, mentioned, outputs⟩ :=
    generateFor_of_lenient config.target.target document.resolve valid lenient
  obtain ⟨final, planned⟩ := plan_eq_final config.target.target config
    (runNames config.target.target config document.resolve) document.resolve
  have settled : ∀ s ∈ document.sites,
      Settled document config s (s.fate document.symbols final) :=
    fun s => settled_fate planned
  refine ⟨document.sites_items, g, generated, Site.fate document.symbols final, settled,
    fun s site => (settled s site).cases_of_visible, ?_,
    fun s _ d survives => single_of_survives final survives, ⟨arities, ascending, ?_, ?_⟩, ?_⟩
  · rw [failures, runFailures, planned, failures_eq, rejections_eq document final, List.append_assoc]
    rfl
  · intro n
    rw [mentioned, planned, mentioned_iff]
  · rw [outputs, runOutputs, planned, outputs_eq, List.map_map]
    rfl
  · intro s site d own fate
    have befits := settled s site
    rw [fate] at befits ⊢
    cases befits with
    | rendered survives found => exact places_of_rendered survives found

/-- A repeated struct, a module that is left out, and a module in which one of two structs with the same emitted name
fails, and so does an alias of it. -/
def mixedDocument : Document :=
  ⟨[.struct ⟨"A", [], [⟨"x", .tuple [.scalar .u8, .scalar .u8], none⟩], none⟩,
    .struct ⟨"A", [], [], none⟩,
    .module "1bad" none [.struct ⟨"X", [], [], none⟩],
    .module "m" none
      [.union ⟨"U", [], [⟨"V", [], none⟩, ⟨"W", [], none⟩], none⟩,
        .struct ⟨"a_b", [], [], none⟩,
        .struct ⟨"aB", [], [], none⟩,
        .typeAlias ⟨"C", .named "aB" [], none⟩]]⟩

theorem mixed_accounts :
    ∃ g, generate {} mixedDocument.resolve = .ok g ∧
      (∃ fate : Site → Fate, Accounts mixedDocument {} g fate) ∧
      g.failures.map (·.path.text) = ["A", "1bad", "m::aB", "m::C"] ∧
      g.outputs.map (·.identifier) = ["Tuple2", "A", "U", "V", "W", "AB"] := by
  have valid : Config.validate {} = .ok () := by decide +kernel
  obtain ⟨-, g, generated, accounts⟩ := generate_accounts mixedDocument {} valid rfl
  have returned : (generate {} mixedDocument.resolve).toOption.map
      (fun g => (g.failures.map (·.path.text), g.outputs.map (·.identifier))) =
        some (["A", "1bad", "m::aB", "m::C"], ["Tuple2", "A", "U", "V", "W", "AB"]) := by
    decide +kernel
  rw [generated] at returned
  obtain ⟨failures, outputs⟩ := Prod.mk.inj (Option.some.inj returned)
  exact ⟨g, generated, accounts, failures, outputs⟩

end SchemaBindings
