import SchemaBindings.Proofs.CommentedOutputs
import SchemaBindings.Proofs.EnteredModules
import SchemaBindings.Proofs.LateFaults
import SchemaBindings.Proofs.OrderedKeys
import SchemaBindings.Proofs.PlacedComments

/-!
# Comments of modules without a name

A module whose emitted name is taken is reported, and nothing in it is emitted. Its comment is still in the table of
comments that the files are written from, where it is looked up by the path of a module. No output stands inside a module
without a name, with one exception: the module of the tuple records has the path of a module `tuples` of the schema, whose
name is always taken. So the comment of a module without a name leaves the files as they are, except that the comment of
`tuples` becomes the comment of the tuple records (`generate_failed_comment`).
-/

namespace SchemaBindings

open Declaration

/-! ## Replaced comments -/

namespace CommentEdit

def replace (p : ModulePath) (comment : Option String) : CommentEdit :=
  ⟨fun m old => if m = p then comment else old, id⟩

variable {τ κ : Type} {e : CommentEdit}

/-- An edit of the comments of modules leaves everything else as it is. -/
theorem declaration_eq (kept : e.own = id) {m : ModulePath} {d : Declaration τ κ} (isItem : d.isModule = false) :
    e.declaration m d = d := by
  have fields : ∀ fields : List (Field τ), fields.map e.field = fields := by
    intro fields
    refine (List.map_congr_left fun f _ => ?_).trans (List.map_id fields)
    rw [field, kept]
    rfl
  have variants : ∀ variants : List (Variant τ), variants.map e.variant = variants := by
    intro variants
    refine (List.map_congr_left fun v _ => ?_).trans (List.map_id variants)
    rw [variant, fields, kept]
    rfl
  cases d with
  | struct s => rw [declaration, struct, fields, kept]; rfl
  | union u => rw [declaration, union, variants, kept]; rfl
  | typeAlias a => rw [declaration, typeAlias, kept]; rfl
  | const c => rw [declaration, constant, kept]; rfl
  | module _ _ _ => exact absurd isItem (by simp [isModule])

/-- The plan stays as it is when only comments of modules are edited. -/
theorem candidates_plan (kept : e.own = id) (target : Target) (config : Config) (names : NameTable) (r : Resolved) :
    (plan target config names r).map e.candidate = plan target config names r := by
  refine (List.map_congr_left fun c member => ?_).trans (List.map_id _)
  have isItem := (mem_items_iff.1 (item_of_mem_plan member)).2
  obtain ⟨⟨m, d⟩, status⟩ := c
  rw [candidate, item, declaration_eq kept isItem]
  rfl

end CommentEdit

/-! ## The table of comments -/

/-- Among modules with different paths, the comment of each is found under its path. -/
theorem lookup_moduleComments {τ κ : Type} {ds : List (Declaration τ κ)} (distinct : ((modules [] ds).map (·.1)).Nodup)
    {m : ModulePath} {text : String} :
    (moduleComments ds).lookup m = some text ↔ (m, some text) ∈ modules [] ds := by
  let commented := (modules [] ds).filterMap fun x => x.2.map (x.1, ·)
  have paths : (commented.map (·.1)).Nodup := by
    refine List.pairwise_map.2 ((List.pairwise_map.1 distinct).filterMap _ fun x y differ a first b second => ?_)
    obtain ⟨_, -, rfl⟩ := Option.map_eq_some_iff.1 first
    obtain ⟨_, -, rfl⟩ := Option.map_eq_some_iff.1 second
    exact differ
  have keys : ((moduleComments ds).map (·.1)).Nodup := by
    have same : (moduleComments ds).map (·.1) = ordered modulePrecedes (commented.map (·.1)) := map_ordered paths
    rw [same]
    exact (ordered_perm paths).nodup_iff.2 paths
  rw [lookup_eq_some_iff keys, moduleComments, mem_ordered, List.mem_filterMap]
  constructor
  · rintro ⟨⟨path, comment⟩, member, found⟩
    obtain ⟨_, rfl, equal⟩ := Option.map_eq_some_iff.1 found
    cases equal
    exact member
  · exact fun member => ⟨(m, some text), member, rfl⟩

section

variable {document : Document} {p : ModulePath} {comment : Option String}

theorem modules_nodup : ((modules [] document.resolve.declarations).map (·.1)).Nodup :=
  (List.nodup_cons.1 document.modulePaths_nodup).2

/-- What is found after a replacement: the new comment for the path, and what was there for every other one. -/
theorem lookup_replace_eq_some {m : ModulePath} {text : String} :
    ((CommentEdit.replace p comment).resolved [] document.resolve).moduleComments.lookup m = some text ↔
      ∃ old, (m, old) ∈ modules [] document.resolve.declarations ∧ (if m = p then comment else old) = some text := by
  have listed := (CommentEdit.replace p comment).modules_declarations [] document.resolve.declarations
  have distinct : ((modules [] ((CommentEdit.replace p comment).resolved [] document.resolve).declarations).map
      (·.1)).Nodup := by
    rw [CommentEdit.resolved, listed, List.map_map]
    exact modules_nodup
  rw [Resolved.moduleComments, lookup_moduleComments distinct, CommentEdit.resolved, listed, List.mem_map]
  constructor
  · rintro ⟨⟨path, old⟩, member, equal⟩
    obtain ⟨rfl, found⟩ := Prod.mk.inj equal
    exact ⟨old, member, found⟩
  · rintro ⟨old, member, found⟩
    exact ⟨(m, old), member, congrArg (Prod.mk m) found⟩

theorem lookup_replace_of_ne {m : ModulePath} (differ : m ≠ p) :
    ((CommentEdit.replace p comment).resolved [] document.resolve).moduleComments.lookup m =
      document.resolve.moduleComments.lookup m := by
  refine Option.ext fun text => ?_
  rw [lookup_replace_eq_some, Resolved.moduleComments, lookup_moduleComments modules_nodup]
  simp only [if_neg differ, exists_eq_right]

theorem lookup_replace_self (declared : p ∈ (modules [] document.resolve.declarations).map (·.1)) :
    ((CommentEdit.replace p comment).resolved [] document.resolve).moduleComments.lookup p = comment := by
  obtain ⟨⟨_, old⟩, member, rfl⟩ := List.mem_map.1 declared
  refine Option.ext fun text => ?_
  rw [lookup_replace_eq_some]
  simp only [if_true]
  exact ⟨fun ⟨_, _, found⟩ => found, fun found => ⟨old, member, found⟩⟩

/-! ## Modules without a name -/

/-- No output stands inside a module without a name, apart from tuple records in a module that is called like theirs. -/
theorem tuples_of_prefix {config : Config} {arena : TupleArena} {fault : Fault}
    (failed : (⟨p⟩, fault) ∈ (runNames config.target.target config document.resolve).failedModules) (inside : p ≠ [])
    {o : Output}
    (emitted : o ∈ runOutputs config.target.target config (runNames config.target.target config document.resolve)
      arena.records (plan config.target.target config (runNames config.target.target config document.resolve)
        document.resolve))
    (around : p <+: o.module) : p = tuplesModule ∧ o.module = tuplesModule := by
  rcases List.mem_append.1 emitted with tuple | declared
  · obtain ⟨t, -, rfl⟩ := List.mem_map.1 tuple
    have module : (config.target.target.tupleOutput t).module = tuplesModule :=
      congrArg Prod.fst (config.target.namesOutputs.tuples t)
    refine ⟨?_, module⟩
    rw [module] at around
    cases p with
    | nil => exact absurd rfl inside
    | cons name rest =>
      obtain ⟨rfl, short⟩ := List.cons_prefix_cons.1 around
      rw [List.prefix_nil.1 short]
      rfl
  -- A ready candidate stands outside every module without a name.
  · obtain ⟨c, member, output⟩ := List.mem_flatMap.1 declared
    obtain ⟨own, status, module, -⟩ := place_of_mem_outputs config.target.namesOutputs (List.mem_map_of_mem output)
    obtain ⟨-, -, clear, -⟩ := status_of_mem_plan member (Candidate.isReady_iff.2 ⟨own, status⟩)
    have module : o.module = c.item.module := module
    rw [module] at around
    rw [failedAncestor?_eq_none_iff] at clear
    obtain ⟨n, length⟩ := Nat.exists_eq_succ_of_ne_zero (mt List.length_eq_zero_iff.1 inside)
    refine absurd ?_ (clear n (by have := around.length_le; omega) fault)
    rw [← Nat.succ_eq_add_one, ← length, ← List.prefix_iff_eq_take.1 around]
    exact failed

/-- What a comment of a module that a run reports for its name can change: the outputs and the failures stay, and so do
the files, unless the module is called like that of the tuple records, a tuple record is emitted, and the new comment has
other lines than the old one. -/
theorem generate_failed_comment {config : Config} (valid : config.validate = .ok ()) (lenient : config.strict = false)
    {fault : Fault}
    (failed : (⟨p⟩, fault) ∈ (runNames config.target.target config document.resolve).failedModules)
    (comment : Option String) :
    ∃ g g' : Generation,
      generate config document.resolve = .ok g ∧
      generate config ((CommentEdit.replace p comment).document document).resolve = .ok g' ∧
      ⟨⟨p⟩, fault⟩ ∈ g.failures ∧ g'.failures = g.failures ∧ g'.outputs = g.outputs ∧
      (g'.files = g.files ↔
        (p = tuplesModule → (∃ o ∈ g.outputs, o.module = tuplesModule) →
          commentTexts comment = commentTexts (document.resolve.moduleComments.lookup p))) := by
  let target := config.target.target
  let e := CommentEdit.replace p comment
  let names := runNames target config document.resolve
  let cs := plan target config names document.resolve
  obtain ⟨arena, requested, -⟩ := exists_planned_tuples target config names document.resolve
  have planned : cs.map e.candidate = cs := CommentEdit.candidates_plan rfl target config names document.resolve
  let outputs := runOutputs target config names arena.records cs
  refine ⟨⟨outputs, target.assemble config outputs document.resolve.moduleComments,
      runFailures names document.resolve cs⟩,
    ⟨outputs, target.assemble config outputs (e.resolved [] document.resolve).moduleComments,
      runFailures names document.resolve cs⟩, ?_, ?_, ?_, rfl, rfl, ?_⟩
  · refine (generateFor_of_requested config valid requested).trans ?_
    rw [lenient]
  · rw [CommentEdit.resolve_document]
    have edited := (e.requestTuples_resolved target config ⟨config.maxTupleArity, []⟩ document.resolve).trans requested
    refine (generateFor_of_requested config valid edited).trans ?_
    rw [lenient, e.runNames_resolved, e.plan_resolved, planned]
    rfl
  · exact List.mem_append_left _ (List.mem_append_right _ (List.mem_map.2 ⟨_, failed, rfl⟩))
  · obtain ⟨m, kept, inside, path⟩ := mem_modules_of_mem_failedModules failed
    obtain rfl : p = m := congrArg SchemaPath.segments path
    have declared : p ∈ (modules [] document.resolve.declarations).map (·.1) :=
      (List.mem_cons.1 kept).resolve_left inside
    have others : ∀ m, m ≠ p →
        SameComment (e.resolved [] document.resolve).moduleComments document.resolve.moduleComments m :=
      fun m differ => congrArg commentTexts (lookup_replace_of_ne differ)
    have own : (e.resolved [] document.resolve).moduleComments.lookup p = comment := lookup_replace_self declared
    constructor
    · rintro same rfl holds
      have shown := config.target.placesComments.shows config outputs holds others same
      exact (congrArg commentTexts own).symm.trans shown
    · intro same
      refine config.target.placesComments.depends config outputs fun o emitted m around => ?_
      by_cases here : m = p
      · subst here
        obtain ⟨tuples, place⟩ := tuples_of_prefix failed inside emitted around
        rw [SameComment, own]
        exact same tuples ⟨o, emitted, place⟩
      · exact others m here

end

/-- A module with a comment, and another one with a tuple in it. -/
def tuplesDocument (name : String) : Document :=
  ⟨[.module name (some "Helpers.") [],
    .module "views" none [.struct ⟨"Segment", [], [⟨"ends", .tuple [.scalar .u32, .scalar .u32], none⟩], none⟩]]⟩

/-- A module whose package would have the name of that of the tuple records, but which has another path. -/
theorem capital_comment_hidden :
    ∃ fault, (⟨["Tuples"]⟩, fault) ∈ (runNames Go.target {} (tuplesDocument "Tuples").resolve).failedModules ∧
      ∃ g g' : Generation, generate {} (tuplesDocument "Tuples").resolve = .ok g ∧
        generate {} ((CommentEdit.replace ["Tuples"] none).document (tuplesDocument "Tuples")).resolve = .ok g' ∧
        g'.outputs = g.outputs ∧ g'.files = g.files := by
  have reserved : Go.target.conventions.moduleName tuplesModuleName = "tuples" := by decide +kernel
  have named : ⟨["Tuples"]⟩ ∈ (runNames Go.target {} (tuplesDocument "Tuples").resolve).failedModules.map (·.1) := by
    rw [runNames, reserved]
    decide +kernel
  obtain ⟨⟨_, fault⟩, failed, rfl⟩ := List.mem_map.1 named
  obtain ⟨g, g', first, second, -, -, outputs, files⟩ :=
    @generate_failed_comment (tuplesDocument "Tuples") ["Tuples"] {} (by decide +kernel) rfl fault failed none
  exact ⟨fault, failed, g, g', first, second, outputs, files.2 fun same => absurd same (by decide)⟩

/-- The module with the path of that of the tuple records is left out, but its comment stands in their file. -/
theorem tuples_comment_shown :
    let run (d : Document) := (generate {} d.resolve).toOption
    let replaced := (CommentEdit.replace ["tuples"] none).document (tuplesDocument "tuples")
    (run (tuplesDocument "tuples")).map (·.failures.map (·.path)) = some [⟨["tuples"]⟩] ∧
      (run replaced).map (·.files) ≠ (run (tuplesDocument "tuples")).map (·.files) := by
  decide +kernel

end SchemaBindings
