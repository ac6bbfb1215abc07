import SchemaBindings.Proofs.DeskWrites

/-!
# Several inputs

A command runs its inputs in turn, each on the files that the ones before it have left (`Desk.Batches`), and all of
them into one directory. The files of one input have different paths, but those of another may have the same ones, and
nothing is reported then. So a file is kept exactly as the last later one with its path has it
(`generate_keeps_last`); two inputs whose modules have different emitted paths do not meet.
-/

namespace SchemaBindings

theorem isBelow_of_mem_files {document : Document} {config : Config} {g : Generation}
    (generated : generate config document.resolve = .ok g) {file : File} (member : file ∈ g.files) :
    Desk.IsBelow file.path := by
  obtain ⟨directories, stem, identifiers, identifier, path, -⟩ := place_of_mem_files generated member
  exact ⟨_, by simp, isPlain_of_mem_place identifiers identifier config.target, path⟩

namespace Desk

/-! ## Runs in turn -/

/-- A document of the tree has been run without a failure, and its files have been written. -/
structure Batch (config : Config) (out : String) (desk : Desk) (path : String) (g : Generation) (later : Desk) :
    Prop where
  generated : ∃ bytes document, desk.tree.readFile path = .ok bytes ∧ Document.ofBytes bytes = .ok document ∧
    generate config document.resolve = .ok g
  clean : g.failures = []
  written : Returns (g.files.forM (Command.writeFile host out)) desk () later

/-- Documents have been run in turn, each on what the ones before it have left. -/
inductive Batches (config : Config) (out : String) : Desk → List String → List Generation → Desk → Prop where
  | nil (desk : Desk) : Batches config out desk [] [] desk
  | cons {desk between later : Desk} {path : String} {paths : List String} {g : Generation} {batches : List Generation}
      (first : Batch config out desk path g between) (rest : Batches config out between paths batches later) :
      Batches config out desk (path :: paths) (g :: batches) later

variable {config : Config} {out path : String} {paths : List String} {desk later : Desk} {batches : List Generation}

theorem returns_loadSchema {document : Document} :
    Returns (Command.loadSchema host path) desk document later ↔
      (∃ bytes, desk.tree.readFile path = .ok bytes ∧ Document.ofBytes bytes = .ok document) ∧ later = desk := by
  unfold Command.loadSchema
  rw [returns_bind]
  constructor
  · rintro ⟨bytes, between, read, parsed⟩
    have answer : (desk.tree.readFile path, desk) = (.ok bytes, between) := returns_orProblem.1 read
    obtain ⟨found, rfl⟩ := Prod.mk.inj answer
    cases result : Document.ofBytes bytes with
    | ok other =>
      rw [result] at parsed
      obtain ⟨rfl, rfl⟩ := returns_pure.1 parsed
      exact ⟨⟨bytes, found, result⟩, rfl⟩
    | error failure =>
      rw [result] at parsed
      exact absurd parsed not_returns_throw
  · rintro ⟨⟨bytes, found, result⟩, rfl⟩
    refine ⟨bytes, later, returns_orProblem.2 (congrArg (·, later) found), ?_⟩
    rw [result]
    exact returns_pure.2 ⟨rfl, rfl⟩

/-- An input without failures is one batch. -/
theorem batch_of_returns
    (returns : Returns (Command.processInput host config (fun _ g => g.files.forM (Command.writeFile host out)) path)
      desk 0 later) :
    ∃ g, Batch config out desk path g later := by
  obtain ⟨document, between, loaded, rest⟩ := returns_bind.1 returns
  obtain ⟨⟨bytes, found, parsed⟩, rfl⟩ := returns_loadSchema.1 loaded
  cases generated : generate config document.resolve with
  | error e =>
    rw [generated] at rest
    cases e with
    | aborted failure =>
      obtain ⟨_, _, -, thrown⟩ := returns_bind.1 rest
      exact absurd thrown not_returns_throw
    | config fault => exact absurd rest not_returns_throw
  | ok g =>
    rw [generated] at rest
    obtain ⟨_, reported, reports, rest⟩ := returns_bind.1 rest
    obtain ⟨_, _, written, done⟩ := returns_bind.1 rest
    obtain ⟨count, rfl⟩ := returns_pure.1 done
    have clean : g.failures = [] := List.length_eq_zero_iff.1 count.symm
    rw [clean] at reports
    obtain ⟨-, rfl⟩ := returns_pure.1 reports
    exact ⟨g, ⟨bytes, document, found, parsed, generated⟩, clean, written⟩

theorem batches_of_returns {counts : List Nat} (none : ∀ count ∈ counts, count = 0)
    (returns : Returns
      (paths.mapM (Command.processInput host config fun _ g => g.files.forM (Command.writeFile host out)))
      desk counts later) :
    ∃ batches, Batches config out desk paths batches later := by
  induction paths generalizing counts desk with
  | nil =>
    rw [List.mapM_nil] at returns
    obtain ⟨-, rfl⟩ := returns_pure.1 returns
    exact ⟨[], .nil later⟩
  | cons path paths ih =>
    obtain ⟨count, others, between, rfl, first, rest⟩ := returns_mapM_cons.1 returns
    obtain ⟨zero, none⟩ := List.forall_mem_cons.1 none
    rw [zero] at first
    obtain ⟨g, batch⟩ := batch_of_returns first
    obtain ⟨batches, rest⟩ := ih none rest
    exact ⟨g :: batches, .cons batch rest⟩

/-! ## What is left -/

theorem Batches.generated (ran : Batches config out desk paths batches later) :
    ∀ g ∈ batches, ∃ document : Document, generate config document.resolve = .ok g := by
  induction ran with
  | nil => exact nofun
  | cons first rest ih =>
    obtain ⟨_, document, -, -, generated⟩ := first.generated
    exact List.forall_mem_cons.2 ⟨⟨document, generated⟩, ih⟩

/-- What one batch leaves, any number of them leaves. -/
theorem Batches.holdsLast (ran : Batches config out desk paths batches later) {files : List File}
    (below : ∀ file ∈ files, IsBelow file.path) (holds : HoldsLast out files desk.tree) :
    HoldsLast out (files ++ batches.flatMap (·.files)) later.tree := by
  induction ran generalizing files with
  | nil =>
    rwa [List.flatMap_nil, List.append_nil]
  | @cons desk between later path paths g batches first rest ih =>
    have own : ∀ file ∈ files ++ g.files, IsBelow file.path := by
      obtain ⟨_, document, -, -, generated⟩ := first.generated
      exact List.forall_mem_append.2 ⟨below, fun file member => isBelow_of_mem_files generated member⟩
    rw [List.flatMap_cons, ← List.append_assoc]
    exact ih own (holds.append own first.written)

theorem last?_append (files rest : List File) (path : String) :
    last? (files ++ rest) path = (last? rest path).or (last? files path) := by
  rw [last?, List.reverse_append, List.find?_append]
  rfl

/-- The only file with a path is the last one. -/
theorem last?_of_nodup {files : List File} (distinct : (files.map (·.path)).Nodup) {file : File}
    (member : file ∈ files) : last? files file.path = some file := by
  cases found : last? files file.path with
  | none =>
    have differ := List.find?_eq_none.1 found file (List.mem_reverse.2 member)
    exact absurd (decide_eq_true rfl) differ
  | some last =>
    have same : last.path = file.path := by
      simpa using List.find?_some found
    have listed : last ∈ files := List.mem_reverse.1 (List.mem_of_find?_eq_some found)
    rw [List.inj_on_of_nodup_map distinct listed member same]

/-- What can be read at the path of a file after other files have been written. -/
def contentsAfter (file : File) (others : List File) : String :=
  ((last? others file.path).getD file).contents

theorem contentsAfter_eq {file : File} {others : List File}
    (agree : ∀ other ∈ others, other.path = file.path → other.contents = file.contents) :
    contentsAfter file others = file.contents := by
  unfold contentsAfter
  cases found : last? others file.path with
  | none => rfl
  | some last =>
    have same : last.path = file.path := by
      simpa using List.find?_some found
    exact agree last (List.mem_reverse.1 (List.mem_of_find?_eq_some found)) same

/-- A file of a batch is as the later batches leave it. -/
theorem Batches.readFile (ran : Batches config out desk paths batches later) {before after : List Generation}
    {g : Generation} (split : batches = before ++ g :: after) {file : File} (member : file ∈ g.files) :
    later.tree.readFile (FilePath.push out file.path) =
      .ok (Text.utf8 (contentsAfter file (after.flatMap (·.files)))) := by
  have listed : g ∈ batches := by
    rw [split]
    exact List.mem_append_right _ List.mem_cons_self
  obtain ⟨document, generated⟩ := ran.generated g listed
  have holds : HoldsLast out ([] ++ batches.flatMap (·.files)) later.tree := ran.holdsLast nofun nofun
  obtain ⟨last, known, found⟩ := holds file (List.mem_flatMap.2 ⟨g, listed, member⟩)
  rw [List.nil_append, split, List.flatMap_append, List.flatMap_cons, last?_append, last?_append,
    last?_of_nodup (files_paths_nodup generated) member] at known
  have latest : contentsAfter file (after.flatMap (·.files)) = last.contents := by
    unfold contentsAfter
    cases later : last? (after.flatMap (·.files)) file.path with
    | none =>
      rw [later] at known
      rw [← Option.some.inj known]
      rfl
    | some other =>
      rw [later] at known
      rw [← Option.some.inj known]
      rfl
  rw [latest, found]

/-! ## The command -/

theorem returns_perform {i : Invocation} (returned : (Command.run host i).run desk = (true, later)) :
    Returns (Command.perform host i) desk 0 later := by
  unfold Command.run at returned
  rw [StateT.run_bind] at returned
  cases ran : outcome (Command.perform host i) desk with
  | mk result between =>
    unfold outcome at ran
    rw [ran] at returned
    rcases result with problem | _ | count
    · cases returned
    · cases returned
      exact ran
    · cases returned

end Desk

/-- A command that has ended well has run each of its inputs and written all their files. What can be read at the path
of such a file is the last file with this path of a later input, or else the file itself. So a file is kept if the
later inputs have no other contents at its path. -/
theorem generate_keeps_last {verbosity : Nat} {s : InputSettings} {out : String} {desk later : Desk}
    (returned : (Command.run Desk.host ⟨verbosity, .generate s out false⟩).run desk = (true, later)) :
    ∃ config configured paths found batches,
      Desk.Returns (Command.configOf Desk.host s) desk config configured ∧
      Desk.Returns (s.inputs.mapM (Command.pathsOf Desk.host)) configured paths found ∧
      Desk.Batches config out found paths.flatten batches later ∧
      ∀ before g after, batches = before ++ g :: after → ∀ file ∈ g.files,
        later.tree.readFile (FilePath.push out file.path) =
          .ok (Text.utf8 (Desk.contentsAfter file (after.flatMap (·.files)))) ∧
        ((∀ other ∈ after.flatMap (·.files), other.path = file.path → other.contents = file.contents) →
          later.tree.readFile (FilePath.push out file.path) = .ok (Text.utf8 file.contents)) := by
  obtain ⟨config, configured, loaded, rest⟩ := Desk.returns_bind.1 (Desk.returns_perform returned)
  obtain ⟨paths, found, listed, rest⟩ := Desk.returns_bind.1 rest
  obtain ⟨counts, _, ran, done⟩ := Desk.returns_bind.1 rest
  obtain ⟨total, rfl⟩ := Desk.returns_pure.1 done
  have clean : ∀ count ∈ counts, count = 0 := by
    rwa [← List.sum_eq_foldl, eq_comm, List.sum_eq_zero_iff_forall_eq_nat] at total
  obtain ⟨batches, ran⟩ := Desk.batches_of_returns clean ran
  refine ⟨config, configured, paths, found, batches, loaded, listed, ran, fun before g after split file member => ?_⟩
  have read := ran.readFile split member
  exact ⟨read, fun agree => by rw [read, Desk.contentsAfter_eq agree]⟩

def structSchema (name : String) : String :=
  "\x7b\"declarations\":[\x7b\"kind\":\"struct\",\"name\":\"" ++ name ++ "\",\"fields\":[]\x7d]\x7d"

/-- The text of a schema with one module, in which there is a struct. -/
def moduleSchema (name : String) : String :=
  "\x7b\"declarations\":[\x7b\"kind\":\"module\",\"name\":\"" ++ name ++ "\",\"declarations\":[" ++
    "\x7b\"kind\":\"struct\",\"name\":\"A\",\"fields\":[]\x7d]\x7d]\x7d"

def deskWith (first second : String) : Desk where
  tree := FileTree.ofFiles [("a.json", Text.utf8 first), ("b.json", Text.utf8 second)]

/-- Both schemas are to be generated into one directory. -/
def generateBoth : Invocation :=
  ⟨0, .generate { inputs := ["a.json", "b.json"] } "gen" false⟩

/-- The inputs have modules of their own. -/
theorem separate_inputs_kept :
    ∃ later, (Command.run Desk.host generateBoth).run (deskWith (moduleSchema "a") (moduleSchema "b")) = (true, later) ∧
      later.tree.isPresent "gen/a/a.go" ∧ later.tree.isPresent "gen/b/b.go" ∧
      ∃ config found paths batches, Desk.Batches config "gen" found paths batches later ∧
        ∀ before g after, batches = before ++ g :: after → ∀ file ∈ g.files,
          later.tree.readFile (FilePath.push "gen" file.path) =
            .ok (Text.utf8 (Desk.contentsAfter file (after.flatMap (·.files)))) := by
  have wrote : ((Command.run Desk.host generateBoth).run (deskWith (moduleSchema "a") (moduleSchema "b"))).1 = true ∧
      ((Command.run Desk.host generateBoth).run
        (deskWith (moduleSchema "a") (moduleSchema "b"))).2.tree.isPresent "gen/a/a.go" ∧
      ((Command.run Desk.host generateBoth).run
        (deskWith (moduleSchema "a") (moduleSchema "b"))).2.tree.isPresent "gen/b/b.go" := by
    decide +kernel
  cases ran : (Command.run Desk.host generateBoth).run (deskWith (moduleSchema "a") (moduleSchema "b")) with
  | mk result later =>
    rw [ran] at wrote
    obtain ⟨rfl, first, second⟩ := wrote
    obtain ⟨config, _, paths, found, batches, -, -, batched, reads⟩ := generate_keeps_last ran
    exact ⟨later, rfl, first, second, config, found, paths.flatten, batches, batched,
      fun before g after split file member => (reads before g after split file member).1⟩

/-- Both inputs have the module at the root, and the second one replaces what the first one has declared. -/
theorem second_input_replaces :
    ∃ later document g,
      (Command.run Desk.host generateBoth).run (deskWith (structSchema "A") (structSchema "B")) = (true, later) ∧
      Document.ofBytes (Text.utf8 (structSchema "A")) = .ok document ∧
      generate {} document.resolve = .ok g ∧
      ∃ file ∈ g.files, ∃ o ∈ g.outputs, Text.utf8 o.source <:+: Text.utf8 file.contents ∧
        ∃ contents, later.tree.readFile (FilePath.push "gen" file.path) = .ok contents ∧
          ¬ Text.utf8 o.source <:+: contents := by
  have lost : ((Command.run Desk.host generateBoth).run (deskWith (structSchema "A") (structSchema "B"))).1 = true ∧
      (Document.ofBytes (Text.utf8 (structSchema "A"))).toOption.any (fun document =>
        (generate {} document.resolve).toOption.any fun g =>
          g.files.any fun file => g.outputs.any fun o => Text.utf8 o.source <:+: Text.utf8 file.contents ∧
            (((Command.run Desk.host generateBoth).run
              (deskWith (structSchema "A") (structSchema "B"))).2.tree.readFile
                (FilePath.push "gen" file.path)).toOption.any fun contents => ¬ Text.utf8 o.source <:+: contents) := by
    decide +kernel
  cases ran : (Command.run Desk.host generateBoth).run (deskWith (structSchema "A") (structSchema "B")) with
  | mk result later =>
    rw [ran] at lost
    obtain ⟨rfl, lost⟩ := lost
    obtain ⟨document, parsed, lost⟩ := exists_of_toOption_any lost
    obtain ⟨g, generated, lost⟩ := exists_of_toOption_any lost
    obtain ⟨file, member, lost⟩ := List.any_eq_true.1 lost
    obtain ⟨o, emitted, lost⟩ := List.any_eq_true.1 lost
    obtain ⟨declares, lost⟩ := of_decide_eq_true lost
    obtain ⟨contents, read, absent⟩ := exists_of_toOption_any lost
    exact ⟨later, document, g, rfl, parsed, generated, file, member, o, emitted, declares, contents, read,
      of_decide_eq_true absent⟩

end SchemaBindings
