import SchemaBindings.Command.Run
import SchemaBindings.Proofs.FileTrees
import SchemaBindings.Proofs.OutputPaths

/-!
# Files that a command writes

A command on a desk returns a value and leaves another desk (`Desk.Returns`), and a sequence returns if each of its
parts does, one after the other.

Writing a file makes directories, which takes nothing away (`Desk.preserves_makeDirectories`), and then replaces what
stood at one place. So the file can be read there, and no other place has changed (`Desk.returns_writeFile`). After
several files the last one with a path can be read at it (`Desk.HoldsLast`): this is what one file preserves
(`Desk.HoldsLast.concat`), and so any number of them does (`Desk.HoldsLast.append`).
-/

namespace SchemaBindings

namespace Desk

/-! ## Actions that return -/

section

variable {α β : Type}

/-- The outcome of an action, and the desk that it leaves. -/
def outcome (action : ExceptT CommandProblem (StateM Desk) α) (desk : Desk) : Except CommandProblem α × Desk :=
  action.run.run desk

/-- The action returns a value and leaves another desk. -/
def Returns (action : ExceptT CommandProblem (StateM Desk) α) (desk : Desk) (a : α) (later : Desk) : Prop :=
  outcome action desk = (.ok a, later)

variable {desk later : Desk} {b : β}

theorem returns_bind {action : ExceptT CommandProblem (StateM Desk) α}
    {next : α → ExceptT CommandProblem (StateM Desk) β} :
    Returns (action >>= next) desk b later ↔
      ∃ a between, Returns action desk a between ∧ Returns (next a) between b later := by
  have run : outcome (action >>= next) desk =
      outcome (ExceptT.mk (ExceptT.bindCont next (outcome action desk).1)) (outcome action desk).2 := rfl
  unfold Returns
  rw [run]
  obtain ⟨result, between⟩ := outcome action desk
  cases result with
  | ok a =>
    constructor
    · exact fun returns => ⟨a, between, rfl, returns⟩
    · rintro ⟨_, _, same, returns⟩
      cases same
      exact returns
  | error problem =>
    constructor
    · intro returns
      cases returns
    · rintro ⟨_, _, same, -⟩
      cases same

theorem returns_pure {a : β} : Returns (pure a) desk b later ↔ b = a ∧ later = desk := by
  constructor
  · intro returns
    cases returns
    exact ⟨rfl, rfl⟩
  · rintro ⟨rfl, rfl⟩
    rfl

theorem not_returns_throw {problem : CommandProblem} : ¬ Returns (throw problem) desk b later := by
  intro returns
  cases returns

theorem returns_lift {action : StateM Desk β} :
    Returns (liftM action) desk b later ↔ action.run desk = (b, later) := by
  constructor
  · intro returns
    have result : (.ok (action.run desk).1, (action.run desk).2) = (Except.ok b, later) := returns
    cases result
    rfl
  · intro returns
    show (Except.ok (action.run desk).1, (action.run desk).2) = _
    rw [returns]

theorem returns_orProblem {problem : FileProblem → CommandProblem} {action : StateM Desk (Except FileProblem β)} :
    Returns (Command.orProblem problem action) desk b later ↔ action.run desk = (.ok b, later) := by
  rw [Command.orProblem, returns_bind]
  constructor
  · rintro ⟨result, between, first, last⟩
    have ran := returns_lift.1 first
    cases result with
    | ok a =>
      obtain ⟨rfl, rfl⟩ := returns_pure.1 last
      exact ran
    | error problem => exact absurd last not_returns_throw
  · exact fun ran => ⟨.ok b, later, returns_lift.2 ran, returns_pure.2 ⟨rfl, rfl⟩⟩

theorem returns_forM_cons {action : α → ExceptT CommandProblem (StateM Desk) Unit} {a : α} {as : List α} {u : Unit} :
    Returns ((a :: as).forM action) desk u later ↔
      ∃ between, Returns (action a) desk () between ∧ Returns (as.forM action) between () later := by
  have unfolded : Returns ((a :: as).forM action) desk u later ↔ Returns (action a >>= fun _ => as.forM action) desk u later :=
    Iff.rfl
  rw [unfolded, returns_bind, exists_unit_iff]

theorem returns_mapM_cons {action : α → ExceptT CommandProblem (StateM Desk) β} {a : α} {as : List α} {bs : List β} :
    Returns ((a :: as).mapM action) desk bs later ↔
      ∃ b others between, bs = b :: others ∧ Returns (action a) desk b between ∧
        Returns (as.mapM action) between others later := by
  rw [List.mapM_cons, returns_bind]
  constructor
  · rintro ⟨b, between, first, rest⟩
    obtain ⟨others, last, rest, done⟩ := returns_bind.1 rest
    obtain ⟨rfl, rfl⟩ := returns_pure.1 done
    exact ⟨b, others, between, rfl, first, rest⟩
  · rintro ⟨b, others, between, rfl, first, rest⟩
    exact ⟨b, between, first, returns_bind.2 ⟨others, later, rest, returns_pure.2 ⟨rfl, rfl⟩⟩⟩

end

/-! ## Directories -/

section

variable {α β : Type}

/-- Whatever comes of the action, what stands in the tree before it stands there afterwards. -/
def Preserves (action : StateM Desk α) : Prop :=
  ∀ desk : Desk, desk.tree.Keeps (action.run desk).2.tree

theorem preserves_pure (a : α) : Preserves (pure a) :=
  fun _ _ _ found => found

theorem Preserves.bind {action : StateM Desk α} {next : α → StateM Desk β} (first : Preserves action)
    (rest : ∀ a, Preserves (next a)) : Preserves (action >>= next) :=
  fun desk place entry found => rest _ _ place entry (first desk place entry found)

theorem preserves_ask (question : FileTree → α) : Preserves (ask question) :=
  fun _ _ _ found => found

theorem run_change (operation : FileTree → Except FileProblem FileTree) (desk : Desk) :
    (change operation).run desk =
      match operation desk.tree with
      | .ok tree => (.ok (), { desk with tree })
      | .error problem => (.error problem, desk) := by
  have unfolded : (change operation).run desk =
      StateT.run (match operation desk.tree with
        | .ok tree => do
          set { desk with tree }
          return .ok ()
        | .error problem => return .error problem) desk := rfl
  rw [unfolded]
  cases operation desk.tree <;> rfl

theorem preserves_makeDirectory (path : String) : Preserves (host.makeDirectory path) := by
  intro desk place entry found
  have run := run_change (·.makeDirectory path) desk
  cases made : desk.tree.makeDirectory path with
  | error problem =>
    rw [made] at run
    show FileTree.entry? (StateT.run (change (·.makeDirectory path)) desk).2.tree place = some entry
    rw [run]
    exact found
  | ok tree =>
    rw [made] at run
    show FileTree.entry? (StateT.run (change (·.makeDirectory path)) desk).2.tree place = some entry
    rw [run]
    exact FileTree.makeDirectory_eq_ok made place entry found

theorem preserves_ensureDirectory (path : String) : Preserves (host.ensureDirectory path) := by
  refine (preserves_makeDirectory path).bind fun result => ?_
  cases result with
  | ok _ => exact preserves_pure _
  | error problem => exact Preserves.bind (preserves_ask (·.isDirectory path)) fun _ => preserves_pure _

/-- Directories are made around what is there. -/
theorem preserves_makeDirectories (path : String) : Preserves (host.makeDirectories path) := by
  have made : ∀ (around : List String) (path : String), Preserves (host.makeDirectoriesFrom path around) := by
    intro around
    induction around with
    | nil =>
      intro path
      rw [Host.makeDirectoriesFrom]
      split
      · exact preserves_pure _
      · exact preserves_ensureDirectory path
    | cons next around ih =>
      intro path
      rw [Host.makeDirectoriesFrom]
      refine (preserves_ensureDirectory path).bind fun result => ?_
      split
      · refine (ih next).bind fun result => ?_
        split
        · exact preserves_ensureDirectory path
        · exact preserves_pure _
      · exact preserves_pure _
  exact made _ _

end

/-! ## One file -/

section

variable {out : String} {file : File} {desk later : Desk}

theorem returns_put {path contents : String} {u : Unit}
    (returns : Returns (do
      Command.orProblem (.unwritten path) (host.writeFile path contents)
      liftM (host.report ("wrote " ++ path))) desk u later) :
    ∃ place, desk.tree.place path = .ok place ∧ desk.tree.Replaces place (Text.utf8 contents) later.tree := by
  obtain ⟨_, between, first, last⟩ := returns_bind.1 returns
  have wrote := (run_change (·.writeFile path (Text.utf8 contents)) desk).symm.trans (returns_orProblem.1 first)
  have reported : later.tree = between.tree := congrArg (fun x => x.2.tree) (returns_lift.1 last).symm
  cases written : desk.tree.writeFile path (Text.utf8 contents) with
  | error problem =>
    rw [written] at wrote
    cases wrote
  | ok tree =>
    rw [written] at wrote
    obtain rfl := congrArg Prod.snd wrote
    rw [reported]
    exact FileTree.writeFile_eq_ok written

/-- Around a file that is written directories are made; then it replaces what stood at its place. -/
theorem returns_writeFile {u : Unit} (returns : Returns (Command.writeFile host out file) desk u later) :
    ∃ between place, desk.tree.Keeps between ∧ between.place (FilePath.push out file.path) = .ok place ∧
      between.Replaces place (Text.utf8 file.contents) later.tree := by
  unfold Command.writeFile at returns
  dsimp only at returns
  cases around : FilePath.parent? (FilePath.push out file.path) with
  | none =>
    rw [around] at returns
    obtain ⟨place, arrived, replaces⟩ := returns_put returns
    exact ⟨desk.tree, place, fun _ _ found => found, arrived, replaces⟩
  | some directory =>
    rw [around] at returns
    obtain ⟨_, between, made, rest⟩ := returns_bind.1 returns
    obtain ⟨place, arrived, replaces⟩ := returns_put rest
    have kept := preserves_makeDirectories directory desk
    rw [returns_orProblem.1 made] at kept
    exact ⟨between.tree, place, kept, arrived, replaces⟩

theorem readFile_written {u : Unit} (returns : Returns (Command.writeFile host out file) desk u later) :
    later.tree.readFile (FilePath.push out file.path) = .ok (Text.utf8 file.contents) := by
  obtain ⟨between, place, -, arrived, replaces⟩ := returns_writeFile returns
  exact FileTree.readFile_eq_ok_iff.2
    ⟨place, (FileTree.place_eq_ok replaces.keepsDirectories arrived).2, replaces.file⟩

/-- Another file stays as it is. -/
theorem readFile_other {u : Unit} (returns : Returns (Command.writeFile host out file) desk u later)
    {names names' : List String} (some : names ≠ []) (plain : ∀ name ∈ names, FilePath.IsPlain name)
    (some' : names' ≠ []) (plain' : ∀ name ∈ names', FilePath.IsPlain name)
    (path : file.path = FilePath.ofComponents names) (differ : names' ≠ names) {contents : List UInt8}
    (found : desk.tree.readFile (FilePath.push out (FilePath.ofComponents names')) = .ok contents) :
    later.tree.readFile (FilePath.push out (FilePath.ofComponents names')) = .ok contents := by
  obtain ⟨between, place, kept, arrived, replaces⟩ := returns_writeFile returns
  obtain ⟨other, arrived', entry⟩ := FileTree.readFile_eq_ok_iff.1 found
  have arrivedBetween := (FileTree.place_eq_ok (fun q => kept q .directory) arrived').2
  have apart : other ≠ place := by
    rw [path] at arrived
    rw [FileTree.place_push some plain arrived, FileTree.place_push some' plain' arrived']
    exact fun same => differ (List.append_cancel_left same)
  refine FileTree.readFile_eq_ok_iff.2 ⟨other, (FileTree.place_eq_ok replaces.keepsDirectories arrivedBetween).2, ?_⟩
  rw [replaces.others other apart]
  exact kept other _ entry

end

/-! ## Several files -/

/-- The path leads down by plain names. -/
def IsBelow (path : String) : Prop :=
  ∃ names, names ≠ [] ∧ (∀ name ∈ names, FilePath.IsPlain name) ∧ path = FilePath.ofComponents names

/-- The last of the files with a path. -/
def last? (files : List File) (path : String) : Option File :=
  files.reverse.find? (·.path = path)

/-- At the path of each file the last one with this path can be read. -/
def HoldsLast (out : String) (files : List File) (tree : FileTree) : Prop :=
  ∀ file ∈ files, ∃ last, last? files file.path = some last ∧
    tree.readFile (FilePath.push out file.path) = .ok (Text.utf8 last.contents)

theorem last?_concat (files : List File) (file : File) (path : String) :
    last? (files ++ [file]) path = if file.path = path then some file else last? files path := by
  rw [last?, List.reverse_append, List.reverse_singleton, List.singleton_append, List.find?_cons]
  by_cases same : file.path = path
  · rw [if_pos same, decide_eq_true same]
  · rw [if_neg same, decide_eq_false same]
    rfl

section

variable {out : String} {files : List File} {desk later : Desk}

theorem HoldsLast.concat {file : File} {u : Unit} (holds : HoldsLast out files desk.tree)
    (below : ∀ other ∈ files ++ [file], IsBelow other.path)
    (returns : Returns (Command.writeFile host out file) desk u later) :
    HoldsLast out (files ++ [file]) later.tree := by
  intro other member
  rw [last?_concat]
  by_cases same : file.path = other.path
  · rw [if_pos same, ← same]
    exact ⟨file, rfl, readFile_written returns⟩
  · rw [if_neg same]
    have earlier : other ∈ files := by
      refine (List.mem_append.1 member).resolve_right fun last => same ?_
      rw [List.mem_singleton.1 last]
    obtain ⟨last, known, found⟩ := holds other earlier
    obtain ⟨names, some, plain, path⟩ := below file (List.mem_append_right _ List.mem_cons_self)
    obtain ⟨names', some', plain', path'⟩ := below other member
    have differ : names' ≠ names := by
      rintro rfl
      exact same (path.trans path'.symm)
    rw [path'] at known found ⊢
    exact ⟨last, known, readFile_other returns some plain some' plain' path differ found⟩

theorem HoldsLast.append {rest : List File} {u : Unit} (holds : HoldsLast out files desk.tree)
    (below : ∀ file ∈ files ++ rest, IsBelow file.path)
    (returns : Returns (rest.forM (Command.writeFile host out)) desk u later) :
    HoldsLast out (files ++ rest) later.tree := by
  induction rest generalizing files desk with
  | nil =>
    obtain ⟨-, rfl⟩ := returns_pure.1 returns
    rwa [List.append_nil]
  | cons file rest ih =>
    obtain ⟨between, first, others⟩ := returns_forM_cons.1 returns
    rw [List.append_cons] at below ⊢
    have added := holds.concat (fun other member => below other (List.mem_append_left _ member)) first
    exact ih added below others

end

end Desk

end SchemaBindings
