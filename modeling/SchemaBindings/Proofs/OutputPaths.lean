import SchemaBindings.Proofs.FilePaths
import SchemaBindings.Proofs.GoFiles

/-!
# Paths of the files of a run

A run writes below its output directory and nowhere else, and no file of it replaces another
(`generate_paths_distinct`).

* The spelling of a package in Go is an identifier again, so every directory is named by one
  (`Go.isIdentifier_moduleName`), and a name made of identifier characters leads one step down.
* The components of a path in Go are those of the emitted path of a module, and modules that hold an output differ in
  them (`module_eq_of_mem_outputs`). Rust has a single file.
-/

namespace SchemaBindings

def TargetName.extension : TargetName → String
  | go => ".go"
  | rust => ".rs"

/-! ## Names of directories and files -/

theorem isIdentifier_iff {name : String} :
    isIdentifier name ↔ ∃ c rest, name.toList = c :: rest ∧ c.isAlpha = true ∧ ∀ d ∈ rest, isIdentifierChar d = true := by
  unfold isIdentifier
  cases name.toList with
  | nil => simp [isIdentifierChars]
  | cons c rest => simp [isIdentifierChars]

theorem isPlain_of_letter {name : String} {c : Char} {rest : List Char} (chars : name.toList = c :: rest)
    (letter : c.isAlpha = true) (inside : '/' ∉ name.toList) : FilePath.IsPlain name where
  filled := by
    rintro rfl
    exact absurd chars (by simp)
  single := inside
  inside := by
    rintro rfl
    obtain ⟨rfl, -⟩ := List.cons.inj chars
    exact absurd letter (by decide)
  down := by
    rintro rfl
    obtain ⟨rfl, -⟩ := List.cons.inj chars
    exact absurd letter (by decide)

theorem isPlain_of_isIdentifier {name : String} (identifier : isIdentifier name) : FilePath.IsPlain name := by
  obtain ⟨c, rest, chars, letter⟩ := Text.isIdentifier_cons identifier
  exact isPlain_of_letter chars letter fun slash =>
    absurd (Text.isIdentifierChar_of_mem identifier slash) (by decide)

/-- A file with an extension is no step up either. -/
theorem isPlain_file {stem : String} (identifier : isIdentifier stem) (target : TargetName) :
    FilePath.IsPlain (stem ++ target.extension) := by
  obtain ⟨c, rest, chars, letter⟩ := Text.isIdentifier_cons identifier
  have whole : (stem ++ target.extension).toList = c :: (rest ++ target.extension.toList) := by
    rw [String.toList_append, chars, List.cons_append]
  refine isPlain_of_letter whole letter ?_
  rw [String.toList_append, List.mem_append, not_or]
  refine ⟨(isPlain_of_isIdentifier identifier).single, ?_⟩
  cases target <;> decide

theorem Go.isIdentifier_moduleName {segment : String} (identifier : isIdentifier segment) :
    isIdentifier (Go.moduleName segment) := by
  obtain ⟨c, rest, chars, letter⟩ := Text.isIdentifier_cons identifier
  have small : c.isAlpha = true → c.toLower.isAlpha = true :=
    Text.of_ascii (P := fun c => c.isAlpha = true → c.toLower.isAlpha = true) (by decide +kernel)
      (Text.toNat_lt_of_isAlphanum (Text.isAlpha_cases letter).2.1)
  -- Escaping changes the end of a name only.
  obtain ⟨tail, whole⟩ : ∃ tail, (Go.moduleName segment).toList = c.toLower :: tail := by
    unfold Go.moduleName Go.escape
    split
    · rw [String.toList_append, toList_toLower, chars]
      exact ⟨_, rfl⟩
    · rw [toList_toLower, chars]
      exact ⟨_, rfl⟩
  refine isIdentifier_iff.2 ⟨_, tail, whole, small letter, fun d member => ?_⟩
  exact Go.moduleName_isIdentifierChar identifier d (whole ▸ List.mem_cons_of_mem _ member)

theorem Go.isIdentifier_packageName {config : Config} (valid : config.validate = .ok ()) {m : ModulePath}
    (identifiers : ∀ segment ∈ m, isIdentifier segment) : isIdentifier (Go.packageName m config) := by
  unfold Go.packageName
  split
  · next segment last => exact Go.isIdentifier_moduleName (identifiers segment (List.mem_of_getLast? last))
  · exact (names_of_validate valid).2

theorem isPlain_of_mem_place {directories : List String} {stem : String}
    (identifiers : ∀ name ∈ directories, isIdentifier name) (identifier : isIdentifier stem) (target : TargetName) :
    ∀ name ∈ directories ++ [stem ++ target.extension], FilePath.IsPlain name := by
  refine List.forall_mem_append.2 ⟨fun name member => isPlain_of_isIdentifier (identifiers name member), ?_⟩
  exact fun name member => List.mem_singleton.1 member ▸ isPlain_file identifier target

/-- The path of a package can be read off that of its file. -/
theorem Go.components_packageFile {config : Config} (valid : config.validate = .ok ())
    (comments : List (ModulePath × String)) {m : ModulePath} (segments : ∀ segment ∈ m, isIdentifier segment)
    (outputs : List Output) :
    FilePath.components (Go.packageFile config comments m outputs).path =
      m.map Go.moduleName ++ [Go.packageName m config ++ ".go"] :=
  FilePath.components_ofComponents (isPlain_of_mem_place
    (List.forall_mem_map.2 fun segment inside => Go.isIdentifier_moduleName (segments segment inside))
    (Go.isIdentifier_packageName valid segments) .go)

/-! ## Files of a run -/

section

variable {document : Document} {config : Config} {g : Generation}

/-- The directories and the stem of each file: those of a module of the run in Go, and the package in Rust. -/
theorem place_of_mem_files (generated : generate config document.resolve = .ok g) {file : File}
    (member : file ∈ g.files) :
    ∃ (directories : List String) (stem : String), (∀ name ∈ directories, isIdentifier name) ∧ isIdentifier stem ∧
      file.path = FilePath.ofComponents (directories ++ [stem ++ config.target.extension]) ∧
      (config.target = .go → ∃ o ∈ g.outputs, directories = o.module.map Go.moduleName) := by
  obtain ⟨valid, files⟩ := files_of_generateFor generated
  rw [files] at member
  cases target : config.target with
  | go =>
    rw [generate, target] at generated
    rw [target] at member
    obtain ⟨m, listed, rfl⟩ := List.mem_map.1 member
    obtain ⟨o, emitted, rfl⟩ := List.mem_map.1 (mem_ordered.1 listed)
    have identifiers := module_identifiers go_namesOutputs generated emitted
    refine ⟨o.module.map Go.moduleName, Go.packageName o.module config, ?_, ?_, rfl, fun _ => ⟨o, emitted, rfl⟩⟩
    · exact List.forall_mem_map.2 fun segment inside => Go.isIdentifier_moduleName (identifiers segment inside)
    · exact Go.isIdentifier_packageName valid identifiers
  | rust =>
    rw [target] at member
    obtain rfl := List.mem_singleton.1 member
    refine ⟨[], config.package, by simp, (names_of_validate valid).2, ?_, nofun⟩
    exact (FilePath.ofComponents_single (isPlain_file (names_of_validate valid).2 .rust).single).symm

theorem files_paths_nodup (generated : generate config document.resolve = .ok g) : (g.files.map (·.path)).Nodup := by
  obtain ⟨valid, files⟩ := files_of_generateFor generated
  rw [files]
  cases target : config.target with
  | go =>
    rw [generate, target] at generated
    show ((Go.assemble config g.outputs _).map (·.path)).Nodup
    rw [Go.assemble, List.map_map]
    refine List.Nodup.map_on (fun m listed n listed' same => ?_) (Go.modules_nodup _)
    obtain ⟨o, emitted, rfl⟩ := List.mem_map.1 (mem_ordered.1 listed)
    obtain ⟨o', emitted', rfl⟩ := List.mem_map.1 (mem_ordered.1 listed')
    have components := congrArg FilePath.components same
    rw [Function.comp_apply, Function.comp_apply,
      Go.components_packageFile valid _ (module_identifiers go_namesOutputs generated emitted),
      Go.components_packageFile valid _ (module_identifiers go_namesOutputs generated emitted')] at components
    exact module_eq_of_mem_outputs go_namesOutputs generated emitted emitted' (List.append_inj_left' components rfl)
  | rust => exact List.nodup_singleton _

/-- The files of a run have different relative paths, which are made of identifiers and so stay below any output
directory. The modules that hold an output have different emitted paths; in Go these are the directories. -/
theorem generate_paths_distinct (generated : generate config document.resolve = .ok g) :
    (g.files.map (·.path)).Nodup ∧
    (∀ file ∈ g.files, ∃ (directories : List String) (stem : String),
      (∀ name ∈ directories, isIdentifier name) ∧ isIdentifier stem ∧ FilePath.isAbsolute file.path = false ∧
      FilePath.components file.path = directories ++ [stem ++ config.target.extension] ∧
      (∀ out, FilePath.components (FilePath.push out file.path) =
        FilePath.components out ++ FilePath.components file.path) ∧
      (config.target = .go → ∃ o ∈ g.outputs, directories = o.module.map Go.moduleName)) ∧
    ∀ o ∈ g.outputs, ∀ o' ∈ g.outputs,
      o.module.map config.target.target.conventions.moduleName =
        o'.module.map config.target.target.conventions.moduleName → o.module = o'.module := by
  refine ⟨files_paths_nodup generated, fun file member => ?_, fun o emitted o' emitted' =>
    module_eq_of_mem_outputs config.target.namesOutputs generated emitted emitted'⟩
  obtain ⟨directories, stem, identifiers, identifier, path, modules⟩ := place_of_mem_files generated member
  have plain := isPlain_of_mem_place identifiers identifier config.target
  refine ⟨directories, stem, identifiers, identifier, ?_, ?_, fun out => ?_, modules⟩
  · rw [path]
    exact FilePath.isAbsolute_ofComponents plain
  · rw [path, FilePath.components_ofComponents plain]
  · rw [path, FilePath.components_push out (by simp) plain, FilePath.components_ofComponents plain]

end

/-- Two modules with one emitted name, inside a module that is called like a keyword, and a tuple. -/
def stackedDocument : Document :=
  ⟨[.struct ⟨"A", [], [⟨"x", .tuple [.scalar .u8, .scalar .u8], none⟩], none⟩,
    .module "Type" none
      [.module "Sub" none [.struct ⟨"B", [], [], none⟩], .module "sub" none [.struct ⟨"C", [], [], none⟩]]]⟩

theorem stacked_paths_distinct :
    ∃ g, generate {} stackedDocument.resolve = .ok g ∧
      g.files.map (·.path) = ["schema.go", "type_/sub/sub.go", "tuples/tuples.go"] ∧
      (g.files.map (·.path)).Nodup ∧
      ∀ file ∈ g.files, FilePath.components (FilePath.push "gen" file.path) =
        "gen" :: FilePath.components file.path := by
  have paths : (generate {} stackedDocument.resolve).toOption.map (fun g => g.files.map (·.path)) =
      some ["schema.go", "type_/sub/sub.go", "tuples/tuples.go"] := by
    decide +kernel
  obtain ⟨g, generated, paths⟩ := exists_of_toOption_map paths
  obtain ⟨distinct, places, -⟩ := generate_paths_distinct generated
  refine ⟨g, generated, paths, distinct, fun file member => ?_⟩
  obtain ⟨directories, stem, -, -, -, -, below, -⟩ := places file member
  exact (below "gen").trans rfl

end SchemaBindings
