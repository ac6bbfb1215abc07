import SchemaBindings.Proofs.Assembly
import SchemaBindings.Proofs.IntroducedNames
import SchemaBindings.Proofs.OutputPaths
import SchemaBindings.Proofs.TupleRecords

/-!
# Reserved words in a run

The names that the outputs and the files of a run introduce are read off their texts, and each one that can be a
reserved word is known (`generate_reserved_names`).

* An output introduces the generics of its declaration as they are declared, and they are not escaped.
* In Rust a declaration or a variant can be called `Self`, since only field and module names are escaped.
* A package of Go that is no module is called what the configuration says, and so is the file of Rust.

Modules are escaped in both targets, so no directory, no other package and no module of Rust has a reserved name.
-/

namespace SchemaBindings

open SourceReader

/-! ## Packages of Go -/

namespace Go

def readPackage : SourceReader String :=
  readNamed (do remarks "//"; exactly "\n"; remarks "//"; exactly "package ") "\n"

theorem readPackage_packageText {package : String} (named : IsName package) (comment : Option String)
    (imports sources : List String) :
    ∃ rest, readPackage.run (packageText package comment imports sources).toList = some (package, rest) := by
  let rest := (importSection imports ++ separatedText sources).toList
  let clause := "package ".toList ++ (package.toList ++ ("\n".toList ++ rest))
  have whole : (packageText package comment imports sources).toList =
      fileHeader.toList ++ ("\n".toList ++ ((commentText "//" comment).toList ++ clause)) := by
    simp [packageText, clause, rest]
  have header : (remarks "//").run (packageText package comment imports sources).toList =
      some ((), "\n".toList ++ ((commentText "//" comment).toList ++ clause)) := by
    have lines : fileHeader =
        String.join (["// Code generated by schema-bindgen (v0.1.0). DO NOT EDIT."].map (· ++ "\n")) := by
      decide
    rw [whole, lines]
    exact remarks_join (by decide) (by decide) rfl
  have comments : (remarks "//").run ((commentText "//" comment).toList ++ clause) = some ((), clause) := by
    rw [← Layout.render_comment_zero indentation]
    exact remarks_comment (by decide) (by decide) (by decide) (Layout.indented_zero _ _) comment rfl
  refine ⟨rest, run_readNamed ?_ named (by decide)⟩
  rw [run_bind_of header, run_bind_of (exactly_append _ _), run_bind_of comments]
  exact exactly_append _ _

/-- The package of a module is escaped, and that of the root is not. -/
theorem packageName_mem_keywords (m : ModulePath) (config : Config) :
    packageName m config ∈ keywords ↔ m = [] ∧ config.package ∈ keywords := by
  cases last : m.getLast? with
  | some segment =>
    have filled : m ≠ [] := by
      rintro rfl
      exact absurd last (by simp)
    rw [packageName, last]
    exact iff_of_false (escape_not_mem_keywords _) fun root => filled root.1
  | none =>
    rw [packageName, last]
    exact (and_iff_right (List.getLast?_eq_none_iff.1 last)).symm

end Go

/-! ## Modules of Rust -/

namespace Rust

def readModule : SourceReader String := do
  remarks "///"
  exactly "pub mod "
  let name ← word isSegmentChar
  exactly " \x7b\n"
  return name

theorem readModule_blockText {segment : String} (identifier : isIdentifier segment) (comment : Option String)
    (items : List String) :
    ∃ rest, readModule.run (blockText comment segment items).toList = some (moduleName segment, rest) := by
  obtain ⟨inside, filled, -⟩ := moduleName_plain identifier
  let rest := (indentText indentation ("\n".intercalate items) ++ "\x7d\n").toList
  let head := "pub mod ".toList ++ ((moduleName segment).toList ++ (" \x7b\n".toList ++ rest))
  have whole : (blockText comment segment items).toList =
      ((Layout.comment "///" comment).render indentation 0).toList ++ head := by
    rw [Layout.render_comment_zero]
    simp [blockText, head, rest]
  have comments : (remarks "///").run (((Layout.comment "///" comment).render indentation 0).toList ++ head) =
      some ((), head) :=
    remarks_comment (by decide) (by decide) (by decide) (Layout.indented_zero _ _) comment rfl
  refine ⟨rest, ?_⟩
  rw [whole, readModule, run_bind_of comments, run_bind_of (exactly_append _ _),
    run_bind_of ((IsFieldName.mk inside filled).read (by decide) _), run_bind_of (exactly_append _ _)]
  rfl

end Rust

/-! ## Files -/

/-- The file of a package of Go introduces the package, which is reserved only if the configuration has named it so; the
directories are not reserved. -/
def Go.FileNames (config : Config) (outputs : List Output) (file : File) : Prop :=
  ∃ o ∈ outputs, ∃ name rest, readPackage.run file.contents.toList = some (name, rest) ∧
    (name ∈ keywords ↔ o.module = [] ∧ config.package ∈ keywords) ∧
    FilePath.components file.path = o.module.map moduleName ++ [name ++ ".go"] ∧
    ∀ directory ∈ o.module.map moduleName, directory ∉ keywords

/-- The file of Rust is called like the package of the configuration, and introduces a module for each one that leads
to an output, none of which is reserved. -/
def Rust.FileNames (config : Config) (outputs : List Output) (file : File) : Prop :=
  file.path = config.package ++ ".rs" ∧
    ∃ comments, file.contents = crateText (outputs.map Output.embedded) comments ∧
      ∀ path, ∀ segment ∈ innerNames (outputs.map Output.embedded) path, ∃ name rest,
        readModule.run (moduleText (outputs.map Output.embedded) comments path segment).toList = some (name, rest) ∧
        name ∉ TargetName.rust.keywords

def TargetName.FileNames : TargetName → Config → List Output → File → Prop
  | go => Go.FileNames
  | rust => Rust.FileNames

section

variable {document : Document} {config : Config} {g : Generation}

theorem fileNames_of_mem_files (generated : generate config document.resolve = .ok g) {file : File}
    (member : file ∈ g.files) : config.target.FileNames config g.outputs file := by
  obtain ⟨valid, files⟩ := files_of_generateFor generated
  rw [files] at member
  have identifiers : ∀ o ∈ g.outputs, ∀ segment ∈ o.module, isIdentifier segment := fun o emitted =>
    module_identifiers config.target.namesOutputs generated emitted
  cases target : config.target with
  | go =>
    rw [target] at member
    obtain ⟨m, listed, rfl⟩ := List.mem_map.1 member
    obtain ⟨o, emitted, rfl⟩ := List.mem_map.1 (mem_ordered.1 listed)
    have segments := identifiers o emitted
    have named := Go.isName_of_isIdentifier (Go.isIdentifier_packageName valid segments)
    obtain ⟨rest, reads⟩ := Go.readPackage_packageText named (document.resolve.moduleComments.lookup o.module)
      (orderedStrings ((g.outputs.filter (·.module = o.module)).flatMap (·.imports)))
      (((g.outputs.filter (·.module = o.module)).map Output.embedded).map (·.source))
    refine ⟨o, emitted, _, rest, ?_, Go.packageName_mem_keywords _ _, Go.components_packageFile valid _ segments _, ?_⟩
    · rw [Go.packageFile_eq]
      exact reads
    · exact List.forall_mem_map.2 fun segment _ => Go.escape_not_mem_keywords _
  | rust =>
    rw [target] at member
    have whole : file ∈ Rust.assemble config g.outputs document.resolve.moduleComments := member
    rw [Rust.assemble_eq] at whole
    obtain rfl := List.mem_singleton.1 whole
    refine ⟨rfl, _, rfl, fun path segment inside => ?_⟩
    rw [Rust.innerNames_embedded] at inside
    obtain ⟨o, emitted, way⟩ := Rust.mem_innerNames.1 inside
    have identifier : isIdentifier segment := identifiers o emitted segment (way.subset (by simp))
    obtain ⟨rest, reads⟩ := Rust.readModule_blockText identifier
      (document.resolve.moduleComments.lookup (path ++ [segment]))
      (Rust.itemTexts (g.outputs.map Output.embedded) document.resolve.moduleComments (path ++ [segment]))
    exact ⟨_, rest, reads, Rust.escape_not_mem_keywords _⟩

/-! ## Runs -/

theorem TargetName.exists_own_output (target : TargetName) (cx : RenderContext) {d : SchemaDeclaration}
    (isItem : d.isModule = false) (own : DeclarationNames) :
    ∃ o ∈ target.target.render cx d own, o.identifier = own.identifier ∧ o.module = cx.module := by
  cases d with
  | module _ _ _ => exact absurd isItem Bool.noConfusion
  | _ => cases target <;> exact ⟨_, List.mem_cons_self, rfl, rfl⟩

/-- A declaration that a run renders introduces all its generics, as they are declared. -/
theorem exists_own_generics (generated : generate config document.resolve = .ok g) {c : Candidate}
    (member : c ∈ plan config.target.target config (runNames config.target.target config document.resolve)
      document.resolve) {own : DeclarationNames} (status : c.status = .ok own) :
    ∃ o ∈ g.outputs, o.module = c.item.module ∧ o.identifier = own.identifier ∧
      ∃ others, Introduces config.target o.source o.identifier c.item.declaration.generics others := by
  obtain ⟨valid, -⟩ := files_of_generateFor generated
  obtain ⟨own', status', -, -, found⟩ := status_of_mem_plan member (Candidate.isReady_iff.2 ⟨own, status⟩)
  cases status.symm.trans status'
  have item := item_of_mem_plan member
  let cx : RenderContext := ⟨config, runNames config.target.target config document.resolve, c.item.module⟩
  have isItem := (Declaration.mem_items_iff.1 item).2
  obtain ⟨o, rendered, called, module⟩ := config.target.exists_own_output cx isItem own
  obtain ⟨generics, others, introduces, -, all, -⟩ := config.target.introduces_declared cx valid item found o rendered
  rw [all called] at introduces
  refine ⟨o, mem_outputs_of_mem_plan generated member ?_, module, called, others, introduces⟩
  rwa [Candidate.outputs, status]

/-- An output of a run introduces the numbered generics of a tuple record, or generics of a declaration in its module. -/
theorem names_of_mem_outputs (generated : generate config document.resolve = .ok g) {o : Output}
    (emitted : o ∈ g.outputs) :
    ∃ generics others, Introduces config.target o.source o.identifier generics others ∧
      (∀ name ∈ o.identifier :: others, config.target.SelfAlone name) ∧
      ((∀ name ∈ generics, name ∉ config.target.keywords) ∨
        ∃ i ∈ document.resolve.items, i.module = o.module ∧ ∀ name ∈ generics, name ∈ i.declaration.generics) := by
  obtain ⟨valid, -⟩ := files_of_generateFor generated
  obtain ⟨arena, requested, -⟩ := exists_planned_tuples config.target.target config
    (runNames config.target.target config document.resolve) document.resolve
  obtain ⟨outputs, -⟩ := eq_of_generateFor generated requested
  rw [outputs] at emitted
  rcases List.mem_append.1 emitted with record | declared
  · obtain ⟨t, listed, rfl⟩ := List.mem_map.1 record
    obtain ⟨arity, asked, rfl⟩ := List.mem_map.1 listed
    have filled : arity ≠ 0 := Nat.ne_of_gt (Nat.lt_of_lt_of_le Nat.two_pos (bounds_of_requested requested arity asked).1)
    obtain ⟨others, introduces, alone⟩ := config.target.introduces_tuple filled
    have called : (config.target.target.tupleOutput (.ofArity arity)).identifier = tupleName arity :=
      congrArg Prod.snd (config.target.namesOutputs.tuples (.ofArity arity))
    rw [← called] at introduces alone
    exact ⟨_, others, introduces, alone,
      .inl (List.forall_mem_map.2 fun i _ => config.target.numbered_not_mem_keywords "T" (i + 1))⟩
  · obtain ⟨c, member, inside⟩ := List.mem_flatMap.1 declared
    obtain ⟨own, status, module, -⟩ := place_of_mem_outputs config.target.namesOutputs (List.mem_map_of_mem inside)
    obtain ⟨own', status', -, -, found⟩ := status_of_mem_plan member (Candidate.isReady_iff.2 ⟨own, status⟩)
    have item := item_of_mem_plan member
    rw [Candidate.outputs, status] at inside
    cases status.symm.trans status'
    obtain ⟨generics, others, introduces, declared, -, alone⟩ :=
      config.target.introduces_declared _ valid item found o inside
    exact ⟨generics, others, introduces, alone, .inr ⟨c.item, item, module.symm, declared⟩⟩

/-- The reserved words that a run introduces. Outputs take generics from the declarations of their modules, and each
declaration that is rendered introduces all of its own. Of the other names of an output only `Self` can be reserved, in
Rust. A file introduces no reserved word apart from the package that the configuration names. -/
theorem generate_reserved_names (generated : generate config document.resolve = .ok g) :
    (∀ o ∈ g.outputs, ∃ generics others, Introduces config.target o.source o.identifier generics others ∧
      (∀ name ∈ o.identifier :: others, config.target.SelfAlone name) ∧
      ((∀ name ∈ generics, name ∉ config.target.keywords) ∨
        ∃ i ∈ document.resolve.items, i.module = o.module ∧ ∀ name ∈ generics, name ∈ i.declaration.generics)) ∧
    (∀ c ∈ plan config.target.target config (runNames config.target.target config document.resolve) document.resolve,
      ∀ own, c.status = .ok own → ∃ o ∈ g.outputs, o.module = c.item.module ∧ o.identifier = own.identifier ∧
        ∃ others, Introduces config.target o.source o.identifier c.item.declaration.generics others) ∧
    ∀ file ∈ g.files, config.target.FileNames config g.outputs file :=
  ⟨fun _ emitted => names_of_mem_outputs generated emitted,
    fun _ member _ status => exists_own_generics generated member status,
    fun _ member => fileNames_of_mem_files generated member⟩

end

/-- A struct with a generic that is called like a keyword. -/
def boxedDocument : Document :=
  ⟨[.struct ⟨"Box", ["type"], [⟨"value", .param "type", none⟩], none⟩]⟩

theorem boxed_names_known :
    let config : Config := { package := "func" }
    ∃ g, generate config boxedDocument.resolve = .ok g ∧
      (∃ o ∈ g.outputs, ∃ others, Introduces .go o.source "Box" ["type"] others) ∧
      (∀ o ∈ g.outputs, o.identifier ∉ TargetName.go.keywords) ∧
      ∀ file ∈ g.files, ∃ o ∈ g.outputs, ∃ name rest,
        Go.readPackage.run file.contents.toList = some (name, rest) ∧ (name ∈ Go.keywords ↔ o.module = []) := by
  intro config
  have valid : config.validate = .ok () := by decide +kernel
  obtain ⟨g, generated⟩ := exists_generateFor_of_lenient config.target.target boxedDocument.resolve valid rfl
  obtain ⟨outputs, rendered, files⟩ := generate_reserved_names generated
  refine ⟨g, generated, ?_, fun o emitted reserved => ?_, fun file member => ?_⟩
  · obtain ⟨c, member, same⟩ : ∃ c ∈ plan Go.target config (runNames Go.target config boxedDocument.resolve)
        boxedDocument.resolve, c.item = ⟨[], .struct ⟨"Box", ["type"], [⟨"value", .param "type", none⟩], none⟩⟩ :=
      exists_candidate (List.mem_of_getElem? (i := 0) rfl)
    have named : ∀ c ∈ plan Go.target config (runNames Go.target config boxedDocument.resolve) boxedDocument.resolve,
        c.status.toOption.map (·.identifier) = some "Box" := by
      decide +kernel
    obtain ⟨own, status, box⟩ := exists_of_toOption_map (named c member)
    obtain ⟨o, emitted, -, called, others, introduces⟩ := rendered c member own status
    rw [called, box, same] at introduces
    exact ⟨o, emitted, others, introduces⟩
  · obtain ⟨generics, others, -, alone, -⟩ := outputs o emitted
    exact absurd ((alone _ List.mem_cons_self).1 reserved).1 TargetName.noConfusion
  · obtain ⟨o, emitted, name, rest, reads, reserved, -⟩ := files file member
    exact ⟨o, emitted, name, rest, reads, reserved.trans (and_iff_left (by decide))⟩

/-- The generic is introduced as it is declared, although it is a reserved word. -/
theorem boxed_generic_reserved :
    ∃ g, generate {} boxedDocument.resolve = .ok g ∧ ∃ o ∈ g.outputs, ∃ others,
      Introduces .go o.source "Box" ["type"] others ∧ "type" ∈ TargetName.go.keywords := by
  have returned : (generate {} boxedDocument.resolve).toOption.map (fun g => g.outputs.map fun o =>
      ((TargetName.go.readVariant ["type"]).run o.source.toList).map fun (read, rest) =>
        (read.1.type, read.1.binders, rest)) = some [some (⟨"Box", ["type"]⟩, ["type"], [])] := by
    decide +kernel
  obtain ⟨g, generated, returned⟩ := exists_of_toOption_map returned
  obtain ⟨o, listed, reads⟩ := List.map_eq_singleton_iff.1 returned
  obtain ⟨⟨⟨text, methods⟩, rest⟩, reads, same⟩ := Option.map_eq_some_iff.1 reads
  obtain ⟨type, binders, rfl⟩ : text.type = ⟨"Box", ["type"]⟩ ∧ text.binders = ["type"] ∧ rest = [] := by
    simpa using same
  have introduces := Introduces.record reads (by rw [type, binders])
  rw [type] at introduces
  exact ⟨g, generated, o, listed ▸ List.mem_singleton_self o, _, introduces, by decide⟩

end SchemaBindings
