import SchemaBindings.Proofs.GoFiles
import SchemaBindings.Proofs.GoRecords
import SchemaBindings.Proofs.ModuleTrees

/-!
# What assembly keeps

The files of a run are told from its outputs alone, without the layouts and the tree of modules that make them
(`assemble_conserves`). Each source stands in one file, once, as it was rendered.

* Go has one file for each module that holds an output. Behind its import section stand the sources of the module, in
  order, each after a blank line.
* Rust has one file. A module is the list of its items: its sources in order, and then a block for each module inside
  it, by name (`Rust.itemTexts`). Items are separated by blank lines, and a block indents what it holds by one level.

A file takes the sources up line by line (`Output.embedded`), which changes nothing if they consist of whole lines. The
names of the blocks stand in one line each, whatever the module is called (`Rust.oneLine_moduleName`), so that they are
indented as a whole.
-/

namespace SchemaBindings

/-! ## Texts without layouts -/

def commentText (marker : String) (comment : Option String) : String :=
  String.join ((commentTexts comment).map fun line => commentLine marker line ++ "\n")

/-- A blank line and an item, for each of several items. -/
def separatedText (items : List String) : String :=
  String.join (items.map ("\n" ++ ·))

theorem Layout.render_comment_zero (unit marker : String) (comment : Option String) :
    (Layout.comment marker comment).render unit 0 = commentText marker comment := by
  rw [render_eq, lineTexts_comment, commentText, List.map_map]
  refine congrArg String.join (List.map_congr_left fun line _ => ?_)
  rw [Function.comp_apply, indented_zero]

/-- The output with its source as a file takes it up. -/
def Output.embedded (o : Output) : Output :=
  { o with source := SchemaBindings.embedded o.source }

theorem map_embedded {outputs : List Output} (lined : ∀ o ∈ outputs, IsLined o.source) :
    outputs.map Output.embedded = outputs := by
  have same : ∀ o ∈ outputs, o.embedded = o := fun o member => by rw [Output.embedded, (lined o member).embedded_eq]
  rw [List.map_congr_left same, List.map_id']

theorem filter_embedded (outputs : List Output) (m : ModulePath) :
    (outputs.map Output.embedded).filter (·.module = m) = (outputs.filter (·.module = m)).map Output.embedded := by
  rw [List.filter_map]
  rfl

namespace Go

def importSection : List String → String
  | [] => ""
  | [single] => "\nimport \"" ++ single ++ "\"\n"
  | imports => "\nimport (\n" ++ String.join (imports.map fun path => "\t\"" ++ path ++ "\"\n") ++ ")\n"

def packageText (package : String) (comment : Option String) (imports sources : List String) : String :=
  fileHeader ++ "\n" ++ commentText "//" comment ++ "package " ++ package ++ "\n" ++ importSection imports ++
    separatedText sources

end Go

namespace Rust

/-- The text of a module with these items: a blank line stands between them. -/
def blockText (comment : Option String) (name : String) (items : List String) : String :=
  commentText "///" comment ++ "pub mod " ++ moduleName name ++ " \x7b\n" ++
    indentText indentation ("\n".intercalate items) ++ "\x7d\n"

/-- The length of the longest path to an output. -/
def depth (outputs : List Output) : Nat :=
  outputs.foldr (fun o longest => max o.module.length longest) 0

theorem innerNames_embedded (outputs : List Output) (path : ModulePath) :
    innerNames (outputs.map Output.embedded) path = innerNames outputs path := by
  rw [innerNames, List.filterMap_map]
  rfl

theorem length_le_depth {outputs : List Output} {o : Output} (member : o ∈ outputs) :
    o.module.length ≤ depth outputs := by
  induction outputs with
  | nil => exact absurd member List.not_mem_nil
  | cons first outputs ih =>
    rcases List.mem_cons.1 member with rfl | later
    · exact Nat.le_max_left _ _
    · exact (ih later).trans (Nat.le_max_right _ _)

theorem length_lt_depth {outputs : List Output} {path : ModulePath} {name : String}
    (member : name ∈ innerNames outputs path) : path.length < depth outputs := by
  obtain ⟨o, among, inside⟩ := mem_innerNames.1 member
  have longer := inside.length_le
  rw [List.length_append] at longer
  exact Nat.lt_of_lt_of_le longer (length_le_depth among)

/-- The items of the module at `path`: the sources of its outputs, and then the modules that lead to others. -/
def itemTexts (outputs : List Output) (comments : List (ModulePath × String)) (path : ModulePath) : List String :=
  (outputs.filter (·.module = path)).map (·.source) ++
    (innerNames outputs path).attach.map fun ⟨name, _⟩ =>
      blockText (comments.lookup (path ++ [name])) name (itemTexts outputs comments (path ++ [name]))
termination_by depth outputs - path.length
decreasing_by
  have shorter := length_lt_depth ‹name ∈ innerNames outputs path›
  rw [List.length_append, List.length_singleton]
  omega

/-- The item of a module inside another. -/
def moduleText (outputs : List Output) (comments : List (ModulePath × String)) (path : ModulePath) (name : String) :
    String :=
  blockText (comments.lookup (path ++ [name])) name (itemTexts outputs comments (path ++ [name]))

theorem itemTexts_eq (outputs : List Output) (comments : List (ModulePath × String)) (path : ModulePath) :
    itemTexts outputs comments path =
      (outputs.filter (·.module = path)).map (·.source) ++
        (innerNames outputs path).map (moduleText outputs comments path) := by
  rw [itemTexts, List.map_attach_eq_pmap, List.pmap_eq_map]
  rfl

def crateText (outputs : List Output) (comments : List (ModulePath × String)) : String :=
  fileHeader ++ separatedText (itemTexts outputs comments [])

end Rust

/-! ## Packages of Go -/

theorem Layout.renderAll_map_eq {α : Type} (unit : String) (depth : Nat) (piece : α → Layout) (as : List α) :
    renderAll unit depth (as.map piece) = String.join (as.map fun a => (piece a).render unit depth) := by
  induction as with
  | nil => rfl
  | cons a as ih => rw [List.map_cons, List.map_cons, renderAll, ih, String.join_cons]

/-- Sources, each after a blank line. -/
theorem Layout.renderAll_sources (unit : String) (outputs : List Output) :
    renderAll unit 0 (outputs.flatMap fun o => [.blank, .embed o.source]) =
      separatedText ((outputs.map Output.embedded).map (·.source)) := by
  induction outputs with
  | nil => rfl
  | cons o outputs ih =>
    rw [List.flatMap_cons, renderAll_append, ih, renderAll, renderAll, renderAll, render_embed, separatedText,
      separatedText, List.map_cons, List.map_cons, List.map_cons, String.join_cons, String.append_empty]
    rfl

namespace Go

theorem renderAll_importLayout (imports : List String) :
    Layout.renderAll indentation 0 (importLayout imports) = importSection imports := by
  have line : ∀ path : String, (Layout.line ("\"" ++ path ++ "\"")).render indentation 1 = "\t\"" ++ path ++ "\"\n" := by
    intro path
    rw [Layout.render_line (by simp), ← String.toList_inj]
    simp [indentation]
  -- No section, a line, and a block.
  rcases imports with _ | ⟨first, _ | ⟨second, rest⟩⟩
  · rfl
  · rw [importLayout, Layout.renderAll, Layout.renderAll, Layout.renderAll, Layout.render_line_zero, importSection,
      Layout.render, ← String.toList_inj]
    simp
  · have block : (Layout.block "import (" ")" ((first :: second :: rest).map fun path =>
        .line ("\"" ++ path ++ "\""))).render indentation 0 =
          "import (\n" ++ String.join ((first :: second :: rest).map fun path => "\t\"" ++ path ++ "\"\n") ++ ")\n" := by
      rw [Layout.render, Layout.renderAll_map_eq, List.map_congr_left fun path _ => line path]
      rfl
    show Layout.renderAll indentation 0 [.blank, .block "import (" ")" _] = "\nimport (\n" ++ _ ++ ")\n"
    rw [Layout.renderAll, Layout.renderAll, Layout.renderAll, block, String.append_empty, Layout.render,
      ← String.append_assoc, ← String.append_assoc]
    rfl

theorem packageFile_eq (config : Config) (comments : List (ModulePath × String)) (m : ModulePath)
    (outputs : List Output) :
    packageFile config comments m outputs =
      { path := FilePath.ofComponents (m.map moduleName ++ [packageName m config ++ ".go"])
        contents := packageText (packageName m config) (comments.lookup m)
          (orderedStrings (outputs.flatMap (·.imports))) ((outputs.map Output.embedded).map (·.source)) } := by
  have contents : (packageFile config comments m outputs).contents = packageText (packageName m config)
      (comments.lookup m) (orderedStrings (outputs.flatMap (·.imports)))
      ((outputs.map Output.embedded).map (·.source)) := ?_
  · exact congrArg (File.mk _) contents
  rw [packageFile_contents, Layout.render_comment_zero, Layout.text, Layout.text, Layout.renderAll_append,
    Layout.renderAll_append, Layout.renderAll_sources, renderAll_importLayout, Layout.renderAll, Layout.renderAll,
    Layout.renderAll, Layout.renderAll, Layout.renderAll, Layout.render_line_zero, Layout.render_embed,
    (by decide : IsLined fileHeader).embedded_eq, packageText]
  simp only [Layout.render, String.append_assoc, String.append_empty]

end Go

/-! ## Modules of Rust -/

namespace Text

theorem ofNat_ne_newline {n : Nat} (large : 10 < n) : Char.ofNat n ≠ '\n' := by
  intro same
  have code : (Char.ofNat n).toNat = 10 := congrArg Char.toNat same
  by_cases valid : n.isValidChar
  · have kept : (Char.ofNat n).toNat = n := congrArg Char.toNat (dif_pos valid)
    omega
  · have void : (Char.ofNat n).toNat = 0 := congrArg Char.toNat (dif_neg valid)
    omega

/-- The small form of a character that is no line feed has none. -/
theorem newline_not_mem_decapitalize {c : Char} (other : c ≠ '\n') : '\n' ∉ decapitalize c := by
  unfold decapitalize
  split
  · next ascii =>
    have lower : c ≠ '\n' → '\n' ∉ [c.toLower] :=
      of_ascii (P := fun c => c ≠ '\n' → '\n' ∉ [c.toLower]) (by decide +kernel) ascii
    exact lower other
  · unfold mapCase
    split
    · next codes entry =>
      have plain : ∀ entry ∈ smallSequences, '\n' ∉ entry.2.map Char.ofNat := by decide
      obtain ⟨before, behind, split, -⟩ := List.lookup_eq_some_iff.1 entry
      exact plain (c.toNat, codes) (by rw [split]; simp)
    · split
      · next range distance found =>
        have far : ∀ entry ∈ smallShifts, 10 < (entry.1.first : Int) + entry.2 := by decide +kernel
        have inside := List.find?_some found
        have beyond := far _ (List.mem_of_find?_eq_some found)
        simp only [CharRange.holds, Bool.and_eq_true, decide_eq_true_eq] at inside beyond
        rw [List.mem_singleton]
        exact (ofNat_ne_newline (by omega)).symm
      · exact fun member => other (List.mem_singleton.1 member).symm

theorem newline_not_mem_smallWord {word : List Char} (plain : '\n' ∉ word) : '\n' ∉ smallWord word := by
  fun_induction smallWord word with
  | case1 => exact plain
  | case2 => decide
  | case3 c => exact newline_not_mem_decapitalize fun same => plain (same ▸ List.mem_cons_self)
  | case4 c rest _ ih =>
    rw [List.mem_cons, not_or] at plain
    rw [List.mem_append, not_or]
    exact ⟨newline_not_mem_decapitalize (Ne.symm plain.1), ih plain.2⟩

/-- The words of a name have no line feeds, so they can be joined to one line. -/
theorem oneLine_snake (name : String) : OneLine (snake name) := by
  unfold OneLine
  rw [snake, String.toList_ofList]
  intro newline
  rcases mem_joined newline with between | ⟨word, among, inside⟩
  · exact absurd between (by decide)
  · obtain ⟨letters, word', rfl⟩ := List.mem_map.1 among
    refine newline_not_mem_smallWord (fun member => ?_) inside
    have kept : '\n' ∈ (words name).flatten := List.mem_flatten_of_mem word' member
    rw [words_flatten, List.mem_filter] at kept
    exact absurd kept.2 (by decide)

end Text

namespace Rust

/-- The name of a module stands in one line, whatever the module is called. -/
theorem oneLine_moduleName (segment : String) : OneLine (moduleName segment) := by
  have plain := Text.oneLine_snake segment
  unfold moduleName escape
  split
  · exact oneLine_append.2 ⟨plain, by decide⟩
  · split
    · exact oneLine_append.2 ⟨by decide, plain⟩
    · exact plain

namespace ModuleTree

/-- Items, with a blank line between them; before the first one too, unless nothing stands before it. -/
def spaced : Bool → List String → String
  | _, [] => ""
  | isFirst, item :: rest => (if isFirst then "" else "\n") ++ item ++ spaced false rest

theorem spaced_append (isFirst : Bool) (items rest : List String) :
    spaced isFirst (items ++ rest) = spaced isFirst items ++ spaced (isFirst && items.isEmpty) rest := by
  induction items generalizing isFirst with
  | nil => simp [spaced]
  | cons item items ih => simp [spaced, ih, String.append_assoc]

theorem spaced_false (items : List String) : spaced false items = separatedText items := by
  induction items with
  | nil => rfl
  | cons item items ih => rw [spaced, ih, separatedText, separatedText, List.map_cons, String.join_cons]; rfl

theorem spaced_true (items : List String) : spaced true items = "\n".intercalate items := by
  cases items with
  | nil => rfl
  | cons item items =>
    rw [spaced, spaced_false]
    induction items generalizing item with
    | nil => simp [separatedText]
    | cons next items ih =>
      rw [String.intercalate_cons_cons, ← ih, separatedText, separatedText, List.map_cons, String.join_cons]
      simp [String.append_assoc]

theorem render_gap (depth : Nat) (isFirst : Bool) :
    Layout.renderAll indentation depth (gap isFirst) = if isFirst then "" else "\n" := by
  cases isFirst <;> rfl

theorem render_outputs (isFirst : Bool) (own : List Output) :
    Layout.renderAll indentation 0 (outputsLayout isFirst own) =
      spaced isFirst ((own.map Output.embedded).map (·.source)) := by
  induction own generalizing isFirst with
  | nil => rfl
  | cons o own ih =>
    rw [outputsLayout, Layout.renderAll_append, Layout.renderAll_append, render_gap, ih false, Layout.renderAll,
      Layout.renderAll, Layout.render_embed, String.append_empty, List.map_cons, List.map_cons, spaced]
    rfl

theorem tidy_gap (isFirst : Bool) : Layout.TidyAll (gap isFirst) := by
  cases isFirst
  · exact ⟨trivial, trivial⟩
  · trivial

theorem tidy_outputs (isFirst : Bool) (own : List Output) : Layout.TidyAll (outputsLayout isFirst own) := by
  induction own generalizing isFirst with
  | nil => trivial
  | cons o own ih =>
    rw [outputsLayout, Layout.tidyAll_append, Layout.tidyAll_append]
    exact ⟨⟨tidy_gap isFirst, trivial, trivial⟩, ih false⟩

variable (comments : List (ModulePath × String))

mutual

theorem tidy_layout (path : ModulePath) (isFirst : Bool) : ∀ tree : ModuleTree,
    Layout.TidyAll (tree.layout comments path isFirst)
  | node own children => by
    rw [layout, Layout.tidyAll_append]
    exact ⟨tidy_outputs isFirst own, tidy_childrenLayout path _ children⟩

theorem tidy_childrenLayout (path : ModulePath) (isFirst : Bool) : ∀ children : List (String × ModuleTree),
    Layout.TidyAll (childrenLayout comments path isFirst children)
  | [] => trivial
  | (name, child) :: rest => by
    rw [childrenLayout, Layout.tidyAll_append, Layout.tidyAll_append]
    refine ⟨⟨tidy_gap isFirst, (by decide : OneLine "///"), ?_, trivial⟩, tidy_childrenLayout path false rest⟩
    exact Layout.tidy_braced.2 ⟨oneLine_append.2 ⟨by decide, oneLine_moduleName name⟩,
      tidy_layout (path ++ [name]) true child⟩

end

mutual

/-- A tree that represents a module is rendered as the items of the module. -/
theorem render_items (outputs : List Output) (path : ModulePath) (isFirst : Bool) : ∀ tree : ModuleTree,
    tree.Represents outputs path →
      Layout.renderAll indentation 0 (tree.layout comments path isFirst) =
        spaced isFirst (itemTexts (outputs.map Output.embedded) comments path)
  | node own children, ⟨here, names, below⟩ => by
    rw [layout, Layout.renderAll_append, render_outputs isFirst own, render_moduleTexts outputs path _ children below,
      itemTexts_eq, filter_embedded, innerNames_embedded, ← here, ← names, spaced_append, List.isEmpty_map,
      List.isEmpty_map]

theorem render_moduleTexts (outputs : List Output) (path : ModulePath) (isFirst : Bool) :
    ∀ children : List (String × ModuleTree), RepresentsAll outputs path children →
      Layout.renderAll indentation 0 (childrenLayout comments path isFirst children) =
        spaced isFirst ((children.map (·.1)).map (moduleText (outputs.map Output.embedded) comments path))
  | [], _ => rfl
  | (name, child) :: rest, ⟨first, others⟩ => by
    rw [render_child, render_gap, Layout.render_comment_zero,
      Layout.renderAll_succ (by decide : OneLine indentation) 0 (tidy_layout comments (path ++ [name]) true child),
      render_items outputs (path ++ [name]) true child first, render_moduleTexts outputs path false rest others,
      List.map_cons, List.map_cons, spaced, spaced_true, moduleText, blockText, Layout.renderLine_eq,
      Layout.renderLine_eq, Layout.indented_zero, Layout.indented_zero]
    simp [String.append_assoc]

end

end ModuleTree

theorem assemble_eq (config : Config) (comments : List (ModulePath × String)) (outputs : List Output) :
    assemble config outputs comments =
      [{ path := config.package ++ ".rs", contents := crateText (outputs.map Output.embedded) comments }] := by
  have represents := ModuleTree.represents_ofOutputs outputs
  rw [assemble, Layout.text, Layout.renderAll, ModuleTree.render_items comments outputs [] false _ represents,
    Layout.render_embed, (by decide : IsLined fileHeader).embedded_eq, ModuleTree.spaced_false]
  rfl

end Rust

/-! ## Both targets -/

/-- Assembly loses, repeats and moves nothing: Go has one file for each module that holds an output, with the sources
and the imports of the module; Rust has one file with the items of the modules inside each other. -/
theorem assemble_conserves (config : Config) (comments : List (ModulePath × String)) {outputs : List Output}
    (lined : ∀ o ∈ outputs, IsLined o.source) :
    (∃ (modules : List ModulePath) (imports : ModulePath → List String),
      modules.Nodup ∧ (∀ m, m ∈ modules ↔ ∃ o ∈ outputs, o.module = m) ∧
      (∀ m, (imports m).Pairwise (· < ·) ∧
        ∀ path, path ∈ imports m ↔ ∃ o ∈ outputs, o.module = m ∧ path ∈ o.imports) ∧
      Go.target.assemble config outputs comments = modules.map fun m =>
        { path := FilePath.ofComponents (m.map Go.moduleName ++ [Go.packageName m config ++ ".go"])
          contents := Go.packageText (Go.packageName m config) (comments.lookup m) (imports m)
            ((outputs.filter (·.module = m)).map (·.source)) }) ∧
    Rust.target.assemble config outputs comments =
      [{ path := config.package ++ ".rs", contents := Rust.crateText outputs comments }] := by
  refine ⟨⟨ordered modulePrecedes (outputs.map (·.module)),
    fun m => orderedStrings ((outputs.filter (·.module = m)).flatMap (·.imports)), Go.modules_nodup _, fun m => ?_,
    fun m => ⟨orderedStrings_ascending _, fun path => ?_⟩, ?_⟩, ?_⟩
  · rw [mem_ordered, List.mem_map]
  · show path ∈ ordered _ _ ↔ _
    rw [mem_ordered, List.mem_flatMap]
    simp only [List.mem_filter, decide_eq_true_eq, and_assoc]
  · refine List.map_congr_left fun m _ => ?_
    rw [Go.packageFile_eq, map_embedded fun o member => lined o (List.mem_of_mem_filter member)]
  · have whole := Rust.assemble_eq config comments outputs
    rwa [map_embedded lined] at whole

/-- Outputs of three modules that come in no order. -/
def scatteredOutputs : List Output :=
  [⟨"Leaf", ["shapes", "round"], "leaf\n", ["math"]⟩, ⟨"Root", [], "root\n\n  x\n", []⟩,
    ⟨"Twig", ["shapes", "round"], "twig\n", ["fmt", "math"]⟩, ⟨"Apex", ["apex"], "apex\n", []⟩]

def scatteredComments : List (ModulePath × String) :=
  [(["shapes"], "About shapes.")]

theorem scattered_conserved :
    (∀ o ∈ scatteredOutputs, IsLined o.source) ∧
      (∃ modules : List ModulePath, modules.Nodup ∧ (∀ m, m ∈ modules ↔ ∃ o ∈ scatteredOutputs, o.module = m) ∧
        (Go.target.assemble {} scatteredOutputs scatteredComments).length = modules.length) ∧
      Rust.target.assemble {} scatteredOutputs scatteredComments =
        [{ path := "schema.rs", contents := Rust.crateText scatteredOutputs scatteredComments }] := by
  have lined : ∀ o ∈ scatteredOutputs, IsLined o.source := by decide
  obtain ⟨⟨modules, imports, distinct, members, -, files⟩, crate⟩ := assemble_conserves {} scatteredComments lined
  exact ⟨lined, ⟨modules, distinct, members, by rw [files, List.length_map]⟩, crate⟩

example : Rust.assemble {} scatteredOutputs scatteredComments =
    [{ path := "schema.rs",
       contents := fileHeader ++ "\nroot\n\n  x\n\npub mod apex \x7b\n    apex\n\x7d\n\n/// About shapes.\n" ++
        "pub mod shapes \x7b\n    pub mod round \x7b\n        leaf\n\n        twig\n    \x7d\n\x7d\n" }] := by
  decide +kernel

end SchemaBindings
