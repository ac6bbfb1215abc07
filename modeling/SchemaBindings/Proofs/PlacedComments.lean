import SchemaBindings.Proofs.Remarks
import SchemaBindings.Proofs.RunOutputs

/-!
# Comments of modules in files

The comment of a module is looked up by the path of the module when its outputs are written.

* A comment counts by its lines alone, without the blanks at their ends (`commentTexts`): comments with the same lines
  are rendered alike, and comments that are rendered alike have the same lines.
* A file depends on the comments of the modules on the way to its outputs and on no others
  (`Target.PlacesComments.depends`), and it shows that of a module directly under the root which holds an output
  (`Target.PlacesComments.shows`).
-/

namespace SchemaBindings

/-! ## Lines of a comment -/

/-- The lines of a comment, without the blanks at their ends. -/
def commentTexts : Option String → List String
  | none => []
  | some text => (Text.lines text).map fun line => String.ofList (Text.trimEnd line.toList)

/-- The line of a comment behind its marker. -/
def commentLine (marker line : String) : String :=
  if line = "" then marker else marker ++ " " ++ line

theorem commentLine_injective (marker : String) : Function.Injective (commentLine marker) := by
  intro a b same
  unfold commentLine at same
  have behind : ∀ line : String, line ≠ "" → marker ≠ marker ++ " " ++ line := by
    intro line filled same
    rw [String.append_assoc] at same
    have empty := String.append_right_inj marker |>.1 ((String.append_empty (s := marker)).trans same)
    exact absurd empty.symm (by simp)
  split at same <;> split at same
  · next first second => rw [first, second]
  · next filled => exact absurd same (behind b filled)
  · next filled _ => exact absurd same.symm (behind a filled)
  · exact (String.append_right_inj (marker ++ " ")).1 same

namespace Text

theorem fullLines_join {ls : List String} (single : ∀ line ∈ ls, OneLine line) :
    fullLines (String.join (ls.map (· ++ "\n"))).toList = ls.map fun line => line.toList ++ ['\n'] := by
  induction ls with
  | nil => rfl
  | cons line ls ih =>
    obtain ⟨first, others⟩ := List.forall_mem_cons.1 single
    rw [List.map_cons, String.join_cons, String.toList_append, String.toList_append, List.append_assoc,
      List.map_cons, ← ih others]
    exact fullLines_append first _

/-- A text that is made of lines has no other lines. -/
theorem join_injective {ls ls' : List String} (single : ∀ line ∈ ls, OneLine line)
    (single' : ∀ line ∈ ls', OneLine line)
    (same : String.join (ls.map (· ++ "\n")) = String.join (ls'.map (· ++ "\n"))) : ls = ls' := by
  have lines := congrArg (fun text => fullLines text.toList) same
  rw [fullLines_join single, fullLines_join single'] at lines
  refine List.map_injective_iff.2 (fun a b equal => ?_) lines
  exact String.toList_inj.1 (List.append_cancel_right equal)

end Text

namespace Layout

theorem commentLines_eq (marker text : String) :
    commentLines marker text = (commentTexts (some text)).map (commentLine marker) := by
  rw [commentLines, commentTexts, List.map_map]
  refine List.map_congr_left fun line _ => ?_
  have empty : ∀ chars : List Char, String.ofList chars = "" ↔ chars = [] := by simp
  simp only [Function.comp_apply, commentLine, empty]

/-- A comment is rendered line by line. -/
theorem lineTexts_comment (unit marker : String) (depth : Nat) (comment : Option String) :
    (Layout.comment marker comment).lineTexts unit depth =
      (commentTexts comment).map fun line => indented unit depth (commentLine marker line) := by
  cases comment with
  | none => rfl
  | some text =>
    rw [lineTexts, commentLines_eq, List.map_map]
    rfl

theorem render_comment_congr {comment comment' : Option String} (same : commentTexts comment = commentTexts comment')
    (unit marker : String) (depth : Nat) :
    (Layout.comment marker comment).render unit depth = (Layout.comment marker comment').render unit depth := by
  rw [render_eq, render_eq, lineTexts_comment, lineTexts_comment, same]

/-- The lines of a comment can be read off its text. -/
theorem commentTexts_of_render {unit marker : String} (single : OneLine marker) {comment comment' : Option String}
    (same : (Layout.comment marker comment).render unit 0 = (Layout.comment marker comment').render unit 0) :
    commentTexts comment = commentTexts comment' := by
  have lines : ∀ comment : Option String,
      (Layout.comment marker comment).lineTexts unit 0 = (commentTexts comment).map (commentLine marker) := by
    intro comment
    simp only [lineTexts_comment, indented_zero]
  have tidy : ∀ comment : Option String, ∀ line ∈ (commentTexts comment).map (commentLine marker), OneLine line := by
    intro comment line member
    cases comment with
    | none => exact absurd member List.not_mem_nil
    | some text =>
      rw [← commentLines_eq] at member
      exact oneLine_of_mem_commentLines single member
  rw [render_eq, render_eq, lines, lines] at same
  exact List.map_injective_iff.2 (commentLine_injective marker) (Text.join_injective (tidy _) (tidy _) same)

end Layout

/-! ## Targets -/

/-- The comments of a module have the same lines. -/
def SameComment (comments comments' : List (ModulePath × String)) (m : ModulePath) : Prop :=
  commentTexts (comments.lookup m) = commentTexts (comments'.lookup m)

/-- Files depend on the comments of the modules on the way to an output, and show that of a module directly under the
root which holds an output. -/
structure Target.PlacesComments (target : Target) : Prop where
  depends : ∀ (config : Config) (outputs : List Output) {comments comments' : List (ModulePath × String)},
    (∀ o ∈ outputs, ∀ m, m <+: o.module → SameComment comments comments' m) →
      target.assemble config outputs comments = target.assemble config outputs comments'
  shows : ∀ (config : Config) (outputs : List Output) {comments comments' : List (ModulePath × String)} {name : String},
    (∃ o ∈ outputs, o.module = [name]) → (∀ m, m ≠ [name] → SameComment comments comments' m) →
      target.assemble config outputs comments = target.assemble config outputs comments' →
        SameComment comments comments' [name]

variable {comments comments' : List (ModulePath × String)}

namespace Go

/-- A package has its comment between its header and its clause. -/
theorem packageFile_contents (config : Config) (comments : List (ModulePath × String)) (m : ModulePath)
    (outputs : List Output) :
    (packageFile config comments m outputs).contents =
      Layout.text indentation [.embed fileHeader, .blank] ++
        ((Layout.comment "//" (comments.lookup m)).render indentation 0 ++
          Layout.text indentation ([.line ("package " ++ packageName m config)] ++
            importLayout (orderedStrings (outputs.flatMap (·.imports))) ++
              outputs.flatMap fun output => [.blank, .embed output.source])) := by
  rw [packageFile, Layout.text, Layout.text, Layout.text, ← Layout.renderAll, ← Layout.renderAll_append]
  rfl

theorem packageFile_eq_iff (config : Config) (m : ModulePath) (outputs : List Output) :
    packageFile config comments m outputs = packageFile config comments' m outputs ↔ SameComment comments comments' m := by
  constructor
  · intro same
    have contents := congrArg File.contents same
    rw [packageFile_contents, packageFile_contents, String.append_right_inj, String.append_left_inj] at contents
    exact Layout.commentTexts_of_render (by decide) contents
  · intro same
    have contents : (packageFile config comments m outputs).contents = (packageFile config comments' m outputs).contents := by
      rw [packageFile_contents, packageFile_contents, Layout.render_comment_congr same]
    exact congrArg (File.mk _) contents

theorem placesComments : target.PlacesComments where
  depends config outputs comments comments' same := by
    refine List.map_congr_left fun m member => (packageFile_eq_iff config m _).2 ?_
    obtain ⟨o, among, rfl⟩ := List.mem_map.1 (mem_ordered.1 member)
    exact same o among o.module (List.prefix_refl _)
  shows config outputs comments comments' name holds _ same := by
    obtain ⟨o, among, place⟩ := holds
    refine (packageFile_eq_iff config [name] _).1 (List.map_inj_left.1 same [name] (mem_ordered.2 ?_))
    exact List.mem_map.2 ⟨o, among, place⟩

end Go

namespace Rust

namespace ModuleTree

/-! ### Modules of a tree -/

mutual

/-- A condition on the paths of the modules inside the module at `path`. -/
def Inside (P : ModulePath → Prop) (path : ModulePath) : ModuleTree → Prop
  | node _ children => InsideAll P path children

/-- A condition on the paths of some modules of the module at `path`, and of those inside them. -/
def InsideAll (P : ModulePath → Prop) (path : ModulePath) : List (String × ModuleTree) → Prop
  | [] => True
  | (name, child) :: rest => P (path ++ [name]) ∧ child.Inside P (path ++ [name]) ∧ InsideAll P path rest

end

section

variable {P : ModulePath → Prop}

theorem insideAll_updateChild {path : ModulePath} {name : String} {update : ModuleTree → ModuleTree}
    (here : P (path ++ [name]))
    (updated : ∀ tree, tree.Inside P (path ++ [name]) → (update tree).Inside P (path ++ [name]))
    {children : List (String × ModuleTree)} (inside : InsideAll P path children) :
    InsideAll P path (updateChild name update children) := by
  have fresh : (update empty).Inside P (path ++ [name]) := updated empty trivial
  induction children with
  | nil => exact ⟨here, fresh, trivial⟩
  | cons child rest ih =>
    obtain ⟨other, child⟩ := child
    obtain ⟨first, below, others⟩ := inside
    rw [updateChild]
    split
    · next same =>
      subst same
      exact ⟨first, updated child below, others⟩
    · split
      · exact ⟨here, fresh, first, below, others⟩
      · exact ⟨first, below, ih others⟩

theorem inside_insert (output : Output) (path : ModulePath) {rest : ModulePath} (way : ∀ m, m <+: path ++ rest → P m)
    {tree : ModuleTree} (inside : tree.Inside P path) : (tree.insert output rest).Inside P path := by
  induction rest generalizing path tree with
  | nil =>
    obtain ⟨outputs, children⟩ := tree
    exact inside
  | cons name rest ih =>
    obtain ⟨outputs, children⟩ := tree
    rw [List.append_cons] at way
    exact insideAll_updateChild (way _ (List.prefix_append _ _)) (fun child below => ih _ way below) inside

/-- The modules of a tree of outputs are on the way to an output. -/
theorem inside_ofOutputs {outputs : List Output} (way : ∀ o ∈ outputs, ∀ m, m <+: o.module → P m) :
    (ofOutputs outputs).Inside P [] := by
  have added : ∀ (tree : ModuleTree) (outputs : List Output), tree.Inside P [] →
      (∀ o ∈ outputs, ∀ m, m <+: o.module → P m) →
        (outputs.foldl (fun tree output => tree.insert output output.module) tree).Inside P [] := by
    intro tree outputs inside way
    induction outputs generalizing tree with
    | nil => exact inside
    | cons o outputs ih =>
      obtain ⟨first, others⟩ := List.forall_mem_cons.1 way
      exact ih (tree.insert o o.module) (inside_insert o [] first inside) others
  exact added empty outputs trivial way

end

mutual

/-- The modules inside a module have longer paths. -/
theorem inside_of_length {P : ModulePath → Prop} (path : ModulePath)
    (longer : ∀ m : ModulePath, path.length < m.length → P m) : ∀ tree : ModuleTree, tree.Inside P path
  | node _ children =>
    insideAll_of_names children (fun name _ => longer _ (by simp)) fun m long => longer m (by omega)

theorem insideAll_of_names {P : ModulePath → Prop} {path : ModulePath} : ∀ (children : List (String × ModuleTree)),
    (∀ name ∈ children.map (·.1), P (path ++ [name])) → (∀ m : ModulePath, path.length + 1 < m.length → P m) →
    InsideAll P path children
  | [], _, _ => trivial
  | (name, child) :: rest, named, longer =>
    ⟨named name List.mem_cons_self,
      inside_of_length (path ++ [name]) (fun m long => longer m (by simpa using long)) child,
      insideAll_of_names rest (fun other member => named other (List.mem_cons_of_mem _ member)) longer⟩

end

/-! ### Comments in the text -/

/-- The comment of a module stands before its block. -/
theorem render_child (comments : List (ModulePath × String)) (depth : Nat) (path : ModulePath) (isFirst : Bool)
    (name : String) (child : ModuleTree) (rest : List (String × ModuleTree)) :
    Layout.renderAll indentation depth (childrenLayout comments path isFirst ((name, child) :: rest)) =
      Layout.renderAll indentation depth (gap isFirst) ++
        ((Layout.comment "///" (comments.lookup (path ++ [name]))).render indentation depth ++
          (Layout.renderLine indentation depth ("pub mod " ++ moduleName name ++ " \x7b") ++
              Layout.renderAll indentation (depth + 1) (child.layout comments (path ++ [name]) true) ++
              Layout.renderLine indentation depth "\x7d" ++
            Layout.renderAll indentation depth (childrenLayout comments path false rest))) := by
  rw [childrenLayout, Layout.renderAll_append, Layout.renderAll_append, Layout.renderAll, Layout.renderAll,
    Layout.renderAll, String.append_empty, String.append_assoc, String.append_assoc]
  rfl

mutual

/-- The text of a module depends on the comments of the modules inside it. -/
theorem render_layout (depth : Nat) {path : ModulePath} (isFirst : Bool) : ∀ tree : ModuleTree,
    tree.Inside (SameComment comments comments') path →
      Layout.renderAll indentation depth (tree.layout comments path isFirst) =
        Layout.renderAll indentation depth (tree.layout comments' path isFirst)
  | node outputs children, inside => by
    rw [layout, layout, Layout.renderAll_append, Layout.renderAll_append,
      render_childrenLayout depth (isFirst && outputs.isEmpty) children inside]

theorem render_childrenLayout (depth : Nat) {path : ModulePath} (isFirst : Bool) :
    ∀ children : List (String × ModuleTree), InsideAll (SameComment comments comments') path children →
      Layout.renderAll indentation depth (childrenLayout comments path isFirst children) =
        Layout.renderAll indentation depth (childrenLayout comments' path isFirst children)
  | [], _ => rfl
  | (name, child) :: rest, ⟨same, inside, others⟩ => by
    rw [render_child, render_child, Layout.render_comment_congr same, render_layout (depth + 1) true child inside,
      render_childrenLayout depth false rest others]

end

/-- Of modules directly under the root with names of their own, the text shows the comment of each. -/
theorem sameComment_of_render {name : String} (others : ∀ m, m ≠ [name] → SameComment comments comments' m)
    {isFirst : Bool} {children : List (String × ModuleTree)} (distinct : (children.map (·.1)).Nodup)
    (member : name ∈ children.map (·.1))
    (same : Layout.renderAll indentation 0 (childrenLayout comments [] isFirst children) =
      Layout.renderAll indentation 0 (childrenLayout comments' [] isFirst children)) :
    SameComment comments comments' [name] := by
  have below : ∀ m : ModulePath, 1 < m.length → SameComment comments comments' m := by
    intro m long
    refine others m ?_
    rintro rfl
    exact absurd long (by simp)
  induction children generalizing isFirst with
  | nil => exact absurd member List.not_mem_nil
  | cons child rest ih =>
    obtain ⟨other, child⟩ := child
    obtain ⟨fresh, distinct⟩ := List.nodup_cons.1 distinct
    have block : Layout.renderAll indentation 1 (child.layout comments ([] ++ [other]) true) =
        Layout.renderAll indentation 1 (child.layout comments' ([] ++ [other]) true) :=
      render_layout 1 true child (inside_of_length [other] below child)
    rw [render_child, render_child, block, String.append_right_inj] at same
    by_cases here : other = name
    -- Behind the module that is asked for stand modules with other names, so the rest of the text is the same.
    · subst here
      have elsewhere : ∀ n ∈ rest.map (·.1), SameComment comments comments' ([] ++ [n]) := by
        intro n among
        refine others [n] fun equal => fresh ?_
        rwa [← List.singleton_inj.1 equal]
      rw [render_childrenLayout 0 false rest (insideAll_of_names rest elsewhere below), String.append_left_inj] at same
      exact Layout.commentTexts_of_render (by decide) same
    · have first : SameComment comments comments' [other] := others [other] fun equal => here (List.singleton_inj.1 equal)
      have later := (List.mem_cons.1 member).resolve_left fun equal => here equal.symm
      rw [List.nil_append, Layout.render_comment_congr first, String.append_right_inj, String.append_right_inj] at same
      exact ih distinct later same

/-! ### Names under the root -/

def names : ModuleTree → List String
  | node _ children => children.map (·.1)

theorem names_updateChild (name : String) (update : ModuleTree → ModuleTree) (children : List (String × ModuleTree)) :
    (updateChild name update children).map (·.1) =
      insertOrdered (fun a b => decide (a < b)) name (children.map (·.1)) := by
  induction children with
  | nil => rfl
  | cons child rest ih =>
    obtain ⟨other, child⟩ := child
    rw [updateChild, List.map_cons, insertOrdered]
    split
    · rfl
    · simp only [decide_eq_true_eq]
      split
      · rfl
      · rw [List.map_cons, ih]

/-- The names directly inside a module, in ascending order. -/
def Ascending (tree : ModuleTree) : Prop :=
  tree.names.Pairwise fun a b => decide (a < b) = true

theorem ascending_insert (output : Output) (path : ModulePath) {tree : ModuleTree} (ascending : tree.Ascending) :
    (tree.insert output path).Ascending := by
  obtain ⟨outputs, children⟩ := tree
  cases path with
  | nil => exact ascending
  | cons name rest =>
    have names : ((node outputs children).insert output (name :: rest)).names = _ :=
      names_updateChild name (insert output rest) children
    rw [Ascending, names]
    exact insertOrdered_pairwise string_trans string_total ascending

theorem mem_names_insert (output : Output) (path : ModulePath) (tree : ModuleTree) {name : String} :
    name ∈ (tree.insert output path).names ↔ path.head? = some name ∨ name ∈ tree.names := by
  obtain ⟨outputs, children⟩ := tree
  cases path with
  | nil => simp [insert, names]
  | cons first rest =>
    have names : ((node outputs children).insert output (first :: rest)).names = _ :=
      names_updateChild first (insert output rest) children
    rw [names, mem_insertOrdered, List.head?_cons, Option.some_inj, eq_comm]
    rfl

/-- The modules of the root have names of their own: those that the modules of the outputs begin with. -/
theorem names_ofOutputs (outputs : List Output) :
    (ofOutputs outputs).names.Nodup ∧
      ∀ o ∈ outputs, ∀ name, o.module.head? = some name → name ∈ (ofOutputs outputs).names := by
  have added : ∀ (outputs : List Output) (tree : ModuleTree), tree.Ascending →
      let full := outputs.foldl (fun tree output => tree.insert output output.module) tree
      full.Ascending ∧ ∀ name, (∃ o ∈ outputs, o.module.head? = some name) ∨ name ∈ tree.names → name ∈ full.names := by
    intro outputs
    induction outputs with
    | nil =>
      intro tree ascending
      exact ⟨ascending, fun name member => member.resolve_left (by simp)⟩
    | cons o outputs ih =>
      intro tree ascending
      obtain ⟨last, holds⟩ := ih (tree.insert o o.module) (ascending_insert o o.module ascending)
      refine ⟨last, fun name member => holds name ?_⟩
      rw [mem_names_insert]
      rcases member with ⟨o', among, first⟩ | before
      · rcases List.mem_cons.1 among with rfl | among
        · exact .inr (.inl first)
        · exact .inl ⟨o', among, first⟩
      · exact .inr (.inr before)
  obtain ⟨ascending, holds⟩ := added outputs empty List.Pairwise.nil
  refine ⟨ascending.imp fun {a b} before => ?_, fun o among name first => holds name (.inl ⟨o, among, first⟩)⟩
  rintro rfl
  exact String.lt_irrefl a (of_decide_eq_true before)

end ModuleTree

theorem placesComments : target.PlacesComments where
  depends config outputs comments comments' same := by
    show [File.mk _ (Layout.text _ _)] = [File.mk _ (Layout.text _ _)]
    rw [Layout.text, Layout.text, Layout.renderAll, Layout.renderAll,
      ModuleTree.render_layout 0 false _ (ModuleTree.inside_ofOutputs same)]
  shows config outputs comments comments' name holds others same := by
    obtain ⟨o, among, place⟩ := holds
    obtain ⟨distinct, names⟩ := ModuleTree.names_ofOutputs outputs
    have member := names o among name (by rw [place]; rfl)
    have contents := congrArg File.contents (List.singleton_inj.1 same)
    dsimp only at contents
    rw [Layout.text, Layout.text, Layout.renderAll, Layout.renderAll, String.append_right_inj] at contents
    cases tree : ModuleTree.ofOutputs outputs with
    | node here children =>
      rw [tree] at distinct member contents
      rw [ModuleTree.layout, ModuleTree.layout, Layout.renderAll_append, Layout.renderAll_append,
        String.append_right_inj] at contents
      exact ModuleTree.sameComment_of_render others distinct member contents

end Rust

theorem TargetName.placesComments : ∀ name : TargetName, name.target.PlacesComments
  | go => Go.placesComments
  | rust => Rust.placesComments

end SchemaBindings
