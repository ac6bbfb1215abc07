import SchemaBindings.Proofs.EditedPlans
import SchemaBindings.Proofs.Remarks
import SchemaBindings.Proofs.StrictRuns

/-!
# Comments in the output

Two documents that differ only in their comments have runs that differ only in remarks
(`generate_ignores_comments`). The argument has three steps.

* The sources of an output and of a file without their remarks are those of their layouts without comments, so an edit
  of the comments of a declaration keeps the code of its outputs (`Target.KeepsCode.render`).
* The code of the files depends on the code of the outputs alone (`Target.KeepsCode.assemble`).
* The plan of an edited schema is the edited plan, with the same failures, so the run keeps its code
  (`generateFor_code`).
-/

namespace SchemaBindings

/-- The output with every remark deleted from its source. -/
def Output.code (o : Output) : Output :=
  { o with source := Text.withoutRemarks o.source }

/-- The file with every remark deleted from its contents. -/
def File.code (f : File) : File :=
  { f with contents := Text.withoutRemarks f.contents }

/-- The run with every remark deleted from its texts: identifiers, modules and imports of the outputs, the paths of the
files and the failures stay. -/
def Generation.code (g : Generation) : Generation :=
  { g with outputs := g.outputs.map Output.code, files := g.files.map File.code }

/-- What a comment makes in a target is made of remarks. -/
structure Target.KeepsCode (target : Target) : Prop where
  render : ∀ (e : CommentEdit) (cx : RenderContext) (m : ModulePath) (d : SchemaDeclaration) (own : DeclarationNames),
    (target.render cx (e.declaration m d) own).map Output.code = (target.render cx d own).map Output.code
  assemble : ∀ (config : Config) {outputs outputs' : List Output} (comments comments' : List (ModulePath × String)),
    outputs.map Output.code = outputs'.map Output.code →
      (target.assemble config outputs comments).map File.code =
        (target.assemble config outputs' comments').map File.code

/-! ## Outputs and files -/

open Layout

/-- Outputs whose layouts differ in comments only have the same code. -/
theorem code_eq {unit : String} (indentation : IsIndentation unit) {identifier : String} {m : ModulePath}
    {pieces pieces' : List Layout} {imports : List String} (same : bareAll pieces = bareAll pieces') :
    Output.code ⟨identifier, m, text unit pieces, imports⟩ = Output.code ⟨identifier, m, text unit pieces', imports⟩ := by
  rw [Output.code, Output.code]
  exact congrArg (Output.mk identifier m · imports) (withoutRemarks_congr indentation same)

/-- Files whose layouts differ in comments only have the same code. -/
theorem fileCode_eq {unit : String} (indentation : IsIndentation unit) {path : String} {pieces pieces' : List Layout}
    (same : bareAll pieces = bareAll pieces') :
    File.code ⟨path, text unit pieces⟩ = File.code ⟨path, text unit pieces'⟩ := by
  rw [File.code, File.code]
  exact congrArg (File.mk path) (withoutRemarks_congr indentation same)

namespace CommentEdit

theorem usedGenerics_variant (e : CommentEdit) (v : Variant TypeRef) (generics : List String) :
    (e.variant v).usedGenerics generics = v.usedGenerics generics := by
  rw [Variant.usedGenerics, Variant.usedGenerics, variant, parametersOf_fields]

/-- What is made of the variants and their names, if it is the same for each edited variant. -/
theorem zip_variants {α : Type} (e : CommentEdit) {f f' : Variant TypeRef × String → α}
    (kept : ∀ v name, f (e.variant v, name) = f' (v, name)) (u : Union TypeRef) (names : List String) :
    ((e.union u).variants.zip names).map f = (u.variants.zip names).map f' := by
  show ((u.variants.map e.variant).zip names).map f = _
  rw [List.zip_map_left, List.map_map]
  exact List.map_congr_left fun pair _ => kept pair.1 pair.2

end CommentEdit

/-! ## Go -/

namespace Go

variable (e : CommentEdit) (cx : RenderContext)

theorem isIndentation : IsIndentation indentation :=
  ⟨by decide, by decide⟩

theorem isMarker_slashes : isMarker "//" = true := by decide

def RenderedField.bare (f : RenderedField) : RenderedField :=
  { f with comment := none }

theorem bareAll_recordLayout (identifier : String) (generics : List String) (fields : List RenderedField)
    (comment : Option String) :
    bareAll (recordLayout identifier generics fields comment) =
      recordLayout identifier generics (fields.map RenderedField.bare) none := by
  simp [recordLayout, bareAll_eq_map, bare, braced, isMarker_slashes, List.map_flatMap, List.flatMap_map,
    apply_ite Layout.bare, Function.comp_def, RenderedField.bare]

theorem bare_fields (fields : List (Field TypeRef)) :
    ((fields.map e.field).map (renderField cx)).map RenderedField.bare =
      (fields.map (renderField cx)).map RenderedField.bare := by
  simp only [List.map_map]
  rfl

/-- A record and the edited one have the same layout without comments. -/
theorem bareAll_record (identifier : String) (generics : List String) (fields : List (Field TypeRef))
    (comment comment' : Option String) :
    bareAll (recordLayout identifier generics ((fields.map e.field).map (renderField cx)) comment) =
      bareAll (recordLayout identifier generics (fields.map (renderField cx)) comment') := by
  rw [bareAll_recordLayout, bareAll_recordLayout, bare_fields]

theorem handlers_union (u : Union TypeRef) (names : List String) :
    handlers (e.union u) names = handlers u names := by
  refine e.zip_variants (fun v name => ?_) u names
  show Handler.mk _ (name ++ typeArguments ((e.variant v).usedGenerics u.generics)) = _
  rw [e.usedGenerics_variant]
  rfl

theorem bareAll_contractLayout (u : Union TypeRef) (names : DeclarationNames) :
    bareAll (contractLayout (e.union u) names) = bareAll (contractLayout u names) := by
  rw [contractLayout, contractLayout, handlers_union]
  exact bareAll_comment isMarker_slashes _ _ _

theorem bareAll_variantLayout (u : Union TypeRef) (identifier : String) (v : Variant TypeRef) (name : String) :
    bareAll (variantLayout cx (e.union u) identifier (e.variant v) name) =
      bareAll (variantLayout cx u identifier v name) := by
  have used : (e.variant v).usedGenerics (e.union u).generics = v.usedGenerics u.generics :=
    e.usedGenerics_variant v u.generics
  rw [variantLayout, variantLayout, bareAll_append, bareAll_append, used]
  exact congrArg (· ++ _) (bareAll_record e cx name _ v.fields _ _)

/-- The code of the outputs of a declaration does not depend on its comments. -/
theorem render_code (m : ModulePath) (d : SchemaDeclaration) (own : DeclarationNames) :
    (target.render cx (e.declaration m d) own).map Output.code = (target.render cx d own).map Output.code := by
  cases d with
  | struct s =>
    show [(structOutput cx (e.struct s) _).code] = [(structOutput cx s _).code]
    have types : (e.struct s).fields.map (·.type) = s.fields.map (·.type) := e.types_fields s.fields
    rw [structOutput, structOutput, types]
    exact congrArg (fun o => [o]) (code_eq isIndentation (bareAll_record e cx _ s.generics s.fields _ _))
  | union u =>
    show (unionOutputs cx (e.union u) own).map Output.code = (unionOutputs cx u own).map Output.code
    rw [unionOutputs, unionOutputs, List.map_cons, List.map_cons, List.map_map, List.map_map]
    refine congr (congrArg List.cons (code_eq isIndentation (bareAll_contractLayout e u own))) ?_
    refine e.zip_variants (fun v name => ?_) u own.variants
    show Output.code ⟨name, _, _, typeImports cx ((v.fields.map e.field).map (·.type))⟩ = _
    rw [e.types_fields]
    exact code_eq isIndentation (bareAll_variantLayout e cx u own.identifier v name)
  | typeAlias a =>
    show [(aliasOutput cx (e.typeAlias a) _).code] = [(aliasOutput cx a _).code]
    exact congrArg (fun o => [o]) (code_eq isIndentation (bareAll_comment isMarker_slashes _ _ _))
  | const c =>
    show [(constantOutput cx (e.constant c) _).code] = [(constantOutput cx c _).code]
    exact congrArg (fun o => [o]) (code_eq isIndentation (bareAll_comment isMarker_slashes _ _ _))
  | module _ _ _ => rfl

/-- The code of the file of a package depends on the code of its outputs. -/
theorem packageFile_code (config : Config) (comments comments' : List (ModulePath × String)) (m : ModulePath)
    {outputs outputs' : List Output} (same : outputs.map Output.code = outputs'.map Output.code) :
    (packageFile config comments m outputs).code = (packageFile config comments' m outputs').code := by
  have imports : ∀ outputs : List Output,
      outputs.flatMap (·.imports) = (outputs.map Output.code).flatMap (·.imports) := by
    intro outputs
    rw [List.flatMap_map]
    rfl
  have embedded : ∀ outputs : List Output,
      bareAll (outputs.flatMap fun output => [.blank, .embed output.source]) =
        (outputs.map Output.code).flatMap fun output => [.blank, .embed output.source] := by
    intro outputs
    rw [bareAll_flatMap, List.flatMap_map]
    rfl
  refine fileCode_eq isIndentation ?_
  rw [imports outputs, imports outputs', same, bareAll_append, bareAll_append (_ ++ _), embedded, embedded, same,
    bareAll_append, bareAll_append]
  exact congrArg (· ++ _ ++ _) (congrArg (fun rest => _ :: _ :: rest) (bareAll_comment isMarker_slashes _ _ _))

theorem assemble_code (config : Config) {outputs outputs' : List Output} (comments comments' : List (ModulePath × String))
    (same : outputs.map Output.code = outputs'.map Output.code) :
    (assemble config outputs comments).map File.code = (assemble config outputs' comments').map File.code := by
  have modules : outputs.map (·.module) = outputs'.map (·.module) := by
    have kept := congrArg (List.map (·.module)) same
    rw [List.map_map, List.map_map] at kept
    exact kept
  have inside : ∀ m, (outputs.filter (·.module = m)).map Output.code = (outputs'.filter (·.module = m)).map Output.code := by
    intro m
    have filtered := congrArg (List.filter (·.module = m)) same
    rw [List.filter_map, List.filter_map] at filtered
    exact filtered
  rw [assemble, assemble, modules, List.map_map, List.map_map]
  exact List.map_congr_left fun m _ => packageFile_code config comments comments' m (inside m)

theorem keepsCode : target.KeepsCode :=
  ⟨render_code, assemble_code⟩

end Go

/-! ## Rust -/

namespace Rust

variable (e : CommentEdit) (cx : RenderContext)

theorem isIndentation : IsIndentation indentation :=
  ⟨by decide, by decide⟩

theorem isMarker_slashes : isMarker "///" = true := by decide

def RenderedField.bare (f : RenderedField) : RenderedField :=
  { f with comment := none }

theorem bareAll_attributes (identifier : String) : bareAll (attributes identifier) = attributes identifier := by
  unfold attributes caseAttribute
  split <;> rfl

theorem bareAll_recordLayout (identifier : String) (generics : List String) (fields : List RenderedField)
    (comment : Option String) :
    bareAll (recordLayout identifier generics fields comment) =
      recordLayout identifier generics (fields.map RenderedField.bare) none := by
  have attributed := bareAll_attributes identifier
  rw [bareAll_eq_map] at attributed
  simp [recordLayout, bareAll_eq_map, attributed, bare, braced, isMarker_slashes, List.map_flatMap, List.flatMap_map,
    apply_ite Layout.bare, Function.comp_def, RenderedField.bare]

/-- A record and the edited one have the same layout without comments. -/
theorem bareAll_record (identifier : String) (generics : List String) (fields : List (Field TypeRef))
    (comment comment' : Option String) :
    bareAll (recordLayout identifier generics ((fields.map e.field).map (renderField cx)) comment) =
      bareAll (recordLayout identifier generics (fields.map (renderField cx)) comment') := by
  rw [bareAll_recordLayout, bareAll_recordLayout]
  simp only [List.map_map]
  rfl

theorem enumCases_union (u : Union TypeRef) (names : List String) :
    enumCases (e.union u) names = enumCases u names := by
  refine e.zip_variants (fun v name => ?_) u names
  show EnumCase.mk _ (name ++ genericList ((e.variant v).usedGenerics u.generics)) = _
  rw [e.usedGenerics_variant]
  rfl

theorem bareAll_enumLayout (u : Union TypeRef) (names : DeclarationNames) :
    bareAll (enumLayout (e.union u) names) = bareAll (enumLayout u names) := by
  rw [enumLayout, enumLayout, enumCases_union]
  exact bareAll_comment isMarker_slashes _ _ _

/-- The code of the outputs of a declaration does not depend on its comments. -/
theorem render_code (m : ModulePath) (d : SchemaDeclaration) (own : DeclarationNames) :
    (target.render cx (e.declaration m d) own).map Output.code = (target.render cx d own).map Output.code := by
  cases d with
  | struct s =>
    show [(structOutput cx (e.struct s) _).code] = [(structOutput cx s _).code]
    exact congrArg (fun o => [o]) (code_eq isIndentation (bareAll_record e cx _ s.generics s.fields _ _))
  | union u =>
    show (unionOutputs cx (e.union u) own).map Output.code = (unionOutputs cx u own).map Output.code
    rw [unionOutputs, unionOutputs, List.map_cons, List.map_cons, List.map_map, List.map_map]
    refine congr (congrArg List.cons (code_eq isIndentation (bareAll_enumLayout e u own))) ?_
    refine e.zip_variants (fun v name => ?_) u own.variants
    have used : (e.variant v).usedGenerics (e.union u).generics = v.usedGenerics u.generics :=
      e.usedGenerics_variant v u.generics
    dsimp only [Function.comp_apply]
    rw [used]
    exact code_eq isIndentation (bareAll_record e cx name _ v.fields _ _)
  | typeAlias a =>
    show [(aliasOutput cx (e.typeAlias a) _).code] = [(aliasOutput cx a _).code]
    exact congrArg (fun o => [o]) (code_eq isIndentation (bareAll_comment isMarker_slashes _ _ _))
  | const c =>
    show [(constantOutput cx (e.constant c) _).code] = [(constantOutput cx c _).code]
    exact congrArg (fun o => [o]) (code_eq isIndentation (bareAll_comment isMarker_slashes _ _ _))
  | module _ _ _ => rfl

namespace ModuleTree

mutual

def code : ModuleTree → ModuleTree
  | node outputs children => node (outputs.map Output.code) (codeAll children)

def codeAll : List (String × ModuleTree) → List (String × ModuleTree)
  | [] => []
  | (name, child) :: rest => (name, child.code) :: codeAll rest

end

theorem codeAll_updateChild {update update' : ModuleTree → ModuleTree}
    (updated : ∀ tree, (update tree).code = update' tree.code) (name : String) (children : List (String × ModuleTree)) :
    codeAll (updateChild name update children) = updateChild name update' (codeAll children) := by
  have fresh : (update empty).code = update' empty := updated empty
  induction children with
  | nil => rw [updateChild, codeAll, codeAll, codeAll, updateChild, fresh]
  | cons child rest ih =>
    obtain ⟨other, child⟩ := child
    rw [updateChild, codeAll, updateChild]
    split
    · rw [codeAll, updated]
    · split
      · rw [codeAll, codeAll, fresh]
      · rw [codeAll, ih]

theorem code_insert (output : Output) (path : ModulePath) (tree : ModuleTree) :
    (tree.insert output path).code = tree.code.insert output.code path := by
  induction path generalizing tree with
  | nil =>
    obtain ⟨outputs, children⟩ := tree
    rw [insert, code, code, insert, List.map_append]
    rfl
  | cons name rest ih =>
    obtain ⟨outputs, children⟩ := tree
    rw [insert, code, code, insert, codeAll_updateChild ih]

/-- The tree of the code of outputs. -/
theorem ofOutputs_code (outputs : List Output) : ofOutputs (outputs.map Output.code) = (ofOutputs outputs).code := by
  have added : ∀ (tree : ModuleTree) (outputs : List Output),
      (outputs.map Output.code).foldl (fun tree output => tree.insert output output.module) tree.code =
        (outputs.foldl (fun tree output => tree.insert output output.module) tree).code := by
    intro tree outputs
    induction outputs generalizing tree with
    | nil => rfl
    | cons output outputs ih =>
      rw [List.map_cons, List.foldl_cons, List.foldl_cons, ← ih, code_insert]
      rfl
  exact added empty outputs

theorem bareAll_gap (isFirst : Bool) : bareAll (gap isFirst) = gap isFirst := by
  cases isFirst <;> rfl

theorem bareAll_outputsLayout (isFirst : Bool) (outputs : List Output) :
    bareAll (outputsLayout isFirst outputs) = outputsLayout isFirst (outputs.map Output.code) := by
  induction outputs generalizing isFirst with
  | nil => rfl
  | cons output rest ih =>
    rw [outputsLayout, List.map_cons, outputsLayout, bareAll_append, bareAll_append, bareAll_gap, ih]
    rfl

mutual

/-- The layout of a module without its comments is that of the code in it. -/
theorem bareAll_layout (comments : List (ModulePath × String)) (path : ModulePath) (isFirst : Bool) :
    ∀ tree : ModuleTree, bareAll (tree.layout comments path isFirst) = tree.code.layout [] path isFirst
  | node outputs children => by
    rw [layout, code, layout, bareAll_append, bareAll_outputsLayout, bareAll_childrenLayout comments path _ children,
      List.isEmpty_map]

theorem bareAll_childrenLayout (comments : List (ModulePath × String)) (path : ModulePath) (isFirst : Bool) :
    ∀ children : List (String × ModuleTree),
      bareAll (childrenLayout comments path isFirst children) = childrenLayout [] path isFirst (codeAll children)
  | [] => rfl
  | (name, child) :: rest => by
    rw [childrenLayout, codeAll, childrenLayout, bareAll_append, bareAll_append, bareAll_gap,
      bareAll_childrenLayout comments path false rest, bareAll, bareAll, bare_comment isMarker_slashes, braced, bare,
      bareAll_layout comments (path ++ [name]) true child]
    rfl

end

end ModuleTree

theorem assemble_code (config : Config) {outputs outputs' : List Output} (comments comments' : List (ModulePath × String))
    (same : outputs.map Output.code = outputs'.map Output.code) :
    (assemble config outputs comments).map File.code = (assemble config outputs' comments').map File.code := by
  refine congrArg (fun file => [file]) (fileCode_eq isIndentation ?_)
  rw [bareAll, bareAll, ModuleTree.bareAll_layout, ModuleTree.bareAll_layout, ← ModuleTree.ofOutputs_code,
    ← ModuleTree.ofOutputs_code, same]

theorem keepsCode : target.KeepsCode :=
  ⟨render_code, assemble_code⟩

end Rust

theorem TargetName.keepsCode : ∀ name : TargetName, name.target.KeepsCode
  | go => Go.keepsCode
  | rust => Rust.keepsCode

/-! ## The run -/

section

variable {target : Target} (keeps : target.KeepsCode) (config : Config)

include keeps

theorem runOutputs_code (e : CommentEdit) (names : NameTable) (tuples : List TupleRecord) (cs : List Candidate) :
    (runOutputs target config names tuples (cs.map e.candidate)).map Output.code =
      (runOutputs target config names tuples cs).map Output.code := by
  rw [runOutputs, runOutputs, List.map_append, List.map_append, List.flatMap_map, List.map_flatMap, List.map_flatMap]
  refine congrArg _ (List.flatMap_congr fun c _ => ?_)
  obtain ⟨⟨m, d⟩, status⟩ := c
  cases status with
  | error fault => rfl
  | ok own => exact keeps.render e ⟨config, names, m⟩ m d own

/-- An edit of comments keeps the code of a run, and everything else that it returns. -/
theorem generateFor_code (e : CommentEdit) (r : Resolved) :
    (generateFor target config (e.resolved [] r)).map Generation.code =
      (generateFor target config r).map Generation.code := by
  cases valid : config.validate with
  | error fault =>
    rw [generateFor, generateFor, valid]
    rfl
  | ok _ =>
    obtain ⟨arena, requested, -⟩ := exists_planned_tuples target config (runNames target config r) r
    have edited := (e.requestTuples_resolved target config ⟨config.maxTupleArity, []⟩ r).trans requested
    rw [generateFor_of_requested config valid requested, generateFor_of_requested config valid edited,
      e.runNames_resolved, e.plan_resolved, e.runFailures_resolved]
    have outputs := runOutputs_code keeps config e (runNames target config r) arena.records
      (plan target config (runNames target config r) r)
    have files := keeps.assemble config (e.resolved [] r).moduleComments r.moduleComments outputs
    split
    · rfl
    · exact congrArg Except.ok (congrFun (congr (congrArg Generation.mk outputs) files) _)

end

/-- Comments never become or change code: if two documents are the same without their comments, both runs end with
the same failure, or they have the same failures, identifiers, modules, imports and file paths, and the same texts
once every remark is deleted. -/
theorem generate_ignores_comments (config : Config) {document document' : Document}
    (same : CommentEdit.erase.document document = CommentEdit.erase.document document') :
    (generate config document.resolve).map Generation.code = (generate config document'.resolve).map Generation.code := by
  have erased : ∀ d : Document, (generate config (CommentEdit.erase.document d).resolve).map Generation.code =
      (generate config d.resolve).map Generation.code := by
    intro d
    rw [CommentEdit.resolve_document]
    exact generateFor_code config.target.keepsCode config CommentEdit.erase d.resolve
  rw [← erased document, same, erased]

/-- A module, a struct and a field whose comments are the given texts. -/
def commentedDocument (outer own inner : Option String) : Document :=
  ⟨[.module "shapes" outer [.struct ⟨"Point", [], [⟨"x", .scalar .u8, inner⟩], own⟩]]⟩

theorem commented_same_code :
    let outer := some "\x7d\nfunc main() \x7b\x7d\r\n"
    let inner := some "a\rb */ \n\n\x09// c  "
    CommentEdit.erase.document (commentedDocument outer none inner) =
        CommentEdit.erase.document (commentedDocument none (some "") none) ∧
      (generate {} (commentedDocument outer none inner).resolve).map Generation.code =
        (generate {} (commentedDocument none (some "") none).resolve).map Generation.code :=
  ⟨rfl, generate_ignores_comments {} rfl⟩

end SchemaBindings
