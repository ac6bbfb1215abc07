import SchemaBindings.Proofs.CamelCase
import SchemaBindings.Proofs.ReferenceClosure
import SchemaBindings.Proofs.ReferredNames
import SchemaBindings.Proofs.Sites

/-!
# Paths that are reported

What the text and the path of a failure say about the declaration that it is about.

* The segments of a path can be read off its text if none of them has a colon, and so can those of a
  path that a reference has been resolved to (`readsBack_of_mem_references`). Only a path with a name that is
  no identifier can have the text of another one.
* Resolution rejects the first declaration of a name for a fault of its own, or another one because the name is
  repeated (`reported_of_mem_failures`). So no item stands at a path that has failed in resolution
  (`path_notMem_failedPaths`).
-/

namespace SchemaBindings

open Declaration

/-! ## Texts of paths -/

/-- Splitting at double colons stops at the first one behind a text without colons. -/
theorem splitColons_append {cs : List Char} (plain : ':' ∉ cs) (rest : List Char) :
    splitColons (cs ++ ':' :: ':' :: rest) = cs :: splitColons rest := by
  induction cs with
  | nil => rw [List.nil_append, splitColons]
  | cons c cs ih =>
    rw [List.mem_cons, not_or] at plain
    obtain ⟨other, plain⟩ := plain
    rw [List.cons_append, splitColons, ih plain]
    intro tail same
    exact absurd same.symm other

theorem splitColons_eq_singleton {cs : List Char} (plain : ':' ∉ cs) : splitColons cs = [cs] := by
  induction cs with
  | nil => rw [splitColons]
  | cons c cs ih =>
    rw [List.mem_cons, not_or] at plain
    obtain ⟨other, plain⟩ := plain
    rw [splitColons, ih plain]
    intro tail same
    exact absurd same.symm other

theorem splitColons_ne_nil (cs : List Char) : splitColons cs ≠ [] := by
  fun_induction splitColons cs <;> simp

/-- The pieces between double colons make up the text again. -/
theorem intercalate_splitColons (cs : List Char) : [':', ':'].intercalate (splitColons cs) = cs := by
  fun_induction splitColons cs with
  | case1 => rfl
  | case2 rest ih =>
    cases pieces : splitColons rest with
    | nil => exact absurd pieces (splitColons_ne_nil rest)
    | cons piece others =>
      rw [pieces] at ih
      rw [List.intercalate_cons_cons, ih]
      rfl
  | case3 c rest _ empty _ => exact absurd empty (splitColons_ne_nil rest)
  | case4 c rest _ piece others found ih =>
    rw [found] at ih
    cases others with
    | nil =>
      rw [List.intercalate_singleton] at ih ⊢
      rw [ih]
    | cons next others =>
      rw [List.intercalate_cons_cons] at ih ⊢
      rw [List.cons_append, List.cons_append, ih]

theorem splitColons_intercalate {pieces : List (List Char)} (plain : ∀ piece ∈ pieces, ':' ∉ piece)
    (cs : List Char) :
    splitColons ([':', ':'].intercalate (pieces ++ splitColons cs)) = pieces ++ splitColons cs := by
  induction pieces with
  | nil => rw [List.nil_append, intercalate_splitColons]
  | cons piece pieces ih =>
    obtain ⟨first, plain⟩ := List.forall_mem_cons.1 plain
    have more : pieces ++ splitColons cs ≠ [] := by simp [splitColons_ne_nil]
    obtain ⟨next, others, equal⟩ := List.exists_cons_of_ne_nil more
    have ih := ih plain
    rw [List.cons_append, equal, List.intercalate_cons_cons, List.append_assoc]
    rw [equal] at ih
    exact (splitColons_append first _).trans (congrArg (piece :: ·) ih)

/-- The segments of the path can be read off its text. -/
def SchemaPath.ReadsBack (p : SchemaPath) : Prop :=
  nameSegments p.text = p.segments

theorem SchemaPath.ReadsBack.eq_of_text {p q : SchemaPath} (reads : p.ReadsBack) (reads' : q.ReadsBack)
    (same : p.text = q.text) : p = q := by
  cases p
  cases q
  exact congrArg SchemaPath.mk (reads.symm.trans ((congrArg nameSegments same).trans reads'))

theorem readsBack_append {m : ModulePath} (plain : ∀ segment ∈ m, ':' ∉ segment.toList) (name : String) :
    SchemaPath.ReadsBack ⟨m ++ nameSegments name⟩ := by
  have more : m ++ nameSegments name ≠ [] := by simp [nameSegments, splitColons_ne_nil]
  have text : (SchemaPath.mk (m ++ nameSegments name)).text.toList =
      [':', ':'].intercalate (m.map String.toList ++ splitColons name.toList) := by
    rw [SchemaPath.text, SchemaPath.isRoot, List.isEmpty_eq_false_iff.2 more, if_neg Bool.false_ne_true,
      String.toList_intercalate, List.map_append]
    simp [nameSegments]
  unfold SchemaPath.ReadsBack
  rw [nameSegments, text, splitColons_intercalate (List.forall_mem_map.2 plain)]
  simp [nameSegments]

theorem not_colon_of_isIdentifier {name : String} (identifier : isIdentifier name) : ':' ∉ name.toList :=
  fun member => absurd (Text.isIdentifierChar_of_mem identifier member) (by decide)

/-- Identifiers make up a path that can be read off its text. -/
theorem readsBack_of_identifiers {m : ModulePath} (some : m ≠ [])
    (identifiers : ∀ segment ∈ m, isIdentifier segment) : SchemaPath.ReadsBack ⟨m⟩ := by
  obtain rfl | ⟨front, last, rfl⟩ := List.eq_nil_or_concat' m
  · exact absurd rfl some
  · obtain ⟨before, identifier⟩ := List.forall_mem_append.1 identifiers
    have alone : nameSegments last = [last] := by
      rw [nameSegments, splitColons_eq_singleton
        (not_colon_of_isIdentifier (identifier last List.mem_cons_self))]
      simp
    rw [← alone]
    exact readsBack_append (fun segment member => not_colon_of_isIdentifier (before segment member)) last

section

variable {document : Document} {i : SchemaItem}

theorem readsBack_of_mem_items (item : i ∈ document.resolve.items) : i.path.ReadsBack := by
  refine readsBack_of_identifiers (by simp) (List.forall_mem_append.2 ⟨?_, ?_⟩)
  · exact document.identifiers_of_mem_items item
  · exact List.forall_mem_singleton.2 (isIdentifier_name item)

/-- So can the segments of a path that a reference has been resolved to. -/
theorem readsBack_of_mem_references (item : i ∈ document.resolve.items) {p : SchemaPath}
    (referred : p ∈ i.declaration.references) : p.ReadsBack := by
  obtain ⟨-, d, -, -, resolves⟩ := (standsIn_resolve_iff document).1 (mem_items_iff.1 item).1
  obtain ⟨t, type, inside⟩ := Declaration.mem_references.1 referred
  rw [resolves.types_eq] at type
  obtain ⟨source, -, rfl⟩ := List.mem_map.1 type
  rw [Document.resolved, SchemaType.references_rename] at inside
  obtain ⟨name, -, rfl⟩ := List.mem_map.1 inside
  unfold Document.referent
  split
  · have identifiers := document.identifiers_of_mem_items item
    exact readsBack_append (fun segment member => not_colon_of_isIdentifier (identifiers segment member)) name
  · exact readsBack_append (fun _ member => absurd member List.not_mem_nil) name

theorem readsBack_of_mem_modulePaths {m : ModulePath} (kept : m ∈ document.resolve.modulePaths) (inside : m ≠ []) :
    SchemaPath.ReadsBack ⟨m⟩ :=
  readsBack_of_identifiers inside (document.mem_resolve_modulePaths_iff.1 kept).2

end

/-! ## What resolution reports -/

/-- What resolution reports about the first of several declarations of a name, or about another one. -/
inductive Reported (table : List Symbol) (p : ModulePath) (ds : List DeclarationExpr) (f : DeclarationFailure) :
    Prop
  | repeated {name : String} : f.fault = .duplicateDeclaration name → Reported table p ds f
  | own {m : ModulePath} {inner : List DeclarationExpr} {d : DeclarationExpr} :
      declarationsAt? m ds = some inner → d ∈ firstOnes [] inner →
      (resolveIn table (p ++ m) d).declarations = [] → f.path = (SchemaPath.mk (p ++ m)).child d.name →
      f.fault.IsIntrinsic → Reported table p ds f

theorem repeated_or_mem_resolveIn {table : List Symbol} {m : ModulePath} {seen : List String}
    {ds : List DeclarationExpr} {f : DeclarationFailure} (reported : f ∈ (resolveAll table m seen ds).failures) :
    (∃ name, f.fault = .duplicateDeclaration name) ∨
      ∃ d ∈ firstOnes seen ds, f ∈ (resolveIn table m d).failures := by
  induction ds generalizing seen with
  | nil => exact absurd reported List.not_mem_nil
  | cons d ds ih =>
    unfold resolveAll at reported
    unfold firstOnes
    split
    · next repeated =>
      rw [if_pos repeated] at reported
      rcases List.mem_append.1 reported with here | later
      · exact .inl ⟨d.name, List.mem_singleton.1 here ▸ rfl⟩
      · exact ih later
    · next fresh =>
      rw [if_neg fresh] at reported
      rcases List.mem_append.1 reported with here | later
      · exact .inr ⟨d, List.mem_cons_self, here⟩
      · rcases ih later with other | ⟨e, first, inside⟩
        · exact .inl other
        · exact .inr ⟨e, List.mem_cons_of_mem _ first, inside⟩

/-- Every failure of resolution is that of a repeated name, or that of a first declaration that is lost. -/
theorem reported_of_mem_failures {table : List Symbol} {p : ModulePath} {ds : List DeclarationExpr}
    {f : DeclarationFailure} (reported : f ∈ (resolveAll table p [] ds).failures) : Reported table p ds f := by
  induction ds using module_induction generalizing p with
  | step ds ih =>
    rcases repeated_or_mem_resolveIn reported with ⟨name, repeated⟩ | ⟨d, first, inside⟩
    · exact .repeated repeated
    cases kept : (resolveIn table p d).declarations with
    | nil =>
      obtain ⟨fault, intrinsic, made⟩ := resolveIn_faults table p kept
      rw [made] at inside
      obtain rfl := List.mem_singleton.1 inside
      have here : declarationsAt? [] ds = some ds := rfl
      exact .own here first (by rwa [List.append_nil]) (by rw [List.append_nil]) intrinsic
    | cons d' rest =>
      -- Only a module is kept and reports something, and what it reports is about its declarations.
      have silent (isItem : d.isModule = false) : False := by
        rcases resolveIn_cases table p isItem with ⟨e, -, made⟩ | ⟨fault, made⟩
        · rw [made] at inside
          exact List.not_mem_nil inside
        · rw [made] at kept
          exact absurd kept (by simp)
      cases d with
      | module name comment inner =>
        rcases resolveIn_module_cases table p name comment inner with ⟨-, made⟩ | ⟨-, fault, made⟩
        · rw [made] at inside
          cases ih name comment inner (mem_of_mem_firstOnes first) inside with
          | repeated repeated => exact .repeated repeated
          | own found below lost path intrinsic =>
            rw [List.append_assoc, List.singleton_append] at lost path
            exact .own (declarationsAt?_cons_eq_some.2 ⟨comment, inner, first, found⟩) below lost path intrinsic
        · rw [made] at kept
          exact absurd kept (by simp)
      | _ => exact (silent rfl).elim

section

variable {document : Document}

/-- Resolution blames no dependency. -/
theorem ne_dependencyFailed_of_mem_failures {f : DeclarationFailure} (reported : f ∈ document.resolve.failures)
    (name : String) : f.fault ≠ .dependencyFailed name := by
  intro blames
  cases reported_of_mem_failures reported with
  | repeated repeated => exact absurd (blames.symm.trans repeated) (by simp)
  | own _ _ _ _ intrinsic =>
    rw [blames] at intrinsic
    exact intrinsic

theorem exists_failure_of_mem_failedPaths {r : Resolved} {p : SchemaPath} (failed : p ∈ r.failedPaths) :
    ∃ f ∈ r.failures, f.path = p ∧ ∀ name, f.fault ≠ .duplicateDeclaration name := by
  obtain ⟨f, reported, counted⟩ := List.mem_filterMap.1 failed
  refine ⟨f, reported, ?_⟩
  split at counted
  · exact absurd counted (by simp)
  · next other => exact ⟨Option.some.inj counted, other⟩

/-- No item stands at a path that has failed in resolution. -/
theorem path_notMem_failedPaths {i : SchemaItem} (item : i ∈ document.resolve.items) :
    i.path ∉ document.resolve.failedPaths := by
  intro failed
  obtain ⟨f, reported, path, other⟩ := exists_failure_of_mem_failedPaths failed
  cases reported_of_mem_failures reported with
  | repeated repeated => exact other _ repeated
  | @own m inner d found first lost path' _ =>
    rw [List.nil_append] at lost path'
    obtain ⟨place, named⟩ := SchemaPath.child_injective (path'.symm.trans path)
    obtain rfl := SchemaPath.mk.inj place
    -- The declaration that is lost is the one that the item has been made of.
    obtain ⟨-, e, declared, formed, resolves⟩ := (standsIn_resolve_iff document).1 (mem_items_iff.1 item).1
    have declared' := declared?_eq_some.2 ⟨inner, found, first, named⟩
    cases declared.symm.trans declared'
    have kept := (mem_resolveIn_iff document).2 ⟨formed, resolves⟩
    rw [lost] at kept
    exact List.not_mem_nil kept

end

end SchemaBindings
