import SchemaBindings.Proofs.DeclarationTree
import SchemaBindings.Resolution.Symbols

/-!
# Declared types

The symbols of a document are exactly the structs, unions and aliases that a walk along module names finds in
it, where the first declaration of a name counts at every step. A look-up therefore answers with the declaration
that a name refers to: the one in the module of the reference if there is such a type, and the one from
the root otherwise.
-/

namespace SchemaBindings

open Declaration

/-! ## The types of a document -/

/-- The number of generic parameters of the struct, union or alias at a path. -/
def Document.genericCountAt? (document : Document) (p : SchemaPath) : Option Nat :=
  p.segments.getLast?.bind fun name =>
    (declared? document.declarations p.module name).bind Declaration.genericCount?

/-- The path that a name in the module `m` refers to: inside the module if a type is declared there, and from the
root otherwise. -/
def Document.referent (document : Document) (m : ModulePath) (name : String) : SchemaPath :=
  if (document.genericCountAt? ⟨m ++ nameSegments name⟩).isSome then ⟨m ++ nameSegments name⟩
  else ⟨nameSegments name⟩

theorem Document.genericCountAt?_append {document : Document} {m : ModulePath} {name : String} :
    document.genericCountAt? ⟨m ++ [name]⟩ =
      (declared? document.declarations m name).bind Declaration.genericCount? := by
  simp [genericCountAt?, SchemaPath.module]

/-! ## Symbols -/

theorem symbols_eq_flatMap (m : ModulePath) (seen : List String) (ds : List DeclarationExpr) :
    symbols m seen ds = (firstOnes seen ds).flatMap (symbolsIn m) := by
  induction ds generalizing seen with
  | nil => rfl
  | cons d ds ih =>
    rw [symbols, firstOnes]
    split
    · exact ih seen
    · rw [ih, List.flatMap_cons]

theorem mem_symbolsIn_of_genericCount? {m : ModulePath} {d : DeclarationExpr} {k : Nat}
    (count : d.genericCount? = some k) : ⟨⟨m ++ [d.name]⟩, k⟩ ∈ symbolsIn m d := by
  cases d with
  | struct _ | union _ | typeAlias _ =>
    cases count
    exact List.mem_singleton_self _
  | const _ | module _ _ _ => exact absurd count (by simp [Declaration.genericCount?])

/-- What is a symbol is declared. -/
theorem declared_of_mem_symbols {m : ModulePath} {ds : List DeclarationExpr} {s : Symbol}
    (member : s ∈ symbols m [] ds) :
    ∃ rest name, s.path = ⟨m ++ (rest ++ [name])⟩ ∧
      (declared? ds rest name).bind Declaration.genericCount? = some s.generics := by
  induction ds using module_induction generalizing m with
  | step ds ih =>
    rw [symbols_eq_flatMap] at member
    obtain ⟨d, first, member⟩ := List.mem_flatMap.1 member
    have declared : declared? ds [] d.name = some d :=
      declared?_eq_some.2 ⟨ds, rfl, first, rfl⟩
    cases d with
    | struct _ | union _ | typeAlias _ =>
      rw [symbolsIn, List.mem_singleton] at member
      subst member
      exact ⟨[], _, rfl, Option.bind_eq_some_iff.2 ⟨_, declared, rfl⟩⟩
    | const _ => exact absurd member List.not_mem_nil
    | module name comment inner =>
      rw [symbolsIn] at member
      obtain ⟨rest, last, path, count⟩ :=
        ih name comment inner (mem_of_mem_firstOnes first) member
      refine ⟨name :: rest, last, ?_, ?_⟩
      · rw [path, List.append_assoc, List.singleton_append, List.cons_append]
      · obtain ⟨d, found, counted⟩ := Option.bind_eq_some_iff.1 count
        obtain ⟨around, below, counts, named⟩ := declared?_eq_some.1 found
        refine Option.bind_eq_some_iff.2 ⟨d, declared?_eq_some.2 ⟨around, ?_, counts, named⟩, counted⟩
        exact declarationsAt?_cons_eq_some.2 ⟨comment, inner, first, below⟩

/-- What is declared is a symbol. -/
theorem mem_symbols_of_declared {ds inner : List DeclarationExpr} {rest : ModulePath}
    {d : DeclarationExpr} {k : Nat} (below : declarationsAt? rest ds = some inner)
    (first : d ∈ firstOnes [] inner) (count : d.genericCount? = some k) (m : ModulePath) :
    ⟨⟨m ++ (rest ++ [d.name])⟩, k⟩ ∈ symbols m [] ds := by
  rw [symbols_eq_flatMap]
  induction rest generalizing m ds with
  | nil =>
    cases below
    exact List.mem_flatMap.2 ⟨d, first, mem_symbolsIn_of_genericCount? count⟩
  | cons name rest ih =>
    obtain ⟨comment, declarations, around, below⟩ := declarationsAt?_cons_eq_some.1 below
    have deeper := ih below (m ++ [name])
    rw [List.append_assoc, List.singleton_append] at deeper
    refine List.mem_flatMap.2 ⟨_, around, ?_⟩
    rwa [symbolsIn, symbols_eq_flatMap]

/-- The symbols of a document are its declared types. -/
theorem Document.mem_symbols_iff {document : Document} {s : Symbol} :
    s ∈ document.symbols ↔ document.genericCountAt? s.path = some s.generics := by
  constructor
  · intro member
    obtain ⟨rest, name, path, count⟩ := declared_of_mem_symbols member
    rwa [path, List.nil_append, genericCountAt?_append]
  · intro count
    obtain ⟨name, last, count⟩ := Option.bind_eq_some_iff.1 count
    obtain ⟨d, found, counted⟩ := Option.bind_eq_some_iff.1 count
    obtain ⟨inner, below, first, rfl⟩ := declared?_eq_some.1 found
    have member := mem_symbols_of_declared below first counted []
    have segments : s.path.module ++ [d.name] = s.path.segments :=
      List.dropLast_append_getLast? _ last
    rwa [List.nil_append, segments] at member

/-! ## Look-ups -/

theorem Document.symbolAt?_eq (document : Document) (p : SchemaPath) :
    symbolAt? document.symbols p = (document.genericCountAt? p).map (⟨p, ·⟩) := by
  unfold symbolAt?
  cases found : document.symbols.find? (·.path == p) with
  | some s =>
    obtain rfl : s.path = p := by simpa using List.find?_some found
    rw [mem_symbols_iff.1 (List.mem_of_find?_eq_some found)]
    rfl
  | none =>
    cases count : document.genericCountAt? p with
    | none => rfl
    | some k =>
      have member : (⟨p, k⟩ : Symbol) ∈ document.symbols := mem_symbols_iff.2 count
      exact absurd (List.find?_eq_none.1 found _ member) (by simp)

/-- A name is looked up at its referent. -/
theorem Document.lookup?_eq (document : Document) (m : ModulePath) (name : String) :
    lookup? document.symbols m name =
      (document.genericCountAt? (document.referent m name)).map (⟨document.referent m name, ·⟩) := by
  unfold lookup? referent
  rw [symbolAt?_eq, symbolAt?_eq]
  cases inside : document.genericCountAt? ⟨m ++ nameSegments name⟩ with
  | some k => simp [inside]
  | none => simp

end SchemaBindings
