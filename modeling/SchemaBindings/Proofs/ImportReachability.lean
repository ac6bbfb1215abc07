import Mathlib.Logic.Relation
import Mathlib.Data.List.Basic
import Mathlib.Data.Nat.Bitwise
import SchemaBindings.Generation.ImportGraph

/-!
# Reachability in import graphs

`ImportGraph.leads` answers exactly whether a chain of at least one import leads from one module to another,
for every list of imports.

* `Connects rows i j`: the row of module `i` holds module `j`.
* Every row stays within the chains of the direct rows (`foldl_within`).
* After a station has been taken up, the rows are closed through it and stay closed through all stations
  before it (`closedThrough_step`). After the last one they are transitive.
-/

namespace SchemaBindings

open Relation

/-- The module `m` imports the module `n`. -/
def Imports (imports : List Import) (m n : ModulePath) : Prop :=
  (m, n) ∈ imports

namespace ImportGraph

/-! ## Rows as a relation on numbers -/

/-- The row of the module with the number `i` holds the one with the number `j`. -/
def Connects (rows : List Nat) (i j : Nat) : Prop :=
  (rows.getD i 0).testBit j = true

theorem connects_closeThrough {rows : List Nat} {station i j : Nat} :
    Connects (closeThrough rows station) i j ↔
      Connects rows i j ∨ (Connects rows i station ∧ Connects rows station j) := by
  have row : (closeThrough rows station).getD i 0 =
      if (rows.getD i 0).testBit station then rows.getD i 0 ||| rows.getD station 0
      else rows.getD i 0 := by
    unfold closeThrough
    rw [List.getD_eq_getElem?_getD, List.getElem?_map, List.getD_eq_getElem?_getD (l := rows) (i := i)]
    cases rows[i]? <;> simp
  unfold Connects
  rw [row]
  split
  · next through => simp only [Nat.testBit_or, Bool.or_eq_true, through, true_and]
  · next apart => simp only [apart, Bool.false_eq_true, false_and, or_false]

/-! ## Direct rows -/

theorem testBit_foldl_marks {modules : List ModulePath} {es : List Import} {row j : Nat} :
    (es.foldl (fun row e => row ||| 1 <<< modules.idxOf e.2) row).testBit j = true ↔
      row.testBit j = true ∨ ∃ e ∈ es, modules.idxOf e.2 = j := by
  induction es generalizing row with
  | nil => simp
  | cons e es ih =>
    have mark : (1 <<< modules.idxOf e.2).testBit j = true ↔ modules.idxOf e.2 = j := by
      rw [Nat.one_shiftLeft, Nat.testBit_two_pow, decide_eq_true_eq]
    rw [List.foldl_cons, ih, Nat.testBit_or, Bool.or_eq_true, mark]
    simp only [List.mem_cons, exists_eq_or_imp, or_assoc]

theorem testBit_directRow {modules : List ModulePath} {imports : List Import} {m : ModulePath}
    {j : Nat} :
    (directRow modules imports m).testBit j = true ↔
      ∃ n, Imports imports m n ∧ modules.idxOf n = j := by
  unfold directRow
  rw [testBit_foldl_marks]
  simp only [Nat.zero_testBit, Bool.false_eq_true, false_or, List.mem_filter, decide_eq_true_eq]
  constructor
  · rintro ⟨⟨m', n⟩, ⟨member, rfl⟩, equal⟩
    exact ⟨n, member, equal⟩
  · rintro ⟨n, member, equal⟩
    exact ⟨(m, n), ⟨member, rfl⟩, equal⟩

theorem mem_modulesOf {imports : List Import} {m : ModulePath} :
    m ∈ modulesOf imports ↔ ∃ n, Imports imports m n ∨ Imports imports n m := by
  unfold modulesOf Imports
  rw [List.mem_eraseDups, List.mem_flatMap]
  constructor
  · rintro ⟨⟨a, b⟩, member, isEnd⟩
    simp only [List.mem_cons, List.not_mem_nil, or_false] at isEnd
    rcases isEnd with rfl | rfl
    · exact ⟨b, .inl member⟩
    · exact ⟨a, .inr member⟩
  · rintro ⟨n, member | member⟩
    · exact ⟨_, member, by simp⟩
    · exact ⟨_, member, by simp⟩

/-- The rows before any station has been taken up. -/
def directRows (imports : List Import) : List Nat :=
  (modulesOf imports).map (directRow (modulesOf imports) imports)

theorem connects_directRows_of_imports {imports : List Import} {m n : ModulePath}
    (edge : Imports imports m n) :
    Connects (directRows imports) ((modulesOf imports).idxOf m) ((modulesOf imports).idxOf n) := by
  have member : m ∈ modulesOf imports := mem_modulesOf.2 ⟨n, .inl edge⟩
  unfold Connects directRows
  rw [List.getD_eq_getElem?_getD, List.getElem?_map, List.getElem?_idxOf member]
  exact testBit_directRow.2 ⟨n, edge, rfl⟩

/-! ## Rows stay within chains -/

/-- What the row with the number `i` holds is the number of a module that a chain leads to. -/
def Within (imports : List Import) (rows : List Nat) : Prop :=
  ∀ i j, Connects rows i j → ∃ m n, (modulesOf imports)[i]? = some m ∧
    (modulesOf imports).idxOf n = j ∧ TransGen (Imports imports) m n

theorem directRows_within (imports : List Import) : Within imports (directRows imports) := by
  intro i j connects
  unfold Connects directRows at connects
  rw [List.getD_eq_getElem?_getD, List.getElem?_map] at connects
  cases found : (modulesOf imports)[i]? with
  | none => simp [found] at connects
  | some m =>
    rw [found, Option.map_some, Option.getD_some, testBit_directRow] at connects
    obtain ⟨n, edge, place⟩ := connects
    exact ⟨m, n, rfl, place, .single edge⟩

theorem mem_modulesOf_of_transGen {imports : List Import} {m n : ModulePath}
    (chain : TransGen (Imports imports) m n) :
    m ∈ modulesOf imports ∧ n ∈ modulesOf imports := by
  induction chain with
  | single edge => exact ⟨mem_modulesOf.2 ⟨_, .inl edge⟩, mem_modulesOf.2 ⟨_, .inr edge⟩⟩
  | tail _ edge ih => exact ⟨ih.1, mem_modulesOf.2 ⟨_, .inr edge⟩⟩

theorem closeThrough_within {imports : List Import} {rows : List Nat} (within : Within imports rows)
    (station : Nat) : Within imports (closeThrough rows station) := by
  intro i j connects
  rcases connects_closeThrough.1 connects with direct | ⟨there, onward⟩
  · exact within i j direct
  · obtain ⟨m, k, placed, stationed, first⟩ := within i station there
    obtain ⟨k', n, placed', ended, second⟩ := within station j onward
    -- The chain to the station and the one from it meet in the same module.
    have same : k' = k := by
      rw [← stationed, List.getElem?_idxOf (mem_modulesOf_of_transGen first).2] at placed'
      exact (Option.some.inj placed').symm
    subst same
    exact ⟨m, n, placed, ended, first.trans second⟩

theorem foldl_within {imports : List Import} {rows : List Nat} (within : Within imports rows)
    (stations : List Nat) : Within imports (stations.foldl closeThrough rows) := by
  induction stations generalizing rows with
  | nil => exact within
  | cons station stations ih => exact ih (closeThrough_within within station)

/-! ## Rows get closed through every station -/

/-- The rows are closed through the stations below `bound`. -/
def ClosedThrough (bound : Nat) (rows : List Nat) : Prop :=
  ∀ station < bound, ∀ i j, Connects rows i station → Connects rows station j → Connects rows i j

/-- Taking up a station closes the rows through it and keeps them closed through those before it. -/
theorem closedThrough_step {bound : Nat} {rows : List Nat} (closed : ClosedThrough bound rows) :
    ClosedThrough (bound + 1) (closeThrough rows bound) := by
  intro station below i j there onward
  rw [connects_closeThrough] at there onward ⊢
  rcases Nat.lt_succ_iff_lt_or_eq.1 below with earlier | rfl
  -- An earlier station: what it needs through the new one is already closed through it.
  · rcases there with there | ⟨there, back⟩ <;> rcases onward with onward | ⟨forth, onward⟩
    · exact .inl (closed station earlier i j there onward)
    · exact .inr ⟨closed station earlier i bound there forth, onward⟩
    · exact .inr ⟨there, closed station earlier bound j back onward⟩
    · exact .inr ⟨there, onward⟩
  · rcases there with there | ⟨there, -⟩ <;> rcases onward with onward | ⟨-, onward⟩ <;>
      exact .inr ⟨there, onward⟩

theorem closedThrough_foldl (rows : List Nat) (bound : Nat) :
    ClosedThrough bound ((List.range bound).foldl closeThrough rows) := by
  induction bound with
  | zero => exact fun station below => absurd below (Nat.not_lt_zero station)
  | succ bound ih =>
    rw [List.range_succ, List.foldl_append]
    exact closedThrough_step ih

theorem connects_foldl_of_connects {rows : List Nat} {i j : Nat} (connects : Connects rows i j)
    (stations : List Nat) : Connects (stations.foldl closeThrough rows) i j := by
  induction stations generalizing rows with
  | nil => exact connects
  | cons station stations ih => exact ih (connects_closeThrough.2 (.inl connects))

/-! ## The graph -/

theorem ofImports_rows (imports : List Import) :
    (ofImports imports).rows =
      (List.range (modulesOf imports).length).foldl closeThrough (directRows imports) :=
  rfl

theorem connects_of_transGen {imports : List Import} {m n : ModulePath}
    (chain : TransGen (Imports imports) m n) :
    Connects (ofImports imports).rows ((modulesOf imports).idxOf m)
      ((modulesOf imports).idxOf n) := by
  rw [ofImports_rows]
  induction chain with
  | single edge => exact connects_foldl_of_connects (connects_directRows_of_imports edge) _
  | @tail k n chain edge ih =>
    have member : k ∈ modulesOf imports := (mem_modulesOf_of_transGen chain).2
    exact closedThrough_foldl _ _ _ (List.idxOf_lt_length_of_mem member) _ _ ih
      (connects_foldl_of_connects (connects_directRows_of_imports edge) _)

theorem transGen_of_connects {imports : List Import} {m n : ModulePath}
    (connects : Connects (ofImports imports).rows ((modulesOf imports).idxOf m)
      ((modulesOf imports).idxOf n)) : TransGen (Imports imports) m n := by
  rw [ofImports_rows] at connects
  obtain ⟨m', n', placed, ended, chain⟩ := foldl_within (directRows_within imports) _ _ _ connects
  have start : m' = m := by
    have bounded : (modulesOf imports).idxOf m < (modulesOf imports).length :=
      (List.getElem?_eq_some_iff.1 placed).1
    rw [List.getElem?_idxOf (List.idxOf_lt_length_iff.1 bounded)] at placed
    exact (Option.some.inj placed).symm
  have finish : n' = n := (List.idxOf_inj (mem_modulesOf_of_transGen chain).2).1 ended
  rwa [start, finish] at chain

/-- The graph leads from one module to another exactly along chains of at least one import. -/
theorem leads_iff_transGen {imports : List Import} {m n : ModulePath} :
    (ofImports imports).leads m n = true ↔ TransGen (Imports imports) m n :=
  ⟨transGen_of_connects, connects_of_transGen⟩

end ImportGraph

end SchemaBindings
