import SchemaBindings.Command.FileTree
import SchemaBindings.Proofs.FilePaths
import SchemaBindings.Proofs.Outcomes

/-!
# Places in a tree of files

Where a path leads is a matter of its segments alone, as long as it can be walked (`walk_eq_ok`). So it leads to the
same place in any tree that has kept its directories (`place_eq_ok`), and relative paths of plain names that are
appended to one directory lead to different places unless they are the same (`place_push`).

What is put at a place changes nothing at any other (`lookup_put`). A file is written where no directory stands, and a
directory is made where nothing does, so neither takes away a directory (`writeFile_eq_ok`, `makeDirectory_eq_ok`).
-/

namespace SchemaBindings.FileTree

/-! ## Walking -/

/-- The place that segments lead to from a place. -/
def follow (place segments : List String) : List String :=
  (segments.filter FilePath.isComponent).foldl step place

/-- Each directory of the tree is one later, too. -/
def KeepsDirectories (tree later : FileTree) : Prop :=
  ∀ place, tree.entry? place = some .directory → later.entry? place = some .directory

/-- What stands in the tree stands there later, too. -/
def Keeps (tree later : FileTree) : Prop :=
  ∀ place entry, tree.entry? place = some entry → later.entry? place = some entry

theorem follow_append (place segments rest : List String) :
    follow place (segments ++ rest) = follow (follow place segments) rest := by
  rw [follow, List.filter_append, List.foldl_append]
  rfl

/-- Plain names lead down. -/
theorem follow_plain (place : List String) {names : List String} (plain : ∀ name ∈ names, FilePath.IsPlain name) :
    follow place names = place ++ names := by
  induction names generalizing place with
  | nil => exact (List.append_nil place).symm
  | cons name names ih =>
    obtain ⟨first, others⟩ := List.forall_mem_cons.1 plain
    have down : step place name = place ++ [name] := if_neg fun up => first.down up.1
    rw [← List.singleton_append, follow_append, ih _ others, follow,
      List.filter_cons_of_pos (FilePath.isComponent_of_isPlain first), ← List.append_assoc, ← down]
    rfl

variable {tree later : FileTree} {path : String}

/-- A walk that arrives arrives where the segments lead, and also in a tree that has kept its directories. -/
theorem walk_eq_ok (kept : tree.KeepsDirectories later) {place destination segments : List String}
    (walked : tree.walk place segments = .ok destination) :
    destination = follow place segments ∧ later.walk place segments = .ok destination := by
  fun_induction walk tree place segments with
  | case1 place =>
    cases walked
    exact ⟨rfl, rfl⟩
  | case2 | case3 | case4 => exact absurd walked (by simp)
  | case5 place segment rest here short void ih =>
    obtain ⟨arrives, walks⟩ := ih walked
    have dropped : FilePath.isComponent segment = false := by
      rcases void with rfl | rfl <;> rfl
    refine ⟨arrives.trans ?_, ?_⟩
    · rw [follow, follow, List.filter_cons_of_neg (Bool.eq_false_iff.1 dropped)]
    · rw [walk, kept place here]
      dsimp only
      rw [if_neg short, if_pos void, walks]
  | case6 place segment rest here short filled ih =>
    obtain ⟨arrives, walks⟩ := ih walked
    have component : FilePath.isComponent segment = true := by
      rw [not_or] at filled
      exact decide_eq_true filled
    refine ⟨arrives.trans ?_, ?_⟩
    · rw [follow, follow, List.filter_cons_of_pos component, List.foldl_cons]
    · rw [walk, kept place here]
      dsimp only
      rw [if_neg short, if_neg filled, walks]

/-- A path leads where its segments lead. -/
theorem place_eq_ok (kept : tree.KeepsDirectories later) {destination : List String}
    (arrived : tree.place path = .ok destination) :
    destination = follow [] (FilePath.segments path) ∧ later.place path = .ok destination := by
  unfold place at arrived ⊢
  split at arrived
  · exact absurd arrived (by simp)
  · next plain =>
    split at arrived
    · exact absurd arrived (by simp)
    · next short =>
      split at arrived
      · exact absurd arrived (by simp)
      · next relative =>
        rw [if_neg plain, if_neg short, if_neg relative]
        exact walk_eq_ok kept arrived

/-- Behind a directory plain names lead to the place of the directory and on. -/
theorem place_push {out : String} {names destination : List String} (some : names ≠ [])
    (plain : ∀ name ∈ names, FilePath.IsPlain name)
    (arrived : tree.place (FilePath.push out (FilePath.ofComponents names)) = .ok destination) :
    destination = follow [] (FilePath.base out) ++ names := by
  rw [(place_eq_ok (fun _ => id) arrived).1, FilePath.segments_push out (FilePath.isAbsolute_ofComponents plain),
    FilePath.segments_ofComponents some plain, follow_append, follow_plain _ plain]

/-! ## Entries -/

theorem lookup_cons_eq (first : List String × FileEntry) (entries : List (List String × FileEntry))
    (other : List String) :
    (first :: entries).lookup other = if other = first.1 then some first.2 else entries.lookup other := by
  rw [List.lookup_cons]
  split
  · next same => rw [if_pos (beq_iff_eq.1 same)]
  · next differ => rw [if_neg (beq_eq_false_iff_ne.1 differ)]

theorem lookup_replaced (entries : List (List String × FileEntry)) (place : List String) (entry : FileEntry)
    (other : List String) :
    (entries.filter (·.1 ≠ place) ++ [(place, entry)]).lookup other =
      if other = place then some entry else entries.lookup other := by
  induction entries with
  | nil => rw [List.filter_nil, List.nil_append, lookup_cons_eq]
  | cons first entries ih =>
    by_cases known : first.1 = place
    · rw [List.filter_cons_of_neg (by simpa using known), ih, lookup_cons_eq, known]
      split <;> rfl
    · rw [List.filter_cons_of_pos (by simpa using known), List.cons_append, lookup_cons_eq, lookup_cons_eq, ih]
      split
      · next same => rw [if_neg fun equal => known (same.symm.trans equal)]
      · rfl

/-- What is put at a place is all that changes. -/
theorem lookup_put {place : List String} (inside : isAround place = false) (tree : FileTree) (entry : FileEntry)
    (other : List String) :
    entry? (tree.put place entry) other = if other = place then some entry else tree.entry? other := by
  unfold entry? put
  rw [lookup_replaced]
  by_cases same : other = place
  · rw [if_pos same, if_pos same, same, inside]
    rfl
  · rw [if_neg same, if_neg same]

/-- A place without a directory is not around the working directory. -/
theorem isAround_eq_false {place : List String} (other : tree.entry? place ≠ some .directory) :
    isAround place = false := by
  refine Bool.eq_false_iff.2 fun around => other ?_
  unfold entry?
  rw [if_pos around]

/-! ## Operations -/

theorem readFile_eq_ok_iff {contents : List UInt8} :
    tree.readFile path = .ok contents ↔
      ∃ place, tree.place path = .ok place ∧ tree.entry? place = some (.file contents) := by
  unfold readFile find
  cases arrived : tree.place path with
  | error problem => simp [bind, Except.bind]
  | ok place =>
    cases found : tree.entry? place with
    | none => simp [bind, Except.bind, found]
    | some entry => cases entry <;> simp [bind, Except.bind, pure, Except.pure, throw, throwThe, MonadExceptOf.throw, found]

/-- A file is held at a place instead of what stood there, which was no directory. -/
structure Replaces (tree : FileTree) (place : List String) (contents : List UInt8) (later : FileTree) : Prop where
  file : later.entry? place = some (.file contents)
  others : ∀ other, other ≠ place → later.entry? other = tree.entry? other
  wasNoDirectory : tree.entry? place ≠ some .directory

theorem writeFile_eq_ok {contents : List UInt8} (written : tree.writeFile path contents = .ok later) :
    ∃ place, tree.place path = .ok place ∧ tree.Replaces place contents later := by
  obtain ⟨place, arrived, written⟩ := bind_eq_ok.1 written
  refine ⟨place, arrived, ?_⟩
  have other : tree.entry? place ≠ some .directory := by
    intro found
    rw [found] at written
    exact absurd written (by simp)
  have put : tree.put place (.file contents) = later := by
    split at written
    · next found => exact absurd found other
    · exact pure_eq_ok.1 written
  have entries := lookup_put (isAround_eq_false other) tree (.file contents)
  rw [← put]
  exact ⟨(entries place).trans (if_pos rfl), fun q differ => (entries q).trans (if_neg differ), other⟩

theorem makeDirectory_eq_ok (made : tree.makeDirectory path = .ok later) : tree.Keeps later := by
  intro place entry found
  obtain ⟨fresh, -, made⟩ := bind_eq_ok.1 made
  cases vacant : tree.entry? fresh with
  | some entry =>
    rw [vacant] at made
    exact absurd made (by simp)
  | none =>
    rw [vacant] at made
    obtain rfl := pure_eq_ok.1 made
    have other : tree.entry? fresh ≠ some .directory := by
      rw [vacant]
      exact (Option.some_ne_none _).symm
    rw [lookup_put (isAround_eq_false other), if_neg, found]
    rintro rfl
    exact absurd (found.symm.trans vacant) (by simp)

theorem Replaces.keepsDirectories {place : List String} {contents : List UInt8}
    (replaces : tree.Replaces place contents later) : tree.KeepsDirectories later := by
  intro other found
  rw [replaces.others other, found]
  rintro rfl
  exact replaces.wasNoDirectory found

end SchemaBindings.FileTree
