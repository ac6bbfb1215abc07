import SchemaBindings.Proofs.Spellings

/-!
# Relative paths

A path leads from one module up to what the two modules share, and down to the other. The names on the way down are
never `super`, so the steps up can be told from those down.

* The path tells where it leads (`segments_injective`).
* Followed from the module in which it stands, it leads to the name in the other module (`followPath?_relativePath`). What
  the modules share is found by their names in the schema, while the path is spelled with the names that are emitted; a
  step up takes one name off both.
-/

namespace SchemaBindings.Rust

/-! ## What two paths share -/

theorem commonLength_le (source destination : ModulePath) :
    commonLength source destination ≤ source.length := by
  fun_induction commonLength source destination with
  | case1 a as bs ih => simpa using ih
  | case2 => exact Nat.zero_le _
  | case3 => exact Nat.zero_le _

theorem take_commonLength (source destination : ModulePath) :
    source.take (commonLength source destination) =
      destination.take (commonLength source destination) := by
  fun_induction commonLength source destination with
  | case1 a as bs ih => rw [List.take_succ_cons, List.take_succ_cons, ih]
  | case2 => rfl
  | case3 => rfl

theorem commonLength_self (m : ModulePath) : commonLength m m = m.length := by
  induction m with
  | nil => rfl
  | cons a m ih => rw [commonLength, if_pos rfl, ih, List.length_cons]

/-- Two paths that share all of both are the same. -/
theorem eq_of_commonLength {source destination : ModulePath}
    (up : source.length - commonLength source destination = 0)
    (down : destination.drop (commonLength source destination) = []) : source = destination := by
  have whole : commonLength source destination = source.length :=
    Nat.le_antisymm (commonLength_le _ _) (Nat.le_of_sub_eq_zero up)
  calc source = source.take (commonLength source destination) := by rw [whole, List.take_length]
    _ = destination.take (commonLength source destination) := take_commonLength _ _
    _ = destination := by rw [← List.append_nil (List.take _ _), ← down, List.take_append_drop]

/-! ## Segments of a path -/

/-- The segments of the path from one module to a name in another. -/
def segments (source destination : ModulePath) (name : String) : List String :=
  List.replicate (source.length - commonLength source destination) "super" ++
    ((destination.drop (commonLength source destination)).map moduleName ++ [name])

theorem relativePath_eq (source destination : ModulePath) (name : String) :
    relativePath source destination name = "::".intercalate (segments source destination name) := by
  rw [relativePath, segments, List.append_assoc]

theorem segments_self (m : ModulePath) (name : String) : segments m m name = [name] := by
  simp [segments, commonLength_self]

theorem relativePath_self (m : ModulePath) (name : String) : relativePath m m name = name := by
  rw [relativePath_eq, segments_self, String.intercalate_singleton]

section

variable {source destination : ModulePath} {name : String}

theorem segments_plain (identifiers : ∀ segment ∈ destination, isIdentifier segment)
    (plain : ∀ c ∈ name.toList, isSegmentChar c = true) :
    ∀ segment ∈ segments source destination name, ∀ c ∈ segment.toList, isSegmentChar c = true := by
  intro segment member
  rcases List.mem_append.1 member with up | member
  · rw [List.eq_of_mem_replicate up]
    exact List.all_eq_true.1 (by decide)
  rcases List.mem_append.1 member with down | last
  · obtain ⟨inner, among, rfl⟩ := List.mem_map.1 down
    exact (moduleName_plain (identifiers inner (List.mem_of_mem_drop among))).1
  · rw [List.mem_singleton.1 last]
    exact plain

theorem segments_ne_empty (identifiers : ∀ segment ∈ destination, isIdentifier segment)
    (some : name ≠ "") : ∀ segment ∈ segments source destination name, segment ≠ "" := by
  intro segment member
  rcases List.mem_append.1 member with up | member
  · rw [List.eq_of_mem_replicate up]
    decide
  rcases List.mem_append.1 member with down | last
  · obtain ⟨inner, among, rfl⟩ := List.mem_map.1 down
    exact (moduleName_plain (identifiers inner (List.mem_of_mem_drop among))).2.1
  · rw [List.mem_singleton.1 last]
    exact some

/-- A path with one segment stays in the module. -/
theorem eq_of_segments_singleton {segment : String} (single : segments source destination name = [segment]) :
    source = destination ∧ name = segment := by
  have length := congrArg List.length single
  unfold segments at single length
  rw [← List.append_assoc] at single
  simp only [List.length_append, List.length_replicate, List.length_map, List.length_cons,
    List.length_nil] at length
  refine ⟨eq_of_commonLength (by omega) (List.eq_nil_of_length_eq_zero (by omega)), ?_⟩
  exact List.singleton_inj.1 (List.append_inj' (single.trans (List.nil_append _).symm) rfl).2

/-- A path to another module has several segments, so its text has a colon. -/
theorem colon_mem_relativePath (apart : source ≠ destination) (name : String) :
    ':' ∈ (relativePath source destination name).toList := by
  rw [relativePath_eq, segments]
  cases up : source.length - commonLength source destination with
  | succ n =>
    cases rest : List.replicate n "super" ++
        ((destination.drop (commonLength source destination)).map moduleName ++ [name]) with
    | nil => exact absurd rest (by simp)
    | cons next others =>
      rw [List.replicate_succ, List.cons_append, rest, String.intercalate_cons_cons]
      simp
  | zero =>
    cases down : destination.drop (commonLength source destination) with
    | nil => exact absurd (eq_of_commonLength up down) apart
    | cons inner deeper =>
      cases rest : deeper.map moduleName ++ [name] with
      | nil => exact absurd rest (by simp)
      | cons next others =>
        rw [List.replicate_zero, List.nil_append, List.map_cons, List.cons_append, rest,
          String.intercalate_cons_cons]
        simp

end

/-! ## Where a path leads -/

theorem replicate_append_injective {α : Type} {a : α} {n n' : Nat} {xs ys : List α}
    (other : ∀ x ∈ xs, x ≠ a) (other' : ∀ y ∈ ys, y ≠ a)
    (same : List.replicate n a ++ xs = List.replicate n' a ++ ys) : n = n' ∧ xs = ys := by
  induction n generalizing n' with
  | zero =>
    cases n' with
    | zero => exact ⟨rfl, by simpa using same⟩
    | succ n' =>
      have first : a ∈ xs := by
        rw [List.replicate_zero, List.nil_append] at same
        rw [same]
        exact List.mem_cons_self
      exact absurd rfl (other a first)
  | succ n ih =>
    cases n' with
    | zero =>
      have first : a ∈ ys := by
        rw [List.replicate_zero, List.nil_append] at same
        rw [← same]
        exact List.mem_cons_self
      exact absurd rfl (other' a first)
    | succ n' =>
      obtain ⟨rfl, rest⟩ := ih (List.cons.inj same).2
      exact ⟨rfl, rest⟩

/-- The segments of a path tell where it leads: to a name in a module with this emitted path. -/
theorem segments_injective {source d d' : ModulePath} {name name' : String}
    (identifiers : ∀ segment ∈ d, isIdentifier segment)
    (identifiers' : ∀ segment ∈ d', isIdentifier segment)
    (same : segments source d name = segments source d' name') :
    d.map moduleName = d'.map moduleName ∧ name = name' := by
  unfold segments at same
  rw [← List.append_assoc, ← List.append_assoc] at same
  obtain ⟨places, last⟩ := List.append_inj' same rfl
  have down : ∀ (e : ModulePath) (k : Nat), (∀ segment ∈ e, isIdentifier segment) →
      ∀ segment ∈ (e.drop k).map moduleName, segment ≠ "super" := by
    intro e k identifiers segment member
    obtain ⟨inner, among, rfl⟩ := List.mem_map.1 member
    exact (moduleName_plain (identifiers inner (List.mem_of_mem_drop among))).2.2
  obtain ⟨ups, downs⟩ :=
    replicate_append_injective (down d _ identifiers) (down d' _ identifiers') places
  have shared : commonLength source d = commonLength source d' := by
    have := commonLength_le source d
    have := commonLength_le source d'
    omega
  refine ⟨?_, List.singleton_inj.1 last⟩
  calc d.map moduleName
      = (d.take (commonLength source d) ++ d.drop (commonLength source d)).map moduleName := by
        rw [List.take_append_drop]
    _ = (d'.take (commonLength source d') ++ d'.drop (commonLength source d')).map moduleName := by
        rw [List.map_append, List.map_append, downs, ← take_commonLength source d,
          ← take_commonLength source d', shared]
    _ = d'.map moduleName := by rw [List.take_append_drop]

/-! ## Following a path -/

/-- What stands between the double colons of a text. -/
def pathSegments : List Char → List (List Char)
  | [] => [[]]
  | ':' :: ':' :: rest => [] :: pathSegments rest
  | c :: rest =>
    match pathSegments rest with
    | [] => [[c]]
    | segment :: others => (c :: segment) :: others

/-- Goes down from a module, given by the names on the way to it, and ends at the last name. A reserved word leads
nowhere. -/
def descend? (here : List String) : List String → Option (List String × String)
  | [] => none
  | [name] => some (here, name)
  | segment :: next :: rest =>
    if segment ∈ reservedWords then none else descend? (here ++ [segment]) (next :: rest)

/-- Goes up one module for each `super` in front of others, and then down. There is nothing above the root. -/
def follow? (here : List String) : List String → Option (List String × String)
  | segment :: next :: rest =>
    if segment ≠ "super" then descend? here (segment :: next :: rest)
    else if here = [] then none
    else follow? here.dropLast (next :: rest)
  | segments => descend? here segments

/-- Where the text of a path leads from a module: to a module and a name in it. -/
def followPath? (here : List String) (path : String) : Option (List String × String) :=
  follow? here ((pathSegments path.toList).map String.ofList)

theorem pathSegments_append {piece : List Char} (plain : ':' ∉ piece) (rest : List Char) :
    pathSegments (piece ++ ':' :: ':' :: rest) = piece :: pathSegments rest := by
  induction piece with
  | nil => rfl
  | cons c piece ih =>
    rw [List.mem_cons, not_or] at plain
    rw [List.cons_append, pathSegments, ih plain.2]
    exact fun _ same _ => plain.1 same.symm

theorem pathSegments_of_plain {piece : List Char} (plain : ':' ∉ piece) : pathSegments piece = [piece] := by
  induction piece with
  | nil => rfl
  | cons c piece ih =>
    rw [List.mem_cons, not_or] at plain
    rw [pathSegments, ih plain.2]
    exact fun _ same _ => plain.1 same.symm

theorem pathSegments_intercalate {pieces : List (List Char)} (some : pieces ≠ [])
    (plain : ∀ piece ∈ pieces, ':' ∉ piece) : pathSegments ("::".toList.intercalate pieces) = pieces := by
  induction pieces with
  | nil => exact absurd rfl some
  | cons piece others ih =>
    obtain ⟨first, later⟩ := List.forall_mem_cons.1 plain
    cases others with
    | nil => rw [List.intercalate_singleton, pathSegments_of_plain first]
    | cons next others =>
      rw [List.intercalate_cons_cons, List.append_assoc]
      exact (pathSegments_append first _).trans (congrArg _ (ih (List.cons_ne_nil _ _) later))

/-- The text of a path is split into its segments. -/
theorem pathSegments_relativePath {source destination : ModulePath} {name : String}
    (identifiers : ∀ segment ∈ destination, isIdentifier segment)
    (plain : ∀ c ∈ name.toList, isSegmentChar c = true) :
    (pathSegments (relativePath source destination name).toList).map String.ofList =
      segments source destination name := by
  have colonFree : ∀ segment ∈ segments source destination name, ':' ∉ segment.toList :=
    fun segment member colon => absurd (segments_plain identifiers plain segment member ':' colon) (by decide)
  rw [relativePath_eq, String.toList_intercalate, pathSegments_intercalate, List.map_map]
  · exact (List.map_congr_left fun segment _ => String.ofList_toList).trans (List.map_id' _)
  · simp [segments]
  · exact List.forall_mem_map.2 colonFree

/-- The name of a module is no reserved word. -/
theorem moduleName_not_mem_reservedWords (segment : String) : moduleName segment ∉ reservedWords := by
  unfold moduleName escape
  split
  · next reserved =>
    have finite : ∀ word ∈ reservedWords, word ++ "_" ∉ reservedWords := by decide +kernel
    exact finite _ reserved
  · next unreserved =>
    split
    · next keyword =>
      have finite : ∀ word ∈ keywords, "r#" ++ word ∉ reservedWords := by decide +kernel
      exact finite _ keyword
    · exact unreserved

section

variable {here down : List String}

theorem descend?_append (plain : ∀ segment ∈ down, segment ∉ reservedWords) (name : String) :
    descend? here (down ++ [name]) = some (here ++ down, name) := by
  induction down generalizing here with
  | nil =>
    rw [List.append_nil]
    rfl
  | cons segment down ih =>
    obtain ⟨first, others⟩ := List.forall_mem_cons.1 plain
    have step : descend? here (segment :: (down ++ [name])) = descend? (here ++ [segment]) (down ++ [name]) := by
      cases down with
      | nil => exact if_neg first
      | cons next down => exact if_neg first
    rw [List.cons_append, step, ih others, ← List.append_cons]

theorem follow?_append (plain : ∀ segment ∈ down, segment ∉ reservedWords) (name : String) :
    follow? here (down ++ [name]) = some (here ++ down, name) := by
  rw [← descend?_append plain]
  cases down with
  | nil => rfl
  | cons segment down =>
    have other : segment ≠ "super" := by
      rintro rfl
      exact plain _ List.mem_cons_self (by decide)
    cases down with
    | nil => exact if_pos other
    | cons next down => exact if_pos other

/-- Each step up takes the last name off, as long as there is one. -/
theorem follow?_up (plain : ∀ segment ∈ down, segment ∉ reservedWords) (name : String) {ups : Nat}
    (inside : ups ≤ here.length) :
    follow? here (List.replicate ups "super" ++ (down ++ [name])) =
      some (here.take (here.length - ups) ++ down, name) := by
  induction ups generalizing here with
  | zero =>
    rw [Nat.sub_zero, List.take_length]
    exact follow?_append plain name
  | succ ups ih =>
    have filled : here ≠ [] := by
      rintro rfl
      exact absurd inside (by simp)
    have step : follow? here ("super" :: (List.replicate ups "super" ++ (down ++ [name]))) =
        follow? here.dropLast (List.replicate ups "super" ++ (down ++ [name])) := by
      cases behind : List.replicate ups "super" ++ (down ++ [name]) with
      | nil => exact absurd behind (by simp)
      | cons next rest => rw [follow?, if_neg (by simp), if_neg filled]
    have left : here.dropLast.length = here.length - 1 := List.length_dropLast
    have shorter : min (here.length - 1 - ups) (here.length - 1) = here.length - (ups + 1) := by omega
    rw [List.replicate_succ, List.cons_append, step, ih (by omega), left, List.dropLast_eq_take, List.take_take,
      shorter]

end

/-- Followed from the emitted module of `source`, the path ends at the name in the emitted module of `destination`. It
has at most as many steps up as there are modules around, and no name on the way down is a reserved word. -/
theorem followPath?_relativePath {source destination : ModulePath} {name : String}
    (identifiers : ∀ segment ∈ destination, isIdentifier segment) (named : isIdentifier name) :
    followPath? (source.map moduleName) (relativePath source destination name) =
        some (destination.map moduleName, name) ∧
      ∃ (ups : Nat) (down : List String),
        (pathSegments (relativePath source destination name).toList).map String.ofList =
          List.replicate ups "super" ++ (down ++ [name]) ∧
        ups ≤ source.length ∧ ∀ segment ∈ down, segment ∉ reservedWords := by
  have split := @pathSegments_relativePath source destination name identifiers fun c inside =>
    isSegmentChar_of_isIdentifierChar (Text.isIdentifierChar_of_mem named inside)
  have plain : ∀ segment ∈ (destination.drop (commonLength source destination)).map moduleName,
      segment ∉ reservedWords :=
    List.forall_mem_map.2 fun segment _ => moduleName_not_mem_reservedWords segment
  have shared := commonLength_le source destination
  refine ⟨?_, _, _, split, Nat.sub_le _ _, plain⟩
  have up : (source.map moduleName).length - (source.length - commonLength source destination) =
      commonLength source destination := by
    rw [List.length_map]
    omega
  have inside : source.length - commonLength source destination ≤ (source.map moduleName).length := by
    rw [List.length_map]
    exact Nat.sub_le _ _
  rw [followPath?, split, segments, follow?_up plain name inside, up, ← List.map_take, take_commonLength,
    ← List.map_append, List.take_append_drop]

/-- Modules that are called like keywords, and one level that both modules share. -/
theorem keyword_modules_followed :
    relativePath ["geometry", "Super"] ["geometry", "Type", "crate"] "Point" = "super::r#type::crate_::Point" ∧
      followPath? ["geometry", "super_"] "super::r#type::crate_::Point" =
        some (["geometry", "r#type", "crate_"], "Point") := by
  have path : relativePath ["geometry", "Super"] ["geometry", "Type", "crate"] "Point" =
      "super::r#type::crate_::Point" := by decide +kernel
  have source : ["geometry", "Super"].map moduleName = ["geometry", "super_"] := by decide +kernel
  have destination : ["geometry", "Type", "crate"].map moduleName = ["geometry", "r#type", "crate_"] := by
    decide +kernel
  have followed := (@followPath?_relativePath ["geometry", "Super"] ["geometry", "Type", "crate"] "Point"
    (by decide +kernel) (by decide +kernel)).1
  rw [path, source, destination] at followed
  exact ⟨path, followed⟩

end SchemaBindings.Rust
