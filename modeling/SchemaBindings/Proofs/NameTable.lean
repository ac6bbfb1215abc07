import Mathlib.Data.List.Pairwise
import SchemaBindings.Proofs.ClaimedNames
import SchemaBindings.Proofs.DeclarationTree

/-!
# The table of names

What a look-up in the table of emitted names can answer.

* Every entry is that of an item of the schema, and its fault is a collision (`Names`).
* Two declarations of a module emit different names (`emitted_disjoint`).
* A module that would be called like a reserved one has no name, and so nothing below it has a name either
  (`failedAncestor?_ne_none`).
-/

namespace SchemaBindings

open Declaration

/-! ## Faults of names -/

/-- The fault is that of a name that is taken. -/
def Fault.IsCollision (fault : Fault) : Prop :=
  ∃ name takenBy, fault = .namingCollision name takenBy

theorem claim_faults (ns : Namespace) (name owner : String) :
    FaultsIn Fault.IsCollision (ns.claim name owner) := by
  unfold Namespace.claim
  split
  · next takenBy _ => exact .error ⟨name, takenBy, rfl⟩
  · exact .ok _

theorem checkFree_faults (ns : Namespace) (owner : String) (before names : List String) :
    FaultsIn Fault.IsCollision (ns.checkFree owner before names) := by
  induction names generalizing before with
  | nil => exact .ok ()
  | cons name names ih =>
    unfold Namespace.checkFree
    split
    · next takenBy _ => exact .error ⟨name, takenBy, rfl⟩
    · split
      · exact .error ⟨name, owner, rfl⟩
      · exact ih _

theorem claimAll_faults (ns : Namespace) (names : List String) (owner : String) :
    FaultsIn Fault.IsCollision (ns.claimAll names owner) :=
  .bind (checkFree_faults ns owner [] names) fun _ _ => .ok _

theorem claimSpellings_faults (label : String) (nss : List Namespace) (names : List String) :
    FaultsIn Fault.IsCollision (claimSpellings label nss names) := by
  induction names generalizing nss with
  | nil =>
    cases nss <;> exact .ok _
  | cons name names ih =>
    cases nss with
    | nil => exact .bind (claim_faults _ _ _) fun _ _ => .bind (ih []) fun _ _ => .ok _
    | cons ns nss => exact .bind (claim_faults _ _ _) fun _ _ => .bind (ih nss) fun _ _ => .ok _

theorem checkFieldNames_faults (conventions : Conventions) (owner : String)
    (fields : List (Field TypeRef)) :
    FaultsIn Fault.IsCollision (checkFieldNames conventions owner fields) :=
  .bind (.foldlM (fun nss _ => claimSpellings_faults _ nss _) [] fields) fun _ _ => .ok ()

/-! ## Entries -/

/-- The entry is that of the path, and if it has no names, they have collided. -/
structure EntryOf (p : SchemaPath) (e : NameEntry) : Prop where
  path : e.1 = p
  faults : FaultsIn Fault.IsCollision e.2

theorem claimItems_faults {conventions : Conventions} {ns : Namespace} {items : List SchemaItem}
    {c : ClaimedItem} (member : c ∈ (claimItems conventions ns items).2) :
    c.item ∈ items ∧ FaultsIn Fault.IsCollision c.name := by
  induction items generalizing ns with
  | nil => exact absurd member List.not_mem_nil
  | cons item items ih =>
    unfold claimItems at member
    dsimp only at member
    split at member
    · next fault failed =>
      rcases List.mem_cons.1 member with rfl | later
      · exact ⟨List.mem_cons_self, .error (claim_faults _ _ _ fault failed)⟩
      · exact (ih later).imp_left (List.mem_cons_of_mem _)
    · rcases List.mem_cons.1 member with rfl | later
      · exact ⟨List.mem_cons_self, .ok _⟩
      · exact (ih later).imp_left (List.mem_cons_of_mem _)

theorem entryOf_of_entry? {conventions : Conventions} {c : ClaimedItem} {e : NameEntry}
    (faults : FaultsIn Fault.IsCollision c.name) (entry : c.entry? conventions = some e) :
    EntryOf c.item.path e := by
  obtain ⟨item, name⟩ := c
  unfold ClaimedItem.entry? at entry
  split at entry
  · next fault failed =>
    cases entry
    exact ⟨rfl, .error (faults fault failed)⟩
  · split at entry
    · exact absurd entry (by simp)
    · cases entry
      exact ⟨rfl, .bind (checkFieldNames_faults _ _ _) fun _ _ => .ok _⟩
    · cases entry
      exact ⟨rfl, .ok _⟩

theorem union?_path {c : ClaimedItem} {u : ClaimedUnion} (union : c.union? = some u) :
    u.path = c.item.path := by
  unfold ClaimedItem.union? at union
  split at union
  · cases union
    rfl
  · exact absurd union (by simp)

theorem entryOf_of_mem_nameUnions {conventions : Conventions} {policy : NamingPolicy}
    {separator : String} {occurs : String → Nat} {ns : Namespace} {unions : List ClaimedUnion}
    {e : NameEntry} (member : e ∈ nameUnions conventions policy separator occurs ns unions) :
    ∃ c ∈ unions, EntryOf c.path e := by
  induction unions generalizing ns with
  | nil => exact absurd member List.not_mem_nil
  | cons c unions ih =>
    rw [nameUnions_cons] at member
    rcases List.mem_cons.1 member with rfl | later
    · refine ⟨c, List.mem_cons_self, rfl, .bind ?_ fun _ _ => .ok _⟩
      refine .bind ?_ fun _ _ => claimAll_faults _ _ _
      exact .forM fun v _ => checkFieldNames_faults _ _ _
    · obtain ⟨d, among, entry⟩ := ih later
      exact ⟨d, List.mem_cons_of_mem _ among, entry⟩

theorem entryOf_of_mem_nameItems {conventions : Conventions} {policy : NamingPolicy}
    {separator : String} {items : List SchemaItem} {e : NameEntry}
    (member : e ∈ nameItems conventions policy separator items) :
    ∃ i ∈ items, EntryOf i.path e := by
  unfold nameItems at member
  rcases List.mem_append.1 member with entry | union
  · obtain ⟨c, claimed, entry⟩ := List.mem_filterMap.1 entry
    obtain ⟨item, faults⟩ := claimItems_faults claimed
    exact ⟨c.item, item, entryOf_of_entry? faults entry⟩
  · obtain ⟨u, among, entry⟩ := entryOf_of_mem_nameUnions union
    obtain ⟨c, claimed, union⟩ := List.mem_filterMap.1 among
    rw [union?_path union] at entry
    exact ⟨c.item, (claimItems_faults claimed).1, entry⟩

/-! ## Look-ups -/

theorem mem_of_lookup_eq_some {α β : Type} [BEq α] [LawfulBEq α] {entries : List (α × β)} {a : α}
    {b : β} (found : entries.lookup a = some b) : (a, b) ∈ entries := by
  obtain ⟨before, after, equal, -⟩ := List.lookup_eq_some_iff.1 found
  rw [equal]
  exact List.mem_append_right _ List.mem_cons_self

/-- In a table whose keys are distinct, a key is looked up exactly if it has an entry. -/
theorem lookup_eq_some_iff {α β : Type} [BEq α] [LawfulBEq α] {entries : List (α × β)}
    (distinct : (entries.map (·.1)).Nodup) {a : α} {b : β} : entries.lookup a = some b ↔ (a, b) ∈ entries := by
  refine ⟨mem_of_lookup_eq_some, fun member => ?_⟩
  obtain ⟨before, after, rfl⟩ := List.append_of_mem member
  refine List.lookup_eq_some_iff.2 ⟨before, after, rfl, fun entry earlier => ?_⟩
  rw [List.map_append, List.map_cons, List.nodup_append] at distinct
  have differ := distinct.2.2 entry.1 (List.mem_map_of_mem earlier) a List.mem_cons_self
  simpa using differ.symm

section

variable {conventions : Conventions} {policy : NamingPolicy} {separator : String}
  {reserved : List (String × String)} {r : Resolved}

/-- Every entry of the table is that of an item, among the entries of the item's module. -/
theorem mem_build_entries {e : NameEntry}
    (member : e ∈ (NameTable.build conventions policy separator reserved r).entries) :
    ∃ i ∈ r.items, EntryOf i.path e ∧
      e ∈ nameItems conventions policy separator (r.items.filter (·.module = i.module)) := by
  obtain ⟨m, -, member⟩ := List.mem_flatMap.1 member
  obtain ⟨i, among, entry⟩ := entryOf_of_mem_nameItems member
  obtain ⟨item, inside⟩ := List.mem_filter.1 among
  have inside : i.module = m := by simpa using inside
  subst inside
  exact ⟨i, item, entry, member⟩

theorem exists_item_of_get? {p : SchemaPath} {x : Except Fault DeclarationNames}
    (found : (NameTable.build conventions policy separator reserved r).get? p = some x) :
    ∃ i ∈ r.items, i.path = p ∧ FaultsIn Fault.IsCollision x := by
  obtain ⟨i, item, entry, -⟩ := mem_build_entries (mem_of_lookup_eq_some found)
  exact ⟨i, item, entry.path.symm, entry.faults⟩

theorem path_module (i : SchemaItem) : i.path.module = i.module :=
  SchemaPath.module_child _ _

/-- The names that one declaration emits are distinct. -/
theorem emitted_nodup {p : SchemaPath} {own : DeclarationNames}
    (found : (NameTable.build conventions policy separator reserved r).get? p = some (.ok own)) :
    (own.identifier :: own.variants).Nodup := by
  obtain ⟨i, item, entry, member⟩ := mem_build_entries (mem_of_lookup_eq_some found)
  have nodup := nameItems_emitted_nodup conventions policy separator
    (r.items.filter (·.module = i.module))
  exact (List.nodup_flatMap.1 nodup).1 _ member

/-- Two declarations of a module emit different names. -/
theorem emitted_disjoint {p q : SchemaPath} {own other : DeclarationNames}
    (found : (NameTable.build conventions policy separator reserved r).get? p = some (.ok own))
    (found' : (NameTable.build conventions policy separator reserved r).get? q = some (.ok other))
    (sameModule : p.module = q.module) (differ : p ≠ q) :
    (own.identifier :: own.variants).Disjoint (other.identifier :: other.variants) := by
  obtain ⟨i, item, entry, member⟩ := mem_build_entries (mem_of_lookup_eq_some found)
  obtain ⟨j, item', entry', member'⟩ := mem_build_entries (mem_of_lookup_eq_some found')
  have path : p = i.path := entry.path
  have path' : q = j.path := entry'.path
  rw [path, path', path_module, path_module] at sameModule
  rw [← sameModule] at member'
  -- Both entries come from the one list that names the items of the module.
  have nodup := nameItems_emitted_nodup conventions policy separator
    (r.items.filter (·.module = i.module))
  have pairwise := (List.nodup_flatMap.1 nodup).2
  have symmetric : Std.Symm (Function.onFun List.Disjoint entryNames) :=
    ⟨fun _ _ disjoint => List.disjoint_symm disjoint⟩
  exact pairwise.forall member member' fun same => differ (congrArg Prod.fst same)

end

/-! ## Names of modules -/

/-- What is emitted for the last segment of a module's path. -/
def emittedModule (conventions : Conventions) (m : ModulePath) : String :=
  conventions.moduleName (SchemaPath.mk m).name

/-- One claim: it fails if the name is taken, and the name is taken afterwards in any case. -/
theorem exists_claimModules_cons (conventions : Conventions) (ns : Namespace) (first : ModulePath)
    (ms : List ModulePath) :
    ∃ ns' : Namespace, (∀ name, name ∈ ns'.names ↔ name = emittedModule conventions first ∨ name ∈ ns.names) ∧
      ∀ m, (∃ fault, (⟨m⟩, fault) ∈ claimModules conventions ns (first :: ms)) ↔
        (m = first ∧ emittedModule conventions first ∈ ns.names) ∨
          ∃ fault, (⟨m⟩, fault) ∈ claimModules conventions ns' ms := by
  by_cases taken : emittedModule conventions first ∈ ns.names
  · refine ⟨ns, fun name => ?_, fun m => ?_⟩
    · exact (or_iff_right_of_imp fun same => same ▸ taken).symm
    · obtain ⟨fault, failed⟩ : ∃ fault, ns.claim (emittedModule conventions first) (SchemaPath.mk first).text =
          .error fault := by
        cases claimed : ns.claim (emittedModule conventions first) (SchemaPath.mk first).text with
        | error fault => exact ⟨fault, rfl⟩
        | ok ns' => exact absurd taken (Namespace.claim_eq_ok_iff.1 claimed).1
      unfold emittedModule at failed
      simp [claimModules, failed, taken, exists_or]
  · refine ⟨⟨(emittedModule conventions first, (SchemaPath.mk first).text) :: ns.claims⟩, fun name => ?_, fun m => ?_⟩
    · exact List.mem_cons
    · have claimed : ns.claim (emittedModule conventions first) (SchemaPath.mk first).text = _ :=
        Namespace.claim_eq_ok_iff.2 ⟨taken, rfl⟩
      unfold emittedModule at claimed
      rw [or_iff_right fun both => taken both.2]
      simp [claimModules, claimed, emittedModule]

theorem mem_claimModules {conventions : Conventions} {ns : Namespace} {ms : List ModulePath}
    {m : ModulePath} (member : m ∈ ms) (taken : emittedModule conventions m ∈ ns.names) :
    ∃ fault, (⟨m⟩, fault) ∈ claimModules conventions ns ms := by
  induction ms generalizing ns with
  | nil => exact absurd member List.not_mem_nil
  | cons first ms ih =>
    obtain ⟨ns', names, step⟩ := exists_claimModules_cons conventions ns first ms
    rcases List.mem_cons.1 member with rfl | later
    · exact (step m).2 (.inl ⟨rfl, taken⟩)
    · exact (step m).2 (.inr (ih later ((names _).2 (.inr taken))))

/-! ## Reserved modules -/

theorem failedModules_of_reserved {conventions : Conventions} {reserved : List (String × String)}
    {modules : List ModulePath} {segment : String} (root : [] ∈ modules) (member : [segment] ∈ modules)
    (taken : conventions.moduleName segment ∈ reserved.map (·.1)) :
    ∃ fault, (⟨[segment]⟩, fault) ∈ failedModules conventions reserved modules := by
  unfold failedModules
  have child : [segment] ∈ childModules [] modules := List.mem_filter.2 ⟨member, by simp⟩
  have held : conventions.moduleName segment ∈ (Namespace.reserving reserved).names := by
    rw [Namespace.names, Namespace.reserving, List.map_reverse, List.mem_reverse]
    exact taken
  obtain ⟨fault, failed⟩ := mem_claimModules child held
  refine ⟨fault, mem_ordered.2 (List.mem_flatMap.2 ⟨[], root, ?_⟩)⟩
  simpa using failed

theorem mem_modulePaths_of_mem_items {ds : List SchemaDeclaration} {i : SchemaItem}
    (item : i ∈ items [] ds) {segment : String} {rest : ModulePath}
    (place : i.module = segment :: rest) : [segment] ∈ modulePaths ds := by
  obtain ⟨stands, -⟩ := mem_items_iff.1 item
  rw [place, standsIn_cons] at stands
  obtain ⟨comment, inner, member, -⟩ := stands
  exact mem_modulePaths_iff.2 (.inr ⟨[], segment, comment, inner, rfl, .here member⟩)

/-- No item below a module that is called like a reserved one has a name. -/
theorem failedAncestor?_ne_none {conventions : Conventions} {policy : NamingPolicy}
    {separator : String} {reserved : List (String × String)} {r : Resolved} {i : SchemaItem}
    (item : i ∈ r.items) {segment : String} {rest : ModulePath}
    (place : i.module = segment :: rest)
    (taken : conventions.moduleName segment ∈ reserved.map (·.1)) :
    (NameTable.build conventions policy separator reserved r).failedAncestor? i.module ≠ none := by
  have root : [] ∈ r.modulePaths := List.mem_cons_self
  obtain ⟨fault, failed⟩ :=
    failedModules_of_reserved root (mem_modulePaths_of_mem_items item place) taken
  unfold NameTable.failedAncestor?
  rw [Ne, List.find?_eq_none, not_forall]
  -- The first module on the way down is itself among the failed ones, so the search finds one.
  refine ⟨⟨[segment]⟩, fun clear => ?_⟩
  refine clear (List.mem_map.2 ⟨0, ?_, ?_⟩) (List.any_eq_true.2 ⟨_, failed, by simp⟩)
  · simp [place]
  · simp [place]

end SchemaBindings
