import SchemaBindings.Proofs.AtomicClaims

/-!
# Claimed names

The names that the declarations of a module emit are distinct, whatever the policy, the conventions and the
separator are, and however many declarations fail to get a name.

* `claimItems_names`: the declared names are claimed first, so they are distinct.
* `nameUnions_emitted`: the variants of a union take names that no declaration and no earlier union holds,
  also where unions in between have failed and keep only their own name.
* `nameItems_emitted_nodup` puts the two together.

A failed claim is always a collision (`Fault.IsCollision`).
-/

namespace SchemaBindings

/-! ## Declared names -/

def ClaimedItem.claimed? (c : ClaimedItem) : Option String :=
  match c.name with
  | .ok name => some name
  | .error _ => none

/-- The declared names of a module are those that its items have claimed, and no name is claimed twice. -/
theorem claimItems_names (conventions : Conventions) (items : List SchemaItem) {ns : Namespace}
    (distinct : ns.names.Nodup) :
    let result := claimItems conventions ns items
    result.1.names.Nodup ∧
      result.1.names = (result.2.filterMap ClaimedItem.claimed?).reverse ++ ns.names := by
  induction items generalizing ns with
  | nil => exact ⟨distinct, rfl⟩
  | cons item items ih =>
    dsimp only
    unfold claimItems
    generalize emittedName conventions item.declaration = name
    dsimp only
    split
    · exact ih distinct
    · next ns' claimed =>
      obtain ⟨fresh, rfl⟩ := Namespace.claim_eq_ok_iff.1 claimed
      have distinct' : (Namespace.mk ((name, item.path.text) :: ns.claims)).names.Nodup :=
        List.nodup_cons.2 ⟨fresh, distinct⟩
      obtain ⟨nodup, names⟩ := ih distinct'
      refine ⟨nodup, names.trans ?_⟩
      simp [ClaimedItem.claimed?, Namespace.names]

/-! ## Names of variants -/

/-- The names that the declaration of an entry emits: its own and those of its variants. -/
def entryNames (e : NameEntry) : List String :=
  match e.2 with
  | .ok names => names.identifier :: names.variants
  | .error _ => []

/-- What a union emits before the others: its own name `own`, its `variants`, and what the others emit. The names
`others` of the other unions are taken as well, the variants were free, and the others take no name that was
held before them. -/
theorem union_emitted {held variants others later : List String} {own : String}
    (taken : own ∈ held) (single : own ∉ others) (othersTaken : ∀ name ∈ others, name ∈ held)
    (distinct : variants.Nodup) (free : ∀ name ∈ variants, name ∉ held) (nodup : later.Nodup)
    (apart : ∀ name ∈ later, name ∈ others ∨ name ∉ variants ∧ name ∉ held) :
    (own :: (variants ++ later)).Nodup ∧
      ∀ name ∈ own :: (variants ++ later), name ∈ own :: others ∨ name ∉ held := by
  constructor
  · rw [List.nodup_cons, List.nodup_append, List.mem_append, not_or]
    refine ⟨⟨fun variant => free _ variant taken, fun again => ?_⟩, distinct, nodup, ?_⟩
    · rcases apart _ again with repeated | ⟨-, untaken⟩
      · exact single repeated
      · exact untaken taken
    · rintro name variant _ again rfl
      rcases apart name again with other | ⟨unheld, -⟩
      · exact free name variant (othersTaken name other)
      · exact unheld variant
  · intro name member
    rcases List.mem_cons.1 member with rfl | member
    · exact .inl List.mem_cons_self
    rcases List.mem_append.1 member with variant | again
    · exact .inr (free name variant)
    · exact (apart name again).imp (List.mem_cons_of_mem _) And.right

/-- The unions of a module emit distinct names: their own, which are taken before, and names of variants that
are not. A union that fails emits nothing, and its own name stays taken. -/
theorem nameUnions_emitted (conventions : Conventions) (policy : NamingPolicy) (separator : String)
    (occurs : String → Nat) {ns : Namespace} {unions : List ClaimedUnion}
    (distinct : (unions.map (·.name)).Nodup) (taken : ∀ c ∈ unions, c.name ∈ ns.names) :
    let emitted := (nameUnions conventions policy separator occurs ns unions).flatMap entryNames
    emitted.Nodup ∧ ∀ name ∈ emitted, name ∈ unions.map (·.name) ∨ name ∉ ns.names := by
  induction unions generalizing ns with
  | nil => exact ⟨List.nodup_nil, fun _ member => absurd member List.not_mem_nil⟩
  | cons c rest ih =>
    rw [List.map_cons, List.nodup_cons] at distinct
    obtain ⟨own, taken⟩ := List.forall_mem_cons.1 taken
    dsimp only
    rw [nameUnions_cons, List.flatMap_cons]
    cases claimed : unionEntry conventions policy separator occurs ns c with
    -- A union that fails leaves the namespace as it was.
    | error fault =>
      rw [afterUnion_of_error claimed]
      obtain ⟨nodup, origin⟩ := ih distinct.2 taken
      refine ⟨nodup, fun name member => (origin name member).imp_left fun later => ?_⟩
      exact List.mem_cons_of_mem _ later
    | ok entry =>
      obtain ⟨variantsDistinct, free, held⟩ := afterUnion_of_ok claimed
      have emitted : entryNames (c.path, .ok entry) = c.name :: entry.variants := by
        rw [(unionEntry_eq_ok.1 claimed).2]
        rfl
      rw [emitted, held, List.cons_append]
      have taken' : ∀ d ∈ rest, d.name ∈ (ns.holding entry.variants c.path.text).names := by
        intro d member
        rw [Namespace.names_holding]
        exact List.mem_append_right _ (taken d member)
      obtain ⟨nodup, origin⟩ := ih distinct.2 taken'
      -- Later unions take their names in a namespace that holds the variants of this one.
      have apart : ∀ name ∈ (nameUnions conventions policy separator occurs
          (ns.holding entry.variants c.path.text) rest).flatMap entryNames,
            name ∈ rest.map (·.name) ∨ name ∉ entry.variants ∧ name ∉ ns.names := by
        intro name member
        have differs := origin name member
        rwa [Namespace.names_holding, List.mem_append, List.mem_reverse, not_or] at differs
      refine union_emitted own distinct.1 (fun name other => ?_) variantsDistinct free nodup apart
      obtain ⟨d, member, rfl⟩ := List.mem_map.1 other
      exact taken d member

/-! ## The names of a module -/

/-- What becomes of an item: it has no name, it is named at once, or it is a union that is named later. -/
inductive ClaimedItem.Splits (conventions : Conventions) (c : ClaimedItem) : Prop
  | failed {e : NameEntry} : c.claimed? = none → c.union? = none →
      c.entry? conventions = some e → entryNames e = [] → c.Splits conventions
  | named {name : String} {e : NameEntry} : c.claimed? = some name → c.union? = none →
      c.entry? conventions = some e → (entryNames e = [] ∨ entryNames e = [name]) →
      c.Splits conventions
  | union {u : ClaimedUnion} : c.claimed? = some u.name → c.union? = some u →
      c.entry? conventions = none → c.Splits conventions

theorem ClaimedItem.splits (conventions : Conventions) (c : ClaimedItem) :
    c.Splits conventions := by
  obtain ⟨item, name⟩ := c
  cases name with
  | error fault => exact .failed rfl rfl rfl rfl
  | ok name =>
    obtain ⟨m, d⟩ := item
    cases d with
    | union u => exact .union (u := ⟨_, u, name⟩) rfl rfl rfl
    | struct s =>
      refine .named rfl rfl rfl ?_
      cases checkFieldNames conventions (Item.path ⟨m, .struct s⟩).text s.fields with
      | error fault => exact .inl rfl
      | ok _ => exact .inr rfl
    | _ => exact .named rfl rfl rfl (.inr rfl)

/-- The names of the entries so far and of the unions that are named later are different claimed names. -/
theorem claimed_names_nodup (conventions : Conventions) {claimed : List ClaimedItem}
    (distinct : (claimed.filterMap ClaimedItem.claimed?).Nodup) :
    let names := (claimed.filterMap (ClaimedItem.entry? conventions)).flatMap entryNames ++
      (claimed.filterMap ClaimedItem.union?).map (·.name)
    names.Nodup ∧ names ⊆ claimed.filterMap ClaimedItem.claimed? := by
  induction claimed with
  | nil => exact ⟨List.nodup_nil, List.Subset.refl _⟩
  | cons c claimed ih =>
    cases c.splits conventions with
    | failed claims union entry none =>
      rw [List.filterMap_cons_none claims] at distinct
      rw [List.filterMap_cons_none claims, List.filterMap_cons_none union,
        List.filterMap_cons_some entry, List.flatMap_cons, none, List.nil_append]
      exact ih distinct
    | @named name e claims union entry emitted =>
      rw [List.filterMap_cons_some claims, List.nodup_cons] at distinct
      obtain ⟨nodup, among⟩ := ih distinct.2
      rw [List.filterMap_cons_some claims, List.filterMap_cons_none union,
        List.filterMap_cons_some entry, List.flatMap_cons, List.append_assoc]
      rcases emitted with none | one
      · rw [none, List.nil_append]
        exact ⟨nodup, fun _ member => List.mem_cons_of_mem _ (among member)⟩
      · rw [one, List.singleton_append]
        exact ⟨List.nodup_cons.2 ⟨fun again => distinct.1 (among again), nodup⟩,
          List.cons_subset_cons _ among⟩
    | @union u claims union entry =>
      rw [List.filterMap_cons_some claims, List.nodup_cons] at distinct
      obtain ⟨nodup, among⟩ := ih distinct.2
      rw [List.filterMap_cons_some claims, List.filterMap_cons_some union,
        List.filterMap_cons_none entry, List.map_cons]
      refine ⟨List.perm_middle.nodup_iff.2 ?_, fun name member => ?_⟩
      · exact List.nodup_cons.2 ⟨fun again => distinct.1 (among again), nodup⟩
      · rcases List.mem_cons.1 (List.perm_middle.subset member) with rfl | member
        · exact List.mem_cons_self
        · exact List.mem_cons_of_mem _ (among member)

/-- The declarations of a module emit distinct names. -/
theorem nameItems_emitted_nodup (conventions : Conventions) (policy : NamingPolicy)
    (separator : String) (items : List SchemaItem) :
    ((nameItems conventions policy separator items).flatMap entryNames).Nodup := by
  unfold nameItems
  have nothing : (Namespace.mk []).names.Nodup := List.nodup_nil
  obtain ⟨distinct, held⟩ := claimItems_names conventions items nothing
  generalize claimItems conventions {} items = result at distinct held ⊢
  obtain ⟨declared, claimed⟩ := result
  have held : declared.names = (claimed.filterMap ClaimedItem.claimed?).reverse :=
    held.trans (List.append_nil _)
  rw [held, List.nodup_reverse] at distinct
  obtain ⟨nodup, among⟩ := claimed_names_nodup conventions distinct
  obtain ⟨entriesNodup, unionsNodup, apart⟩ := List.nodup_append.1 nodup
  have taken : ∀ name ∈ (claimed.filterMap (ClaimedItem.entry? conventions)).flatMap entryNames ++
      (claimed.filterMap ClaimedItem.union?).map (·.name), name ∈ declared.names := by
    intro name member
    rw [held, List.mem_reverse]
    exact among member
  dsimp only
  rw [List.flatMap_append, List.nodup_append]
  have unionsTaken : ∀ c ∈ claimed.filterMap ClaimedItem.union?, c.name ∈ declared.names :=
    fun c member => taken _ (List.mem_append_right _ (List.mem_map_of_mem member))
  have variants := nameUnions_emitted conventions policy separator
    (occurrences declared
      ((claimed.filterMap ClaimedItem.union?).flatMap fun c => flatNames conventions c.union))
    unionsNodup unionsTaken
  refine ⟨entriesNodup, variants.1, ?_⟩
  rintro name entry _ variant rfl
  rcases variants.2 name variant with union | free
  · exact apart name entry name union rfl
  · exact free (taken name (List.mem_append_left _ entry))

end SchemaBindings
