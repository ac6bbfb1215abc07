import Mathlib.Data.List.Pairwise
import SchemaBindings.Proofs.ClaimedNames

/-!
# Names of fields

The fields of a record get their names exactly if no two of them have the same spelling in one namespace: `a_b` and
`aB` meet as members, and a target with a second spelling for parameters has a second namespace for those.
A collision names the later field's spelling and the earlier field.
-/

namespace SchemaBindings

/-- The two fields are spelled differently in every namespace. -/
def FieldsDiffer (conventions : Conventions) (f g : Field TypeRef) : Prop :=
  ∀ (k : Nat) (name : String), (conventions.fieldNames f.name)[k]? = some name →
    (conventions.fieldNames g.name)[k]? ≠ some name

/-- The label under which a field of a record claims its names. -/
def fieldLabel (owner : String) (f : Field TypeRef) : String :=
  owner ++ "." ++ f.name

/-! ## One field -/

/-- The holder of a name in the namespace at a position; a namespace that does not exist yet is empty. -/
def heldAt (nss : List Namespace) (k : Nat) (name : String) : Option String :=
  nss[k]?.bind (·.holder? name)

@[simp] theorem heldAt_cons_zero (ns : Namespace) (nss : List Namespace) (name : String) :
    heldAt (ns :: nss) 0 name = ns.holder? name := rfl

@[simp] theorem heldAt_cons_succ (ns : Namespace) (nss : List Namespace) (k : Nat) (name : String) :
    heldAt (ns :: nss) (k + 1) name = heldAt nss k name := rfl

theorem claimSpellings_cons (label : String) (nss : List Namespace) (name : String)
    (names : List String) :
    claimSpellings label nss (name :: names) = do
      let ns ← (nss.headD {}).claim name label
      let rest ← claimSpellings label nss.tail names
      return ns :: rest := by
  cases nss <;> rfl

theorem heldAt_headD (nss : List Namespace) (name : String) :
    (nss.headD {}).holder? name = heldAt nss 0 name := by
  cases nss <;> rfl

theorem heldAt_tail (nss : List Namespace) (k : Nat) (name : String) :
    heldAt nss.tail k name = heldAt nss (k + 1) name := by
  cases nss <;> rfl

/-- The spellings of a field were free, and are held for it afterwards. -/
theorem claimSpellings_eq_ok {label : String} {nss nss' : List Namespace} {names : List String}
    (claimed : claimSpellings label nss names = .ok nss') (k : Nat) (name : String) :
    (names[k]? = some name → heldAt nss k name = none) ∧
      heldAt nss' k name = if names[k]? = some name then some label else heldAt nss k name := by
  induction names generalizing nss nss' k with
  | nil =>
    cases nss <;> cases claimed <;> simp
  | cons first names ih =>
    rw [claimSpellings_cons, bind_eq_ok] at claimed
    obtain ⟨ns, head, claimed⟩ := claimed
    rw [bind_eq_ok] at claimed
    obtain ⟨rest, tail, claimed⟩ := claimed
    cases claimed
    cases k with
    | zero =>
      have free := Namespace.holder?_eq_none_of_claim head
      have held := Namespace.holder?_of_claim head name
      rw [heldAt_headD] at free held
      simp only [List.getElem?_cons_zero, heldAt_cons_zero, Option.some.injEq]
      refine ⟨?_, held⟩
      rintro rfl
      exact free
    | succ k =>
      have later := ih tail k
      rw [heldAt_tail] at later
      rwa [List.getElem?_cons_succ, heldAt_cons_succ]

/-- A field fails for the first of its spellings that is held. -/
theorem claimSpellings_eq_error {label : String} {nss : List Namespace} {names : List String}
    {fault : Fault} (failed : claimSpellings label nss names = .error fault) :
    ∃ (k : Nat) (name takenBy : String), names[k]? = some name ∧ heldAt nss k name = some takenBy ∧
      fault = .namingCollision name takenBy := by
  induction names generalizing nss with
  | nil =>
    cases nss <;> exact absurd failed (by simp [claimSpellings])
  | cons first names ih =>
    rw [claimSpellings_cons] at failed
    cases head : (nss.headD {}).claim first label with
    | error fault' =>
      rw [head] at failed
      cases failed
      obtain ⟨takenBy, held, rfl⟩ := Namespace.exists_holder_of_claim head
      rw [heldAt_headD] at held
      exact ⟨0, first, takenBy, rfl, held, rfl⟩
    | ok ns =>
      cases tail : claimSpellings label nss.tail names with
      | error fault' =>
        rw [head, tail] at failed
        cases failed
        obtain ⟨k, name, takenBy, spelled, held, rfl⟩ := ih tail
        rw [heldAt_tail] at held
        exact ⟨k + 1, name, takenBy, spelled, held, rfl⟩
      | ok rest =>
        rw [head, tail] at failed
        exact absurd failed (by simp [bind, Except.bind, pure, Except.pure])

/-! ## All fields -/

/-- The namespaces hold the spellings of the fields, each for the first field that has it. -/
def HoldFields (conventions : Conventions) (owner : String) (nss : List Namespace)
    (fields : List (Field TypeRef)) : Prop :=
  ∀ k name, heldAt nss k name =
    (fields.find? fun f => (conventions.fieldNames f.name)[k]? == some name).map (fieldLabel owner)

section

variable {conventions : Conventions} {owner : String} {nss nss' : List Namespace}
  {before : List (Field TypeRef)} {f : Field TypeRef}

theorem holdFields_step (holds : HoldFields conventions owner nss before)
    (claimed : claimSpellings (fieldLabel owner f) nss (conventions.fieldNames f.name) = .ok nss') :
    HoldFields conventions owner nss' (before ++ [f]) ∧
      ∀ g ∈ before, FieldsDiffer conventions g f := by
  have step := claimSpellings_eq_ok claimed
  constructor
  · intro k name
    obtain ⟨free, held⟩ := step k name
    rw [held, List.find?_append]
    by_cases spelled : (conventions.fieldNames f.name)[k]? = some name
    · have unheld := free spelled
      rw [holds k name, Option.map_eq_none_iff] at unheld
      simp [spelled, unheld]
    · have other : [f].find? (fun f => (conventions.fieldNames f.name)[k]? == some name) = none := by
        simpa using spelled
      rw [if_neg spelled, other, Option.or_none, holds k name]
  · intro g member k name spelled' spelled
    have unheld := (step k name).1 spelled
    rw [holds k name, Option.map_eq_none_iff, List.find?_eq_none] at unheld
    exact unheld g member (by simpa using spelled')

theorem claimSpellings_collides (holds : HoldFields conventions owner nss before) {fault : Fault}
    (failed : claimSpellings (fieldLabel owner f) nss (conventions.fieldNames f.name) =
      .error fault) :
    ∃ g ∈ before, ∃ (k : Nat) (name : String), (conventions.fieldNames g.name)[k]? = some name ∧
      (conventions.fieldNames f.name)[k]? = some name ∧
      fault = .namingCollision name (fieldLabel owner g) := by
  obtain ⟨k, name, takenBy, spelled, held, rfl⟩ := claimSpellings_eq_error failed
  rw [holds k name, Option.map_eq_some_iff] at held
  obtain ⟨g, found, rfl⟩ := held
  refine ⟨g, List.mem_of_find?_eq_some found, k, name, ?_, spelled, rfl⟩
  simpa using List.find?_some found

/-- The claims of fields behind others. -/
theorem claimFields_cases (holds : HoldFields conventions owner nss before)
    (fields : List (Field TypeRef)) :
    ((∃ nss', fields.foldlM (fun nss f =>
          claimSpellings (fieldLabel owner f) nss (conventions.fieldNames f.name)) nss = .ok nss') ∧
        fields.Pairwise (FieldsDiffer conventions) ∧
        ∀ g ∈ before, ∀ f ∈ fields, FieldsDiffer conventions g f) ∨
      ∃ xs f ys, fields = xs ++ f :: ys ∧ ∃ g ∈ before ++ xs, ∃ (k : Nat) (name : String),
        (conventions.fieldNames g.name)[k]? = some name ∧
        (conventions.fieldNames f.name)[k]? = some name ∧
        fields.foldlM (fun nss f =>
          claimSpellings (fieldLabel owner f) nss (conventions.fieldNames f.name)) nss =
            .error (.namingCollision name (fieldLabel owner g)) := by
  induction fields generalizing nss before with
  | nil => exact .inl ⟨⟨nss, rfl⟩, .nil, fun _ _ _ member => absurd member List.not_mem_nil⟩
  | cons f fields ih =>
    rw [List.foldlM_cons]
    cases first : claimSpellings (fieldLabel owner f) nss (conventions.fieldNames f.name) with
    | error fault =>
      obtain ⟨g, member, k, name, spelled, spelled', rfl⟩ := claimSpellings_collides holds first
      exact .inr ⟨[], f, fields, rfl, g, by simpa using member, k, name, spelled, spelled', rfl⟩
    | ok nss' =>
      obtain ⟨holds', differ⟩ := holdFields_step holds first
      rcases ih holds' with ⟨claimed, pairwise, apart⟩ | ⟨xs, g, ys, split, g', among, rest⟩
      · refine .inl ⟨claimed, List.pairwise_cons.2 ⟨?_, pairwise⟩, fun g member => ?_⟩
        · exact apart f (List.mem_append_right _ List.mem_cons_self)
        · exact List.forall_mem_cons.2 ⟨differ g member, apart g (List.mem_append_left _ member)⟩
      · refine .inr ⟨f :: xs, g, ys, by rw [split, List.cons_append], g', ?_, rest⟩
        rwa [List.append_assoc, List.singleton_append] at among

end

theorem holdFields_nil (conventions : Conventions) (owner : String) :
    HoldFields conventions owner [] [] :=
  fun _ _ => rfl

/-- The check of a record's fields succeeds exactly if they differ from each other. -/
theorem checkFieldNames_eq_ok_iff {conventions : Conventions} {owner : String}
    {fields : List (Field TypeRef)} :
    checkFieldNames conventions owner fields = .ok () ↔ fields.Pairwise (FieldsDiffer conventions) := by
  unfold checkFieldNames
  rcases claimFields_cases (holdFields_nil conventions owner) fields with
    ⟨⟨nss, claimed⟩, pairwise, -⟩ | ⟨xs, f, ys, split, g, among, k, name, spelled, spelled', failed⟩
  · refine iff_of_true ?_ pairwise
    exact bind_eq_ok.2 ⟨nss, claimed, rfl⟩
  · refine iff_of_false (fun checked => ?_) fun pairwise => ?_
    · obtain ⟨nss, claimed, -⟩ := bind_eq_ok.1 checked
      exact absurd (failed.symm.trans claimed) (by simp)
    · rw [split, List.pairwise_append] at pairwise
      exact pairwise.2.2 g among f List.mem_cons_self k name spelled spelled'

/-- A fault of the check names a spelling that two of the fields have, and the one that has got it. -/
theorem checkFieldNames_eq_error {conventions : Conventions} {owner : String}
    {fields : List (Field TypeRef)} {fault : Fault}
    (failed : checkFieldNames conventions owner fields = .error fault) :
    ∃ f g, [f, g].Sublist fields ∧ ∃ (k : Nat) (name : String),
      (conventions.fieldNames f.name)[k]? = some name ∧
      (conventions.fieldNames g.name)[k]? = some name ∧
      fault = .namingCollision name (fieldLabel owner f) := by
  unfold checkFieldNames at failed
  rcases claimFields_cases (holdFields_nil conventions owner) fields with
    ⟨⟨nss, claimed⟩, -⟩ | ⟨xs, f, ys, split, g, among, k, name, spelled, spelled', failed'⟩
  · have checked : checkFieldNames conventions owner fields = .ok () :=
      bind_eq_ok.2 ⟨nss, claimed, rfl⟩
    exact absurd (failed.symm.trans checked) (by simp)
  · have fault' : fault = .namingCollision name (fieldLabel owner g) := by
      have same : checkFieldNames conventions owner fields =
          .error (.namingCollision name (fieldLabel owner g)) := by
        unfold checkFieldNames
        exact congrArg (· >>= fun _ => pure ()) failed'
      exact Except.error.inj (failed.symm.trans same)
    refine ⟨g, f, ?_, k, name, spelled, spelled', fault'⟩
    have first : [g].Sublist xs := List.singleton_sublist.2 among
    have second : [f].Sublist (f :: ys) := List.singleton_sublist.2 List.mem_cons_self
    rw [split]
    exact first.append second

end SchemaBindings
