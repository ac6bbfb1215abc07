import SchemaBindings.Document.OfBytes
import SchemaBindings.Proofs.CompactValues

/-!
# Type references in documents

A scalar type stands in a document as its name, and every other type reference as a map of one member that is called
like its form (`TypeExpr.IsForm`). The generics of a reference to a declared type may be left out if there are none.

A form stands for one type reference (`TypeExpr.ofValue?_of_isForm`). What names and parameters are called makes no
difference, since the place in a form tells whether a text is a name or a scalar type. The compact text of a form is
loaded as the type reference that it stands for, exactly if the form stays within the nesting limit
(`TypeExpr.loads_back`).
-/

namespace SchemaBindings

open Json

namespace TypeExpr

/-! ## Forms -/

mutual

/-- The value is a form of the type reference. -/
inductive IsForm : TypeExpr → Value → Prop
  | scalar (s : Scalar) : IsForm (.scalar s) (.text s.name)
  | tuple {ts : List TypeExpr} {vs : List Value} (elements : AreForms ts vs) :
      IsForm (.tuple ts) (.map [("tuple", .sequence vs)])
  | list {t : TypeExpr} {v : Value} (item : IsForm t v) : IsForm (.list t) (.map [("list", v)])
  | array {t : TypeExpr} {v : Value} {length : Nat} (item : IsForm t v) (fits : length < 2 ^ 64) :
      IsForm (.array t length) (.map [("array", .sequence [v, .number (.integer length)])])
  | option {t : TypeExpr} {v : Value} (item : IsForm t v) : IsForm (.option t) (.map [("option", v)])
  | map {t u : TypeExpr} {v w : Value} (key : IsForm t v) (value : IsForm u w) :
      IsForm (.map t u) (.map [("map", .sequence [v, w])])
  | hashSet {t : TypeExpr} {v : Value} (item : IsForm t v) : IsForm (.hashSet t) (.map [("hash_set", v)])
  | named {name : String} {ts : List TypeExpr} {vs : List Value} (arguments : AreForms ts vs) :
      IsForm (.named name ts) (.map [("named", .map [("name", .text name), ("generics", .sequence vs)])])
  | plain {name : String} : IsForm (.named name []) (.map [("named", .map [("name", .text name)])])
  | param {name : String} : IsForm (.param name) (.map [("param", .text name)])

inductive AreForms : List TypeExpr → List Value → Prop
  | nil : AreForms [] []
  | cons {t : TypeExpr} {ts : List TypeExpr} {v : Value} {vs : List Value} (first : IsForm t v)
      (others : AreForms ts vs) : AreForms (t :: ts) (v :: vs)

end

mutual

/-- A form stands for its type reference. -/
theorem ofValue?_of_isForm {t : TypeExpr} {v : Value} (form : IsForm t v) : ofValue? v = some t := by
  cases form with
  | scalar s => rw [ofValue?, Scalar.ofName?_name, Option.map_some]
  | tuple elements => rw [ofValue?, ofValues?_of_areForms elements]; rfl
  | list item => rw [ofValue?, ofValue?_of_isForm item]; rfl
  | array item fits => rw [ofValue?, ofValue?_of_isForm item]; rfl
  | option item => rw [ofValue?, ofValue?_of_isForm item]; rfl
  | map key value => rw [ofValue?, ofValue?_of_isForm key, ofValue?_of_isForm value]; rfl
  | hashSet item => rw [ofValue?, ofValue?_of_isForm item]; rfl
  | @named name ts vs arguments =>
    have members : namedOfMembers? (some name) none [("generics", .sequence vs)] = some (.named name ts) := by
      rw [namedOfMembers?, ofValues?_of_areForms arguments]
      rfl
    exact members
  | plain => rfl
  | param => rw [ofValue?]

theorem ofValues?_of_areForms {ts : List TypeExpr} {vs : List Value} (forms : AreForms ts vs) :
    ofValues? vs = some ts := by
  cases forms with
  | nil => rfl
  | cons first others => rw [ofValues?, ofValue?_of_isForm first, ofValues?_of_areForms others]; rfl

end

/-! ## Texts -/

def length? : TypeExpr → Option Nat
  | .array _ length => some length
  | _ => none

def lengths (t : TypeExpr) : List Nat :=
  t.walk.filterMap length?

mutual

/-- The form with all its members. -/
def form : TypeExpr → Value
  | .scalar s => .text s.name
  | .tuple ts => .map [("tuple", .sequence (forms ts))]
  | .list t => .map [("list", form t)]
  | .array t length => .map [("array", .sequence [form t, .number (.integer length)])]
  | .option t => .map [("option", form t)]
  | .map t u => .map [("map", .sequence [form t, form u])]
  | .hashSet t => .map [("hash_set", form t)]
  | .named name ts => .map [("named", .map [("name", .text name), ("generics", .sequence (forms ts))])]
  | .param name => .map [("param", .text name)]

def forms : List TypeExpr → List Value
  | [] => []
  | t :: ts => form t :: forms ts

end

mutual

def json : TypeExpr → String
  | .scalar s => quoted s.name
  | .tuple ts => mapText [("tuple", sequenceText (jsons ts))]
  | .list t => mapText [("list", json t)]
  | .array t length => mapText [("array", sequenceText [json t, toString length])]
  | .option t => mapText [("option", json t)]
  | .map t u => mapText [("map", sequenceText [json t, json u])]
  | .hashSet t => mapText [("hash_set", json t)]
  | .named name ts => mapText [("named", mapText [("name", quoted name), ("generics", sequenceText (jsons ts))])]
  | .param name => mapText [("param", quoted name)]

def jsons : List TypeExpr → List String
  | [] => []
  | t :: ts => json t :: jsons ts

end

theorem lengths_child {t u : TypeExpr} (child : u ∈ t.children) {n : Nat} (among : n ∈ u.lengths) : n ∈ t.lengths := by
  obtain ⟨array, inside, length⟩ := List.mem_filterMap.1 among
  refine List.mem_filterMap.2 ⟨array, ?_, length⟩
  rw [SchemaType.walk_eq_cons]
  exact List.mem_cons_of_mem _ (List.mem_flatMap.2 ⟨u, child, inside⟩)

theorem isCompact_length {n : Nat} (fits : n < 2 ^ 64) :
    IsCompact (.number (.integer n)) (toString n).toList :=
  .integer (by omega) (by omega)

theorem isCompact_quoted (text : String) : IsCompact (.text text) (quoted text).toList :=
  .text (isQuoted_quoted text)

/-- A map of one member. -/
theorem isCompact_tagged {v : Value} {text : String} (tag : String) (item : IsCompact v text.toList) :
    IsCompact (.map [(tag, v)]) (mapText [(tag, text)]).toList :=
  isCompact_mapText (.cons_quoted tag item .nil)

theorem isCompact_pair {v w : Value} {text text' : String} (first : IsCompact v text.toList)
    (second : IsCompact w text'.toList) : IsCompact (.sequence [v, w]) (sequenceText [text, text']).toList :=
  isCompact_sequenceText (.cons first (.cons second .nil))

mutual

/-- A type reference whose lengths fit has a form, and the form has a compact text. -/
theorem isForm_form {t : TypeExpr} (fits : ∀ n ∈ t.lengths, n < 2 ^ 64) :
    IsForm t (form t) ∧ IsCompact (form t) (json t).toList := by
  have inside : ∀ u ∈ t.children, ∀ n ∈ lengths u, n < 2 ^ 64 :=
    fun u child n among => fits n (lengths_child child among)
  cases t with
  | scalar s => exact ⟨.scalar s, isCompact_quoted s.name⟩
  | tuple ts =>
    obtain ⟨elements, texts⟩ := areForms_forms inside
    exact ⟨.tuple elements, isCompact_tagged "tuple" (isCompact_sequenceText texts)⟩
  | list item =>
    obtain ⟨item, text⟩ := isForm_form (inside item List.mem_cons_self)
    exact ⟨.list item, isCompact_tagged "list" text⟩
  | array item length =>
    have fit : length < 2 ^ 64 := fits length List.mem_cons_self
    obtain ⟨item, text⟩ := isForm_form (inside item List.mem_cons_self)
    exact ⟨.array item fit, isCompact_tagged "array" (isCompact_pair text (isCompact_length fit))⟩
  | option item =>
    obtain ⟨item, text⟩ := isForm_form (inside item List.mem_cons_self)
    exact ⟨.option item, isCompact_tagged "option" text⟩
  | map key value =>
    obtain ⟨key, keyText⟩ := isForm_form (inside key List.mem_cons_self)
    obtain ⟨value, valueText⟩ := isForm_form (inside value (List.mem_cons_of_mem _ List.mem_cons_self))
    exact ⟨.map key value, isCompact_tagged "map" (isCompact_pair keyText valueText)⟩
  | hashSet item =>
    obtain ⟨item, text⟩ := isForm_form (inside item List.mem_cons_self)
    exact ⟨.hashSet item, isCompact_tagged "hash_set" text⟩
  | named name ts =>
    obtain ⟨arguments, texts⟩ := areForms_forms inside
    have generics := AreMembers.cons_quoted "generics" (isCompact_sequenceText texts) .nil
    have members := AreMembers.cons_quoted "name" (isCompact_quoted name) generics
    exact ⟨.named arguments, isCompact_tagged "named" (isCompact_mapText members)⟩
  | param name => exact ⟨.param, isCompact_tagged "param" (isCompact_quoted name)⟩

theorem areForms_forms {ts : List TypeExpr} (fits : ∀ t ∈ ts, ∀ n ∈ lengths t, n < 2 ^ 64) :
    AreForms ts (forms ts) ∧ AreCompact (forms ts) ((jsons ts).map String.toList) := by
  cases ts with
  | nil => exact ⟨.nil, .nil⟩
  | cons t ts =>
    obtain ⟨first, others⟩ := List.forall_mem_cons.1 fits
    obtain ⟨form, text⟩ := isForm_form first
    obtain ⟨forms, texts⟩ := areForms_forms others
    exact ⟨.cons form forms, .cons text texts⟩

end

end TypeExpr

/-! ## Loading -/

section

variable {α : Type} {reader : Nat → Reader α} {input rest : List UInt8} {a : α}

theorem Json.Reader.run_of_takes (takes : Reader.Takes (reader nestingLimit) input [] a) :
    Reader.run reader input = .ok a := by
  obtain ⟨later, ran⟩ := takes ⟨1, 0⟩
  rw [List.append_nil] at ran
  rw [Reader.run, Cursor.start, ran]

theorem Json.Reader.run_of_fails (fails : Reader.Fails (reader nestingLimit) input) :
    ∃ failure, Reader.run reader input = .error failure := by
  obtain ⟨failure, cursor, ran⟩ := fails ⟨1, 0⟩
  exact ⟨failure, by rw [Reader.run, Cursor.start, ran]⟩

end

namespace TypeExpr

/-- A compact text of a form is loaded as the type reference within the nesting limit, and refused beyond it. -/
theorem ofBytes_of_isForm {t : TypeExpr} {v : Value} {text : String} (form : IsForm t v)
    (compact : IsCompact v text.toList) :
    (v.nesting < nestingLimit → ofBytes (Text.utf8 text) = .ok t) ∧
      (nestingLimit ≤ v.nesting → ∃ failure, ofBytes (Text.utf8 text) = .error failure) := by
  rw [Text.utf8_eq_encoded]
  constructor
  · intro shallow
    have reads := (Reader.reads_value compact shallow).takes [] (fun _ first => nomatch first)
    have interpreted : ofValue v = .ok t := by rw [ofValue, ofValue?_of_isForm form]
    refine Reader.run_of_takes (reads.bind_last ?_)
    rw [interpreted]
    exact Reader.takes_pure t []
  · intro deep
    have refuses := (Reader.refuses_value compact deep).fails []
    rw [List.append_nil] at refuses
    exact Reader.run_of_fails (refuses.bind _)

/-- Type references load back: every compact text of a form of a type reference is loaded as that type reference, if
the form stays within the nesting limit, and is refused otherwise. With lengths that fit into 64 bits there is a form,
and a text of it. -/
theorem loads_back {t : TypeExpr} (fits : ∀ n ∈ t.lengths, n < 2 ^ 64) :
    IsForm t (form t) ∧ IsCompact (form t) (json t).toList ∧
      ∀ v, IsForm t v → ∀ text : String, IsCompact v text.toList →
        (v.nesting < nestingLimit → ofBytes (Text.utf8 text) = .ok t) ∧
        (nestingLimit ≤ v.nesting → ∃ failure, ofBytes (Text.utf8 text) = .error failure) := by
  obtain ⟨isForm, compact⟩ := isForm_form fits
  exact ⟨isForm, compact, fun v form text written => ofBytes_of_isForm form written⟩

/-- Names and parameters that are called like scalar types and like forms, the largest length, and a name that is
written with escapes. -/
def lookAlikes : TypeExpr :=
  .map (.named "tuple" [.param "u8", .array (.scalar .u8) (2 ^ 64 - 1)])
    (.tuple [.option (.list (.param "list")), .hashSet (.named "é\"\n" [])])

/-- The look-alikes load back from their text, and a name without generics loads back from the text without them. -/
theorem lookAlikes_load_back :
    (∀ n ∈ lookAlikes.lengths, n < 2 ^ 64) ∧
      json lookAlikes = "\x7b\"map\":[\x7b\"named\":\x7b\"name\":\"tuple\",\"generics\":[\x7b\"param\":\"u8\"\x7d," ++
        "\x7b\"array\":[\"u8\",18446744073709551615]\x7d]\x7d\x7d,\x7b\"tuple\":[" ++
        "\x7b\"option\":\x7b\"list\":\x7b\"param\":\"list\"\x7d\x7d\x7d," ++
        "\x7b\"hash_set\":\x7b\"named\":\x7b\"name\":\"é\\\"\\n\",\"generics\":[]\x7d\x7d\x7d]\x7d]\x7d" ∧
      ofBytes (Text.utf8 (json lookAlikes)) = .ok lookAlikes ∧
      ofBytes (Text.utf8 "\x7b\"named\":\x7b\"name\":\"u8\"\x7d\x7d") = .ok (.named "u8" []) := by
  have fits : ∀ n ∈ lookAlikes.lengths, n < 2 ^ 64 := by decide +kernel
  have nested : (form lookAlikes).nesting < nestingLimit := by decide +kernel
  obtain ⟨isForm, compact, loads⟩ := loads_back fits
  have alone : ∀ n ∈ lengths (.named "u8" []), n < 2 ^ 64 := by decide +kernel
  have written := isCompact_tagged "named" (isCompact_tagged "name" (isCompact_quoted "u8"))
  have text : mapText [("named", mapText [("name", quoted "u8")])] = "\x7b\"named\":\x7b\"name\":\"u8\"\x7d\x7d" := by
    decide +kernel
  rw [text] at written
  exact ⟨fits, by decide +kernel, (loads _ isForm _ compact).1 nested,
    ((loads_back alone).2.2 _ .plain _ written).1 (by decide +kernel)⟩

/-- The limit can be reached. -/
example : (form (Nat.repeat .list 127 (.scalar .bool))).nesting < nestingLimit ∧
    nestingLimit ≤ (form (Nat.repeat .list 128 (.scalar .bool))).nesting := by decide +kernel

end TypeExpr

end SchemaBindings
