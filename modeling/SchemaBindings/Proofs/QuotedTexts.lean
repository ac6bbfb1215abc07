import SchemaBindings.Text.Quoted
import Mathlib.Data.List.Basic

/-!
# Interpreted string literals

A literal is a text between double quotes in which every character stands for itself or is written by an escape.
Controls, quotes and backslashes cannot stand for themselves (`Element`), so a literal ends at the first quote that is
no part of an escape, and it has one text (`readInside_eq_some_iff`).

Text that is quoted with its controls escaped is a literal of that text (`isLiteral_quoteControls`). As every literal,
it holds no control (`IsLiteral.shown`), and it is read back whatever stands behind it (`readLiteral_append_iff`).
-/

namespace SchemaBindings.Text

/-! ## Literals -/

/-- The ASCII characters that are not shown: line feeds, carriage returns, tabs and the like. -/
def IsControl (c : Char) : Prop :=
  c.toNat < 0x20 ∨ c.toNat = 0x7f

instance (c : Char) : Decidable (IsControl c) :=
  inferInstanceAs (Decidable (_ ∨ _))

def hexValue? (c : Char) : Option Nat :=
  if c.isDigit then some (c.toNat - '0'.toNat)
  else if 'a' ≤ c ∧ c ≤ 'f' then some (c.toNat - 'a'.toNat + 10)
  else if 'A' ≤ c ∧ c ≤ 'F' then some (c.toNat - 'A'.toNat + 10)
  else none

/-- The character of a byte in two hexadecimal digits; a byte past ASCII is no character of its own. -/
def byteChar? (high low : Char) : Option Char := do
  let byte := 16 * (← hexValue? high) + (← hexValue? low)
  if byte < 0x80 then some (Char.ofNat byte) else none

/-- The character of an escape by one character behind the backslash. -/
def shortEscape? (c : Char) : Option Char :=
  if c = '"' ∨ c = '\\' then some c
  else if c = 'n' then some '\n'
  else if c = 'r' then some '\r'
  else if c = 't' then some '\t'
  else none

/-- How one character is written between the quotes. -/
inductive Element : List Char → Char → Prop
  | plain {c : Char} (open' : c ≠ '"') (escape : c ≠ '\\') (shown : ¬ IsControl c) : Element [c] c
  | short {e c : Char} (escaped : shortEscape? e = some c) : Element ['\\', e] c
  | byte {high low c : Char} (value : byteChar? high low = some c) : Element ['\\', 'x', high, low] c

/-- How the characters of a text are written between the quotes. -/
inductive Elements : List Char → List Char → Prop
  | nil : Elements [] []
  | cons {piece inside text : List Char} {c : Char} (first : Element piece c) (others : Elements inside text) :
      Elements (piece ++ inside) (c :: text)

def IsLiteral (literal : String) (text : String) : Prop :=
  ∃ inside, literal.toList = '"' :: (inside ++ ['"']) ∧ Elements inside text.toList

/-! ## Reading -/

/-- Reads on behind an opening quote, up to the closing one: the text, and what stands behind the quote. -/
def readInside : List Char → Option (List Char × List Char)
  | [] => none
  | '"' :: rest => some ([], rest)
  | '\\' :: 'x' :: high :: low :: source => do
    let c ← byteChar? high low
    let (text, rest) ← readInside source
    some (c :: text, rest)
  | '\\' :: e :: source => do
    let c ← shortEscape? e
    let (text, rest) ← readInside source
    some (c :: text, rest)
  | c :: source =>
    if c = '\\' ∨ IsControl c then none
    else do
      let (text, rest) ← readInside source
      some (c :: text, rest)

/-- Reads a literal off the front of a source: its text, and what stands behind it. -/
def readLiteral : List Char → Option (String × List Char)
  | '"' :: source => (readInside source).map fun read => (String.ofList read.1, read.2)
  | _ => none

theorem readInside_element {piece : List Char} {c : Char} (element : Element piece c) (source : List Char) :
    readInside (piece ++ source) = (readInside source).map fun read => (c :: read.1, read.2) := by
  cases element with
  | plain open' escape shown =>
    show readInside (c :: source) = _
    rw [readInside.eq_def]
    split
    · next same => cases same
    · next same => exact absurd (List.cons.inj same).1 open'
    · next same => exact absurd (List.cons.inj same).1 escape
    · next same => exact absurd (List.cons.inj same).1 escape
    · next same =>
      obtain ⟨rfl, rfl⟩ := List.cons.inj same
      rw [if_neg (not_or.2 ⟨escape, shown⟩)]
      cases readInside source <;> rfl
  | @short e c escaped =>
    show readInside ('\\' :: e :: source) = _
    rw [readInside.eq_4, escaped]
    · cases readInside source <;> rfl
    · rintro high low behind rfl -
      have none : shortEscape? 'x' = none := by decide
      exact nomatch none.symm.trans escaped
  | @byte high low c value =>
    show readInside ('\\' :: 'x' :: high :: low :: source) = _
    rw [readInside.eq_3, value]
    cases readInside source <;> rfl

/-- What is read is a text, written by its elements up to a quote that is no part of them. -/
theorem readInside_eq_some_iff {source text rest : List Char} :
    readInside source = some (text, rest) ↔ ∃ inside, source = inside ++ '"' :: rest ∧ Elements inside text := by
  constructor
  · intro read
    fun_induction readInside source generalizing text rest with
    | case1 => cases read
    | case2 source =>
      cases read
      exact ⟨[], rfl, .nil⟩
    | case3 high low source ih =>
      simp only [Option.bind_eq_bind, Option.bind_eq_some_iff] at read
      obtain ⟨c, value, ⟨others, behind⟩, inner, same⟩ := read
      cases same
      obtain ⟨inside, rfl, elements⟩ := ih inner
      exact ⟨_, rfl, .cons (.byte value) elements⟩
    | case4 e source _ ih =>
      simp only [Option.bind_eq_bind, Option.bind_eq_some_iff] at read
      obtain ⟨c, value, ⟨others, behind⟩, inner, same⟩ := read
      cases same
      obtain ⟨inside, rfl, elements⟩ := ih inner
      exact ⟨_, rfl, .cons (.short value) elements⟩
    | case5 => cases read
    | case6 c source open' _ _ plain ih =>
      simp only [Option.bind_eq_bind, Option.bind_eq_some_iff] at read
      obtain ⟨⟨others, behind⟩, inner, same⟩ := read
      cases same
      obtain ⟨escape, shown⟩ := not_or.1 plain
      obtain ⟨inside, rfl, elements⟩ := ih inner
      exact ⟨_, rfl, .cons (.plain open' escape shown) elements⟩
  · rintro ⟨inside, rfl, elements⟩
    induction elements with
    | nil => rfl
    | cons first others ih => rw [List.append_assoc, readInside_element first, ih, Option.map_some]

/-- Of a text that begins with a literal, the literal is read off, with its text. -/
theorem readLiteral_append_iff {literal text : String} :
    IsLiteral literal text ↔ ∀ rest, readLiteral (literal.toList ++ rest) = some (text, rest) := by
  constructor
  · rintro ⟨inside, same, elements⟩ rest
    rw [same, List.cons_append, List.append_assoc]
    show (readInside (inside ++ '"' :: rest)).map _ = _
    rw [readInside_eq_some_iff.2 ⟨inside, rfl, elements⟩, Option.map_some, String.ofList_toList]
  · intro reads
    have whole := reads []
    rw [List.append_nil] at whole
    unfold readLiteral at whole
    split at whole
    · next source begins =>
      obtain ⟨⟨chars, rest⟩, inner, same⟩ := Option.map_eq_some_iff.1 whole
      cases same
      obtain ⟨inside, rfl, elements⟩ := readInside_eq_some_iff.1 inner
      exact ⟨inside, begins, by rwa [String.toList_ofList]⟩
    · cases whole

/-! ## Controls -/

theorem not_isControl_of_le {c : Char} (least : 32 ≤ c.toNat) (greatest : c.toNat ≤ 126) : ¬ IsControl c := by
  unfold IsControl
  omega

theorem not_isControl_of_hexValue? {c : Char} {n : Nat} (value : hexValue? c = some n) : ¬ IsControl c := by
  unfold hexValue? at value
  split at value
  · next digit =>
    simp only [Char.isDigit, Bool.and_eq_true, decide_eq_true_eq, ge_iff_le, UInt32.le_iff_toNat_le] at digit
    exact not_isControl_of_le (Nat.le_trans (by decide) digit.1) (Nat.le_trans digit.2 (by decide))
  split at value
  · next letter => exact not_isControl_of_le (Nat.le_trans (by decide) letter.1) (Nat.le_trans letter.2 (by decide))
  split at value
  · next letter => exact not_isControl_of_le (Nat.le_trans (by decide) letter.1) (Nat.le_trans letter.2 (by decide))
  · cases value

theorem not_isControl_of_shortEscape? {e c : Char} (escaped : shortEscape? e = some c) : ¬ IsControl e := by
  unfold shortEscape? at escaped
  split at escaped
  · next same => rcases same with rfl | rfl <;> decide
  split at escaped
  · next same => exact same ▸ (by decide)
  split at escaped
  · next same => exact same ▸ (by decide)
  split at escaped
  · next same => exact same ▸ (by decide)
  · cases escaped

/-- No character between the quotes is a control, those of escapes included. -/
theorem Element.shown {piece : List Char} {c : Char} (element : Element piece c) : ∀ d ∈ piece, ¬ IsControl d := by
  have backslash : ¬ IsControl '\\' := by decide
  cases element with
  | plain _ _ shown => simpa using shown
  | short escaped => simpa [backslash] using not_isControl_of_shortEscape? escaped
  | byte value =>
    unfold byteChar? at value
    simp only [Option.bind_eq_bind, Option.bind_eq_some_iff] at value
    obtain ⟨m, first, n, second, -⟩ := value
    have x : ¬ IsControl 'x' := by decide
    simp [backslash, x, not_isControl_of_hexValue? first, not_isControl_of_hexValue? second]

theorem Elements.shown {inside text : List Char} (elements : Elements inside text) : ∀ d ∈ inside, ¬ IsControl d := by
  induction elements with
  | nil => simp
  | cons first others ih => exact List.forall_mem_append.2 ⟨first.shown, ih⟩

theorem IsLiteral.shown {literal text : String} (isLiteral : IsLiteral literal text) :
    ∀ d ∈ literal.toList, ¬ IsControl d := by
  obtain ⟨inside, same, elements⟩ := isLiteral
  have quote : ¬ IsControl '"' := by decide
  rw [same]
  simpa [quote, or_imp, forall_and] using elements.shown

/-! ## Quoted texts -/

theorem hexValue?_hexDigit : ∀ n < 16, hexValue? (hexDigit n) = some n := by
  decide

theorem byteChar?_hexByte {c : Char} (ascii : c.toNat < 0x80) :
    byteChar? (hexDigit (c.toNat / 16 % 16)) (hexDigit (c.toNat % 16)) = some c := by
  have value : 16 * (c.toNat / 16 % 16) + c.toNat % 16 = c.toNat := by omega
  unfold byteChar?
  rw [hexValue?_hexDigit _ (Nat.mod_lt _ (by decide)), hexValue?_hexDigit _ (Nat.mod_lt _ (by decide))]
  show (if 16 * (c.toNat / 16 % 16) + c.toNat % 16 < 0x80 then _ else _) = _
  rw [value, if_pos ascii, Char.ofNat_toNat]

theorem element_escapeControl (c : Char) : Element (escapeControl c) c := by
  unfold escapeControl
  split
  · next same =>
    subst same
    exact .short (by decide)
  next open' =>
  split
  · next same =>
    subst same
    exact .short (by decide)
  next escape =>
  split
  · next same => exact same ▸ .short (by decide)
  split
  · next same => exact same ▸ .short (by decide)
  split
  · next same => exact same ▸ .short (by decide)
  split
  · next control => exact .byte (byteChar?_hexByte (by omega))
  · next shown => exact .plain open' escape shown

theorem elements_quoted (text : List Char) : Elements (text.flatMap escapeControl) text := by
  induction text with
  | nil => exact .nil
  | cons c rest ih => exact .cons (element_escapeControl c) ih

/-- A quoted text is a literal of the text. -/
theorem isLiteral_quoteControls (text : String) : IsLiteral (quoteControls text) text :=
  ⟨text.toList.flatMap escapeControl, by simp [quoteControls], elements_quoted text.toList⟩

/-- Quoted texts differ if the texts do. -/
theorem quoteControls_injective : Function.Injective quoteControls := by
  intro text text' same
  have read := readLiteral_append_iff.1 (isLiteral_quoteControls text) []
  rw [same, readLiteral_append_iff.1 (isLiteral_quoteControls text') []] at read
  cases read
  rfl

end SchemaBindings.Text
