import SchemaBindings.Proofs.CamelCase
import SchemaBindings.Proofs.QuotedTexts
import SchemaBindings.Proofs.Readers

/-!
# Spellings of a text

Between the quotes a character stands for itself, if it is no control, quote or backslash, or an escape stands for it: a
short one, its code unit in hexadecimal digits, or a pair of surrogates if it has none (`Spelling`).

Whatever spelling each of its characters has, a text is read back (`Reader.readsKey_of_isQuoted`). Its characters have
the bytes of UTF-8, so no byte inside a character is taken for a quote or a backslash (`Reader.encoded_plain`).
-/

namespace SchemaBindings

/-! ## Characters as bytes -/

namespace Text

def encoded (chars : List Char) : List UInt8 :=
  chars.flatMap String.utf8EncodeChar

@[simp]
theorem encoded_nil : encoded [] = [] :=
  rfl

@[simp]
theorem encoded_cons (c : Char) (chars : List Char) : encoded (c :: chars) = String.utf8EncodeChar c ++ encoded chars :=
  List.flatMap_cons

@[simp]
theorem encoded_append (front behind : List Char) : encoded (front ++ behind) = encoded front ++ encoded behind :=
  List.flatMap_append

theorem encoded_intercalate (c : Char) (pieces : List (List Char)) :
    encoded ([c].intercalate pieces) = (String.utf8EncodeChar c).intercalate (pieces.map encoded) := by
  cases pieces with
  | nil => rfl
  | cons piece others =>
    have behind : encoded (others.flatMap ([c] ++ ·)) =
        (others.map encoded).flatMap (String.utf8EncodeChar c ++ ·) := by
      rw [encoded, List.flatMap_assoc, List.flatMap_map]
      rfl
    rw [intercalate_cons_eq, encoded_append, List.map_cons, intercalate_cons_eq, behind]

theorem toList_loop (bytes : ByteArray) (start : Nat) (found : List UInt8) :
    ByteArray.toList.loop bytes start found = found.reverse ++ bytes.data.toList.drop start := by
  induction left : bytes.size - start generalizing start found with
  | zero =>
    have behind : bytes.data.toList.length ≤ start := Nat.le_of_sub_eq_zero left
    rw [ByteArray.toList.loop.eq_1, if_neg (by omega), List.drop_eq_nil_of_le behind, List.append_nil]
  | succ n ih =>
    have inside : start < bytes.data.toList.length := by
      show start < bytes.size
      omega
    have byte : bytes.get! start = bytes.data.toList[start] := by
      show bytes.data[start]! = _
      rw [Array.getElem_toList, getElem!_pos]
    rw [ByteArray.toList.loop.eq_1, if_pos (by omega), ih _ _ (by omega), List.drop_eq_getElem_cons inside, byte,
      List.reverse_cons, List.append_assoc]
    rfl

theorem toByteArray_encoded (text : String) : (encoded text.toList).toByteArray = text.toByteArray := by
  have same := @String.toByteArray_ofList text.toList
  rw [String.ofList_toList] at same
  exact same.symm

theorem utf8_eq_encoded (text : String) : utf8 text = encoded text.toList := by
  show ByteArray.toList text.toByteArray = _
  rw [← toByteArray_encoded, ByteArray.toList, toList_loop, List.toList_data_toByteArray]
  rfl

theorem ofUtf8?_encoded (text : String) : ofUtf8? (encoded text.toList) = some text := by
  rw [ofUtf8?, toByteArray_encoded, String.fromUTF8?, dif_pos text.isValidUTF8]
  rfl

theorem encodeChar_of_ascii {c : Char} (ascii : c.toNat < 128) : String.utf8EncodeChar c = [UInt8.ofNat c.toNat] :=
  if_pos (Nat.le_of_lt_succ ascii)

/-- The bytes of a character past ASCII lie past ASCII. -/
theorem le_of_mem_encodeChar {c : Char} (other : 128 ≤ c.toNat) : ∀ b ∈ String.utf8EncodeChar c, 128 ≤ b.toNat := by
  have past : ¬ c.val.toNat ≤ 127 := Nat.not_le.2 other
  have lead : ∀ n k : Nat, n + k < 256 → 128 ≤ k → 128 ≤ (UInt8.ofNat (n + k)).toNat := by
    intro n k small high
    rw [UInt8.toNat_ofNat_of_lt' small]
    omega
  unfold String.utf8EncodeChar
  dsimp only
  rw [if_neg past]
  split
  · simp only [List.forall_mem_cons]
    refine ⟨lead _ _ ?_ ?_, lead _ _ ?_ ?_, List.forall_mem_nil _⟩ <;> omega
  · split
    · simp only [List.forall_mem_cons]
      refine ⟨lead _ _ ?_ ?_, lead _ _ ?_ ?_, lead _ _ ?_ ?_, List.forall_mem_nil _⟩ <;> omega
    · simp only [List.forall_mem_cons]
      refine ⟨lead _ _ ?_ ?_, lead _ _ ?_ ?_, lead _ _ ?_ ?_, lead _ _ ?_ ?_, List.forall_mem_nil _⟩ <;> omega

end Text

namespace Json

/-! ## Spellings -/

/-- The character of an escape by one character behind the backslash. -/
def shortEscape? : Char → Option Char
  | '"' => some '"'
  | '\\' => some '\\'
  | '/' => some '/'
  | 'b' => some '\x08'
  | 'f' => some '\x0c'
  | 'n' => some '\n'
  | 'r' => some '\r'
  | 't' => some '\t'
  | _ => none

/-- The four hexadecimal digits of a code unit, in either case. -/
inductive CodeUnit : List Char → Nat → Prop
  | intro {a b c d : Char} {m n p q : Nat} (first : Text.hexValue? a = some m) (second : Text.hexValue? b = some n)
      (third : Text.hexValue? c = some p) (fourth : Text.hexValue? d = some q) :
      CodeUnit [a, b, c, d] (((m * 16 + n) * 16 + p) * 16 + q)

/-- How one character is written between the quotes. -/
inductive Spelling : List Char → Char → Prop
  | plain {c : Char} (open' : c ≠ '"') (escape : c ≠ '\\') (shown : 0x20 ≤ c.toNat) : Spelling [c] c
  | short {e c : Char} (escaped : shortEscape? e = some c) : Spelling ['\\', e] c
  | unit {digits : List Char} {c : Char} (unit : CodeUnit digits c.toNat) : Spelling ('\\' :: 'u' :: digits) c
  | pair {digits digits' : List Char} {high low : Nat} {c : Char} (first : CodeUnit digits high)
      (second : CodeUnit digits' low) (isHigh : 0xd800 ≤ high ∧ high ≤ 0xdbff) (isLow : 0xdc00 ≤ low ∧ low ≤ 0xdfff)
      (value : c.toNat = 0x10000 + (high - 0xd800) * 0x400 + (low - 0xdc00)) :
      Spelling ('\\' :: 'u' :: (digits ++ '\\' :: 'u' :: digits')) c

/-- How the characters of a text are written between the quotes. -/
inductive Spellings : List Char → List Char → Prop
  | nil : Spellings [] []
  | cons {piece inside text : List Char} {c : Char} (first : Spelling piece c) (others : Spellings inside text) :
      Spellings (piece ++ inside) (c :: text)

inductive IsQuoted (text : String) : List Char → Prop
  | intro {inside : List Char} (spelled : Spellings inside text.toList) : IsQuoted text ('"' :: (inside ++ ['"']))

/-! ## Canonical spellings -/

def controlDigits (c : Char) : List Char :=
  ['0', '0', Nat.digitChar (c.toNat / 16), Nat.digitChar (c.toNat % 16)]

/-- The shortest spelling of a character: a short escape where there is one, and its code unit for other controls. -/
def spelled (c : Char) : List Char :=
  match ['"', '\\', 'b', 'f', 'n', 'r', 't'].find? (shortEscape? · == some c) with
  | some e => ['\\', e]
  | none => if c.toNat < 0x20 then '\\' :: 'u' :: controlDigits c else [c]

def quoted (text : String) : String :=
  String.ofList ('"' :: (text.toList.flatMap spelled ++ ['"']))

theorem spelling_spelled (c : Char) : Spelling (spelled c) c := by
  unfold spelled
  split
  · next e found =>
    have escaped := List.find?_some found
    exact .short (beq_iff_eq.1 escaped)
  · next none =>
    rw [List.find?_eq_none] at none
    split
    · next control =>
      have digit : ∀ n < 16, Text.hexValue? (Nat.digitChar n) = some n := by decide +kernel
      have unit := CodeUnit.intro (digit 0 (by decide)) (digit 0 (by decide)) (digit (c.toNat / 16) (by omega))
        (digit (c.toNat % 16) (by omega))
      have value : ((0 * 16 + 0) * 16 + c.toNat / 16) * 16 + c.toNat % 16 = c.toNat := by omega
      rw [value] at unit
      exact .unit unit
    · next shown =>
      refine .plain ?_ ?_ (Nat.not_lt.1 shown)
      · rintro rfl
        exact none '"' (by decide) (by decide)
      · rintro rfl
        exact none '\\' (by decide) (by decide)

theorem spellings_flatMap (chars : List Char) : Spellings (chars.flatMap spelled) chars := by
  induction chars with
  | nil => exact .nil
  | cons c chars ih => exact .cons (spelling_spelled c) ih

theorem isQuoted_quoted (text : String) : IsQuoted text (quoted text).toList := by
  rw [quoted, String.toList_ofList]
  exact .intro (spellings_flatMap text.toList)

example : quoted "a/\"\\\n\x1f\u00e9" = "\"a/\\\"\\\\\\n\\u001f\u00e9\"" := by decide +kernel

namespace Reader

open Text

variable {rest : List UInt8}

/-! ## Escapes -/

theorem hexValue?_encoded {c : Char} {n : Nat} (digit : Text.hexValue? c = some n) :
    ∃ b, String.utf8EncodeChar c = [b] ∧ hexValue? b = some n := by
  have ascii : c.toNat < 128 := by
    unfold Text.hexValue? at digit
    split at digit
    · next decimal => exact toNat_lt_of_isAlphanum (by simp [Char.isAlphanum, decimal])
    · split at digit
      · next small => exact Nat.lt_of_le_of_lt small.2 (by decide)
      · split at digit
        · next large => exact Nat.lt_of_le_of_lt large.2 (by decide)
        · cases digit
  have same : Text.hexValue? c = hexValue? (UInt8.ofNat c.toNat) :=
    Text.of_ascii (P := fun c => Text.hexValue? c = hexValue? (UInt8.ofNat c.toNat)) (by decide +kernel) ascii
  exact ⟨_, encodeChar_of_ascii ascii, same ▸ digit⟩

theorem takes_codeUnit {digits : List Char} {unit : Nat} (spelled : CodeUnit digits unit) (rest : List UInt8) :
    Takes codeUnit (encoded digits) rest unit := by
  obtain @⟨a, b, c, d, m, n, p, q, first, second, third, fourth⟩ := spelled
  obtain ⟨w, isFirst, first⟩ := hexValue?_encoded first
  obtain ⟨x, isSecond, second⟩ := hexValue?_encoded second
  obtain ⟨y, isThird, third⟩ := hexValue?_encoded third
  obtain ⟨z, isFourth, fourth⟩ := hexValue?_encoded fourth
  have value : codeUnit? w x y z = some (((m * 16 + n) * 16 + p) * 16 + q) := by
    simp only [codeUnit?, first, second, third, fourth]
    rfl
  simp only [encoded_cons, encoded_nil, isFirst, isSecond, isThird, isFourth]
  refine Takes.bind_look takes_remaining ?_
  refine (takes_skipBy [w, x, y, z]).bind_last ?_
  rw [value]
  exact takes_pure _ rest

/-- No character is a surrogate. -/
theorem not_surrogate (c : Char) : c.toNat < 0xd800 ∨ 0xdfff < c.toNat ∧ c.toNat < 0x110000 :=
  c.valid

theorem takes_escapedCodePoint_unit {digits : List Char} {c : Char} (unit : CodeUnit digits c.toNat)
    (rest : List UInt8) : Takes escapedCodePoint (encoded digits) rest (String.utf8EncodeChar c) := by
  have valid := not_surrogate c
  refine (takes_codeUnit unit rest).bind_last ?_
  rw [if_neg (by omega), if_pos (by omega), Char.ofNat_toNat]
  exact takes_pure _ rest

theorem takes_escapedCodePoint_pair {digits digits' : List Char} {high low : Nat} {c : Char}
    (first : CodeUnit digits high) (second : CodeUnit digits' low) (isHigh : 0xd800 ≤ high ∧ high ≤ 0xdbff)
    (isLow : 0xdc00 ≤ low ∧ low ≤ 0xdfff) (value : c.toNat = 0x10000 + (high - 0xd800) * 0x400 + (low - 0xdc00))
    (rest : List UInt8) :
    Takes escapedCodePoint (encoded (digits ++ '\\' :: 'u' :: digits')) rest (String.utf8EncodeChar c) := by
  rw [encoded_append]
  refine (takes_codeUnit first _).bind ?_
  rw [if_neg (by omega), if_neg (by omega)]
  refine (takes_next? 92).bind ((takes_next? 117).bind ((takes_codeUnit second rest).bind_last ?_))
  rw [if_neg (by omega), ← value]
  dsimp only
  rw [Char.ofNat_toNat]
  exact takes_pure _ rest

theorem takes_escaped_short {e c : Char} (short : shortEscape? e = some c) (rest : List UInt8) :
    Takes escaped (encoded [e]) rest (String.utf8EncodeChar c) := by
  unfold shortEscape? at short
  split at short
  all_goals cases short
  all_goals exact (takes_next? _).bind_last (takes_pure _ rest)

theorem takes_escaped_unit {front : List UInt8} {bytes : List UInt8} (takes : Takes escapedCodePoint front rest bytes) :
    Takes escaped (117 :: front) rest bytes :=
  (takes_next? 117).bind takes

/-- A spelling is the character itself, or a backslash and an escape with the bytes of the character. -/
theorem plain_or_escape {piece : List Char} {c : Char} (spelled : Spelling piece c) :
    (piece = [c] ∧ c ≠ '"' ∧ c ≠ '\\' ∧ 0x20 ≤ c.toNat) ∨
      ∃ escape, piece = '\\' :: escape ∧ ∀ rest, Takes escaped (encoded escape) rest (String.utf8EncodeChar c) := by
  cases spelled with
  | plain open' escape shown => exact .inl ⟨rfl, open', escape, shown⟩
  | short escaped => exact .inr ⟨_, rfl, takes_escaped_short escaped⟩
  | unit unit => exact .inr ⟨_, rfl, fun rest => takes_escaped_unit (takes_escapedCodePoint_unit unit rest)⟩
  | pair first second isHigh isLow value =>
    refine .inr ⟨_, rfl, fun rest => takes_escaped_unit ?_⟩
    exact takes_escapedCodePoint_pair first second isHigh isLow value rest

/-! ## Texts -/

/-- Bytes that stand for themselves are taken one by one. -/
theorem takes_textBytesFrom_plain {bytes : List UInt8} (plain : ∀ b ∈ bytes, b ≠ 34 ∧ b ≠ 92 ∧ ¬ b < 32)
    {behind found' : List UInt8} {left : List UInt8} :
    ∀ {found : List UInt8} {dropped : List UInt8}, dropped.length = bytes.length →
      Takes (textBytesFrom left (bytes.reverse ++ found)) behind rest found' →
      Takes (textBytesFrom (dropped ++ left) found) (bytes ++ behind) rest found' := by
  induction bytes with
  | nil =>
    intro found dropped same following
    rwa [List.eq_nil_of_length_eq_zero same]
  | cons b bytes ih =>
    intro found dropped same following
    obtain ⟨⟨quote, escape, shown⟩, others⟩ := List.forall_mem_cons.1 plain
    obtain ⟨d, dropped, rfl⟩ := List.exists_cons_of_length_eq_add_one same
    rw [List.reverse_cons, List.append_assoc] at following
    have later := ih others (Nat.succ.inj same) following
    refine Takes.bind_look takes_peek? ?_
    simp only [List.cons_append, List.head?_cons]
    refine (takes_skip b).bind ?_
    rw [if_neg shown]
    exact later

theorem takes_textBytesFrom_escape {front behind bytes found found' left : List UInt8}
    (escape : Takes escaped front (behind ++ rest) bytes) (b : UInt8)
    (following : Takes (textBytesFrom left (bytes.reverse ++ found)) behind rest found') :
    Takes (textBytesFrom (b :: left) found) (92 :: (front ++ behind)) rest found' := by
  refine Takes.bind_look takes_peek? ?_
  simp only [List.cons_append, List.head?_cons]
  exact (takes_skip 92).bind (escape.bind following)

theorem takes_textBytesFrom_end (b : UInt8) (left found : List UInt8) (rest : List UInt8) :
    Takes (textBytesFrom (b :: left) found) [] (34 :: rest) found.reverse :=
  Takes.bind_look takes_peek? (takes_pure _ _)

/-- No byte of a character that stands for itself is a quote, a backslash or a control. -/
theorem encoded_plain {c : Char} (open' : c ≠ '"') (escape : c ≠ '\\') (shown : 0x20 ≤ c.toNat) :
    ∀ b ∈ String.utf8EncodeChar c, b ≠ 34 ∧ b ≠ 92 ∧ ¬ b < 32 := by
  rcases Nat.lt_or_ge c.toNat 128 with ascii | other
  · have value : (UInt8.ofNat c.toNat).toNat = c.toNat := UInt8.toNat_ofNat_of_lt' (Nat.lt_trans ascii (by decide))
    rw [encodeChar_of_ascii ascii]
    refine List.forall_mem_singleton.2 ⟨fun quote => open' ?_, fun backslash => escape ?_, fun low => ?_⟩
    · rw [quote] at value
      exact Char.toNat_inj.1 value.symm
    · rw [backslash] at value
      exact Char.toNat_inj.1 value.symm
    · rw [UInt8.lt_iff_toNat_lt, value] at low
      exact absurd (Nat.lt_of_le_of_lt shown low) (by decide)
  · intro b member
    have high := le_of_mem_encodeChar other b member
    refine ⟨?_, ?_, ?_⟩
    · rintro rfl
      exact absurd high (by decide)
    · rintro rfl
      exact absurd high (by decide)
    · intro low
      have small := UInt8.lt_iff_toNat_lt.1 low
      exact absurd (Nat.lt_of_le_of_lt high small) (by decide)

/-- The bytes between the quotes are those of the text. -/
theorem takes_textBytesFrom {inside text : List Char} (spelled : Spellings inside text) (rest : List UInt8) :
    ∀ (left found : List UInt8), (encoded inside).length < left.length →
      Takes (textBytesFrom left found) (encoded inside) (34 :: rest) (found.reverse ++ encoded text) := by
  induction spelled with
  | nil =>
    intro left found room
    obtain ⟨b, left, rfl⟩ := List.exists_cons_of_length_pos (Nat.lt_of_le_of_lt (Nat.zero_le _) room)
    rw [encoded_nil, List.append_nil]
    exact takes_textBytesFrom_end b left found rest
  | @cons piece inside text c first others ih =>
    intro left found room
    rw [encoded_append, List.length_append] at room
    rw [encoded_append, encoded_cons]
    rcases plain_or_escape first with ⟨rfl, open', escape, shown⟩ | ⟨escape, rfl, takes⟩
    · rw [encoded_cons, encoded_nil, List.append_nil] at room ⊢
      have following := ih (left.drop (String.utf8EncodeChar c).length) ((String.utf8EncodeChar c).reverse ++ found)
        (by rw [List.length_drop]; omega)
      rw [List.reverse_append, List.reverse_reverse, List.append_assoc] at following
      have dropped : (left.take (String.utf8EncodeChar c).length).length = (String.utf8EncodeChar c).length :=
        List.length_take_of_le (by omega)
      have whole := takes_textBytesFrom_plain (encoded_plain open' escape shown) dropped following
      rwa [List.take_append_drop] at whole
    · obtain ⟨b, left, rfl⟩ := List.exists_cons_of_length_pos (Nat.lt_of_le_of_lt (Nat.zero_le _) room)
      rw [encoded_cons, encodeChar_of_ascii (by decide), List.length_append] at room
      have following := ih left ((String.utf8EncodeChar c).reverse ++ found) (by
        simp only [List.length_cons, List.length_nil] at room
        omega)
      rw [List.reverse_append, List.reverse_reverse, List.append_assoc] at following
      rw [encoded_cons, encodeChar_of_ascii (by decide), List.append_assoc]
      exact takes_textBytesFrom_escape (takes _) b following

/-- A text is read as a key or a value in each of its spellings. -/
theorem readsKey_of_isQuoted {s : String} {quoted : List Char} (isQuoted : IsQuoted s quoted) :
    ReadsKey (encoded quoted) s := by
  obtain @⟨inside, spelled⟩ := isQuoted
  have bytes : encoded ('"' :: (inside ++ ['"'])) = 34 :: (encoded inside ++ [34]) := by
    rw [encoded_cons, encoded_append]
    rfl
  rw [bytes]
  refine ⟨⟨_, rfl⟩, fun rest => ?_⟩
  have inner := takes_textBytesFrom spelled rest (encoded inside ++ 34 :: rest) [] (by
    rw [List.length_append, List.length_cons]
    omega)
  rw [List.reverse_nil, List.nil_append] at inner
  refine (takes_skip 34).bind (Takes.bind_look takes_remaining ?_)
  have input : encoded inside ++ [34] ++ rest = encoded inside ++ 34 :: rest := List.append_assoc ..
  change Takes (textBytesFrom (encoded inside ++ [34] ++ rest) [] >>= _) (encoded inside ++ [34]) rest s
  rw [input]
  refine inner.bind ?_
  rw [ofUtf8?_encoded]
  exact (takes_skip 34).bind_pure fun _ => s

end Reader

end Json

end SchemaBindings
