import SchemaBindings.Proofs.Numerals
import SchemaBindings.Proofs.SpelledTexts
import Mathlib.Algebra.Order.Ring.Int

/-!
# Compact texts of values

A value is written compactly if no blanks stand between its parts (`IsCompact`). Its texts can have any spelling, and
its numbers are integers that fit into 64 bits.

* A compact text is read as its value, and nothing behind it is touched, if the value nests less deep than the reader
  may go (`Reader.reads_value`).
* A value that nests deeper is refused, wherever in it the depth is exceeded (`Reader.refuses_value`).
-/

namespace SchemaBindings.Json

/-! ## Compact texts -/

mutual

/-- The characters are the value without blanks. -/
inductive IsCompact : Value → List Char → Prop
  | null : IsCompact .null "null".toList
  | true : IsCompact (.boolean true) "true".toList
  | false : IsCompact (.boolean false) "false".toList
  | integer {n : Int} (low : -2 ^ 63 ≤ n) (high : n < 2 ^ 64) : IsCompact (.number (.integer n)) (toString n).toList
  | text {s : String} {quoted : List Char} (isQuoted : IsQuoted s quoted) : IsCompact (.text s) quoted
  | sequence {vs : List Value} {texts : List (List Char)} (elements : AreCompact vs texts) :
      IsCompact (.sequence vs) ('[' :: ([','].intercalate texts ++ [']']))
  | map {ms : List (String × Value)} {texts : List (List Char)} (members : AreMembers ms texts) :
      IsCompact (.map ms) ('\x7b' :: ([','].intercalate texts ++ ['\x7d']))

inductive AreCompact : List Value → List (List Char) → Prop
  | nil : AreCompact [] []
  | cons {v : Value} {vs : List Value} {text : List Char} {texts : List (List Char)} (first : IsCompact v text)
      (others : AreCompact vs texts) : AreCompact (v :: vs) (text :: texts)

/-- The texts are the members without blanks, each a key and a value with a colon between them. -/
inductive AreMembers : List (String × Value) → List (List Char) → Prop
  | nil : AreMembers [] []
  | cons {key : String} {quoted : List Char} {v : Value} {text : List Char} {ms : List (String × Value)}
      {texts : List (List Char)} (isQuoted : IsQuoted key quoted) (item : IsCompact v text)
      (others : AreMembers ms texts) : AreMembers ((key, v) :: ms) ((quoted ++ ':' :: text) :: texts)

end

/-! ## Texts of sequences and maps -/

def sequenceText (elements : List String) : String :=
  "[" ++ ",".intercalate elements ++ "]"

def mapText (members : List (String × String)) : String :=
  "\x7b" ++ ",".intercalate (members.map fun m => quoted m.1 ++ ":" ++ m.2) ++ "\x7d"

theorem isCompact_sequenceText {vs : List Value} {elements : List String}
    (compact : AreCompact vs (elements.map String.toList)) :
    IsCompact (.sequence vs) (sequenceText elements).toList := by
  have whole := IsCompact.sequence compact
  rwa [sequenceText, String.toList_append, String.toList_append, String.toList_intercalate]

theorem isCompact_mapText {ms : List (String × Value)} {members : List (String × String)}
    (compact : AreMembers ms (members.map fun m => (quoted m.1 ++ ":" ++ m.2).toList)) :
    IsCompact (.map ms) (mapText members).toList := by
  have whole := IsCompact.map compact
  rwa [mapText, String.toList_append, String.toList_append, String.toList_intercalate, List.map_map]

theorem AreMembers.cons_quoted {v : Value} {text : String} {ms : List (String × Value)} {texts : List (List Char)}
    (key : String) (item : IsCompact v text.toList) (others : AreMembers ms texts) :
    AreMembers ((key, v) :: ms) ((quoted key ++ ":" ++ text).toList :: texts) := by
  rw [String.toList_append, String.toList_append, List.append_assoc]
  exact .cons (isQuoted_quoted key) item others

/-! ## Nesting -/

mutual

/-- How many sequences and maps are open around the innermost place of a value. -/
def Value.nesting : Value → Nat
  | .sequence vs => nestingOfAll vs + 1
  | .map ms => nestingOfMembers ms + 1
  | _ => 0

def nestingOfAll : List Value → Nat
  | [] => 0
  | v :: vs => max v.nesting (nestingOfAll vs)

def nestingOfMembers : List (String × Value) → Nat
  | [] => 0
  | (_, v) :: ms => max v.nesting (nestingOfMembers ms)

end

namespace Reader

open Text

variable {rest : List UInt8}

/-! ## Numbers -/

/-- A digit is one byte, with its value. -/
theorem digit_byte {c : Char} (digit : c.isDigit = true) :
    ∃ b, String.utf8EncodeChar c = [b] ∧ isDigitByte b = true ∧ digitValue b = c.toNat - 48 := by
  obtain ⟨least, greatest⟩ := toNat_of_isDigit digit
  have ascii : c.toNat < 128 := Nat.lt_of_le_of_lt greatest (by decide)
  have value : (UInt8.ofNat c.toNat).toNat = c.toNat := UInt8.toNat_ofNat_of_lt' (Nat.lt_trans ascii (by decide))
  refine ⟨_, encodeChar_of_ascii ascii, ?_, ?_⟩
  · simp only [isDigitByte, Bool.and_eq_true, decide_eq_true_eq, UInt8.le_iff_toNat_le, value]
    exact ⟨least, greatest⟩
  · rw [digitValue, value]

theorem isDigitByte_of_mem {ds : List Char} (each : ∀ c ∈ ds, c.isDigit = true) :
    ∀ b ∈ encoded ds, isDigitByte b = true := by
  intro b member
  obtain ⟨c, among, inside⟩ := List.mem_flatMap.1 member
  obtain ⟨d, byte, isDigit, -⟩ := digit_byte (each c among)
  rw [byte] at inside
  exact List.mem_singleton.1 inside ▸ isDigit

theorem EndsValue.not_digit (ends : EndsValue rest) : rest.head?.any isDigitByte = false := by
  cases rest with
  | nil => rfl
  | cons b rest => rcases ends b rfl with rfl | rfl | rfl <;> rfl

theorem takes_digits {ds : List Char} (each : ∀ c ∈ ds, c.isDigit = true) (ends : EndsValue rest) :
    Takes digits (encoded ds) rest (encoded ds) := by
  have taken : (encoded ds ++ rest).takeWhile isDigitByte = encoded ds := by
    rw [List.takeWhile_append_of_pos (isDigitByte_of_mem each)]
    cases rest with
    | nil => exact List.append_nil _
    | cons b rest =>
      have other : isDigitByte b = false := ends.not_digit
      rw [List.takeWhile_cons_of_neg (by rw [other]; exact Bool.false_ne_true), List.append_nil]
  refine Takes.bind_look takes_remaining ?_
  rw [taken]
  exact (takes_skipBy (encoded ds)).bind_pure fun _ => encoded ds

/-- Digits fit one after the other if their number does. -/
theorem appendDigits_encoded {limit : Nat} {ds : List Char} (each : ∀ c ∈ ds, c.isDigit = true) (m : Nat)
    (fits : Nat.ofDigitChars 10 ds m ≤ limit) : appendDigits limit m (encoded ds) = (Nat.ofDigitChars 10 ds m, 0) := by
  induction ds generalizing m with
  | nil => rfl
  | cons c ds ih =>
    obtain ⟨digit, others⟩ := List.forall_mem_cons.1 each
    obtain ⟨b, byte, -, value⟩ := digit_byte digit
    rw [Nat.ofDigitChars_cons, Nat.mul_comm] at fits ⊢
    have small := Nat.le_trans (le_ofDigitChars ds _) fits
    have zero : '0'.toNat = 48 := rfl
    rw [encoded_cons, byte, List.singleton_append, appendDigits, value, ← zero, if_neg (Nat.not_lt.2 small),
      ih others _ fits]

/-- Only zero begins with the digit zero. -/
theorem head_toDigits {n : Nat} (positive : 0 < n) : (Nat.toDigits 10 n).head? ≠ some '0' := by
  induction n using Nat.strongRecOn with
  | _ n ih =>
    rcases Nat.lt_or_ge n 10 with small | large
    · have each : ∀ k < 10, 0 < k → some (Nat.digitChar k) ≠ some '0' := by decide
      rw [Nat.toDigits_of_lt_base small]
      exact each n small positive
    · have front := ih (n / 10) (by omega) (by omega)
      rw [Nat.toDigits_of_base_le (by decide) large]
      cases digits : Nat.toDigits 10 (n / 10) with
      | nil => exact absurd digits Nat.toDigits_ne_nil
      | cons c ds => rwa [digits] at front

/-- What stands behind a value is no fraction and no exponent, so the number is whole. -/
theorem takes_number_end (negative : Bool) (n : Nat) (ends : EndsValue rest) :
    Takes (do
      match ← peek? with
      | some 46 => fractionPart negative n (0 : Nat)
      | after =>
        if startsExponent after then exponentPart negative n (0 : Nat)
        else if 0 = 0 then return integerOf negative n
        else realOf negative n (0 : Nat)) [] rest (integerOf negative n) := by
  refine Takes.bind_look takes_peek? ?_
  cases rest with
  | nil => exact takes_pure _ _
  | cons b rest => rcases ends b rfl with rfl | rfl | rfl <;> exact takes_pure _ _

/-- The digits of a number begin with a zero only if the number is zero. -/
theorem exists_first_digit (n : Nat) :
    ∃ b inside, encoded (Nat.toDigits 10 n) = b :: inside ∧ isDigitByte b = true ∧ (0 < n → b ≠ 48) := by
  cases digits : Nat.toDigits 10 n with
  | nil => exact absurd digits Nat.toDigits_ne_nil
  | cons c ds =>
    have digit : c.isDigit = true :=
      Nat.isDigit_of_mem_toDigits (by decide) (by decide) (digits ▸ List.mem_cons_self : c ∈ Nat.toDigits 10 n)
    obtain ⟨least, -⟩ := toNat_of_isDigit digit
    obtain ⟨b, byte, isDigit, value⟩ := digit_byte digit
    refine ⟨b, encoded ds, by rw [encoded_cons, byte]; rfl, isDigit, ?_⟩
    rintro positive rfl
    have zero : 0 = c.toNat - 48 := value
    have first := head_toDigits positive
    rw [digits] at first
    exact first (congrArg some (Char.toNat_inj.1 (show c.toNat = 48 by omega)))

/-- Digits that fit are read as the integer they stand for. -/
theorem takes_number {n : Nat} (fits : n < 2 ^ 64) (negative : Bool) (ends : EndsValue rest) :
    Takes (number negative) (encoded (Nat.toDigits 10 n)) rest (integerOf negative n) := by
  have last := takes_number_end negative n ends
  refine Takes.bind_look takes_peek? ?_
  rcases Nat.eq_zero_or_pos n with rfl | positive
  · have digit : encoded (Nat.toDigits 10 0) = [48] := rfl
    have single : ¬ rest.head?.any isDigitByte = true := by simp [ends.not_digit]
    rw [digit]
    refine (takes_skip 48).bind_last (Takes.bind_look takes_peek? ?_)
    rw [List.nil_append, if_neg single]
    exact Takes.bind_look (takes_pure _ _) last
  · have each : ∀ c ∈ Nat.toDigits 10 n, c.isDigit = true :=
      fun c => Nat.isDigit_of_mem_toDigits (by decide) (by decide)
    have exact' : Nat.ofDigitChars 10 (Nat.toDigits 10 n) 0 = n := Nat.ofDigitChars_ten_toDigits
    have number : appendDigits significandLimit 0 (encoded (Nat.toDigits 10 n)) = (n, 0) := by
      rw [appendDigits_encoded each 0 (exact'.symm ▸ Nat.le_sub_one_of_lt fits), exact']
    obtain ⟨b, inside, opens, isDigit, other⟩ := exists_first_digit n
    have first : (encoded (Nat.toDigits 10 n) ++ rest).head? = some b := by rw [opens]; rfl
    rw [first]
    simp only [isDigit, Bool.not_true, Bool.false_eq_true, if_false, if_neg (other positive)]
    refine (takes_digits each ends).bind_last ?_
    rw [number]
    exact Takes.bind_look (takes_pure _ _) last

/-! ## Values -/

theorem takes_value_sequence {depth : Nat} (below : depth ≠ 0) {texts : List (List UInt8)} {vs : List Value}
    (reads : List.Forall₂ (Reads (value depth)) texts vs) (rest : List UInt8) :
    Takes (value (depth + 1)) (91 :: ([44].intercalate texts ++ [93])) rest (.sequence vs) := by
  have contents := (takes_elements reads rest).closedBy (takes_endSequence rest)
  have whole := contents.bind_pure fun found => Value.sequence found.reverse
  rw [List.reverse_reverse] at whole
  refine Takes.settled (Takes.bind_look (takes_peekPastBlanks? (by decide)) ?_)
  show Takes (if depth = 0 then _ else _) _ _ _
  rw [if_neg below]
  exact (takes_skip 91).bind whole

theorem takes_value_map {depth : Nat} (below : depth ≠ 0) {texts : List (List UInt8)} {ms : List (String × Value)}
    (reads : List.Forall₂ (ReadsMember (value depth)) texts ms) (rest : List UInt8) :
    Takes (value (depth + 1)) (123 :: ([44].intercalate texts ++ [125])) rest (.map ms) := by
  have contents := (takes_members reads rest).closedBy (takes_endMap rest)
  have whole := contents.bind_pure fun found => Value.map found.reverse
  rw [List.reverse_reverse] at whole
  refine Takes.settled (Takes.bind_look (takes_peekPastBlanks? (by decide)) ?_)
  show Takes (if depth = 0 then _ else _) _ _ _
  rw [if_neg below]
  exact (takes_skip 123).bind whole

theorem takes_value_text {depth : Nat} {text : List UInt8} {s : String} (readsKey : ReadsKey text s)
    (rest : List UInt8) : Takes (value (depth + 1)) text rest (.text s) := by
  obtain ⟨⟨inside, rfl⟩, takes⟩ := readsKey
  refine Takes.settled (Takes.bind_look (takes_peekPastBlanks? (by decide)) ?_)
  exact (takes rest).bind_pure Value.text

theorem takes_expectLetters (letters rest : List UInt8) : Takes (expectLetters letters) letters rest () := by
  induction letters with
  | nil => exact takes_pure () rest
  | cons b letters ih =>
    refine (takes_next? b).bind ?_
    simp only [if_true]
    exact ih

theorem takes_expectWord (word : String) (rest : List UInt8) :
    Takes (expectWord word) (encoded word.toList) rest () := by
  have letters : word.toUTF8.toList = encoded word.toList := utf8_eq_encoded word
  rw [expectWord, letters]
  exact takes_expectLetters _ rest

/-- Each of the fixed words is chosen by its first letter. -/
theorem takes_value_word {depth : Nat} {word : String} {v : Value}
    (known : (word, v) ∈ [("null", .null), ("true", .boolean true), ("false", .boolean false)]) (rest : List UInt8) :
    Takes (value (depth + 1)) (encoded word.toList) rest v := by
  have taken := (takes_expectWord word rest).bind_pure fun _ => v
  simp only [List.mem_cons, Prod.mk.injEq, List.not_mem_nil, or_false] at known
  rcases known with ⟨rfl, rfl⟩ | ⟨rfl, rfl⟩ | ⟨rfl, rfl⟩
  · exact Takes.settled (Takes.bind_look (takes_peekPastBlanks? (b := 110) (by decide)) taken)
  · exact Takes.settled (Takes.bind_look (takes_peekPastBlanks? (b := 116) (by decide)) taken)
  · exact Takes.settled (Takes.bind_look (takes_peekPastBlanks? (b := 102) (by decide)) taken)

def BeginsNumber (b : UInt8) : Prop :=
  b = 45 ∨ isDigitByte b = true

theorem BeginsNumber.ne {b other : UInt8} (begins : BeginsNumber b) (sign : other ≠ 45)
    (digit : isDigitByte other = false) : b ≠ other := by
  rintro rfl
  rcases begins with same | digit'
  · exact sign same
  · exact absurd digit' (by rw [digit]; exact Bool.false_ne_true)

theorem BeginsNumber.solid {b : UInt8} (begins : BeginsNumber b) : isBlankByte b = false ∧ b ≠ 93 := by
  refine ⟨?_, begins.ne (by decide) (by decide)⟩
  simp only [isBlankByte, Bool.or_eq_false_iff, beq_eq_false_iff_ne]
  refine ⟨⟨⟨?_, ?_⟩, ?_⟩, ?_⟩ <;> exact begins.ne (by decide) (by decide)

/-- An integer that fits into 64 bits begins with its sign or a digit, and is exact. -/
theorem takes_signedNumber {n : Int} (low : -2 ^ 63 ≤ n) (high : n < 2 ^ 64) :
    ∃ b inside, encoded (toString n).toList = b :: inside ∧ BeginsNumber b ∧
      ∀ rest, EndsValue rest → Takes (signedNumber b) (encoded (toString n).toList) rest (.integer n) := by
  cases n with
  | ofNat m =>
    have text : (toString (Int.ofNat m)).toList = Nat.toDigits 10 m := by
      show (toString m).toList = _
      rw [Nat.toString_eq_ofList_toDigits, String.toList_ofList]
    obtain ⟨b, inside, opens, digit, -⟩ := exists_first_digit m
    have unsigned : b ≠ 45 := by
      rintro rfl
      exact absurd digit (by decide)
    rw [text]
    refine ⟨b, inside, opens, .inr digit, fun rest ends => ?_⟩
    rw [signedNumber, if_neg unsigned]
    exact takes_number (Int.ofNat_lt.1 high) false ends
  | negSucc m =>
    have text : (toString (Int.negSucc m)).toList = '-' :: Nat.toDigits 10 (m + 1) := by
      show ("-" ++ toString (m + 1)).toList = _
      rw [Nat.toString_eq_ofList_toDigits, String.toList_append]
      exact congrArg (['-'] ++ ·) String.toList_ofList
    have small : m + 1 ≤ 2 ^ 63 := by omega
    have value : integerOf true (m + 1) = .integer (Int.negSucc m) := by
      have fits : ¬ (m + 1 = 0 ∨ Nat.pow 2 63 < m + 1) := by
        rw [not_or, Nat.not_lt]
        exact ⟨Nat.succ_ne_zero m, small⟩
      rw [integerOf, if_neg fits]
      rfl
    rw [text]
    refine ⟨45, encoded (Nat.toDigits 10 (m + 1)), rfl, .inl rfl, fun rest ends => ?_⟩
    have digits := takes_number (Nat.lt_of_le_of_lt small (by decide)) true ends
    rw [value] at digits
    exact (takes_skip 45).bind digits

theorem takes_value_number {depth : Nat} {b : UInt8} {front inside : List UInt8} {n : Number} (begins : BeginsNumber b)
    (opens : front = b :: inside) (takes : Takes (signedNumber b) front rest n) :
    Takes (value (depth + 1)) front rest (.number n) := by
  subst opens
  have null : b ≠ 110 := begins.ne (by decide) (by decide)
  have true' : b ≠ 116 := begins.ne (by decide) (by decide)
  have false' : b ≠ 102 := begins.ne (by decide) (by decide)
  have quote : b ≠ 34 := begins.ne (by decide) (by decide)
  have sequence : b ≠ 91 := begins.ne (by decide) (by decide)
  have map : b ≠ 123 := begins.ne (by decide) (by decide)
  refine Takes.settled (Takes.bind_look (takes_peekPastBlanks? begins.solid.1) ?_)
  simp only [if_pos (show b = 45 ∨ isDigitByte b = true from begins)]
  exact takes.bind_pure Value.number

theorem opens_of_readsKey {text : List UInt8} {key : String} (readsKey : ReadsKey text key) : Opens text := by
  obtain ⟨⟨inside, rfl⟩, -⟩ := readsKey
  exact ⟨34, inside, rfl, by decide, by decide⟩

/-- The bytes of what stands between brackets. -/
theorem encoded_enclosed (opening closing : Char) (texts : List (List Char)) :
    encoded (opening :: ([','].intercalate texts ++ [closing])) =
      String.utf8EncodeChar opening ++ ([44].intercalate (texts.map encoded) ++ String.utf8EncodeChar closing) := by
  have comma : String.utf8EncodeChar ',' = [44] := rfl
  rw [encoded_cons, encoded_append, encoded_intercalate, comma, encoded_cons, encoded_nil, List.append_nil]

/-- The bytes of a member of a map. -/
theorem encoded_member (key text : List Char) : encoded (key ++ ':' :: text) = encoded key ++ 58 :: encoded text := by
  rw [encoded_append, encoded_cons]
  rfl

mutual

/-- A value is read from its compact text if it nests less deep than the reader may go. -/
theorem reads_value {v : Value} {text : List Char} (compact : IsCompact v text) {depth : Nat}
    (shallow : v.nesting < depth) : Reads (value depth) (encoded text) v := by
  obtain ⟨depth, rfl⟩ := Nat.exists_eq_add_one_of_ne_zero (Nat.ne_zero_of_lt shallow)
  cases compact with
  | null => exact ⟨⟨110, _, rfl, by decide, by decide⟩, fun rest _ => takes_value_word (by simp) rest⟩
  | true => exact ⟨⟨116, _, rfl, by decide, by decide⟩, fun rest _ => takes_value_word (by simp) rest⟩
  | false => exact ⟨⟨102, _, rfl, by decide, by decide⟩, fun rest _ => takes_value_word (by simp) rest⟩
  | integer low high =>
    obtain ⟨b, inside, opens, begins, takes⟩ := takes_signedNumber low high
    exact ⟨⟨b, inside, opens, begins.solid⟩, fun rest ends => takes_value_number begins opens (takes rest ends)⟩
  | text isQuoted =>
    have readsKey := readsKey_of_isQuoted isQuoted
    exact ⟨opens_of_readsKey readsKey, fun rest _ => takes_value_text readsKey rest⟩
  | @sequence vs texts elements =>
    have inside : nestingOfAll vs < depth := Nat.lt_of_succ_lt_succ shallow
    rw [encoded_enclosed]
    refine ⟨⟨91, _, rfl, by decide, by decide⟩, fun rest _ => ?_⟩
    exact takes_value_sequence (Nat.ne_zero_of_lt inside) (reads_values elements inside) rest
  | @map ms texts members =>
    have inside : nestingOfMembers ms < depth := Nat.lt_of_succ_lt_succ shallow
    rw [encoded_enclosed]
    refine ⟨⟨123, _, rfl, by decide, by decide⟩, fun rest _ => ?_⟩
    exact takes_value_map (Nat.ne_zero_of_lt inside) (reads_members members inside) rest

theorem reads_values {vs : List Value} {texts : List (List Char)} (compact : AreCompact vs texts) {depth : Nat}
    (shallow : nestingOfAll vs < depth) : List.Forall₂ (Reads (value depth)) (texts.map encoded) vs := by
  cases compact with
  | nil => exact .nil
  | cons first others =>
    obtain ⟨head, tail⟩ := Nat.max_lt.1 shallow
    exact .cons (reads_value first head) (reads_values others tail)

theorem reads_members {ms : List (String × Value)} {texts : List (List Char)} (compact : AreMembers ms texts)
    {depth : Nat} (shallow : nestingOfMembers ms < depth) :
    List.Forall₂ (ReadsMember (value depth)) (texts.map encoded) ms := by
  cases compact with
  | nil => exact .nil
  | @cons key quoted v text ms texts isQuoted item others =>
    obtain ⟨head, tail⟩ := Nat.max_lt.1 shallow
    rw [List.map_cons, encoded_member]
    exact .cons (.intro (readsKey_of_isQuoted isQuoted) (reads_value item head)) (reads_members others tail)

end

/-! ## Values that nest too deep -/

theorem opens_of_isCompact {v : Value} {text : List Char} (compact : IsCompact v text) : Opens (encoded text) := by
  cases compact with
  | null => exact ⟨110, _, rfl, by decide, by decide⟩
  | true => exact ⟨116, _, rfl, by decide, by decide⟩
  | false => exact ⟨102, _, rfl, by decide, by decide⟩
  | integer low high =>
    obtain ⟨b, inside, opens, begins, -⟩ := takes_signedNumber low high
    exact ⟨b, inside, opens, begins.solid⟩
  | text isQuoted => exact opens_of_readsKey (readsKey_of_isQuoted isQuoted)
  | sequence => exact ⟨91, _, rfl, by decide, by decide⟩
  | map => exact ⟨123, _, rfl, by decide, by decide⟩

theorem fails_value_zero (input : List UInt8) : Fails (value 0) input :=
  fails_failAhead .tooDeep

theorem fails_value_sequence {depth : Nat} {texts : List (List UInt8)}
    (stops : depth ≠ 0 → Stops (fun text => ∃ v, Reads (value depth) text v) (Refuses (value depth)) texts)
    (rest : List UInt8) : Fails (value (depth + 1)) (91 :: ([44].intercalate texts ++ 93 :: rest)) := by
  refine Fails.settled ((takes_peekPastBlanks? (by decide)).look_fails ?_)
  show Fails (if depth = 0 then _ else _) _
  split
  · exact fails_failAhead .tooDeep
  · next below =>
    exact (takes_skip 91).bind_fails (((fails_elements (stops below) rest).closedBy endSequence).bind _)

theorem fails_value_map {depth : Nat} {texts : List (List UInt8)}
    (stops : depth ≠ 0 →
      Stops (fun text => ∃ m, ReadsMember (value depth) text m) (RefusesMember (value depth)) texts)
    (rest : List UInt8) : Fails (value (depth + 1)) (123 :: ([44].intercalate texts ++ 125 :: rest)) := by
  refine Fails.settled ((takes_peekPastBlanks? (by decide)).look_fails ?_)
  show Fails (if depth = 0 then _ else _) _
  split
  · exact fails_failAhead .tooDeep
  · next below =>
    exact (takes_skip 123).bind_fails (((fails_members (stops below) rest).closedBy endMap).bind _)

mutual

/-- A value that nests deeper than the reader may go is refused. -/
theorem refuses_value {v : Value} {text : List Char} (compact : IsCompact v text) {depth : Nat}
    (deep : depth ≤ v.nesting) : Refuses (value depth) (encoded text) := by
  refine ⟨opens_of_isCompact compact, fun rest => ?_⟩
  cases depth with
  | zero => exact fails_value_zero _
  | succ depth =>
    cases compact with
    | null => exact absurd deep (Nat.not_succ_le_zero depth)
    | true => exact absurd deep (Nat.not_succ_le_zero depth)
    | false => exact absurd deep (Nat.not_succ_le_zero depth)
    | integer => exact absurd deep (Nat.not_succ_le_zero depth)
    | text => exact absurd deep (Nat.not_succ_le_zero depth)
    | @sequence vs texts elements =>
      have inside : depth ≤ nestingOfAll vs := Nat.le_of_succ_le_succ deep
      have input : encoded ('[' :: ([','].intercalate texts ++ [']'])) ++ rest =
          91 :: ([44].intercalate (texts.map encoded) ++ 93 :: rest) := by
        rw [encoded_enclosed, List.append_assoc, List.append_assoc]
        rfl
      rw [input]
      exact fails_value_sequence (fun below => stops_values elements inside below) rest
    | @map ms texts members =>
      have inside : depth ≤ nestingOfMembers ms := Nat.le_of_succ_le_succ deep
      have input : encoded ('\x7b' :: ([','].intercalate texts ++ ['\x7d'])) ++ rest =
          123 :: ([44].intercalate (texts.map encoded) ++ 125 :: rest) := by
        rw [encoded_enclosed, List.append_assoc, List.append_assoc]
        rfl
      rw [input]
      exact fails_value_map (fun below => stops_members members inside below) rest

theorem stops_values {vs : List Value} {texts : List (List Char)} (compact : AreCompact vs texts) {depth : Nat}
    (deep : depth ≤ nestingOfAll vs) (below : depth ≠ 0) :
    Stops (fun text => ∃ v, Reads (value depth) text v) (Refuses (value depth)) (texts.map encoded) := by
  cases compact with
  | nil => exact absurd (Nat.eq_zero_of_le_zero deep) below
  | @cons v vs text texts first others =>
    rcases Nat.lt_or_ge v.nesting depth with shallow | deeper
    · have deepest : depth ≤ max v.nesting (nestingOfAll vs) := deep
      have later : depth ≤ nestingOfAll vs := by omega
      exact .later ⟨v, reads_value first shallow⟩ (stops_values others later below)
    · exact .here (refuses_value first deeper)

theorem stops_members {ms : List (String × Value)} {texts : List (List Char)} (compact : AreMembers ms texts)
    {depth : Nat} (deep : depth ≤ nestingOfMembers ms) (below : depth ≠ 0) :
    Stops (fun text => ∃ m, ReadsMember (value depth) text m) (RefusesMember (value depth)) (texts.map encoded) := by
  cases compact with
  | nil => exact absurd (Nat.eq_zero_of_le_zero deep) below
  | @cons key quoted v text ms texts isQuoted item others =>
    rw [List.map_cons, encoded_member]
    rcases Nat.lt_or_ge v.nesting depth with shallow | deeper
    · have deepest : depth ≤ max v.nesting (nestingOfMembers ms) := deep
      have later : depth ≤ nestingOfMembers ms := by omega
      exact .later ⟨(key, v), .intro (readsKey_of_isQuoted isQuoted) (reads_value item shallow)⟩
        (stops_members others later below)
    · exact .here (.intro (readsKey_of_isQuoted isQuoted) (refuses_value item deeper))

end

end Reader

end SchemaBindings.Json
