import SchemaBindings.Proofs.IntegerFolding

/-!
# Folding in words of 128 bits

Magnitudes and limits are kept in words of 128 bits. Some operations on them are checked and have no result past the
range of words. The others are not checked, and where one of them leaves the range the computation ends
(`WordStop.overflow`).

* A checked operation has a result exactly if the exact one fits, and it is the exact one (`step_eq`, `negated?_eq`,
  `nonnegative?_eq`).
* The limits of all types fit (`power_eq`, `greatest_eq`).
* So folding in words never leaves their range, and what comes out is what comes out for unbounded integers
  (`foldInWords_eq`).

With it `fold_integer_exact`: a token is folded exactly if it denotes an integer of the type, to that integer.
-/

namespace SchemaBindings

/-- A word of 128 bits; a signed one is read in two's complement. -/
abbrev Word128 := BitVec 128

/-- How a computation on words ends without a result. -/
inductive WordStop where
  | fault (fault : Fault)
  /-- An operation without a check left the range of words. -/
  | overflow
deriving DecidableEq

namespace Word128

/-! ## Operations -/

/-- The checked product. -/
def product? (a b : Word128) : Option Word128 :=
  if a.umulOverflow b then none else some (a * b)

/-- The checked sum. -/
def sum? (a b : Word128) : Option Word128 :=
  if a.uaddOverflow b then none else some (a + b)

/-- The checked difference of zero and a word, as a signed word. -/
def negated? (a : Word128) : Option Word128 :=
  if 2 ^ 127 < a.toNat then none else some (0 - a)

/-- The checked conversion to a signed word. -/
def nonnegative? (a : Word128) : Option Word128 :=
  if 2 ^ 127 ≤ a.toNat then none else some a

/-- One, shifted to the left without a check. -/
def power (amount : Nat) : Except WordStop Word128 :=
  if 128 ≤ amount then .error .overflow else .ok (1#128 <<< amount)

/-- The difference of a word and one, without a check. -/
def predecessor (a : Word128) : Except WordStop Word128 :=
  if a.usubOverflow 1#128 then .error .overflow else .ok (a - 1#128)

/-- The greatest integer of an unsigned type of the given width; the widest has no power of two of its own. -/
def greatest (width : Nat) : Except WordStop Word128 :=
  if width = 128 then .ok (BitVec.allOnes 128) else power width >>= predecessor

end Word128

open Word128

/-! ## Folding -/

/-- The magnitude of digits behind those of `m`. -/
def readInWords (type : Scalar) (token : String) (m : Word128) : List Char → Except WordStop Word128
  | [] => .ok m
  | c :: rest =>
    if !c.isDigit then .error (.fault (.invalidLiteral token))
    else
      match (product? m 10#128).bind (sum? · (BitVec.ofNat 128 (c.toNat - '0'.toNat))) with
      | none => .error (.fault (.range type token))
      | some next => readInWords type token next rest

/-- The sign and the magnitude of a token. -/
def readTokenInWords (type : Scalar) (token : String) : Except WordStop (Bool × Word128) := do
  let (negative, digits) := splitSign token.toList
  if digits = [] then throw (.fault (.invalidLiteral token))
  return (negative, ← readInWords type token 0#128 digits)

/-- The signed integer of a magnitude, unless it is past the limits of its width. -/
def settleSigned (width : Nat) (negative : Bool) (magnitude : Word128) : Except WordStop (Option Datum) := do
  let limit ← power (width - 1)
  if negative then
    if limit < magnitude then return none
    else return ((negated? magnitude).map BitVec.toInt).map .signed
  else
    if limit ≤ magnitude then return none
    else return ((nonnegative? magnitude).map BitVec.toInt).map .signed

/-- The unsigned integer of a magnitude, unless it is past the limits of its width; a sign is only taken before zero. -/
def settleUnsigned (width : Nat) (negative : Bool) (magnitude : Word128) : Except WordStop (Option Datum) := do
  let most ← greatest width
  if (negative && magnitude != 0#128) || most < magnitude then return none
  else return some (.unsigned magnitude.toNat)

/-- The integer of a type and a magnitude, unless it is past the limits of its width. -/
def settleInWords (type : Scalar) (width : Nat) (negative : Bool) (magnitude : Word128) :
    Except WordStop (Option Datum) :=
  if type.isSigned then settleSigned width negative magnitude else settleUnsigned width negative magnitude

/-- The value of an integer token of a type. -/
def foldInWords (type : Scalar) (token : String) : Except WordStop Datum := do
  let (negative, magnitude) ← readTokenInWords type token
  match type.bitWidth? with
  | none => throw (.fault (.range type token))
  | some width =>
    match ← settleInWords type width negative magnitude with
    | none => throw (.fault (.range type token))
    | some datum => return datum

/-! ## Exact results -/

theorem toNat_word {n : Nat} (fits : n < 2 ^ 128) : (BitVec.ofNat 128 n).toNat = n := by
  rw [BitVec.toNat_ofNat, Nat.mod_eq_of_lt fits]

theorem product?_eq (a b : Word128) :
    product? a b = if 2 ^ 128 ≤ a.toNat * b.toNat then none else some (BitVec.ofNat 128 (a.toNat * b.toNat)) := by
  have product : a * b = BitVec.ofNat 128 (a.toNat * b.toNat) := BitVec.eq_of_toNat_eq (by simp)
  unfold product?
  rw [product, BitVec.umulOverflow]
  simp only [ge_iff_le, decide_eq_true_eq]

theorem sum?_eq (a b : Word128) :
    sum? a b = if 2 ^ 128 ≤ a.toNat + b.toNat then none else some (BitVec.ofNat 128 (a.toNat + b.toNat)) := by
  unfold sum?
  rw [BitVec.add_def, BitVec.uaddOverflow]
  simp only [ge_iff_le, decide_eq_true_eq]

/-- One more digit fits exactly if the magnitude with it does. -/
theorem step_eq (a : Word128) {d : Nat} (digit : d < 10) :
    (product? a 10#128).bind (sum? · (BitVec.ofNat 128 d)) =
      if magnitudeBound ≤ a.toNat * 10 + d then none else some (BitVec.ofNat 128 (a.toNat * 10 + d)) := by
  have bound : magnitudeBound = 2 ^ 128 := rfl
  have ten : (10#128).toNat = 10 := rfl
  have last : (BitVec.ofNat 128 d).toNat = d := toNat_word (by omega)
  rw [product?_eq, ten]
  by_cases large : 2 ^ 128 ≤ a.toNat * 10
  · rw [if_pos large, if_pos (by omega)]
    rfl
  · rw [if_neg large, Option.bind_some, sum?_eq, last, toNat_word (Nat.not_le.1 large), bound]

/-- Reading in words gives the word of the magnitude, or the same fault. -/
theorem readInWords_eq (type : Scalar) (token : String) (m : Word128) (cs : List Char) :
    readInWords type token m cs =
      ((readMagnitude type token m.toNat cs).map (BitVec.ofNat 128)).mapError .fault := by
  induction cs generalizing m with
  | nil =>
    show Except.ok m = Except.ok (BitVec.ofNat 128 m.toNat)
    rw [BitVec.ofNat_toNat, BitVec.setWidth_eq]
  | cons c rest ih =>
    unfold readInWords readMagnitude
    by_cases digit : c.isDigit = true
    · obtain ⟨least, greatest⟩ := toNat_of_isDigit digit
      have small : c.toNat - '0'.toNat < 10 := by
        show c.toNat - 48 < 10
        omega
      simp only [digit, Bool.not_true, Bool.false_eq_true, if_false, step_eq m small]
      by_cases large : magnitudeBound ≤ m.toNat * 10 + (c.toNat - '0'.toNat)
      · rw [if_pos large, if_pos large]
        rfl
      · rw [if_neg large, if_neg large]
        show readInWords type token _ rest = _
        rw [ih, toNat_word (Nat.not_le.1 large)]
    · simp only [digit, Bool.not_false, if_true]
      rfl

theorem readTokenInWords_eq (type : Scalar) (token : String) :
    readTokenInWords type token =
      ((readInteger type token).map fun read => (read.1, BitVec.ofNat 128 read.2)).mapError .fault := by
  unfold readTokenInWords readInteger
  generalize splitSign token.toList = split
  obtain ⟨negative, digits⟩ := split
  dsimp only
  by_cases empty : digits = []
  · rw [if_pos empty, if_pos empty]
    rfl
  · rw [if_neg empty, if_neg empty, readInWords_eq]
    show _ = (((readMagnitude type token 0 digits).bind fun m => .ok (negative, m)).map _).mapError _
    show (((readMagnitude type token 0 digits).map _).mapError _).bind _ = _
    cases readMagnitude type token 0 digits <;> rfl

theorem power_eq {amount : Nat} (small : amount < 128) : ∃ word, power amount = .ok word ∧ word.toNat = 2 ^ amount := by
  refine ⟨1#128 <<< amount, if_neg (Nat.not_le.2 small), ?_⟩
  have fits : 2 ^ amount < 2 ^ 128 := Nat.pow_lt_pow_right (by decide) small
  rw [BitVec.toNat_shiftLeft, Nat.shiftLeft_eq, show (1#128).toNat = 1 from rfl, Nat.one_mul, Nat.mod_eq_of_lt fits]

theorem greatest_eq {width : Nat} (narrow : width ≤ 128) :
    ∃ word, greatest width = .ok word ∧ word.toNat = 2 ^ width - 1 := by
  unfold greatest
  by_cases widest : width = 128
  · subst widest
    exact ⟨_, if_pos rfl, by decide⟩
  · have small : width < 128 := by omega
    obtain ⟨word, shifted, value⟩ := power_eq small
    have guarded : ¬ word.usubOverflow 1#128 = true := by
      simp [BitVec.usubOverflow, value]
    refine ⟨word - 1#128, ?_, ?_⟩
    · rw [if_neg widest, shifted]
      exact if_neg guarded
    · rw [BitVec.toNat_sub_of_not_usubOverflow guarded, value]
      rfl

theorem negated?_eq (a : Word128) :
    (negated? a).map BitVec.toInt = if 2 ^ 127 < a.toNat then none else some (-(a.toNat : Int)) := by
  unfold negated?
  by_cases large : 2 ^ 127 < a.toNat
  · rw [if_pos large, if_pos large]
    rfl
  · have wrapped : (0 - a).toNat = (2 ^ 128 - a.toNat) % 2 ^ 128 := by simp
    have value : (0 - a).toInt = -(a.toNat : Int) := by
      rw [BitVec.toInt_eq_toNat_cond, wrapped]
      split <;> omega
    rw [if_neg large, if_neg large, Option.map_some, value]

theorem nonnegative?_eq (a : Word128) :
    (nonnegative? a).map BitVec.toInt = if 2 ^ 127 ≤ a.toNat then none else some (a.toNat : Int) := by
  unfold nonnegative?
  by_cases large : 2 ^ 127 ≤ a.toNat
  · rw [if_pos large, if_pos large]
    rfl
  · have value : a.toInt = a.toNat := by
      rw [BitVec.toInt_eq_toNat_cond]
      split <;> omega
    rw [if_neg large, if_neg large, Option.map_some, value]

/-- The checks against the limit of a signed type are those of its range. -/
theorem settleSigned_eq {width : Nat} (wide : 1 ≤ width) (narrow : width ≤ 128) (negative : Bool) (a : Word128) :
    settleSigned width negative a = .ok (
      if inIntegerRange true width (withSign negative a.toNat) then some (.signed (withSign negative a.toNat))
      else none) := by
  have small : width - 1 < 128 := by omega
  obtain ⟨limit, shifted, value⟩ := power_eq small
  have powers : 2 ^ (width - 1) ≤ 2 ^ 127 := Nat.pow_le_pow_right (by decide) (by omega)
  have positive : 0 < 2 ^ (width - 1) := Nat.two_pow_pos _
  have range : ∀ n : Int, inIntegerRange true width n = true ↔ -(limit.toNat : Int) ≤ n ∧ n < limit.toNat := by
    intro n
    rw [value]
    simp [inIntegerRange]
  rw [← value] at powers positive
  unfold settleSigned
  rw [shifted]
  simp only [range, bind, Except.bind, pure, Except.pure, BitVec.lt_def, BitVec.le_def]
  cases negative with
  | true =>
    rw [if_pos rfl, show withSign true a.toNat = -(a.toNat : Int) from rfl]
    by_cases past : limit.toNat < a.toNat
    · rw [if_pos past, if_neg (by omega)]
    · rw [if_neg past, negated?_eq, if_neg (by omega), if_pos (by omega)]
      rfl
  | false =>
    rw [if_neg Bool.false_ne_true, show withSign false a.toNat = (a.toNat : Int) from rfl]
    by_cases past : limit.toNat ≤ a.toNat
    · rw [if_pos past, if_neg (by omega)]
    · rw [if_neg past, nonnegative?_eq, if_neg (by omega), if_pos (by omega)]
      rfl

/-- The checks against the greatest integer of an unsigned type, and of the sign, are those of its range. -/
theorem settleUnsigned_eq {width : Nat} (narrow : width ≤ 128) (negative : Bool) (a : Word128) :
    settleUnsigned width negative a = .ok (
      if inIntegerRange false width (withSign negative a.toNat) then some (.unsigned (withSign negative a.toNat).toNat)
      else none) := by
  obtain ⟨most, shifted, value⟩ := greatest_eq narrow
  have positive : 0 < 2 ^ width := Nat.two_pow_pos width
  have range : ∀ n : Int, inIntegerRange false width n = true ↔ 0 ≤ n ∧ n ≤ most.toNat := by
    intro n
    have last : (Nat.pow 2 width : Int) = most.toNat + 1 := by
      show ((2 ^ width : Nat) : Int) = _
      omega
    simp only [inIntegerRange, last, Bool.false_eq_true, if_false, Bool.and_eq_true, decide_eq_true_eq,
      Int.lt_add_one_iff]
  have zero : (a != 0#128) = true ↔ 0 < a.toNat := by
    rw [bne_iff_ne, ne_eq, ← BitVec.toNat_inj]
    exact Nat.pos_iff_ne_zero.symm
  unfold settleUnsigned
  rw [shifted]
  simp only [range, zero, bind, Except.bind, pure, Except.pure, BitVec.lt_def, Bool.or_eq_true, Bool.and_eq_true,
    decide_eq_true_eq]
  cases negative with
  | true =>
    rw [show withSign true a.toNat = -(a.toNat : Int) from rfl]
    by_cases empty : a.toNat = 0
    · rw [if_neg (by omega), if_pos (by omega), empty]
      rfl
    · rw [if_pos (.inl ⟨rfl, by omega⟩), if_neg (by omega)]
  | false =>
    rw [show withSign false a.toNat = (a.toNat : Int) from rfl]
    by_cases past : most.toNat < a.toNat
    · rw [if_pos (by simp [past]), if_neg (by omega)]
    · rw [if_neg (by simp [past]), if_pos (by omega), Int.toNat_natCast]

/-- Settling gives the integer of a sign and a magnitude exactly if it lies in the range of the type. -/
theorem settleInWords_eq {type : Scalar} {width : Nat} (wide : type.bitWidth? = some width) (negative : Bool)
    (a : Word128) :
    settleInWords type width negative a = .ok (
      if inIntegerRange type.isSigned width (withSign negative a.toNat) then
        some (type.datum (withSign negative a.toNat))
      else none) := by
  obtain ⟨least, narrow⟩ := bitWidth_bounds wide
  unfold settleInWords Scalar.datum
  cases type.isSigned with
  | true => exact settleSigned_eq least narrow negative a
  | false => exact settleUnsigned_eq narrow negative a

/-- Folding in words never leaves their range, and what comes out is what comes out for unbounded integers. -/
theorem foldInWords_eq (type : Scalar) (token : String) :
    foldInWords type token = (foldInteger type token).mapError .fault := by
  unfold foldInWords foldInteger
  rw [readTokenInWords_eq]
  cases read : readInteger type token with
  | error fault => rfl
  | ok pair =>
    obtain ⟨negative, m⟩ := pair
    have fits : m < 2 ^ 128 := readInteger_lt read
    cases wide : type.bitWidth? with
    | none => rfl
    | some width =>
      have settled := settleInWords_eq wide negative (BitVec.ofNat 128 m)
      rw [toNat_word fits] at settled
      simp only [Except.map, Except.mapError, bind, Except.bind, settled]
      unfold withSign Scalar.datum
      generalize (if negative = true then -(m : Int) else m) = n
      cases inIntegerRange type.isSigned width n <;> rfl

/-- A token of an integer type is folded exactly if it is one or more digits behind an optional sign and its integer
lies in the range of the type, and it is folded to that integer. Words of 128 bits are enough for every step: no
operation leaves their range, and they give the same datum or the same fault. -/
theorem fold_integer_exact {type : Scalar} (integer : type.isInteger = true) (token : String) :
    (∀ value, fold type (.int token) = .ok value ↔
      ∃ n, Denotes token.toList n ∧ type.Holds n ∧ value = ⟨type, type.datum n⟩) ∧
    foldInWords type token ≠ .error .overflow ∧
    (foldInWords type token).map (ConstantValue.mk type) = (fold type (.int token)).mapError .fault := by
  refine ⟨fun value => fold_integer_eq_ok_iff integer, ?_⟩
  rw [foldInWords_eq, fold_integer integer]
  cases foldInteger type token with
  | error fault => exact ⟨nofun, rfl⟩
  | ok datum => exact ⟨nofun, rfl⟩

/-- The least integer of 128 bits is folded, with zeros in front. -/
theorem least_integer_folded :
    Scalar.i128.isInteger = true ∧
      fold .i128 (.int "-00170141183460469231731687303715884105728") = .ok ⟨.i128, .signed (-2 ^ 127)⟩ ∧
      foldInWords .i128 "-00170141183460469231731687303715884105728" = .ok (.signed (-2 ^ 127)) := by
  have denoted : Denotes "-00170141183460469231731687303715884105728".toList (-2 ^ 127) := by
    rw [denotes_iff]
    decide +kernel
  have integer : Scalar.i128.isInteger = true := rfl
  obtain ⟨folds, -, words⟩ := fold_integer_exact integer "-00170141183460469231731687303715884105728"
  have folded := (folds _).2 ⟨_, denoted, ⟨128, rfl, by decide⟩, rfl⟩
  rw [folded] at words
  cases run : foldInWords .i128 "-00170141183460469231731687303715884105728" with
  | error stop => rw [run] at words; cases words
  | ok datum =>
    rw [run] at words
    cases words
    exact ⟨integer, folded, rfl⟩

end SchemaBindings
