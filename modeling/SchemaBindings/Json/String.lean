import SchemaBindings.Json.Reader
import SchemaBindings.Text.Utf8

/-!
# Texts of a document

A text stands between quotes. A backslash starts an escape; an escape by code unit may need a second one,
since characters past `U+FFFF` are written as a pair of surrogates. Controls must be escaped, and the bytes
that the text stands for must be UTF-8.
-/

namespace SchemaBindings.Json.Reader

variable {α : Type}

def hexValue? (b : UInt8) : Option Nat :=
  if 48 ≤ b ∧ b ≤ 57 then some (b.toNat - 48)
  else if 97 ≤ b ∧ b ≤ 102 then some (b.toNat - 87)
  else if 65 ≤ b ∧ b ≤ 70 then some (b.toNat - 55)
  else none

/-- The value of four hexadecimal digits. -/
def codeUnit? (a b c d : UInt8) : Option Nat := do
  return (((← hexValue? a) * 16 + (← hexValue? b)) * 16 + (← hexValue? c)) * 16 + (← hexValue? d)

/-- Reads the four digits of a code unit. -/
def codeUnit : Reader Nat := do
  match ← remaining with
  | a :: b :: c :: d :: _ =>
    skipBy 4
    match codeUnit? a b c d with
    | some unit => return unit
    | none => failHere .invalidEscape
  | rest =>
    skipBy rest.length
    failHere .endInText

/-- Reads an escape by code unit, behind `\u`. -/
def escapedCodePoint : Reader (List UInt8) := do
  let unit ← codeUnit
  if 0xdc00 ≤ unit ∧ unit ≤ 0xdfff then failHere .loneSurrogate
  else if unit < 0xd800 ∨ 0xdbff < unit then return String.utf8EncodeChar (Char.ofNat unit)
  else
    match ← next? with
    | none => failHere .endInText
    | some 92 =>
      match ← next? with
      | none => failHere .endInText
      | some 117 =>
        let second ← codeUnit
        if second < 0xdc00 ∨ 0xdfff < second then failHere .loneSurrogate
        else
          let code := 0x10000 + (unit - 0xd800) * 0x400 + (second - 0xdc00)
          return String.utf8EncodeChar (Char.ofNat code)
      | some _ => failHere .endOfEscape
    | some _ => failHere .endOfEscape

/-- Reads an escape, behind its backslash. -/
def escaped : Reader (List UInt8) := do
  match ← next? with
  | none => failHere .endInText
  | some 34 => return [34]
  | some 92 => return [92]
  | some 47 => return [47]
  | some 98 => return [8]
  | some 102 => return [12]
  | some 110 => return [10]
  | some 114 => return [13]
  | some 116 => return [9]
  | some 117 => escapedCodePoint
  | some _ => failHere .invalidEscape

/-- Reads bytes up to the closing quote; `left` holds the bytes that were left before, and `bytes` those that
have been read, the last one first. -/
def textBytesFrom : (left : List UInt8) → (bytes : List UInt8) → Reader (List UInt8)
  | [], _ => failHere .endInText
  | _ :: left, bytes => do
    match ← peek? with
    | none => failHere .endInText
    | some 34 => return bytes.reverse
    | some 92 =>
      skip
      textBytesFrom left ((← escaped).reverse ++ bytes)
    | some b =>
      skip
      if b < 32 then failHere .controlCharacter
      else textBytesFrom left (b :: bytes)

/-- Fails because of the bytes of a text whose closing quote comes next. The place is the first byte that
belongs to no character, counted back from the quote as if no escape stood behind it. -/
def failInText (bytes : List UInt8) : Reader α := fun c =>
  let behind := bytes.length - Text.wellFormedLength bytes
  let place := { c.position with column := c.position.column - behind + 1 }
  .error ⟨[], .invalidUnicode, some place⟩ c

/-- Reads a text behind its opening quote. -/
def textBody : Reader String := do
  let bytes ← textBytesFrom (← remaining) []
  match Text.ofUtf8? bytes with
  | some text =>
    skip
    return text
  | none => failInText bytes

/-- Reads a text whose opening quote is the next byte. -/
def text : Reader String := do
  skip
  textBody

end SchemaBindings.Json.Reader
