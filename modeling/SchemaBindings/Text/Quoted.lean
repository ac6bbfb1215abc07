import SchemaBindings.Text.GraphemeExtend
import SchemaBindings.Text.Printable

/-!
# Quoted text

A text between double quotes, in two styles that differ in what they escape:

* `quoteControls` escapes quotes, backslashes and the ASCII controls, a control as `\n`, `\r`, `\t` or
  `\x` with two hexadecimal digits; every other character stands for itself;
* `quoteUnprintable` escapes quotes, backslashes and everything that is not printable or attaches to the
  character before it, as `\0`, `\t`, `\r`, `\n` or by its code point in braces.
-/

namespace SchemaBindings.Text

def hexDigit (n : Nat) : Char :=
  Nat.digitChar n

/-- The last two hexadecimal digits of a number. -/
def hexByte (n : Nat) : List Char :=
  [hexDigit (n / 16 % 16), hexDigit (n % 16)]

/-! ## Escaping controls -/

/-- The spelling of a character between quotes when only controls are escaped. -/
def escapeControl (c : Char) : List Char :=
  if c = '"' then ['\\', '"']
  else if c = '\\' then ['\\', '\\']
  else if c = '\n' then ['\\', 'n']
  else if c = '\r' then ['\\', 'r']
  else if c = '\t' then ['\\', 't']
  else if c.toNat < 0x20 ∨ c.toNat = 0x7f then '\\' :: 'x' :: hexByte c.toNat
  else [c]

/-- The text in quotes, controls escaped. -/
def quoteControls (text : String) : String :=
  String.ofList ('"' :: text.toList.flatMap escapeControl ++ ['"'])

/-! ## Escaping everything that is not printable -/

/-- A code point in braces. -/
def escapeCodePoint (c : Char) : List Char :=
  '\\' :: 'u' :: '{' :: (Nat.toDigits 16 c.toNat ++ ['}'])

/-- The spelling of a character between quotes when everything unprintable is escaped. -/
def escapeUnprintable (c : Char) : List Char :=
  if c = '\x00' then ['\\', '0']
  else if c = '\t' then ['\\', 't']
  else if c = '\r' then ['\\', 'r']
  else if c = '\n' then ['\\', 'n']
  else if c = '\\' ∨ c = '"' then ['\\', c]
  else if isGraphemeExtender c ∨ ¬ isPrintable c then escapeCodePoint c
  else [c]

/-- The text in quotes, everything unprintable escaped. -/
def quoteUnprintable (text : String) : String :=
  String.ofList ('"' :: text.toList.flatMap escapeUnprintable ++ ['"'])

example : quoteControls "a\"\x1b" = "\"a\\\"\\x1b\"" := by decide +kernel
example : quoteUnprintable "e\u0301\x00" = "\"e\\u\x7b301\x7d\\0\"" := by decide +kernel

end SchemaBindings.Text
