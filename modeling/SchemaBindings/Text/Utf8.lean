/-!
# Texts as bytes

The UTF-8 form of a text, and the text of bytes that are well formed. Bytes that are not have a longest
beginning that is, which ends where the first character breaks off.
-/

namespace SchemaBindings.Text

def utf8 (text : String) : List UInt8 :=
  text.toUTF8.toList

/-- The text of bytes, if they are well formed. -/
def ofUtf8? (bytes : List UInt8) : Option String :=
  String.fromUTF8? bytes.toByteArray

/-- The end of the characters from `start` on; `fuel` bounds their number. -/
def wellFormedFrom (bytes : ByteArray) : Nat → Nat → Nat
  | 0, start => start
  | fuel + 1, start =>
    match bytes.utf8DecodeChar? start with
    | some c => wellFormedFrom bytes fuel (start + c.utf8Size)
    | none => start

def wellFormedLength (bytes : List UInt8) : Nat :=
  wellFormedFrom bytes.toByteArray bytes.length 0

example : wellFormedLength [0xc3, 0xa9, 0x78, 0xf0, 0x9f, 0x98] = 3 := by decide +kernel
example : wellFormedLength [0xed, 0xa0, 0x80] = 0 := by decide +kernel

end SchemaBindings.Text
