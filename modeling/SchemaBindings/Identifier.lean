/-!
# Identifiers

A declared name is an identifier: an ASCII letter and then ASCII letters, digits and underscores. A separator
between two names holds such characters only, so what it joins stays an identifier.
-/

namespace SchemaBindings

/-- Whether the character can stand behind the first one of an identifier. -/
def isIdentifierChar (c : Char) : Bool :=
  c.isAlphanum || c == '_'

def isIdentifierChars : List Char → Bool
  | [] => false
  | c :: rest => c.isAlpha && rest.all isIdentifierChar

def isIdentifier (text : String) : Bool :=
  isIdentifierChars text.toList

/-- Whether the text can stand between two names. -/
def isSeparator (text : String) : Bool :=
  text.toList.all isIdentifierChar

example : isIdentifier "Sample_1" = true := by decide +kernel
example : isIdentifier "_x" = false := by decide +kernel
example : isIdentifier "a\n" = false := by decide +kernel
example : isSeparator "" = true := by decide +kernel

end SchemaBindings
