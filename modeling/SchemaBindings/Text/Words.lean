import SchemaBindings.Text.Alphanumeric
import SchemaBindings.Text.LetterCase

/-!
# Words of a name and case styles

A name is a sequence of words, and a case style is a way to write them down:

* a character that is neither a letter nor a number separates words and is dropped;
* a capital after a small letter starts a word (`fieldName` is `field`, `Name`);
* the last of several capitals belongs to the word of the small letter after it (`HTTPServer` is
  `HTTP`, `Server`);
* a number belongs to the word in which it stands and never starts one (`VALUE_U8` is `VALUE`, `U8`).

Whether a word has an empty neighbour never shows, so each style is a function of the list of words.
-/

namespace SchemaBindings.Text

/-! ## Words -/

/-- The case of the last letter of a word that is being read. -/
inductive LetterRun where
  | empty
  | small
  | capital
deriving DecidableEq, Repr

/-- The case after one more character. -/
def LetterRun.next (run : LetterRun) (c : Char) : LetterRun :=
  if isSmall c then .small else if isCapital c then .capital else run

def consFirst (c : Char) : List (List Char) → List (List Char)
  | [] => [[c]]
  | word :: others => (c :: word) :: others

/-- Splits a text without separators where the letter case changes. The first word is what is left of the one
that is being read, and may be empty. -/
def splitHumps (run : LetterRun) : List Char → List (List Char)
  | [] => []
  | [c] => [[c]]
  | c :: d :: rest =>
    if run.next c = .small ∧ isCapital d then
      [c] :: splitHumps .empty (d :: rest)
    else if run = .capital ∧ isCapital c ∧ isSmall d then
      [] :: consFirst c (splitHumps .empty (d :: rest))
    else
      consFirst c (splitHumps (run.next c) (d :: rest))

/-- Splits a text at its separators, which are dropped; two of them in a row enclose an empty piece. -/
def splitSeparators : List Char → List (List Char)
  | [] => [[]]
  | c :: rest =>
    if isAlphanumeric c then consFirst c (splitSeparators rest) else [] :: splitSeparators rest

def words (name : String) : List (List Char) :=
  (splitSeparators name.toList).flatMap (splitHumps .empty)

/-! ## Words in one case -/

/-- The word in small letters; a sigma at its end takes its final form. -/
def smallWord : List Char → List Char
  | [] => []
  | [c] => if c = 'Σ' then ['ς'] else decapitalize c
  | c :: rest => decapitalize c ++ smallWord rest

def capitalWord (word : List Char) : List Char :=
  word.flatMap capitalize

/-- The word with a capital at its front and small letters behind. -/
def titleWord : List Char → List Char
  | [] => []
  | c :: rest => capitalize c ++ smallWord rest

/-! ## Case styles -/

/-- Every word with a capital at its front (`UpperCamel`). -/
def upperCamel (name : String) : String :=
  String.ofList ((words name).flatMap titleWord)

/-- The first word small, the others with a capital at their front (`lowerCamel`). -/
def lowerCamel (name : String) : String :=
  match words name with
  | [] => ""
  | first :: rest => String.ofList (smallWord first ++ rest.flatMap titleWord)

/-- Small words joined by underscores (`snake_case`). -/
def snake (name : String) : String :=
  String.ofList (['_'].intercalate ((words name).map smallWord))

/-- Capital words joined by underscores (`SCREAMING_SNAKE`). -/
def screamingSnake (name : String) : String :=
  String.ofList (['_'].intercalate ((words name).map capitalWord))

example : upperCamel "VALUE_U8" = "ValueU8" := by decide +kernel
example : upperCamel "HTTPServer" = "HttpServer" := by decide +kernel
example : lowerCamel "XMLHttpRequest" = "xmlHttpRequest" := by decide +kernel
example : snake "GeometryTools" = "geometry_tools" := by decide +kernel
example : screamingSnake "valueU8" = "VALUE_U8" := by decide +kernel

end SchemaBindings.Text
