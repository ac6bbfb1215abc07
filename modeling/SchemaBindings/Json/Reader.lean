import SchemaBindings.Json.Failure

/-!
# Reading the text of a document

A reader takes bytes off the front of the input and keeps track of the position.

* A reader fails at the place where it stands (`failHere`), one byte further when the fault is the byte
  that it looks at (`failAhead`), or without a place (`failPlaceless`).
* Members and elements prepend their step to the path of a failure inside them (`within`).
* A map or a sequence is looked at to its end also when its contents failed (`closedBy`): the failure
  stays, but a failure without a position takes the one after that look (`settled`).
-/

namespace SchemaBindings.Json

/-! ## Cursors -/

/-- The input that is left, and the position in front of it. -/
structure Cursor where
  rest : List UInt8
  position : Position

def Position.after (p : Position) (b : UInt8) : Position :=
  if b = 10 then ⟨p.line + 1, 0⟩ else ⟨p.line, p.column + 1⟩

namespace Cursor

def start (input : List UInt8) : Cursor :=
  ⟨input, ⟨1, 0⟩⟩

/-- The cursor behind the next byte; at the end of the input it stays. -/
def advance (c : Cursor) : Cursor :=
  match c.rest with
  | [] => c
  | b :: rest => ⟨rest, c.position.after b⟩

/-- The cursor behind the next `n` bytes. -/
def advanceBy (c : Cursor) (n : Nat) : Cursor :=
  ⟨c.rest.drop n, (c.rest.take n).foldl Position.after c.position⟩

end Cursor

/-! ## Readers -/

abbrev Reader := EStateM Failure Cursor

namespace Reader

variable {α σ : Type}

/-- The next byte, which stays. -/
def peek? : Reader (Option UInt8) := fun c => .ok c.rest.head? c

/-- Drops the next byte. -/
def skip : Reader Unit := fun c => .ok () c.advance

/-- Drops the next `n` bytes. -/
def skipBy (n : Nat) : Reader Unit := fun c => .ok () (c.advanceBy n)

/-- The next byte, which is dropped. -/
def next? : Reader (Option UInt8) := fun c => .ok c.rest.head? c.advance

def remaining : Reader (List UInt8) := fun c => .ok c.rest c

def failHere (problem : Problem) : Reader α := fun c => .error ⟨[], problem, some c.position⟩ c

/-- Fails behind the byte that comes next. -/
def failAhead (problem : Problem) : Reader α := fun c =>
  .error ⟨[], problem, some c.advance.position⟩ c

/-- Fails without a place in the text. -/
def failPlaceless (problem : Problem) : Reader α := fun c => .error ⟨[], problem, none⟩ c

/-- A failure without a position takes the one where the reader stopped. -/
def settled (reader : Reader α) : Reader α := fun c =>
  match reader c with
  | .ok a c => .ok a c
  | .error f c => .error (f.settle c.position) c

/-- A failure inside lies under a step. -/
def within (step : Step) (reader : Reader α) : Reader α := fun c =>
  match reader c with
  | .ok a c => .ok a c
  | .error f c => .error (f.under step) c

/-- Reads the contents and then their end; the end is looked for also behind contents that failed. -/
def closedBy (finish : Reader Unit) (contents : Reader α) : Reader α := fun c =>
  match contents c with
  | .ok a c =>
    match finish c with
    | .ok _ c => .ok a c
    | .error f c => .error f c
  | .error f c =>
    match finish c with
    | .ok _ c => .error f c
    | .error _ c => .error f c

/-- A problem of a value that was read whole has no place of its own. -/
def ofExcept : Except Problem α → Reader α
  | .ok a => pure a
  | .error problem => failPlaceless problem

/-! ## Blanks and fixed texts -/

/-- Whether the byte is a space, a line feed, a tab or a carriage return. -/
def isBlankByte (b : UInt8) : Bool :=
  b == 32 || b == 10 || b == 9 || b == 13

/-- Drops blanks and looks at the next byte. -/
def peekPastBlanks? : Reader (Option UInt8) := fun c =>
  let c := c.advanceBy (c.rest.takeWhile isBlankByte).length
  .ok c.rest.head? c

def expectLetters : List UInt8 → Reader Unit
  | [] => pure ()
  | letter :: letters => do
    match ← next? with
    | none => failHere .endInValue
    | some b => if b = letter then expectLetters letters else failHere .expectedIdentifier

/-- Reads a fixed word whose first letter has been seen. -/
def expectWord (word : String) : Reader Unit :=
  expectLetters word.toUTF8.toList

/-! ## Sequences -/

/-- Whether another element follows; if so, the reader stands in front of it. -/
def nextElement (isFirst : Bool) : Reader Bool := do
  match ← peekPastBlanks? with
  | none => failAhead .endInSequence
  | some 93 => return false
  | some b =>
    if isFirst then return true
    else if b = 44 then
      skip
      match ← peekPastBlanks? with
      | some 93 => failAhead .trailingComma
      | some _ => return true
      | none => failAhead .endInValue
    else failAhead .expectedSequenceEnd

/-- Reads elements until the sequence ends, from the element at `index` on. The bytes that were left before
bound their number: each takes at least one. -/
def elementsFrom (element : σ → Reader σ) : (left : List UInt8) → (index : Nat) → σ → Reader σ
  | left, index, s => do
    if ← nextElement (index == 0) then
      match left with
      | [] => failHere .endInSequence
      | _ :: left => elementsFrom element left (index + 1) (← within (.index index) (element s))
    else
      return s

/-- Reads the elements of a sequence from the one at `index` on. -/
def elements (element : σ → Reader σ) (index : Nat) (s : σ) : Reader σ := do
  elementsFrom element (← remaining) index s

def endSequence : Reader Unit := do
  match ← peekPastBlanks? with
  | some 93 => skip
  | some 44 =>
    skip
    match ← peekPastBlanks? with
    | some 93 => failAhead .trailingComma
    | _ => failAhead .trailingCharacters
  | some _ => failAhead .trailingCharacters
  | none => failAhead .endInSequence

/-! ## Maps -/

/-- Whether another key follows; if so, the reader stands in front of its quote. -/
def nextKey (isFirst : Bool) : Reader Bool := do
  match ← peekPastBlanks? with
  | none => failAhead .endInMap
  | some 125 => return false
  | some b =>
    if isFirst then
      if b = 34 then return true else failAhead .keyNotText
    else if b = 44 then
      skip
      match ← peekPastBlanks? with
      | some 34 => return true
      | some 125 => failAhead .trailingComma
      | some _ => failAhead .keyNotText
      | none => failAhead .endInValue
    else failAhead .expectedMapEnd

/-- Reads the colon between a key and its value. -/
def colon : Reader Unit := do
  match ← peekPastBlanks? with
  | some 58 => skip
  | some _ => failAhead .expectedColon
  | none => failAhead .endInMap

def endMap : Reader Unit := do
  match ← peekPastBlanks? with
  | some 125 => skip
  | some 44 => failAhead .trailingComma
  | some _ => failAhead .trailingCharacters
  | none => failAhead .endInMap

end Reader

end SchemaBindings.Json
