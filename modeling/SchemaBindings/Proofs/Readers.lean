import SchemaBindings.Proofs.TextPieces
import SchemaBindings.Json.Value

/-!
# What readers take

A reader takes bytes off the front of the input and returns a value (`Reader.Takes`), or it fails on the input
(`Reader.Fails`), wherever in the text it stands. What a reader of several steps does follows from its steps, one after
the other (`Takes.bind`, `Takes.bind_fails`).

The elements of a sequence are read one by one, as many as there are (`takes_elements`), and the members of a map
likewise (`takes_members`), if each is followed by a comma or by the end. If one of them is refused, so is the whole
(`fails_elements`, `fails_members`), and what closes behind it makes no difference (`Fails.closedBy`).
-/

namespace SchemaBindings.Json.Reader

variable {α β σ : Type} {reader : Reader α} {a : α} {b : β} {front behind rest input : List UInt8}

/-- In front of these bytes the reader takes them off and returns a value; the rest stays. -/
def Takes (reader : Reader α) (front rest : List UInt8) (a : α) : Prop :=
  ∀ position, ∃ later, reader ⟨front ++ rest, position⟩ = .ok a ⟨rest, later⟩

def Fails (reader : Reader α) (input : List UInt8) : Prop :=
  ∀ position, ∃ failure cursor, reader ⟨input, position⟩ = .error failure cursor

/-! ## Steps -/

theorem takes_pure (a : α) (input : List UInt8) : Takes (pure a) [] input a :=
  fun position => ⟨position, rfl⟩

theorem Takes.bind {next : α → Reader β} (first : Takes reader front (behind ++ rest) a)
    (last : Takes (next a) behind rest b) : Takes (reader >>= next) (front ++ behind) rest b := by
  intro position
  obtain ⟨between, ran⟩ := first position
  obtain ⟨later, ends⟩ := last between
  refine ⟨later, ?_⟩
  show EStateM.bind reader next _ = _
  rw [List.append_assoc, EStateM.bind, ran]
  exact ends

/-- The first step only looks. -/
theorem Takes.bind_look {next : α → Reader β} (look : Takes reader [] (front ++ rest) a)
    (last : Takes (next a) front rest b) : Takes (reader >>= next) front rest b :=
  look.bind last

/-- The last step takes nothing. -/
theorem Takes.bind_last {next : α → Reader β} (first : Takes reader front rest a) (last : Takes (next a) [] rest b) :
    Takes (reader >>= next) front rest b := by
  have whole := Takes.bind first last
  rwa [List.append_nil] at whole

theorem Takes.bind_pure (takes : Takes reader front rest a) (f : α → β) :
    Takes (reader >>= fun a => pure (f a)) front rest (f a) :=
  takes.bind_last (takes_pure (f a) rest)

theorem Takes.map (takes : Takes reader front rest a) (f : α → β) : Takes (f <$> reader) front rest (f a) := by
  intro position
  obtain ⟨later, ran⟩ := takes position
  refine ⟨later, ?_⟩
  show EStateM.map f reader _ = _
  rw [EStateM.map, ran]

theorem Takes.bind_fails {next : α → Reader β} (first : Takes reader front rest a) (last : Fails (next a) rest) :
    Fails (reader >>= next) (front ++ rest) := by
  intro position
  obtain ⟨between, ran⟩ := first position
  obtain ⟨failure, cursor, ends⟩ := last between
  refine ⟨failure, cursor, ?_⟩
  show EStateM.bind reader next _ = _
  rw [EStateM.bind, ran]
  exact ends

theorem Takes.look_fails {next : α → Reader β} (look : Takes reader [] input a) (last : Fails (next a) input) :
    Fails (reader >>= next) input :=
  look.bind_fails last

theorem Fails.bind (fails : Fails reader input) (next : α → Reader β) : Fails (reader >>= next) input := by
  intro position
  obtain ⟨failure, cursor, ran⟩ := fails position
  refine ⟨failure, cursor, ?_⟩
  show EStateM.bind reader next _ = _
  rw [EStateM.bind, ran]

theorem fails_failAhead (problem : Problem) : Fails (failAhead problem : Reader α) input :=
  fun _ => ⟨_, _, rfl⟩

theorem takes_peek? : Takes peek? [] input input.head? :=
  fun position => ⟨position, rfl⟩

theorem takes_remaining : Takes remaining [] input input :=
  fun position => ⟨position, rfl⟩

theorem takes_skip (b : UInt8) : Takes skip [b] rest () :=
  fun _ => ⟨_, rfl⟩

theorem takes_next? (b : UInt8) : Takes next? [b] rest (some b) :=
  fun _ => ⟨_, rfl⟩

theorem takes_skipBy (front : List UInt8) : Takes (skipBy front.length) front rest () := by
  intro position
  refine ⟨(((front ++ rest).take front.length).foldl Position.after position), ?_⟩
  show EStateM.Result.ok () (Cursor.advanceBy _ _) = _
  rw [Cursor.advanceBy, List.drop_left]

theorem takes_peekPastBlanks? {b : UInt8} (other : isBlankByte b = false) :
    Takes peekPastBlanks? [] (b :: rest) (some b) := by
  intro position
  refine ⟨position, ?_⟩
  show EStateM.Result.ok _ (Cursor.advanceBy _ _) = _
  rw [Cursor.advanceBy, List.nil_append, List.takeWhile_cons_of_neg (by rw [other]; exact Bool.false_ne_true)]
  rfl

/-! ## Readers around a reader -/

theorem Takes.settled (takes : Takes reader front rest a) : Takes (settled reader) front rest a := by
  intro position
  obtain ⟨later, ran⟩ := takes position
  exact ⟨later, by rw [Reader.settled, ran]⟩

theorem Takes.within (takes : Takes reader front rest a) (step : Step) : Takes (within step reader) front rest a := by
  intro position
  obtain ⟨later, ran⟩ := takes position
  exact ⟨later, by rw [Reader.within, ran]⟩

theorem Takes.closedBy {finish : Reader Unit} (contents : Takes reader front (behind ++ rest) a)
    (closes : Takes finish behind rest ()) : Takes (closedBy finish reader) (front ++ behind) rest a := by
  intro position
  obtain ⟨between, ran⟩ := contents position
  obtain ⟨later, ends⟩ := closes between
  exact ⟨later, by rw [Reader.closedBy, List.append_assoc, ran]; simp only [ends]⟩

theorem Fails.settled (fails : Fails reader input) : Fails (settled reader) input := by
  intro position
  obtain ⟨failure, cursor, ran⟩ := fails position
  exact ⟨_, _, by rw [Reader.settled, ran]⟩

theorem Fails.within (fails : Fails reader input) (step : Step) : Fails (within step reader) input := by
  intro position
  obtain ⟨failure, cursor, ran⟩ := fails position
  exact ⟨_, _, by rw [Reader.within, ran]⟩

/-- Whatever stands behind contents that failed, the failure stays. -/
theorem Fails.closedBy (fails : Fails reader input) (finish : Reader Unit) : Fails (closedBy finish reader) input := by
  intro position
  obtain ⟨failure, cursor, ran⟩ := fails position
  cases closes : finish cursor with
  | ok _ later => exact ⟨failure, later, by rw [Reader.closedBy, ran]; simp only [closes]⟩
  | error _ later => exact ⟨failure, later, by rw [Reader.closedBy, ran]; simp only [closes]⟩

/-! ## Values in a row -/

/-- Behind a value the input ends, or goes on with a comma or the end of a sequence or a map. -/
def EndsValue (rest : List UInt8) : Prop :=
  ∀ b ∈ rest.head?, b = 44 ∨ b = 93 ∨ b = 125

/-- The text begins with a byte that is no blank and ends nothing. -/
def Opens (text : List UInt8) : Prop :=
  ∃ b rest, text = b :: rest ∧ isBlankByte b = false ∧ b ≠ 93

/-- The reader reads the text as a value, wherever the text can stand. -/
structure Reads (reader : Reader α) (text : List UInt8) (a : α) : Prop where
  opens : Opens text
  takes : ∀ rest, EndsValue rest → Takes reader text rest a

/-- The reader refuses the text, whatever stands behind it. -/
structure Refuses (reader : Reader α) (text : List UInt8) : Prop where
  opens : Opens text
  fails : ∀ rest, Fails reader (text ++ rest)

/-- One of the texts is refused, and those in front of it are read. -/
inductive Stops (reads refuses : List UInt8 → Prop) : List (List UInt8) → Prop
  | here {text : List UInt8} {texts : List (List UInt8)} (refused : refuses text) : Stops reads refuses (text :: texts)
  | later {text : List UInt8} {texts : List (List UInt8)} (read : reads text) (stops : Stops reads refuses texts) :
      Stops reads refuses (text :: texts)

theorem takes_nextElement_end (isFirst : Bool) (rest : List UInt8) :
    Takes (nextElement isFirst) [] (93 :: rest) false :=
  Takes.bind_look (takes_peekPastBlanks? (by decide)) (takes_pure false _)

theorem takes_nextElement_first (opens : Opens front) (rest : List UInt8) :
    Takes (nextElement true) [] (front ++ rest) true := by
  obtain ⟨b, others, rfl, solid, closes⟩ := opens
  refine Takes.bind_look (takes_peekPastBlanks? solid) ?_
  simp only [if_true]
  exact takes_pure true _

theorem takes_nextElement_later (opens : Opens front) (rest : List UInt8) :
    Takes (nextElement false) [44] (front ++ rest) true := by
  obtain ⟨b, others, rfl, solid, closes⟩ := opens
  refine Takes.bind_look (takes_peekPastBlanks? (by decide)) ?_
  refine (takes_skip 44).bind_last (Takes.bind_look (takes_peekPastBlanks? solid) ?_)
  simp only []
  exact takes_pure true _

theorem takes_endSequence (rest : List UInt8) : Takes endSequence [93] rest () :=
  Takes.bind_look (takes_peekPastBlanks? (by decide)) (takes_skip 93)

theorem length_le_flatMap_cons (b : UInt8) (texts : List (List UInt8)) :
    texts.length ≤ (texts.flatMap (b :: ·)).length := by
  induction texts with
  | nil => exact Nat.zero_le _
  | cons text texts ih =>
    rw [List.flatMap_cons, List.cons_append, List.length_cons, List.length_cons, List.length_append]
    omega

theorem room_behind (inside : List UInt8) (texts : List (List UInt8)) (b : UInt8) (rest : List UInt8) :
    texts.length ≤ (inside ++ (texts.flatMap (44 :: ·) ++ b :: rest)).length := by
  have each := length_le_flatMap_cons 44 texts
  rw [List.length_append, List.length_append]
  omega

theorem endsValue_flatMap (texts : List (List UInt8)) {b : UInt8} (ends : b = 93 ∨ b = 125) (rest : List UInt8) :
    EndsValue (texts.flatMap (44 :: ·) ++ b :: rest) := by
  intro c first
  cases texts with
  | nil =>
    cases first
    exact .inr ends
  | cons text texts =>
    cases first
    exact .inl rfl

/-- Reads an element and puts it in front of those found before. -/
abbrev elementInto (reader : Reader α) (found : List α) : Reader (List α) :=
  return (← reader) :: found

section

variable {texts : List (List UInt8)} {as : List α}

theorem takes_elementsFrom_end (element : σ → Reader σ) (left : List UInt8) (index : Nat) (s : σ)
    (rest : List UInt8) : Takes (elementsFrom element left index s) [] (93 :: rest) s := by
  unfold elementsFrom
  exact Takes.bind_look (takes_nextElement_end _ rest) (takes_pure s _)

/-- An element is looked at behind its comma, unless it is the first one. -/
theorem takes_nextElement (opens : Opens front) (isFirst : Bool) (rest : List UInt8) :
    Takes (nextElement isFirst) (if isFirst then [] else [44]) (front ++ rest) true := by
  cases isFirst with
  | false => exact takes_nextElement_later opens rest
  | true => exact takes_nextElement_first opens rest

/-- One element, and the elements behind it. -/
theorem takes_elementsFrom_cons {found found' : List α} (read : Reads reader front a) (b : UInt8) (left : List UInt8)
    (index : Nat) (ends : EndsValue (behind ++ rest))
    (following : Takes (elementsFrom (elementInto reader) left (index + 1) (a :: found)) behind rest found') :
    Takes (elementsFrom (elementInto reader) (b :: left) index found)
      ((if index == 0 then [] else [44]) ++ (front ++ behind)) rest found' := by
  have step := ((read.takes _ ends).bind_pure (· :: found)).within (.index index)
  have opening := takes_nextElement read.opens (index == 0) (behind ++ rest)
  rw [← List.append_assoc] at opening
  rw [elementsFrom]
  exact opening.bind (step.bind following)

/-- The elements behind the first one. -/
theorem takes_elementsFrom (reads : List.Forall₂ (Reads reader) texts as) (rest : List UInt8) :
    ∀ (left : List UInt8) (index : Nat) (found : List α), texts.length ≤ left.length →
      Takes (elementsFrom (elementInto reader) left (index + 1) found) (texts.flatMap (44 :: ·)) (93 :: rest)
        (as.reverse ++ found) := by
  induction reads with
  | nil =>
    intro left index found room
    exact takes_elementsFrom_end _ left (index + 1) found rest
  | @cons text a texts as read others ih =>
    intro left index found room
    obtain ⟨b, left, rfl⟩ := List.exists_cons_of_length_pos (Nat.lt_of_lt_of_le (Nat.succ_pos _) room)
    have following := ih left (index + 1) (a :: found) (Nat.le_of_succ_le_succ room)
    rw [List.flatMap_cons, List.reverse_cons, List.append_assoc]
    exact takes_elementsFrom_cons read b left (index + 1) (endsValue_flatMap texts (.inl rfl) rest) following

/-- The elements of a sequence are taken one by one; the last one comes first in the result. -/
theorem takes_elements (reads : List.Forall₂ (Reads reader) texts as) (rest : List UInt8) :
    Takes (elements (elementInto reader) 0 []) ([44].intercalate texts) (93 :: rest) as.reverse := by
  refine Takes.bind_look takes_remaining ?_
  cases reads with
  | nil => exact takes_elementsFrom_end _ _ 0 [] rest
  | @cons text a texts as read others =>
    obtain ⟨b, inside, rfl, -⟩ := read.opens
    have following := takes_elementsFrom others rest _ 0 [a] (room_behind inside texts 93 rest)
    rw [Text.intercalate_cons_eq, List.append_assoc, List.cons_append, List.reverse_cons]
    exact takes_elementsFrom_cons read b _ 0 (endsValue_flatMap texts (.inl rfl) rest) following

/-- One element that is refused. -/
theorem fails_elementsFrom_here (refuses : Refuses reader front) (b : UInt8) (left : List UInt8) (index : Nat)
    (found : List α) (rest : List UInt8) :
    Fails (elementsFrom (elementInto reader) (b :: left) index found)
      ((if index == 0 then [] else [44]) ++ (front ++ rest)) := by
  rw [elementsFrom]
  exact (takes_nextElement refuses.opens (index == 0) rest).bind_fails
    ((((refuses.fails rest).bind _).within (.index index)).bind _)

theorem fails_elementsFrom_later {found : List α} (read : Reads reader front a) (b : UInt8) (left : List UInt8)
    (index : Nat) (ends : EndsValue rest)
    (following : Fails (elementsFrom (elementInto reader) left (index + 1) (a :: found)) rest) :
    Fails (elementsFrom (elementInto reader) (b :: left) index found)
      ((if index == 0 then [] else [44]) ++ (front ++ rest)) := by
  have step := ((read.takes _ ends).bind_pure (· :: found)).within (.index index)
  rw [elementsFrom]
  exact (takes_nextElement read.opens (index == 0) rest).bind_fails (step.bind_fails following)

theorem fails_elementsFrom (stops : Stops (fun text => ∃ a, Reads reader text a) (Refuses reader) texts)
    (rest : List UInt8) :
    ∀ (left : List UInt8) (index : Nat) (found : List α), texts.length ≤ left.length →
      Fails (elementsFrom (elementInto reader) left (index + 1) found) (texts.flatMap (44 :: ·) ++ 93 :: rest) := by
  induction stops with
  | @here text texts refuses =>
    intro left index found room
    obtain ⟨b, left, rfl⟩ := List.exists_cons_of_length_pos (Nat.lt_of_lt_of_le (Nat.succ_pos _) room)
    rw [List.flatMap_cons, List.cons_append, List.cons_append, List.append_assoc]
    exact fails_elementsFrom_here refuses b left (index + 1) found _
  | @later text texts read stops ih =>
    intro left index found room
    obtain ⟨b, left, rfl⟩ := List.exists_cons_of_length_pos (Nat.lt_of_lt_of_le (Nat.succ_pos _) room)
    obtain ⟨a, read⟩ := read
    have following := ih left (index + 1) (a :: found) (Nat.le_of_succ_le_succ room)
    rw [List.flatMap_cons, List.cons_append, List.cons_append, List.append_assoc]
    exact fails_elementsFrom_later read b left (index + 1) (endsValue_flatMap texts (.inl rfl) rest) following

/-- A sequence of which an element is refused. -/
theorem fails_elements (stops : Stops (fun text => ∃ a, Reads reader text a) (Refuses reader) texts)
    (rest : List UInt8) : Fails (elements (elementInto reader) 0 []) ([44].intercalate texts ++ 93 :: rest) := by
  refine takes_remaining.look_fails ?_
  cases stops with
  | @here text texts refuses =>
    obtain ⟨b, inside, rfl, -⟩ := refuses.opens
    rw [Text.intercalate_cons_eq, List.append_assoc, List.cons_append]
    exact fails_elementsFrom_here refuses b _ 0 [] _
  | @later text texts read stops =>
    obtain ⟨a, read⟩ := read
    obtain ⟨b, inside, rfl, -⟩ := read.opens
    have following := fails_elementsFrom stops rest _ 0 [a] (room_behind inside texts 93 rest)
    rw [Text.intercalate_cons_eq, List.append_assoc, List.cons_append]
    exact fails_elementsFrom_later read b _ 0 (endsValue_flatMap texts (.inl rfl) rest) following

end

/-! ## Members in a row -/

/-- The text is read as a key, whatever stands behind it. -/
structure ReadsKey (text : List UInt8) (key : String) : Prop where
  quoted : ∃ inside, text = 34 :: inside
  takes : ∀ rest, Takes Reader.text text rest key

/-- The text is a key and a value that the reader reads, with a colon between them. -/
inductive ReadsMember (reader : Reader α) : List UInt8 → String × α → Prop
  | intro {keyText text : List UInt8} {key : String} {a : α} (readsKey : ReadsKey keyText key)
      (reads : Reads reader text a) : ReadsMember reader (keyText ++ 58 :: text) (key, a)

/-- The text is a key and a value that the reader refuses, with a colon between them. -/
inductive RefusesMember (reader : Reader α) : List UInt8 → Prop
  | intro {keyText text : List UInt8} {key : String} (readsKey : ReadsKey keyText key)
      (refuses : Refuses reader text) : RefusesMember reader (keyText ++ 58 :: text)

theorem ReadsMember.eq_cons {m : String × α} (read : ReadsMember reader front m) : ∃ b inside, front = b :: inside := by
  obtain ⟨⟨⟨inside, rfl⟩, -⟩, -⟩ := read
  exact ⟨34, _, rfl⟩

theorem RefusesMember.eq_cons (refuses : RefusesMember reader front) : ∃ b inside, front = b :: inside := by
  obtain ⟨⟨⟨inside, rfl⟩, -⟩, -⟩ := refuses
  exact ⟨34, _, rfl⟩

theorem takes_nextKey_end (isFirst : Bool) (rest : List UInt8) : Takes (nextKey isFirst) [] (125 :: rest) false :=
  Takes.bind_look (takes_peekPastBlanks? (by decide)) (takes_pure false _)

theorem takes_nextKey_first (rest : List UInt8) : Takes (nextKey true) [] (34 :: rest) true :=
  Takes.bind_look (takes_peekPastBlanks? (by decide)) (takes_pure true _)

theorem takes_nextKey_later (rest : List UInt8) : Takes (nextKey false) [44] (34 :: rest) true := by
  refine Takes.bind_look (takes_peekPastBlanks? (by decide)) ?_
  exact (takes_skip 44).bind_last (Takes.bind_look (takes_peekPastBlanks? (by decide)) (takes_pure true _))

theorem takes_colon (rest : List UInt8) : Takes colon [58] rest () :=
  Takes.bind_look (takes_peekPastBlanks? (by decide)) (takes_skip 58)

theorem takes_endMap (rest : List UInt8) : Takes endMap [125] rest () :=
  Takes.bind_look (takes_peekPastBlanks? (by decide)) (takes_skip 125)

theorem takes_memberValue (takes : Takes reader front rest a) (key : String) :
    Takes (memberValue key reader) (58 :: front) rest a :=
  (takes_colon (front ++ rest)).bind (takes.within (.member key))

theorem fails_memberValue (fails : Fails reader input) (key : String) :
    Fails (memberValue key reader) (58 :: input) :=
  (takes_colon input).bind_fails (fails.within (.member key))

theorem takes_key? {key : String} (readsKey : ReadsKey front key) (isFirst : Bool) (rest : List UInt8) :
    Takes (key? isFirst) ((if isFirst then [] else [44]) ++ front) rest (some key) := by
  obtain ⟨⟨inside, rfl⟩, takes⟩ := readsKey
  have last := (takes rest).map some
  refine Takes.within ?_ .unreadableKey
  cases isFirst with
  | false =>
    refine Takes.bind (takes_nextKey_later (inside ++ rest)) ?_
    exact last
  | true =>
    refine Takes.bind_look (takes_nextKey_first (inside ++ rest)) ?_
    exact last

theorem takes_key?_end (isFirst : Bool) (rest : List UInt8) : Takes (key? isFirst) [] (125 :: rest) none := by
  refine Takes.within ?_ .unreadableKey
  exact Takes.bind_look (takes_nextKey_end isFirst rest) (takes_pure none _)

/-- Reads the value of a key and puts the member in front of those found before. -/
abbrev memberInto (reader : Reader α) (found : List (String × α)) (key : String) : Reader (List (String × α)) :=
  return (key, ← memberValue key reader) :: found

section

variable {texts : List (List UInt8)} {m : String × α} {ms : List (String × α)}

theorem takes_membersFrom_end (member : σ → String → Reader σ) (left : List UInt8) (isFirst : Bool) (s : σ)
    (rest : List UInt8) : Takes (membersFrom member left isFirst s) [] (125 :: rest) s := by
  cases left with
  | nil => exact Takes.bind_look (takes_key?_end isFirst rest) (takes_pure s _)
  | cons b left => exact Takes.bind_look (takes_key?_end isFirst rest) (takes_pure s _)

/-- One member, with its comma unless it is the first one, and the members behind it. -/
theorem takes_membersFrom_cons {found found' : List (String × α)} (read : ReadsMember reader front m) (b : UInt8)
    (left : List UInt8) (isFirst : Bool) (ends : EndsValue (behind ++ rest))
    (following : Takes (membersFrom (memberInto reader) left false (m :: found)) behind rest found') :
    Takes (membersFrom (memberInto reader) (b :: left) isFirst found)
      ((if isFirst then [] else [44]) ++ (front ++ behind)) rest found' := by
  obtain @⟨keyText, text, key, a, readsKey, reads⟩ := read
  have opening := takes_key? readsKey isFirst (58 :: text ++ behind ++ rest)
  have step := (takes_memberValue (reads.takes _ ends) key).bind_pure fun a => (key, a) :: found
  rw [List.append_assoc, ← List.append_assoc]
  exact opening.bind (step.bind following)

/-- The members behind the first one. -/
theorem takes_membersFrom (reads : List.Forall₂ (ReadsMember reader) texts ms) (rest : List UInt8) :
    ∀ (left : List UInt8) (found : List (String × α)), texts.length ≤ left.length →
      Takes (membersFrom (memberInto reader) left false found) (texts.flatMap (44 :: ·)) (125 :: rest)
        (ms.reverse ++ found) := by
  induction reads with
  | nil =>
    intro left found room
    exact takes_membersFrom_end _ left false found rest
  | @cons text m texts ms read others ih =>
    intro left found room
    obtain ⟨b, left, rfl⟩ := List.exists_cons_of_length_pos (Nat.lt_of_lt_of_le (Nat.succ_pos _) room)
    have following := ih left (m :: found) (Nat.le_of_succ_le_succ room)
    rw [List.flatMap_cons, List.reverse_cons, List.append_assoc]
    exact takes_membersFrom_cons read b left false (endsValue_flatMap texts (.inr rfl) rest) following

/-- The members of a map are taken one by one; the last one comes first in the result. -/
theorem takes_members (reads : List.Forall₂ (ReadsMember reader) texts ms) (rest : List UInt8) :
    Takes (members (memberInto reader) []) ([44].intercalate texts) (125 :: rest) ms.reverse := by
  refine Takes.bind_look takes_remaining ?_
  cases reads with
  | nil => exact takes_membersFrom_end _ _ true [] rest
  | @cons text m texts ms read others =>
    obtain ⟨b, inside, rfl⟩ := read.eq_cons
    have following := takes_membersFrom others rest _ [m] (room_behind inside texts 125 rest)
    rw [Text.intercalate_cons_eq, List.append_assoc, List.cons_append, List.reverse_cons]
    exact takes_membersFrom_cons read b _ true (endsValue_flatMap texts (.inr rfl) rest) following

/-- One member whose value is refused. -/
theorem fails_membersFrom_here (refuses : RefusesMember reader front) (b : UInt8) (left : List UInt8) (isFirst : Bool)
    (found : List (String × α)) (rest : List UInt8) :
    Fails (membersFrom (memberInto reader) (b :: left) isFirst found)
      ((if isFirst then [] else [44]) ++ (front ++ rest)) := by
  obtain @⟨keyText, text, key, readsKey, refuses⟩ := refuses
  have opening := takes_key? readsKey isFirst (58 :: (text ++ rest))
  have value := fails_memberValue (refuses.fails rest) key
  have step := (value.bind fun a => pure ((key, a) :: found)).bind (membersFrom (memberInto reader) left false)
  rw [List.append_assoc, ← List.append_assoc]
  exact opening.bind_fails step

theorem fails_membersFrom_later {found : List (String × α)} (read : ReadsMember reader front m) (b : UInt8)
    (left : List UInt8) (isFirst : Bool) (ends : EndsValue rest)
    (following : Fails (membersFrom (memberInto reader) left false (m :: found)) rest) :
    Fails (membersFrom (memberInto reader) (b :: left) isFirst found)
      ((if isFirst then [] else [44]) ++ (front ++ rest)) := by
  obtain @⟨keyText, text, key, a, readsKey, reads⟩ := read
  have opening := takes_key? readsKey isFirst (58 :: text ++ rest)
  have step := (takes_memberValue (reads.takes _ ends) key).bind_pure fun a => (key, a) :: found
  rw [List.append_assoc, ← List.append_assoc]
  exact opening.bind_fails (step.bind_fails following)

theorem fails_membersFrom (stops : Stops (fun text => ∃ m, ReadsMember reader text m) (RefusesMember reader) texts)
    (rest : List UInt8) :
    ∀ (left : List UInt8) (found : List (String × α)), texts.length ≤ left.length →
      Fails (membersFrom (memberInto reader) left false found) (texts.flatMap (44 :: ·) ++ 125 :: rest) := by
  induction stops with
  | @here text texts refuses =>
    intro left found room
    obtain ⟨b, left, rfl⟩ := List.exists_cons_of_length_pos (Nat.lt_of_lt_of_le (Nat.succ_pos _) room)
    rw [List.flatMap_cons, List.cons_append, List.cons_append, List.append_assoc]
    exact fails_membersFrom_here refuses b left false found _
  | @later text texts read stops ih =>
    intro left found room
    obtain ⟨b, left, rfl⟩ := List.exists_cons_of_length_pos (Nat.lt_of_lt_of_le (Nat.succ_pos _) room)
    obtain ⟨m, read⟩ := read
    have following := ih left (m :: found) (Nat.le_of_succ_le_succ room)
    rw [List.flatMap_cons, List.cons_append, List.cons_append, List.append_assoc]
    exact fails_membersFrom_later read b left false (endsValue_flatMap texts (.inr rfl) rest) following

/-- A map of which a member is refused. -/
theorem fails_members (stops : Stops (fun text => ∃ m, ReadsMember reader text m) (RefusesMember reader) texts)
    (rest : List UInt8) : Fails (members (memberInto reader) []) ([44].intercalate texts ++ 125 :: rest) := by
  refine takes_remaining.look_fails ?_
  cases stops with
  | @here text texts refuses =>
    obtain ⟨b, inside, rfl⟩ := refuses.eq_cons
    rw [Text.intercalate_cons_eq, List.append_assoc, List.cons_append]
    exact fails_membersFrom_here refuses b _ true [] _
  | @later text texts read stops =>
    obtain ⟨m, read⟩ := read
    obtain ⟨b, inside, rfl⟩ := read.eq_cons
    have following := fails_membersFrom stops rest _ [m] (room_behind inside texts 125 rest)
    rw [Text.intercalate_cons_eq, List.append_assoc, List.cons_append]
    exact fails_membersFrom_later read b _ true (endsValue_flatMap texts (.inr rfl) rest) following

end

end SchemaBindings.Json.Reader
