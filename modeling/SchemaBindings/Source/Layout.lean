import SchemaBindings.Text.Line

/-!
# Source text as a tree of lines

Generated source is a tree of lines and indented blocks; `render` is the only place where it becomes text.

* A line is indented by its depth; an empty line is not.
* A comment has one line per line of its text, without blanks at the end.
* Text that is rendered already is embedded line by line.
-/

namespace SchemaBindings

/-- A piece of source text. -/
inductive Layout where
  | line (text : String)
  | blank
  /-- Text that is rendered already. -/
  | embed (text : String)
  /-- A comment, or none, with the marker of its lines. -/
  | comment (marker : String) (text : Option String)
  | indent (body : List Layout)
  /-- A body between two lines. -/
  | block (opening closing : String) (body : List Layout)
deriving Repr

namespace Layout

/-- A block in braces behind a head. -/
def braced (head : String) (body : List Layout) : Layout :=
  .block (head ++ " \x7b") "\x7d" body

/-! ## Rendering -/

def renderLine (unit : String) (depth : Nat) (text : String) : String :=
  if text = "" then "\n" else String.join (List.replicate depth unit) ++ text ++ "\n"

def commentLines (marker text : String) : List String :=
  (Text.lines text).map fun line =>
    let trimmed := Text.trimEnd line.toList
    if trimmed = [] then marker else marker ++ " " ++ String.ofList trimmed

mutual

/-- The text of a piece at a depth; `unit` is the indentation of one level. -/
def render (unit : String) (depth : Nat) : Layout → String
  | line text => renderLine unit depth text
  | blank => "\n"
  | embed text => String.join ((Text.lines text).map (renderLine unit depth))
  | comment _ none => ""
  | comment marker (some text) =>
    String.join ((commentLines marker text).map (renderLine unit depth))
  | indent body => renderAll unit (depth + 1) body
  | block opening closing body =>
    renderLine unit depth opening ++ renderAll unit (depth + 1) body ++ renderLine unit depth closing

def renderAll (unit : String) (depth : Nat) : List Layout → String
  | [] => ""
  | piece :: rest => piece.render unit depth ++ renderAll unit depth rest

end

def text (unit : String) (pieces : List Layout) : String :=
  renderAll unit 0 pieces

/-! ## Increments

The text grows piece by piece. An indented body has grown it by nothing more when it ends; a block grows
it by its first line, its body and its last line. -/

mutual

/-- What each step of a piece adds to the text. -/
def increments (unit : String) (depth : Nat) : Layout → List String
  | indent body => incrementsAll unit (depth + 1) body ++ [""]
  | block opening closing body =>
    renderLine unit depth opening :: incrementsAll unit (depth + 1) body ++
      [renderLine unit depth closing]
  | line text => [(line text).render unit depth]
  | blank => [blank.render unit depth]
  | embed text => [(embed text).render unit depth]
  | comment marker text => [(comment marker text).render unit depth]

/-- What each step of several pieces adds to the text. -/
def incrementsAll (unit : String) (depth : Nat) : List Layout → List String
  | [] => []
  | piece :: rest => piece.increments unit depth ++ incrementsAll unit depth rest

end

example : text "\t" [braced "type A struct" [line "X int", blank, line "Y int"]] =
    "type A struct \x7b\n\tX int\n\n\tY int\n\x7d\n" := by decide +kernel
example : text "  " [indent [comment "//" (some "First.\n\nSecond.  ")]] =
    "  // First.\n  //\n  // Second.\n" := by decide +kernel

end Layout

end SchemaBindings
