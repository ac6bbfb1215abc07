import SchemaBindings.Command.Arguments
import SchemaBindings.Source.Layout
import SchemaBindings.Text.Quoted

/-!
# Invocations as text

The text that shows how a command line was understood: a tree of named parts, one line per part.
-/

namespace SchemaBindings.Trace

/-- The lines of a part; `label` stands before its value. -/
abbrev Part := (label : String) → Layout

def inline (value : String) : Part := fun label =>
  .line (label ++ value ++ ",")

/-- A value with parts of its own between its marks. -/
def enclosed (opening closing : String) (parts : List Layout) : Part := fun label =>
  .block (label ++ opening) (closing ++ ",") parts

/-- A value that may be absent. -/
def optional : Option String → Part
  | none => inline "None"
  | some value => enclosed "Some(" ")" [inline value ""]

def named (name : String) (part : Part) : Layout :=
  part (name ++ ": ")

def truth (b : Bool) : String :=
  if b then "true" else "false"

def targetName : TargetName → String
  | .go => "Go"
  | .rust => "Rust"

def policyName : NamingPolicy → String
  | .flat => "Flat"
  | .qualified => "Qualified"
  | .auto => "Auto"

def settingsPart (s : InputSettings) : Part :=
  enclosed "InputSettings \x7b" "\x7d" [
    named "input" (enclosed "[" "]" (s.inputs.map fun input => inline (Text.quoteUnprintable input) "")),
    named "config" (optional (s.config.map Text.quoteUnprintable)),
    named "target" (optional (s.target.map targetName)),
    named "naming" (optional (s.policy.map policyName)),
    named "separator" (optional (s.separator.map Text.quoteUnprintable)),
    named "max_tuple_arity" (optional (s.maxTupleArity.map toString)),
    named "package" (optional (s.package.map Text.quoteUnprintable)),
    named "strict" (inline (truth s.strict))]

def taskPart : Task → Part
  | .check s =>
    enclosed "Check(" ")" [
      enclosed "CheckCmd \x7b" "\x7d" [named "input_settings" (settingsPart s)] ""]
  | .generate s out isTrial =>
    enclosed "Generate(" ")" [
      enclosed "GenerateCmd \x7b" "\x7d" [
        named "input_settings" (settingsPart s),
        named "out" (inline (Text.quoteUnprintable out)),
        named "no_op" (inline (truth isTrial))] ""]

def layout (i : Invocation) : Layout :=
  .block "CommandLineInterface \x7b" "\x7d" [
    named "verbose" (inline (toString i.verbosity)), named "cmd" (taskPart i.task)]

/-- The text that shows an invocation, without a line break at its end. -/
def text (i : Invocation) : String :=
  String.ofList ((layout i).render "    " 0).toList.dropLast

end SchemaBindings.Trace
