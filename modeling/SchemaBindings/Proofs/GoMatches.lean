import SchemaBindings.Proofs.EmittedNames
import SchemaBindings.Proofs.UnionTexts

/-!
# Match functions in Go source

A reader of unions. It reads the interface with what it binds and its methods, then the type parameters and the parameters
of the match function up to its result, and then the cases of its type switch up to the end of the switch, so that no
handler and no case is passed over. A union without handlers has no switch.

The source of a union is read as its type, its marker method and its alternatives (`readUnion_contractLayout`), and what
stands behind the record of a variant as the marker method alone (`readMethods_markerText`).
-/

namespace SchemaBindings.Go

open SourceReader

/-! ## Reading -/

/-- What the text of a match function states: its name, its type parameters, the type of the value, the handlers with
the types that they take and return, the type of the result, and the cases with the handlers that they call. -/
structure MatchText where
  name : String
  parameters : List String
  value : TypeUse
  handlers : List (String × TypeUse × String)
  result : String
  cases : List (TypeUse × String)

/-- The name of a method and the types of its parameters. -/
def readMethod : SourceReader Method := do
  let name ← word isIdentifierChar
  exactly "("
  let parameters ← TargetName.go.readTypeUses
  exactly ")"
  return ⟨name, parameters⟩

/-- The line of a method in an interface. -/
def readMethodLine : SourceReader Method := do
  exactly "\t"
  let method ← readMethod
  exactly "\n"
  return method

/-- An interface: its type with what it binds, and its methods. -/
def readInterface : SourceReader (TypeUse × List Method) := do
  remarks "//"
  exactly "type "
  let type ← TargetName.go.readBoundType
  exactly " interface \x7b\n"
  let methods ← many readMethodLine
  exactly "\x7d\n"
  return (type, methods)

/-- A parameter that takes a handler: its name, and the types that the handler takes and returns. -/
def readHandlerParameter : SourceReader (String × TypeUse × String) := do
  exactly ", "
  let name ← word isIdentifierChar
  exactly " func("
  let type ← TargetName.go.readTypeUse
  exactly ") "
  let result ← word isIdentifierChar
  return (name, type, result)

/-- A case that returns what a handler makes of the value. -/
def readCase : SourceReader (TypeUse × String) := do
  exactly "\tcase "
  let type ← TargetName.go.readTypeUse
  exactly ":\n\t\treturn "
  let handler ← word isIdentifierChar
  exactly "(v)\n"
  return (type, handler)

/-- The cases of a type switch; without handlers there is none. -/
def readSwitch : SourceReader (List (TypeUse × String)) :=
  (do
    exactly "\tswitch v := value.(type) \x7b\n"
    let cases ← many readCase
    exactly "\t\x7d\n"
    return cases) <|> (do
    exactly "\t_ = value\n"
    return [])

def panicText (identifier : String) (isEmpty : Bool) : String :=
  if isEmpty then "panic(\"unreachable: " ++ identifier ++ " has no variants\")"
  else "panic(\"unreachable: " ++ identifier ++ " is sealed\")"

def readMatchFunction : SourceReader MatchText := do
  remarks "//"
  exactly "func Match"
  let function ← TargetName.go.readBoundType
  exactly "(value "
  let value ← TargetName.go.readTypeUse
  let handlers ← many readHandlerParameter
  exactly ") "
  let result ← word isIdentifierChar
  exactly " \x7b\n"
  let cases ← readSwitch
  exactly ("\t" ++ panicText function.name cases.isEmpty ++ "\n\x7d\n")
  return ⟨function.name, function.arguments, value, handlers, result, cases⟩

/-- A union: its interface and its match function, which takes a value of the union and returns what the handlers do. -/
def readUnion : SourceReader UnionText := do
  let (type, methods) ← readInterface
  exactly "\n"
  let text ← readMatchFunction
  guard (text.name = type.name ∧ text.value = type ∧ ∀ h ∈ text.handlers, h.2.2 = text.result)
  return ⟨type, methods, text.handlers.map fun h => (h.1, h.2.1), text.parameters, text.cases⟩

/-- A method with its receiver, which does nothing. -/
def readReceived : SourceReader (TypeUse × Method) := do
  exactly "\nfunc ("
  let receiver ← TargetName.go.readTypeUse
  exactly ") "
  let method ← readMethod
  exactly " \x7b\x7d\n"
  return (receiver, method)

/-! ## Methods -/

section

variable {identifier : String} {rest : List Char}

theorem isName_markerName (named : IsName identifier) : IsName (markerName identifier) :=
  named.append (List.all_eq_true.1 (by decide))

theorem readMethod_marker (named : IsName identifier) (rest : List Char) :
    readMethod.run ((markerName identifier ++ "()").toList ++ rest) = some (markerMethod identifier, rest) := by
  have parts : (markerName identifier ++ "()").toList ++ rest =
      (markerName identifier).toList ++ ("(".toList ++ (")".toList ++ rest)) := by
    simp
  rw [parts, readMethod, run_bind_of ((isName_markerName named).read (by decide) _), run_bind_of (exactly_append _ _),
    run_bind_of (TargetName.go.readTypeUses_none (ends_toList (by decide) _)), run_bind_of (exactly_append _ _)]
  rfl

/-- Behind the record of a variant the marker method is read, and nothing else. -/
theorem readMethods_markerText {type : TypeUse} (marked : IsName identifier) (named : type.Named) :
    (many readReceived).run (markerText identifier type.name type.arguments).toList =
      some ([(type, markerMethod identifier)], []) := by
  have text : (markerText identifier type.name type.arguments).toList =
      "\nfunc (".toList ++ ((TargetName.go.useText type).toList ++ (") ".toList ++
        ((markerName identifier ++ "()").toList ++ " \x7b\x7d\n".toList))) := by
    show ("\nfunc (" ++ type.name ++ typeArguments type.arguments ++ ") " ++ markerName identifier ++
      "() \x7b\x7d\n").toList = ("\nfunc (".toList ++ ((type.name ++ typeArguments type.arguments).toList ++ _))
    simp
  have reads : ∀ tail, readReceived.run ((markerText identifier type.name type.arguments).toList ++ tail) =
      some ((type, markerMethod identifier), tail) := by
    intro tail
    rw [text]
    simp only [List.append_assoc]
    rw [readReceived, run_bind_of (exactly_append _ _),
      run_bind_of (TargetName.go.readTypeUse_useText named (ends_toList (by decide) _) rfl),
      run_bind_of (exactly_append _ _), run_bind_of (readMethod_marker marked _), run_bind_of (exactly_append _ _)]
    rfl
  have refused : readReceived.run [] = none := run_bind_refused _ (exactly_refused rfl)
  have filled : (markerText identifier type.name type.arguments).toList ≠ [] := by
    rw [text]
    simp
  have whole : (many readReceived).run
      ([(type, markerMethod identifier)].flatMap
        (fun _ => (markerText identifier type.name type.arguments).toList) ++ []) =
          some ([(type, markerMethod identifier)].map id, []) :=
    run_many id (List.forall_mem_singleton.2 filled) (List.forall_mem_singleton.2 reads) refused
  rwa [List.flatMap_singleton, List.append_nil] at whole

end

/-! ## Interfaces -/

/-- A comment and the lines behind it that begin like it are remarks. -/
theorem remarks_headed (comment : Option String) {remark : String} (single : OneLine remark)
    (begins : "//".toList <+: remark.toList) {rest : List Char} (other : "//".toList.isPrefixOf rest = false) :
    (remarks "//").run ((Layout.renderAll indentation 0 [.comment "//" comment, .line remark]).toList ++ rest) =
      some ((), rest) := by
  rw [Layout.renderAll_eq]
  refine remarks_join (by decide) (fun line among => ?_) other
  rw [Layout.lineTextsAll_eq_flatMap, List.flatMap_cons, List.flatMap_singleton] at among
  rcases List.mem_append.1 among with inside | last
  · cases comment with
    | none => exact absurd inside List.not_mem_nil
    | some comment =>
      obtain ⟨source, member, rfl⟩ := List.mem_map.1 inside
      rw [Layout.indented_zero]
      exact ⟨Layout.oneLine_of_mem_commentLines (by decide) member, commentLines_begin member⟩
  · rw [List.mem_singleton.1 last, Layout.indented_zero]
    exact ⟨single, begins⟩

/-- The layout of an interface with a marker method, and a remark about it. -/
def interfaceLayout (type : TypeUse) (comment : Option String) : List Layout :=
  [.comment "//" comment,
    .line ("// " ++ type.name ++ " is sealed: its variants are the types declared with it."),
    .braced ("type " ++ type.name ++ TargetName.go.binderText type.arguments ++ " interface")
      [.line (markerName type.name ++ "()")]]

/-- An interface with a marker method is read as its type and this method. -/
theorem readInterface_interfaceLayout {type : TypeUse} (bound : type.Named) (comment : Option String)
    (rest : List Char) :
    readInterface.run ((Layout.renderAll indentation 0 (interfaceLayout type comment)).toList ++ rest) =
      some ((type, [markerMethod type.name]), rest) := by
  let line := "\t".toList ++ ((markerName type.name ++ "()").toList ++ "\n".toList)
  let behind := " interface \x7b\n".toList ++
    ([markerMethod type.name].flatMap (fun _ => line) ++ ("\x7d\n".toList ++ rest))
  let head := "type ".toList ++ (type.name.toList ++ ((TargetName.go.binderText type.arguments).toList ++ behind))
  let remark := "// " ++ type.name ++ " is sealed: its variants are the types declared with it."
  have filled : markerName type.name ++ "()" ≠ "" := (isName_markerName bound.name).append_ne_empty _
  have text : (Layout.renderAll indentation 0 (interfaceLayout type comment)).toList ++ rest =
      (Layout.renderAll indentation 0 [.comment "//" comment, .line remark]).toList ++ head := by
    simp only [interfaceLayout, Layout.renderAll, String.toList_append, Layout.render_braced_zero,
      Layout.render_line filled]
    simp [head, behind, line, remark, indentation]
  have single : OneLine remark := by simp +decide [remark, bound.name.oneLine]
  have begins : "//".toList <+: remark.toList := ⟨_, by simp [remark]; rfl⟩
  have other : "//".toList.isPrefixOf head = false := rfl
  have ends : Text.Ends isIdentifierChar behind := Text.ends_cons (by decide) _
  have reads : ∀ tail, readMethodLine.run (line ++ tail) = some (markerMethod type.name, tail) := by
    intro tail
    rw [List.append_assoc, List.append_assoc, readMethodLine, run_bind_of (exactly_append _ _),
      run_bind_of (readMethod_marker bound.name _), run_bind_of (exactly_append _ _)]
    rfl
  have refused : readMethodLine.run ("\x7d\n".toList ++ rest) = none := run_bind_refused _ (exactly_refused rfl)
  have methods : (many readMethodLine).run
      ([markerMethod type.name].flatMap (fun _ => line) ++ ("\x7d\n".toList ++ rest)) =
        some ([markerMethod type.name].map id, "\x7d\n".toList ++ rest) :=
    run_many id (List.forall_mem_singleton.2 (by simp [line])) (List.forall_mem_singleton.2 reads) refused
  rw [text, readInterface, run_bind_of (remarks_headed comment single begins other), run_bind_of (exactly_append _ _),
    run_bind_of (TargetName.go.readBoundType_append bound ends rfl), run_bind_of (exactly_append _ _),
    run_bind_of methods, run_bind_of (exactly_append _ _)]
  rfl

/-! ## Match functions -/

def handlerText (result : String) (a : String × TypeUse) : String :=
  a.1 ++ " func(" ++ TargetName.go.useText a.2 ++ ") " ++ result

theorem isName_resultParameter (generics : List String) : IsName (resultParameter generics) := by
  have known : ∀ name ∈ ["R", "Result", "Out", "MatchResult"], isIdentifier name := by decide +kernel
  exact isName_of_isIdentifier (known _ (resultParameter_mem generics))

section

variable {alternatives : List (String × TypeUse)}

/-- The parameters that take the handlers are read back, with the type of the result. -/
theorem readHandlerParameters_flatMap (named : ∀ a ∈ alternatives, NamedAlternative a) {result : String}
    (results : IsName result) {rest : List Char} (ends : Text.Ends isIdentifierChar rest)
    (last : ", ".toList.isPrefixOf rest = false) :
    (many readHandlerParameter).run
      ((alternatives.flatMap fun a => (", " ++ handlerText result a).toList) ++ rest) =
        some (alternatives.map fun a => (a.1, a.2, result), rest) := by
  have reads : ∀ a ∈ alternatives, ∀ tail, Text.Ends isIdentifierChar tail → readHandlerParameter.run
      ((", " ++ handlerText result a).toList ++ tail) = some ((a.1, a.2, result), tail) := by
    intro a among tail ends
    have parts : (", " ++ handlerText result a).toList ++ tail =
        ", ".toList ++ (a.1.toList ++ (" func(".toList ++ ((TargetName.go.useText a.2).toList ++
          (") ".toList ++ (result.toList ++ tail))))) := by
      simp [handlerText]
    rw [parts, readHandlerParameter, run_bind_of (exactly_append _ _),
      run_bind_of ((named a among).name.read (by decide) _), run_bind_of (exactly_append _ _),
      run_bind_of (TargetName.go.readTypeUse_useText (named a among).type (ends_toList (by decide) _) rfl),
      run_bind_of (exactly_append _ _), run_bind_of (word_append results.inside results.nonempty ends)]
    rfl
  have between : ∀ a ∈ alternatives, ∀ tail,
      Text.Ends isIdentifierChar ((", " ++ handlerText result a).toList ++ tail) := by
    intro a _ tail
    rw [String.toList_append, List.append_assoc]
    exact Text.ends_cons (by decide) _
  have refused : readHandlerParameter.run rest = none := run_bind_refused _ (exactly_refused last)
  exact (run_many_of_follows _ (Text.Ends isIdentifierChar) between ends (fun _ _ => by simp) reads refused).2

def caseLayout (a : String × TypeUse) : List Layout :=
  [.line ("case " ++ TargetName.go.useText a.2 ++ ":"), .indent [.line ("return " ++ a.1 ++ "(v)")]]

theorem readCase_render {a : String × TypeUse} (named : NamedAlternative a) (rest : List Char) :
    readCase.run ((Layout.renderAll indentation 1 (caseLayout a)).toList ++ rest) = some (a.swap, rest) := by
  have text : (Layout.renderAll indentation 1 (caseLayout a)).toList ++ rest =
      "\tcase ".toList ++ ((TargetName.go.useText a.2).toList ++
        (":\n\t\treturn ".toList ++ (a.1.toList ++ ("(v)\n".toList ++ rest)))) := by
    have filled : "case " ++ TargetName.go.useText a.2 ++ ":" ≠ "" := append_ne_empty (by decide) _
    have filled' : "return " ++ a.1 ++ "(v)" ≠ "" := append_ne_empty (by decide) _
    simp [caseLayout, Layout.renderAll, Layout.render, Layout.renderLine, filled, filled', indentation]
  rw [text, readCase, run_bind_of (exactly_append _ _),
    run_bind_of (TargetName.go.readTypeUse_useText named.type (ends_toList (by decide) _) rfl),
    run_bind_of (exactly_append _ _), run_bind_of (named.name.read (by decide) _), run_bind_of (exactly_append _ _)]
  rfl

/-- The lines in front of the panic: a type switch, or a use of the value if there are no cases. -/
def switchLayout (alternatives : List (String × TypeUse)) : List Layout :=
  if alternatives.isEmpty then [.line "_ = value"]
  else .line "switch v := value.(type) \x7b" :: alternatives.flatMap caseLayout ++ [.line "\x7d"]

theorem readSwitch_render (named : ∀ a ∈ alternatives, NamedAlternative a) (rest : List Char) :
    readSwitch.run ((Layout.renderAll indentation 1 (switchLayout alternatives)).toList ++ rest) =
      some (alternatives.map Prod.swap, rest) := by
  unfold switchLayout
  split
  · next empty =>
    rw [List.isEmpty_iff] at empty
    subst empty
    exact (run_orElse_refused (run_bind_refused _ (exactly_refused rfl))).trans (run_bind_of (exactly_append _ _))
  · have text : (Layout.renderAll indentation 1 (.line "switch v := value.(type) \x7b" ::
        alternatives.flatMap caseLayout ++ [.line "\x7d"])).toList ++ rest =
        "\tswitch v := value.(type) \x7b\n".toList ++
          ((alternatives.flatMap fun a => (Layout.renderAll indentation 1 (caseLayout a)).toList) ++
            ("\t\x7d\n".toList ++ rest)) := by
      rw [List.cons_append, Layout.renderAll, Layout.renderAll_append, String.toList_append, String.toList_append,
        Layout.renderAll_flatMap]
      simp [Layout.renderAll, Layout.render, Layout.renderLine, indentation]
    have filled : ∀ a ∈ alternatives, (Layout.renderAll indentation 1 (caseLayout a)).toList ≠ [] := by
      intro a _
      have filled : "case " ++ TargetName.go.useText a.2 ++ ":" ≠ "" := append_ne_empty (by decide) _
      rw [caseLayout, Layout.renderAll, Layout.render_line filled]
      simp
    have cases := run_many Prod.swap filled (fun a among => readCase_render (named a among))
      (run_bind_refused _ (exactly_refused rfl) : readCase.run ("\t\x7d\n".toList ++ rest) = none)
    rw [text]
    refine run_orElse_of ?_
    rw [run_bind_of (exactly_append _ _), run_bind_of cases, run_bind_of (exactly_append _ _)]
    rfl

/-- The head of a match function with the alternatives. -/
def matchHead (type : TypeUse) (alternatives : List (String × TypeUse)) : String :=
  let result := resultParameter type.arguments
  "func Match" ++ type.name ++ TargetName.go.binderText (type.arguments ++ [result]) ++ "(" ++
    ", ".intercalate (("value " ++ TargetName.go.useText type) :: alternatives.map (handlerText result)) ++ ") " ++ result

def matchLayout (type : TypeUse) (alternatives : List (String × TypeUse)) : List Layout :=
  [.line ("// Match" ++ type.name ++ " calls the handler of the variant held by value."),
    .braced (matchHead type alternatives)
      (switchLayout alternatives ++ [.line (panicText type.name alternatives.isEmpty)])]

/-- What the match function of a union states. -/
def matchText (type : TypeUse) (alternatives : List (String × TypeUse)) : MatchText where
  name := type.name
  parameters := type.arguments ++ [resultParameter type.arguments]
  value := type
  handlers := alternatives.map fun a => (a.1, a.2, resultParameter type.arguments)
  result := resultParameter type.arguments
  cases := alternatives.map Prod.swap

/-- The lines of a match function behind its head. -/
def bodyText (type : TypeUse) (alternatives : List (String × TypeUse)) : List Char :=
  (Layout.renderAll indentation 1 (switchLayout alternatives)).toList ++
    ("\t" ++ panicText type.name alternatives.isEmpty ++ "\n\x7d\n").toList

theorem matchHead_toList (type : TypeUse) (alternatives : List (String × TypeUse)) :
    (matchHead type alternatives).toList = "func Match".toList ++ (type.name.toList ++
      ((TargetName.go.binderText (type.arguments ++ [resultParameter type.arguments])).toList ++
        ("(value ".toList ++ ((TargetName.go.useText type).toList ++
          ((alternatives.flatMap fun a => (", " ++ handlerText (resultParameter type.arguments) a).toList) ++
            (") ".toList ++ (resultParameter type.arguments).toList)))))) := by
  unfold matchHead
  dsimp only
  rw [String.toList_append, String.toList_append, String.toList_append, String.toList_intercalate, List.map_cons,
    Text.intercalate_cons_eq]
  simp [List.flatMap_map]

/-- Behind its remark stands a match function. -/
theorem remarks_matchLayout {type : TypeUse} (named : IsName type.name) (alternatives : List (String × TypeUse)) :
    (remarks "//").run (Layout.renderAll indentation 0 (matchLayout type alternatives)).toList =
      some ((), (matchHead type alternatives).toList ++ (" \x7b\n".toList ++ bodyText type alternatives)) := by
  let remark := "// Match" ++ type.name ++ " calls the handler of the variant held by value."
  have filled : panicText type.name alternatives.isEmpty ≠ "" := by
    unfold panicText
    split
    · exact append_ne_empty (by decide) _
    · exact append_ne_empty (by decide) _
  have text : (Layout.renderAll indentation 0 (matchLayout type alternatives)).toList =
      (Layout.renderAll indentation 0 [.comment "//" none, .line remark]).toList ++
        ((matchHead type alternatives).toList ++ (" \x7b\n".toList ++ bodyText type alternatives)) := by
    rw [matchLayout, Layout.renderAll, Layout.renderAll, Layout.renderAll, String.toList_append, String.toList_append,
      Layout.render_braced_zero, Layout.renderAll_append, Layout.renderAll, Layout.renderAll,
      Layout.render_line filled, Layout.renderAll, Layout.renderAll, Layout.renderAll, Layout.render]
    simp [bodyText, indentation, Layout.render]
  have single : OneLine remark := by simp +decide [remark, named.oneLine]
  have begins : "//".toList <+: remark.toList := ⟨_, by simp [remark]; rfl⟩
  have other : "//".toList.isPrefixOf
      ((matchHead type alternatives).toList ++ (" \x7b\n".toList ++ bodyText type alternatives)) = false := by
    rw [matchHead_toList]
    rfl
  rw [text]
  exact remarks_headed none single begins other

/-- A match function is read as it has been written. -/
theorem readMatchFunction_matchLayout {type : TypeUse} (bound : type.Named)
    (each : ∀ a ∈ alternatives, NamedAlternative a) :
    readMatchFunction.run (Layout.renderAll indentation 0 (matchLayout type alternatives)).toList =
      some (matchText type alternatives, []) := by
  let result := resultParameter type.arguments
  let returned := ") ".toList ++ (result.toList ++ (" \x7b\n".toList ++ bodyText type alternatives))
  let handlers := (alternatives.flatMap fun a => (", " ++ handlerText result a).toList) ++ returned
  let value := "(value ".toList ++ ((TargetName.go.useText type).toList ++ handlers)
  have results : IsName result := isName_resultParameter type.arguments
  have function : TypeUse.Named ⟨type.name, type.arguments ++ [result]⟩ :=
    ⟨bound.name, List.forall_mem_append.2 ⟨bound.arguments, List.forall_mem_singleton.2 results⟩⟩
  have head : (matchHead type alternatives).toList ++ (" \x7b\n".toList ++ bodyText type alternatives) =
      "func Match".toList ++ (type.name.toList ++
        ((TargetName.go.binderText (type.arguments ++ [result])).toList ++ value)) := by
    rw [matchHead_toList]
    simp only [List.append_assoc, value, handlers, returned, result]
  have opens : Text.Ends isIdentifierChar handlers ∧ "[".toList.isPrefixOf handlers = false := by
    cases alternatives with
    | nil => exact ⟨Text.ends_cons (by decide) _, rfl⟩
    | cons a others =>
      simp only [handlers, List.flatMap_cons, String.toList_append, List.append_assoc]
      exact ⟨Text.ends_cons (by decide) _, rfl⟩
  have ends : Text.Ends isIdentifierChar value := Text.ends_cons (by decide) _
  have unopened : "[".toList.isPrefixOf value = false := rfl
  have last : ("\t" ++ panicText type.name alternatives.isEmpty ++ "\n\x7d\n").toList =
      ("\t" ++ panicText type.name (alternatives.map Prod.swap).isEmpty ++ "\n\x7d\n").toList ++ [] := by
    rw [List.isEmpty_map, List.append_nil]
  rw [readMatchFunction, run_bind_of (remarks_matchLayout bound.name alternatives), head,
    run_bind_of (exactly_append _ _), run_bind_of (TargetName.go.readBoundType_append function ends unopened),
    run_bind_of (exactly_append _ _),
    run_bind_of (TargetName.go.readTypeUse_useText bound opens.1 opens.2),
    run_bind_of (readHandlerParameters_flatMap each results (ends_toList (by decide) _) rfl),
    run_bind_of (exactly_append _ _), run_bind_of (results.read (by decide) _), run_bind_of (exactly_append _ _),
    bodyText, last, run_bind_of (readSwitch_render each _), run_bind_of (exactly_append _ _)]
  rfl

end

/-! ## Unions -/

theorem handlers_eq (u : Union TypeRef) (names : List String) :
    handlers u names = (TargetName.go.alternatives u names).map fun a => ⟨a.1, TargetName.go.useText a.2⟩ := by
  rw [TargetName.alternatives, List.map_map]
  rfl

section

variable {u : Union TypeRef} {names : DeclarationNames}

/-- The layout of a union, by its alternatives. -/
theorem contractLayout_eq (u : Union TypeRef) (names : DeclarationNames) :
    contractLayout u names = interfaceLayout ⟨names.identifier, u.generics⟩ u.comment ++
      .blank :: matchLayout ⟨names.identifier, u.generics⟩ (TargetName.go.alternatives u names.variants) := by
  unfold contractLayout matchLayout switchLayout panicText
  rw [handlers_eq]
  simp only [List.isEmpty_map, List.map_map, List.flatMap_map]
  split
  · rfl
  · simp only [List.append_assoc]
    rfl

/-- The interface of a union is read off its source, and the match function is left. -/
theorem readInterface_contractLayout (bound : TypeUse.Named ⟨names.identifier, u.generics⟩) :
    readInterface.run (Layout.text indentation (contractLayout u names)).toList =
      some ((⟨names.identifier, u.generics⟩, [markerMethod names.identifier]), "\n".toList ++
        (Layout.renderAll indentation 0 (matchLayout ⟨names.identifier, u.generics⟩
          (TargetName.go.alternatives u names.variants))).toList) := by
  rw [contractLayout_eq, Layout.text, Layout.renderAll_append, String.toList_append,
    readInterface_interfaceLayout bound, Layout.renderAll, String.toList_append, Layout.render]

/-- The source of a union is read as its type, its marker method and its alternatives. -/
theorem readUnion_contractLayout (bound : TypeUse.Named ⟨names.identifier, u.generics⟩)
    (each : ∀ a ∈ TargetName.go.alternatives u names.variants, NamedAlternative a) :
    readUnion.run (Layout.text indentation (contractLayout u names)).toList =
      some (TargetName.go.unionText ⟨names.identifier, u.generics⟩ (TargetName.go.alternatives u names.variants),
        []) := by
  have returns : ∀ h ∈ (matchText ⟨names.identifier, u.generics⟩
      (TargetName.go.alternatives u names.variants)).handlers, h.2.2 = resultParameter u.generics :=
    List.forall_mem_map.2 fun _ _ => rfl
  rw [readUnion, run_bind_of (readInterface_contractLayout bound), run_bind_of (exactly_append "\n" _),
    run_bind_of (readMatchFunction_matchLayout bound each), run_bind_of (run_guard ⟨rfl, rfl, returns⟩)]
  show some (UnionText.mk _ _ (((TargetName.go.alternatives u names.variants).map _).map _) _ _, _) = _
  rw [List.map_map]
  have same : ((fun h : String × TypeUse × String => (h.1, h.2.1)) ∘ fun a : String × TypeUse =>
      (a.1, a.2, resultParameter u.generics)) = id := rfl
  rw [same, List.map_id]
  rfl

end

end SchemaBindings.Go
