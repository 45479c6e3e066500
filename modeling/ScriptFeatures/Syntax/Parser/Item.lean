import ScriptFeatures.Syntax.Parser.Statement

namespace ScriptFeatures.Syntax.Parse

/-- A name that crosses a module's border: a word or a string. -/
inductive ExternalName where
  | word (name : Name)
  | string (name : Name)

def ExternalName.name : ExternalName → Name
  | word name | string name => name

def externalName : Parse ExternalName := do
  let t ← current
  match t.kind with
  | .word w =>
    bump
    return .word ⟨t.span, w⟩
  | .string value _ =>
    bump
    return .string ⟨t.span, value⟩
  | _ => unexpected "identifier or string"

def moduleName : Parse String := do
  match (← current).kind with
  | .string value _ =>
    bump
    return value
  | _ => unexpected "a string literal"

def importAttributes : Parse (Option Node) := do
  if ← afterNewline then return none
  if (← eatWord "assert") || (← eatWord "with") then return some (← objectLiteral)
  return none

/-- The module that names come from with its attributes, up to the end of the statement. -/
def fromClause : Parse (String × Option Node) := do
  expectWord "from"
  let source ← moduleName
  let attributes ← importAttributes
  expectSemicolon
  return (source, attributes)

def bracedNames {α : Type} (item : Parse α) : Parse (List α) := do
  let names ← collect (before .rightBrace) do
    let name ← item
    let _ ← comma .rightBrace
    return name
  expect .rightBrace
  return names

def importedName : Parse ModuleBinding := do
  let external ← externalName
  let name := external.name
  if ← eatWord "as" then return ⟨name.text, (← bindingName false).text⟩
  match external with
  | .word _ => return ⟨name.text, name.text⟩
  | .string _ => fail (.stringAsImportBinding name.text) name.span.lo

/-- Whether a name before the current token is a phase of importing: `defer` before a star, or
`source` before the name that is bound. -/
def isImportPhase (name : String) : Parse Bool := do
  if name = "defer" then return ← isAt (.operator .multiply)
  if name = "source" then
    let t ← current
    if !startsBinding t then return false
    return !t.isWord "from" || (← peek).isWord "from"
  return false

def importedDefault : Parse (List ModuleBinding) := do
  unless startsBinding (← current) do return []
  let name ← bindingName false
  let isPhase ← isImportPhase name.text
  if isPhase && name.text = "defer" then return []
  let name ← if isPhase then bindingName false else pure name
  unless ← isAtWord "from" do expect .comma
  return [⟨"default", name.text⟩]

def importedNames : Parse (List ModuleBinding) := do
  if ← eat (.operator .multiply) then
    expectWord "as"
    return [⟨"*", (← bindingName false).text⟩]
  if ← eat .leftBrace then return ← bracedNames importedName
  return []

def importDeclaration : Parse Node := do
  let start ← position
  bump
  if let .string source _ := (← current).kind then
    bump
    let attributes ← importAttributes
    expectSemicolon
    return .importDeclaration (← spanFrom start) [] source attributes
  let names := (← importedDefault) ++ (← importedNames)
  let (source, attributes) ← fromClause
  return .importDeclaration (← spanFrom start) names source attributes

/-- A name in the braces of an export. Without a source, `check` tells what is wrong with it. -/
structure ExportedName where
  binding : ModuleBinding
  check : Option Diagnostic

def isReserved (w : String) : Bool := isKeyword w || w = "enum" || w = "package"

def exportedName : Parse ExportedName := do
  let inner ← externalName
  let name := inner.name
  let outer ← if ← eatWord "as" then some <$> externalName else pure none
  let binding := ⟨((outer.getD inner).name).text, name.text⟩
  let check : Option Fault := match inner with
    | .string _ => some .stringAsExportBinding
    | .word _ => if isReserved name.text then some (.exportNeedsSource name.text) else none
  return ⟨binding, check.map (⟨·, name.span.lo⟩)⟩

def sourcedName (external : String) (name : Name) : ExportedName :=
  ⟨⟨external, name.text⟩, some ⟨.exportNeedsSource name.text, name.span.lo⟩⟩

/-- The default export of another module under a name of its own, if one is exported. -/
def exportedDefault (default : Option Name) : Parse (List ExportedName) := do
  match default with
  | some name => return [sourcedName name.text name]
  | none =>
    unless startsBinding (← current) do return []
    let name ← identifier false
    return [sourcedName name.text name]

def exportedNamespace : Parse ExportedName := do
  let start ← position
  bump
  expectWord "as"
  let name := (← externalName).name
  return sourcedName name.text ⟨⟨start, name.span.hi⟩, name.text⟩

/-- An export of names, after its keywords. `default` is the word for the default export of
another module. -/
def exportNames (start : Nat) (default : Option Name) : Parse Node := do
  let defaults ← exportedDefault default
  let star := Punctuator.operator .multiply
  if defaults.isEmpty && (← isAt star) && !(← peek).isWord "as" then
    bump
    let (source, attributes) ← fromClause
    return .exportAll (← spanFrom start) source attributes
  let namespaces ←
    if defaults.isEmpty then
      if ← isAt star then pure [← exportedNamespace] else pure []
    else if (← isAt .comma) && (← peek).is star then
      bump
      pure [← exportedNamespace]
    else pure []
  let unbraced := defaults ++ namespaces
  if !unbraced.isEmpty then
    if ← isAtWord "from" then
      let (source, attributes) ← fromClause
      return .exportNames (← spanFrom start) (unbraced.map (·.binding)) (some source) attributes
    expect .comma
  expect .leftBrace
  let names := unbraced ++ (← bracedNames exportedName)
  let bindings := names.map (·.binding)
  if ← isAtWord "from" then
    let (source, attributes) ← fromClause
    return .exportNames (← spanFrom start) bindings (some source) attributes
  for name in names do
    if let some d := name.check then report d.fault d.offset
  let _ ← eatSemicolon
  return .exportNames (← spanFrom start) bindings none none

def exportedDecorators (outer : List Node) : Parse (List Node) := do
  unless ← isAt .atSign do return outer
  let start ← position
  let inner ← decorators
  unless outer.isEmpty do fail .decoratorsBeforeAndAfterExport start
  return inner

def isAtDefaultFrom : Parse Bool := do
  let next ← peek
  if ← isAtWord "from" then
    match next.kind with
    | .string .. => return true
    | _ => return false
  if ← isAt .comma then return next.is .leftBrace || next.is (.operator .multiply)
  return false

def exportDefault (start : Nat) (word : Name) (outer : List Node) : Parse Node := do
  let decorators ← exportedDecorators outer
  if ← isAtWord "class" then
    let c ← classExpression decorators (← position)
    return .exportDefaultDeclaration (← spanFrom start) c
  if (← isAtAsyncFunction) || (← isAtWord "function") then
    let f ← defaultFunction decorators
    return .exportDefaultDeclaration (← spanFrom start) f
  if ← isAtDefaultFrom then return ← exportNames start (some word)
  let e ← withIn (descend .assignment)
  expectSemicolon
  return .exportDefaultExpression (← spanFrom start) e

def exportDeclaration (outer : List Node) : Parse Node := do
  let start ← position
  bump
  if ← isAtEnd then failHere .endOfInput
  let t ← current
  if ← eatWord "default" then return ← exportDefault start ⟨t.span, "default"⟩ outer
  let decorators ← exportedDecorators outer
  if ← isAtWord "class" then
    let c ← classDeclaration decorators (← position)
    return .exportDeclaration (← spanFrom start) c
  if (← isAtAsyncFunction) || (← isAtWord "function") then
    let f ← functionDeclaration decorators
    return .exportDeclaration (← spanFrom start) f
  if let some kind := ← declarationKind? then
    let d ← variableDeclaration kind false
    return .exportDeclaration (← spanFrom start) d
  exportNames start none

def moduleItem : Parse Node := do
  let start ← position
  let decorators ← decorators
  if ← isAtWord "import" then
    match ← importStatement? with
    | some s => return s
    | none => return ← importDeclaration
  if ← isAtWord "export" then return ← exportDeclaration decorators
  undecoratedStatement true start decorators

end ScriptFeatures.Syntax.Parse
