import ScriptFeatures.Syntax.Parser.Basic

namespace ScriptFeatures.Syntax.Parse

/-- A name and its place. -/
structure Name where
  span : Span
  text : String

def isBindingWord (w : String) : Bool := !isKeyword w && w != "await" && w != "yield"

def startsBinding (t : Token) : Bool := t.word?.any isBindingWord

def identifier (yieldAllowed : Bool) : Parse Name := do
  let t ← current
  let start := t.start.offset
  match t.word? with
  | none => failHere .identifierExpected
  | some w =>
    bump
    if w = "enum" then report (.reservedInStrict w) start
    else if strictWords.contains w && w != "await" then note ⟨.reservedInStrict w, start⟩
    let c ← context
    if w = "await" then
      fail (if c.inStaticBlock then .identifierExpected else .awaitAsIdentifier) start
    if isKeyword w || (w = "yield" && !yieldAllowed) then fail .identifierExpected start
    if w = "arguments" && c.inField then report .argumentsOutsideFunction start
    return ⟨t.span, w⟩

def bindingName (forbidsLet : Bool) : Parse Name := do
  if forbidsLet && (← isAtWord "let") then
    unexpected "let is reserved in const, let, class declaration"
  let name ← identifier true
  if name.text = "eval" || name.text = "arguments" then
    note ⟨.evalOrArgumentsInStrict, name.span.lo⟩
  return name

def optionalBindingName (forbidsLet : Bool) : Parse (Option Name) := do
  if startsBinding (← current) then return some (← bindingName forbidsLet) else return none

def labelName : Parse Name := do identifier (!(← context).inGenerator)

def propertyName : Parse Name := do
  let t ← current
  match t.word? with
  | some w =>
    bump
    return ⟨t.span, w⟩
  | none => failHere .identifierExpected

def privateName : Parse Name := do
  let start ← position
  bump
  let hashEnd := (← previous).hi
  if hashEnd < (← position) then fail .spaceAfterHash start
  let name ← propertyName
  return ⟨← spanFrom start, name.text⟩

def propertyKey : Parse Node := do
  let t ← current
  match t.kind with
  | .word w =>
    bump
    return .propertyName t.span w
  | .string value _ =>
    bump
    return .literalKey t.span value
  | .number raw =>
    bump
    return .literalKey t.span raw
  | .bigint =>
    bump
    return .literalKey t.span t.text
  | .punctuator .leftBracket =>
    bump
    let e ← withIn (descend .assignment)
    expect .rightBracket
    return .computedKey (← spanFrom t.start.offset) e
  | _ => unexpected "identifier, string literal, numeric literal or [ for the computed key"

def memberKey : Parse Node := do
  if ← isAt .hash then
    let name ← privateName
    if name.text = "constructor" then report .constructorIsPrivate name.span.lo
    return .privateName name.span name.text
  else propertyKey

end ScriptFeatures.Syntax.Parse
