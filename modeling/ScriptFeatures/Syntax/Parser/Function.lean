import ScriptFeatures.Syntax.Parser.Pattern

namespace ScriptFeatures.Syntax.Parse

def decorators : Parse (List Node) := collect (isAt .atSign) (descend .decorator)

def blockRest (start : Nat) : Parse Node := do
  let statements ← collect (before .rightBrace) (descend (.statement true))
  expect .rightBrace
  return .block (← spanFrom start) statements

def block : Parse Node := do
  let start ← position
  expect .leftBrace
  blockRest start

def useStrict? : List Node → Option Span
  | .expressionStatement span (.stringLiteral _ _ (some raw)) :: ss =>
    if raw = "\"use strict\"" || raw = "'use strict'" then some span else useStrict? ss
  | _ => none

def areSimple (patterns : List Node) : Bool :=
  patterns.all fun
    | .bindingName .. => true
    | .parameter _ _ (.bindingName ..) => true
    | _ => false

def withinBody {α : Type} (isAsync isGenerator isArrow : Bool) (p : Parse α) : Parse α :=
  within (fun c => { c with
    inAsync := isAsync
    inGenerator := isGenerator
    inFunction := true
    inPlainFunction := c.inPlainFunction || !isArrow
    inField := c.inField && isArrow
    inStaticBlock := false
    inLoopStart := false
    mayBreak := false
    mayContinue := false
    labels := [] }) p

def functionBlock (hasSimpleParameters : Bool) : Parse Node := do
  let body ← withIn block
  match body with
  | .block _ statements =>
    unless hasSimpleParameters do
      if let some span := useStrict? statements then
        report .useStrictWithoutSimpleParameters span.lo
  | _ => pure ()
  return body

def arrowBody (isAsync : Bool) (params : List Node) : Parse Node :=
  withinBody isAsync false true do
    if ← isAt .leftBrace then functionBlock (areSimple params) else descend .assignment

/-- One parameter with the comma after it. `rest` is the place of a rest parameter before it. -/
def parameterAfter (rest : Option Span) : Parse (Node × Option Span) := do
  if let some span := rest then report .restNotLast span.lo
  let start ← position
  let decorators ← decorators
  let patternStart ← position
  if ← eat .ellipsis then
    let name ← descend .bindingPattern
    let argument ←
      if ← eat (.assign .assign) then
        let right ← descend .assignment
        report .restWithInitializer name.span.lo
        pure (.defaultPattern (← spanFrom patternStart) name right)
      else pure name
    let span ← spanFrom patternStart
    let param := .parameter (← spanFrom start) decorators (.restElement span argument)
    if let some comma := ← comma .rightParen then report .commaAfterRest comma.lo
    return (param, some span)
  else
    let pattern ← bindingElement
    let param := .parameter (← spanFrom start) decorators pattern
    let _ ← comma .rightParen
    return (param, rest)

def parameters : Parse (List Node) := do
  go none (← limit)
where
  go (rest : Option Span) : Nat → Parse (List Node)
    | 0 => return []
    | n + 1 => do
      if ← before .rightParen then
        let (param, rest) ← parameterAfter rest
        return param :: (← go rest n)
      else return []

/-- A function from its opening parenthesis on. Its text starts at `start`, and `params` parses
its parameters. -/
def functionWith (params : Parse (List Node)) (decorators : List Node) (start : Nat)
    (isAsync isGenerator : Bool) : Parse Node := do
  expect .leftParen
  let params ← within (fun c => { c with
    inAsync := isAsync
    inGenerator := isGenerator
    inParameters := true
    inFunction := false }) (withIn params)
  expect .rightParen
  let body ← withinBody isAsync isGenerator false (functionBlock (areSimple params))
  return .function (← spanFrom start) isAsync isGenerator params decorators (some body)

def functionRest (decorators : List Node) (start : Nat) (isAsync isGenerator : Bool) :
    Parse Node :=
  functionWith parameters decorators start isAsync isGenerator

def getterParameters (place : Nat) : Parse (List Node) := do
  let params ← parameters
  unless params.isEmpty do report .getterParameters place
  return params

def setterParameters (place : Nat) : Parse (List Node) := do
  let params ← parameters
  if params.length ≠ 1 then report .setterParameters place
  if let .parameter _ _ (.restElement span _) :: _ := params then report .restInSetter span.lo
  return params

def functionFrom (decorators : List Node) (start : Nat) (isAsync : Bool)
    (name : Bool → Parse (Option Name)) : Parse (Option String × Node) := do
  expectWord "function"
  let isGenerator ← eat (.operator .multiply)
  let name ← name isGenerator
  let f ← within (fun c => { c with inField := false })
    (functionRest decorators start isAsync isGenerator)
  return (name.map (·.text), f)

def isAtAsyncFunction : Parse Bool := do
  if ← isAtWord "async" then
    let next ← peek
    return next.isWord "function" && !next.afterNewline
  else return false

def eatAsync : Parse Bool := do
  if ← isAtAsyncFunction then
    bump
    return true
  else return false

def functionExpression : Parse Node := do
  let start ← position
  let isAsync ← eatAsync
  let (name, f) ← functionFrom [] start isAsync fun isGenerator =>
    within (fun c => { c with inAsync := isAsync, inGenerator := isGenerator })
      (optionalBindingName false)
  return .functionExpression name f

def functionDeclaration (decorators : List Node) : Parse Node := do
  let start ← position
  let isAsync ← eatAsync
  let (name, f) ← functionFrom decorators start isAsync fun _ => some <$> bindingName false
  return .functionDeclaration (name.getD "") f

def defaultFunction (decorators : List Node) : Parse Node := do
  let start ← position
  let isAsync ← eatAsync
  let (name, f) ← functionFrom decorators start isAsync fun _ => optionalBindingName false
  return .functionExpression name f

end ScriptFeatures.Syntax.Parse
