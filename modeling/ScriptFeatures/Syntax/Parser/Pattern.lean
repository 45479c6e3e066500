import ScriptFeatures.Syntax.Parser.Name

namespace ScriptFeatures.Syntax.Parse

def bindingElement : Parse Node := do
  let start ← position
  let left ← descend .bindingPattern
  if ← eat (.assign .assign) then
    let right ← withIn (descend .assignment)
    return .defaultPattern (← spanFrom start) left right
  return left

def restOf (start : Nat) : Parse Node := do
  let argument ← descend .bindingPattern
  return .restElement (← spanFrom start) argument

/-- One element of an array pattern with the comma after it. `rest` is the place of a rest element
before it. -/
def arrayPatternElement : Parse Node := do
  if ← eat .comma then return .hole
  let start ← position
  let isRest ← eat .ellipsis
  let element ← if isRest then restOf start else bindingElement
  if let some comma := ← comma .rightBracket then
    if isRest then report .commaAfterRest comma.lo
  return element

def checkRestIsLast : List Node → Parse Unit
  | .restElement span _ :: n :: ns => do
    report .restNotFinal span.lo
    checkRestIsLast (n :: ns)
  | _ :: ns => checkRestIsLast ns
  | [] => return

def arrayPattern : Parse Node := do
  let start ← position
  bump
  let elements ← collect (before .rightBracket) arrayPatternElement
  checkRestIsLast elements
  expect .rightBracket
  return .arrayPattern (← spanFrom start) elements

def patternProperty : Parse Node := do
  let start ← position
  if ← eat .ellipsis then return ← restOf start
  let key ← propertyKey
  if ← eat .colon then return .patternProperty key (← bindingElement)
  match key with
  | .propertyName _ name =>
    let value ←
      if ← eat (.assign .assign) then some <$> withIn (descend .assignment) else pure none
    return .patternShorthand (← spanFrom start) name value
  | _ => unexpected "an identifier"

/-- The properties of an object pattern up to its brace, and the comma before the brace. -/
def patternProperties : Parse (List Node × Option Span) := do
  let items ← collect (return !(← isAt .rightBrace)) do
    let property ← patternProperty
    return (property, ← comma .rightBrace)
  return (items.map (·.1), items.getLast?.bind (·.2))

def objectPattern : Parse Node := do
  let start ← position
  bump
  let (properties, comma) ← patternProperties
  expect .rightBrace
  checkRestIsLast properties
  if let some (.restElement span argument) := properties.getLast? then
    match argument with
    | .bindingName .. => if let some comma := comma then report .commaAfterRest comma.lo
    | _ => fail .restWithoutName span.lo
  return .objectPattern (← spanFrom start) properties

def bindingPattern (forbidsLet : Bool) : Parse Node := do
  checkToken
  let t ← current
  match t.kind with
  | .word _ =>
    let name ← bindingName forbidsLet
    return .bindingName name.span name.text
  | .punctuator .leftBracket => arrayPattern
  | .punctuator .leftBrace => objectPattern
  | _ => unexpected "yield, an identifier, [ or \x7b"

def isSimpleTarget : Node → Bool
  | .identifier _ name => name != "eval" && name != "arguments"
  | .parenthesized _ e => isSimpleTarget e
  | .member _ object _ =>
    match object with
    | .member .. => isSimpleTarget object
    | .optionalChain .. => false
    | _ => true
  | .superMember .. | .invalid .. => true
  | _ => false

def checkTarget (e : Node) : Parse Unit := do
  unless isSimpleTarget e do report .notAssignable e.span.lo

def asTarget : Node → Node
  | .identifier span name => .bindingName span name
  | e => e

def isTarget : Node → Bool
  | .bindingName .. | .arrayPattern .. | .objectPattern .. | .member .. | .superMember .. => true
  | .parenthesized .. | .optionalChain .. | .invalid .. => true
  | _ => false

/-- What a pattern is for that was parsed as an expression. -/
inductive PatternRole where
  | assignment
  | assignmentElement
  | binding
  | bindingElement

def PatternRole.element : PatternRole → PatternRole
  | assignment | assignmentElement => assignmentElement
  | binding | bindingElement => bindingElement

def trailingComma? (start : Nat) : Parse (Option Span) :=
  return (← get).trailingCommas.lookup start

def checkCommaAfterRest (start : Nat) : Parse Unit := do
  if let some comma := ← trailingComma? start then report .commaAfterRest comma.lo

def notAPattern (span : Span) : Parse Node := do
  report .notAPattern span.lo
  return .invalid span

/-- An element of an assignment pattern that is neither a literal of an array or an object nor an
assignment. -/
def elementTarget (e : Node) : Parse Node := do
  match e with
  | .member .. | .superMember .. | .call .. | .construct .. | .identifier .. | .parenthesized ..
  | .stringLiteral .. | .numberLiteral .. | .bigintLiteral .. | .booleanLiteral ..
  | .nullLiteral .. | .regexLiteral .. | .functionExpression .. | .classExpression ..
  | .template .. =>
    unless isSimpleTarget e do report .cannotAssign e.span.lo
    return asTarget e
  | _ => notAPattern e.span

def leafPattern (role : PatternRole) (e : Node) : Parse Node := do
  match role with
  | .assignment =>
    checkTarget e
    return asTarget e
  | .assignmentElement => elementTarget e
  | .binding | .bindingElement =>
    match e with
    | .identifier span name => return .bindingName span name
    | _ => notAPattern e.span

/-- The left side of an assignment as the pattern that has the right side as its default. Arrays
and objects on it are patterns already. -/
def defaultTarget (role : PatternRole) (left : Node) : Parse Node :=
  match left with
  | .arrayPattern .. | .objectPattern .. | .bindingName .. => return left
  | e => leafPattern role e

mutual

def asPattern (role : PatternRole) : Node → Parse Node
  | .invalid span => return .invalid span
  | .arrayLiteral span elements => do
    return .arrayPattern span (← asPatternElements role span.lo elements)
  | .objectLiteral span properties => do
    return .objectPattern span (← asPatternProperties role span.lo properties)
  | .assignment span op left right => do
    match role, op with
    | .assignment, _ =>
      report .notAssignable span.lo
      return .assignment span op left right
    | _, .assign => return .defaultPattern span (← defaultTarget role left) right
    | _, _ => notAPattern span
  | e => leafPattern role e

def asPatternElements (role : PatternRole) (start : Nat) : List Node → Parse (List Node)
  | [] => return []
  | .hole :: es => do return .hole :: (← asPatternElements role start es)
  | .spread dots e :: es => do
    if es.isEmpty then
      let span := Span.ofEnds dots.lo e.span.hi
      if let .assignment .. := e then report .restWithInitializer span.lo
      checkCommaAfterRest start
      return [.restElement span (← asPattern role.element e)]
    else
      report .restNotFinal e.span.lo
      asPatternElements role start es
  | e :: es => do
    let p ← asPattern role.element e
    return p :: (← asPatternElements role start es)

def asPatternProperties (role : PatternRole) (start : Nat) : List Node → Parse (List Node)
  | [] => return []
  | .shorthand span name :: ps => do
    return .patternShorthand span name none :: (← asPatternProperties role start ps)
  | .shorthandDefault span name value :: ps => do
    return .patternShorthand span name (some value) :: (← asPatternProperties role start ps)
  | .property key value :: ps => do
    let p ← asPattern role.element value
    return .patternProperty key p :: (← asPatternProperties role start ps)
  | .objectSpread dots e :: ps => do
    let span := Span.ofEnds dots.lo e.span.hi
    if ps.isEmpty then checkCommaAfterRest start else report .restNotFinal span.lo
    let argument ←
      match role.element with
      | .bindingElement =>
        match e with
        | .identifier span name => pure (.bindingName span name)
        | _ =>
          report .restWithoutName span.lo
          pure (.invalid span)
      | element => asPattern element e
    return .restElement span argument :: (← asPatternProperties role start ps)
  | p :: _ => fail .notAPattern p.span.lo

end

end ScriptFeatures.Syntax.Parse
