import ScriptFeatures.Syntax.Parser.Function

namespace ScriptFeatures.Syntax.Parse

def methodRest (key : Node) (start : Nat) (isAsync isGenerator : Bool) : Parse Node := do
  let f ← within (fun c => { c with inField := false })
    (functionRest [] start isAsync isGenerator)
  return .method key f

def bodyAndParams : Node → Option Node × List Node
  | .function _ _ _ params _ body => (body, params)
  | _ => (none, [])

def getterProperty (start : Nat) : Parse Node := do
  let key ← propertyKey
  let f ← within (fun c => { c with inField := false })
    (functionWith (getterParameters key.span.lo) [] start false false)
  return .getter (← spanFrom start) key (bodyAndParams f).1

def setterProperty (start : Nat) : Parse Node := do
  let key ← propertyKey
  let f ← within (fun c => { c with inField := false })
    (functionWith (setterParameters key.span.lo) [] start false false)
  let (body, params) := bodyAndParams f
  let param := match params with
    | .parameter _ _ pattern :: _ => pattern
    | _ => .invalid ⟨0, 0⟩
  return .setter (← spanFrom start) key param body

/-- A property that starts with a name other than that of a method: a shorthand, an accessor, or an
async method. -/
def namedProperty (start : Nat) (span : Span) (name : String) : Parse Node := do
  let t ← current
  match t.kind with
  | .punctuator (.assign .assign) =>
    bump
    let value ← withIn (descend .assignment)
    return .shorthandDefault (← spanFrom start) name value
  | .punctuator .comma | .punctuator .rightBrace => return .shorthand span name
  | _ =>
    if name = "get" then getterProperty start
    else if name = "set" then setterProperty start
    else if name = "async" then
      let isGenerator ← eat (.operator .multiply)
      methodRest (← propertyKey) start true isGenerator
    else unexpected "... , *,  (, [, :, , ?, = or an identifier"

def objectProperty : Parse Node := do
  let start ← position
  if ← eat .ellipsis then
    let dots ← spanFrom start
    return .objectSpread dots (← withIn (descend .assignment))
  if ← eat (.operator .multiply) then return ← methodRest (← propertyKey) start false true
  let key ← propertyKey
  if ← eat .colon then return .property key (← withIn (descend .assignment))
  if ← isAt .leftParen then return ← methodRest key start false false
  match key with
  | .propertyName span name => namedProperty start span name
  | _ => unexpected "identifier"

def objectLiteral : Parse Node := do
  let start ← position
  expect .leftBrace
  let items ← collect (return !(← isAt .rightBrace)) do
    let property ← objectProperty
    return (property, ← comma .rightBrace)
  expect .rightBrace
  if let some comma := items.getLast?.bind (·.2) then
    modify fun s => { s with trailingCommas := (start, comma) :: s.trailingCommas }
  return .objectLiteral (← spanFrom start) (items.map (·.1))

end ScriptFeatures.Syntax.Parse
