import ScriptFeatures.Syntax.Parser.Function

namespace ScriptFeatures.Syntax.Parse

def isConstructorKey : Node → Bool
  | .propertyName _ name => name = "constructor"
  | .literalKey _ text => text = "constructor"
  | _ => false

/-- What stands before the key of a member. -/
structure MemberHead where
  start : Nat
  decorators : List Node
  isStatic : Bool := false
  isAccessor : Bool := false

def isAtMethod : Parse Bool := isAt .leftParen

def isAtFieldEnd : Parse Bool := do
  let t ← current
  return t.is (.assign .assign) || t.is .rightBrace || t.is .semicolon

def memberMethod (head : MemberHead) (kind : MethodKind) (key : Node)
    (params : Parse (List Node)) (isAsync isGenerator : Bool) : Parse Node := do
  let f ← within (fun c => { c with inField := false })
    (functionWith params head.decorators head.start isAsync isGenerator)
  let span ← spanFrom head.start
  match key with
  | .privateName .. => return .privateMethod span kind head.isStatic key f
  | _ => return .classMethod span kind head.isStatic key f

def memberField (head : MemberHead) (key : Node) : Parse Node := do
  if isConstructorKey key then fail .constructorIsField key.span.lo
  within (fun c => { c with hasIn := true, inField := true }) do
    let value ← if ← eat (.assign .assign) then some <$> descend .assignment else pure none
    unless ← eatSemicolon do report .semicolonExpected (← position)
    let span ← spanFrom head.start
    if head.isAccessor then
      return .autoAccessor span head.isStatic key value head.decorators
    match key with
    | .privateName .. => return .privateProperty span head.isStatic key value head.decorators
    | _ => return .classProperty span head.isStatic key value head.decorators

def constructorRest (head : MemberHead) (key : Node) (staticStart : Nat) : Parse Node := do
  expect .leftParen
  let params ← parameters
  expect .rightParen
  let body ← withinBody false false false (functionBlock (areSimple params))
  if head.isStatic then report .constructorIsStatic staticStart
  return .constructorMember (← spanFrom head.start) key params (some body)

def staticBlock (start : Nat) : Parse Node := do
  let body ← within (fun c => { c with inStaticBlock := true, inField := true }) block
  return .staticBlock (← spanFrom start) body

def accessorMember (head : MemberHead) (kind : MethodKind) (place : Nat) : Parse Node := do
  let key ← memberKey
  if isConstructorKey key then report .constructorIsAccessor place
  let params := if kind = .getter then getterParameters place else setterParameters place
  memberMethod head kind key params false false

def memberAfterHead (head : MemberHead) (staticStart : Nat) : Parse Node := do
  if ← eat (.operator .multiply) then
    let key ← memberKey
    if isConstructorKey key then report .constructorIsGenerator head.start
    return ← memberMethod head .method key parameters false true
  let key ← memberKey
  if ← isAtMethod then
    if isConstructorKey key then return ← constructorRest head key staticStart
    return ← memberMethod head .method key parameters false false
  let word := match key with
    | .propertyName _ name => name
    | _ => ""
  let isField ← isAtFieldEnd
  let startsGenerator := (← afterNewline) && (← isAt (.operator .multiply))
  let isAccessor := (word = "get" || word = "set") && !isField && !startsGenerator
  if !isAccessor && (isField || (← atStatementEnd)) then return ← memberField head key
  if word = "async" && !(← afterNewline) then
    let isGenerator ← eat (.operator .multiply)
    let key ← memberKey
    if isConstructorKey key then report .constructorIsAsync key.span.lo
    return ← memberMethod head .method key parameters true isGenerator
  if isAccessor then
    return ← accessorMember head (if word = "get" then .getter else .setter) key.span.lo
  unexpected "* for generator, private key, identifier or async"

/-- A member of a class. `static` and `accessor` are keys if they are not followed by one. -/
def classMember : Parse Node := do
  let start ← position
  let decorators ← decorators
  let staticToken ← current
  let staticStart := staticToken.start.offset
  let isStatic ← eatWord "static"
  let head : MemberHead := { start, decorators }
  let staticKey := Node.propertyName staticToken.span "static"
  if isStatic then
    if ← isAtMethod then
      return ← memberMethod head .method staticKey parameters false false
    if ← isAtFieldEnd then return ← memberField head staticKey
  let head := { head with isStatic }
  let accessorToken ← current
  let isAccessor ← eatWord "accessor"
  let accessorKey := Node.propertyName accessorToken.span "accessor"
  if isAccessor then
    if ← isAtMethod then
      return ← memberMethod head .method accessorKey parameters false false
    if (← isAtFieldEnd) || (← atStatementEnd) then return ← memberField head accessorKey
  if isStatic && (← isAt .leftBrace) then return ← staticBlock start
  memberAfterHead { head with isAccessor } staticStart

/-- The members of a class up to its closing brace. Only one of them is its constructor. -/
def classMembers : Parse (List Node) := do
  go false (← limit)
where
  go (hasConstructor : Bool) : Nat → Parse (List Node)
    | 0 => return []
    | n + 1 => do
      unless ← before .rightBrace do return []
      if ← eat .semicolon then
        return .emptyMember (← previous) :: (← go hasConstructor n)
      let member ← classMember
      match member with
      | .constructorMember span .. =>
        if hasConstructor then report .duplicateConstructor span.lo
        return member :: (← go true n)
      | _ => return member :: (← go hasConstructor n)

def classFrom (decorators : List Node) (start : Nat) (isNamed : Bool) :
    Parse (Option String × Node) :=
  within (fun c => { c with inClass := true, hasIn := true }) do
    expectWord "class"
    let name ← if isNamed then some <$> bindingName true else optionalBindingName true
    let superclass ← if ← eatWord "extends" then some <$> descend .leftHandSide else pure none
    if ← eatWord "extends" then
      report .duplicateExtends (← previous).lo
      let _ ← descend .leftHandSide
    expect .leftBrace
    let members ← classMembers
    if ← isAtEnd then report (.expected "\x7d" (← current).text) (← position)
    else expect .rightBrace
    let span ← spanFrom start
    return (name.map (·.text), .classDefinition span decorators members superclass)

def classExpression (decorators : List Node) (start : Nat) : Parse Node := do
  let (name, definition) ← classFrom decorators start false
  return .classExpression name definition

def classDeclaration (decorators : List Node) (start : Nat) : Parse Node := do
  let (name, definition) ← classFrom decorators start true
  return .classDeclaration (name.getD "") definition

end ScriptFeatures.Syntax.Parse
