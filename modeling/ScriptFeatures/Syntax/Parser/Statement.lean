import ScriptFeatures.Syntax.Parser.Expression

namespace ScriptFeatures.Syntax.Parse

def skipStatement : Parse Unit := do
  go (← limit)
where
  go : Nat → Parse Unit
    | 0 => return
    | n + 1 => do
      if ← eatSemicolon then return
      bump
      match (← current).kind with
      | .invalid _ => return
      | _ => go n

/-- One variable of a declaration. In the head of a loop `in` or `of` may follow it. -/
def declarator (kind : VariableKind) (inLoop : Bool) : Parse Node := do
  let start ← position
  let target ← bindingPattern (kind != .var)
  if inLoop && ((← isAtWord "in") || (← isAtWord "of")) then
    return .declarator (← spanFrom start) target none
  if ← eat (.assign .assign) then
    let value ← descend .assignment
    checkExpression value
    return .declarator (← spanFrom start) target (some value)
  let span ← spanFrom start
  if kind = .const && !inLoop then report .constWithoutInitializer span.lo
  else
    match target with
    | .bindingName .. => pure ()
    | _ => fail .patternWithoutInitializer span.lo
  return .declarator span target none

def declarators (item : Parse Node) (keyword : Span) : Nat → Parse (List Node)
  | 0 => return []
  | n + 1 => do
    if (← isAt .semicolon) || (← isAtEnd) then
      let before ← previous
      report .trailingComma (if before = keyword then before.hi else before.lo)
      return []
    let d ← item
    if ← eat .comma then return d :: (← declarators item keyword n) else return [d]

/-- Declarations of variables after their keyword, in the head of a loop or as a statement. -/
def variableDeclaration (kind : VariableKind) (inLoop : Bool) : Parse Node := do
  let t ← current
  bump
  let hasIn := kind != .var || !inLoop
  let item := within (fun c => { c with hasIn }) (declarator kind inLoop)
  let ds ← declarators item t.span (← limit)
  unless inLoop do
    unless ← eatSemicolon do
      report .semicolonExpected (← position)
      try
        let _ ← descend .expression
      catch _ => pure ()
      skipStatement
  return .variableDeclaration (← spanFrom t.start.offset) kind ds

def variableKind? (t : Token) : Option VariableKind :=
  if t.isWord "var" then some .var
  else if t.isWord "const" then some .const
  else if t.isWord "let" then some .let
  else none

def followsLet (t : Token) : Bool :=
  t.is .leftBrace || t.is .leftBracket || t.word?.any fun w => !isKeyword w

def declarationKind? : Parse (Option VariableKind) := do
  match variableKind? (← current) with
  | some .let => return if followsLet (← peek) then some .let else none
  | kind => return kind

def usingRest (start : Nat) (isAwait : Bool) : Parse Node := do
  let keyword ← current
  bump
  let ds ← declarators (declarator .var false) keyword.span (← limit)
  let span ← spanFrom start
  for d in ds do
    if let .declarator _ target value := d then
      match target with
      | .bindingName .. => pure ()
      | _ => report .usingPattern span.lo
      if value.isNone then report .usingWithoutInitializer span.lo
  expectSemicolon
  return .usingDeclaration (← spanFrom start) isAwait ds

def isAtUsing : Parse Bool := do
  if ← isAtWord "using" then
    let next ← peek
    return startsBinding next && !next.afterNewline
  else return false

def finishExpressionStatement (start : Nat) (e : Node) : Parse Node := do
  if ← eatSemicolon then return .expressionStatement (← spanFrom start) e
  if (operator? (← current)).isSome then
    report .semicolonExpected (← position)
    let e ← descend (.binaryTail e 0)
    return .expressionStatement (← spanFrom start) e
  failHere .statementEndExpected

def labeledStatement (label : Name) : Parse Node := do
  let labels := (← context).labels
  let body ← within (fun c => { c with mayBreak := true, labels := label.text :: labels }) do
    if ← isAtWord "function" then
      let start ← position
      let f ← functionDeclaration []
      report .labeledFunction start
      if let .functionDeclaration _ (.function _ _ true _ _ _) := f then
        report .labeledGeneratorOrAsync start
      return f
    else descend (.statement false)
  if labels.contains label.text then report (.duplicateLabel label.text) label.span.lo
  return .labeledStatement (← spanFrom label.span.lo) label.text body

def expressionStatement : Parse Node := do
  let start ← position
  let e ← withIn expression
  match e with
  | .identifier span text =>
    if ← eat .colon then return ← labeledStatement ⟨span, text⟩
  | _ => checkExpression e
  finishExpressionStatement start e

def breakStatement : Parse Node := do
  let start ← position
  bump
  if ← eatSemicolon then
    unless (← context).mayBreak do report .breakMisplaced start
    return .breakStatement (← spanFrom start) none
  let label ← labelName
  expectSemicolon
  let c ← context
  if !c.labels.contains label.text then report .breakLabelUnknown start
  else if !c.mayBreak then report .breakMisplaced start
  return .breakStatement (← spanFrom start) (some label.text)

def continueStatement : Parse Node := do
  let start ← position
  bump
  if ← eatSemicolon then
    unless (← context).mayContinue do report .continueMisplaced start
    return .continueStatement (← spanFrom start) none
  let label ← labelName
  expectSemicolon
  let c ← context
  if !c.mayContinue then report .continueMisplaced start
  else if !c.labels.contains label.text then report .continueLabelUnknown start
  return .continueStatement (← spanFrom start) (some label.text)

def condition : Parse Node := do
  expect .leftParen
  let e ← withIn (descend .expression)
  expect .rightParen
  return e

def loopBody : Parse Node :=
  within (fun c => { c with mayBreak := true, mayContinue := true }) (descend (.statement false))

def ifStatement : Parse Node := do
  let start ← position
  bump
  let test ← condition
  let consequent ← descend (.statement false)
  let alternate ←
    if ← eatWord "else" then some <$> descend (.statement false) else pure none
  return .ifStatement (← spanFrom start) test consequent alternate

def whileStatement : Parse Node := do
  let start ← position
  bump
  let test ← condition
  let body ← loopBody
  return .whileStatement (← spanFrom start) test body

def doWhileStatement : Parse Node := do
  let start ← position
  bump
  let body ← loopBody
  expectWord "while"
  let test ← condition
  let _ ← eatSemicolon
  return .doWhileStatement (← spanFrom start) test body

def withStatement : Parse Node := do
  let start ← position
  report .withStatement start
  bump
  let object ← condition
  let body ← descend (.statement false)
  return .withStatement (← spanFrom start) object body

def returnStatement : Parse Node := do
  let start ← position
  bump
  let argument ← if ← atStatementEnd then pure none else some <$> withIn (descend .expression)
  expectSemicolon
  return .returnStatement (← spanFrom start) argument

def throwStatement : Parse Node := do
  let start ← position
  bump
  if ← afterNewline then failHere .lineBreakAfterThrow
  let argument ← withIn (descend .expression)
  expectSemicolon
  return .throwStatement (← spanFrom start) argument

def isAtCase : Parse Bool := do return (← isAtWord "case") || (← isAtWord "default")

def switchCase (hasDefault : Bool) : Parse (Node × Bool) := do
  let start ← position
  let isDefault ← isAtWord "default"
  bump
  let test ←
    if isDefault then
      if hasDefault then failHere .multipleDefaults
      pure none
    else some <$> withIn (descend .expression)
  expect .colon
  let body ← collect (return (← before .rightBrace) && !(← isAtCase)) (descend (.statement true))
  return (.switchCase (← spanFrom start) test body, hasDefault || isDefault)

def switchCases (hasDefault : Bool) : Nat → Parse (List Node)
  | 0 => return []
  | n + 1 => do
    if ← isAtCase then
      let (c, hasDefault) ← switchCase hasDefault
      return c :: (← switchCases hasDefault n)
    else return []

def switchStatement : Parse Node := do
  let start ← position
  bump
  let discriminant ← condition
  expect .leftBrace
  let cases ← within (fun c => { c with mayBreak := true }) do
    switchCases false (← limit)
  expect .rightBrace
  return .switchStatement (← spanFrom start) discriminant cases

def catchClause : Parse (Option Node) := do
  let start ← position
  unless ← eatWord "catch" do return none
  let param ←
    if ← eat .leftParen then
      let pattern ← bindingPattern false
      expect .rightParen
      pure (some pattern)
    else pure none
  let body ← block
  return some (.catchClause (← spanFrom start) param body)

def finallyBlock : Parse (Option Node) := do
  if ← eatWord "finally" then some <$> block else return none

def tryStatement : Parse Node := do
  let start ← position
  bump
  let body ← block
  let handlerStart ← position
  let handler ← catchClause
  let finalizer ← finallyBlock
  if handler.isNone && finalizer.isNone then report .semicolonExpected handlerStart
  return .tryStatement (← spanFrom start) body handler finalizer

def strayHandler : Parse Node := do
  let start ← position
  report .semicolonExpected start
  let _ ← catchClause
  let _ ← finallyBlock
  return .expressionStatement (← spanFrom start) (.invalid ⟨start, start⟩)

/-- The head of a loop, by its kind. -/
inductive LoopHead where
  | counting (start test update : Option Node)
  | forIn (left right : Node)
  | forOf (left right : Node)

def countingHead (start : Option Node) : Parse LoopHead := do
  let test ←
    if ← eat .semicolon then pure none
    else
      let test ← withIn (descend .expression)
      expect .semicolon
      pure (some test)
  let update ←
    if ← isAt .rightParen then pure none else some <$> withIn (descend .expression)
  return .counting start test update

def eachHead (left : Node) : Parse LoopHead := do
  let isOf ← isAtWord "of"
  bump
  if isOf then return .forOf left (← withIn (descend .assignment))
  if let .usingDeclaration span _ _ := left then report .usingInForIn span.lo
  return .forIn left (← withIn (descend .expression))

def isAtEach : Parse Bool := do return (← isAtWord "of") || (← isAtWord "in")

/-- Reports what the declaration before `in` or `of` may not have: further variables and initial
values. -/
def checkLoopDeclaration (ds : List Node) : Parse Unit := do
  match ds with
  | [.declarator _ target (some _)] => report .initializerInLoopHead target.span.lo
  | _ :: others =>
    for d in others do
      if let .declarator _ target _ := d then report .manyBindingsInLoopHead target.span.lo
  | [] => return

def usingName? : Node → Option Bool
  | .identifier _ "using" => some false
  | .await _ (.identifier _ "using") => some true
  | _ => none

def usingHead (start : Nat) (isAwait : Bool) : Parse LoopHead := do
  let name ← bindingName false
  let span ← spanFrom start
  let d := Node.declarator span (.bindingName name.span name.text) none
  let left := Node.usingDeclaration span isAwait [d]
  unless ← isAtWord "of" do report .usingInForIn span.lo
  eachHead left

def loopHead (isAwait : Bool) : Parse LoopHead := do
  if let some kind := ← declarationKind? then
    let d ← variableDeclaration kind true
    if ← isAtEach then
      if let .variableDeclaration _ _ ds := d then checkLoopDeclaration ds
      return ← eachHead d
    expect .semicolon
    return ← countingHead (some d)
  if ← eat .semicolon then return ← countingHead none
  let start ← position
  let first ← within
    (fun c => { c with hasIn := false, inLoopStart := true, inAwaitLoopStart := isAwait })
    expression
  if let some isAwait := usingName? first then
    let next ← peek
    if !(← isAtWord "of") && (next.isWord "of" || next.isWord "in") then
      return ← usingHead start isAwait
  if ← isAtEach then return ← eachHead (← asPattern .assignment first)
  expect .semicolon
  checkExpression first
  countingHead (some first)

def forStatement : Parse Node := do
  let start ← position
  bump
  let awaitStart ← position
  let isAwait ← eatWord "await"
  expect .leftParen
  let head ← loopHead isAwait
  expect .rightParen
  let body ← loopBody
  let span ← spanFrom start
  match head with
  | .forOf left right => return .forOfStatement span isAwait left right body
  | .forIn left right =>
    if isAwait then fail .awaitInLoopHead awaitStart
    return .forInStatement span left right body
  | .counting first test update =>
    if isAwait then fail .awaitInLoopHead awaitStart
    return .forStatement span first test update body

/-- A statement that starts with `await`: a declaration of resources or an expression. -/
def awaitStatement : Parse Node := do
  let next ← peek
  unless next.isWord "using" do return ← expressionStatement
  let t ← current
  let start := t.start.offset
  bump
  if ← isAtUsing then return ← usingRest start true
  let e ← awaitExpression (some t.span)
  let e ← withIn (descend (.binaryTail e 0))
  let _ ← eatSemicolon
  return .expressionStatement (← spanFrom start) e

def importStatement? : Parse (Option Node) := do
  let next ← peek
  unless next.is .leftParen || next.is .dot do return none
  let start ← position
  let e ← withIn expression
  let _ ← eatSemicolon
  return some (.expressionStatement (← spanFrom start) e)

def checkDeclaration (isAllowed : Bool) : Parse Unit := do
  unless isAllowed do report .declarationMisplaced (← position)

def wordStatement (isAllowed : Bool) (start : Nat) (decorators : List Node) (w : String) :
    Parse Node := do
  match w with
  | "break" => breakStatement
  | "continue" => continueStatement
  | "debugger" => do
    bump
    expectSemicolon
    return .debuggerStatement (← spanFrom start)
  | "do" => doWhileStatement
  | "for" => forStatement
  | "if" => ifStatement
  | "return" => returnStatement
  | "switch" => switchStatement
  | "throw" => throwStatement
  | "try" => tryStatement
  | "catch" | "finally" => strayHandler
  | "with" => withStatement
  | "while" => whileStatement
  | "var" => variableDeclaration .var false
  | "function" => do
    checkDeclaration isAllowed
    functionDeclaration decorators
  | "class" => do
    checkDeclaration isAllowed
    classDeclaration decorators start
  | "await" => if isAllowed then awaitStatement else expressionStatement
  | _ => do
    if isAllowed then
      if let some kind := ← declarationKind? then return ← variableDeclaration kind false
      if ← isAtUsing then return ← usingRest start false
    if ← isAtAsyncFunction then return ← functionDeclaration decorators
    expressionStatement

def undecoratedStatement (isAllowed : Bool) (start : Nat) (decorators : List Node) :
    Parse Node := do
  let t ← current
  match t.kind with
  | .word w => wordStatement isAllowed start decorators w
  | .punctuator .leftBrace => block
  | .punctuator .semicolon => do
    bump
    return .emptyStatement t.span
  | _ => expressionStatement

def statement (isAllowed : Bool) : Parse Node := do
  let start ← position
  let decorators ← decorators
  if (← isAtWord "import") || (← isAtWord "export") then
    if ← isAtWord "import" then
      if let some s := ← importStatement? then return s
    failHere .moduleSyntaxMisplaced
  undecoratedStatement isAllowed start decorators

end ScriptFeatures.Syntax.Parse
