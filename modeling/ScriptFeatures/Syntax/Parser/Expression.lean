import ScriptFeatures.Syntax.Parser.Class
import ScriptFeatures.Syntax.Parser.Markup
import ScriptFeatures.Syntax.Parser.Object

namespace ScriptFeatures.Syntax.Parse

def spreadable : Parse Node := do
  let start ← position
  if ← eat .ellipsis then
    let dots ← spanFrom start
    return .spread dots (← withIn (descend .assignment))
  else withIn (descend .assignment)

def callArguments : Parse (List Node) := do
  expect .leftParen
  let arguments ← go true (← limit)
  expect .rightParen
  return arguments
where
  go (isFirst : Bool) : Nat → Parse (List Node)
    | 0 => return []
    | n + 1 => do
      unless ← before .rightParen do return []
      unless isFirst do
        expect .comma
        if ← isAt .rightParen then return []
      let argument ← spreadable
      return argument :: (← go false n)

def arrayLiteral : Parse Node := do
  let start ← position
  bump
  let items ← collect (before .rightBracket) do
    if ← eat .comma then return (.hole, none)
    let element ← spreadable
    return (element, ← comma .rightBracket)
  expect .rightBracket
  if let some comma := items.getLast?.bind (·.2) then
    modify fun s => { s with trailingCommas := (start, comma) :: s.trailingCommas }
  return .arrayLiteral (← spanFrom start) (items.map (·.1))

/-- The part of a template at its start. Only a tagged template may hold bad escapes. -/
def templateElement (isTagged : Bool) (part : TemplatePart) : Parse Node := do
  if let some d := part.badEscape then
    unless isTagged do throw d
  return .templateElement part.span part.raw

def templateRest (isTagged : Bool) : Nat → TemplatePart → Parse (List Node × List Node)
  | 0, _ => return ([], [])
  | n + 1, last => do
    if last.isLast then return ([], [])
    let e ← withIn (descend .expression)
    let close ← current
    unless close.is .rightBrace do unexpected (String.ofList ['\x60', '}', '\x60'])
    match Lexer.templatePart close.start with
    | .error d => throw d
    | .ok (part, stop) =>
      moveTo close.start stop
      let quasi ← templateElement isTagged part
      let (es, quasis) ← templateRest isTagged n part
      return (e :: es, quasi :: quasis)

def templateLiteral (isTagged : Bool) (part : TemplatePart) : Parse Node := do
  let start ← position
  let quasi ← templateElement isTagged part
  bump
  let (es, quasis) ← templateRest isTagged (← limit) part
  return .template (← spanFrom start) es (quasi :: quasis)

def regexFlags : List Char := ['d', 'g', 'i', 'm', 's', 'u', 'v', 'y']

def checkRegexFlags (flags : List Char) (start : Nat) : Parse Unit := do
  unless flags.all regexFlags.contains do report .unknownRegexFlags start
  if let some flag := regexFlags.find? fun f => 1 < flags.count f then
    report (.repeatedRegexFlag flag) start

def regexLiteral : Parse Node := do
  let t ← current
  let start := t.start
  match Lexer.regex? start with
  | none =>
    note ⟨.unterminatedRegex, start.offset⟩
    throw ⟨.expressionExpected, t.stop.offset⟩
  | some regex =>
    moveTo start regex.stop
    checkRegexFlags regex.flags.toList start.offset
    return .regexLiteral (← spanFrom start.offset) regex.pattern regex.flags

/-- The parameters that the items of parentheses spell. Only the last one may be spread, and its
place is that of the name or pattern after its dots. -/
def parametersOf (comma : Option Span) : List Node → Parse (List Node)
  | [] => return []
  | [.spread dots e] => do
    let span := e.span.withLo dots.lo
    if let .assignment .. := e then report .restWithInitializer span.lo
    if let some comma := comma then report .commaAfterRest comma.lo
    return [.restElement e.span (← asPattern .binding e)]
  | .spread dots _ :: es => do
    report .restNotLast dots.lo
    parametersOf comma es
  | e :: es => do
    let p ← asPattern .binding e
    return p :: (← parametersOf comma es)

def checkShorthands (properties : List Node) : Parse Unit :=
  properties.forM fun
    | .shorthandDefault span _ _ => report .initializerInShorthand span.lo
    | _ => pure ()

/-- Whether the token is an operator between operands that is spelled with punctuators. -/
def operator? (t : Token) : Option BinaryOperator :=
  match t.punctuator? with
  | some (.operator op) => some op
  | _ => none

/-- What follows an arrow function that an operator comes after: the operands are read, and the
missing semicolons reported. -/
def afterArrow (arrow : Node) : Parse Node := do
  match arrow with
  | .arrowFunction _ _ _ _ (.block ..) =>
    if (operator? (← current)).isSome then
      report .semicolonExpected (← position)
      let e ← descend (.binaryTail arrow 0)
      unless ← atStatementEnd do report .semicolonExpected (← position)
      return e
    else return arrow
  | _ => return arrow

def parenthesizedItems : Parse (List Node × Option Span) := do
  expect .leftParen
  let items ← collect (before .rightParen) do
    let start ← position
    modify fun s => { s with arrowStart := some start }
    let item ← spreadable
    return (item, ← comma .rightParen)
  expect .rightParen
  return (items.map (·.1), items.getLast?.bind (·.2))

def parenthesizedOf (start : Nat) (items : List Node) : Parse Node := do
  for item in items do
    if let .spread _ e := item then fail .spreadInParentheses e.span.lo
  match items, items.getLast? with
  | [e], _ => return .parenthesized (← spanFrom start) e
  | e :: _, some last =>
    let sequence := .sequence (Span.ofEnds e.span.lo last.span.hi) items
    return .parenthesized (← spanFrom start) sequence
  | _, _ =>
    if ← isAtEnd then failHere .endOfInput
    fail .emptyParentheses start

/-- An expression in parentheses, the parameters and body of an arrow function, or, after the name
`async` at `asyncSpan`, a call of it. -/
def parenthesized (mayBeArrow : Bool) (asyncSpan : Option Span) : Parse Node := do
  let start := (asyncSpan.map (·.lo)).getD (← position)
  let (items, comma) ← parenthesizedItems
  if ← isAt .arrow then
    if ← afterNewline then fail .arrowAfterLineBreak start
    unless mayBeArrow do fail .arrowMisplaced start
    bump
    let params ← parametersOf comma items
    let body ← arrowBody asyncSpan.isSome params
    afterArrow (.arrowFunction (← spanFrom start) asyncSpan.isSome false params body)
  else
    for item in items do
      if let .objectLiteral _ properties := item then checkShorthands properties
    match asyncSpan with
    | some span => return .call (← spanFrom start) (.identifier span "async") items
    | none => parenthesizedOf start items

def mayBeArrow (start : Nat) : Parse Bool := return (← get).arrowStart == some start

def nameOrArrow : Parse Node := do
  let start ← position
  let mayBeArrow ← mayBeArrow start
  let c ← context
  let name ← identifier (!c.inGenerator)
  let reference := Node.identifier name.span name.text
  if !mayBeArrow || (← afterNewline) then return reference
  if name.text = "async" then
    if ← isAt .leftParen then return ← parenthesized mayBeArrow (some name.span)
    let t ← current
    if startsBinding t then
      if c.inLoopStart && t.isWord "of" && !(← peek).is .arrow then
        unless c.inAwaitLoopStart do report .asyncInLoopHead name.span.lo
        return reference
      let param ← bindingName false
      let params := [Node.bindingName param.span param.text]
      expect .arrow
      let body ← arrowBody true params
      return .arrowFunction (← spanFrom start) true false params body
  if ← eat .arrow then
    if name.text = "eval" || name.text = "arguments" then
      note ⟨.evalOrArgumentsInStrict, name.span.lo⟩
    let params := [Node.bindingName name.span name.text]
    let body ← arrowBody false params
    return .arrowFunction (← spanFrom start) false false params body
  return reference

def literal (n : Node) : Parse Node := do
  bump
  return n

def wordPrimary (t : Token) (w : String) : Parse Node := do
  if w = "this" then literal (.thisExpression t.span)
  else if w = "null" then literal (.nullLiteral t.span)
  else if w = "true" then literal (.booleanLiteral t.span true)
  else if w = "false" then literal (.booleanLiteral t.span false)
  else if w = "function" then functionExpression
  else if w = "class" then classExpression [] t.start.offset
  else if ← isAtAsyncFunction then functionExpression
  else if isBindingWord w then nameOrArrow
  else failHere .expressionExpected

def primary : Parse Node := do
  checkToken
  let t ← current
  let start := t.start.offset
  match t.kind with
  | .word w => wordPrimary t w
  | .string value raw => literal (.stringLiteral t.span value (some raw))
  | .number raw => literal (.numberLiteral t.span (some raw))
  | .bigint => literal (.bigintLiteral t.span)
  | .template part => templateLiteral false part
  | .endOfFile => failHere .endOfInput
  | .invalid d => throw d
  | .punctuator p =>
    match p with
    | .leftBracket => arrayLiteral
    | .leftBrace => objectLiteral
    | .leftParen => parenthesized (← mayBeArrow start) none
    | .operator .divide | .assign (.combined .divide) => regexLiteral
    | .atSign => do
      let decorators ← decorators
      classExpression decorators start
    | .hash => do
      let name ← privateName
      return .privateName name.span name.text
    | _ => failHere .expressionExpected

def isChain : Node → Bool
  | .optionalChain .. => true
  | _ => false

def accessOf (start : Nat) (object property : Node) (isOptional : Bool) : Parse Node := do
  let span ← spanFrom start
  match object with
  | .superCallee _ => return .superMember span property
  | _ =>
    let access := .member span object property
    return if isOptional || isChain object then .optionalChain span isOptional access else access

def memberName : Parse Node := do
  if ← isAt .hash then
    let name ← privateName
    return .privateName name.span name.text
  else
    let name ← propertyName
    return .propertyName name.span name.text

def taggedTemplate (start : Nat) (tag : Node) (part : TemplatePart) : Parse Node := do
  let template ← templateLiteral true part
  if isChain tag then report .taggedTemplateInChain start
  return .taggedTemplate (← spanFrom start) tag template

def subscript (start : Nat) (object : Node) (mayCall mayIndex : Bool) : Parse (Option Node) := do
  let isOptional ← eat .questionDot
  if mayIndex && (← isAt .leftBracket) then
    let bracket ← position
    bump
    let e ← withIn (descend .expression)
    expect .rightBracket
    let property := .index (← spanFrom bracket) e
    return some (← accessOf start object property isOptional)
  if (← isAt .leftParen) && (isOptional || mayCall) then
    let arguments ← callArguments
    let span ← spanFrom start
    if isOptional || isChain object then
      return some (.optionalChain span isOptional (.optionalCall span object arguments))
    else return some (.call span object arguments)
  if isOptional then return some (← accessOf start object (← memberName) true)
  if ← eat .dot then return some (← accessOf start object (← memberName) false)
  match object, (← current).kind with
  | .superCallee _, _ =>
    if ← isAtEnd then failHere .endOfInput
    failHere .superMisplaced
  | .importCallee _, _ => failHere .importMisplaced
  | _, .template part => return some (← taggedTemplate start object part)
  | _, _ => return none

def subscripts (start : Nat) (mayCall : Bool) (object : Node) (mayIndex : Bool := true) :
    Parse Node := do
  go (← limit) object
where
  go : Nat → Node → Parse Node
    | 0, object => return object
    | n + 1, object => do
      match ← subscript start object mayCall mayIndex with
      | some e => go n e
      | none => return object

def importCall (start : Nat) (mayCall : Bool) : Parse Node := do
  unless ← isAt .leftParen do unexpected "("
  subscripts start mayCall (.importCallee (← spanFrom start))

def importExpression (mayCall : Bool) : Parse Node := do
  let start ← position
  bump
  if ← eat .dot then
    let name ← propertyName
    if name.text = "meta" then
      subscripts start mayCall (.metaProperty (← spanFrom start) .importMeta)
    else if name.text = "defer" || name.text = "source" then importCall start mayCall
    else unexpected "meta"
  else importCall start mayCall

def superExpression (mayCall : Bool) : Parse Node := do
  let t ← current
  bump
  subscripts t.start.offset mayCall (.superCallee t.span)

def newTarget (start : Nat) : Parse Node := do
  unless ← eatWord "target" do unexpected "target"
  let span ← spanFrom start
  let c ← context
  unless c.inPlainFunction || c.inParameters || c.inClass do
    report .newTargetOutsideFunction span.lo
  subscripts start false (.metaProperty span .newTarget)

def checkConstructed (callee : Node) : Parse Unit := do
  match callee with
  | .optionalChain span true _ => fail .constructorInChain span.lo
  | .member _ (.optionalChain span true _) _ => fail .constructorInChain span.lo
  | _ => return

def isArrow : Node → Bool
  | .arrowFunction .. => true
  | _ => false

/-- An expression with its accesses but without calls; `new` takes the arguments after it. A `new`
directly after another one may go without. -/
def memberExpression : Nat → Bool → Parse Node
  | 0, _ => failHere .tooDeep
  | n + 1, isConstructed => do
    let start ← position
    if ← eatWord "new" then
      if ← eat .dot then return ← newTarget start
      let callee ← memberExpression n true
      if isArrow callee then return callee
      checkConstructed callee
      if !isConstructed || (← isAt .leftParen) then
        let arguments ← if ← isAt .leftParen then callArguments else pure []
        subscripts start false (.construct (← spanFrom start) callee arguments)
      else return .construct (← spanFrom start) callee []
    else if ← isAtWord "super" then superExpression false
    else if ← isAtWord "import" then importExpression false
    else
      let object ← primary
      if isArrow object then return object
      subscripts start false object

def leftHandSide : Parse Node := do
  let start ← position
  if (← context).markup && (← isAt (.operator .less)) then return ← markup
  if ← isAtWord "super" then return ← superExpression true
  if ← isAtWord "import" then return ← importExpression true
  let callee ← memberExpression (← limit) false
  if isArrow callee then return callee
  if ← isAt .leftParen then subscripts start true callee else return callee

/-- `await` with its operand. The word stands at `word` if it is passed already. It is a misused
name if nothing follows it. -/
def awaitExpression (word : Option Span) : Parse Node := do
  let span ← match word with
    | some span => pure span
    | none => do
      let t ← current
      bump
      pure t.span
  if ← isAt (.operator .multiply) then failHere .awaitStar
  let c ← context
  let t ← current
  let ends := (← atStatementEnd) || t.is .rightParen || t.is .rightBracket || t.is .comma
  if !c.inAsync && ends then
    report .awaitAsIdentifier span.lo
    return .identifier span "await"
  if c.inFunction && !c.inAsync then report .awaitInFunction span.lo
  if c.inParameters && !c.inFunction then report .awaitInParameters span.lo
  let argument ← descend .unary
  return .await (← spanFrom span.lo) argument

def unaryOperator? (t : Token) : Option UnaryOperator :=
  match t.kind with
  | .punctuator (.operator .subtract) => some .minus
  | .punctuator (.operator .add) => some .plus
  | .punctuator .logicalNot => some .logicalNot
  | .punctuator .bitNot => some .bitNot
  | .word "typeof" => some .typeOf
  | .word "void" => some .void
  | .word "delete" => some .delete
  | _ => none

def isUpdate (t : Token) : Bool := t.is .increment || t.is .decrement

def operand : Parse Node := do
  let start ← position
  try descend .unary
  catch d =>
    report d.fault d.offset
    return .invalid ⟨start - 1, start - 1⟩

def unary : Parse Node := do
  let t ← current
  let start := t.start.offset
  if isUpdate t then
    bump
    let argument ← descend .unary
    checkTarget argument
    return .update (Span.ofEnds start argument.span.hi) argument
  if let some op := unaryOperator? t then
    bump
    let argument ← operand
    if let (.delete, .identifier span _) := (op, argument) then
      note ⟨.deleteIdentifier, span.lo⟩
    return .unary (Span.ofEnds start argument.span.hi) op argument
  if t.isWord "await" then return ← awaitExpression none
  let e ← leftHandSide
  if isArrow e || (← afterNewline) then return e
  if isUpdate (← current) then
    checkTarget e
    bump
    return .update (← spanFrom e.span.lo) e
  return e

def binaryOperator? : Parse (Option BinaryOperator) := do
  let t ← current
  if t.isWord "in" then return if (← context).hasIn then some .isIn else none
  else if t.isWord "instanceof" then return some .instanceOf
  else return operator? t

def isUnary : Node → Bool
  | .unary .. | .await .. => true
  | _ => false

def checkNullishOperand (e : Node) : Parse Unit := do
  if let .binary span op _ _ := e then
    if op.isLogical then report .nullishMixed span.lo

def checkLogicalOperand (e : Node) : Parse Unit := do
  if let .binary span op (.binary _ .nullish _ _) _ := e then
    if op.isLogical then report .nullishMixed span.lo

/-- An operation with the operator that comes next, if it binds tighter than `minimum`. -/
def binaryStep (left : Node) (minimum : Nat) : Parse (Option Node) := do
  let some op := ← binaryOperator? | return none
  if op.precedence ≤ minimum then return none
  bump
  if op = .power && isUnary left then failHere .powerOfUnary
  let first ← descend .unary
  let right ← descend
    (.binaryTail first (if op = .power then op.precedence - 1 else op.precedence))
  if op = .nullish then
    checkNullishOperand left
    checkNullishOperand right
  return some (.binary (Span.ofEnds left.span.lo right.span.hi) op left right)

/-- The operations after a left operand whose operators bind tighter than `minimum`. -/
def binaryTail (left : Node) (minimum : Nat) : Parse Node := do
  go (← limit) left
where
  go : Nat → Node → Parse Node
    | 0, left => return left
    | n + 1, left => do
      match ← binaryStep left minimum with
      | some e =>
        checkLogicalOperand e
        go n e
      | none =>
        checkLogicalOperand left
        return left

/-- Operands with operators between them. A fault in the first operand does not end parsing if an
operator follows it. -/
def binary : Parse Node := do
  let left ←
    try unary
    catch d =>
      if (← binaryOperator?).isSome then
        report d.fault d.offset
        pure (.invalid ⟨d.offset, d.offset⟩)
      else throw d
  if isArrow left then return left
  binaryTail left 0

def conditional : Parse Node := do
  let start ← position
  let test ← binary
  if isArrow test then return test
  if ← eat .question then
    let consequent ← withIn (descend .assignment)
    expect .colon
    let alternate ← descend .assignment
    return .conditional (Span.ofEnds start alternate.span.hi) test consequent alternate
  else return test

def startsExpression (t : Token) : Bool :=
  match t.kind with
  | .word w =>
    !isKeyword w || ["class", "delete", "false", "function", "import", "new", "null", "super",
      "this", "throw", "true", "typeof", "void"].contains w
  | .string .. | .number .. | .bigint | .template .. => true
  | .punctuator p =>
    [.logicalNot, .bitNot, .leftParen, .leftBrace, .leftBracket, .increment, .decrement, .atSign,
      .hash, .operator .add, .operator .subtract, .operator .less].contains p
  | .endOfFile | .invalid _ => false

def yieldExpression : Parse Node := do
  let t ← current
  let start := t.start.offset
  bump
  let c ← context
  if c.inParameters && !c.inFunction then fail .yieldInParameters start
  let next ← current
  let isDivision := next.is (.operator .divide) || next.is (.assign (.combined .divide))
  let isDelegate := next.is (.operator .multiply)
  if (← atStatementEnd) || (!isDelegate && !isDivision && !startsExpression next) then
    return .yield t.span none
  let _ ← eat (.operator .multiply)
  let argument ← descend .assignment
  return .yield (← spanFrom start) (some argument)

def assignOperator? (t : Token) : Option AssignOperator :=
  match t.punctuator? with
  | some (.assign op) => some op
  | _ => none

def assignmentTo (start : Nat) (left : Node) (op : AssignOperator) : Parse Node := do
  let target ←
    match op with
    | .assign => asPattern .assignment left
    | .combined _ => do
      checkTarget left
      match left with
      | .arrayLiteral .. | .objectLiteral .. => pure left
      | _ => pure (asTarget left)
  unless isTarget target do fail .invalidAssignmentTarget left.span.lo
  bump
  let right ← descend .assignment
  return .assignment (← spanFrom start) op target right

def isOperation : Node → Bool
  | .conditional .. | .binary .. | .unary .. | .update .. => true
  | _ => false

def mayStartArrow (t : Token) : Bool :=
  t.is .leftParen || t.word?.any fun w => !isKeyword w && w != "await" && w != "let"

def assignment : Parse Node := do
  if (← context).inGenerator && (← isAtWord "yield") then return ← yieldExpression
  checkToken
  let t ← current
  let start := t.start.offset
  modify fun s => { s with arrowStart := if mayStartArrow t then some start else none }
  let e ← conditional
  if isArrow e || isOperation e then return e
  match assignOperator? (← current) with
  | some op => assignmentTo start e op
  | none => return e

def expression : Parse Node := do
  let first ← assignment
  unless ← isAt .comma do return first
  let others ← collect (eat .comma) (descend .assignment)
  return .sequence (← spanFrom first.span.lo) (first :: others)

/-- A decorator: a name with names after periods and at most one call, or an expression in
parentheses. -/
def decorator : Parse Node := do
  let start ← position
  bump
  let head ← position
  let e ←
    if ← eat .leftParen then
      let e ← withIn (descend .expression)
      expect .rightParen
      pure (Node.parenthesized (← spanFrom head) e)
    else
      let name ← identifier false
      subscripts head false (.identifier name.span name.text) false
  let e ←
    if ← isAt .leftParen then
      let arguments ← callArguments
      pure (Node.call (← spanFrom head) e arguments)
    else pure e
  return .decorator (← spanFrom start) e

def isFunction : Node → Bool
  | .functionExpression .. | .arrowFunction .. => true
  | _ => false

def shorthandDefault? : Node → Option Span
  | .shorthandDefault span _ _ => some span
  | _ => none

/-- The shorthand properties with initializers in an expression, outside the functions in it. -/
def shorthandDefaults (n : Node) : List Span :=
  if isFunction n then []
  else (shorthandDefault? n).toList ++ n.children.attach.flatMap fun c => shorthandDefaults c.1
termination_by sizeOf n
decreasing_by exact Node.sizeOf_lt_of_mem_children c.2

def checkExpression (e : Node) : Parse Unit :=
  (shorthandDefaults e).forM fun span => report .initializerInShorthand span.lo

end ScriptFeatures.Syntax.Parse
