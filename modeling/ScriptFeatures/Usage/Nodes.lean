import ScriptFeatures.Usage.Names
import ScriptFeatures.Syntax.Node
import ScriptFeatures.Text.Search

namespace ScriptFeatures.Usage

open Syntax Text

/-- A feature that a node shows and the place to cite for it. -/
structure Use where
  key : String
  span : Span
deriving DecidableEq, Repr, Inhabited

/-- The member access that an expression is, within parentheses and optional chains: its object
and its property. -/
def memberOf? : Node → Option (Node × Node)
  | .member _ object property => some (object, property)
  | .optionalChain _ _ (.member _ object property) => some (object, property)
  | .parenthesized _ e => memberOf? e
  | _ => none

/-- The property name that `a.b` and `a["b"]` spell out. -/
def propertyName? : Node → Option String
  | .propertyName _ name => some name
  | .index _ (.stringLiteral _ value _) => some value
  | _ => none

/-- What a pattern shows as a parameter. -/
def paramUse? : Node → Option Use
  | .defaultPattern span _ _ => some ⟨"default-parameters", span⟩
  | .restElement span _ => some ⟨"rest-parameters", span⟩
  | _ => none

/-- The pattern of a plain parameter. -/
def paramPattern? : Node → Option Node
  | .parameter _ _ pattern => some pattern
  | _ => none

/-- What the `async` and `*` of a function show. -/
def functionFlags (span : Span) (isAsync isGenerator : Bool) : List Use :=
  (if isGenerator then [⟨"generators", span⟩] else [])
    ++ (if isAsync then [⟨"async-functions", span⟩] else [])
    ++ (if isAsync && isGenerator then [⟨"async-generators", span⟩] else [])

/-- The head of a function: its text up to its body. -/
def functionHead (span : Span) (body : Option Node) : Span :=
  match body with
  | some b => span.withHi b.span.lo
  | none => span

/-- What a call of `callee` shows: a function of a built-in object if the receiver names one, else
every method of that name. -/
def callUses (callee : Node) (span : Span) : List Use :=
  match memberOf? callee with
  | none => []
  | some (object, property) =>
    match propertyName? property with
    | none => []
    | some name =>
      let ofMethod := (methods.lookup name).getD []
      match object with
      | .identifier _ receiver =>
        let ofReceiver := builtinFunctions.filter fun (n, functions, _) =>
          n == receiver && functions.contains name
        if ofReceiver.isEmpty then ofMethod.map (⟨·, span⟩)
        else ofReceiver.map fun (_, _, key) => ⟨key, span⟩
      | _ => ofMethod.map (⟨·, span⟩)

/-- Whether the second argument is an object literal. -/
def hasOptionsObject (arguments : List Node) : Bool :=
  match (arguments[1]? : Option Node) with
  | some (.objectLiteral ..) => true
  | _ => false

/-- What `new callee(…)` shows. -/
def constructUses (callee : Node) (arguments : List Node) (span : Span) : List Use :=
  match callee with
  | .identifier _ name =>
    ((constructors.lookup name).toList.map (⟨·, span⟩))
      ++ if hasOptionsObject arguments && errorConstructors.contains name then
          [⟨"error-cause", span⟩]
        else []
  | _ => []

/-- How lookbehinds and named groups begin. -/
def groupMark : List Char := ['(', '?', '<']

/-- Whether the byte after the mark makes the group a lookbehind. -/
def isLookbehind (next : Option UInt8) : Bool :=
  next == some '='.toUInt8 || next == some '!'.toUInt8

/-- Whether a lookbehind begins in a pattern. -/
def hasLookbehind (pattern : List Char) : Bool :=
  occursIn ['(', '?', '<', '='] pattern || occursIn ['(', '?', '<', '!'] pattern

/-- Whether a group begins in a pattern that has the mark and is no lookbehind. -/
def hasNamedGroup (pattern : List Char) : Bool :=
  let bytes := utf8Bytes pattern
  (matchOffsets groupMark 0 0 pattern).any fun i => !isLookbehind bytes[i + groupMark.length]?

/-- What a regular expression shows by its flags and by plain substrings of its pattern. -/
def regexUses (pattern flags : List Char) (span : Span) : List Use :=
  (regexFlags.filter fun (flag, _) => flags.contains flag).map (fun (_, key) => ⟨key, span⟩)
    ++ (if hasLookbehind pattern then [⟨"regex-lookbehind", span⟩] else [])
    ++ (if hasNamedGroup pattern then [⟨"regex-named-groups", span⟩] else [])
    ++ if occursIn ['\\', 'p', '{'] pattern || occursIn ['\\', 'P', '{'] pattern then
        [⟨"regex-unicode-property-escapes", span⟩]
      else []

/-- Whether a raw text holds the start of a code point escape. -/
def hasCodePointEscape (raw : String) : Bool := occursIn ['\\', 'u', '{'] raw.toList

/-- What a number shows by its spelling. -/
def numberUses (raw : List Char) (span : Span) : List Use :=
  (if raw.contains '_' then [⟨"numeric-separators", span⟩] else [])
    ++ match raw with
      | '0' :: c :: _ =>
        if ['b', 'B', 'o', 'O'].contains c then [⟨"binary-octal-literals", span⟩] else []
      | _ => []

/-- What a part of a template shows. -/
def quasiUse? : Node → Option Use
  | .templateElement span raw =>
    if hasCodePointEscape raw then some ⟨"unicode-code-point-escapes", span⟩ else none
  | _ => none

/-- Whether a template's tag is `String.raw`. -/
def isStringRaw (tag : Node) : Bool :=
  match memberOf? tag with
  | some (.identifier _ "String", property) => propertyName? property == some "raw"
  | _ => false

/-- What an operator between two operands shows. -/
def binaryUses (operator : BinaryOperator) (left : Node) (span : Span) : List Use :=
  match operator, left with
  | .power, _ => [⟨"exponentiation", span⟩]
  | .nullish, _ => [⟨"nullish-coalescing", span⟩]
  | .isIn, .privateName .. => [⟨"private-in", span⟩]
  | _, _ => []

/-- What an assignment shows by its operator. -/
def assignmentUses (operator : AssignOperator) (span : Span) : List Use :=
  match operator with
  | .combined .power => [⟨"exponentiation", span⟩]
  | .combined .logicalAnd | .combined .logicalOr | .combined .nullish =>
    [⟨"logical-assignment", span⟩]
  | _ => []

/-- What a rest property in an object pattern shows. -/
def restPropertyUse? : Node → Option Use
  | .restElement span _ => some ⟨"object-rest-spread", span⟩
  | _ => none

end ScriptFeatures.Usage

namespace ScriptFeatures.Syntax.Node

open Usage

/-- What a node shows, wherever it stands. -/
def uses : Node → List Use
  | identifier span name => (globals.lookup name).toList.map (⟨·, span⟩)
  | computedKey span _ => [⟨"computed-properties", span⟩]
  | stringLiteral span _ (some raw) =>
    if hasCodePointEscape raw then [⟨"unicode-code-point-escapes", span⟩] else []
  | numberLiteral span (some raw) => numberUses raw.toList span
  | bigintLiteral span => [⟨"bigint", span⟩]
  | regexLiteral span pattern flags => regexUses pattern.toList flags.toList span
  | n@(spread ..) => [⟨"spread-syntax", n.span⟩]
  | n@(objectSpread ..) => [⟨"object-rest-spread", n.span⟩]
  | arrowFunction span isAsync isGenerator params _ =>
    ⟨"arrow-functions", span⟩ :: functionFlags span isAsync isGenerator
      ++ params.filterMap paramUse?
  | function span isAsync isGenerator params _ body =>
    functionFlags (functionHead span body) isAsync isGenerator
      ++ (params.filterMap paramPattern?).filterMap paramUse?
  | constructorMember _ _ params _ => (params.filterMap paramPattern?).filterMap paramUse?
  | template span _ quasis => ⟨"template-literals", span⟩ :: quasis.filterMap quasiUse?
  | taggedTemplate span tag _ =>
    ⟨"tagged-templates", span⟩ :: if isStringRaw tag then [⟨"string-raw", span⟩] else []
  | call span (importCallee _) _ => [⟨"dynamic-import", span⟩]
  | call _ (superCallee _) _ => []
  | call span callee _ => callUses callee span
  | optionalCall span callee _ => callUses callee span
  | construct span callee arguments => constructUses callee arguments span
  | optionalChain span true _ => [⟨"optional-chaining", span⟩]
  | metaProperty span .newTarget => [⟨"new-target", span⟩]
  | metaProperty span .importMeta => [⟨"import-meta", span⟩]
  | await span _ => [⟨"await", span⟩]
  | binary span operator left _ => binaryUses operator left span
  | assignment span operator _ _ => assignmentUses operator span
  | shorthand span _ => [⟨"shorthand-properties", span⟩]
  | method _ f => [⟨"method-definitions", f.span⟩]
  | arrayPattern span _ => [⟨"destructuring", span⟩]
  | objectPattern span properties =>
    ⟨"destructuring", span⟩ :: properties.filterMap restPropertyUse?
  | classDefinition span _ _ _ => [⟨"classes", span⟩]
  | classProperty span isStatic _ _ _ =>
    [⟨if isStatic then "static-class-fields" else "class-fields", span⟩]
  | privateProperty span isStatic _ _ _ =>
    ⟨"private-class-fields", span⟩ :: if isStatic then [⟨"static-class-fields", span⟩] else []
  | privateMethod span _ _ _ _ => [⟨"private-methods", span⟩]
  | staticBlock span _ => [⟨"class-static-blocks", span⟩]
  | decorator span _ => [⟨"decorators", span⟩]
  | variableDeclaration span .const _ => [⟨"const", span⟩]
  | variableDeclaration span .let _ => [⟨"let", span⟩]
  | usingDeclaration span _ _ => [⟨"explicit-resource-management", span⟩]
  | forOfStatement span isAwait _ right _ =>
    let head := span.withHi right.span.hi
    ⟨"for-of", head⟩ :: if isAwait then [⟨"for-await-of", head⟩] else []
  | catchClause span none _ => [⟨"optional-catch-binding", span⟩]
  | importDeclaration span _ _ _ => [⟨"es-modules", span⟩]
  | exportNames span _ _ _ => [⟨"es-modules", span⟩]
  | exportAll span _ _ => [⟨"es-modules", span⟩]
  | exportDeclaration span _ => [⟨"es-modules", span⟩]
  | exportDefaultDeclaration span _ => [⟨"es-modules", span⟩]
  | exportDefaultExpression span _ => [⟨"es-modules", span⟩]
  | _ => []

/-- The place of an `await` that would be a top-level one outside all functions. -/
def awaited? : Node → Option Span
  | await span _ => some span
  | forOfStatement span true _ right _ => some (span.withHi right.span.hi)
  | _ => none

/-- Whether the parts of a node count as standing inside a function. -/
def isFunctionBoundary : Node → Bool
  | function .. | arrowFunction .. | constructorMember .. | getter .. | setter .. => true
  | staticBlock .. => true
  | _ => false

end ScriptFeatures.Syntax.Node
