import ScriptFeatures.Text.InvisibleTable
import ScriptFeatures.Text.Ranges

namespace ScriptFeatures.Syntax

/-- The cause of a diagnostic. -/
inductive Fault where
  -- Tokens that do not fit
  | expected (what got : String)
  | unexpected (got expected : String)
  | endOfInput
  | expressionExpected
  | identifierExpected
  | semicolonExpected
  | statementEndExpected
  | trailingComma
  -- Characters and literals
  | unexpectedCharacter (c : Char)
  | unicodeEscapeExpected
  | invalidUnicodeEscape
  | invalidIdentifierCharacter
  | escapedReservedWord (word : String)
  | escapeExpectsHex (digits : String)
  | digitExpected (radix : Nat)
  | exponentExpected
  | separatorMisplaced
  | identifierAfterNumber
  | unterminatedString
  | unterminatedTemplate
  | unterminatedComment
  | unterminatedRegex
  | unknownRegexFlags
  | repeatedRegexFlag (flag : Char)
  | legacyComment
  | spaceAfterHash
  -- Names
  | awaitAsIdentifier
  | reservedInStrict (word : String)
  | evalOrArgumentsInStrict
  | argumentsOutsideFunction
  -- Expressions
  | powerOfUnary
  | nullishMixed
  | deleteIdentifier
  | invalidAssignmentTarget
  | notAssignable
  | cannotAssign
  | notAPattern
  | initializerInShorthand
  | emptyParentheses
  | spreadInParentheses
  | arrowAfterLineBreak
  | arrowMisplaced
  | taggedTemplateInChain
  | constructorInChain
  | importMisplaced
  | superMisplaced
  | newTargetOutsideFunction
  | awaitInFunction
  | awaitInParameters
  | awaitStar
  | yieldInParameters
  -- Functions and classes
  | restNotLast
  | restNotFinal
  | restWithInitializer
  | restWithoutName
  | commaAfterRest
  | useStrictWithoutSimpleParameters
  | getterParameters
  | setterParameters
  | restInSetter
  | duplicateConstructor
  | constructorIsAccessor
  | constructorIsGenerator
  | constructorIsAsync
  | constructorIsStatic
  | constructorIsField
  | constructorIsPrivate
  | duplicateExtends
  -- Statements
  | declarationMisplaced
  | constWithoutInitializer
  | patternWithoutInitializer
  | initializerInLoopHead
  | manyBindingsInLoopHead
  | awaitInLoopHead
  | asyncInLoopHead
  | usingInForIn
  | usingWithoutInitializer
  | usingPattern
  | breakMisplaced
  | breakLabelUnknown
  | continueMisplaced
  | continueLabelUnknown
  | duplicateLabel (label : String)
  | labeledFunction
  | labeledGeneratorOrAsync
  | multipleDefaults
  | lineBreakAfterThrow
  | legacyOctal
  | legacyDecimal
  | withStatement
  -- Modules
  | moduleSyntaxMisplaced
  | stringAsImportBinding (name : String)
  | stringAsExportBinding
  | exportNeedsSource (name : String)
  | decoratorsBeforeAndAfterExport
  -- Markup
  | markupValueExpected
  | markupAttributeEmpty
  | markupClosingTagExpected (name : String)
  | markupFragmentEndExpected
  | markupGreaterThan
  | markupBrace
  -- The parser's own limit
  | tooDeep
deriving DecidableEq, Repr, Inhabited

namespace Fault

def invisibleTable : Array (Nat × Nat) := Text.invisibleRanges.toArray

/-- A character as it is shown in a message: one without a visible form by its code. -/
def showCharacter (c : Char) : String :=
  if c = '\x00' then "\\0"
  else if c.toNat < 0x20 || Text.inRanges invisibleTable c.toNat then
    "\\u\x7b" ++ String.ofList (Nat.toDigits 16 c.toNat) ++ "\x7d"
  else c.toString

def message : Fault → String
  | expected what got => "Expected '" ++ what ++ "', got '" ++ got ++ "'"
  | unexpected got wanted => "Unexpected token `" ++ got ++ "`. Expected " ++ wanted
  | endOfInput => "Unexpected eof"
  | expressionExpected => "Expression expected"
  | identifierExpected => "Expected ident"
  | semicolonExpected => "Expected a semicolon"
  | statementEndExpected => "Expected ';', '\x7d' or <eof>"
  | trailingComma => "Trailing comma is not allowed"
  | unexpectedCharacter c => "Unexpected character '" ++ showCharacter c ++ "'"
  | unicodeEscapeExpected => "Expected unicode escape"
  | invalidUnicodeEscape => "Invalid unicode escape"
  | invalidIdentifierCharacter => "Invalid character in identifier"
  | escapedReservedWord word => "Unexpected escape sequence in reserved word: " ++ word
  | escapeExpectsHex digits => "Bad character escape sequence, expected " ++ digits
  | digitExpected radix =>
    if radix = 2 then "Expected a binary digit"
    else if radix = 8 then "Expected an octal digit"
    else if radix = 16 then "Expected a hexadecimal digit"
    else "Expected a decimal digit"
  | exponentExpected => "Expected +, - or decimal digit after e"
  | separatorMisplaced => "A numeric separator is only allowed between two digits"
  | identifierAfterNumber => "Identifier cannot follow number"
  | unterminatedString => "Unterminated string constant"
  | unterminatedTemplate => "Unterminated template"
  | unterminatedComment => "Unterminated block comment"
  | unterminatedRegex => "Unterminated regexp literal"
  | unknownRegexFlags => "Unknown regular expression flags."
  | repeatedRegexFlag flag => "Duplicated regular expression flag '" ++ flag.toString ++ "'."
  | legacyComment => "Legacy comments cannot be used in module code"
  | spaceAfterHash => "Unexpected space between # and identifier"
  | awaitAsIdentifier => "`await` cannot be used as an identifier in an async context"
  | reservedInStrict word => "'" ++ word ++ "' cannot be used as an identifier in strict mode"
  | evalOrArgumentsInStrict =>
    "'eval' and 'arguments' cannot be used as a binding identifier in strict mode"
  | argumentsOutsideFunction => "'arguments' is only allowed in functions and class methods"
  | powerOfUnary => "'**' cannot be applied to unary/await expression."
  | nullishMixed =>
    "Nullish coalescing operator(??) requires parens when mixing with logical operators"
  | deleteIdentifier => "'delete' cannot be called on an identifier in strict mode"
  | invalidAssignmentTarget => "Invalid assignment target"
  | notAssignable =>
    "The left-hand side of an assignment expression must be a variable or a property access."
  | cannotAssign => "Cannot assign to this"
  | notAPattern => "Not a pattern"
  | initializerInShorthand => "assignment property is invalid syntax"
  | emptyParentheses => "Parenthesized expression cannot be empty"
  | spreadInParentheses => "Parenthesized expression cannot contain spread operator"
  | arrowAfterLineBreak => "Unexpected line break between arrow head and arrow"
  | arrowMisplaced => "An arrow function is not allowed here"
  | taggedTemplateInChain => "Tagged template literal is not allowed in optional chain."
  | constructorInChain => "Constructor in/after an optional chaining is not allowed."
  | importMisplaced => "Import is not allowed here"
  | superMisplaced => "Invalid access to super"
  | newTargetOutsideFunction =>
    "'new.target' is only allowed in the body of a function declaration, function expression, "
      ++ "or class."
  | awaitInFunction => "await isn't allowed in non-async function"
  | awaitInParameters => "`await` expressions cannot be used in a parameter initializer."
  | awaitStar => "await* has been removed from the async functions proposal. Use Promise.all() "
      ++ "instead."
  | yieldInParameters => "'yield' cannot be used as a parameter within generator"
  | restNotLast => "A rest parameter must be last in a parameter list"
  | restNotFinal => "Rest element must be final element"
  | restWithInitializer => "A rest parameter cannot have an initializer"
  | restWithoutName => "`...` must be followed by an identifier in declaration contexts"
  | commaAfterRest => "Trailing comma isn't permitted after a rest element"
  | useStrictWithoutSimpleParameters =>
    "Illegal 'use strict' directive in function with non-simple parameter list."
  | getterParameters => "A `get` accessor cannot have parameters"
  | setterParameters => "A `set` accessor must have exactly one parameter"
  | restInSetter => "Rest pattern is not allowed in setter"
  | duplicateConstructor => "A class can only have one constructor"
  | constructorIsAccessor => "Class constructor can't be an accessor."
  | constructorIsGenerator => "A constructor cannot be generator"
  | constructorIsAsync => "Constructor can't be an async function"
  | constructorIsStatic => "'static' modifier cannot appear on a constructor declaration"
  | constructorIsField => "Classes may not have a non-static field named 'constructor'"
  | constructorIsPrivate => "Classes can't have a private field named '#constructor'."
  | duplicateExtends => "'extends' clause already seen."
  | declarationMisplaced => "Declaration is not allowed"
  | constWithoutInitializer => "'const' declarations must be initialized"
  | patternWithoutInitializer => "Destructuring bindings require initializers"
  | initializerInLoopHead => "Unexpected initializer in for in/of loop"
  | manyBindingsInLoopHead => "Expected one variable binding"
  | awaitInLoopHead => "for await syntax is valid only for for-of statement"
  | asyncInLoopHead => "The left-hand side of a `for...of` statement may not be `async`"
  | usingInForIn => "Using declaration is not allowed in for-in loop"
  | usingWithoutInitializer => "Using declaration requires initializer"
  | usingPattern => "Using declaration only allows identifiers"
  | breakMisplaced =>
    "A 'break' statement can only be used within an enclosing iteration or switch statement"
  | breakLabelUnknown =>
    "A 'break' statement can only jump to a label of an enclosing statement"
  | continueMisplaced =>
    "A 'continue' statement can only jump to a label of an enclosing iteration statement"
  | continueLabelUnknown => "Jump target cannot cross function boundary"
  | duplicateLabel label => "Label " ++ label ++ " is already declared"
  | labeledFunction => "Function cannot be labelled in strict mode"
  | labeledGeneratorOrAsync => "Generator or async function cannot be labelled"
  | multipleDefaults => "A switch block cannot have multiple defaults"
  | lineBreakAfterThrow => "LineBreak cannot follow 'throw'"
  | legacyOctal => "Legacy octal literals are not available when targeting ECMAScript 5 and higher"
  | legacyDecimal => "Legacy decimal literals are not allowed in strict mode"
  | withStatement => "With statement are not allowed in strict mode"
  | moduleSyntaxMisplaced => "'import', and 'export' cannot be used outside of module code"
  | stringAsImportBinding name =>
    "A string literal cannot be used as an imported binding.\n- Did you mean `import \x7b \""
      ++ name ++ "\" as foo \x7d`?"
  | stringAsExportBinding =>
    "A string literal cannot be used as an exported binding without `from`."
  | exportNeedsSource name => "`" ++ name ++ "` cannot be used without `from` clause"
  | decoratorsBeforeAndAfterExport =>
    "Decorators may not appear after 'export' or 'export default' if they also appear before "
      ++ "'export'."
  | markupValueExpected =>
    "JSX value should be either an expression or a quoted JSX text"
  | markupAttributeEmpty =>
    "JSX attributes must only be assigned a non-empty expression"
  | markupClosingTagExpected name =>
    "Expected corresponding JSX closing tag for <" ++ name ++ ">"
  | markupFragmentEndExpected => "Expected corresponding closing tag for JSX fragment"
  | markupGreaterThan => "Unexpected token. Did you mean `\x7b'>'\x7d` or `&gt;`?"
  | markupBrace => "Unexpected token. Did you mean `\x7b'\x7d'\x7d` or `&rbrace;`?"
  | tooDeep => "The source is nested too deeply"

/-- Whether only strict mode finds the fault. Such faults are let pass: a module is always strict,
and older scripts are to be read as well. -/
def isStrictModeOnly : Fault → Bool
  | legacyOctal | legacyDecimal | withStatement | evalOrArgumentsInStrict => true
  | reservedInStrict _ => true
  | _ => false

end Fault

/-- A fault and the byte offset at which it is reported. -/
structure Diagnostic where
  fault : Fault
  offset : Nat
deriving DecidableEq, Repr, Inhabited

end ScriptFeatures.Syntax
