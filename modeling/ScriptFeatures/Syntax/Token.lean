import ScriptFeatures.Syntax.Diagnostic
import ScriptFeatures.Syntax.Operator
import ScriptFeatures.Syntax.Span

namespace ScriptFeatures.Syntax

/-- A place in a text: the characters from there on and the number of bytes before them. -/
structure Cursor where
  rest : List Char
  offset : Nat
deriving Inhabited

namespace Cursor

def advance : Nat → Cursor → Cursor
  | 0, c => c
  | _ + 1, ⟨[], offset⟩ => ⟨[], offset⟩
  | n + 1, ⟨x :: xs, offset⟩ => advance n ⟨xs, offset + x.utf8Size⟩

def textUpTo (start stop : Cursor) : String :=
  String.ofList (start.rest.take (start.rest.length - stop.rest.length))

end Cursor

/-- Punctuators. -/
inductive Punctuator where
  | operator (op : BinaryOperator)
  | assign (op : AssignOperator)
  | logicalNot | bitNot | increment | decrement
  | leftBrace | rightBrace | leftParen | rightParen | leftBracket | rightBracket
  | semicolon | comma | dot | ellipsis | question | questionDot | colon | doubleColon
  | arrow | atSign | hash
deriving DecidableEq, Repr, Inhabited

namespace Punctuator

def text : Punctuator → String
  | operator op => op.symbol
  | assign op => op.symbol
  | logicalNot => "!" | bitNot => "~" | increment => "++" | decrement => "--"
  | leftBrace => "\x7b" | rightBrace => "\x7d" | leftParen => "(" | rightParen => ")"
  | leftBracket => "[" | rightBracket => "]"
  | semicolon => ";" | comma => "," | dot => "." | ellipsis => "..." | question => "?"
  | questionDot => "?." | colon => ":" | doubleColon => "::"
  | arrow => "=>" | atSign => "@" | hash => "#"

def operators : List BinaryOperator :=
  BinaryOperator.all.filter fun op => op != .isIn && op != .instanceOf

def byLength : List (List Char × Punctuator) :=
  let all := operators.map operator ++ AssignOperator.all.map assign
    ++ [logicalNot, bitNot, increment, decrement, leftBrace, rightBrace, leftParen, rightParen,
      leftBracket, rightBracket, semicolon, comma, dot, ellipsis, question, questionDot, colon,
      doubleColon, arrow, atSign, hash]
  let texts := all.map fun p => (p.text.toList, p)
  [4, 3, 2, 1].flatMap fun n => texts.filter (·.1.length = n)

end Punctuator

/-- One part of a template: the text between two delimiters. -/
structure TemplatePart where
  raw : String
  /-- Where the text between the delimiters stands. -/
  span : Span
  /-- An escape that only a tagged template may hold. -/
  badEscape : Option Diagnostic
  /-- Whether the closing quote comes next, and not an expression. -/
  isLast : Bool
deriving Inhabited

inductive TokenKind where
  | punctuator (p : Punctuator)
  | word (text : String)
  | string (value raw : String)
  | number (raw : String)
  | bigint
  /-- The start of a template up to its first expression or its end. -/
  | template (part : TemplatePart)
  | endOfFile
  /-- Characters that form no token. -/
  | invalid (d : Diagnostic)
deriving Inhabited

/-- A token, the places at its two ends, and whether a line ends somewhere before it. -/
structure Token where
  kind : TokenKind
  start : Cursor
  stop : Cursor
  afterNewline : Bool
deriving Inhabited

namespace Token

def span (t : Token) : Span := ⟨t.start.offset, t.stop.offset⟩

def text (t : Token) : String :=
  match t.kind with
  | .punctuator p => p.text
  | .word w => w
  | .endOfFile => "<eof>"
  | _ => t.start.textUpTo t.stop

def punctuator? (t : Token) : Option Punctuator :=
  match t.kind with
  | .punctuator p => some p
  | _ => none

def word? (t : Token) : Option String :=
  match t.kind with
  | .word w => some w
  | _ => none

def isEnd (t : Token) : Bool :=
  match t.kind with
  | .endOfFile => true
  | _ => false

def is (t : Token) (p : Punctuator) : Bool := t.punctuator? == some p

def isWord (t : Token) (w : String) : Bool := t.word? == some w

end Token

def keywords : List String :=
  ["break", "case", "catch", "class", "const", "continue", "debugger", "default", "delete", "do",
    "else", "export", "extends", "false", "finally", "for", "function", "if", "import", "in",
    "instanceof", "new", "null", "return", "super", "switch", "this", "throw", "true", "try",
    "typeof", "var", "void", "while", "with"]

def isKeyword (w : String) : Bool := keywords.contains w

def strictWords : List String :=
  ["await", "enum", "implements", "interface", "let", "package", "private", "protected", "public",
    "static", "yield"]

end ScriptFeatures.Syntax
