import ScriptFeatures.Syntax.Lexer
import ScriptFeatures.Syntax.Node

namespace ScriptFeatures.Syntax

/-- What surrounds the place that is being parsed. -/
structure Context where
  /-- Whether elements of markup are expressions. -/
  markup : Bool := false
  inAsync : Bool := false
  inGenerator : Bool := false
  inFunction : Bool := false
  /-- Whether a function other than an arrow function surrounds the place. -/
  inPlainFunction : Bool := false
  inParameters : Bool := false
  inClass : Bool := false
  inField : Bool := false
  inStaticBlock : Bool := false
  /-- Whether `in` is an operator. -/
  hasIn : Bool := true
  /-- Whether the place is the start of a loop's head. -/
  inLoopStart : Bool := false
  /-- Whether that loop awaits. -/
  inAwaitLoopStart : Bool := false
  mayBreak : Bool := false
  mayContinue : Bool := false
  labels : List String := []

/-- The rules of the grammar that rules inside them refer to. -/
inductive Goal where
  | expression
  | assignment
  | unary
  | leftHandSide
  | binaryTail (left : Node) (minimum : Nat)
  | decorator
  | bindingPattern
  | statement (allowsDeclaration : Bool)

/-- Where the parser stands. -/
structure ParserState where
  current : Token
  /-- The place of the token before the current one. -/
  previous : Span := ⟨0, 0⟩
  /-- Where the latest expression starts that an arrow function may be. -/
  arrowStart : Option Nat := none
  /-- Commas before the closing bracket of a literal, by the start of the literal. -/
  trailingCommas : List (Nat × Span) := []
  /-- The diagnostics that did not end parsing, the latest first. -/
  diagnostics : List Diagnostic := []

/-- A fatal diagnostic ends parsing. The others are collected in the state. -/
abbrev Run := EStateM Diagnostic ParserState

/-- What a rule is given: its surroundings, a bound on the number of repetitions, and the rules
that it may descend to. -/
structure Grammar where
  context : Context
  limit : Nat
  descend : Goal → Context → Run Node

abbrev Parse := ReaderT Grammar Run

namespace Parse

def context : Parse Context := return (← read).context

def within {α : Type} (change : Context → Context) (p : Parse α) : Parse α :=
  withReader (fun g => { g with context := change g.context }) p

def withIn {α : Type} (p : Parse α) : Parse α := within (fun c => { c with hasIn := true }) p

def descend (goal : Goal) : Parse Node := do
  let g ← read
  g.descend goal g.context

def limit : Parse Nat := return (← read).limit

def collect {α : Type} (more : Parse Bool) (item : Parse α) : Parse (List α) := do
  go (← limit)
where
  go : Nat → Parse (List α)
    | 0 => return []
    | n + 1 => do
      if ← more then
        let x ← item
        return x :: (← go n)
      else return []

def current : Parse Token := return (← get).current

def position : Parse Nat := return (← get).current.start.offset

def previous : Parse Span := return (← get).previous

def spanFrom (start : Nat) : Parse Span := return .ofEnds start (← previous).hi

def peek : Parse Token := return (Lexer.next (← current).stop false).token

def note (d : Diagnostic) : Parse Unit :=
  modify fun s => { s with diagnostics := d :: s.diagnostics }

/-- Makes the first token at `stop` the current one; what precedes it lies between the places. -/
def moveTo (start stop : Cursor) : Parse Unit := do
  let lexed := Lexer.next stop false
  modify fun s => { s with
    current := lexed.token
    previous := ⟨start.offset, stop.offset⟩
    diagnostics := lexed.faults.reverse ++ s.diagnostics }

def bump : Parse Unit := do
  let t ← current
  moveTo t.start t.stop

/-- Reports a fault that does not end parsing. If the current token is invalid, that is reported
first and the token is passed over. -/
def report (fault : Fault) (offset : Nat) : Parse Unit := do
  match (← current).kind with
  | .invalid d =>
    bump
    note d
  | _ => pure ()
  note ⟨fault, offset⟩

def fail {α : Type} (fault : Fault) (offset : Nat) : Parse α := do
  match (← current).kind with
  | .invalid d =>
    bump
    note d
  | _ => pure ()
  throw ⟨fault, offset⟩

def failHere {α : Type} (fault : Fault) : Parse α := do fail fault (← position)

def unexpected {α : Type} (wanted : String) : Parse α := do
  failHere (.unexpected (← current).text wanted)

def checkToken : Parse Unit := do
  match (← current).kind with
  | .invalid d =>
    bump
    throw d
  | _ => pure ()

def isAt (p : Punctuator) : Parse Bool := return (← current).is p

def isAtWord (w : String) : Parse Bool := return (← current).isWord w

def isAtEnd : Parse Bool := return (← current).isEnd

def afterNewline : Parse Bool := return (← current).afterNewline

def eat (p : Punctuator) : Parse Bool := do
  if ← isAt p then
    bump
    return true
  else return false

def eatWord (w : String) : Parse Bool := do
  if ← isAtWord w then
    bump
    return true
  else return false

def expect (p : Punctuator) : Parse Unit := do
  unless ← eat p do failHere (.expected p.text (← current).text)

def expectWord (w : String) : Parse Unit := do
  unless ← eatWord w do failHere (.expected w (← current).text)

/-- Whether a statement may end before the current token: at a semicolon, at the end of a block or
of the text, and at a line end. -/
def atStatementEnd : Parse Bool := do
  let t ← current
  return t.is .semicolon || t.is .rightBrace || t.isEnd || t.afterNewline

def eatSemicolon : Parse Bool := do
  if ← eat .semicolon then return true else atStatementEnd

def expectSemicolon : Parse Unit := do
  unless ← eatSemicolon do failHere (.expected ";" (← current).text)

def before (close : Punctuator) : Parse Bool := do
  let t ← current
  return !t.isEnd && !t.is close

/-- Passes over the comma after an item, unless the closing punctuator follows. The answer is the
comma that stands right before the closing punctuator. -/
def comma (close : Punctuator) : Parse (Option Span) := do
  if ← isAt close then return none
  expect .comma
  if ← isAt close then return some (← previous) else return none

end Parse
end ScriptFeatures.Syntax
