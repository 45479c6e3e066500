import ScriptFeatures.Syntax.Parser.Item

namespace ScriptFeatures.Syntax

namespace Parse

def rule : Goal → Parse Node
  | .expression => expression
  | .assignment => assignment
  | .unary => unary
  | .leftHandSide => leftHandSide
  | .binaryTail left minimum => binaryTail left minimum
  | .decorator => decorator
  | .bindingPattern => bindingPattern false
  | .statement allowsDeclaration => statement allowsDeclaration

/-- A descent past the bound ends parsing with a diagnostic of its own. -/
def descendWithin (limit : Nat) : Nat → Goal → Context → Run Node
  | 0, _, _ => fun s => .error ⟨.tooDeep, s.current.start.offset⟩ s
  | depth + 1, goal, context =>
    (rule goal).run { context, limit, descend := descendWithin limit depth }

def moduleItems : Parse (List Node) := collect (return !(← isAtEnd)) moduleItem

end Parse

/-- What the parser makes of a text: a module, or the diagnostic that ended parsing, and the other
diagnostics in the order in which they were found. -/
structure Outcome where
  result : Except Diagnostic Node
  recovered : List Diagnostic

namespace Outcome

/-- The module, unless something is wrong with it. A diagnostic that ended parsing comes before
the others; of these the first one counts that strict mode alone is not the reason for. -/
def accept (o : Outcome) : Except Diagnostic Node :=
  match o.result with
  | .error d => .error d
  | .ok module =>
    match o.recovered.find? (!·.fault.isStrictModeOnly) with
    | some d => .error d
    | none => .ok module

end Outcome

def withoutMark : List Char → List Char
  | c :: cs => if c.toNat = 0xFEFF then cs else c :: cs
  | [] => []

def Cursor.afterInterpreterLine (c : Cursor) : Cursor :=
  match c.rest with
  | '#' :: '!' :: cs =>
    c.advance (2 + (cs.takeWhile fun x => !Text.isLineTerminator x).length)
  | _ => c

/-- Parses a module. Positions in it count bytes from `base` on; a mark before the first character
is not counted. -/
def parseModule (markup : Bool) (base : Nat) (text : List Char) : Outcome :=
  let start : Cursor := ⟨withoutMark text, base⟩
  let first := Lexer.next start.afterInterpreterLine true
  let state : ParserState := { current := first.token, diagnostics := first.faults.reverse }
  let limit := start.rest.length + 2
  let context : Context := { markup }
  let grammar : Grammar :=
    { context, limit, descend := Parse.descendWithin limit (4 * limit + 64) }
  match (Parse.moduleItems.run grammar).run state with
  | .ok items s => ⟨.ok (.module ⟨base, s.previous.hi⟩ items), s.diagnostics.reverse⟩
  | .error d s => ⟨.error d, s.diagnostics.reverse⟩

end ScriptFeatures.Syntax
