namespace ScriptFeatures.Syntax

/-- Operators between two operands. -/
inductive BinaryOperator where
  | equal | notEqual | strictEqual | strictNotEqual
  | less | lessEqual | greater | greaterEqual
  | shiftLeft | shiftRight | shiftRightUnsigned
  | add | subtract | multiply | divide | remainder
  | bitOr | bitXor | bitAnd | logicalOr | logicalAnd
  | isIn | instanceOf | power | nullish
deriving DecidableEq, Repr, Inhabited

namespace BinaryOperator

def symbol : BinaryOperator → String
  | equal => "==" | notEqual => "!=" | strictEqual => "===" | strictNotEqual => "!=="
  | less => "<" | lessEqual => "<=" | greater => ">" | greaterEqual => ">="
  | shiftLeft => "<<" | shiftRight => ">>" | shiftRightUnsigned => ">>>"
  | add => "+" | subtract => "-" | multiply => "*" | divide => "/" | remainder => "%"
  | bitOr => "|" | bitXor => "^" | bitAnd => "&" | logicalOr => "||" | logicalAnd => "&&"
  | isIn => "in" | instanceOf => "instanceof" | power => "**" | nullish => "??"

def all : List BinaryOperator :=
  [equal, notEqual, strictEqual, strictNotEqual, less, lessEqual, greater, greaterEqual,
    shiftLeft, shiftRight, shiftRightUnsigned, add, subtract, multiply, divide, remainder,
    bitOr, bitXor, bitAnd, logicalOr, logicalAnd, isIn, instanceOf, power, nullish]

def ofSymbol? (text : String) : Option BinaryOperator := all.find? (·.symbol == text)

def precedence : BinaryOperator → Nat
  | nullish => 1
  | logicalOr => 1
  | logicalAnd => 2
  | bitOr => 3
  | bitXor => 4
  | bitAnd => 5
  | equal | notEqual | strictEqual | strictNotEqual => 6
  | less | lessEqual | greater | greaterEqual | isIn | instanceOf => 7
  | shiftLeft | shiftRight | shiftRightUnsigned => 8
  | add | subtract => 9
  | multiply | divide | remainder => 10
  | power => 11

def isLogical : BinaryOperator → Bool
  | logicalAnd | logicalOr => true
  | _ => false

end BinaryOperator

/-- Assignment, alone or combined with another operator. -/
inductive AssignOperator where
  | assign
  | combined (operator : BinaryOperator)
deriving DecidableEq, Repr, Inhabited

namespace AssignOperator

def symbol : AssignOperator → String
  | assign => "="
  | combined op => op.symbol ++ "="

def combinable : List BinaryOperator :=
  [.add, .subtract, .multiply, .divide, .remainder, .shiftLeft, .shiftRight,
    .shiftRightUnsigned, .bitOr, .bitXor, .bitAnd, .power, .logicalAnd, .logicalOr, .nullish]

def all : List AssignOperator := assign :: combinable.map combined

def ofSymbol? (text : String) : Option AssignOperator := all.find? (·.symbol == text)

end AssignOperator

/-- Operators before their single operand. -/
inductive UnaryOperator where
  | minus | plus | logicalNot | bitNot | typeOf | void | delete
deriving DecidableEq, Repr, Inhabited

/-- The declaration keywords that bind variables. -/
inductive VariableKind where
  | var | let | const
deriving DecidableEq, Repr, Inhabited

/-- What a method of a class is. -/
inductive MethodKind where
  | method | getter | setter
deriving DecidableEq, Repr, Inhabited

/-- The two meta-properties. -/
inductive MetaProperty where
  | newTarget | importMeta
deriving DecidableEq, Repr, Inhabited

end ScriptFeatures.Syntax
