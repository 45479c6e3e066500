import ScriptFeatures.Syntax.Operator
import ScriptFeatures.Syntax.Span

namespace ScriptFeatures.Syntax

/-- A name that crosses a module's border and the name that it has inside. -/
structure ModuleBinding where
  external : String
  localName : String
deriving DecidableEq, Repr, Inhabited

/-- The nodes of syntax trees, all of one type, so that a walk needs a single recursion. A name that
is read as an expression is an `identifier`, one that is bound or assigned a `bindingName`, and one
of a property a `propertyName`. -/
inductive Node where
  -- Names
  | identifier (span : Span) (name : String)
  | bindingName (span : Span) (name : String)
  | propertyName (span : Span) (name : String)
  | privateName (span : Span) (name : String)
  | literalKey (span : Span) (text : String)
  | computedKey (span : Span) (expression : Node)
  -- Literals
  | stringLiteral (span : Span) (value : String) (raw : Option String)
  | numberLiteral (span : Span) (raw : Option String)
  | bigintLiteral (span : Span)
  | regexLiteral (span : Span) (pattern flags : String)
  | booleanLiteral (span : Span) (value : Bool)
  | nullLiteral (span : Span)
  -- Expressions
  | thisExpression (span : Span)
  | arrayLiteral (span : Span) (elements : List Node)
  | hole
  | spread (dots : Span) (argument : Node)
  | objectLiteral (span : Span) (properties : List Node)
  | functionExpression (name : Option String) (function : Node)
  | classExpression (name : Option String) (definition : Node)
  | arrowFunction (span : Span) (isAsync isGenerator : Bool) (params : List Node) (body : Node)
  | template (span : Span) (expressions quasis : List Node)
  | templateElement (span : Span) (raw : String)
  | taggedTemplate (span : Span) (tag template : Node)
  | member (span : Span) (object property : Node)
  | index (span : Span) (expression : Node)
  | superMember (span : Span) (property : Node)
  | call (span : Span) (callee : Node) (arguments : List Node)
  | importCallee (span : Span)
  | superCallee (span : Span)
  | construct (span : Span) (callee : Node) (arguments : List Node)
  | optionalChain (span : Span) (isOptional : Bool) (base : Node)
  | optionalCall (span : Span) (callee : Node) (arguments : List Node)
  | metaProperty (span : Span) (kind : MetaProperty)
  | unary (span : Span) (operator : UnaryOperator) (argument : Node)
  | update (span : Span) (argument : Node)
  | await (span : Span) (argument : Node)
  | yield (span : Span) (argument : Option Node)
  | binary (span : Span) (operator : BinaryOperator) (left right : Node)
  | assignment (span : Span) (operator : AssignOperator) (left right : Node)
  | conditional (span : Span) (test consequent alternate : Node)
  | sequence (span : Span) (expressions : List Node)
  | parenthesized (span : Span) (expression : Node)
  | invalid (span : Span)
  -- Properties of object literals
  | shorthand (span : Span) (name : String)
  | shorthandDefault (span : Span) (name : String) (value : Node)
  | property (key value : Node)
  | getter (span : Span) (key : Node) (body : Option Node)
  | setter (span : Span) (key param : Node) (body : Option Node)
  | method (key function : Node)
  | objectSpread (dots : Span) (argument : Node)
  -- Patterns
  | arrayPattern (span : Span) (elements : List Node)
  | objectPattern (span : Span) (properties : List Node)
  | restElement (span : Span) (argument : Node)
  | defaultPattern (span : Span) (left right : Node)
  | patternProperty (key value : Node)
  | patternShorthand (span : Span) (name : String) (value : Option Node)
  -- Functions and classes
  | function (span : Span) (isAsync isGenerator : Bool) (params decorators : List Node)
      (body : Option Node)
  | parameter (span : Span) (decorators : List Node) (pattern : Node)
  | parameterProperty (decorators : List Node) (pattern : Node)
  | classDefinition (span : Span) (decorators members : List Node) (superclass : Option Node)
  | constructorMember (span : Span) (key : Node) (params : List Node) (body : Option Node)
  | classMethod (span : Span) (kind : MethodKind) (isStatic : Bool) (key function : Node)
  | privateMethod (span : Span) (kind : MethodKind) (isStatic : Bool) (key function : Node)
  | classProperty (span : Span) (isStatic : Bool) (key : Node) (value : Option Node)
      (decorators : List Node)
  | privateProperty (span : Span) (isStatic : Bool) (key : Node) (value : Option Node)
      (decorators : List Node)
  | autoAccessor (span : Span) (isStatic : Bool) (key : Node) (value : Option Node)
      (decorators : List Node)
  | staticBlock (span : Span) (body : Node)
  | emptyMember (span : Span)
  | decorator (span : Span) (expression : Node)
  -- Statements
  | block (span : Span) (statements : List Node)
  | emptyStatement (span : Span)
  | expressionStatement (span : Span) (expression : Node)
  | variableDeclaration (span : Span) (kind : VariableKind) (declarators : List Node)
  | usingDeclaration (span : Span) (isAwait : Bool) (declarators : List Node)
  | declarator (span : Span) (target : Node) (value : Option Node)
  | functionDeclaration (name : String) (function : Node)
  | classDeclaration (name : String) (definition : Node)
  | ifStatement (span : Span) (test consequent : Node) (alternate : Option Node)
  | forStatement (span : Span) (start test update : Option Node) (body : Node)
  | forInStatement (span : Span) (left right body : Node)
  | forOfStatement (span : Span) (isAwait : Bool) (left right body : Node)
  | whileStatement (span : Span) (test body : Node)
  | doWhileStatement (span : Span) (test body : Node)
  | withStatement (span : Span) (object body : Node)
  | returnStatement (span : Span) (argument : Option Node)
  | throwStatement (span : Span) (argument : Node)
  | breakStatement (span : Span) (label : Option String)
  | continueStatement (span : Span) (label : Option String)
  | labeledStatement (span : Span) (label : String) (body : Node)
  | switchStatement (span : Span) (discriminant : Node) (cases : List Node)
  | switchCase (span : Span) (test : Option Node) (consequent : List Node)
  | tryStatement (span : Span) (body : Node) (handler finalizer : Option Node)
  | catchClause (span : Span) (param : Option Node) (body : Node)
  | debuggerStatement (span : Span)
  -- Modules
  | module (span : Span) (body : List Node)
  | importDeclaration (span : Span) (names : List ModuleBinding) (source : String)
      (attributes : Option Node)
  | exportNames (span : Span) (names : List ModuleBinding) (source : Option String)
      (attributes : Option Node)
  | exportAll (span : Span) (source : String) (attributes : Option Node)
  | exportDeclaration (span : Span) (declaration : Node)
  | exportDefaultDeclaration (span : Span) (declaration : Node)
  | exportDefaultExpression (span : Span) (expression : Node)
  -- Markup
  | markupElement (span : Span) (name : String) (attributes children : List Node)
  | markupFragment (span : Span) (children : List Node)
  | markupAttribute (span : Span) (name : String) (value : Option Node)
  | markupContainer (span : Span) (expression : Option Node)
  | markupSpreadChild (span : Span) (expression : Node)
  | markupText (span : Span)
deriving Inhabited

namespace Node

/-- The parts of a node in the order in which a walk visits them. Mostly that is the order of the
text. But a superclass comes last, the condition of a `do` loop first, the texts of a template after
its expressions, and the decorators of a member after its key. -/
def children : Node → List Node
  | identifier .. | bindingName .. | propertyName .. | privateName .. | literalKey .. => []
  | computedKey _ e => [e]
  | stringLiteral .. | numberLiteral .. | bigintLiteral .. | regexLiteral .. => []
  | booleanLiteral .. | nullLiteral .. | thisExpression .. | hole => []
  | arrayLiteral _ es => es
  | spread _ e => [e]
  | objectLiteral _ ps => ps
  | functionExpression _ f => [f]
  | classExpression _ c => [c]
  | arrowFunction _ _ _ ps b => ps ++ [b]
  | template _ es qs => es ++ qs
  | templateElement .. => []
  | taggedTemplate _ t q => [t, q]
  | member _ o p => [o, p]
  | index _ e => [e]
  | superMember _ p => [p]
  | call _ c as => c :: as
  | importCallee .. | superCallee .. => []
  | construct _ c as => c :: as
  | optionalChain _ _ b => [b]
  | optionalCall _ c as => c :: as
  | metaProperty .. => []
  | unary _ _ a => [a]
  | update _ a => [a]
  | await _ a => [a]
  | yield _ a => a.toList
  | binary _ _ l r => [l, r]
  | assignment _ _ l r => [l, r]
  | conditional _ t c a => [t, c, a]
  | sequence _ es => es
  | parenthesized _ e => [e]
  | invalid .. => []
  | shorthand .. => []
  | shorthandDefault _ _ v => [v]
  | property k v => [k, v]
  | getter _ k b => k :: b.toList
  | setter _ k p b => k :: p :: b.toList
  | method k f => [k, f]
  | objectSpread _ e => [e]
  | arrayPattern _ es => es
  | objectPattern _ ps => ps
  | restElement _ a => [a]
  | defaultPattern _ l r => [l, r]
  | patternProperty k v => [k, v]
  | patternShorthand _ _ v => v.toList
  | function _ _ _ ps ds b => ps ++ ds ++ b.toList
  | parameter _ ds p => ds ++ [p]
  | parameterProperty ds p => ds ++ [p]
  | classDefinition _ ds ms s => ds ++ ms ++ s.toList
  | constructorMember _ k ps b => k :: ps ++ b.toList
  | classMethod _ _ _ k f => [k, f]
  | privateMethod _ _ _ k f => [k, f]
  | classProperty _ _ k v ds => k :: v.toList ++ ds
  | privateProperty _ _ k v ds => k :: v.toList ++ ds
  | autoAccessor _ _ k v ds => k :: v.toList ++ ds
  | staticBlock _ b => [b]
  | emptyMember .. => []
  | decorator _ e => [e]
  | block _ ss => ss
  | emptyStatement .. => []
  | expressionStatement _ e => [e]
  | variableDeclaration _ _ ds => ds
  | usingDeclaration _ _ ds => ds
  | declarator _ t v => t :: v.toList
  | functionDeclaration _ f => [f]
  | classDeclaration _ c => [c]
  | ifStatement _ t c a => t :: c :: a.toList
  | forStatement _ s t u b => s.toList ++ t.toList ++ u.toList ++ [b]
  | forInStatement _ l r b => [l, r, b]
  | forOfStatement _ _ l r b => [l, r, b]
  | whileStatement _ t b => [t, b]
  | doWhileStatement _ t b => [t, b]
  | withStatement _ o b => [o, b]
  | returnStatement _ a => a.toList
  | throwStatement _ a => [a]
  | breakStatement .. | continueStatement .. => []
  | labeledStatement _ _ b => [b]
  | switchStatement _ d cs => d :: cs
  | switchCase _ t ss => t.toList ++ ss
  | tryStatement _ b h f => b :: h.toList ++ f.toList
  | catchClause _ p b => p.toList ++ [b]
  | debuggerStatement .. => []
  | module _ b => b
  | importDeclaration _ _ _ a => a.toList
  | exportNames _ _ _ a => a.toList
  | exportAll _ _ a => a.toList
  | exportDeclaration _ d => [d]
  | exportDefaultDeclaration _ d => [d]
  | exportDefaultExpression _ e => [e]
  | markupElement _ _ as cs => as ++ cs
  | markupFragment _ cs => cs
  | markupAttribute _ _ v => v.toList
  | markupContainer _ e => e.toList
  | markupSpreadChild _ e => [e]
  | markupText .. => []

theorem sizeOf_lt_of_mem_toList {o : Option Node} {c : Node} (h : c ∈ o.toList) :
    sizeOf c < sizeOf o := by
  cases o with
  | none => simp at h
  | some n =>
    simp only [Option.toList_some, List.mem_singleton] at h
    subst h
    simp

/-- Each part of a node is smaller than the node. -/
theorem sizeOf_lt_of_mem_children {n c : Node} (h : c ∈ n.children) : sizeOf c < sizeOf n := by
  have all : ∀ c ∈ n.children, sizeOf c < sizeOf n := by
    cases n <;> simp only [children, List.forall_mem_append, List.forall_mem_cons,
      List.not_mem_nil, false_imp_iff, implies_true, and_true]
    all_goals and_intros
    all_goals first
      | (simp; omega)
      | (simp; done)
      | (intro c h
         first
          | (have lt := List.sizeOf_lt_of_mem h; simp; omega)
          | (have lt := sizeOf_lt_of_mem_toList h; simp; omega))
  exact all c h

/-- The place of an expression, a pattern or a block. Parts whose place is never asked for on
their own stand nowhere. -/
def span : Node → Span
  | identifier s _ | bindingName s _ | propertyName s _ | privateName s _ | literalKey s _ => s
  | computedKey s _ | stringLiteral s _ _ | numberLiteral s _ | bigintLiteral s => s
  | regexLiteral s _ _ | booleanLiteral s _ | nullLiteral s | thisExpression s => s
  | arrayLiteral s _ | objectLiteral s _ | arrowFunction s _ _ _ _ | template s _ _ => s
  | spread d e => Span.ofEnds d.lo e.span.hi
  | objectSpread d e => Span.ofEnds d.lo e.span.hi
  | functionExpression _ f => f.span
  | classExpression _ c => c.span
  | templateElement s _ | taggedTemplate s _ _ | member s _ _ | index s _ | superMember s _ => s
  | call s _ _ | importCallee s | superCallee s | construct s _ _ | optionalChain s _ _ => s
  | optionalCall s _ _ | metaProperty s _ | unary s _ _ | update s _ | await s _ | yield s _ => s
  | binary s _ _ _ | assignment s _ _ _ | conditional s _ _ _ | sequence s _ => s
  | parenthesized s _ | invalid s | shorthand s _ | shorthandDefault s _ _ => s
  | property k v => Span.ofEnds k.span.lo v.span.hi
  | getter s _ _ | setter s _ _ _ => s
  | method _ f => f.span
  | arrayPattern s _ | objectPattern s _ | restElement s _ | defaultPattern s _ _ => s
  | patternProperty k v => Span.ofEnds k.span.lo v.span.hi
  | patternShorthand s _ _ => s
  | function s _ _ _ _ _ | parameter s _ _ | classDefinition s _ _ _ => s
  | constructorMember s _ _ _ | classMethod s _ _ _ _ | privateMethod s _ _ _ _ => s
  | classProperty s _ _ _ _ | privateProperty s _ _ _ _ | autoAccessor s _ _ _ _ => s
  | staticBlock s _ | emptyMember s | decorator s _ => s
  | block s _ | emptyStatement s | expressionStatement s _ | variableDeclaration s _ _ => s
  | usingDeclaration s _ _ | declarator s _ _ => s
  | functionDeclaration _ f => f.span
  | classDeclaration _ c => c.span
  | ifStatement s _ _ _ | forStatement s _ _ _ _ | forInStatement s _ _ _ => s
  | forOfStatement s _ _ _ _ | whileStatement s _ _ | doWhileStatement s _ _ => s
  | withStatement s _ _ | returnStatement s _ | throwStatement s _ | breakStatement s _ => s
  | continueStatement s _ | labeledStatement s _ _ | switchStatement s _ _ => s
  | switchCase s _ _ | tryStatement s _ _ _ | catchClause s _ _ | debuggerStatement s => s
  | module s _ | importDeclaration s _ _ _ | exportNames s _ _ _ | exportAll s _ _ => s
  | exportDeclaration s _ | exportDefaultDeclaration s _ | exportDefaultExpression s _ => s
  | markupElement s _ _ _ | markupFragment s _ | markupAttribute s _ _ => s
  | markupContainer s _ | markupSpreadChild s _ | markupText s => s
  | hole | parameterProperty .. => ⟨0, 0⟩

end Node
end ScriptFeatures.Syntax
