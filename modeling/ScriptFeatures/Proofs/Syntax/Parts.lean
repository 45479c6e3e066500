import Mathlib.Data.List.Basic
import ScriptFeatures.Proofs.Syntax.Occurrence

namespace ScriptFeatures.Syntax.Node

/-- The node with each child changed by a function of its number and itself. -/
def mapChildren (f : ℕ → Node → Node) : Node → Node
  | identifier s x => .identifier s x
  | bindingName s x => .bindingName s x
  | propertyName s x => .propertyName s x
  | privateName s x => .privateName s x
  | literalKey s x => .literalKey s x
  | computedKey s e => .computedKey s (f 0 e)
  | stringLiteral s x y => .stringLiteral s x y
  | numberLiteral s x => .numberLiteral s x
  | bigintLiteral s => .bigintLiteral s
  | regexLiteral s x y => .regexLiteral s x y
  | booleanLiteral s x => .booleanLiteral s x
  | nullLiteral s => .nullLiteral s
  | thisExpression s => .thisExpression s
  | arrayLiteral s es => .arrayLiteral s (es.mapIdx f)
  | hole => .hole
  | spread s e => .spread s (f 0 e)
  | objectLiteral s ps => .objectLiteral s (ps.mapIdx f)
  | functionExpression x g => .functionExpression x (f 0 g)
  | classExpression x c => .classExpression x (f 0 c)
  | arrowFunction s x y ps b => .arrowFunction s x y (ps.mapIdx f) (f ps.length b)
  | template s es qs => .template s (es.mapIdx f) (qs.mapIdx fun i => f (i + es.length))
  | templateElement s x => .templateElement s x
  | taggedTemplate s t q => .taggedTemplate s (f 0 t) (f 1 q)
  | member s o p => .member s (f 0 o) (f 1 p)
  | index s e => .index s (f 0 e)
  | superMember s p => .superMember s (f 0 p)
  | call s c as => .call s (f 0 c) (as.mapIdx fun i => f (i + 1))
  | importCallee s => .importCallee s
  | superCallee s => .superCallee s
  | construct s c as => .construct s (f 0 c) (as.mapIdx fun i => f (i + 1))
  | optionalChain s x b => .optionalChain s x (f 0 b)
  | optionalCall s c as => .optionalCall s (f 0 c) (as.mapIdx fun i => f (i + 1))
  | metaProperty s x => .metaProperty s x
  | unary s x e => .unary s x (f 0 e)
  | update s e => .update s (f 0 e)
  | await s e => .await s (f 0 e)
  | yield s e => .yield s (e.map (f 0))
  | binary s x l r => .binary s x (f 0 l) (f 1 r)
  | assignment s x l r => .assignment s x (f 0 l) (f 1 r)
  | conditional s t c a => .conditional s (f 0 t) (f 1 c) (f 2 a)
  | sequence s es => .sequence s (es.mapIdx f)
  | parenthesized s e => .parenthesized s (f 0 e)
  | invalid s => .invalid s
  | shorthand s x => .shorthand s x
  | shorthandDefault s x v => .shorthandDefault s x (f 0 v)
  | property k v => .property (f 0 k) (f 1 v)
  | getter s k b => .getter s (f 0 k) (b.map (f 1))
  | setter s k p b => .setter s (f 0 k) (f 1 p) (b.map (f 2))
  | method k g => .method (f 0 k) (f 1 g)
  | objectSpread s e => .objectSpread s (f 0 e)
  | arrayPattern s es => .arrayPattern s (es.mapIdx f)
  | objectPattern s ps => .objectPattern s (ps.mapIdx f)
  | restElement s e => .restElement s (f 0 e)
  | defaultPattern s l r => .defaultPattern s (f 0 l) (f 1 r)
  | patternProperty k v => .patternProperty (f 0 k) (f 1 v)
  | patternShorthand s x v => .patternShorthand s x (v.map (f 0))
  | function s x y ps ds b =>
    .function s x y (ps.mapIdx f) (ds.mapIdx fun i => f (i + ps.length))
      (b.map (f (ds.length + ps.length)))
  | parameter s ds p => .parameter s (ds.mapIdx f) (f ds.length p)
  | parameterProperty ds p => .parameterProperty (ds.mapIdx f) (f ds.length p)
  | classDefinition s ds ms a =>
    .classDefinition s (ds.mapIdx f) (ms.mapIdx fun i => f (i + ds.length))
      (a.map (f (ms.length + ds.length)))
  | constructorMember s k ps b =>
    .constructorMember s (f 0 k) (ps.mapIdx fun i => f (i + 1)) (b.map (f (ps.length + 1)))
  | classMethod s x y k g => .classMethod s x y (f 0 k) (f 1 g)
  | privateMethod s x y k g => .privateMethod s x y (f 0 k) (f 1 g)
  | classProperty s x k v ds =>
    .classProperty s x (f 0 k) (v.map (f 1)) (ds.mapIdx fun i => f (i + v.toList.length + 1))
  | privateProperty s x k v ds =>
    .privateProperty s x (f 0 k) (v.map (f 1)) (ds.mapIdx fun i => f (i + v.toList.length + 1))
  | autoAccessor s x k v ds =>
    .autoAccessor s x (f 0 k) (v.map (f 1)) (ds.mapIdx fun i => f (i + v.toList.length + 1))
  | staticBlock s b => .staticBlock s (f 0 b)
  | emptyMember s => .emptyMember s
  | decorator s e => .decorator s (f 0 e)
  | block s ss => .block s (ss.mapIdx f)
  | emptyStatement s => .emptyStatement s
  | expressionStatement s e => .expressionStatement s (f 0 e)
  | variableDeclaration s x ds => .variableDeclaration s x (ds.mapIdx f)
  | usingDeclaration s x ds => .usingDeclaration s x (ds.mapIdx f)
  | declarator s t v => .declarator s (f 0 t) (v.map (f 1))
  | functionDeclaration x g => .functionDeclaration x (f 0 g)
  | classDeclaration x c => .classDeclaration x (f 0 c)
  | ifStatement s t c a => .ifStatement s (f 0 t) (f 1 c) (a.map (f 2))
  | forStatement s a t u b =>
    .forStatement s (a.map (f 0)) (t.map (f a.toList.length))
      (u.map (f (t.toList.length + a.toList.length)))
      (f (u.toList.length + t.toList.length + a.toList.length) b)
  | forInStatement s l r b => .forInStatement s (f 0 l) (f 1 r) (f 2 b)
  | forOfStatement s x l r b => .forOfStatement s x (f 0 l) (f 1 r) (f 2 b)
  | whileStatement s t b => .whileStatement s (f 0 t) (f 1 b)
  | doWhileStatement s t b => .doWhileStatement s (f 0 t) (f 1 b)
  | withStatement s o b => .withStatement s (f 0 o) (f 1 b)
  | returnStatement s e => .returnStatement s (e.map (f 0))
  | throwStatement s e => .throwStatement s (f 0 e)
  | breakStatement s x => .breakStatement s x
  | continueStatement s x => .continueStatement s x
  | labeledStatement s x b => .labeledStatement s x (f 0 b)
  | switchStatement s d cs => .switchStatement s (f 0 d) (cs.mapIdx fun i => f (i + 1))
  | switchCase s t ss => .switchCase s (t.map (f 0)) (ss.mapIdx fun i => f (i + t.toList.length))
  | tryStatement s b h z =>
    .tryStatement s (f 0 b) (h.map (f 1)) (z.map (f (h.toList.length + 1)))
  | catchClause s p b => .catchClause s (p.map (f 0)) (f p.toList.length b)
  | debuggerStatement s => .debuggerStatement s
  | module s es => .module s (es.mapIdx f)
  | importDeclaration s x y a => .importDeclaration s x y (a.map (f 0))
  | exportNames s x y a => .exportNames s x y (a.map (f 0))
  | exportAll s x a => .exportAll s x (a.map (f 0))
  | exportDeclaration s d => .exportDeclaration s (f 0 d)
  | exportDefaultDeclaration s d => .exportDefaultDeclaration s (f 0 d)
  | exportDefaultExpression s e => .exportDefaultExpression s (f 0 e)
  | markupElement s x as cs =>
    .markupElement s x (as.mapIdx f) (cs.mapIdx fun i => f (i + as.length))
  | markupFragment s cs => .markupFragment s (cs.mapIdx f)
  | markupAttribute s x v => .markupAttribute s x (v.map (f 0))
  | markupContainer s e => .markupContainer s (e.map (f 0))
  | markupSpreadChild s e => .markupSpreadChild s (f 0 e)
  | markupText s => .markupText s

theorem mapIdx_toList (f : ℕ → Node → Node) (n? : Option Node) :
    n?.toList.mapIdx f = (n?.map (f 0)).toList := by
  cases n? <;> rfl

theorem children_mapChildren (f : ℕ → Node → Node) (n : Node) :
    (n.mapChildren f).children = n.children.mapIdx f := by
  cases n <;> simp [mapChildren, children, List.mapIdx_append, List.mapIdx_cons, mapIdx_toList]

/-- What a node is apart from its children: there are holes in their place. -/
def label (n : Node) : Node := n.mapChildren fun _ _ => hole

theorem label_mapChildren (f : ℕ → Node → Node) (n : Node) :
    (n.mapChildren f).label = n.label := by
  cases n <;> simp [label, mapChildren, Function.comp_def]

/-- What the label alone decides is the same for nodes of one label. -/
theorem congr_of_label {α : Type} {g : Node → α} (hg : ∀ n : Node, g n.label = g n) {n n' : Node}
    (h : n'.label = n.label) : g n' = g n := by
  rw [← hg n', h, hg n]

def nodeAt? : List ℕ → Node → Option Node
  | [], n => some n
  | i :: path, n => n.children[i]?.bind (nodeAt? path)

/-- The tree with the node at an address changed, where there is one. An address lists the children
to descend to. -/
def editAt (edit : Node → Node) : List ℕ → Node → Node
  | [], n => edit n
  | i :: path, n => n.mapChildren fun j c => if j = i then editAt edit path c else c

theorem mapIdx_if_eq_modify {i : ℕ} {g : Node → Node} (ns : List Node) :
    (ns.mapIdx fun j c => if j = i then g c else c) = ns.modify i g := by
  apply List.ext_getElem?
  intro j
  rw [List.getElem?_mapIdx, List.getElem?_modify]
  by_cases h : j = i
  · simp [h]
  · simp [h, Ne.symm h]

theorem children_editAt (edit : Node → Node) (i : ℕ) (path : List ℕ) (n : Node) :
    (editAt edit (i :: path) n).children = n.children.modify i (editAt edit path) := by
  rw [editAt, children_mapChildren, mapIdx_if_eq_modify]

end ScriptFeatures.Syntax.Node
