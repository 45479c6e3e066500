import Mathlib.Data.List.Basic
import Mathlib.Order.Monotone.Basic
import ScriptFeatures.Proofs.Walk.Coverage

namespace ScriptFeatures

namespace Syntax

namespace Span

def relocate (f : ℕ → ℕ) (s : Span) : Span := ⟨f s.lo, f s.hi⟩

theorem ofEnds_relocate {f : ℕ → ℕ} (hf : Monotone f) (a b : ℕ) :
    ofEnds (f a) (f b) = (ofEnds a b).relocate f := by
  rw [ofEnds, ofEnds]
  by_cases h : a ≤ b
  · rw [if_pos h, if_pos (hf h)]
    rfl
  · rw [if_neg h]
    have hba : f b ≤ f a := hf (Nat.le_of_not_le h)
    split_ifs with hab
    · rw [relocate, Nat.le_antisymm hab hba]
    · rfl

theorem withHi_relocate {f : ℕ → ℕ} (hf : Monotone f) (s : Span) (hi : ℕ) :
    (s.relocate f).withHi (f hi) = (s.withHi hi).relocate f :=
  ofEnds_relocate hf s.lo hi

end Span

namespace Node

mutual

/-- The tree with each of its positions moved. -/
@[simp] def relocate (f : ℕ → ℕ) : Node → Node
  | identifier s x => .identifier (s.relocate f) x
  | bindingName s x => .bindingName (s.relocate f) x
  | propertyName s x => .propertyName (s.relocate f) x
  | privateName s x => .privateName (s.relocate f) x
  | literalKey s x => .literalKey (s.relocate f) x
  | computedKey s e => .computedKey (s.relocate f) (e.relocate f)
  | stringLiteral s x y => .stringLiteral (s.relocate f) x y
  | numberLiteral s x => .numberLiteral (s.relocate f) x
  | bigintLiteral s => .bigintLiteral (s.relocate f)
  | regexLiteral s x y => .regexLiteral (s.relocate f) x y
  | booleanLiteral s x => .booleanLiteral (s.relocate f) x
  | nullLiteral s => .nullLiteral (s.relocate f)
  | thisExpression s => .thisExpression (s.relocate f)
  | arrayLiteral s es => .arrayLiteral (s.relocate f) (relocateList f es)
  | hole => .hole
  | spread s e => .spread (s.relocate f) (e.relocate f)
  | objectLiteral s ps => .objectLiteral (s.relocate f) (relocateList f ps)
  | functionExpression x g => .functionExpression x (g.relocate f)
  | classExpression x c => .classExpression x (c.relocate f)
  | arrowFunction s x y ps b => .arrowFunction (s.relocate f) x y (relocateList f ps) (b.relocate f)
  | template s es qs => .template (s.relocate f) (relocateList f es) (relocateList f qs)
  | templateElement s x => .templateElement (s.relocate f) x
  | taggedTemplate s t q => .taggedTemplate (s.relocate f) (t.relocate f) (q.relocate f)
  | member s o p => .member (s.relocate f) (o.relocate f) (p.relocate f)
  | index s e => .index (s.relocate f) (e.relocate f)
  | superMember s p => .superMember (s.relocate f) (p.relocate f)
  | call s c as => .call (s.relocate f) (c.relocate f) (relocateList f as)
  | importCallee s => .importCallee (s.relocate f)
  | superCallee s => .superCallee (s.relocate f)
  | construct s c as => .construct (s.relocate f) (c.relocate f) (relocateList f as)
  | optionalChain s x b => .optionalChain (s.relocate f) x (b.relocate f)
  | optionalCall s c as => .optionalCall (s.relocate f) (c.relocate f) (relocateList f as)
  | metaProperty s x => .metaProperty (s.relocate f) x
  | unary s x e => .unary (s.relocate f) x (e.relocate f)
  | update s e => .update (s.relocate f) (e.relocate f)
  | await s e => .await (s.relocate f) (e.relocate f)
  | yield s e => .yield (s.relocate f) (relocateOption f e)
  | binary s x l r => .binary (s.relocate f) x (l.relocate f) (r.relocate f)
  | assignment s x l r => .assignment (s.relocate f) x (l.relocate f) (r.relocate f)
  | conditional s t c a => .conditional (s.relocate f) (t.relocate f) (c.relocate f) (a.relocate f)
  | sequence s es => .sequence (s.relocate f) (relocateList f es)
  | parenthesized s e => .parenthesized (s.relocate f) (e.relocate f)
  | invalid s => .invalid (s.relocate f)
  | shorthand s x => .shorthand (s.relocate f) x
  | shorthandDefault s x v => .shorthandDefault (s.relocate f) x (v.relocate f)
  | property k v => .property (k.relocate f) (v.relocate f)
  | getter s k b => .getter (s.relocate f) (k.relocate f) (relocateOption f b)
  | setter s k p b => .setter (s.relocate f) (k.relocate f) (p.relocate f) (relocateOption f b)
  | method k g => .method (k.relocate f) (g.relocate f)
  | objectSpread s e => .objectSpread (s.relocate f) (e.relocate f)
  | arrayPattern s es => .arrayPattern (s.relocate f) (relocateList f es)
  | objectPattern s ps => .objectPattern (s.relocate f) (relocateList f ps)
  | restElement s e => .restElement (s.relocate f) (e.relocate f)
  | defaultPattern s l r => .defaultPattern (s.relocate f) (l.relocate f) (r.relocate f)
  | patternProperty k v => .patternProperty (k.relocate f) (v.relocate f)
  | patternShorthand s x v => .patternShorthand (s.relocate f) x (relocateOption f v)
  | function s x y ps ds b =>
    .function (s.relocate f) x y (relocateList f ps) (relocateList f ds) (relocateOption f b)
  | parameter s ds p => .parameter (s.relocate f) (relocateList f ds) (p.relocate f)
  | parameterProperty ds p => .parameterProperty (relocateList f ds) (p.relocate f)
  | classDefinition s ds ms a =>
    .classDefinition (s.relocate f) (relocateList f ds) (relocateList f ms) (relocateOption f a)
  | constructorMember s k ps b =>
    .constructorMember (s.relocate f) (k.relocate f) (relocateList f ps) (relocateOption f b)
  | classMethod s x y k g => .classMethod (s.relocate f) x y (k.relocate f) (g.relocate f)
  | privateMethod s x y k g => .privateMethod (s.relocate f) x y (k.relocate f) (g.relocate f)
  | classProperty s x k v ds =>
    .classProperty (s.relocate f) x (k.relocate f) (relocateOption f v) (relocateList f ds)
  | privateProperty s x k v ds =>
    .privateProperty (s.relocate f) x (k.relocate f) (relocateOption f v) (relocateList f ds)
  | autoAccessor s x k v ds =>
    .autoAccessor (s.relocate f) x (k.relocate f) (relocateOption f v) (relocateList f ds)
  | staticBlock s b => .staticBlock (s.relocate f) (b.relocate f)
  | emptyMember s => .emptyMember (s.relocate f)
  | decorator s e => .decorator (s.relocate f) (e.relocate f)
  | block s ss => .block (s.relocate f) (relocateList f ss)
  | emptyStatement s => .emptyStatement (s.relocate f)
  | expressionStatement s e => .expressionStatement (s.relocate f) (e.relocate f)
  | variableDeclaration s x ds => .variableDeclaration (s.relocate f) x (relocateList f ds)
  | usingDeclaration s x ds => .usingDeclaration (s.relocate f) x (relocateList f ds)
  | declarator s t v => .declarator (s.relocate f) (t.relocate f) (relocateOption f v)
  | functionDeclaration x g => .functionDeclaration x (g.relocate f)
  | classDeclaration x c => .classDeclaration x (c.relocate f)
  | ifStatement s t c a =>
    .ifStatement (s.relocate f) (t.relocate f) (c.relocate f) (relocateOption f a)
  | forStatement s a t u b =>
    .forStatement (s.relocate f) (relocateOption f a) (relocateOption f t) (relocateOption f u)
      (b.relocate f)
  | forInStatement s l r b =>
    .forInStatement (s.relocate f) (l.relocate f) (r.relocate f) (b.relocate f)
  | forOfStatement s x l r b =>
    .forOfStatement (s.relocate f) x (l.relocate f) (r.relocate f) (b.relocate f)
  | whileStatement s t b => .whileStatement (s.relocate f) (t.relocate f) (b.relocate f)
  | doWhileStatement s t b => .doWhileStatement (s.relocate f) (t.relocate f) (b.relocate f)
  | withStatement s o b => .withStatement (s.relocate f) (o.relocate f) (b.relocate f)
  | returnStatement s e => .returnStatement (s.relocate f) (relocateOption f e)
  | throwStatement s e => .throwStatement (s.relocate f) (e.relocate f)
  | breakStatement s x => .breakStatement (s.relocate f) x
  | continueStatement s x => .continueStatement (s.relocate f) x
  | labeledStatement s x b => .labeledStatement (s.relocate f) x (b.relocate f)
  | switchStatement s d cs => .switchStatement (s.relocate f) (d.relocate f) (relocateList f cs)
  | switchCase s t ss => .switchCase (s.relocate f) (relocateOption f t) (relocateList f ss)
  | tryStatement s b h z =>
    .tryStatement (s.relocate f) (b.relocate f) (relocateOption f h) (relocateOption f z)
  | catchClause s p b => .catchClause (s.relocate f) (relocateOption f p) (b.relocate f)
  | debuggerStatement s => .debuggerStatement (s.relocate f)
  | module s es => .module (s.relocate f) (relocateList f es)
  | importDeclaration s x y a => .importDeclaration (s.relocate f) x y (relocateOption f a)
  | exportNames s x y a => .exportNames (s.relocate f) x y (relocateOption f a)
  | exportAll s x a => .exportAll (s.relocate f) x (relocateOption f a)
  | exportDeclaration s d => .exportDeclaration (s.relocate f) (d.relocate f)
  | exportDefaultDeclaration s d => .exportDefaultDeclaration (s.relocate f) (d.relocate f)
  | exportDefaultExpression s e => .exportDefaultExpression (s.relocate f) (e.relocate f)
  | markupElement s x as cs =>
    .markupElement (s.relocate f) x (relocateList f as) (relocateList f cs)
  | markupFragment s cs => .markupFragment (s.relocate f) (relocateList f cs)
  | markupAttribute s x v => .markupAttribute (s.relocate f) x (relocateOption f v)
  | markupContainer s e => .markupContainer (s.relocate f) (relocateOption f e)
  | markupSpreadChild s e => .markupSpreadChild (s.relocate f) (e.relocate f)
  | markupText s => .markupText (s.relocate f)

def relocateList (f : ℕ → ℕ) : List Node → List Node
  | [] => []
  | n :: ns => n.relocate f :: relocateList f ns

def relocateOption (f : ℕ → ℕ) : Option Node → Option Node
  | none => none
  | some n => some (n.relocate f)

end

variable {f : ℕ → ℕ}

theorem relocateList_eq (f : ℕ → ℕ) (ns : List Node) : relocateList f ns = ns.map (relocate f) := by
  induction ns with
  | nil => rfl
  | cons n ns ih => rw [relocateList, ih, List.map_cons]

theorem relocateOption_eq (f : ℕ → ℕ) (n? : Option Node) :
    relocateOption f n? = n?.map (relocate f) := by
  cases n? <;> rfl

theorem children_relocate (f : ℕ → ℕ) (n : Node) :
    (n.relocate f).children = n.children.map (relocate f) := by
  cases n <;> simp [relocate, children, relocateList_eq, relocateOption_eq,
    Option.toList_map]

theorem isFunctionBoundary_relocate (f : ℕ → ℕ) (n : Node) :
    (n.relocate f).isFunctionBoundary = n.isFunctionBoundary := by
  cases n <;> rfl

/-- Moving the positions of a tree moves its own place, if parts without a place stay without
one. -/
theorem span_relocate (hf : Monotone f) (h0 : f 0 = 0) (n : Node) :
    (n.relocate f).span = n.span.relocate f := by
  induction n using children_induction with
  | step n ih =>
    cases n
    case spread s e =>
      have he := ih e (.head _)
      simp only [relocate, span, he]
      exact Span.ofEnds_relocate hf _ _
    case objectSpread s e =>
      have he := ih e (.head _)
      simp only [relocate, span, he]
      exact Span.ofEnds_relocate hf _ _
    case property k v =>
      have hk := ih k (.head _)
      have hv := ih v (.tail _ (.head _))
      simp only [relocate, span, hk, hv]
      exact Span.ofEnds_relocate hf _ _
    case patternProperty k v =>
      have hk := ih k (.head _)
      have hv := ih v (.tail _ (.head _))
      simp only [relocate, span, hk, hv]
      exact Span.ofEnds_relocate hf _ _
    case functionExpression x g => exact ih g (.head _)
    case classExpression x c => exact ih c (.head _)
    case method k g => exact ih g (.tail _ (.head _))
    case functionDeclaration x g => exact ih g (.head _)
    case classDeclaration x c => exact ih c (.head _)
    case hole => simp only [relocate, span, Span.relocate, h0]
    case parameterProperty ds p => simp only [relocate, span, Span.relocate, h0]
    all_goals rfl

end Node
end Syntax

namespace Usage

open Syntax Node

variable {f : ℕ → ℕ}

def Use.relocate (f : ℕ → ℕ) (u : Use) : Use := ⟨u.key, u.span.relocate f⟩

theorem filterMap_relocate {α : Type} {g : Node → Option α} {h : α → α}
    (hg : ∀ n, g (n.relocate f) = (g n).map h) (ns : List Node) :
    (ns.map (Node.relocate f)).filterMap g = (ns.filterMap g).map h := by
  rw [List.filterMap_map, List.map_filterMap]
  congr 1
  funext n
  exact hg n

theorem memberOf?_relocate (f : ℕ → ℕ) (n : Node) :
    memberOf? (n.relocate f) =
      (memberOf? n).map (Prod.map (Node.relocate f) (Node.relocate f)) := by
  induction n using Node.children_induction with
  | step n ih =>
    cases n
    case parenthesized s e =>
      simp only [Node.relocate, memberOf?]
      exact ih e (.head _)
    case optionalChain s x b => cases b <;> rfl
    all_goals rfl

theorem propertyName?_relocate (f : ℕ → ℕ) (n : Node) :
    propertyName? (n.relocate f) = propertyName? n := by
  cases n
  case index s e => cases e <;> rfl
  all_goals rfl

theorem paramUse?_relocate (f : ℕ → ℕ) (n : Node) :
    paramUse? (n.relocate f) = (paramUse? n).map (Use.relocate f) := by
  cases n <;> rfl

theorem paramPattern?_relocate (f : ℕ → ℕ) (n : Node) :
    paramPattern? (n.relocate f) = (paramPattern? n).map (Node.relocate f) := by
  cases n <;> rfl

theorem restPropertyUse?_relocate (f : ℕ → ℕ) (n : Node) :
    restPropertyUse? (n.relocate f) = (restPropertyUse? n).map (Use.relocate f) := by
  cases n <;> rfl

theorem quasiUse?_relocate (f : ℕ → ℕ) (n : Node) :
    quasiUse? (n.relocate f) = (quasiUse? n).map (Use.relocate f) := by
  cases n
  case templateElement s raw =>
    simp only [Node.relocate, quasiUse?]
    split_ifs <;> rfl
  all_goals rfl

theorem isStringRaw_relocate (f : ℕ → ℕ) (n : Node) :
    isStringRaw (n.relocate f) = isStringRaw n := by
  rw [isStringRaw, isStringRaw, memberOf?_relocate]
  cases memberOf? n with
  | none => rfl
  | some m =>
    obtain ⟨object, property⟩ := m
    cases object
    case identifier s name =>
      by_cases hn : name = "String"
      · subst hn
        exact congrArg (· == some "raw") (propertyName?_relocate f property)
      · simp [Node.relocate, hn]
    all_goals rfl

theorem hasOptionsObject_relocate (f : ℕ → ℕ) (ns : List Node) :
    hasOptionsObject (ns.map (Node.relocate f)) = hasOptionsObject ns := by
  rw [hasOptionsObject, hasOptionsObject, List.getElem?_map]
  cases ns[1]? with
  | none => rfl
  | some n => cases n <;> rfl

theorem functionFlags_relocate (f : ℕ → ℕ) (span : Span) (isAsync isGenerator : Bool) :
    functionFlags (span.relocate f) isAsync isGenerator =
      (functionFlags span isAsync isGenerator).map (Use.relocate f) := by
  cases isAsync <;> cases isGenerator <;> rfl

theorem functionHead_relocate (hf : Monotone f) (h0 : f 0 = 0) (span : Span)
    (body : Option Node) :
    functionHead (span.relocate f) (body.map (Node.relocate f)) =
      (functionHead span body).relocate f := by
  cases body with
  | none => rfl
  | some b =>
    simp only [functionHead, Option.map_some, span_relocate hf h0]
    exact Span.withHi_relocate hf span _

theorem callUses_relocate (f : ℕ → ℕ) (callee : Node) (span : Span) :
    callUses (callee.relocate f) (span.relocate f) =
      (callUses callee span).map (Use.relocate f) := by
  rw [callUses, callUses, memberOf?_relocate]
  cases memberOf? callee with
  | none => rfl
  | some m =>
    obtain ⟨object, property⟩ := m
    simp only [Option.map_some, Prod.map_apply, propertyName?_relocate]
    cases propertyName? property with
    | none => rfl
    | some name =>
      cases object
      case identifier s receiver =>
        simp only [Node.relocate]
        split_ifs
        · rw [List.map_map]
          rfl
        · rw [List.map_map]
          rfl
      all_goals
        simp only [Node.relocate, List.map_map]
        rfl

theorem constructUses_relocate (f : ℕ → ℕ) (callee : Node) (arguments : List Node)
    (span : Span) :
    constructUses (callee.relocate f) (arguments.map (Node.relocate f)) (span.relocate f) =
      (constructUses callee arguments span).map (Use.relocate f) := by
  cases callee
  case identifier s name =>
    simp only [Node.relocate, constructUses, hasOptionsObject_relocate, List.map_append,
      List.map_map]
    congr 1
    split_ifs <;> rfl
  all_goals rfl

theorem regexUses_relocate (f : ℕ → ℕ) (pattern flags : List Char) (span : Span) :
    regexUses pattern flags (span.relocate f) =
      (regexUses pattern flags span).map (Use.relocate f) := by
  simp only [regexUses, List.map_append, List.map_map, apply_ite (List.map (Use.relocate f))]
  rfl

theorem numberUses_relocate (f : ℕ → ℕ) (raw : List Char) (span : Span) :
    numberUses raw (span.relocate f) = (numberUses raw span).map (Use.relocate f) := by
  unfold numberUses
  rw [List.map_append]
  congr 1
  · split_ifs <;> rfl
  · split
    · split_ifs <;> rfl
    · rfl

theorem binaryUses_relocate (f : ℕ → ℕ) (operator : BinaryOperator) (left : Node)
    (span : Span) :
    binaryUses operator (left.relocate f) (span.relocate f) =
      (binaryUses operator left span).map (Use.relocate f) := by
  cases operator
  case isIn => cases left <;> rfl
  all_goals rfl

theorem assignmentUses_relocate (f : ℕ → ℕ) (operator : AssignOperator) (span : Span) :
    assignmentUses operator (span.relocate f) =
      (assignmentUses operator span).map (Use.relocate f) := by
  cases operator
  case combined operator => cases operator <;> rfl
  all_goals rfl

end Usage

namespace Syntax

open Usage

variable {f : ℕ → ℕ}

namespace Node

theorem uses_relocate (hf : Monotone f) (h0 : f 0 = 0) (n : Node) :
    (n.relocate f).uses = n.uses.map (Use.relocate f) := by
  have hp (ns : List Node) := filterMap_relocate (paramUse?_relocate f) ns
  have hq (ns : List Node) : (ns.map (relocate f)).filterMap paramPattern? =
      (ns.filterMap paramPattern?).map (relocate f) :=
    filterMap_relocate (paramPattern?_relocate f) ns
  cases n
  case identifier s x =>
    simp only [relocate, uses, List.map_map]
    rfl
  case stringLiteral s x raw =>
    cases raw with
    | none => rfl
    | some raw =>
      simp only [relocate, uses]
      split_ifs <;> rfl
  case numberLiteral s raw =>
    cases raw with
    | none => rfl
    | some raw => exact numberUses_relocate f raw.toList s
  case regexLiteral s p x => exact regexUses_relocate f p.toList x.toList s
  case spread s e =>
    exact congrArg (fun s => [(⟨"spread-syntax", s⟩ : Use)]) (span_relocate hf h0 (.spread s e))
  case objectSpread s e =>
    exact congrArg (fun s => [(⟨"object-rest-spread", s⟩ : Use)])
      (span_relocate hf h0 (.objectSpread s e))
  case arrowFunction s x y ps b =>
    simp only [relocate, uses, relocateList_eq, hp, functionFlags_relocate, List.map_append,
      List.map_cons]
    rfl
  case function s x y ps ds b =>
    simp only [relocate, uses, relocateList_eq, relocateOption_eq, hp, hq,
      functionHead_relocate hf h0, functionFlags_relocate, List.map_append]
  case constructorMember s k ps b =>
    simp only [relocate, uses, relocateList_eq, hp, hq]
  case template s es qs =>
    simp only [relocate, uses, relocateList_eq, filterMap_relocate (quasiUse?_relocate f),
      List.map_cons]
    rfl
  case taggedTemplate s t q =>
    simp only [relocate, uses, isStringRaw_relocate]
    split_ifs <;> rfl
  case call s c as =>
    have hc := callUses_relocate f c s
    cases c
    case importCallee => rfl
    case superCallee => rfl
    all_goals exact hc
  case optionalCall s c as => exact callUses_relocate f c s
  case construct s c as =>
    simp only [relocate, uses, relocateList_eq]
    exact constructUses_relocate f c as s
  case optionalChain s x b => cases x <;> rfl
  case metaProperty s x => cases x <;> rfl
  case binary s x l r => exact binaryUses_relocate f x l s
  case assignment s x l r => exact assignmentUses_relocate f x s
  case method k g =>
    exact congrArg (fun s => [(⟨"method-definitions", s⟩ : Use)]) (span_relocate hf h0 g)
  case objectPattern s ps =>
    simp only [relocate, uses, relocateList_eq, filterMap_relocate (restPropertyUse?_relocate f),
      List.map_cons]
    rfl
  case privateProperty s x k v ds => cases x <;> rfl
  case variableDeclaration s x ds => cases x <;> rfl
  case forOfStatement s x l r b =>
    have hh : (s.relocate f).withHi (r.relocate f).span.hi =
        (s.withHi r.span.hi).relocate f := by
      rw [span_relocate hf h0]
      exact Span.withHi_relocate hf s _
    simp only [relocate, uses, hh]
    cases x <;> rfl
  case catchClause s p b => cases p <;> rfl
  all_goals rfl

theorem awaited?_relocate (hf : Monotone f) (h0 : f 0 = 0) (n : Node) :
    (n.relocate f).awaited? = n.awaited?.map (Span.relocate f) := by
  cases n
  case forOfStatement s x l r b =>
    cases x with
    | false => rfl
    | true =>
      simp only [relocate, awaited?, span_relocate hf h0]
      exact congrArg some (Span.withHi_relocate hf s _)
  all_goals rfl

end Node

namespace Occurrence

def relocate (f : ℕ → ℕ) (o : Occurrence) : Occurrence :=
  ⟨o.above.map (Node.relocate f), o.node.relocate f⟩

theorem isOutside_relocate (f : ℕ → ℕ) (o : Occurrence) :
    (o.relocate f).isOutside = o.isOutside := by
  rw [isOutside, isOutside, relocate, List.all_map]
  simp only [Function.comp_def, Node.isFunctionBoundary_relocate]

theorem uses_relocate (hf : Monotone f) (h0 : f 0 = 0) (o : Occurrence) :
    (o.relocate f).uses = o.uses.map (Use.relocate f) := by
  have hn : (o.relocate f).node = o.node.relocate f := rfl
  rw [uses, uses, isOutside_relocate, hn, Node.uses_relocate hf h0, Node.awaited?_relocate hf h0,
    List.map_append]
  congr 1
  split_ifs
  · rw [Option.toList_map, List.map_map, List.map_map]
    rfl
  · rfl

end Occurrence

namespace Node

theorem occurrences_relocate (f : ℕ → ℕ) (n : Node) (above : List Node) :
    (n.relocate f).occurrences (above.map (relocate f)) =
      (n.occurrences above).map (Occurrence.relocate f) := by
  induction n using children_induction generalizing above with
  | step n ih =>
    have hc : n.children.flatMap (fun c =>
          (c.relocate f).occurrences ((n :: above).map (relocate f))) =
        n.children.flatMap fun c => (c.occurrences (n :: above)).map (Occurrence.relocate f) :=
      List.flatMap_congr fun c hc => ih c hc (n :: above)
    rw [occurrences_eq, occurrences_eq, children_relocate, List.flatMap_map, List.map_cons,
      List.map_flatMap, ← hc]
    rfl

/-- A tree whose positions are moved shows the same features at the moved places. -/
theorem uses_occurrences_relocate (hf : Monotone f) (h0 : f 0 = 0) (n : Node) :
    ((n.relocate f).occurrences []).flatMap Occurrence.uses =
      ((n.occurrences []).flatMap Occurrence.uses).map (Use.relocate f) := by
  have ho := occurrences_relocate f n []
  rw [List.map_nil] at ho
  rw [ho, List.flatMap_map, List.map_flatMap]
  congr 1
  funext o
  exact Occurrence.uses_relocate hf h0 o

end Node
end Syntax
end ScriptFeatures
