import ScriptFeatures.Proofs.Syntax.Parts
import ScriptFeatures.Usage.Nodes

namespace ScriptFeatures

open Syntax (Node Span)

namespace Usage

open Syntax.Node

def receiverName? : Node → Option String
  | .identifier _ name => some name
  | _ => none

/-- What a rule for calls sees of a member access: the name that its object is and the name of its
property. -/
def memberNames? (n : Node) : Option (Option String × Option String) :=
  (memberOf? n).map fun m => (receiverName? m.1, propertyName? m.2)

def plainParamUse? (n : Node) : Option Use := (paramPattern? n).bind paramUse?

def namesUses (names : Option (Option String × Option String)) (span : Span) : List Use :=
  match names with
  | none | some (_, none) => []
  | some (receiver?, some name) =>
    let ofMethod := (methods.lookup name).getD []
    match receiver? with
    | some receiver =>
      let ofReceiver := builtinFunctions.filter fun (n, functions, _) =>
        n == receiver && functions.contains name
      if ofReceiver.isEmpty then ofMethod.map (⟨·, span⟩)
      else ofReceiver.map fun (_, _, key) => ⟨key, span⟩
    | none => ofMethod.map (⟨·, span⟩)

theorem callUses_eq (callee : Node) (span : Span) :
    callUses callee span = namesUses (memberNames? callee) span := by
  rw [callUses, memberNames?]
  cases memberOf? callee with
  | none => rfl
  | some m =>
    obtain ⟨object, property⟩ := m
    simp only [Option.map_some, namesUses]
    cases propertyName? property with
    | none => rfl
    | some name => cases object <;> rfl

theorem isStringRaw_eq (tag : Node) :
    isStringRaw tag = (memberNames? tag == some (some "String", some "raw")) := by
  rw [isStringRaw, memberNames?]
  cases memberOf? tag with
  | none => rfl
  | some m =>
    obtain ⟨object, property⟩ := m
    cases object
    case identifier s name =>
      by_cases hn : name = "String"
      · subst hn
        rfl
      · simp [receiverName?, hn]
    all_goals rfl

/-- Whether the node is a member access without parentheses or optional chains around it. -/
def isMember : Node → Bool
  | .member .. => true
  | _ => false

def isObjectLiteral : Node → Bool
  | .objectLiteral .. => true
  | _ => false

def isPrivateName : Node → Bool
  | .privateName .. => true
  | _ => false

def isImportCallee : Node → Bool
  | .importCallee .. => true
  | _ => false

def isSuperCallee : Node → Bool
  | .superCallee .. => true
  | _ => false

def stringValue? : Node → Option String
  | .stringLiteral _ value _ => some value
  | _ => none

theorem memberNames?_optionalChain (span : Span) (isOptional : Bool) (base : Node) :
    memberNames? (.optionalChain span isOptional base) =
      if isMember base then memberNames? base else none := by
  cases base <;> rfl

theorem propertyName?_index (span : Span) (e : Node) :
    propertyName? (.index span e) = stringValue? e := by
  cases e <;> rfl

theorem filterMap_plainParamUse? (params : List Node) :
    (params.filterMap paramPattern?).filterMap paramUse? = params.filterMap plainParamUse? :=
  List.filterMap_filterMap

theorem uses_call (span : Span) (callee : Node) (arguments : List Node) :
    (call span callee arguments).uses =
      if isImportCallee callee then [⟨"dynamic-import", span⟩]
      else if isSuperCallee callee then []
      else callUses callee span := by
  cases callee <;> rfl

theorem binaryUses_isIn (left : Node) (span : Span) :
    binaryUses .isIn left span =
      if isPrivateName left then [⟨"private-in", span⟩] else [] := by
  cases left <;> rfl

theorem hasOptionsObject_eq (arguments : List Node) :
    hasOptionsObject arguments = arguments[1]?.any isObjectLiteral := by
  rw [hasOptionsObject]
  cases arguments[1]? with
  | none => rfl
  | some n => cases n <;> rfl

theorem constructUses_eq (callee : Node) (arguments : List Node) (span : Span) :
    constructUses callee arguments span = (receiverName? callee).toList.flatMap fun name =>
      (constructors.lookup name).toList.map (⟨·, span⟩)
        ++ if hasOptionsObject arguments && errorConstructors.contains name then
            [⟨"error-cause", span⟩]
          else [] := by
  cases callee
  case identifier s name =>
    rw [receiverName?, Option.toList_some, List.flatMap_singleton]
    rfl
  all_goals rfl

/-- The rules for the nodes around two nodes do not tell them apart. -/
structure Alike (n n' : Node) : Prop where
  label : n'.label = n.label
  span : n'.span = n.span
  member : memberNames? n' = memberNames? n
  property : propertyName? n' = propertyName? n
  param : plainParamUse? n' = plainParamUse? n

namespace Alike

variable {n n' : Node}

theorem refl (n : Node) : Alike n n := ⟨rfl, rfl, rfl, rfl, rfl⟩

theorem receiver (h : Alike n n') : receiverName? n' = receiverName? n :=
  congr_of_label (fun n => by cases n <;> rfl) h.label

theorem paramUse (h : Alike n n') : paramUse? n' = paramUse? n :=
  congr_of_label (fun n => by cases n <;> rfl) h.label

theorem quasiUse (h : Alike n n') : quasiUse? n' = quasiUse? n :=
  congr_of_label (fun n => by cases n <;> rfl) h.label

theorem restPropertyUse (h : Alike n n') : restPropertyUse? n' = restPropertyUse? n :=
  congr_of_label (fun n => by cases n <;> rfl) h.label

theorem objectLiteral (h : Alike n n') : isObjectLiteral n' = isObjectLiteral n :=
  congr_of_label (fun n => by cases n <;> rfl) h.label

theorem privateName (h : Alike n n') : isPrivateName n' = isPrivateName n :=
  congr_of_label (fun n => by cases n <;> rfl) h.label

theorem importCallee (h : Alike n n') : isImportCallee n' = isImportCallee n :=
  congr_of_label (fun n => by cases n <;> rfl) h.label

theorem superCallee (h : Alike n n') : isSuperCallee n' = isSuperCallee n :=
  congr_of_label (fun n => by cases n <;> rfl) h.label

theorem stringValue (h : Alike n n') : stringValue? n' = stringValue? n :=
  congr_of_label (fun n => by cases n <;> rfl) h.label

theorem isMember (h : Alike n n') : Usage.isMember n' = Usage.isMember n :=
  congr_of_label (fun n => by cases n <;> rfl) h.label

theorem isFunctionBoundary (h : Alike n n') : n'.isFunctionBoundary = n.isFunctionBoundary :=
  congr_of_label (fun n => by cases n <;> rfl) h.label

end Alike

section

variable {f : ℕ → Node → Node}

theorem filterMap_mapIdx {α : Type} {g : Node → Option α} (hg : ∀ i c, g (f i c) = g c)
    (cs : List Node) : (cs.mapIdx f).filterMap g = cs.filterMap g := by
  induction cs generalizing f with
  | nil => rfl
  | cons c cs ih =>
    rw [List.mapIdx_cons, List.filterMap_cons, List.filterMap_cons, hg 0 c,
      ih fun i c => hg (i + 1) c]

theorem hasOptionsObject_mapIdx (h : ∀ i c, Alike c (f i c)) (cs : List Node) :
    hasOptionsObject (cs.mapIdx f) = hasOptionsObject cs := by
  rw [hasOptionsObject_eq, hasOptionsObject_eq, List.getElem?_mapIdx]
  cases cs[1]? with
  | none => rfl
  | some c => exact (h 1 c).objectLiteral

theorem functionHead_map {i : ℕ} (h : ∀ i c, Alike c (f i c)) (span : Span)
    (body : Option Node) : functionHead span (body.map (f i)) = functionHead span body := by
  cases body with
  | none => rfl
  | some b => exact congrArg (fun s : Span => span.withHi s.lo) (h i b).span

theorem Alike.mapChildren (h : ∀ i c, Alike c (f i c)) (n : Node) :
    Alike n (n.mapChildren f) where
  label := label_mapChildren f n
  span := by
    cases n
    case spread s e => simp only [Node.mapChildren, Node.span, (h _ _).span]
    case objectSpread s e => simp only [Node.mapChildren, Node.span, (h _ _).span]
    case property k v => simp only [Node.mapChildren, Node.span, (h _ _).span]
    case patternProperty k v => simp only [Node.mapChildren, Node.span, (h _ _).span]
    case functionExpression x g => exact (h 0 g).span
    case classExpression x c => exact (h 0 c).span
    case method k g => exact (h 1 g).span
    case functionDeclaration x g => exact (h 0 g).span
    case classDeclaration x c => exact (h 0 c).span
    all_goals rfl
  member := by
    cases n
    case member s o p =>
      exact congrArg some (congrArg₂ Prod.mk (h 0 o).receiver (h 1 p).property)
    case optionalChain s x b =>
      rw [Node.mapChildren, memberNames?_optionalChain, memberNames?_optionalChain,
        (h 0 b).isMember, (h 0 b).member]
    case parenthesized s e => exact (h 0 e).member
    all_goals rfl
  property := by
    cases n
    case index s e =>
      rw [Node.mapChildren, propertyName?_index, propertyName?_index, (h 0 e).stringValue]
    all_goals rfl
  param := by
    cases n
    case parameter s ds p => exact (h ds.length p).paramUse
    all_goals rfl

theorem Alike.editAt {edit : Node → Node} (h : ∀ n, Alike n (edit n)) (path : List ℕ) (n : Node) :
    Alike n (n.editAt edit path) := by
  induction path generalizing n with
  | nil => exact h n
  | cons i path ih =>
    apply Alike.mapChildren
    intro j c
    split
    · exact ih c
    · exact .refl c

end

end Usage

namespace Syntax.Node

open Usage

variable {f : ℕ → Node → Node}

/-- What a node shows is told by its label and by what its rule sees of its parts. -/
theorem uses_mapChildren (h : ∀ i c, Alike c (f i c)) (n : Node) :
    (n.mapChildren f).uses = n.uses := by
  cases n
  case spread s e =>
    exact congrArg (fun s => [(⟨"spread-syntax", s⟩ : Use)])
      (Alike.mapChildren h (.spread s e)).span
  case objectSpread s e =>
    exact congrArg (fun s => [(⟨"object-rest-spread", s⟩ : Use)])
      (Alike.mapChildren h (.objectSpread s e)).span
  case arrowFunction s x y ps b =>
    simp only [mapChildren, uses, filterMap_mapIdx fun i c => (h i c).paramUse]
  case function s x y ps ds b =>
    simp only [mapChildren, uses, functionHead_map h, filterMap_plainParamUse?,
      filterMap_mapIdx fun i c => (h i c).param]
  case constructorMember s k ps b =>
    simp only [mapChildren, uses, filterMap_plainParamUse?,
      filterMap_mapIdx fun i c => (h (i + 1) c).param]
  case template s es qs =>
    simp only [mapChildren, uses, filterMap_mapIdx fun i c => (h (i + es.length) c).quasiUse]
  case taggedTemplate s t q =>
    simp only [mapChildren, uses, isStringRaw_eq, (h 0 t).member]
  case call s c as =>
    rw [mapChildren, uses_call, uses_call, (h 0 c).importCallee, (h 0 c).superCallee, callUses_eq,
      callUses_eq, (h 0 c).member]
  case optionalCall s c as =>
    simp only [mapChildren, uses, callUses_eq, (h 0 c).member]
  case construct s c as =>
    simp only [mapChildren, uses, constructUses_eq, (h 0 c).receiver,
      hasOptionsObject_mapIdx fun i c => h (i + 1) c]
  case optionalChain s x b => cases x <;> rfl
  case metaProperty s x => cases x <;> rfl
  case binary s x l r =>
    cases x
    case isIn =>
      simp only [mapChildren, uses, binaryUses_isIn, (h 0 l).privateName]
    all_goals rfl
  case method k g =>
    exact congrArg (fun s => [(⟨"method-definitions", s⟩ : Use)]) (h 1 g).span
  case objectPattern s ps =>
    simp only [mapChildren, uses, filterMap_mapIdx fun i c => (h i c).restPropertyUse]
  case variableDeclaration s x ds => cases x <;> rfl
  case forOfStatement s x l r b =>
    simp only [mapChildren, uses, (h 1 r).span]
  case catchClause s p b => cases p <;> rfl
  case stringLiteral s x raw => cases raw <;> rfl
  case numberLiteral s raw => cases raw <;> rfl
  all_goals rfl

theorem awaited?_mapChildren (h : ∀ i c, Alike c (f i c)) (n : Node) :
    (n.mapChildren f).awaited? = n.awaited? := by
  cases n
  case forOfStatement s x l r b =>
    cases x with
    | false => rfl
    | true => exact congrArg (fun t : Span => some (s.withHi t.hi)) (h 1 r).span
  all_goals rfl

end Syntax.Node
end ScriptFeatures
