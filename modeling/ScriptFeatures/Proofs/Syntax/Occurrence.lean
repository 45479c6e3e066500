import ScriptFeatures.Syntax.Node

namespace ScriptFeatures.Syntax

/-- A node at its place in a tree: the nodes that it stands in, the innermost first, and itself. -/
structure Occurrence where
  above : List Node
  node : Node

namespace Node

mutual

/-- The places in a tree whose root stands in the nodes `above`: the root, and after it the places
in its fields, field by field. The fields are those of the constructor, whatever `children` says of
them. -/
def occurrences (above : List Node) : Node → List Occurrence
  | n@(identifier ..) | n@(bindingName ..) | n@(propertyName ..) | n@(privateName ..)
  | n@(literalKey ..) | n@(stringLiteral ..) | n@(numberLiteral ..) | n@(bigintLiteral ..)
  | n@(regexLiteral ..) | n@(booleanLiteral ..) | n@(nullLiteral ..) | n@(thisExpression ..)
  | n@hole | n@(templateElement ..) | n@(importCallee ..) | n@(superCallee ..)
  | n@(metaProperty ..) | n@(invalid ..) | n@(shorthand ..) | n@(emptyMember ..)
  | n@(emptyStatement ..) | n@(breakStatement ..) | n@(continueStatement ..)
  | n@(debuggerStatement ..) | n@(markupText ..) => [⟨above, n⟩]
  | n@(computedKey _ e) | n@(spread _ e) | n@(functionExpression _ e) | n@(classExpression _ e)
  | n@(index _ e) | n@(superMember _ e) | n@(optionalChain _ _ e) | n@(unary _ _ e)
  | n@(update _ e) | n@(await _ e) | n@(parenthesized _ e) | n@(shorthandDefault _ _ e)
  | n@(objectSpread _ e) | n@(restElement _ e) | n@(staticBlock _ e) | n@(decorator _ e)
  | n@(expressionStatement _ e) | n@(functionDeclaration _ e) | n@(classDeclaration _ e)
  | n@(throwStatement _ e) | n@(labeledStatement _ _ e) | n@(exportDeclaration _ e)
  | n@(exportDefaultDeclaration _ e) | n@(exportDefaultExpression _ e)
  | n@(markupSpreadChild _ e) => ⟨above, n⟩ :: occurrences (n :: above) e
  | n@(arrayLiteral _ es) | n@(objectLiteral _ es) | n@(sequence _ es) | n@(arrayPattern _ es)
  | n@(objectPattern _ es) | n@(block _ es) | n@(variableDeclaration _ _ es)
  | n@(usingDeclaration _ _ es) | n@(module _ es) | n@(markupFragment _ es) =>
    ⟨above, n⟩ :: listOccurrences (n :: above) es
  | n@(yield _ e?) | n@(patternShorthand _ _ e?) | n@(returnStatement _ e?)
  | n@(importDeclaration _ _ _ e?) | n@(exportNames _ _ _ e?) | n@(exportAll _ _ e?)
  | n@(markupAttribute _ _ e?) | n@(markupContainer _ e?) =>
    ⟨above, n⟩ :: optionOccurrences (n :: above) e?
  | n@(taggedTemplate _ l r) | n@(member _ l r) | n@(binary _ _ l r) | n@(assignment _ _ l r)
  | n@(property l r) | n@(method l r) | n@(defaultPattern _ l r) | n@(patternProperty l r)
  | n@(classMethod _ _ _ l r) | n@(privateMethod _ _ _ l r) | n@(whileStatement _ l r)
  | n@(doWhileStatement _ l r) | n@(withStatement _ l r) =>
    ⟨above, n⟩ :: (occurrences (n :: above) l ++ occurrences (n :: above) r)
  | n@(conditional _ a b c) | n@(forInStatement _ a b c) | n@(forOfStatement _ _ a b c) =>
    ⟨above, n⟩ :: (occurrences (n :: above) a ++ occurrences (n :: above) b
      ++ occurrences (n :: above) c)
  | n@(call _ e es) | n@(construct _ e es) | n@(optionalCall _ e es)
  | n@(switchStatement _ e es) =>
    ⟨above, n⟩ :: (occurrences (n :: above) e ++ listOccurrences (n :: above) es)
  | n@(arrowFunction _ _ _ es e) | n@(parameter _ es e) | n@(parameterProperty es e) =>
    ⟨above, n⟩ :: (listOccurrences (n :: above) es ++ occurrences (n :: above) e)
  | n@(template _ es fs) | n@(markupElement _ _ es fs) =>
    ⟨above, n⟩ :: (listOccurrences (n :: above) es ++ listOccurrences (n :: above) fs)
  | n@(getter _ e e?) | n@(declarator _ e e?) =>
    ⟨above, n⟩ :: (occurrences (n :: above) e ++ optionOccurrences (n :: above) e?)
  | n@(setter _ a b e?) | n@(ifStatement _ a b e?) =>
    ⟨above, n⟩ :: (occurrences (n :: above) a ++ occurrences (n :: above) b
      ++ optionOccurrences (n :: above) e?)
  | n@(function _ _ _ es fs e?) | n@(classDefinition _ es fs e?) =>
    ⟨above, n⟩ :: (listOccurrences (n :: above) es ++ listOccurrences (n :: above) fs
      ++ optionOccurrences (n :: above) e?)
  | n@(constructorMember _ e es e?) =>
    ⟨above, n⟩ :: (occurrences (n :: above) e ++ listOccurrences (n :: above) es
      ++ optionOccurrences (n :: above) e?)
  | n@(classProperty _ _ e e? es) | n@(privateProperty _ _ e e? es)
  | n@(autoAccessor _ _ e e? es) =>
    ⟨above, n⟩ :: (occurrences (n :: above) e ++ optionOccurrences (n :: above) e?
      ++ listOccurrences (n :: above) es)
  | n@(forStatement _ a? b? c? e) =>
    ⟨above, n⟩ :: (optionOccurrences (n :: above) a? ++ optionOccurrences (n :: above) b?
      ++ optionOccurrences (n :: above) c? ++ occurrences (n :: above) e)
  | n@(switchCase _ e? es) =>
    ⟨above, n⟩ :: (optionOccurrences (n :: above) e? ++ listOccurrences (n :: above) es)
  | n@(tryStatement _ e a? b?) =>
    ⟨above, n⟩ :: (occurrences (n :: above) e ++ optionOccurrences (n :: above) a?
      ++ optionOccurrences (n :: above) b?)
  | n@(catchClause _ e? e) =>
    ⟨above, n⟩ :: (optionOccurrences (n :: above) e? ++ occurrences (n :: above) e)

def listOccurrences (above : List Node) : List Node → List Occurrence
  | [] => []
  | n :: ns => occurrences above n ++ listOccurrences above ns

def optionOccurrences (above : List Node) : Option Node → List Occurrence
  | none => []
  | some n => occurrences above n

end

theorem listOccurrences_eq (above ns : List Node) :
    listOccurrences above ns = ns.flatMap (occurrences above) := by
  induction ns with
  | nil => rfl
  | cons n ns ih => rw [listOccurrences, ih, List.flatMap_cons]

theorem optionOccurrences_eq (above : List Node) (n? : Option Node) :
    optionOccurrences above n? = n?.toList.flatMap (occurrences above) := by
  cases n? with
  | none => rfl
  | some n => simp [optionOccurrences]

theorem occurrences_eq (above : List Node) (n : Node) :
    n.occurrences above = ⟨above, n⟩ :: n.children.flatMap (occurrences (n :: above)) := by
  cases n <;> simp [occurrences, children, listOccurrences_eq, optionOccurrences_eq]

theorem mem_occurrences {above : List Node} {n : Node} {o : Occurrence} :
    o ∈ n.occurrences above ↔
      o = ⟨above, n⟩ ∨ ∃ c ∈ n.children, o ∈ c.occurrences (n :: above) := by
  rw [occurrences_eq, List.mem_cons, List.mem_flatMap]

theorem self_mem_occurrences (above : List Node) (n : Node) :
    ⟨above, n⟩ ∈ n.occurrences above :=
  mem_occurrences.2 (.inl rfl)

/-- What holds of a node if it holds of its children holds of every node. -/
theorem children_induction {P : Node → Prop} (step : ∀ n, (∀ c ∈ n.children, P c) → P n)
    (n : Node) : P n :=
  step n fun c _ => children_induction step c
termination_by sizeOf n
decreasing_by exact sizeOf_lt_of_mem_children ‹_›

/-- Which nodes stand in a tree does not depend on what the tree stands in. -/
theorem exists_occurrence_above {above : List Node} (above' : List Node) {n : Node}
    {P : Node → Prop} (h : ∃ o ∈ n.occurrences above, P o.node) :
    ∃ o ∈ n.occurrences above', P o.node := by
  induction n using children_induction generalizing above above' with
  | step n ih =>
    obtain ⟨o, ho, hp⟩ := h
    rcases mem_occurrences.1 ho with rfl | ⟨c, hc, ho⟩
    · exact ⟨_, self_mem_occurrences above' n, hp⟩
    · obtain ⟨o', ho', hp'⟩ := ih c hc (n :: above') ⟨o, ho, hp⟩
      exact ⟨o', mem_occurrences.2 (.inr ⟨c, hc, ho'⟩), hp'⟩

theorem above_suffix {above : List Node} {n : Node} {o : Occurrence}
    (h : o ∈ n.occurrences above) : above <:+ o.above := by
  induction n using children_induction generalizing above with
  | step n ih =>
    rcases mem_occurrences.1 h with rfl | ⟨c, hc, ho⟩
    · exact List.suffix_refl above
    · exact (List.suffix_cons n above).trans (ih c hc ho)

end Node
end ScriptFeatures.Syntax
