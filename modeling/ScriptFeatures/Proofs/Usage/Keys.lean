import ScriptFeatures.Usage.Nodes

namespace ScriptFeatures

open Syntax

namespace Usage

/-- The keys that the rules name and show alone. -/
def ruleKeys : List String := [
  "default-parameters", "rest-parameters", "error-cause", "regex-lookbehind",
  "regex-named-groups", "regex-unicode-property-escapes", "unicode-code-point-escapes",
  "numeric-separators", "binary-octal-literals", "string-raw", "exponentiation",
  "nullish-coalescing", "private-in", "logical-assignment", "object-rest-spread",
  "spread-syntax", "computed-properties", "bigint", "arrow-functions", "template-literals",
  "tagged-templates", "dynamic-import", "optional-chaining", "new-target", "import-meta",
  "await", "shorthand-properties", "method-definitions", "destructuring", "classes",
  "class-fields", "static-class-fields", "private-class-fields", "private-methods",
  "class-static-blocks", "decorators", "const", "let", "explicit-resource-management",
  "optional-catch-binding", "es-modules"]

def tableKeys : List String :=
  [constructors.map (·.2), builtinFunctions.map (·.2.2), globals.map (·.2),
    regexFlags.map (·.2)].flatten

/-- The keys that are shown together at one place: for what stands before a function, for the head
of a loop, and for the name of a method. -/
def groups : List (List String) := [
  ["generators"], ["async-functions"], ["generators", "async-functions", "async-generators"],
  ["for-of"], ["for-of", "for-await-of"]] ++ methods.map (·.2)

def nodeKeys : List String := ruleKeys ++ tableKeys ++ groups.flatten

/-- Uses as the rules put them together. -/
inductive Shown : List Use → Prop where
  | nil : Shown []
  | append {us vs : List Use} : Shown us → Shown vs → Shown (us ++ vs)
  | alone {key : String} (span : Span) : key ∈ ruleKeys ++ tableKeys → Shown [⟨key, span⟩]
  | group {keys : List String} (span : Span) : keys ∈ groups → Shown (keys.map (⟨·, span⟩))

namespace Shown

theorem rule {key : String} (span : Span) (h : key ∈ ruleKeys) : Shown [⟨key, span⟩] :=
  alone span (List.mem_append_left _ h)

theorem ite {p : Prop} [Decidable p] {us vs : List Use} (hu : Shown us) (hv : Shown vs) :
    Shown (if p then us else vs) := by
  split
  · exact hu
  · exact hv

theorem rule_if {p : Prop} [Decidable p] {key : String} (span : Span) (h : key ∈ ruleKeys) :
    Shown (if p then [⟨key, span⟩] else []) :=
  ite (rule span h) nil

theorem rows {α : Type} {rows : List α} {key : α → String} (span : Span)
    (h : ∀ row ∈ rows, key row ∈ tableKeys) : Shown (rows.map fun row => ⟨key row, span⟩) := by
  induction rows with
  | nil => exact nil
  | cons row rows ih =>
    rw [List.forall_mem_cons] at h
    have hr : Shown [⟨key row, span⟩] := alone span (List.mem_append_right _ h.1)
    exact hr.append (ih h.2)

theorem filterMap {α : Type} {f : α → Option Use} (h : ∀ a u, f a = some u → Shown [u])
    (as : List α) : Shown (as.filterMap f) := by
  induction as with
  | nil => exact nil
  | cons a as ih =>
    cases ha : f a with
    | none => rwa [List.filterMap_cons_none ha]
    | some u =>
      rw [List.filterMap_cons_some ha]
      exact (h a u ha).append ih

theorem mem_of_lookup {α : Type} {table : List (String × α)} {name : String} {entry : α}
    (h : table.lookup name = some entry) : (name, entry) ∈ table := by
  obtain ⟨before, after, rfl, _⟩ := List.lookup_eq_some_iff.1 h
  simp

theorem lookup {table : List (String × String)} (name : String) (span : Span)
    (h : ∀ row ∈ table, row.2 ∈ tableKeys) :
    Shown ((table.lookup name).toList.map (⟨·, span⟩)) := by
  apply rows
  intro key hk
  exact h _ (mem_of_lookup (Option.mem_toList.1 hk))

theorem paramUse {p : Node} {u : Use} (h : paramUse? p = some u) : Shown [u] := by
  unfold paramUse? at h
  split at h <;> cases h <;> exact rule _ (by decide)

theorem quasiUse {q : Node} {u : Use} (h : quasiUse? q = some u) : Shown [u] := by
  unfold quasiUse? at h
  split at h
  · split at h <;> cases h
    exact rule _ (by decide)
  · cases h

theorem restPropertyUse {p : Node} {u : Use} (h : restPropertyUse? p = some u) : Shown [u] := by
  unfold restPropertyUse? at h
  split at h <;> cases h
  exact rule _ (by decide)

theorem callUses (callee : Node) (span : Span) : Shown (Usage.callUses callee span) := by
  have hm (name : String) : Shown (((methods.lookup name).getD []).map (⟨·, span⟩)) := by
    cases hl : methods.lookup name with
    | none => exact nil
    | some keys =>
      exact group span (List.mem_append_right _ (List.mem_map_of_mem (mem_of_lookup hl)))
  have hb : ∀ row ∈ builtinFunctions, row.2.2 ∈ tableKeys := fun row hr =>
    List.mem_flatten_of_mem (.tail _ (.head _)) (List.mem_map_of_mem hr)
  unfold Usage.callUses
  split
  · exact nil
  · split
    · exact nil
    · split
      · exact ite (hm _) (rows span fun row hr => hb row (List.mem_filter.1 hr).1)
      · exact hm _

theorem constructUses (callee : Node) (arguments : List Node) (span : Span) :
    Shown (Usage.constructUses callee arguments span) := by
  have hc : ∀ row ∈ constructors, row.2 ∈ tableKeys := fun row hr =>
    List.mem_flatten_of_mem (.head _) (List.mem_map_of_mem hr)
  unfold Usage.constructUses
  split
  · exact (lookup _ span hc).append (rule_if span (by decide))
  · exact nil

theorem regexUses (pattern flags : List Char) (span : Span) :
    Shown (Usage.regexUses pattern flags span) := by
  have hf : ∀ row ∈ regexFlags, row.2 ∈ tableKeys := fun row hr =>
    List.mem_flatten_of_mem (.tail _ (.tail _ (.tail _ (.head _)))) (List.mem_map_of_mem hr)
  have hr : Shown ((regexFlags.filter fun row => flags.contains row.1).map (⟨·.2, span⟩)) :=
    rows span fun row hr => hf row (List.mem_filter.1 hr).1
  exact ((hr.append (rule_if span (by decide))).append (rule_if span (by decide))).append
    (rule_if span (by decide))

theorem numberUses (raw : List Char) (span : Span) : Shown (Usage.numberUses raw span) := by
  unfold Usage.numberUses
  apply (rule_if span (by decide)).append
  split
  · exact rule_if span (by decide)
  · exact nil

theorem binaryUses (operator : BinaryOperator) (left : Node) (span : Span) :
    Shown (Usage.binaryUses operator left span) := by
  unfold Usage.binaryUses
  split <;> first | exact nil | exact rule _ (by decide)

theorem assignmentUses (operator : AssignOperator) (span : Span) :
    Shown (Usage.assignmentUses operator span) := by
  unfold Usage.assignmentUses
  split <;> first | exact nil | exact rule _ (by decide)

theorem globalUse (name : String) (span : Span) :
    Shown ((globals.lookup name).toList.map (⟨·, span⟩)) := by
  apply lookup
  intro row hr
  exact List.mem_flatten_of_mem (.tail _ (.tail _ (.head _))) (List.mem_map_of_mem hr)

theorem flags (span : Span) (isAsync isGenerator : Bool) :
    Shown (functionFlags span isAsync isGenerator) := by
  cases isAsync with
  | false =>
    cases isGenerator with
    | false => exact nil
    | true => exact group span (.head _)
  | true =>
    cases isGenerator with
    | false => exact group span (.tail _ (.head _))
    | true => exact group span (.tail _ (.tail _ (.head _)))

theorem loop (head : Span) (isAwait : Bool) :
    Shown (⟨"for-of", head⟩ :: if isAwait then [⟨"for-await-of", head⟩] else []) := by
  cases isAwait with
  | false => exact group head (.tail _ (.tail _ (.tail _ (.head _))))
  | true => exact group head (.tail _ (.tail _ (.tail _ (.tail _ (.head _)))))

theorem key_mem_nodeKeys {us : List Use} (h : Shown us) : ∀ u ∈ us, u.key ∈ nodeKeys := by
  induction h with
  | nil => simp
  | append _ _ hu hv => exact List.forall_mem_append.2 ⟨hu, hv⟩
  | alone span hk => exact List.forall_mem_singleton.2 (List.mem_append_left _ hk)
  | group span hk =>
    intro u hu
    obtain ⟨key, hm, rfl⟩ := List.mem_map.1 hu
    exact List.mem_append_right _ (List.mem_flatten_of_mem hk hm)

end Shown
end Usage

namespace Syntax.Node

open Usage

/-- A node shows only what the rules put together. -/
theorem shown_uses (n : Node) : Shown n.uses := by
  cases n with
  | identifier span name => exact .globalUse name span
  | stringLiteral span value raw =>
    cases raw with
    | none => exact .nil
    | some raw => exact .rule_if span (by decide)
  | numberLiteral span raw =>
    cases raw with
    | none => exact .nil
    | some raw => exact .numberUses _ span
  | regexLiteral span pattern flags => exact .regexUses _ _ span
  | arrowFunction span isAsync isGenerator params body =>
    exact (Shown.append (.rule span (by decide)) (.flags _ _ _)).append
      (.filterMap (fun _ _ => .paramUse) _)
  | function span isAsync isGenerator params decorators body =>
    exact (Shown.flags _ _ _).append (.filterMap (fun _ _ => .paramUse) _)
  | constructorMember => exact .filterMap (fun _ _ => .paramUse) _
  | template span expressions quasis =>
    exact (Shown.rule span (by decide)).append (.filterMap (fun _ _ => .quasiUse) _)
  | taggedTemplate span tag template =>
    exact (Shown.rule span (by decide)).append (.rule_if span (by decide))
  | call span callee arguments =>
    cases callee with
    | importCallee => exact .rule span (by decide)
    | superCallee => exact .nil
    | _ =>
      simp only [uses]
      exact .callUses _ span
  | optionalCall span callee arguments => exact .callUses _ span
  | construct span callee arguments => exact .constructUses _ _ span
  | optionalChain span isOptional base =>
    cases isOptional with
    | false => exact .nil
    | true => exact .rule span (by decide)
  | metaProperty span kind => cases kind <;> exact .rule span (by decide)
  | binary span operator left right => exact .binaryUses _ _ span
  | assignment span operator left right => exact .assignmentUses _ span
  | objectPattern span properties =>
    exact (Shown.rule span (by decide)).append (.filterMap (fun _ _ => .restPropertyUse) _)
  | classProperty span isStatic => cases isStatic <;> exact .rule span (by decide)
  | privateProperty span isStatic =>
    cases isStatic with
    | false => exact .rule span (by decide)
    | true => exact (Shown.rule span (by decide)).append (.rule span (by decide))
  | variableDeclaration span kind =>
    cases kind with
    | var => exact .nil
    | «let» => exact .rule span (by decide)
    | const => exact .rule span (by decide)
  | forOfStatement span isAwait left right body => exact .loop _ isAwait
  | catchClause span param body =>
    cases param with
    | none => exact .rule span (by decide)
    | some => exact .nil
  | _ => first | exact .nil | exact .rule _ (by decide)

theorem key_mem_nodeKeys {n : Node} {u : Use} (h : u ∈ n.uses) : u.key ∈ nodeKeys :=
  n.shown_uses.key_mem_nodeKeys u h

end Syntax.Node
end ScriptFeatures
