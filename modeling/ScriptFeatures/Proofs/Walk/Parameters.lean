import ScriptFeatures.Proofs.Usage.Kinds
import ScriptFeatures.Proofs.Walk.Coverage

namespace ScriptFeatures

open Syntax (Node Occurrence Span)
open Text (Snippet)

namespace Syntax

/-- The pattern stands as such among the parameters of a function, which may be that of a method
or of an accessor in a class, of an arrow function or of a constructor. -/
inductive FunctionParameter : Node → Node → Prop where
  | function {span place : Span} {isAsync isGenerator : Bool}
      {params decorators placeDecorators : List Node} {body : Option Node} {p : Node} :
      .parameter place placeDecorators p ∈ params →
      FunctionParameter (.function span isAsync isGenerator params decorators body) p
  | arrowFunction {span : Span} {isAsync isGenerator : Bool} {params : List Node} {body p : Node} :
      p ∈ params → FunctionParameter (.arrowFunction span isAsync isGenerator params body) p
  | constructorMember {span place : Span} {key : Node} {params placeDecorators : List Node}
      {body : Option Node} {p : Node} :
      .parameter place placeDecorators p ∈ params →
      FunctionParameter (.constructorMember span key params body) p

inductive SetterParameter : Node → Node → Prop where
  | mk (span : Span) (key param : Node) (body : Option Node) :
      SetterParameter (.setter span key param body) param

def PlainParameter (n p : Node) : Prop := FunctionParameter n p ∨ SetterParameter n p

namespace Node

theorem mem_filterMap_paramUse? {ps : List Node} {span : Span} :
    ⟨"default-parameters", span⟩ ∈ ps.filterMap Usage.paramUse? ↔
      ∃ left right, .defaultPattern span left right ∈ ps := by
  rw [List.mem_filterMap]
  constructor
  · rintro ⟨p, hp, h⟩
    unfold Usage.paramUse? at h
    split at h
    · obtain ⟨-, rfl⟩ := Usage.Use.mk.inj (Option.some.inj h)
      exact ⟨_, _, hp⟩
    · exact absurd (Usage.Use.mk.inj (Option.some.inj h)).1 (by decide)
    · cases h
  · rintro ⟨left, right, hp⟩
    exact ⟨_, hp, rfl⟩

theorem mem_filterMap_paramPattern? {ps : List Node} {p : Node} :
    p ∈ ps.filterMap Usage.paramPattern? ↔ ∃ span decorators, .parameter span decorators p ∈ ps := by
  rw [List.mem_filterMap]
  constructor
  · rintro ⟨n, hn, h⟩
    unfold Usage.paramPattern? at h
    split at h <;> cases h
    exact ⟨_, _, hn⟩
  · rintro ⟨span, decorators, hp⟩
    exact ⟨_, hp, rfl⟩

theorem not_mem_functionFlags {span place : Span} {isAsync isGenerator : Bool} :
    ⟨"default-parameters", place⟩ ∉ Usage.functionFlags span isAsync isGenerator := by
  cases isAsync <;> cases isGenerator <;> simp [Usage.functionFlags]

theorem mem_uses_defaultParameters {n : Node} {span : Span} :
    ⟨"default-parameters", span⟩ ∈ n.uses ↔
      ∃ left right, FunctionParameter n (.defaultPattern span left right) := by
  constructor
  · intro h
    have hk : "default-parameters" ∈ n.kindKeys := n.keysIn_kindKeys _ h
    cases n with
    | arrowFunction place isAsync isGenerator params body =>
      rcases List.mem_append.1 h with hf | hp
      · rcases List.mem_cons.1 hf with hf | hf
        · exact absurd (Usage.Use.mk.inj hf).1 (by decide)
        · exact absurd hf not_mem_functionFlags
      · obtain ⟨left, right, hp⟩ := mem_filterMap_paramUse?.1 hp
        exact ⟨left, right, .arrowFunction hp⟩
    | function place isAsync isGenerator params decorators body =>
      rcases List.mem_append.1 h with hf | hp
      · exact absurd hf not_mem_functionFlags
      · obtain ⟨left, right, hp⟩ := mem_filterMap_paramUse?.1 hp
        obtain ⟨_, _, hp⟩ := mem_filterMap_paramPattern?.1 hp
        exact ⟨left, right, .function hp⟩
    | constructorMember place key params body =>
      obtain ⟨left, right, hp⟩ := mem_filterMap_paramUse?.1 h
      obtain ⟨_, _, hp⟩ := mem_filterMap_paramPattern?.1 hp
      exact ⟨left, right, .constructorMember hp⟩
    | _ => exact absurd hk (by simp only [kindKeys]; decide)
  · rintro ⟨left, right, h⟩
    cases h with
    | function hp =>
      have hq := mem_filterMap_paramPattern?.2 ⟨_, _, hp⟩
      exact List.mem_append_right _ (mem_filterMap_paramUse?.2 ⟨left, right, hq⟩)
    | arrowFunction hp =>
      exact List.mem_append_right _ (mem_filterMap_paramUse?.2 ⟨left, right, hp⟩)
    | constructorMember hp =>
      have hq := mem_filterMap_paramPattern?.2 ⟨_, _, hp⟩
      exact mem_filterMap_paramUse?.2 ⟨left, right, hq⟩

end Node
end Syntax

open Syntax (FunctionParameter PlainParameter SetterParameter)

namespace Evidence

variable {cite : Citation} {module : Node}

/-- What is cited as default parameters are the plain parameters with a default value. -/
def CitesDefaults (cite : Citation) (module : Node) : Prop :=
  ∀ s, (ofModule cite module).contains "default-parameters" s = true ↔
    ∃ o ∈ module.occurrences [], ∃ span left right,
      PlainParameter o.node (.defaultPattern span left right) ∧ span.isDummy = false ∧
        cite.snippet span = s

theorem contains_defaultParameters {s : Snippet} :
    (ofModule cite module).contains "default-parameters" s = true ↔
      ∃ o ∈ module.occurrences [], ∃ span left right,
        FunctionParameter o.node (.defaultPattern span left right) ∧ span.isDummy = false ∧
          cite.snippet span = s := by
  have hk : "default-parameters" ≠ "top-level-await" := by decide
  simp only [contains_ofModule, Occurrence.mem_uses_of_ne hk, Node.mem_uses_defaultParameters]
  constructor
  · rintro ⟨o, ho, span, ⟨left, right, hp⟩, hd, hs⟩
    exact ⟨o, ho, span, left, right, hp, hd, hs⟩
  · rintro ⟨o, ho, span, left, right, hp, hd, hs⟩
    exact ⟨o, ho, span, ⟨left, right, hp⟩, hd, hs⟩

theorem citesDefaults_iff :
    CitesDefaults cite module ↔
      ∀ o ∈ module.occurrences [], ∀ span left right,
        SetterParameter o.node (.defaultPattern span left right) → span.isDummy = false →
          (ofModule cite module).contains "default-parameters" (cite.snippet span) = true := by
  constructor
  · intro h o ho span left right hp hd
    exact (h _).2 ⟨o, ho, span, left, right, .inr hp, hd, rfl⟩
  · intro h s
    constructor
    · intro hc
      obtain ⟨o, ho, span, left, right, hp, hd, hs⟩ := contains_defaultParameters.1 hc
      exact ⟨o, ho, span, left, right, .inl hp, hd, hs⟩
    · rintro ⟨o, ho, span, left, right, hp | hp, hd, rfl⟩
      · exact contains_defaultParameters.2 ⟨o, ho, span, left, right, hp, hd, rfl⟩
      · exact h o ho span left right hp hd

theorem contains_defaultParameters_iff_children {s : Snippet} :
    (ofModule cite module).contains "default-parameters" s = true ↔
      (∃ span left right, FunctionParameter module (.defaultPattern span left right) ∧
        span.isDummy = false ∧ cite.snippet span = s) ∨
      ∃ c ∈ module.children, (ofModule cite c).contains "default-parameters" s = true := by
  rw [contains_ofModule_iff_children (by decide)]
  apply or_congr_left
  simp only [Node.mem_uses_defaultParameters]
  constructor
  · rintro ⟨span, ⟨left, right, hp⟩, h⟩
    exact ⟨span, left, right, hp, h⟩
  · rintro ⟨span, left, right, hp, h⟩
    exact ⟨span, ⟨left, right, hp⟩, h⟩

theorem contains_defaultParameters_setter {span : Span} {key param : Node} {body : Option Node}
    {s : Snippet} :
    (ofModule cite (.setter span key param body)).contains "default-parameters" s = true ↔
      ∃ n ∈ key :: param :: body.toList,
        (ofModule cite n).contains "default-parameters" s = true := by
  rw [contains_defaultParameters_iff_children, or_iff_right]
  · rfl
  · rintro ⟨place, left, right, hp, -⟩
    cases hp

theorem contains_defaultParameters_parameter {span : Span} {p : Node} {s : Snippet} :
    (ofModule cite (.parameter span [] p)).contains "default-parameters" s = true ↔
      (ofModule cite p).contains "default-parameters" s = true := by
  rw [contains_defaultParameters_iff_children, or_iff_right]
  · simp [Node.children]
  · rintro ⟨place, left, right, hp, -⟩
    cases hp

theorem contains_defaultParameters_function {span placed place : Span} {left right : Node}
    {body : Option Node} {s : Snippet} :
    (ofModule cite (.function span false false
        [.parameter placed [] (.defaultPattern place left right)] [] body)).contains
      "default-parameters" s = true ↔
      (place.isDummy = false ∧ cite.snippet place = s) ∨
        ∃ n ∈ .defaultPattern place left right :: body.toList,
          (ofModule cite n).contains "default-parameters" s = true := by
  rw [contains_defaultParameters_iff_children]
  apply or_congr
  · constructor
    · rintro ⟨_, _, _, hp, h⟩
      cases hp with
      | function hm =>
        cases List.mem_singleton.1 hm
        exact h
    · intro h
      exact ⟨place, left, right, .function (.head _), h⟩
  · simp only [Node.children, List.append_nil, List.cons_append, List.nil_append,
      List.mem_cons, exists_eq_or_imp, contains_defaultParameters_parameter]

theorem contains_defaultParameters_classSetter {span fn placed place : Span} {isStatic : Bool}
    {key left right : Node} {body : Option Node} {s : Snippet} :
    (ofModule cite (.classMethod span .setter isStatic key (.function fn false false
        [.parameter placed [] (.defaultPattern place left right)] [] body))).contains
      "default-parameters" s = true ↔
      (place.isDummy = false ∧ cite.snippet place = s) ∨
        ∃ n ∈ key :: .defaultPattern place left right :: body.toList,
          (ofModule cite n).contains "default-parameters" s = true := by
  rw [contains_defaultParameters_iff_children, or_iff_right]
  · simp only [Node.children, List.mem_cons, exists_eq_or_imp, List.not_mem_nil, or_false,
      exists_eq_left, contains_defaultParameters_function]
    exact or_left_comm
  · rintro ⟨_, _, _, hp, -⟩
    cases hp

/-- The default values that are reported are those of the parameters of functions. All of the
plain parameters are reported exactly if each default value of a setter in an object literal shares
its snippet with one that is reported, since such a setter shows none, where a setter in a class
does. -/
theorem defaultParameters_iff_no_setter (cite : Citation) (module : Node) :
    (∀ s, (ofModule cite module).contains "default-parameters" s = true ↔
      ∃ o ∈ module.occurrences [], ∃ span left right,
        FunctionParameter o.node (.defaultPattern span left right) ∧ span.isDummy = false ∧
          cite.snippet span = s) ∧
    (CitesDefaults cite module ↔
      ∀ o ∈ module.occurrences [], ∀ span left right,
        SetterParameter o.node (.defaultPattern span left right) → span.isDummy = false →
          (ofModule cite module).contains "default-parameters" (cite.snippet span) = true) ∧
    ∀ (span place : Span) (key left right : Node) (body : Option Node) (s : Snippet),
      ((ofModule cite (.setter span key (.defaultPattern place left right) body)).contains
          "default-parameters" s = true ↔
        ∃ n ∈ key :: .defaultPattern place left right :: body.toList,
          (ofModule cite n).contains "default-parameters" s = true) ∧
      ∀ (fn placed : Span) (isStatic : Bool),
        (ofModule cite (.classMethod span .setter isStatic key (.function fn false false
            [.parameter placed [] (.defaultPattern place left right)] [] body))).contains
          "default-parameters" s = true ↔
        (place.isDummy = false ∧ cite.snippet place = s) ∨
          ∃ n ∈ key :: .defaultPattern place left right :: body.toList,
            (ofModule cite n).contains "default-parameters" s = true := by
  refine ⟨fun s => contains_defaultParameters, citesDefaults_iff, ?_⟩
  intro span place key left right body s
  refine ⟨contains_defaultParameters_setter, fun fn placed isStatic => ?_⟩
  exact contains_defaultParameters_classSetter

theorem not_citesDefaults_setter :
    ¬ CitesDefaults ⟨.ofString "({ set a(v = 1) {} })", 1, 2⟩
      (.module ⟨1, 22⟩ [.expressionStatement ⟨1, 22⟩ (.parenthesized ⟨1, 22⟩
        (.objectLiteral ⟨2, 21⟩ [.setter ⟨4, 19⟩ (.propertyName ⟨8, 9⟩ "a")
          (.defaultPattern ⟨10, 15⟩ (.bindingName ⟨10, 11⟩ "v")
            (.numberLiteral ⟨14, 15⟩ (some "1")))
          (some (.block ⟨17, 19⟩ []))]))]) := by
  intro h
  have hc := (h _).2 ⟨_, .tail _ (.tail _ (.tail _ (.tail _ (.head _)))), _, _, _,
    .inr (.mk _ _ _ _), rfl, rfl⟩
  rw [ofModule_eq] at hc
  revert hc
  decide

end Evidence
end ScriptFeatures
