import ScriptFeatures.Walk
import ScriptFeatures.Proofs.Evidence.Recording
import ScriptFeatures.Proofs.Syntax.Occurrence
import ScriptFeatures.Proofs.Usage.Keys

namespace ScriptFeatures

open Syntax (Node Occurrence Span)
open Text (Snippet)
open Usage (Use)

namespace Syntax

/-- The nodes whose parts belong to a function or, in a static block, run like the body of one. -/
inductive FunctionBoundary : Node → Prop where
  | function (span : Span) (isAsync isGenerator : Bool) (params decorators : List Node)
      (body : Option Node) :
      FunctionBoundary (.function span isAsync isGenerator params decorators body)
  | arrowFunction (span : Span) (isAsync isGenerator : Bool) (params : List Node) (body : Node) :
      FunctionBoundary (.arrowFunction span isAsync isGenerator params body)
  | constructorMember (span : Span) (key : Node) (params : List Node) (body : Option Node) :
      FunctionBoundary (.constructorMember span key params body)
  | getter (span : Span) (key : Node) (body : Option Node) :
      FunctionBoundary (.getter span key body)
  | setter (span : Span) (key param : Node) (body : Option Node) :
      FunctionBoundary (.setter span key param body)
  | staticBlock (span : Span) (body : Node) : FunctionBoundary (.staticBlock span body)

/-- The awaits and where they are cited: an `await` as a whole, a `for await` up to the end of
what it goes through. -/
inductive Awaits : Node → Span → Prop where
  | await (span : Span) (argument : Node) : Awaits (.await span argument) span
  | forOf (span : Span) (left right body : Node) :
      Awaits (.forOfStatement span true left right body) (span.withHi right.span.hi)

theorem Node.isFunctionBoundary_iff {n : Node} :
    n.isFunctionBoundary = true ↔ FunctionBoundary n := by
  constructor
  · intro h
    unfold Node.isFunctionBoundary at h
    split at h
    case h_7 => cases h
    all_goals constructor
  · intro h
    cases h <;> rfl

theorem Node.awaited?_eq_some_iff {n : Node} {span : Span} :
    n.awaited? = some span ↔ Awaits n span := by
  constructor
  · intro h
    unfold Node.awaited? at h
    split at h <;> cases h
    · exact .await _ _
    · exact .forOf _ _ _ _
  · intro h
    cases h <;> rfl

namespace Occurrence

def isOutside (o : Occurrence) : Bool := o.above.all fun n => !n.isFunctionBoundary

def uses (o : Occurrence) : List Use :=
  o.node.uses
    ++ if o.isOutside then o.node.awaited?.toList.map (⟨"top-level-await", ·⟩) else []

theorem isOutside_iff {o : Occurrence} :
    o.isOutside = true ↔ ∀ n ∈ o.above, ¬ FunctionBoundary n := by
  simp only [isOutside, List.all_eq_true, Bool.not_eq_true', ← Node.isFunctionBoundary_iff,
    Bool.not_eq_true]

theorem usesAt_eq_uses {above : List Node} {n : Node} :
    Walk.usesAt (above.countP Node.isFunctionBoundary) n = uses ⟨above, n⟩ := by
  have h : above.countP Node.isFunctionBoundary = 0 ↔ isOutside ⟨above, n⟩ = true := by
    rw [List.countP_eq_zero, isOutside_iff]
    simp only [Node.isFunctionBoundary_iff]
  simp only [Walk.usesAt, uses, h]

theorem mem_uses_of_ne {o : Occurrence} {key : String} {span : Span}
    (h : key ≠ "top-level-await") : ⟨key, span⟩ ∈ o.uses ↔ ⟨key, span⟩ ∈ o.node.uses := by
  rw [uses, List.mem_append, or_iff_left]
  intro hu
  split at hu
  · obtain ⟨_, _, he⟩ := List.mem_map.1 hu
    exact h (Use.mk.inj he).1.symm
  · cases hu

theorem mem_uses_topLevelAwait {o : Occurrence} {span : Span} :
    ⟨"top-level-await", span⟩ ∈ o.uses ↔
      (∀ n ∈ o.above, ¬ FunctionBoundary n) ∧ Awaits o.node span := by
  have hn : ⟨"top-level-await", span⟩ ∉ o.node.uses := by
    intro hu
    have hk : "top-level-await" ∈ Usage.nodeKeys := Node.key_mem_nodeKeys hu
    exact absurd hk (by decide)
  rw [uses, List.mem_append, or_iff_right hn, ← isOutside_iff, ← Node.awaited?_eq_some_iff]
  cases o.isOutside <;> simp

theorem exists_mem_flatMap_uses {os : List Occurrence} {key : String} {p : Span → Prop} :
    (∃ span, ⟨key, span⟩ ∈ os.flatMap uses ∧ p span) ↔
      ∃ o ∈ os, ∃ span, ⟨key, span⟩ ∈ o.uses ∧ p span := by
  simp only [List.mem_flatMap]
  constructor
  · rintro ⟨span, ⟨o, ho, hu⟩, h⟩
    exact ⟨o, ho, span, hu, h⟩
  · rintro ⟨o, ho, span, hu, h⟩
    exact ⟨span, ⟨o, ho, hu⟩, h⟩

end Occurrence
end Syntax

open Syntax (Awaits FunctionBoundary)

namespace Citation

/-- What uses add to the evidence: a snippet for each one whose place is not a dummy. -/
def hits (c : Citation) (us : List Use) : List (String × Snippet) :=
  (us.filter fun u => !u.span.isDummy).map fun u => (u.key, c.snippet u.span)

theorem hits_append (c : Citation) (us vs : List Use) :
    c.hits (us ++ vs) = c.hits us ++ c.hits vs := by
  rw [hits, List.filter_append, List.map_append]
  rfl

theorem hits_flatMap {α : Type} (c : Citation) (f : α → List Use) (as : List α) :
    c.hits (as.flatMap f) = as.flatMap fun a => c.hits (f a) := by
  induction as with
  | nil => rfl
  | cons a as ih => rw [List.flatMap_cons, List.flatMap_cons, hits_append, ih]

theorem mem_map_uses {α : Type} {f : Span → α} {us : List Use} {key : String} {a : α} :
    (key, a) ∈ (us.filter fun u => !u.span.isDummy).map (fun u => (u.key, f u.span)) ↔
      ∃ span, ⟨key, span⟩ ∈ us ∧ span.isDummy = false ∧ f span = a := by
  simp only [List.mem_map, List.mem_filter, Bool.not_eq_true', Prod.mk.injEq]
  constructor
  · rintro ⟨⟨_, span⟩, ⟨hu, hd⟩, rfl, hs⟩
    exact ⟨span, hu, hd, hs⟩
  · rintro ⟨span, hu, hd, hs⟩
    exact ⟨⟨key, span⟩, ⟨hu, hd⟩, rfl, hs⟩

theorem mem_hits {c : Citation} {us : List Use} {key : String} {s : Snippet} :
    (key, s) ∈ c.hits us ↔
      ∃ span, ⟨key, span⟩ ∈ us ∧ span.isDummy = false ∧ c.snippet span = s :=
  mem_map_uses

end Citation

namespace Walk

def gather (s : Walk) (hits : List (String × Snippet)) : Walk :=
  { s with evidence := s.evidence.recordAll hits }

theorem gather_append (s : Walk) (hits more : List (String × Snippet)) :
    s.gather (hits ++ more) = (s.gather hits).gather more := by
  rw [gather, gather, gather, Evidence.recordAll_append]

variable {cite : Citation}

theorem foldl_recordUse (us : List Use) (s : Walk) :
    us.foldl (recordUse cite) s = s.gather (cite.hits us) := by
  induction us generalizing s with
  | nil => rfl
  | cons u us ih =>
    rw [List.foldl_cons, ih, recordUse]
    cases hd : u.span.isDummy <;> simp [Citation.hits, gather, hd]

theorem foldl_visit {cs : List Node} {hits : Node → List (String × Snippet)} {depth : Nat}
    (h : ∀ c ∈ cs, ∀ s : Walk, s.functionDepth = depth → visit cite c s = s.gather (hits c))
    {s : Walk} (hs : s.functionDepth = depth) :
    cs.foldl (fun s c => visit cite c s) s = s.gather (cs.flatMap hits) := by
  induction cs generalizing s with
  | nil => rfl
  | cons c cs ih =>
    have hc := h c List.mem_cons_self s hs
    have hcs := ih (fun c hc => h c (List.mem_cons_of_mem _ hc)) (s := s.gather (hits c)) hs
    rw [List.foldl_cons, hc, hcs, List.flatMap_cons, gather_append]

theorem visit_of_children {n : Node} {hits : Node → List (String × Snippet)} {s : Walk}
    (h : ∀ c ∈ n.children, ∀ t : Walk,
      t.functionDepth = s.functionDepth + (if n.isFunctionBoundary then 1 else 0) →
        visit cite c t = t.gather (hits c)) :
    visit cite n s =
      s.gather (cite.hits (usesAt s.functionDepth n) ++ n.children.flatMap hits) := by
  rw [visit, foldl_recordUse, gather_append]
  simp only [List.foldl_attach (f := fun s c => visit cite c s)]
  cases hb : n.isFunctionBoundary with
  | false =>
    rw [hb] at h
    exact foldl_visit h rfl
  | true =>
    rw [hb] at h
    simp only [↓reduceIte]
    rw [foldl_visit h rfl]
    rfl

/-- A visit records what the nodes of the tree show at their places. The depth of the walk has to
count the boundaries around the tree; it is the same after the visit. -/
theorem visit_eq (n : Node) {above : List Node} {s : Walk}
    (hs : s.functionDepth = above.countP Node.isFunctionBoundary) :
    visit cite n s = s.gather (cite.hits ((n.occurrences above).flatMap Occurrence.uses)) := by
  induction n using Node.children_induction generalizing above s with
  | step n ih =>
    have hc : ∀ c ∈ n.children, ∀ t : Walk,
        t.functionDepth = s.functionDepth + (if n.isFunctionBoundary then 1 else 0) →
          visit cite c t =
            t.gather (cite.hits ((c.occurrences (n :: above)).flatMap Occurrence.uses)) := by
      intro c hc t ht
      apply ih c hc
      rw [ht, hs, List.countP_cons]
    rw [visit_of_children hc, hs, Occurrence.usesAt_eq_uses, Node.occurrences_eq,
      List.flatMap_cons, List.flatMap_assoc, Citation.hits_append, Citation.hits_flatMap]

theorem functionDepth_visit (n : Node) (s : Walk) :
    (visit cite n s).functionDepth = s.functionDepth := by
  have hs : s.functionDepth =
      (List.replicate s.functionDepth (Node.staticBlock ⟨0, 0⟩ .hole)).countP
        Node.isFunctionBoundary := by
    simp [List.countP_replicate, Node.isFunctionBoundary]
  rw [visit_eq n hs]
  rfl

end Walk

namespace Evidence

variable {cite : Citation} {module : Node}

theorem ofModule_eq :
    ofModule cite module =
      empty.recordAll (cite.hits ((module.occurrences []).flatMap Occurrence.uses)) := by
  have hd : ({} : Walk).functionDepth = ([] : List Node).countP Node.isFunctionBoundary := rfl
  rw [ofModule, Walk.visit_eq module hd]
  rfl

theorem contains_ofModule {key : String} {s : Snippet} :
    (ofModule cite module).contains key s = true ↔
      ∃ o ∈ module.occurrences [], ∃ span, ⟨key, span⟩ ∈ o.uses ∧ span.isDummy = false ∧
        cite.snippet span = s := by
  rw [ofModule_eq, contains_recordAll, Citation.mem_hits, contains_empty,
    Occurrence.exists_mem_flatMap_uses]
  simp

theorem contains_ofModule_iff_children {key : String} (hk : key ≠ "top-level-await")
    {s : Snippet} :
    (ofModule cite module).contains key s = true ↔
      (∃ span, ⟨key, span⟩ ∈ module.uses ∧ span.isDummy = false ∧ cite.snippet span = s) ∨
        ∃ c ∈ module.children, (ofModule cite c).contains key s = true := by
  let P (n : Node) : Prop :=
    ∃ span, ⟨key, span⟩ ∈ n.uses ∧ span.isDummy = false ∧ cite.snippet span = s
  have ho {n : Node} : (ofModule cite n).contains key s = true ↔ ∃ o ∈ n.occurrences [], P o.node := by
    simp only [contains_ofModule, Occurrence.mem_uses_of_ne hk, P]
  simp only [ho]
  constructor
  · rintro ⟨o, hm, h⟩
    rcases Node.mem_occurrences.1 hm with rfl | ⟨c, hc, hm⟩
    · exact .inl h
    · exact .inr ⟨c, hc, Node.exists_occurrence_above (P := P) [] ⟨o, hm, h⟩⟩
  · rintro (h | ⟨c, hc, h⟩)
    · exact ⟨_, Node.self_mem_occurrences [] module, h⟩
    · obtain ⟨o, hm, h⟩ := Node.exists_occurrence_above [module] h
      exact ⟨o, Node.mem_occurrences.2 (.inr ⟨c, hc, hm⟩), h⟩

/-- A key other than that of top-level awaits is cited exactly where a node of the tree shows it.
The keys stand in the order in which the nodes show them first. -/
theorem ofModule_gathers_uses (cite : Citation) (module : Node) :
    (∀ key ≠ "top-level-await", ∀ s, (ofModule cite module).contains key s = true ↔
      ∃ o ∈ module.occurrences [], ∃ span, ⟨key, span⟩ ∈ o.node.uses ∧ span.isDummy = false ∧
        cite.snippet span = s) ∧
    (ofModule cite module).keys =
      ((((module.occurrences []).flatMap Occurrence.uses).filter
        fun u => !u.span.isDummy).map (·.key)).eraseDups := by
  refine ⟨fun key hk s => ?_, ?_⟩
  · simp only [contains_ofModule, Occurrence.mem_uses_of_ne hk]
  · rw [ofModule_eq, keys_recordAll_empty, Citation.hits, List.map_map]
    rfl

theorem ofModule_gathers_superclass :
    "nullish-coalescing" ≠ "top-level-await" ∧
    (ofModule ⟨.ofString "class A extends (b ?? c) {}", 1, 2⟩
      (.module ⟨1, 28⟩ [.classDeclaration "A" (.classDefinition ⟨1, 28⟩ [] []
        (some (.parenthesized ⟨17, 25⟩ (.binary ⟨18, 24⟩ .nullish (.identifier ⟨18, 19⟩ "b")
          (.identifier ⟨23, 24⟩ "c")))))])).contains "nullish-coalescing"
      ⟨1, 17, 6, "b ?? c", 1, "class A extends (b ?? c) {}"⟩ = true := by
  refine ⟨by decide, ((ofModule_gathers_uses _ _).1 _ (by decide) _).2 ?_⟩
  exact ⟨_, .tail _ (.tail _ (.tail _ (.tail _ (.head _)))), ⟨18, 24⟩, .head _, by decide,
    by decide⟩

/-- A top-level await is cited exactly where an `await`, or the head of a `for await`, stands in
no function. Every visit of a subtree gives the depth back as it was, so that what comes after
nested functions is judged by the nodes around it alone. -/
theorem ofModule_topLevelAwait (cite : Citation) (module : Node) :
    (∀ s, (ofModule cite module).contains "top-level-await" s = true ↔
      ∃ o ∈ module.occurrences [], (∀ n ∈ o.above, ¬ FunctionBoundary n) ∧
        ∃ span, Awaits o.node span ∧ span.isDummy = false ∧ cite.snippet span = s) ∧
    ∀ (n : Node) (s : Walk), (s.visit cite n).functionDepth = s.functionDepth := by
  refine ⟨fun s => ?_, Walk.functionDepth_visit⟩
  simp only [contains_ofModule, Occurrence.mem_uses_topLevelAwait]
  constructor
  · rintro ⟨o, ho, span, ⟨hb, ha⟩, h⟩
    exact ⟨o, ho, hb, span, ha, h⟩
  · rintro ⟨o, ho, hb, span, ha, h⟩
    exact ⟨o, ho, span, ⟨hb, ha⟩, h⟩

end Evidence
end ScriptFeatures
