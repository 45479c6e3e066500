import ScriptFeatures.Proofs.Walk.Coverage

namespace ScriptFeatures

open Syntax (Awaits FunctionBoundary Node Occurrence Span)
open Text (Snippet)

namespace Syntax

/-- `RunsOutside root members n` says that `n` stands in `root` and runs when `root` does, without
a call: in no parameters or body of a function, no arrow function, constructor or static block.
The way to it leads by a key or a decorator into each of the `members`, the innermost first. -/
inductive RunsOutside (root : Node) : List Node → Node → Prop where
  | root : RunsOutside root [] root
  | child {members : List Node} {n c : Node} :
      RunsOutside root members n → ¬ FunctionBoundary n → c ∈ n.children →
      RunsOutside root members c
  | getterKey {members : List Node} {span : Span} {key : Node} {body : Option Node} :
      RunsOutside root members (.getter span key body) →
      RunsOutside root (.getter span key body :: members) key
  | setterKey {members : List Node} {span : Span} {key param : Node} {body : Option Node} :
      RunsOutside root members (.setter span key param body) →
      RunsOutside root (.setter span key param body :: members) key
  | decorator {members : List Node} {span : Span} {isAsync isGenerator : Bool}
      {params decorators : List Node} {body : Option Node} {d : Node} :
      RunsOutside root members (.function span isAsync isGenerator params decorators body) →
      d ∈ decorators →
      RunsOutside root (.function span isAsync isGenerator params decorators body :: members) d

namespace RunsOutside

variable {root n : Node}

theorem nil_iff_of_boundary (hb : FunctionBoundary root) : RunsOutside root [] n ↔ n = root := by
  constructor
  · intro h
    -- No way leads on from the boundary but those into a member.
    generalize hm : ([] : List Node) = members at h
    induction h with
    | root => rfl
    | child _ hn _ ih => exact (hn (ih hm ▸ hb)).elim
    | getterKey => cases hm
    | setterKey => cases hm
    | decorator => cases hm
  · rintro rfl
    exact .root

theorem of_child {c : Node} {members : List Node} (hb : ¬ FunctionBoundary root)
    (hc : c ∈ root.children) (h : RunsOutside c members n) : RunsOutside root members n := by
  induction h with
  | root => exact .child .root hb hc
  | child _ hn hd ih => exact .child ih hn hd
  | getterKey _ ih => exact .getterKey ih
  | setterKey _ ih => exact .setterKey ih
  | decorator _ hd ih => exact .decorator ih hd

theorem nil_iff_of_not_boundary (hb : ¬ FunctionBoundary root) :
    RunsOutside root [] n ↔ n = root ∨ ∃ c ∈ root.children, RunsOutside c [] n := by
  constructor
  · intro h
    generalize hm : ([] : List Node) = members at h
    induction h with
    | root => exact .inl rfl
    | child _ hn hd ih =>
      rcases ih hm with rfl | ⟨c, hc, h⟩
      · exact .inr ⟨_, hd, hm ▸ .root⟩
      · exact .inr ⟨c, hc, .child h hn hd⟩
    | getterKey => cases hm
    | setterKey => cases hm
    | decorator => cases hm
  · rintro (rfl | ⟨c, hc, h⟩)
    · exact .root
    · exact of_child hb hc h

/-- The nodes that run outside and are in no member are those with no function boundary around
them. -/
theorem nil_iff_occurrence {above : List Node} (ha : ∀ a ∈ above, ¬ FunctionBoundary a) :
    RunsOutside root [] n ↔
      ∃ o ∈ root.occurrences above, (∀ a ∈ o.above, ¬ FunctionBoundary a) ∧ o.node = n := by
  induction root using Node.children_induction generalizing above with
  | step root ih =>
    by_cases hb : FunctionBoundary root
    · rw [nil_iff_of_boundary hb]
      constructor
      · rintro rfl
        exact ⟨_, Node.self_mem_occurrences above n, ha, rfl⟩
      · rintro ⟨o, ho, hf, rfl⟩
        rcases Node.mem_occurrences.1 ho with rfl | ⟨c, _, ho⟩
        · rfl
        · exact (hf root ((Node.above_suffix ho).subset List.mem_cons_self) hb).elim
    · have ha' : ∀ a ∈ root :: above, ¬ FunctionBoundary a := List.forall_mem_cons.2 ⟨hb, ha⟩
      rw [nil_iff_of_not_boundary hb]
      constructor
      · rintro (rfl | ⟨c, hc, h⟩)
        · exact ⟨_, Node.self_mem_occurrences above n, ha, rfl⟩
        · obtain ⟨o, ho, hf, hn⟩ := (ih c hc ha').1 h
          exact ⟨o, Node.mem_occurrences.2 (.inr ⟨c, hc, ho⟩), hf, hn⟩
      · rintro ⟨o, ho, hf, hn⟩
        rcases Node.mem_occurrences.1 ho with rfl | ⟨c, hc, ho⟩
        · exact .inl hn.symm
        · exact .inr ⟨c, hc, (ih c hc ha').2 ⟨o, ho, hf, hn⟩⟩

end RunsOutside
end Syntax

open Syntax (RunsOutside)

namespace Evidence

/-- Every `await` that runs outside all functions is cited as a top-level one. -/
def CitesAwaitsOutside (cite : Citation) (module : Node) : Prop :=
  ∀ members n span, RunsOutside module members n → Awaits n span → span.isDummy = false →
    (ofModule cite module).contains "top-level-await" (cite.snippet span) = true

theorem contains_topLevelAwait {cite : Citation} {module : Node} {s : Snippet} :
    (ofModule cite module).contains "top-level-await" s = true ↔
      ∃ n span, RunsOutside module [] n ∧ Awaits n span ∧ span.isDummy = false ∧
        cite.snippet span = s := by
  have ho {n : Node} : RunsOutside module [] n ↔
      ∃ o ∈ module.occurrences [], (∀ a ∈ o.above, ¬ FunctionBoundary a) ∧ o.node = n :=
    RunsOutside.nil_iff_occurrence (by simp)
  simp only [contains_ofModule, Occurrence.mem_uses_topLevelAwait, ho]
  constructor
  · rintro ⟨o, hm, span, ⟨hf, ha⟩, h⟩
    exact ⟨o.node, span, ⟨o, hm, hf, rfl⟩, ha, h⟩
  · rintro ⟨_, span, ⟨o, hm, hf, rfl⟩, ha, h⟩
    exact ⟨o, hm, span, ⟨hf, ha⟩, h⟩

theorem contains_topLevelAwait_of_boundary {cite : Citation} {n : Node} (hb : FunctionBoundary n)
    (s : Snippet) : (ofModule cite n).contains "top-level-await" s = false := by
  rw [← Bool.not_eq_true, contains_topLevelAwait]
  rintro ⟨m, span, hm, ha, _⟩
  obtain rfl := (RunsOutside.nil_iff_of_boundary hb).1 hm
  cases hb <;> cases ha

theorem contains_topLevelAwait_method {cite : Citation} {key f : Node} (hf : FunctionBoundary f)
    (s : Snippet) :
    (ofModule cite (.method key f)).contains "top-level-await" s =
      (ofModule cite key).contains "top-level-await" s := by
  have hm : ¬ FunctionBoundary (.method key f) := by rintro ⟨⟩
  have hff : (ofModule cite f).contains "top-level-await" s = false :=
    contains_topLevelAwait_of_boundary hf s
  rw [Bool.eq_iff_iff, contains_topLevelAwait, contains_topLevelAwait]
  rw [← Bool.not_eq_true, contains_topLevelAwait] at hff
  constructor
  · rintro ⟨n, span, hr, ha, h⟩
    rcases (RunsOutside.nil_iff_of_not_boundary hm).1 hr with rfl | ⟨c, hc, hn⟩
    · cases ha
    · simp only [Node.children, List.mem_cons, List.not_mem_nil, or_false] at hc
      rcases hc with rfl | rfl
      · exact ⟨n, span, hn, ha, h⟩
      · exact (hff ⟨n, span, hn, ha, h⟩).elim
  · rintro ⟨n, span, hn, ha, h⟩
    exact ⟨n, span, hn.of_child hm (.head _), ha, h⟩

/-- Awaits that run outside all functions are cited as top-level ones if they are in no member,
and the others only if they cannot be told from one of these. An accessor cites none of the awaits
in its key, a method all of them. -/
theorem topLevelAwait_iff_no_member (cite : Citation) (module : Node) :
    (∀ s, (ofModule cite module).contains "top-level-await" s = true ↔
      ∃ n span, RunsOutside module [] n ∧ Awaits n span ∧ span.isDummy = false ∧
        cite.snippet span = s) ∧
    (CitesAwaitsOutside cite module ↔
      ∀ members n span, RunsOutside module members n → Awaits n span → span.isDummy = false →
        members ≠ [] →
          ∃ n' span', RunsOutside module [] n' ∧ Awaits n' span' ∧ span'.isDummy = false ∧
            cite.snippet span' = cite.snippet span) ∧
    ∀ key s,
      (∀ span body,
        (ofModule cite (.getter span key body)).contains "top-level-await" s = false) ∧
      (∀ span param body,
        (ofModule cite (.setter span key param body)).contains "top-level-await" s = false) ∧
      ∀ span isAsync isGenerator params decorators body,
        (ofModule cite (.method key
          (.function span isAsync isGenerator params decorators body))).contains
            "top-level-await" s =
          (ofModule cite key).contains "top-level-await" s := by
  refine ⟨fun s => contains_topLevelAwait, ?_, fun key s => ⟨?_, ?_, ?_⟩⟩
  · constructor
    · intro h members n span hn ha hd _
      exact contains_topLevelAwait.1 (h members n span hn ha hd)
    · intro h members n span hn ha hd
      apply contains_topLevelAwait.2
      by_cases hm : members = []
      · exact ⟨n, span, hm ▸ hn, ha, hd, rfl⟩
      · exact h members n span hn ha hd hm
  · intro span body
    exact contains_topLevelAwait_of_boundary (.getter span key body) s
  · intro span param body
    exact contains_topLevelAwait_of_boundary (.setter span key param body) s
  · intro span isAsync isGenerator params decorators body
    exact contains_topLevelAwait_method (.function _ _ _ _ _ _) s

theorem not_citesAwaitsOutside_getterKey :
    ¬ CitesAwaitsOutside ⟨.ofString "({ get [await x]() {} })", 1, 2⟩
      (.module ⟨1, 25⟩ [.expressionStatement ⟨1, 25⟩ (.parenthesized ⟨1, 25⟩
        (.objectLiteral ⟨2, 24⟩ [.getter ⟨4, 22⟩
          (.computedKey ⟨8, 17⟩ (.await ⟨9, 16⟩ (.identifier ⟨15, 16⟩ "x")))
          (some (.block ⟨20, 22⟩ []))]))]) := by
  intro h
  have hb {n : Node} (hn : n.isFunctionBoundary = false) : ¬ FunctionBoundary n := by
    rw [← Node.isFunctionBoundary_iff, hn]
    simp
  have hc := h _ _ _ (.child (.getterKey (.child (.child (.child (.child .root
    (hb rfl) (.head _)) (hb rfl) (.head _)) (hb rfl) (.head _)) (hb rfl) (.head _)))
    (hb rfl) (.head _)) (.await _ _) rfl
  rw [ofModule_eq] at hc
  revert hc
  decide

end Evidence
end ScriptFeatures
