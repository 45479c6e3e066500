import Mathlib.Order.MinMax
import ScriptFeatures.Proofs.Syntax.Relocation

namespace ScriptFeatures.Syntax

open Usage (Use)

variable {f g : ℕ → ℕ} {n : Node} {p last : ℕ}

namespace Node

/-- The span that a node itself carries. What only its parts give a place, or nothing, carries
none. -/
def carried? : Node → Option Span
  | spread dots _ | objectSpread dots _ => some dots
  | property .. | patternProperty .. | method .. | functionExpression .. | classExpression ..
  | functionDeclaration .. | classDeclaration .. | hole | parameterProperty .. => none
  | n => some n.span

def positions (n : Node) : List ℕ :=
  (n.occurrences []).flatMap fun o => o.node.carried?.toList.flatMap fun s => [s.lo, s.hi]

theorem mem_positions :
    p ∈ n.positions ↔ ∃ o ∈ n.occurrences [], ∃ s ∈ o.node.carried?, p = s.lo ∨ p = s.hi := by
  simp [positions, Option.mem_def]

theorem lo_mem_positions {s : Span} (h : s ∈ n.carried?) : s.lo ∈ n.positions :=
  mem_positions.2 ⟨_, self_mem_occurrences [] n, s, h, .inl rfl⟩

theorem hi_mem_positions {s : Span} (h : s ∈ n.carried?) : s.hi ∈ n.positions :=
  mem_positions.2 ⟨_, self_mem_occurrences [] n, s, h, .inr rfl⟩

theorem mem_positions_of_child {c : Node} (hc : c ∈ n.children) (h : p ∈ c.positions) :
    p ∈ n.positions := by
  obtain ⟨o, ho, hs⟩ := mem_positions.1 h
  obtain ⟨o', ho', hs'⟩ := exists_occurrence_above [n]
    (P := fun m => ∃ s ∈ m.carried?, p = s.lo ∨ p = s.hi) ⟨o, ho, hs⟩
  exact mem_positions.2 ⟨o', mem_occurrences.2 (.inr ⟨c, hc, ho'⟩), hs'⟩

theorem map_relocate_eq_iff {n? : Option Node} :
    n?.map (relocate f) = n?.map (relocate g) ↔ ∀ n, n? = some n → n.relocate f = n.relocate g := by
  cases n? <;> simp

theorem relocate_congr_of_parts (hs : ∀ s ∈ n.carried?, s.relocate f = s.relocate g)
    (hc : ∀ c ∈ n.children, c.relocate f = c.relocate g) : n.relocate f = n.relocate g := by
  cases n <;> simp_all [relocate, carried?, span, children, relocateList_eq, relocateOption_eq,
    map_relocate_eq_iff]

/-- Moves that agree on the positions in a tree move it alike. -/
theorem relocate_congr (h : ∀ p ∈ n.positions, f p = g p) : n.relocate f = n.relocate g := by
  induction n using children_induction with
  | step n ih =>
    apply relocate_congr_of_parts
    · intro s hs
      rw [Span.relocate, Span.relocate, h _ (lo_mem_positions hs), h _ (hi_mem_positions hs)]
    · intro c hc
      exact ih c hc fun p hp => h p (mem_positions_of_child hc hp)

theorem span_le_of_mem_uses (h : ∀ p ∈ n.positions, p ≤ last) {u : Use}
    (hu : u ∈ (n.occurrences []).flatMap Occurrence.uses) :
    u.span.lo ≤ last ∧ u.span.hi ≤ last := by
  -- To cut all positions off at the last one moves nothing in the tree, and so no use.
  have hm : Monotone (min · last) := monotone_id.min monotone_const
  have hn : n.relocate (min · last) = n.relocate id :=
    relocate_congr fun p hp => Nat.min_eq_left (h p hp)
  have hus : ((n.occurrences []).flatMap Occurrence.uses).map (Use.relocate (min · last)) =
      ((n.occurrences []).flatMap Occurrence.uses).map (Use.relocate id) := by
    rw [← uses_occurrences_relocate hm (Nat.zero_min last), hn,
      uses_occurrences_relocate monotone_id rfl]
  have he : u.relocate (min · last) = u.relocate id := List.map_inj_left.1 hus u hu
  have hspan : u.span.relocate (min · last) = u.span := congrArg Use.span he
  exact ⟨min_eq_left_iff.1 (congrArg Span.lo hspan), min_eq_left_iff.1 (congrArg Span.hi hspan)⟩

end Node
end ScriptFeatures.Syntax
