import ScriptFeatures.Proofs.Report.Marks
import ScriptFeatures.Proofs.Syntax.Positions

namespace ScriptFeatures

open Syntax (Node Occurrence Span)
open Text (Source)
open Usage (Use)

namespace Citation

variable {source : Source} {base context k : ℕ} {us : List Use}

/-- A position and the start of the text are moved together. All positions before the text stand
for its start. -/
theorem offset_moveBy_add (position : ℕ) :
    (⟨source, base + k, context⟩ : Citation).offset (moveBy k position) =
      (⟨source, base, context⟩ : Citation).offset position := by
  rw [offset, offset, moveBy]
  split_ifs with h
  · omega
  · exact Nat.add_sub_add_right position k base

theorem snippet_moveBy (span : Span) :
    (⟨source, base + k, context⟩ : Citation).snippet (span.relocate (moveBy k)) =
      (⟨source, base, context⟩ : Citation).snippet span := by
  simp only [snippet, Span.relocate, offset_moveBy_add]

theorem isDummy_moveBy {span : Span} (h : span.lo ≤ Span.reserved - 1 - k) :
    (span.relocate (moveBy k)).isDummy = span.isDummy := by
  have hz (p : ℕ) : moveBy k p = 0 ↔ p = 0 := by
    rw [moveBy]
    split_ifs <;> omega
  have hr : Span.reserved ≤ moveBy k span.lo ↔ Span.reserved ≤ span.lo := by
    have hp : 0 < Span.reserved := by decide
    rw [moveBy]
    split_ifs <;> omega
  simp only [Span.isDummy, Span.relocate, beq_eq_decide, hz, hr]

theorem hits_moveBy (h : ∀ u ∈ us, u.span.lo ≤ Span.reserved - 1 - k) :
    (⟨source, base + k, context⟩ : Citation).hits (us.map (Use.relocate (moveBy k))) =
      (⟨source, base, context⟩ : Citation).hits us := by
  have hf : us.filter ((fun u => !u.span.isDummy) ∘ Use.relocate (moveBy k)) =
      us.filter fun u => !u.span.isDummy := by
    apply List.filter_congr
    intro u hu
    exact congrArg (!·) (isDummy_moveBy (h u hu))
  rw [hits, hits, List.filter_map, List.map_map, hf]
  apply List.map_congr_left
  intro u _
  exact congrArg (Prod.mk u.key) (snippet_moveBy u.span)

end Citation

namespace Evidence

/-- A tree of a text whose positions start further on, and are all moved so far, has the same
evidence: the same keys in the same order, each with the same snippets. -/
theorem ofModule_translate (source : Source) (context : ℕ) {base k : ℕ} {module : Node}
    (hb : 1 ≤ base) (h : ∀ p ∈ module.positions, base ≤ p ∧ p + k < Span.reserved) :
    ofModule ⟨source, base + k, context⟩ (module.relocate (· + k)) =
      ofModule ⟨source, base, context⟩ module := by
  have hm : module.relocate (· + k) = module.relocate (moveBy k) := by
    apply Node.relocate_congr
    intro p hp
    have hpos : 0 < p := hb.trans (h p hp).1
    exact (moveBy_of_pos hpos).symm
  have hu : ∀ u ∈ (module.occurrences []).flatMap Occurrence.uses,
      u.span.lo ≤ Span.reserved - 1 - k := by
    intro u hu
    have hl : ∀ p ∈ module.positions, p ≤ Span.reserved - 1 - k := by
      intro p hp
      have hr := (h p hp).2
      omega
    exact (Node.span_le_of_mem_uses hl hu).1
  rw [hm, ofModule_eq, ofModule_eq,
    Node.uses_occurrences_relocate (monotone_moveBy k) (moveBy_zero_right k),
    Citation.hits_moveBy hu]

theorem ofModule_translate_loop :
    let source := Source.ofString "for await (x of [,...y]) {}"
    let module : Node := .module ⟨1, 28⟩ [.forOfStatement ⟨1, 28⟩ true (.bindingName ⟨12, 13⟩ "x")
      (.arrayLiteral ⟨17, 24⟩ [.hole, .spread ⟨19, 22⟩ (.identifier ⟨22, 23⟩ "y")])
      (.block ⟨26, 28⟩ [])]
    let k := 4000000000
    1 ≤ 1 ∧ (∀ p ∈ module.positions, 1 ≤ p ∧ p + k < Span.reserved) ∧
      ofModule ⟨source, 1 + k, 2⟩ (module.relocate (· + k)) = ofModule ⟨source, 1, 2⟩ module ∧
      (ofModule ⟨source, 1 + k, 2⟩ (module.relocate (· + k))).entries.map
          (fun e => (e.1, e.2.map (·.matchText))) =
        [("for-of", ["for await (x of [,...y]"]), ("for-await-of", ["for await (x of [,...y]"]),
          ("top-level-await", ["for await (x of [,...y]"]), ("spread-syntax", ["...y"])] := by
  intro source module k
  have h : ∀ p ∈ module.positions, 1 ≤ p ∧ p + k < Span.reserved := by decide
  have ht := ofModule_translate source 2 le_rfl h
  refine ⟨le_rfl, h, ht, ?_⟩
  rw [ht, ofModule_eq]
  decide +kernel

end Evidence
end ScriptFeatures
