import ScriptFeatures.Proofs.Evidence.Union
import ScriptFeatures.Proofs.Usage.Companions
import ScriptFeatures.Proofs.Walk.Locations

namespace ScriptFeatures

open Syntax (Awaits Node Occurrence Span)
open Text (Snippet)

namespace Syntax.Occurrence

theorem companion_mem_uses {o : Occurrence} {key other : String}
    (hc : (key, other) ∈ Usage.companions) {span : Span} (hu : ⟨key, span⟩ ∈ o.uses) :
    ⟨other, span⟩ ∈ o.uses := by
  have hk : ∀ c ∈ Usage.companions, c.1 ≠ "top-level-await" := by decide
  have hn : ⟨key, span⟩ ∈ o.node.uses := (mem_uses_of_ne (hk _ hc)).1 hu
  exact List.mem_append_left _ (Node.companion_mem_uses hc hn)

theorem mem_uses_of_topLevelAwait {o : Occurrence} {span : Span}
    (hu : ⟨"top-level-await", span⟩ ∈ o.uses) :
    ⟨"await", span⟩ ∈ o.uses ∨ ⟨"for-await-of", span⟩ ∈ o.uses := by
  obtain ⟨above, node⟩ := o
  obtain ⟨_, ha⟩ := mem_uses_topLevelAwait.1 hu
  cases ha with
  | await => exact .inl (List.mem_append_left _ (.head _))
  | forOf => exact .inr (List.mem_append_left _ (.tail _ (.head _)))

end Syntax.Occurrence

namespace Evidence

/-- The relations between the evidence for related keys: those that a method's name shows have the
same evidence, and special cases are among the general ones. -/
structure Consistent (e : Evidence) : Prop where
  stringAt_eq : e.snippets? "string-at" = e.snippets? "array-at"
  typedArrayAt_eq : e.snippets? "typed-array-at" = e.snippets? "array-at"
  stringIncludes_eq : e.snippets? "string-includes" = e.snippets? "array-includes"
  typedArrayWith_eq : e.snippets? "typed-array-with" = e.snippets? "array-with"
  asyncGenerators : ∀ s, e.contains "async-generators" s = true →
    e.contains "generators" s = true ∧ e.contains "async-functions" s = true
  forAwaitOf : ∀ s, e.contains "for-await-of" s = true → e.contains "for-of" s = true
  topLevelAwait : ∀ s, e.contains "top-level-await" s = true →
    e.contains "await" s = true ∨ e.contains "for-await-of" s = true

variable {cite : Citation} {module : Node}

theorem contains_companion {key other : String} (hc : (key, other) ∈ Usage.companions)
    {s : Snippet} (h : (ofModule cite module).contains key s = true) :
    (ofModule cite module).contains other s = true := by
  obtain ⟨o, ho, span, hu, hs⟩ := contains_ofModule.1 h
  exact contains_ofModule.2 ⟨o, ho, span, Occurrence.companion_mem_uses hc hu, hs⟩

theorem contains_of_topLevelAwait {s : Snippet}
    (h : (ofModule cite module).contains "top-level-await" s = true) :
    (ofModule cite module).contains "await" s = true ∨
      (ofModule cite module).contains "for-await-of" s = true := by
  obtain ⟨o, ho, span, hu, hs⟩ := contains_ofModule.1 h
  rcases Occurrence.mem_uses_of_topLevelAwait hu with hu | hu
  · exact .inl (contains_ofModule.2 ⟨o, ho, span, hu, hs⟩)
  · exact .inr (contains_ofModule.2 ⟨o, ho, span, hu, hs⟩)

/-- Evidence is consistent if it is that of a module, the `#!` line apart. -/
theorem consistent_of_contains_iff {e : Evidence} (he : e.WellFormed)
    (h : ∀ key ≠ "hashbang", ∀ s,
      e.contains key s = true ↔ (ofModule cite module).contains key s = true) : e.Consistent := by
  have hk : ∀ c ∈ Usage.companions, c.1 ≠ "hashbang" ∧ c.2 ≠ "hashbang" := by decide
  have subset {key other : String} (hc : (key, other) ∈ Usage.companions) (s : Snippet)
      (hs : e.contains key s = true) : e.contains other s = true := by
    rw [h key (hk _ hc).1] at hs
    rw [h other (hk _ hc).2]
    exact contains_companion hc hs
  have eq {key other : String} (hc : (key, other) ∈ Usage.companions)
      (ho : (other, key) ∈ Usage.companions) : e.snippets? key = e.snippets? other :=
    snippets?_eq_of_contains_iff he he fun s => ⟨subset hc s, subset ho s⟩
  constructor
  case stringAt_eq => exact eq (by decide) (by decide)
  case typedArrayAt_eq => exact eq (by decide) (by decide)
  case stringIncludes_eq => exact eq (by decide) (by decide)
  case typedArrayWith_eq => exact eq (by decide) (by decide)
  case asyncGenerators =>
    intro s hs
    exact ⟨subset (by decide) s hs, subset (by decide) s hs⟩
  case forAwaitOf => exact subset (by decide)
  case topLevelAwait =>
    intro s hs
    rw [h _ (by decide)] at hs
    rw [h _ (by decide), h _ (by decide)]
    exact contains_of_topLevelAwait hs

/-- The evidence for related keys is consistent, in every tree and on every text. -/
theorem consistent_ofModule (cite : Citation) (module : Node) :
    (ofModule cite module).Consistent ∧ (Analysis.evidence cite module).Consistent :=
  ⟨consistent_of_contains_iff wellFormed_ofModule fun _ _ _ => Iff.rfl,
    consistent_of_contains_iff wellFormed_analysis fun _ h _ => contains_analysis h⟩

end Evidence
end ScriptFeatures
