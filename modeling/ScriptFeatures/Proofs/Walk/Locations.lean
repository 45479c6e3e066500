import ScriptFeatures.Analysis
import ScriptFeatures.Proofs.Evidence.Order
import ScriptFeatures.Proofs.Text.Order
import ScriptFeatures.Proofs.Walk.Coverage

namespace ScriptFeatures

open Syntax (Node Occurrence Span)
open Text (Snippet Source)
open Usage (Use)

namespace Citation

/-- The range of the text that a place stands for, without the blanks at its end. -/
def range (c : Citation) (span : Span) : c.source.Range :=
  c.source.range (c.offset span.lo)
    (c.source.trimEnd (c.offset span.lo) (c.offset span.hi))

theorem cite_range (c : Citation) (span : Span) :
    c.source.cite c.context (c.range span) = c.snippet span :=
  Source.cite_range _ _ _

def places (c : Citation) (us : List Use) : List (String × c.source.Range) :=
  (us.filter fun u => !u.span.isDummy).map fun u => (u.key, c.range u.span)

theorem map_places (c : Citation) (us : List Use) :
    (c.places us).map (Prod.map id (c.source.cite c.context)) = c.hits us := by
  rw [places, hits, List.map_map]
  congr 1
  funext u
  simp only [Function.comp_apply, Prod.map_apply, id_eq, cite_range]

theorem mem_places {c : Citation} {us : List Use} {key : String} {r : c.source.Range} :
    (key, r) ∈ c.places us ↔
      ∃ span, ⟨key, span⟩ ∈ us ∧ span.isDummy = false ∧ c.range span = r :=
  mem_map_uses

end Citation

namespace Analysis

def hashbangPlaces (s : Source) : List (String × s.Range) :=
  (hashbang? s.chars).toList.map fun (first, last) => ("hashbang", s.range first last)

theorem evidence_eq (cite : Citation) (module : Node) :
    evidence cite module =
      Evidence.empty.recordAll ((hashbangPlaces cite.source ++
        cite.places ((module.occurrences []).flatMap Occurrence.uses)).map
          (Prod.map id (cite.source.cite cite.context))) := by
  rw [List.map_append, Evidence.recordAll_append, Citation.map_places]
  have hd {s : Walk} (h : s.functionDepth = 0) :
      s.functionDepth = ([] : List Node).countP Node.isFunctionBoundary := h
  rw [evidence, hashbangPlaces]
  cases hashbang? cite.source.chars with
  | none =>
    simp only
    rw [Walk.visit_eq module (hd rfl)]
    rfl
  | some range =>
    simp only
    rw [Walk.visit_eq module (hd rfl)]
    simp [Walk.gather, Walk.recordRange, Source.cite_range]

end Analysis

namespace Evidence

theorem ofModule_eq_places (cite : Citation) (module : Node) :
    ofModule cite module =
      empty.recordAll ((cite.places ((module.occurrences []).flatMap Occurrence.uses)).map
        (Prod.map id (cite.source.cite cite.context))) := by
  rw [Citation.map_places, ofModule_eq]

section

variable {cite : Citation} {module : Node}

theorem wellFormed_ofModule : (ofModule cite module).WellFormed := by
  rw [ofModule_eq]
  exact wellFormed_recordAll wellFormed_empty _

theorem wellFormed_analysis : (Analysis.evidence cite module).WellFormed := by
  rw [Analysis.evidence_eq]
  exact wellFormed_recordAll wellFormed_empty _

theorem contains_analysis {key : String} (h : key ≠ "hashbang") {s : Snippet} :
    (Analysis.evidence cite module).contains key s = true ↔
      (ofModule cite module).contains key s = true := by
  have hb {s : Snippet} : (key, s) ∉ (Analysis.hashbangPlaces cite.source).map
      (Prod.map id (cite.source.cite cite.context)) := by
    intro hm
    obtain ⟨_, hp, he⟩ := List.mem_map.1 hm
    obtain ⟨_, _, rfl⟩ := List.mem_map.1 hp
    exact h (Prod.mk.inj he).1.symm
  rw [Analysis.evidence_eq, ofModule_eq_places, contains_recordAll, contains_recordAll,
    List.map_append, List.mem_append, or_iff_right hb]

end

/-- On one source and with one radius, snippets are ordered as the ranges that they cite, and they
are equal for equal ranges only. What is recorded for a key is therefore the list of the ranges
recorded for it, each once and in the order of the source. So are the snippets of the uses in a
tree. -/
theorem snippets_list_ranges (s : Source) (context : Nat) :
    (∀ r r' : s.Range,
      compare (s.snippet r.start r.stop context) (s.snippet r'.start r'.stop context) =
          (compare r.start r'.start).then (compare r.stop r'.stop) ∧
        (s.snippet r.start r.stop context = s.snippet r'.start r'.stop context ↔ r = r')) ∧
    (∀ (hits : List (String × s.Range)) (key : String), ∃ rs : List s.Range,
      rs.Pairwise (fun r r' => compare r r' = .lt) ∧ (∀ r, r ∈ rs ↔ (key, r) ∈ hits) ∧
        ((empty.recordAll (hits.map (Prod.map id (s.cite context)))).snippets? key).getD [] =
          rs.map (s.cite context)) ∧
    ∀ (base : Nat) (module : Node) (key : String), ∃ rs : List s.Range,
      rs.Pairwise (fun r r' => compare r r' = .lt) ∧
        (∀ r, r ∈ rs ↔ ∃ o ∈ module.occurrences [], ∃ span, ⟨key, span⟩ ∈ o.uses ∧
          span.isDummy = false ∧ Citation.range ⟨s, base, context⟩ span = r) ∧
        ((ofModule ⟨s, base, context⟩ module).snippets? key).getD [] =
          rs.map (s.cite context) := by
  have hc := Source.compare_cite (s := s) context
  refine ⟨fun r r' => ⟨hc r r', ?_⟩, exists_places_recordAll hc, fun base module key => ?_⟩
  · rw [← Snippet.compare_eq_iff, ← Std.LawfulEqOrd.compare_eq_iff_eq (a := r), ← hc]
    rfl
  · rw [ofModule_eq_places]
    obtain ⟨rs, hi, hm, he⟩ := exists_places_recordAll hc
      (Citation.places ⟨s, base, context⟩ ((module.occurrences []).flatMap Occurrence.uses)) key
    refine ⟨rs, hi, fun r => ?_, he⟩
    rw [hm, Citation.mem_places, Occurrence.exists_mem_flatMap_uses]

end Evidence
end ScriptFeatures
