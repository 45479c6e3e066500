import ScriptFeatures.Proofs.Evidence.Union
import ScriptFeatures.Proofs.Report.Versions
import ScriptFeatures.Proofs.Walk.Locations

namespace ScriptFeatures

open Syntax (Node Occurrence Span)
open Text (Snippet)

namespace Report

/-- Reports that differ in the order of their features only. -/
structure Rearranged (r r' : Report) : Prop where
  features_perm : r.features.Perm r'.features
  summary_eq : r.summary = r'.summary
  minimumVersions_eq : r.minimumVersions = r'.minimumVersions

theorem rearranged_ofEvidence {e e' : Evidence} (h : e.WellFormed) (h' : e'.WellFormed)
    (hs : ∀ key, e.snippets? key = e'.snippets? key) :
    (ofEvidence e).Rearranged (ofEvidence e') := by
  have hf : (ofEvidence e).features.Perm (ofEvidence e').features :=
    (Evidence.entries_perm h h' hs).filterMap _
  constructor
  case features_perm => exact hf
  case summary_eq => exact Summary.ofFeatures_perm (hf.map _)
  case minimumVersions_eq => exact minimumVersions_perm (hf.map _)

theorem rearranged_recordAll_perm {e : Evidence} (h : e.WellFormed)
    {hits hits' : List (String × Snippet)} (hp : hits.Perm hits') :
    (∀ key, (e.recordAll hits).snippets? key = (e.recordAll hits').snippets? key) ∧
      (ofEvidence (e.recordAll hits)).Rearranged (ofEvidence (e.recordAll hits')) := by
  have hs := Evidence.snippets?_recordAll_perm h hp
  have hw := Evidence.wellFormed_recordAll h hits
  have hw' := Evidence.wellFormed_recordAll h hits'
  exact ⟨hs, rearranged_ofEvidence hw hw' hs⟩

end Report

namespace Walk

variable {cite : Citation}

def itemHits (cite : Citation) (item : Node) : List (String × Snippet) :=
  cite.hits ((item.occurrences []).flatMap Occurrence.uses)

theorem visit_module {s : Walk} (hs : s.functionDepth = 0) (span : Span) (body : List Node) :
    visit cite (.module span body) s = s.gather (body.flatMap (itemHits cite)) := by
  have hc : ∀ c ∈ (Node.module span body).children, ∀ t : Walk,
      t.functionDepth = s.functionDepth + 0 → visit cite c t = t.gather (itemHits cite c) := by
    intro c _ t ht
    have hd : t.functionDepth = ([] : List Node).countP Node.isFunctionBoundary := by
      rw [ht, hs]
      rfl
    exact visit_eq c hd
  have hn : usesAt s.functionDepth (.module span body) = [] := by
    rw [usesAt, hs]
    rfl
  rw [visit_of_children hc, hn]
  rfl

end Walk

open Walk (itemHits)

theorem Evidence.ofModule_module (cite : Citation) (span : Span) (body : List Node) :
    ofModule cite (.module span body) = empty.recordAll (body.flatMap (itemHits cite)) := by
  rw [ofModule, Walk.visit_module rfl]
  rfl

/-- The walk over a text starts from its `#!` line, whatever the module. -/
theorem Analysis.exists_evidence_module (cite : Citation) :
    ∃ e : Evidence, e.WellFormed ∧ ∀ span body,
      evidence cite (.module span body) = e.recordAll (body.flatMap (itemHits cite)) := by
  cases hb : hashbang? cite.source.chars with
  | none =>
    refine ⟨.empty, Evidence.wellFormed_empty, ?_⟩
    intro span body
    rw [evidence, hb]
    simp only
    rw [Walk.visit_module rfl]
    rfl
  | some range =>
    refine ⟨_, Evidence.wellFormed_record Evidence.wellFormed_empty "hashbang"
      (cite.source.snippet range.1 range.2 cite.context), ?_⟩
    intro span body
    rw [evidence, hb]
    simp only
    rw [Walk.visit_module rfl]
    rfl

/-- The evidence of two lists of items is the union of theirs, on any text. However the items are
put in order, every key has the same evidence, and the reports differ in the order of their
features only, also when a `#!` line stands before the items. -/
theorem Evidence.ofModule_compositional (cite : Citation) :
    (∀ (span span₁ span₂ : Span) (items₁ items₂ : List Node),
      (ofModule cite (.module span (items₁ ++ items₂))).IsUnion
        (ofModule cite (.module span₁ items₁)) (ofModule cite (.module span₂ items₂))) ∧
    ∀ (span span' : Span) (items items' : List Node), items.Perm items' →
      ((∀ key, (ofModule cite (.module span items)).snippets? key =
          (ofModule cite (.module span' items')).snippets? key) ∧
        (Report.ofEvidence (ofModule cite (.module span items))).Rearranged
          (.ofEvidence (ofModule cite (.module span' items')))) ∧
      (∀ key, (Analysis.evidence cite (.module span items)).snippets? key =
          (Analysis.evidence cite (.module span' items')).snippets? key) ∧
        (Report.ofEvidence (Analysis.evidence cite (.module span items))).Rearranged
          (.ofEvidence (Analysis.evidence cite (.module span' items'))) := by
  constructor
  · intro span span₁ span₂ items₁ items₂
    rw [ofModule_module, ofModule_module, ofModule_module, List.flatMap_append]
    exact isUnion_recordAll _ _
  · intro span span' items items' h
    have hp : (items.flatMap (itemHits cite)).Perm (items'.flatMap (itemHits cite)) :=
      h.flatMap_right _
    obtain ⟨e, he, hm⟩ := Analysis.exists_evidence_module cite
    rw [ofModule_module, ofModule_module, hm, hm]
    exact ⟨Report.rearranged_recordAll_perm wellFormed_empty hp,
      Report.rearranged_recordAll_perm he hp⟩

theorem Evidence.ofModule_compositional_swap :
    let cite : Citation := ⟨.ofString "let a;const b=1;", 1, 2⟩
    let first : Node := .variableDeclaration ⟨1, 7⟩ .let
      [.declarator ⟨5, 6⟩ (.bindingName ⟨5, 6⟩ "a") none]
    let second : Node := .variableDeclaration ⟨7, 17⟩ .const
      [.declarator ⟨13, 16⟩ (.bindingName ⟨13, 14⟩ "b") (some (.numberLiteral ⟨15, 16⟩ "1"))]
    [first, second].Perm [second, first] ∧
      (ofModule cite (.module ⟨1, 17⟩ [first, second])).keys = ["let", "const"] ∧
      (ofModule cite (.module ⟨1, 17⟩ [second, first])).keys = ["const", "let"] ∧
      (Report.ofEvidence (ofModule cite (.module ⟨1, 17⟩ [first, second]))).Rearranged
        (.ofEvidence (ofModule cite (.module ⟨1, 17⟩ [second, first]))) := by
  intro cite first second
  have hp : [first, second].Perm [second, first] := .swap second first []
  refine ⟨hp, ?_, ?_, ((ofModule_compositional cite).2 ⟨1, 17⟩ ⟨1, 17⟩ _ _ hp).1.2⟩
  · rw [ofModule_eq]
    decide
  · rw [ofModule_eq]
    decide

end ScriptFeatures
