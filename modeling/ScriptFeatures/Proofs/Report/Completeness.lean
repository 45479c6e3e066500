import ScriptFeatures.Proofs.Walk.Locations

namespace ScriptFeatures

open Syntax (Node Occurrence Span parseModule withoutMark)
open Text (Snippet Source)

namespace Catalogue

def keys : List String := all.map (·.key)

theorem lookup?_isSome_iff {key : String} : (lookup? key).isSome = true ↔ key ∈ keys := by
  rw [lookup?, List.find?_isSome, keys, List.mem_map]
  simp only [beq_iff_eq]

theorem key_of_lookup? {key : String} {f : Feature} (h : lookup? key = some f) : f.key = key := by
  simpa using List.find?_some h

/-- Nothing that a node can show is missing from the catalogue. -/
theorem mem_keys_of_mem_nodeKeys : ∀ key ∈ Usage.nodeKeys, key ∈ keys := by decide +kernel

theorem mem_keys_of_mem_uses {o : Occurrence} {key : String} {span : Span}
    (h : ⟨key, span⟩ ∈ o.uses) : key ∈ keys := by
  by_cases hk : key = "top-level-await"
  · rw [hk]
    decide +kernel
  · have hu : ⟨key, span⟩ ∈ o.node.uses := (Occurrence.mem_uses_of_ne hk).1 h
    exact mem_keys_of_mem_nodeKeys key (Node.key_mem_nodeKeys hu)

end Catalogue

namespace Report

theorem map_features_ofEvidence (e : Evidence) :
    (ofEvidence e).features.map (fun f => (f.feature.key, f.snippets)) =
      e.entries.filter fun entry => (Catalogue.lookup? entry.1).isSome := by
  obtain ⟨es⟩ := e
  simp only [ofEvidence]
  induction es with
  | nil => rfl
  | cons entry es ih =>
    obtain ⟨key, ss⟩ := entry
    cases hl : Catalogue.lookup? key with
    | none => simpa [hl] using ih
    | some f => simpa [hl, Catalogue.key_of_lookup? hl] using ih

theorem lookup?_of_mem_features {e : Evidence} {f : DetectedFeature}
    (h : f ∈ (ofEvidence e).features) : Catalogue.lookup? f.feature.key = some f.feature := by
  obtain ⟨entry, _, he⟩ := List.mem_filterMap.1 h
  obtain ⟨g, hg, rfl⟩ := Option.map_eq_some_iff.1 he
  rw [Catalogue.key_of_lookup? hg, hg]

/-- A report has all of the evidence: its features are the recorded keys in their order, each
described as in the catalogue, and with every snippet recorded for it. -/
structure Complete (r : Report) (e : Evidence) : Prop where
  catalogued : ∀ key ∈ e.keys, key ∈ Catalogue.keys
  keys_eq : r.features.map (·.feature.key) = e.keys
  totalFeatures_eq : r.summary.totalFeatures = e.size
  lookup?_eq : ∀ f ∈ r.features, Catalogue.lookup? f.feature.key = some f.feature
  snippets?_eq : ∀ f ∈ r.features, e.snippets? f.feature.key = some f.snippets
  snippets_ne_nil : ∀ f ∈ r.features, f.snippets ≠ []

theorem complete_ofEvidence {e : Evidence} (he : e.WellFormed)
    (h : ∀ key ∈ e.keys, key ∈ Catalogue.keys) : (ofEvidence e).Complete e := by
  have hf : (ofEvidence e).features.map (fun f => (f.feature.key, f.snippets)) = e.entries := by
    rw [map_features_ofEvidence, List.filter_eq_self]
    intro entry hm
    exact Catalogue.lookup?_isSome_iff.2 (h entry.1 (List.mem_map_of_mem hm))
  have hm {f : DetectedFeature} (hm : f ∈ (ofEvidence e).features) :
      (f.feature.key, f.snippets) ∈ e.entries := by
    rw [← hf]
    exact List.mem_map.2 ⟨f, hm, rfl⟩
  constructor
  case catalogued => exact h
  case keys_eq =>
    rw [Evidence.keys, ← hf, List.map_map]
    rfl
  case totalFeatures_eq =>
    rw [Evidence.size, ← hf, List.length_map]
    exact List.length_map _
  case lookup?_eq => exact fun f => lookup?_of_mem_features
  case snippets?_eq => exact fun f hf => (Evidence.snippets?_eq_some_iff he).2 (hm hf)
  case snippets_ne_nil => exact fun f hf => he.ne_nil _ (hm hf)

end Report

theorem Evidence.mem_keys_of_mem_places {cite : Citation} {module : Node} {key : String}
    {r : cite.source.Range}
    (h : (key, r) ∈ cite.places ((module.occurrences []).flatMap Occurrence.uses)) :
    key ∈ Catalogue.keys := by
  obtain ⟨o, _, span, hu, _⟩ := Occurrence.exists_mem_flatMap_uses.1 (Citation.mem_places.1 h)
  exact Catalogue.mem_keys_of_mem_uses hu

namespace Report

theorem complete_recordAll_map {ρ : Type} (f : ρ → Snippet) {hits : List (String × ρ)}
    (h : ∀ key r, (key, r) ∈ hits → key ∈ Catalogue.keys) :
    (ofEvidence (Evidence.empty.recordAll (hits.map (Prod.map id f)))).Complete
      (Evidence.empty.recordAll (hits.map (Prod.map id f))) := by
  apply complete_ofEvidence (Evidence.wellFormed_recordAll Evidence.wellFormed_empty _)
  intro key hk
  obtain ⟨r, hr⟩ := Evidence.mem_keys_recordAll_map.1 hk
  exact h key r hr

theorem complete_ofModule (cite : Citation) (module : Node) :
    (ofEvidence (.ofModule cite module)).Complete (.ofModule cite module) := by
  rw [Evidence.ofModule_eq_places]
  exact complete_recordAll_map _ fun _ _ => Evidence.mem_keys_of_mem_places

theorem complete_analysis (cite : Citation) (module : Node) :
    (ofEvidence (Analysis.evidence cite module)).Complete (Analysis.evidence cite module) := by
  rw [Analysis.evidence_eq]
  apply complete_recordAll_map
  intro key r hr
  rcases List.mem_append.1 hr with hh | hp
  · obtain ⟨_, _, he⟩ := List.mem_map.1 hh
    rw [← (Prod.mk.inj he).1]
    decide +kernel
  · exact Evidence.mem_keys_of_mem_places hp

end Report

theorem analyze_eq_ok_iff {options : Options} {text : String} {report : Report} :
    analyze options text = .ok report ↔
      ∃ module,
        (parseModule options.markup Analysis.base (withoutMark text.toList)).accept = .ok module ∧
        report = .ofEvidence (Analysis.evidence
          ⟨{ chars := withoutMark text.toList }, Analysis.base, options.contextLines⟩ module) := by
  rw [analyze, Analysis.ofOutcome]
  cases (parseModule options.markup Analysis.base (withoutMark text.toList)).accept with
  | error d => simp
  | ok module => simp [eq_comm]

/-- No evidence is lost on the way to the report: the keys that a walk records are catalogued,
whatever the tree is, so that the report on what it gathers is complete. So is the report on a
text, with its `#!` line. -/
theorem report_complete :
    (∀ (cite : Citation) (module : Node),
      (Report.ofEvidence (.ofModule cite module)).Complete (.ofModule cite module)) ∧
    (∀ (cite : Citation) (module : Node),
      (Report.ofEvidence (Analysis.evidence cite module)).Complete
        (Analysis.evidence cite module)) ∧
    ∀ (options : Options) (text : String) (report : Report),
      analyze options text = .ok report →
        ∃ module, (parseModule options.markup Analysis.base (withoutMark text.toList)).accept =
            .ok module ∧
          report.Complete (Analysis.evidence
            ⟨{ chars := withoutMark text.toList }, Analysis.base, options.contextLines⟩
              module) := by
  refine ⟨Report.complete_ofModule, Report.complete_analysis, fun options text report h => ?_⟩
  obtain ⟨module, ha, rfl⟩ := analyze_eq_ok_iff.1 h
  exact ⟨module, ha, Report.complete_analysis _ module⟩

theorem report_complete_hashbang :
    ∃ report module, analyze {} "#!a\nlet x" = .ok report ∧
      report.features.map (·.feature.key) = ["hashbang", "let"] ∧
      report.Complete (Analysis.evidence
        ⟨{ chars := withoutMark "#!a\nlet x".toList }, Analysis.base, Source.defaultContext⟩
          module) := by
  have hk : (analyze {} "#!a\nlet x").map (fun r => r.features.map (·.feature.key)) =
      .ok ["hashbang", "let"] := by decide +kernel
  cases ha : analyze {} "#!a\nlet x" with
  | error e =>
    rw [ha] at hk
    cases hk
  | ok report =>
    rw [ha] at hk
    obtain ⟨module, _, hc⟩ := report_complete.2.2 _ _ _ ha
    exact ⟨report, module, rfl, Except.ok.inj hk, hc⟩

end ScriptFeatures
