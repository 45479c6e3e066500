import ScriptFeatures.Proofs.Report.Completeness

namespace ScriptFeatures

open Syntax (Node)
open Text (Snippet Source)

namespace Report

/-- Reports on the same features in the same order, with as many snippets for each of them, which
are related one by one. -/
structure Agree (R : Snippet → Snippet → Prop) (r r' : Report) : Prop where
  features : List.Forall₂
    (fun f f' => f.feature = f'.feature ∧ List.Forall₂ R f.snippets f'.snippets)
    r.features r'.features
  summary_eq : r.summary = r'.summary
  minimumVersions_eq : r.minimumVersions = r'.minimumVersions

theorem agree_ofEvidence {R : Snippet → Snippet → Prop} {e e' : Evidence} (h : e.Agree R e') :
    (ofEvidence e).Agree R (ofEvidence e') := by
  have hf : List.Forall₂
      (fun f f' => f.feature = f'.feature ∧ List.Forall₂ R f.snippets f'.snippets)
      (ofEvidence e).features (ofEvidence e').features := by
    obtain ⟨es⟩ := e
    obtain ⟨es'⟩ := e'
    change List.Forall₂ _ es es' at h
    simp only [ofEvidence]
    induction h with
    | nil => exact .nil
    | @cons a b es es' hab hes ih =>
      obtain ⟨key, ss⟩ := a
      obtain ⟨_, ts⟩ := b
      obtain ⟨rfl, hst⟩ := hab
      cases hl : Catalogue.lookup? key with
      | none => simpa [hl] using ih
      | some f => simpa [hl] using ⟨hst, ih⟩
  have hm : (ofEvidence e).features.map (·.feature) = (ofEvidence e').features.map (·.feature) :=
    List.forall₂_eq_eq_eq ▸ List.forall₂_map_left_iff.2
      (List.forall₂_map_right_iff.2 (hf.imp fun _ _ hff => hff.1))
  constructor
  case features => exact hf
  case summary_eq => exact congrArg Summary.ofFeatures hm
  case minimumVersions_eq => exact congrArg ScriptFeatures.minimumVersions hm

end Report

namespace Evidence

variable {context context' : Nat}

theorem agree_recordAll_cite (h : context ≤ context') {s : Source}
    (hits : List (String × s.Range)) :
    (empty.recordAll (hits.map (Prod.map id (s.cite context)))).Agree Snippet.WidenedBy
      (empty.recordAll (hits.map (Prod.map id (s.cite context')))) := by
  have hc (r r' : s.Range) : compare (s.cite context r) (s.cite context r') =
      compare (s.cite context' r) (s.cite context' r') := by
    rw [Source.compare_cite, Source.compare_cite]
  refine (agree_recordAll_map hc .nil hits).imp ?_
  rintro _ _ ⟨r, rfl, rfl⟩
  exact s.snippet_widenedBy r.start r.stop h

variable (source : Source) (base : Nat) (module : Node)

theorem agree_ofModule (h : context ≤ context') :
    (ofModule ⟨source, base, context⟩ module).Agree Snippet.WidenedBy
      (ofModule ⟨source, base, context'⟩ module) := by
  rw [ofModule_eq_places, ofModule_eq_places]
  exact agree_recordAll_cite h _

theorem agree_analysis (h : context ≤ context') :
    (Analysis.evidence ⟨source, base, context⟩ module).Agree Snippet.WidenedBy
      (Analysis.evidence ⟨source, base, context'⟩ module) := by
  rw [Analysis.evidence_eq, Analysis.evidence_eq]
  exact agree_recordAll_cite h _

end Evidence

/-- A larger radius widens the contexts of the evidence in a tree, or in a text, and changes
nothing else. A text that is refused is refused with the same error. -/
theorem analyze_agree {context context' : Nat} (h : context ≤ context') :
    (∀ (source : Source) (base : Nat) (module : Node),
      (Evidence.ofModule ⟨source, base, context⟩ module).Agree Snippet.WidenedBy
        (Evidence.ofModule ⟨source, base, context'⟩ module)) ∧
    ∀ (markup : Bool) (text : String),
      (∀ report, analyze ⟨context, markup⟩ text = .ok report →
        ∃ report', analyze ⟨context', markup⟩ text = .ok report' ∧
          report.Agree Snippet.WidenedBy report') ∧
      ∀ e, analyze ⟨context, markup⟩ text = .error e ↔
        analyze ⟨context', markup⟩ text = .error e := by
  refine ⟨fun source base module => Evidence.agree_ofModule source base module h,
    fun markup text => ⟨fun report hr => ?_, fun e => ?_⟩⟩
  · obtain ⟨module, ha, rfl⟩ := analyze_eq_ok_iff.1 hr
    exact ⟨_, analyze_eq_ok_iff.2 ⟨module, ha, rfl⟩,
      Report.agree_ofEvidence (Evidence.agree_analysis _ _ module h)⟩
  · simp only [analyze, Analysis.ofOutcome]
    split <;> simp

theorem analyze_agree_let :
    0 ≤ 1 ∧ ∃ report report', analyze ⟨0, false⟩ "1\nlet a\n2" = .ok report ∧
      analyze ⟨1, false⟩ "1\nlet a\n2" = .ok report' ∧
      report.features.flatMap (·.snippets.map (·.contextText)) = ["let a"] ∧
      report.Agree Snippet.WidenedBy report' := by
  have hc : (analyze ⟨0, false⟩ "1\nlet a\n2").map
      (fun r => r.features.flatMap (·.snippets.map (·.contextText))) = .ok ["let a"] := by
    decide +kernel
  cases ha : analyze ⟨0, false⟩ "1\nlet a\n2" with
  | error e =>
    rw [ha] at hc
    cases hc
  | ok report =>
    rw [ha] at hc
    obtain ⟨report', ha', h⟩ := ((analyze_agree (Nat.zero_le 1)).2 _ _).1 _ ha
    exact ⟨Nat.zero_le 1, report, report', rfl, ha', Except.ok.inj hc, h⟩

end ScriptFeatures
