import ScriptFeatures.Analysis
import ScriptFeatures.Proofs.Text.Position

namespace ScriptFeatures

open Syntax (Diagnostic Outcome withoutMark)
open Text (Source)

namespace AnalysisError

def place (e : AnalysisError) : Nat × Nat := (e.line, e.column)

theorem place_ofDiagnostic (source : Source) (base : Nat) (d : Diagnostic) :
    (ofDiagnostic source base d).place = source.position (d.offset - base) :=
  rfl

end AnalysisError

namespace Analysis

variable {source : Source} {contextLines : Nat} {outcome : Outcome} {e : AnalysisError}

theorem exists_diagnostic_of_ofOutcome (h : ofOutcome source contextLines outcome = .error e) :
    ∃ d, outcome.accept = .error d ∧ e = .ofDiagnostic source base d := by
  rw [ofOutcome] at h
  cases hd : outcome.accept with
  | error d =>
    rw [hd] at h
    exact ⟨d, rfl, (Except.error.inj h).symm⟩
  | ok module =>
    rw [hd] at h
    cases h

theorem isPlace_of_ofOutcome (h : ofOutcome source contextLines outcome = .error e) :
    source.IsPlace e.place := by
  obtain ⟨d, -, rfl⟩ := exists_diagnostic_of_ofOutcome h
  rw [AnalysisError.place_ofDiagnostic]
  exact Source.isPlace_position _

end Analysis

/-- The positions of the boundaries of a text increase with the boundaries, and they are the lines
of the text with the columns of each. Any other offset has the position of the largest boundary
below it, which past the end is the end of the text. A snippet stands at the position of its start,
and the error of an analysis at that of a diagnostic, so that it names a line that exists and a
column of it. -/
theorem position_places (s : Source) :
    (StrictMonoOn (fun n => toLex (s.position n)) {n | s.IsBoundary n} ∧
      Set.BijOn s.position {n | s.IsBoundary n} {place | s.IsPlace place}) ∧
    (∀ n, ∃ b, IsGreatest {b | s.IsBoundary b ∧ b ≤ n} b ∧ s.position n = s.position b) ∧
    (∀ n, s.size ≤ n → s.position n = s.position s.size) ∧
    (∀ start stop context,
      ((s.snippet start stop context).matchLine, (s.snippet start stop context).matchColumn) =
        s.position start) ∧
    (∀ base d, s.IsPlace (AnalysisError.ofDiagnostic s base d).place) ∧
    (∀ contextLines outcome e,
      Analysis.ofOutcome s contextLines outcome = .error e → s.IsPlace e.place) ∧
    ∀ options text e, analyze options text = .error e →
      Source.IsPlace { chars := withoutMark text.toList } e.place := by
  refine ⟨⟨s.position_strictMonoOn, s.position_bijOn⟩, fun n => ?_, fun n hn => ?_,
    Source.place_snippet, fun base d => ?_, fun contextLines outcome e => ?_,
    fun options text e h => ?_⟩
  · exact ⟨s.clamp n, Source.isGreatest_clamp n, (Source.position_clamp n).symm⟩
  · rw [← Source.position_clamp n, Source.clamp_of_size_le hn]
  · rw [AnalysisError.place_ofDiagnostic]
    exact Source.isPlace_position _
  · exact Analysis.isPlace_of_ofOutcome
  · rw [analyze] at h
    exact Analysis.isPlace_of_ofOutcome h

theorem position_places_two_lines :
    let s : Source := .ofString "é\nx"
    s.IsBoundary 2 ∧ s.IsBoundary 3 ∧ toLex (s.position 2) < toLex (s.position 3) ∧
      s.size ≤ 9 ∧ s.position 9 = s.position s.size ∧
      Analysis.ofOutcome s 0 ⟨.error ⟨.tooDeep, 4⟩, []⟩ = .error ⟨.tooDeep, 2, 0⟩ ∧
      s.IsPlace (2, 0) ∧
      analyze {} "é\n\x7b" = .error ⟨.expected "\x7d" "<eof>", 2, 1⟩ ∧
      Source.IsPlace { chars := withoutMark "é\n\x7b".toList } (2, 1) := by
  intro s
  have h₂ : s.IsBoundary 2 := ⟨"é".toList, by decide, by decide⟩
  have h₃ : s.IsBoundary 3 := ⟨"é\n".toList, by decide, by decide⟩
  have hn : s.size ≤ 9 := by decide
  have ho : Analysis.ofOutcome s 0 ⟨.error ⟨.tooDeep, 4⟩, []⟩ = .error ⟨.tooDeep, 2, 0⟩ := rfl
  have ha : analyze {} "é\n\x7b" = .error ⟨.expected "\x7d" "<eof>", 2, 1⟩ := by decide +kernel
  obtain ⟨⟨increasing, -⟩, -, past, -, -, outcomes, texts⟩ := position_places s
  exact ⟨h₂, h₃, increasing h₂ h₃ (by decide), hn, past 9 hn, ho, outcomes 0 _ _ ho, ha,
    texts {} _ _ ha⟩

end ScriptFeatures
