import ScriptFeatures.Proofs.Report.Errors

namespace ScriptFeatures

open Syntax (Diagnostic Fault Node Outcome parseModule withoutMark)
open Text (Source byteLength placeAfter)

namespace Syntax

/-- What strict mode alone forbids. -/
inductive StrictModeFault : Fault → Prop where
  | legacyOctal : StrictModeFault .legacyOctal
  | legacyDecimal : StrictModeFault .legacyDecimal
  | withStatement : StrictModeFault .withStatement
  | evalOrArguments : StrictModeFault .evalOrArgumentsInStrict
  | reserved (word : String) : StrictModeFault (.reservedInStrict word)

theorem Fault.isStrictModeOnly_iff {f : Fault} : f.isStrictModeOnly = true ↔ StrictModeFault f := by
  constructor
  · intro h
    unfold Fault.isStrictModeOnly at h
    split at h
    case h_6 => cases h
    all_goals constructor
  · intro h
    cases h <;> rfl

namespace Outcome

/-- The module of a text is accepted: nothing ended parsing, and strict mode alone forbids what was
found wrong. -/
inductive Accepts : Outcome → Node → Prop where
  | ok (module : Node) (recovered : List Diagnostic)
      (h : ∀ d ∈ recovered, StrictModeFault d.fault) : Accepts ⟨.ok module, recovered⟩ module

/-- A text is refused for a diagnostic: for any one that ended parsing, or else for the first one
that not only strict mode is the reason for. -/
inductive Refuses : Outcome → Diagnostic → Prop where
  | fatal (d : Diagnostic) (recovered : List Diagnostic) : Refuses ⟨.error d, recovered⟩ d
  | recovered (module : Node) (before : List Diagnostic) (d : Diagnostic) (after : List Diagnostic)
      (hb : ∀ b ∈ before, StrictModeFault b.fault) (hd : ¬ StrictModeFault d.fault) :
      Refuses ⟨.ok module, before ++ d :: after⟩ d

variable {o : Outcome} {module : Node} {d : Diagnostic} {ds : List Diagnostic}

theorem find?_eq_none_iff :
    ds.find? (!·.fault.isStrictModeOnly) = none ↔ ∀ d ∈ ds, StrictModeFault d.fault := by
  simp only [List.find?_eq_none, Bool.not_eq_true', Bool.not_eq_false, Fault.isStrictModeOnly_iff]

theorem find?_eq_some_iff :
    ds.find? (!·.fault.isStrictModeOnly) = some d ↔
      ¬ StrictModeFault d.fault ∧ ∃ before after, ds = before ++ d :: after ∧
        ∀ b ∈ before, StrictModeFault b.fault := by
  simp only [List.find?_eq_some_iff_append, Bool.not_not, Bool.not_eq_true', ← Bool.not_eq_true,
    Fault.isStrictModeOnly_iff]

theorem accepts_or_refuses (o : Outcome) : (∃ module, o.Accepts module) ∨ ∃ d, o.Refuses d := by
  obtain ⟨d | module, ds⟩ := o
  · exact .inr ⟨d, .fatal d ds⟩
  · cases hf : ds.find? (!·.fault.isStrictModeOnly) with
    | none => exact .inl ⟨module, .ok module ds (find?_eq_none_iff.1 hf)⟩
    | some d =>
      obtain ⟨hd, before, after, rfl, hb⟩ := find?_eq_some_iff.1 hf
      exact .inr ⟨d, .recovered module before d after hb hd⟩

theorem Accepts.accept_eq (h : o.Accepts module) : o.accept = .ok module := by
  obtain ⟨module, ds, h⟩ := h
  simp only [accept, find?_eq_none_iff.2 h]

theorem Refuses.accept_eq (h : o.Refuses d) : o.accept = .error d := by
  obtain ⟨d, ds⟩ | ⟨module, before, d, after, hb, hd⟩ := h
  · rfl
  · simp only [accept, find?_eq_some_iff.2 ⟨hd, before, after, rfl, hb⟩]

theorem accept_eq_ok_iff : o.accept = .ok module ↔ o.Accepts module := by
  refine ⟨fun h => ?_, Accepts.accept_eq⟩
  rcases o.accepts_or_refuses with ⟨module', ha⟩ | ⟨d, hr⟩
  · obtain rfl := Except.ok.inj (ha.accept_eq.symm.trans h)
    exact ha
  · cases hr.accept_eq.symm.trans h

theorem accept_eq_error_iff : o.accept = .error d ↔ o.Refuses d := by
  refine ⟨fun h => ?_, Refuses.accept_eq⟩
  rcases o.accepts_or_refuses with ⟨module, ha⟩ | ⟨d', hr⟩
  · cases ha.accept_eq.symm.trans h
  · obtain rfl := Except.error.inj (hr.accept_eq.symm.trans h)
    exact hr

/-- What strict mode alone forbids changes nothing, wherever among the diagnostics it stands. -/
theorem accept_append_cons (result : Except Diagnostic Node) (before after : List Diagnostic)
    (h : StrictModeFault d.fault) :
    accept ⟨result, before ++ d :: after⟩ = accept ⟨result, before ++ after⟩ := by
  have hd : (!d.fault.isStrictModeOnly) = false := by rw [Fault.isStrictModeOnly_iff.2 h]; rfl
  have hf : (before ++ d :: after).find? (!·.fault.isStrictModeOnly) =
      (before ++ after).find? (!·.fault.isStrictModeOnly) := by
    rw [List.find?_append, List.find?_append, List.find?_cons_of_neg (by simpa using hd)]
  cases result with
  | error d => rfl
  | ok module => simp only [accept, hf]

end Outcome
end Syntax

/-- The error that reports a diagnostic: it has its fault, and with it its message, and it names
the line and the column that are reached where the diagnostic starts. -/
structure AnalysisError.Reports (e : AnalysisError) (source : Source) (d : Diagnostic) : Prop where
  fault_eq : e.fault = d.fault
  place_eq : e.place = source.position (d.offset - Analysis.base)
  place_eq_placeAfter : ∀ before after, source.chars = before ++ after →
    d.offset = Analysis.base + byteLength before → e.place = placeAfter before

namespace Analysis

variable {source : Source} {contextLines : ℕ} {o : Outcome} {d : Diagnostic} {e : AnalysisError}

theorem eq_ofDiagnostic_iff : e = .ofDiagnostic source base d ↔ e.Reports source d := by
  constructor
  · rintro rfl
    refine ⟨rfl, AnalysisError.place_ofDiagnostic source base d, fun before after h hd => ?_⟩
    rw [AnalysisError.place_ofDiagnostic, hd, Nat.add_sub_cancel_left, Source.position_eq h]
  · rintro ⟨hf, hp, -⟩
    obtain ⟨fault, line, column⟩ := e
    obtain rfl : fault = d.fault := hf
    rw [← AnalysisError.place_ofDiagnostic] at hp
    obtain ⟨rfl, rfl⟩ := Prod.mk.inj hp
    rfl

theorem ofOutcome_eq_ok_iff {report : Report} :
    ofOutcome source contextLines o = .ok report ↔ ∃ module, o.Accepts module ∧
      report = .ofEvidence (evidence ⟨source, base, contextLines⟩ module) := by
  constructor
  · intro h
    rcases o.accepts_or_refuses with ⟨module, ha⟩ | ⟨d, hr⟩
    · rw [ofOutcome, ha.accept_eq] at h
      exact ⟨module, ha, (Except.ok.inj h).symm⟩
    · rw [ofOutcome, hr.accept_eq] at h
      cases h
  · rintro ⟨module, ha, rfl⟩
    rw [ofOutcome, ha.accept_eq]

theorem ofOutcome_eq_error_iff :
    ofOutcome source contextLines o = .error e ↔ ∃ d, o.Refuses d ∧ e.Reports source d := by
  constructor
  · intro h
    obtain ⟨d, hd, he⟩ := exists_diagnostic_of_ofOutcome h
    exact ⟨d, Outcome.accept_eq_error_iff.1 hd, eq_ofDiagnostic_iff.1 he⟩
  · rintro ⟨d, hr, he⟩
    rw [ofOutcome, hr.accept_eq, eq_ofDiagnostic_iff.2 he]

end Analysis

/-- A module is accepted as it is, or the text is refused for one diagnostic, to which those that
strict mode alone is the reason for make no difference. The report on an accepted module is made
from all that the module and a `#!` line show. The answer to a refused text is the error that
reports the diagnostic, also if the text starts with a `#!` line. -/
theorem ofOutcome_answers :
    (∀ (o : Outcome) (module : Node), o.accept = .ok module ↔ o.Accepts module) ∧
    (∀ (o : Outcome) (d : Diagnostic), o.accept = .error d ↔ o.Refuses d) ∧
    (∀ (result : Except Diagnostic Node) (before after : List Diagnostic) (d : Diagnostic),
      Syntax.StrictModeFault d.fault →
        Outcome.accept ⟨result, before ++ d :: after⟩ = Outcome.accept ⟨result, before ++ after⟩) ∧
    (∀ (source : Source) (contextLines : ℕ) (o : Outcome),
      (∀ report, Analysis.ofOutcome source contextLines o = .ok report ↔
        ∃ module, o.Accepts module ∧ report =
          .ofEvidence (Analysis.evidence ⟨source, Analysis.base, contextLines⟩ module)) ∧
      ∀ e, Analysis.ofOutcome source contextLines o = .error e ↔
        ∃ d, o.Refuses d ∧ e.Reports source d) ∧
    ∀ (options : Options) (text : String),
      let source : Source := { chars := withoutMark text.toList }
      let o := parseModule options.markup Analysis.base source.chars
      (∀ report, analyze options text = .ok report ↔
        ∃ module, o.Accepts module ∧ report =
          .ofEvidence (Analysis.evidence ⟨source, Analysis.base, options.contextLines⟩ module)) ∧
      ∀ e, analyze options text = .error e ↔ ∃ d, o.Refuses d ∧ e.Reports source d := by
  refine ⟨fun o module => Outcome.accept_eq_ok_iff, fun o d => Outcome.accept_eq_error_iff,
    fun result before after d => Outcome.accept_append_cons result before after,
    fun source contextLines o => ?_, fun options text => ?_⟩
  · exact ⟨fun report => Analysis.ofOutcome_eq_ok_iff, fun e => Analysis.ofOutcome_eq_error_iff⟩
  · exact ⟨fun report => Analysis.ofOutcome_eq_ok_iff, fun e => Analysis.ofOutcome_eq_error_iff⟩

theorem ofOutcome_answers_octal :
    let legacy : Diagnostic := ⟨.legacyOctal, 27⟩
    let missing : Diagnostic := ⟨.invalidAssignmentTarget, 13⟩
    let module : Node := .module ⟨1, 36⟩ []
    let text := "#!/bin/node\nwith (o) x = 010;\nif (x) \x7b"
    let source : Source := { chars := withoutMark text.toList }
    let e : AnalysisError := ⟨.expected "\x7d" "<eof>", 3, 8⟩
    Syntax.StrictModeFault legacy.fault ∧
      Outcome.accept ⟨.ok module, [legacy, missing]⟩ = Outcome.accept ⟨.ok module, [missing]⟩ ∧
      Outcome.Refuses ⟨.ok module, [legacy, missing]⟩ missing ∧
      analyze {} text = .error e ∧
      ∃ d, (parseModule false Analysis.base source.chars).Refuses d ∧ e.Reports source d := by
  intro legacy missing module text source e
  have hs : Syntax.StrictModeFault legacy.fault := .legacyOctal
  have he : analyze {} text = .error e := by decide +kernel
  obtain ⟨accepted, refused, strict, -, texts⟩ := ofOutcome_answers
  exact ⟨hs, strict (.ok module) [] [missing] legacy hs, (refused _ _).1 rfl, he,
    ((texts {} text).2 e).1 he⟩

end ScriptFeatures
