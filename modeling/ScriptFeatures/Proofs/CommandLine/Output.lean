import ScriptFeatures.CommandLine
import ScriptFeatures.Proofs.Json.Printing
import ScriptFeatures.Proofs.Json.Report
import ScriptFeatures.Proofs.Report.Completeness

namespace ScriptFeatures

open Text (Snippet)

/-- A value that tells a whole report: it can be read back, and where a feature has notes in the
catalogue, and nowhere else, there is a field for them. -/
structure Report.ToldBy (report : Report) (value : Json) : Prop where
  ofJson?_eq : ofJson? value = some report
  notes : ∃ ds, value.field? "features" = some (.array ds) ∧
    List.Forall₂ (fun f d => Catalogue.lookup? f.feature.key = some f.feature ∧
      d.field? "notes" = f.feature.notes.map .string) report.features ds

theorem Report.toldBy_toJson {report : Report}
    (h : ∀ f ∈ report.features, Catalogue.lookup? f.feature.key = some f.feature) :
    report.ToldBy report.toJson := by
  constructor
  case ofJson?_eq => exact ofJson?_toJson report
  case notes =>
    refine ⟨_, rfl, ?_⟩
    rw [List.forall₂_map_right_iff, List.forall₂_same]
    intro f hf
    exact ⟨h f hf, f.field?_notes⟩

theorem lookup?_of_analyze {options : Options} {text : String} {report : Report}
    (h : analyze options text = .ok report) :
    ∀ f ∈ report.features, Catalogue.lookup? f.feature.key = some f.feature := by
  obtain ⟨module, _, rfl⟩ := analyze_eq_ok_iff.1 h
  intro f
  exact Report.lookup?_of_mem_features

namespace CommandLine

/-- A text and a line feed, where the text is one of the value and of no other. -/
def Prints (stdout : String) (value : Json) : Prop :=
  ∃ text, stdout = text ++ "\n" ∧ ∀ j, Json.IsText text.toList j ↔ j = value

theorem Prints.unique {stdout : String} {value value' : Json} (h : Prints stdout value)
    (h' : Prints stdout value') : value = value' := by
  obtain ⟨text, rfl, ht⟩ := h
  obtain ⟨text', he, ht'⟩ := h'
  obtain rfl := String.append_left_inj _ |>.1 he
  exact (ht' value).1 ((ht value).2 rfl)

theorem prints_print (pretty : Bool) (value : Json) : Prints (print pretty value).stdout value := by
  cases pretty with
  | false => exact ⟨value.compact, rfl, fun _ => Json.isText_compact_iff⟩
  | true => exact ⟨value.pretty, rfl, fun _ => Json.isText_pretty_iff⟩

section

variable {file : Option String} {options : Options} {pretty : Bool} {text : String}

theorem answer_of_ok {report : Report} (h : analyze options text = .ok report) :
    (Command.analyze file options pretty).answer (.ok text) = print pretty report.toJson := by
  unfold Command.answer
  dsimp only
  rw [h]

theorem answer_of_error {e : AnalysisError} (h : analyze options text = .error e) :
    (Command.analyze file options pretty).answer (.ok text) = failure e.message := by
  unfold Command.answer
  dsimp only
  rw [h]

end

/-- What the program prints of a text that it analyzes, from a file or from standard input, is in
both forms a text of one value, which tells the whole report. Reports that are printed alike, in
whatever forms, are the same. If the text cannot be read or is refused, nothing is printed. -/
theorem answer_tells_report :
    (∀ (file : Option String) (options : Options) (text : String) (report : Report),
      analyze options text = .ok report → ∃ value, report.ToldBy value ∧
        ∀ pretty, ∃ stdout, Prints stdout value ∧
          (Command.analyze file options pretty).answer (.ok text) = ⟨0, stdout, ""⟩) ∧
    (∀ report report' : Report,
      (∃ pretty pretty',
        (print pretty report.toJson).stdout = (print pretty' report'.toJson).stdout) ↔
          report = report') ∧
    ∀ (file : Option String) (options : Options) (pretty : Bool),
      (∀ e, ∃ stderr, (Command.analyze file options pretty).answer (.error e) = ⟨1, "", stderr⟩) ∧
      ∀ text e, analyze options text = .error e →
        ∃ stderr, (Command.analyze file options pretty).answer (.ok text) = ⟨1, "", stderr⟩ := by
  refine ⟨?_, ?_, ?_⟩
  · intro file options text report h
    refine ⟨report.toJson, Report.toldBy_toJson (lookup?_of_analyze h), fun pretty => ?_⟩
    exact ⟨_, prints_print pretty report.toJson, answer_of_ok h⟩
  · intro report report'
    constructor
    · rintro ⟨pretty, pretty', h⟩
      have hp := prints_print pretty report.toJson
      rw [h] at hp
      have hj : report.toJson = report'.toJson := hp.unique (prints_print pretty' _)
      have hr := report.ofJson?_toJson
      rw [hj, Report.ofJson?_toJson] at hr
      exact (Option.some.inj hr).symm
    · rintro rfl
      exact ⟨false, false, rfl⟩
  · intro file options pretty
    exact ⟨fun e => ⟨_, rfl⟩, fun text e h => ⟨_, answer_of_error h⟩⟩

theorem answer_tells_report_quoted :
    ∃ report value, analyze {} "let a = '\"\\\té'" = .ok report ∧
      report.features.flatMap (·.snippets.map (·.matchText)) = ["let a = '\"\\\té'"] ∧
      report.ToldBy value ∧
      (∀ pretty, ∃ stdout, Prints stdout value ∧
        (Command.analyze none {} pretty).answer (.ok "let a = '\"\\\té'") = ⟨0, stdout, ""⟩) ∧
      ∃ e stderr, analyze {} "(" = .error e ∧
        (Command.analyze none {} true).answer (.ok "(") = ⟨1, "", stderr⟩ := by
  have hm : (analyze {} "let a = '\"\\\té'").map
      (fun r => r.features.flatMap (·.snippets.map (·.matchText))) =
        .ok ["let a = '\"\\\té'"] := by
    decide +kernel
  have hn : (analyze {} "(").toOption.isNone = true := by decide +kernel
  cases ha : analyze {} "let a = '\"\\\té'" with
  | error e =>
    rw [ha] at hm
    cases hm
  | ok report =>
    rw [ha] at hm
    obtain ⟨value, ht, hp⟩ := answer_tells_report.1 none _ _ _ ha
    cases hb : analyze {} "(" with
    | ok report' =>
      rw [hb] at hn
      cases hn
    | error e =>
      obtain ⟨stderr, hs⟩ := (answer_tells_report.2.2 none {} true).2 _ _ hb
      exact ⟨report, value, rfl, Except.ok.inj hm, ht, hp, e, stderr, rfl, hs⟩

end CommandLine
end ScriptFeatures
