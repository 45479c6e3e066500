import ScriptFeatures.Json.Report

namespace ScriptFeatures

open Text (Snippet)

namespace Json

def field? (name : String) : Json → Option Json
  | .object fs => fs.lookup name
  | _ => none

def number? : Json → Option Nat
  | .number n => some n
  | _ => none

def bool? : Json → Option Bool
  | .bool b => some b
  | _ => none

def string? : Json → Option String
  | .string s => some s
  | _ => none

def array? : Json → Option (List Json)
  | .array es => some es
  | _ => none

end Json

def Text.Snippet.ofJson? (j : Json) : Option Snippet := do
  some {
    matchLine := ← (← j.field? "matchLine").number?
    matchColumn := ← (← j.field? "matchColumn").number?
    matchLength := ← (← j.field? "matchLength").number?
    matchText := ← (← j.field? "matchText").string?
    contextStartLine := ← (← j.field? "contextStartLine").number?
    contextText := ← (← j.field? "contextText").string? }

def VersionRecord.ofJson? (j : Json) : Option VersionRecord := do
  some {
    chrome := ← (← j.field? "chrome").string?
    firefox := ← (← j.field? "firefox").string?
    safari := ← (← j.field? "safari").string?
    edge := ← (← j.field? "edge").string?
    ie := ← (← j.field? "ie").string? }

/-- Without a field for them, a feature has no notes. -/
def Feature.ofJson? (j : Json) : Option Feature := do
  some {
    key := ← (← j.field? "key").string?
    displayName := ← (← j.field? "displayName").string?
    description := ← (← j.field? "description").string?
    support := ← VersionRecord.ofJson? (← j.field? "support")
    notes := ← match j.field? "notes" with
      | none => some none
      | some n => n.string?.map some }

def DetectedFeature.ofJson? (j : Json) : Option DetectedFeature := do
  some {
    feature := ← Feature.ofJson? j
    snippets := ← (← (← j.field? "snippets").array?).mapM Snippet.ofJson? }

def Summary.ofJson? (j : Json) : Option Summary := do
  some {
    totalFeatures := ← (← j.field? "totalFeatures").number?
    modernOnlyFeatures := ← (← j.field? "modernOnlyFeatures").number?
    allFeaturesLegacyCompatible := ← (← j.field? "allFeaturesLegacyCompatible").bool? }

def Report.ofJson? (j : Json) : Option Report := do
  some {
    features := ← (← (← j.field? "features").array?).mapM DetectedFeature.ofJson?
    summary := ← Summary.ofJson? (← j.field? "summary")
    minimumVersions := ← VersionRecord.ofJson? (← j.field? "minimumVersions") }

theorem Text.Snippet.ofJson?_toJson (s : Snippet) : Snippet.ofJson? s.toJson = some s := rfl

theorem VersionRecord.ofJson?_toJson (r : VersionRecord) : ofJson? r.toJson = some r := rfl

theorem Summary.ofJson?_toJson (s : Summary) : ofJson? s.toJson = some s := rfl

theorem mapM_ofJson? {α : Type} {print : α → Json} {read? : Json → Option α}
    (h : ∀ a, read? (print a) = some a) (as : List α) : (as.map print).mapM read? = some as := by
  induction as with
  | nil => rfl
  | cons a as ih => simp [h, ih]

namespace DetectedFeature

theorem feature_ofJson?_toJson (d : DetectedFeature) : Feature.ofJson? d.toJson = some d.feature := by
  obtain ⟨⟨key, displayName, description, support, notes⟩, snippets⟩ := d
  cases notes <;> rfl

theorem field?_snippets (d : DetectedFeature) :
    d.toJson.field? "snippets" = some (.array (d.snippets.map Snippet.toJson)) := by
  obtain ⟨⟨key, displayName, description, support, notes⟩, snippets⟩ := d
  cases notes <;> rfl

theorem field?_notes (d : DetectedFeature) :
    d.toJson.field? "notes" = d.feature.notes.map .string := by
  obtain ⟨⟨key, displayName, description, support, notes⟩, snippets⟩ := d
  cases notes <;> rfl

theorem ofJson?_toJson (d : DetectedFeature) : ofJson? d.toJson = some d := by
  have hs := mapM_ofJson? Snippet.ofJson?_toJson d.snippets
  simp only [ofJson?, feature_ofJson?_toJson, field?_snippets, Json.array?, hs,
    Option.bind_eq_bind, Option.bind_some]

end DetectedFeature

theorem Report.ofJson?_toJson (r : Report) : ofJson? r.toJson = some r := by
  have hf := mapM_ofJson? DetectedFeature.ofJson?_toJson r.features
  have hfield : r.toJson.field? "features" =
      some (.array (r.features.map DetectedFeature.toJson)) := rfl
  have hsummary : r.toJson.field? "summary" = some r.summary.toJson := rfl
  have hversions : r.toJson.field? "minimumVersions" = some r.minimumVersions.toJson := rfl
  simp only [ofJson?, hfield, hsummary, hversions, Json.array?, hf, Summary.ofJson?_toJson,
    VersionRecord.ofJson?_toJson, Option.bind_eq_bind, Option.bind_some]

end ScriptFeatures
