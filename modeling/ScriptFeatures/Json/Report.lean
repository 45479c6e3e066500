import ScriptFeatures.Json.Value
import ScriptFeatures.Report

namespace ScriptFeatures

open Text (Snippet)

def Text.Snippet.toJson (s : Snippet) : Json :=
  .object [("matchLine", .number s.matchLine), ("matchColumn", .number s.matchColumn),
    ("matchLength", .number s.matchLength), ("matchText", .string s.matchText),
    ("contextStartLine", .number s.contextStartLine), ("contextText", .string s.contextText)]

def VersionRecord.toJson (r : VersionRecord) : Json :=
  .object (Browser.all.map fun b => (b.name, .string (r.get b)))

/-- The fields of a feature; `notes` is there only if the feature has some. -/
def Feature.jsonFields (f : Feature) : List (String × Json) :=
  [("key", .string f.key), ("displayName", .string f.displayName),
    ("description", .string f.description), ("support", f.support.toJson)]
    ++ f.notes.toList.map fun n => ("notes", .string n)

def Feature.toJson (f : Feature) : Json := .object f.jsonFields

def DetectedFeature.toJson (d : DetectedFeature) : Json :=
  .object (d.feature.jsonFields ++ [("snippets", .array (d.snippets.map Snippet.toJson))])

def Summary.toJson (s : Summary) : Json :=
  .object [("totalFeatures", .number s.totalFeatures),
    ("modernOnlyFeatures", .number s.modernOnlyFeatures),
    ("allFeaturesLegacyCompatible", .bool s.allFeaturesLegacyCompatible)]

def Report.toJson (r : Report) : Json :=
  .object [("features", .array (r.features.map DetectedFeature.toJson)),
    ("summary", r.summary.toJson), ("minimumVersions", r.minimumVersions.toJson)]

/-- The catalogue as it is listed. -/
def Catalogue.toJson : Json := .array (all.map Feature.toJson)

end ScriptFeatures
