import ScriptFeatures.Catalogue.Lookup
import ScriptFeatures.Evidence

namespace ScriptFeatures

open Text (Snippet)
open Decimal (Magnitude)

/-- A catalogued feature with the places that use it. -/
structure DetectedFeature where
  feature : Feature
  snippets : List Snippet
deriving DecidableEq, Inhabited

/-- Counts over a list of features. -/
structure Summary where
  totalFeatures : Nat
  /-- How many features the legacy browser lacks or has in part. -/
  modernOnlyFeatures : Nat
  /-- Whether the legacy browser lacks none of them entirely. -/
  allFeaturesLegacyCompatible : Bool
deriving DecidableEq, Repr, Inhabited

namespace Summary

/-- Whether a feature is missing or partial in the legacy browser. -/
def isModernOnly (f : Feature) : Bool :=
  Slot.isUnsupported f.support.legacy || Slot.isPartial f.support.legacy

/-- Summarises a list of features. -/
def ofFeatures (fs : List Feature) : Summary where
  totalFeatures := fs.length
  modernOnlyFeatures := fs.countP isModernOnly
  allFeaturesLegacyCompatible := fs.all fun f => !Slot.isUnsupported f.support.legacy

end Summary

/-- The largest of the numbers, if there are any. -/
def largest? (ns : List Magnitude) : Option Magnitude :=
  ns.foldl (fun best n => some (best.elim n (max · n))) none

/-- The floors that the features have for a browser. -/
def floors (fs : List Feature) (b : Browser) : List Magnitude :=
  fs.filterMap fun f => Slot.floor? (f.support.get b)

/-- The slot that asks for a version or a later one; without a version there is no support. -/
def Slot.ofFloor? : Option Magnitude → String
  | some n => n.text ++ "+"
  | none => unsupported

/-- For each browser the least version that has all the features: the largest of their floors. -/
def minimumVersions (fs : List Feature) : VersionRecord :=
  .ofFn fun b => Slot.ofFloor? (largest? (floors fs b))

/-- What an analysis answers. -/
structure Report where
  features : List DetectedFeature
  summary : Summary
  minimumVersions : VersionRecord
deriving DecidableEq, Inhabited

namespace Report

/-- Looks the detected keys up in the catalogue; keys that it does not have are left out. -/
def ofEvidence (e : Evidence) : Report :=
  let detected := e.entries.filterMap fun (key, snippets) =>
    (Catalogue.lookup? key).map (⟨·, snippets⟩)
  let features := detected.map (·.feature)
  { features := detected
    summary := .ofFeatures features
    minimumVersions := ScriptFeatures.minimumVersions features }

end Report
end ScriptFeatures
