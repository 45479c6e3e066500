import ScriptFeatures.Catalogue.Support

namespace ScriptFeatures

/-- What is known of a feature: its key, how it is shown, and which browsers have it. -/
structure Feature where
  key : String
  displayName : String
  description : String
  support : VersionRecord
  notes : Option String := none
deriving DecidableEq, Repr, Inhabited

end ScriptFeatures
