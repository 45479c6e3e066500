import ScriptFeatures.Catalogue.Language
import ScriptFeatures.Catalogue.Library

namespace ScriptFeatures.Catalogue

/-- All features, the language before the library. -/
def all : List Feature :=
  functions ++ declarations ++ classes ++ literalsAndOperators ++ controlFlow ++ modules
    ++ regularExpressions ++ builtInObjects ++ staticMethods ++ instanceMethods

/-- The feature of a key, if the key is catalogued. -/
def lookup? (key : String) : Option Feature := all.find? (·.key == key)

end ScriptFeatures.Catalogue
