import ScriptFeatures.Catalogue.Feature

namespace ScriptFeatures.Catalogue

/-- Objects that the language provides. -/
def builtInObjects : List Feature := [
  { key := "promises"
    displayName := "Promises"
    description :=
      "The Promise constructor and its combinators"
    support := ⟨"32+", "29+", "8+", "12+", "No"⟩ },
  { key := "map"
    displayName := "Map"
    description :=
      "Keyed collection with insertion order"
    support := ⟨"38+", "13+", "8+", "12+", "11*"⟩
    notes := some
      "Internet Explorer 11 ignores the iterable constructor argument." },
  { key := "set"
    displayName := "Set"
    description :=
      "Collection of unique values"
    support := ⟨"38+", "13+", "8+", "12+", "11*"⟩
    notes := some
      "Internet Explorer 11 ignores the iterable constructor argument." },
  { key := "weakmap"
    displayName := "WeakMap"
    description :=
      "Map with weakly held object keys"
    support := ⟨"36+", "6+", "8+", "12+", "11*"⟩
    notes := some
      "Internet Explorer 11 ignores the iterable constructor argument." },
  { key := "weakset"
    displayName := "WeakSet"
    description :=
      "Set of weakly held objects"
    support := ⟨"36+", "34+", "9+", "12+", "No"⟩ },
  { key := "proxy"
    displayName := "Proxy"
    description :=
      "Intercepts fundamental operations on an object"
    support := ⟨"49+", "18+", "10+", "12+", "No"⟩ },
  { key := "reflect"
    displayName := "Reflect"
    description :=
      "Namespace of interceptable object operations"
    support := ⟨"49+", "42+", "10+", "12+", "No"⟩ },
  { key := "symbol"
    displayName := "Symbol"
    description :=
      "Unique primitive values and well-known symbols"
    support := ⟨"38+", "36+", "9+", "12+", "No"⟩ },
  { key := "weakref"
    displayName := "WeakRef"
    description :=
      "Weak references to objects"
    support := ⟨"84+", "79+", "14.1+", "84+", "No"⟩ },
  { key := "finalization-registry"
    displayName := "FinalizationRegistry"
    description :=
      "Callbacks after objects are garbage collected"
    support := ⟨"84+", "79+", "14.1+", "84+", "No"⟩ },
  { key := "aggregate-error"
    displayName := "AggregateError"
    description :=
      "An error wrapping several errors"
    support := ⟨"85+", "79+", "14+", "85+", "No"⟩ },
  { key := "shared-array-buffer"
    displayName := "SharedArrayBuffer"
    description :=
      "Memory shared between workers"
    support := ⟨"68+", "79+", "15.2+", "79+", "No"⟩
    notes := some
      "Requires cross-origin isolation in browsers." },
  { key := "typed-arrays"
    displayName := "Typed arrays"
    description :=
      "ArrayBuffer, DataView and the typed array views"
    support := ⟨"7+", "4+", "5.1+", "12+", "10+"⟩ },
  { key := "error-cause"
    displayName := "Error cause"
    description :=
      "new Error(message, \x7b cause \x7d) chains errors"
    support := ⟨"93+", "91+", "15+", "93+", "No"⟩
    notes := some
      "Reported for any error constructed with an object literal options argument." },
  { key := "globalthis"
    displayName := "globalThis"
    description :=
      "Standard reference to the global object"
    support := ⟨"71+", "65+", "12.1+", "79+", "No"⟩ },
  { key := "structured-clone"
    displayName := "structuredClone"
    description :=
      "Deep copies values using the structured clone algorithm"
    support := ⟨"98+", "94+", "15.4+", "98+", "No"⟩ }]

/-- Functions that hang on a built-in object. -/
def staticMethods : List Feature := [
  { key := "object-assign"
    displayName := "Object.assign"
    description :=
      "Copies own enumerable properties onto a target"
    support := ⟨"45+", "34+", "9+", "12+", "No"⟩ },
  { key := "object-entries-values"
    displayName := "Object.entries / Object.values"
    description :=
      "Arrays of an object's own enumerable values or entries"
    support := ⟨"54+", "47+", "10.1+", "14+", "No"⟩ },
  { key := "object-from-entries"
    displayName := "Object.fromEntries"
    description :=
      "Builds an object from key/value pairs"
    support := ⟨"73+", "63+", "12.1+", "79+", "No"⟩ },
  { key := "object-get-own-property-descriptors"
    displayName := "Object.getOwnPropertyDescriptors"
    description :=
      "All own property descriptors of an object"
    support := ⟨"54+", "50+", "10+", "15+", "No"⟩ },
  { key := "object-has-own"
    displayName := "Object.hasOwn"
    description :=
      "Checks for an own property without hasOwnProperty"
    support := ⟨"93+", "92+", "15.4+", "93+", "No"⟩ },
  { key := "array-grouping"
    displayName := "Object.groupBy / Map.groupBy"
    description :=
      "Groups iterable items by a callback result"
    support := ⟨"117+", "119+", "17.4+", "117+", "No"⟩ },
  { key := "array-from"
    displayName := "Array.from"
    description :=
      "Creates an array from an iterable or array-like"
    support := ⟨"45+", "32+", "9+", "12+", "No"⟩ },
  { key := "array-of"
    displayName := "Array.of"
    description :=
      "Creates an array from its arguments"
    support := ⟨"45+", "25+", "9+", "12+", "No"⟩ },
  { key := "array-from-async"
    displayName := "Array.fromAsync"
    description :=
      "Creates an array from an async iterable"
    support := ⟨"121+", "115+", "16.4+", "121+", "No"⟩ },
  { key := "promise-all-settled"
    displayName := "Promise.allSettled"
    description :=
      "Waits for every promise to settle"
    support := ⟨"76+", "71+", "13+", "79+", "No"⟩ },
  { key := "promise-any"
    displayName := "Promise.any"
    description :=
      "Resolves with the first fulfilled promise"
    support := ⟨"85+", "79+", "14+", "85+", "No"⟩ },
  { key := "promise-with-resolvers"
    displayName := "Promise.withResolvers"
    description :=
      "A promise together with its resolve and reject functions"
    support := ⟨"119+", "121+", "17.4+", "119+", "No"⟩ },
  { key := "promise-finally"
    displayName := "Promise.prototype.finally"
    description :=
      "Runs a callback when a promise settles either way"
    support := ⟨"63+", "58+", "11.1+", "18+", "No"⟩ },
  { key := "number-methods"
    displayName := "ES2015 Number methods"
    description :=
      "Number.isInteger, Number.isSafeInteger, Number.isNaN and friends"
    support := ⟨"34+", "16+", "9+", "12+", "No"⟩ },
  { key := "math-methods"
    displayName := "ES2015 Math methods"
    description :=
      "Math.trunc, Math.sign, Math.hypot and friends"
    support := ⟨"38+", "25+", "8+", "12+", "No"⟩ }]

/-- Methods of values. -/
def instanceMethods : List Feature := [
  { key := "array-includes"
    displayName := "Array.prototype.includes"
    description :=
      "Tests whether an array contains a value"
    support := ⟨"47+", "43+", "9+", "14+", "No"⟩
    notes := some
      "Reported for every .includes() call because the receiver type is unknown." },
  { key := "string-includes"
    displayName := "String.prototype.includes"
    description :=
      "Tests whether a string contains a substring"
    support := ⟨"41+", "40+", "9+", "12+", "No"⟩
    notes := some
      "Reported for every .includes() call because the receiver type is unknown." },
  { key := "array-at"
    displayName := "Array.prototype.at"
    description :=
      "Relative indexing with negative offsets"
    support := ⟨"92+", "90+", "15.4+", "92+", "No"⟩
    notes := some
      "Reported for every .at() call because the receiver type is unknown." },
  { key := "string-at"
    displayName := "String.prototype.at"
    description :=
      "Relative character indexing with negative offsets"
    support := ⟨"92+", "90+", "15.4+", "92+", "No"⟩
    notes := some
      "Reported for every .at() call because the receiver type is unknown." },
  { key := "typed-array-at"
    displayName := "TypedArray.prototype.at"
    description :=
      "Relative indexing on typed arrays"
    support := ⟨"92+", "90+", "15.4+", "92+", "No"⟩
    notes := some
      "Reported for every .at() call because the receiver type is unknown." },
  { key := "array-with"
    displayName := "Array.prototype.with"
    description :=
      "Copy of an array with one element replaced"
    support := ⟨"110+", "115+", "16+", "110+", "No"⟩
    notes := some
      "Reported for every .with() call because the receiver type is unknown." },
  { key := "typed-array-with"
    displayName := "TypedArray.prototype.with"
    description :=
      "Copy of a typed array with one element replaced"
    support := ⟨"110+", "115+", "16+", "110+", "No"⟩
    notes := some
      "Reported for every .with() call because the receiver type is unknown." },
  { key := "array-flat"
    displayName := "Array.prototype.flat / flatMap"
    description :=
      "Flattens nested arrays"
    support := ⟨"69+", "62+", "12+", "79+", "No"⟩ },
  { key := "array-find-last"
    displayName := "Array.prototype.findLast / findLastIndex"
    description :=
      "Searches an array from the end"
    support := ⟨"97+", "104+", "15.4+", "97+", "No"⟩ },
  { key := "array-change-by-copy"
    displayName := "Change array by copy"
    description :=
      "toSorted, toReversed and toSpliced return new arrays"
    support := ⟨"110+", "115+", "16+", "110+", "No"⟩ },
  { key := "array-find"
    displayName := "Array.prototype.find / findIndex"
    description :=
      "First element or index matching a predicate"
    support := ⟨"45+", "25+", "7.1+", "12+", "No"⟩ },
  { key := "array-fill"
    displayName := "Array.prototype.fill"
    description :=
      "Fills a range of an array with a value"
    support := ⟨"45+", "31+", "7.1+", "12+", "No"⟩ },
  { key := "string-padding"
    displayName := "String.prototype.padStart / padEnd"
    description :=
      "Pads a string to a target length"
    support := ⟨"57+", "48+", "10+", "15+", "No"⟩ },
  { key := "string-trim-start-end"
    displayName := "String.prototype.trimStart / trimEnd"
    description :=
      "Removes whitespace from one end of a string"
    support := ⟨"66+", "61+", "12+", "79+", "No"⟩ },
  { key := "string-replace-all"
    displayName := "String.prototype.replaceAll"
    description :=
      "Replaces every occurrence of a pattern"
    support := ⟨"85+", "77+", "13.1+", "85+", "No"⟩ },
  { key := "string-match-all"
    displayName := "String.prototype.matchAll"
    description :=
      "Iterator over all regular expression matches"
    support := ⟨"73+", "67+", "13+", "79+", "No"⟩ },
  { key := "string-starts-ends-with"
    displayName := "String.prototype.startsWith / endsWith"
    description :=
      "Tests a string prefix or suffix"
    support := ⟨"41+", "17+", "9+", "12+", "No"⟩ },
  { key := "string-repeat"
    displayName := "String.prototype.repeat"
    description :=
      "Concatenates copies of a string"
    support := ⟨"41+", "24+", "9+", "12+", "No"⟩ },
  { key := "string-well-formed"
    displayName := "String.prototype.isWellFormed / toWellFormed"
    description :=
      "Detects and replaces lone surrogates"
    support := ⟨"111+", "119+", "16.4+", "111+", "No"⟩ },
  { key := "set-methods"
    displayName := "Set methods"
    description :=
      "union, intersection, difference and related Set operations"
    support := ⟨"122+", "127+", "17+", "122+", "No"⟩ }]

end ScriptFeatures.Catalogue
