namespace ScriptFeatures.Usage

/-- What `new X(…)` shows for a built-in constructor. -/
def constructors : List (String × String) := [
  ("Promise", "promises"), ("Map", "map"), ("Set", "set"), ("WeakMap", "weakmap"),
  ("WeakSet", "weakset"), ("Proxy", "proxy"), ("WeakRef", "weakref"),
  ("FinalizationRegistry", "finalization-registry"), ("AggregateError", "aggregate-error"),
  ("SharedArrayBuffer", "shared-array-buffer"), ("ArrayBuffer", "typed-arrays"),
  ("DataView", "typed-arrays"), ("Int8Array", "typed-arrays"), ("Uint8Array", "typed-arrays"),
  ("Uint8ClampedArray", "typed-arrays"), ("Int16Array", "typed-arrays"),
  ("Uint16Array", "typed-arrays"), ("Int32Array", "typed-arrays"),
  ("Uint32Array", "typed-arrays"), ("Float32Array", "typed-arrays"),
  ("Float64Array", "typed-arrays"), ("BigInt64Array", "typed-arrays"),
  ("BigUint64Array", "typed-arrays")]

/-- The constructors that take an object with a cause as their second argument. -/
def errorConstructors : List String := [
  "Error", "EvalError", "RangeError", "ReferenceError", "SyntaxError", "TypeError", "URIError"]

/-- What `X.f(…)` shows for functions of a built-in object. -/
def builtinFunctions : List (String × List String × String) := [
  ("Object", ["assign"], "object-assign"),
  ("Object", ["entries", "values"], "object-entries-values"),
  ("Object", ["fromEntries"], "object-from-entries"),
  ("Object", ["getOwnPropertyDescriptors"], "object-get-own-property-descriptors"),
  ("Object", ["hasOwn"], "object-has-own"),
  ("Object", ["groupBy"], "array-grouping"),
  ("Map", ["groupBy"], "array-grouping"),
  ("Array", ["from"], "array-from"),
  ("Array", ["of"], "array-of"),
  ("Array", ["fromAsync"], "array-from-async"),
  ("Promise", ["all", "race", "resolve", "reject"], "promises"),
  ("Promise", ["allSettled"], "promise-all-settled"),
  ("Promise", ["any"], "promise-any"),
  ("Promise", ["withResolvers"], "promise-with-resolvers"),
  ("Number",
    ["isInteger", "isSafeInteger", "isFinite", "isNaN", "parseFloat", "parseInt"],
    "number-methods"),
  ("Math",
    ["trunc", "sign", "cbrt", "log2", "log10", "log1p", "expm1", "hypot", "imul", "fround",
      "clz32", "sinh", "cosh", "tanh", "asinh", "acosh", "atanh"],
    "math-methods"),
  ("String", ["raw"], "string-raw")]

/-- What `x.f(…)` shows when nothing is known of `x`: each type that has such a method. -/
def methods : List (String × List String) := [
  ("includes", ["array-includes", "string-includes"]),
  ("at", ["array-at", "string-at", "typed-array-at"]),
  ("with", ["array-with", "typed-array-with"]), ("flat", ["array-flat"]),
  ("flatMap", ["array-flat"]), ("findLast", ["array-find-last"]),
  ("findLastIndex", ["array-find-last"]), ("toSorted", ["array-change-by-copy"]),
  ("toReversed", ["array-change-by-copy"]), ("toSpliced", ["array-change-by-copy"]),
  ("find", ["array-find"]), ("findIndex", ["array-find"]), ("fill", ["array-fill"]),
  ("padStart", ["string-padding"]), ("padEnd", ["string-padding"]),
  ("trimStart", ["string-trim-start-end"]), ("trimEnd", ["string-trim-start-end"]),
  ("replaceAll", ["string-replace-all"]), ("matchAll", ["string-match-all"]),
  ("startsWith", ["string-starts-ends-with"]), ("endsWith", ["string-starts-ends-with"]),
  ("repeat", ["string-repeat"]), ("isWellFormed", ["string-well-formed"]),
  ("toWellFormed", ["string-well-formed"]), ("finally", ["promise-finally"]),
  ("union", ["set-methods"]), ("intersection", ["set-methods"]), ("difference", ["set-methods"]),
  ("symmetricDifference", ["set-methods"]), ("isSubsetOf", ["set-methods"]),
  ("isSupersetOf", ["set-methods"]), ("isDisjointFrom", ["set-methods"])]

/-- What reading a global name shows. -/
def globals : List (String × String) := [
  ("globalThis", "globalthis"), ("structuredClone", "structured-clone"), ("Symbol", "symbol"),
  ("Reflect", "reflect"), ("BigInt", "bigint")]

/-- What a flag of a regular expression shows. -/
def regexFlags : List (Char × String) := [
  ('s', "regex-dotall"), ('y', "regex-sticky"), ('u', "regex-unicode"),
  ('d', "regex-match-indices"), ('v', "regex-unicode-sets")]

end ScriptFeatures.Usage
