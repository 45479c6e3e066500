import ScriptFeatures.Catalogue.Feature

namespace ScriptFeatures.Catalogue

/-- Functions and their parameters. -/
def functions : List Feature := [
  { key := "arrow-functions"
    displayName := "Arrow functions"
    description :=
      "Concise function expressions with lexical this: (a) => a * 2"
    support := ⟨"45+", "22+", "10+", "12+", "No"⟩ },
  { key := "default-parameters"
    displayName := "Default parameters"
    description :=
      "Parameters initialized with a default value when undefined is passed"
    support := ⟨"49+", "15+", "10+", "14+", "No"⟩ },
  { key := "rest-parameters"
    displayName := "Rest parameters"
    description :=
      "Collects remaining arguments into an array: function f(...args)"
    support := ⟨"47+", "15+", "10+", "12+", "No"⟩ },
  { key := "generators"
    displayName := "Generator functions"
    description :=
      "function* declarations and generator methods that can yield"
    support := ⟨"39+", "26+", "10+", "13+", "No"⟩ },
  { key := "async-functions"
    displayName := "Async functions"
    description :=
      "async function declarations, expressions, methods and arrows"
    support := ⟨"55+", "52+", "10.1+", "15+", "No"⟩ },
  { key := "await"
    displayName := "await expressions"
    description :=
      "Suspends an async function until a promise settles"
    support := ⟨"55+", "52+", "10.1+", "15+", "No"⟩ },
  { key := "async-generators"
    displayName := "Async generators"
    description :=
      "async function* producing an async iterator"
    support := ⟨"63+", "55+", "12+", "79+", "No"⟩ },
  { key := "for-await-of"
    displayName := "for await...of"
    description :=
      "Iterates over async iterables"
    support := ⟨"63+", "57+", "11.1+", "79+", "No"⟩ },
  { key := "top-level-await"
    displayName := "Top-level await"
    description :=
      "await used at module top level outside any function"
    support := ⟨"89+", "89+", "15+", "89+", "No"⟩
    notes := some
      "Only valid in ES modules." },
  { key := "new-target"
    displayName := "new.target"
    description :=
      "Detects whether a function was called with new"
    support := ⟨"46+", "41+", "10+", "13+", "No"⟩ }]

/-- Declarations of variables and resources. -/
def declarations : List Feature := [
  { key := "let"
    displayName := "let declarations"
    description :=
      "Block-scoped mutable variable declarations"
    support := ⟨"49+", "44+", "10+", "14+", "11*"⟩
    notes := some
      "Internet Explorer 11 lacks per-iteration bindings in for loops." },
  { key := "const"
    displayName := "const declarations"
    description :=
      "Block-scoped constant declarations"
    support := ⟨"49+", "36+", "10+", "14+", "11*"⟩
    notes := some
      "Internet Explorer 11 lacks per-iteration bindings in for loops." },
  { key := "explicit-resource-management"
    displayName := "using declarations"
    description :=
      "using and await using declarations that dispose resources at scope exit"
    support := ⟨"134+", "141+", "No", "134+", "No"⟩ },
  { key := "destructuring"
    displayName := "Destructuring assignment"
    description :=
      "Unpacks values from arrays or properties from objects into bindings"
    support := ⟨"49+", "41+", "8+", "14+", "No"⟩ }]

/-- Classes, their members and decorators. -/
def classes : List Feature := [
  { key := "classes"
    displayName := "Classes"
    description :=
      "class declarations and expressions"
    support := ⟨"49+", "45+", "9+", "13+", "No"⟩ },
  { key := "class-fields"
    displayName := "Public class fields"
    description :=
      "Instance properties declared in the class body"
    support := ⟨"72+", "69+", "14+", "79+", "No"⟩ },
  { key := "static-class-fields"
    displayName := "Static class fields"
    description :=
      "static properties declared in the class body"
    support := ⟨"72+", "75+", "14.1+", "79+", "No"⟩ },
  { key := "private-class-fields"
    displayName := "Private class fields"
    description :=
      "#private properties only reachable inside the class"
    support := ⟨"74+", "90+", "14.1+", "79+", "No"⟩ },
  { key := "private-methods"
    displayName := "Private methods"
    description :=
      "#private methods and accessors"
    support := ⟨"84+", "90+", "15+", "84+", "No"⟩ },
  { key := "class-static-blocks"
    displayName := "Class static initialization blocks"
    description :=
      "static \x7b ... \x7d blocks run once when the class is evaluated"
    support := ⟨"94+", "93+", "16.4+", "94+", "No"⟩ },
  { key := "private-in"
    displayName := "Private brand checks"
    description :=
      "#field in obj tests whether an object has a private member"
    support := ⟨"91+", "90+", "15+", "91+", "No"⟩ },
  { key := "decorators"
    displayName := "Decorators"
    description :=
      "@decorator syntax on classes and class members"
    support := ⟨"No", "No", "No", "No", "No"⟩
    notes := some
      "Stage 3 proposal; requires a transpiler." }]

/-- Literals and operators. -/
def literalsAndOperators : List Feature := [
  { key := "template-literals"
    displayName := "Template literals"
    description :=
      "Backtick strings with $\x7b\x7d interpolation"
    support := ⟨"41+", "34+", "9+", "12+", "No"⟩ },
  { key := "tagged-templates"
    displayName := "Tagged templates"
    description :=
      "Template literals processed by a tag function: tag`text`"
    support := ⟨"41+", "34+", "9+", "12+", "No"⟩ },
  { key := "string-raw"
    displayName := "String.raw"
    description :=
      "Raw template string tag"
    support := ⟨"41+", "34+", "9+", "12+", "No"⟩ },
  { key := "spread-syntax"
    displayName := "Spread syntax"
    description :=
      "Expands iterables into array literals and call arguments"
    support := ⟨"46+", "16+", "8+", "12+", "No"⟩ },
  { key := "object-rest-spread"
    displayName := "Object rest/spread properties"
    description :=
      "\x7b ...obj \x7d in object literals and rest properties in object patterns"
    support := ⟨"60+", "55+", "11.1+", "79+", "No"⟩ },
  { key := "shorthand-properties"
    displayName := "Shorthand property names"
    description :=
      "\x7b a \x7d as shorthand for \x7b a: a \x7d"
    support := ⟨"43+", "33+", "9+", "12+", "No"⟩ },
  { key := "computed-properties"
    displayName := "Computed property names"
    description :=
      "\x7b [expr]: value \x7d in object literals, classes and patterns"
    support := ⟨"47+", "34+", "8+", "12+", "No"⟩ },
  { key := "method-definitions"
    displayName := "Method definitions"
    description :=
      "Shorthand method syntax in object literals: \x7b m() \x7b\x7d \x7d"
    support := ⟨"39+", "34+", "9+", "12+", "No"⟩ },
  { key := "exponentiation"
    displayName := "Exponentiation operator"
    description :=
      "a ** b and a **= b"
    support := ⟨"52+", "52+", "10.1+", "14+", "No"⟩ },
  { key := "optional-chaining"
    displayName := "Optional chaining"
    description :=
      "a?.b, a?.[b] and a?.() short-circuit on null or undefined"
    support := ⟨"80+", "74+", "13.1+", "80+", "No"⟩ },
  { key := "nullish-coalescing"
    displayName := "Nullish coalescing"
    description :=
      "a ?? b falls back only on null or undefined"
    support := ⟨"80+", "72+", "13.1+", "80+", "No"⟩ },
  { key := "logical-assignment"
    displayName := "Logical assignment"
    description :=
      "&&=, ||= and ??= operators"
    support := ⟨"85+", "79+", "14+", "85+", "No"⟩ },
  { key := "numeric-separators"
    displayName := "Numeric separators"
    description :=
      "Underscores between digits: 1_000_000"
    support := ⟨"75+", "70+", "13+", "79+", "No"⟩ },
  { key := "binary-octal-literals"
    displayName := "Binary and octal literals"
    description :=
      "0b1010 and 0o755 number literals"
    support := ⟨"41+", "25+", "9+", "12+", "No"⟩ },
  { key := "unicode-code-point-escapes"
    displayName := "Unicode code point escapes"
    description :=
      "\\u\x7b1F600\x7d escapes in string literals"
    support := ⟨"44+", "40+", "9+", "12+", "No"⟩ },
  { key := "bigint"
    displayName := "BigInt"
    description :=
      "Arbitrary precision integers: 10n and BigInt()"
    support := ⟨"67+", "68+", "14+", "79+", "No"⟩ }]

/-- Loops and exceptions. -/
def controlFlow : List Feature := [
  { key := "for-of"
    displayName := "for...of loops"
    description :=
      "Iterates over iterable objects"
    support := ⟨"38+", "13+", "7+", "12+", "No"⟩ },
  { key := "optional-catch-binding"
    displayName := "Optional catch binding"
    description :=
      "try \x7b \x7d catch \x7b \x7d without an error binding"
    support := ⟨"66+", "58+", "11.1+", "79+", "No"⟩ }]

/-- Modules and scripts. -/
def modules : List Feature := [
  { key := "es-modules"
    displayName := "ES modules"
    description :=
      "Static import and export declarations"
    support := ⟨"61+", "60+", "10.1+", "16+", "No"⟩ },
  { key := "dynamic-import"
    displayName := "Dynamic import"
    description :=
      "import() loading a module on demand"
    support := ⟨"63+", "67+", "11.1+", "79+", "No"⟩ },
  { key := "import-meta"
    displayName := "import.meta"
    description :=
      "Module metadata such as import.meta.url"
    support := ⟨"64+", "62+", "11.1+", "79+", "No"⟩ },
  { key := "hashbang"
    displayName := "Hashbang comment"
    description :=
      "#! interpreter line at the very start of the source"
    support := ⟨"74+", "67+", "13.1+", "79+", "No"⟩ }]

/-- Regular expressions. -/
def regularExpressions : List Feature := [
  { key := "regex-dotall"
    displayName := "RegExp dotAll flag"
    description :=
      "The s flag makes . match line terminators"
    support := ⟨"62+", "78+", "11.1+", "79+", "No"⟩ },
  { key := "regex-sticky"
    displayName := "RegExp sticky flag"
    description :=
      "The y flag matches only at lastIndex"
    support := ⟨"49+", "3+", "10+", "13+", "No"⟩ },
  { key := "regex-unicode"
    displayName := "RegExp unicode flag"
    description :=
      "The u flag enables full Unicode matching"
    support := ⟨"50+", "46+", "10+", "12+", "No"⟩ },
  { key := "regex-match-indices"
    displayName := "RegExp match indices"
    description :=
      "The d flag records start and end indices of captures"
    support := ⟨"90+", "88+", "15+", "90+", "No"⟩ },
  { key := "regex-unicode-sets"
    displayName := "RegExp unicodeSets flag"
    description :=
      "The v flag enables set notation and string properties"
    support := ⟨"112+", "116+", "17+", "112+", "No"⟩ },
  { key := "regex-named-groups"
    displayName := "RegExp named capture groups"
    description :=
      "(?<name>...) groups readable through match.groups"
    support := ⟨"64+", "78+", "11.1+", "79+", "No"⟩ },
  { key := "regex-lookbehind"
    displayName := "RegExp lookbehind assertions"
    description :=
      "(?<=...) and (?<!...) assertions"
    support := ⟨"62+", "78+", "16.4+", "79+", "No"⟩ },
  { key := "regex-unicode-property-escapes"
    displayName := "RegExp Unicode property escapes"
    description :=
      "\\p\x7b...\x7d and \\P\x7b...\x7d character classes"
    support := ⟨"64+", "78+", "11.1+", "79+", "No"⟩ }]

end ScriptFeatures.Catalogue
