import ScriptFeatures.Walk
import ScriptFeatures.Report
import ScriptFeatures.Syntax.Outcome

namespace ScriptFeatures

open Syntax (Diagnostic Fault Outcome parseModule withoutMark)
open Text (Source)

/-- How a text is analyzed. -/
structure Options where
  /-- How many lines are shown around each match. -/
  contextLines : Nat := Source.defaultContext
  /-- Whether elements of markup may stand among the expressions. -/
  markup : Bool := false
deriving DecidableEq, Repr, Inhabited

/-- Why a text was not analyzed: what is wrong with it, and on which line and in which column. -/
structure AnalysisError where
  fault : Fault
  line : Nat
  column : Nat
deriving DecidableEq, Repr, Inhabited

namespace AnalysisError

def message (e : AnalysisError) : String :=
  "source could not be parsed: " ++ e.fault.message
    ++ " (line " ++ toString e.line ++ ", column " ++ toString e.column ++ ")"

/-- A diagnostic with its place in the text. Positions in it count from `base`. -/
def ofDiagnostic (source : Source) (base : Nat) (d : Diagnostic) : AnalysisError :=
  let (line, column) := source.position (d.offset - base)
  ⟨d.fault, line, column⟩

end AnalysisError

/-- The offsets of a `#!` line at the very start of a text. It ends at a line feed. -/
def hashbang? (text : List Char) : Option (Nat × Nat) :=
  if ['#', '!'].isPrefixOf text then
    some (0, Text.byteLength (text.takeWhile (· != '\n')))
  else none

namespace Analysis

/-- The position of the first byte of a text that is analyzed. Positions before it belong to no
text. -/
def base : Nat := 1

/-- The evidence in a text: its `#!` line, if it has one, and what its module shows. -/
def evidence (cite : Citation) (module : Syntax.Node) : Evidence :=
  let start : Walk := {}
  let start := match hashbang? cite.source.chars with
    | some (first, last) => start.recordRange cite "hashbang" first last
    | none => start
  (start.visit cite module).evidence

/-- The report on a text, by what the parser made of it. -/
def ofOutcome (source : Source) (contextLines : Nat) (outcome : Outcome) :
    Except AnalysisError Report :=
  match outcome.accept with
  | .error d => .error (.ofDiagnostic source base d)
  | .ok module => .ok (.ofEvidence (evidence ⟨source, base, contextLines⟩ module))

end Analysis

/-- Analyzes a text. A mark before its first character is no part of it. -/
def analyze (options : Options) (text : String) : Except AnalysisError Report :=
  let source : Source := { chars := withoutMark text.toList }
  Analysis.ofOutcome source options.contextLines
    (parseModule options.markup Analysis.base source.chars)

end ScriptFeatures
