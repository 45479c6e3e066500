import ScriptFeatures.Main
import ScriptFeatures.Proofs.Decimal.Order
import ScriptFeatures.Proofs.Evidence.Order
import ScriptFeatures.Proofs.Evidence.Recording
import ScriptFeatures.Proofs.Evidence.Union
import ScriptFeatures.Proofs.Report.Completeness
import ScriptFeatures.Proofs.Report.Composition
import ScriptFeatures.Proofs.Report.Radius
import ScriptFeatures.Proofs.Report.Versions
import ScriptFeatures.Proofs.Syntax.Occurrence
import ScriptFeatures.Proofs.Text.Context
import ScriptFeatures.Proofs.Text.Excerpt
import ScriptFeatures.Proofs.Text.Line
import ScriptFeatures.Proofs.Text.Offset
import ScriptFeatures.Proofs.Text.Order
import ScriptFeatures.Proofs.Usage.Keys
import ScriptFeatures.Proofs.Walk.Coverage
import ScriptFeatures.Proofs.Walk.Locations
import ScriptFeatures.Proofs.Walk.Scope
import ScriptFeatures.Proofs.Usage.Companions
import ScriptFeatures.Proofs.Walk.Companions
import ScriptFeatures.Proofs.Evidence.OrderedMap
import ScriptFeatures.Proofs.Text.Checked
import ScriptFeatures.Proofs.Walk.Checked
import ScriptFeatures.Proofs.Decimal.Rounding
import ScriptFeatures.Proofs.Decimal.Shortest
import ScriptFeatures.Proofs.Report.Slot
import ScriptFeatures.Proofs.Report.Matrix
import ScriptFeatures.Proofs.Report.Growth
import ScriptFeatures.Proofs.Report.Restriction
import ScriptFeatures.Proofs.Syntax.Relocation
import ScriptFeatures.Proofs.Text.Prefix
import ScriptFeatures.Proofs.Report.Marks
import ScriptFeatures.Proofs.Json.Grammar
import ScriptFeatures.Proofs.Json.Printing
import ScriptFeatures.Proofs.Json.Report
import ScriptFeatures.Proofs.CommandLine.Output
import ScriptFeatures.Proofs.Usage.Kinds
import ScriptFeatures.Proofs.Walk.Parameters
import ScriptFeatures.Proofs.Text.Backslash
import ScriptFeatures.Proofs.Walk.Escapes
import ScriptFeatures.Proofs.Syntax.Parts
import ScriptFeatures.Proofs.Usage.Parts
import ScriptFeatures.Proofs.Walk.Shorthand
import ScriptFeatures.Proofs.Text.Locality
import ScriptFeatures.Proofs.Text.Position
import ScriptFeatures.Proofs.Report.Errors
import ScriptFeatures.Proofs.Text.Trimming
import ScriptFeatures.Proofs.Usage.Calls
import ScriptFeatures.Proofs.Walk.Heads
import ScriptFeatures.Proofs.Text.TrimEnd
import ScriptFeatures.Proofs.Report.Acceptance
import ScriptFeatures.Proofs.Syntax.Positions
import ScriptFeatures.Proofs.Walk.Translation
import ScriptFeatures.Proofs.Report.Floor
import ScriptFeatures.Proofs.Text.Search
import ScriptFeatures.Proofs.Walk.Groups
