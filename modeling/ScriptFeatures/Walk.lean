import ScriptFeatures.Evidence
import ScriptFeatures.Usage.Nodes

namespace ScriptFeatures

open Syntax (Node Span)
open Usage (Use)

/-- How positions in a tree become snippets: the text they point into, the position of its first
byte, and the lines of context to show. -/
structure Citation where
  source : Text.Source
  base : Nat
  context : Nat

namespace Citation

/-- The offset in the text that a position stands for. -/
def offset (c : Citation) (position : Nat) : Nat := position - c.base

/-- The snippet of a place, without the blanks at its end. -/
def snippet (c : Citation) (span : Span) : Text.Snippet :=
  let start := c.offset span.lo
  c.source.snippet start (c.source.trimEnd start (c.offset span.hi)) c.context

end Citation

/-- The state of a walk. -/
structure Walk where
  /-- How many function boundaries stand around the node being visited. -/
  functionDepth : Nat := 0
  evidence : Evidence := .empty
deriving DecidableEq, Inhabited

namespace Walk

/-- Records the snippet of a range of the text. -/
def recordRange (cite : Citation) (s : Walk) (key : String) (start stop : Nat) : Walk :=
  { s with
    evidence := (s.evidence.record key (cite.source.snippet start stop cite.context)).2 }

/-- Records a use, unless its place is a dummy. -/
def recordUse (cite : Citation) (s : Walk) (u : Use) : Walk :=
  if u.span.isDummy then s
  else { s with evidence := (s.evidence.record u.key (cite.snippet u.span)).2 }

/-- Everything that a node shows below `depth` function boundaries. -/
def usesAt (depth : Nat) (n : Node) : List Use :=
  n.uses ++ if depth = 0 then n.awaited?.toList.map (⟨"top-level-await", ·⟩) else []

/-- Visits a node and then its parts. -/
def visit (cite : Citation) (n : Node) (s : Walk) : Walk :=
  let s := (usesAt s.functionDepth n).foldl (recordUse cite) s
  let inner := if n.isFunctionBoundary then { s with functionDepth := s.functionDepth + 1 } else s
  let left := n.children.attach.foldl (fun s c => visit cite c.1 s) inner
  if n.isFunctionBoundary then { left with functionDepth := left.functionDepth - 1 } else left
termination_by sizeOf n
decreasing_by exact Node.sizeOf_lt_of_mem_children c.2

end Walk

/-- The evidence of a whole module. -/
def Evidence.ofModule (cite : Citation) (module : Node) : Evidence :=
  (Walk.visit cite module {}).evidence

end ScriptFeatures
