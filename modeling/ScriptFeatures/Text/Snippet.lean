import ScriptFeatures.Text.Source

namespace ScriptFeatures.Text

/-- A cited range. Lines count from one, columns from zero; columns and lengths are in
characters. -/
structure Snippet where
  matchLine : Nat
  matchColumn : Nat
  matchLength : Nat
  matchText : String
  contextStartLine : Nat
  contextText : String
deriving DecidableEq, Inhabited

namespace Snippet

/-- Field by field; texts are compared by code points, which is the order of their UTF-8 bytes. -/
protected def compare (a b : Snippet) : Ordering :=
  compare a.matchLine b.matchLine
    |>.then (compare a.matchColumn b.matchColumn)
    |>.then (compare a.matchLength b.matchLength)
    |>.then (compare a.matchText b.matchText)
    |>.then (compare a.contextStartLine b.contextStartLine)
    |>.then (compare a.contextText b.contextText)

instance : Ord Snippet := ⟨Snippet.compare⟩

end Snippet

namespace Source

/-- How many lines are shown on each side of a match when nothing else is asked for. -/
def defaultContext : Nat := 2

/-- Cites a range with `context` lines on each side. A range that ends before its start cites the
empty text at its start. -/
def snippet (s : Source) (start stop context : Nat) : Snippet :=
  let start := s.clamp start
  let stop := max (s.clamp stop) start
  let first := s.lineOf start
  let last := s.lineOf stop
  let contextFirst := first - context
  let contextLast := min (last + context) (s.lineCount - 1)
  let matched := (s.slice? start stop).getD []
  let around := (s.slice? (s.lineStart contextFirst) (s.lineEnd contextLast)).getD []
  { matchLine := first + 1
    matchColumn := s.columnIn first start
    matchLength := matched.length
    matchText := String.ofList matched
    contextStartLine := contextFirst + 1
    contextText := String.ofList around }

end Source
end ScriptFeatures.Text
