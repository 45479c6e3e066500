import ScriptFeatures.Text.Snippet

namespace ScriptFeatures

open Text (Snippet)

/-- Puts a snippet into a strictly increasing list; one that is there already is not repeated. -/
def insertSnippet (s : Snippet) : List Snippet → List Snippet
  | [] => [s]
  | t :: ts =>
    match compare s t with
    | .lt => s :: t :: ts
    | .eq => t :: ts
    | .gt => t :: insertSnippet s ts

/-- Snippets by feature key: the keys in the order of their first recording, the snippets of each
in a strictly increasing list. -/
structure Evidence where
  entries : List (String × List Snippet) := []
deriving DecidableEq, Inhabited

namespace Evidence

/-- Nothing recorded. -/
def empty : Evidence := {}

/-- The number of keys. -/
def size (e : Evidence) : Nat := e.entries.length

def isEmpty (e : Evidence) : Bool := e.entries.isEmpty

/-- The keys in the order in which they were first recorded. -/
def keys (e : Evidence) : List String := e.entries.map (·.1)

/-- The evidence for a key, if it was ever recorded. -/
def snippets? (e : Evidence) (key : String) : Option (List Snippet) := e.entries.lookup key

/-- Whether the snippet is recorded for the key. -/
def contains (e : Evidence) (key : String) (s : Snippet) : Bool :=
  ((e.snippets? key).getD []).contains s

/-- Adds a snippet to the entry of its key, or a new entry at the end. -/
def recordIn (key : String) (s : Snippet) :
    List (String × List Snippet) → List (String × List Snippet)
  | [] => [(key, [s])]
  | (k, ss) :: es =>
    if k = key then (k, insertSnippet s ss) :: es else (k, ss) :: recordIn key s es

/-- Records a snippet for a key. The flag tells whether it is new for that key. -/
def record (e : Evidence) (key : String) (s : Snippet) : Bool × Evidence :=
  (!e.contains key s, ⟨recordIn key s e.entries⟩)

end Evidence
end ScriptFeatures
