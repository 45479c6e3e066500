namespace ScriptFeatures.Syntax

/-- A range of positions, which need not be ordered. They count bytes from a base that the owner of
the tree knows. -/
structure Span where
  lo : Nat
  hi : Nat
deriving DecidableEq, Repr, Inhabited

namespace Span

def ofEnds (a b : Nat) : Span := if a ≤ b then ⟨a, b⟩ else ⟨b, a⟩

def withHi (s : Span) (hi : Nat) : Span := ofEnds s.lo hi

def withLo (s : Span) (lo : Nat) : Span := ofEnds lo s.hi

def reserved : Nat := Nat.pow 2 32 - 1 - 65536

def isDummy (s : Span) : Bool := (s.lo == 0 && s.hi == 0) || reserved ≤ s.lo

end Span
end ScriptFeatures.Syntax
