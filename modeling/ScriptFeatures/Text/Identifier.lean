import ScriptFeatures.Text.IdentifierTable
import ScriptFeatures.Text.Ranges

namespace ScriptFeatures.Text

def idStartTable : Array (Nat × Nat) := idStartRanges.toArray

def idContinueOnlyTable : Array (Nat × Nat) := idContinueOnlyRanges.toArray

/-- A character that may start an identifier. -/
def isIdentifierStart (c : Char) : Bool :=
  if c.toNat < 0x80 then c.isAlpha || c == '$' || c == '_'
  else inRanges idStartTable c.toNat

/-- A character that may continue an identifier; besides those that may start one these are
digits, marks, connectors, and the two joiners. -/
def isIdentifierPart (c : Char) : Bool :=
  if c.toNat < 0x80 then c.isAlphanum || c == '$' || c == '_'
  else inRanges idStartTable c.toNat || inRanges idContinueOnlyTable c.toNat

/-- A character that ends a line of code. -/
def isLineTerminator (c : Char) : Bool :=
  c == '\n' || c == '\r' || c == '\u2028' || c == '\u2029'

/-- A blank between tokens that ends no line. The byte order mark is one. -/
def isTokenBlank (c : Char) : Bool :=
  c == ' ' || c == '\t' || c == '\x0B' || c == '\x0C' || c == '\u00A0' || c == '\uFEFF'
    || c == '\u1680' || ('\u2000' ≤ c && c ≤ '\u200A') || c == '\u202F' || c == '\u205F'
    || c == '\u3000'

end ScriptFeatures.Text
