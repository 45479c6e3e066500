namespace ScriptFeatures.Text

/-- A character with the Unicode property White_Space. -/
def isBlank (c : Char) : Bool :=
  ('\t' ≤ c && c ≤ '\r') || c == ' ' || c == '\u0085' || c == '\u00A0' || c == '\u1680'
    || ('\u2000' ≤ c && c ≤ '\u200A') || c == '\u2028' || c == '\u2029' || c == '\u202F'
    || c == '\u205F' || c == '\u3000'

/-- The list without the blank characters at its end. -/
def trimBlankEnd (cs : List Char) : List Char :=
  (cs.reverse.dropWhile isBlank).reverse

end ScriptFeatures.Text
