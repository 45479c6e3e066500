namespace ScriptFeatures.Text

/-- Whether `pattern` stands somewhere in the characters. -/
def occursIn (pattern : List Char) : List Char → Bool
  | [] => pattern.isEmpty
  | c :: cs => pattern.isPrefixOf (c :: cs) || occursIn pattern cs

/-- The bytes of the characters in UTF-8. -/
def utf8Bytes (cs : List Char) : List UInt8 := cs.flatMap String.utf8EncodeChar

/-- The bytes at which matches of `pattern` start, for characters that begin at `offset`. The search
goes from left to right and on behind each match: the first `skip` characters belong to the last
one. -/
def matchOffsets (pattern : List Char) (offset : Nat) : Nat → List Char → List Nat
  | _, [] => if pattern.isEmpty then [offset] else []
  | skip + 1, c :: cs => matchOffsets pattern (offset + c.utf8Size) skip cs
  | 0, c :: cs =>
    if pattern.isPrefixOf (c :: cs) then
      offset :: matchOffsets pattern (offset + c.utf8Size) (pattern.length - 1) cs
    else matchOffsets pattern (offset + c.utf8Size) 0 cs

end ScriptFeatures.Text
