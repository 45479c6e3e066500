import ScriptFeatures.Text.Blank

namespace ScriptFeatures.Text

/-- The number of bytes that the characters take in UTF-8. -/
def byteLength : List Char → Nat
  | [] => 0
  | c :: cs => c.utf8Size + byteLength cs

theorem byteLength_append (a b : List Char) :
    byteLength (a ++ b) = byteLength a + byteLength b := by
  induction a with
  | nil => simp [byteLength]
  | cons c a ih => simp [byteLength, ih]; omega

/-- The largest character boundary that is at most `offset`. -/
def floorBoundary : List Char → Nat → Nat
  | [], _ => 0
  | c :: cs, offset =>
    if c.utf8Size ≤ offset then c.utf8Size + floorBoundary cs (offset - c.utf8Size) else 0

/-- The characters from byte `n` on; there are none if `n` lies inside a character or past the
end. -/
def dropBytes? : Nat → List Char → Option (List Char)
  | 0, cs => some cs
  | _ + 1, [] => none
  | n + 1, c :: cs => if c.utf8Size ≤ n + 1 then dropBytes? (n + 1 - c.utf8Size) cs else none

/-- The characters of the first `n` bytes; there are none if `n` lies inside a character or past
the end. -/
def takeBytes? : Nat → List Char → Option (List Char)
  | 0, _ => some []
  | _ + 1, [] => none
  | n + 1, c :: cs =>
    if c.utf8Size ≤ n + 1 then (takeBytes? (n + 1 - c.utf8Size) cs).map (c :: ·) else none

/-- The offsets at which the lines after the first one start, for characters that begin at
`offset`. -/
def laterLineStarts (offset : Nat) : List Char → List Nat
  | [] => []
  | c :: cs =>
    let next := offset + c.utf8Size
    if c = '\n' then next :: laterLineStarts next cs else laterLineStarts next cs

/-- A text together with the offsets at which its lines start. Offsets count the bytes in UTF-8, and
lines end at line feeds only. -/
structure Source where
  chars : List Char
  lineStarts : List Nat := 0 :: laterLineStarts 0 chars
  lineStarts_eq : lineStarts = 0 :: laterLineStarts 0 chars := by rfl

namespace Source

/-- Indexes the lines of a text. -/
def ofString (text : String) : Source where
  chars := text.toList

/-- The length of the text in bytes. -/
def size (s : Source) : Nat := byteLength s.chars

/-- Lines are counted as line feeds plus one. -/
def lineCount (s : Source) : Nat := s.lineStarts.length

/-- The offset moved down to a character boundary of the text. -/
def clamp (s : Source) (offset : Nat) : Nat := floorBoundary s.chars offset

/-- The characters between two offsets, if both are boundaries and in order. -/
def slice? (s : Source) (start stop : Nat) : Option (List Char) :=
  if start ≤ stop then (dropBytes? start s.chars).bind (takeBytes? (stop - start)) else none

/-- The number, from zero, of the line that holds the offset. -/
def lineOf (s : Source) (offset : Nat) : Nat :=
  (s.lineStarts.takeWhile (· ≤ offset)).length - 1

/-- The offset at which a line starts. -/
def lineStart (s : Source) (line : Nat) : Nat := s.lineStarts[line]?.getD 0

/-- The offset at which a line ends, before its line feed. -/
def lineEnd (s : Source) (line : Nat) : Nat :=
  match s.lineStarts[line + 1]? with
  | some next => next - 1
  | none => s.size

/-- How many characters stand between the start of the line and an offset in it. -/
def columnIn (s : Source) (line offset : Nat) : Nat :=
  ((s.slice? (s.lineStart line) offset).getD []).length

/-- The line, from one, and the column, from zero and in characters, of an offset. -/
def position (s : Source) (offset : Nat) : Nat × Nat :=
  let offset := s.clamp offset
  let line := s.lineOf offset
  (line + 1, s.columnIn line offset)

/-- The end of a range without the blanks that stand before it. An inverted range keeps its
end. -/
def trimEnd (s : Source) (start stop : Nat) : Nat :=
  let start := s.clamp start
  let stop := s.clamp stop
  match s.slice? start stop with
  | some cs => start + byteLength (trimBlankEnd cs)
  | none => stop

end Source
end ScriptFeatures.Text
