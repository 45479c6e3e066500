import ScriptFeatures.Syntax.Token

namespace ScriptFeatures.Syntax.Escape

def hexValue? (c : Char) : Option Nat :=
  if c.isDigit then some (c.toNat - '0'.toNat)
  else if 'a' ≤ c && c ≤ 'f' then some (c.toNat - 'a'.toNat + 10)
  else if 'A' ≤ c && c ≤ 'F' then some (c.toNat - 'A'.toNat + 10)
  else none

def readHex (ds : List Char) : Nat := ds.foldl (fun n d => 16 * n + (hexValue? d).getD 0) 0

def hexDigits (cs : List Char) : List Char := cs.takeWhile fun c => (hexValue? c).isSome

def charOfCode (n : Nat) : Char := if n.isValidChar then Char.ofNat n else '\uFFFD'

/-- What an escape stands for and how many characters it takes after its backslash. -/
structure Read where
  value : List Char
  length : Nat

abbrev Result := Except Fault Read

def readUnicode (cs : List Char) : Result :=
  match cs with
  | '{' :: cs =>
    let digits := hexDigits cs
    let code := readHex digits
    if digits.isEmpty || (cs.drop digits.length).head? != some '}' then
      .error (.escapeExpectsHex "1-6 hex characters")
    else if 0x10FFFF < code then
      .error (.escapeExpectsHex "1-6 hex characters in the range 0 to 10FFFF.")
    else .ok ⟨[charOfCode code], digits.length + 3⟩
  | _ =>
    let digits := (hexDigits cs).take 4
    if digits.length < 4 then .error (.escapeExpectsHex "4 hex characters")
    else .ok ⟨[charOfCode (readHex digits)], 5⟩

def readByte (cs : List Char) : Result :=
  let digits := (hexDigits cs).take 2
  if digits.length < 2 then .error (.escapeExpectsHex "2 hex characters")
  else .ok ⟨[charOfCode (readHex digits)], 3⟩

def isOctal (c : Char) : Bool := '0' ≤ c && c ≤ '7'

def octalDigits (cs : List Char) : List Char :=
  let three := (cs.takeWhile isOctal).take 3
  if '4' ≤ three.headD '0' then three.take 2 else three

def letterValue? (c : Char) : Option Char :=
  if c = 'n' then some '\n'
  else if c = 'r' then some '\r'
  else if c = 't' then some '\t'
  else if c = 'b' then some '\x08'
  else if c = 'v' then some '\x0B'
  else if c = 'f' then some '\x0C'
  else none

def isLegacy (cs : List Char) : Bool :=
  match cs with
  | '0' :: c :: _ => c.isDigit
  | c :: _ => c.isDigit && c != '0'
  | [] => false

/-- An escape in a string or a template. A line end after the backslash stands for nothing. -/
def read (cs : List Char) : Result :=
  match cs with
  | [] => .ok ⟨[], 0⟩
  | '\r' :: '\n' :: _ => .ok ⟨[], 2⟩
  | 'x' :: cs => readByte cs
  | 'u' :: cs => readUnicode cs
  | c :: _ =>
    if c = '\n' || c = '\r' || c = '\u2028' || c = '\u2029' then .ok ⟨[], 1⟩
    else if isOctal c then
      let digits := octalDigits cs
      .ok ⟨[charOfCode (digits.foldl (fun n d => 8 * n + (d.toNat - '0'.toNat)) 0)],
        digits.length⟩
    else .ok ⟨[(letterValue? c).getD c], 1⟩

/-- What an escape in an identifier turns out to be. -/
inductive Name where
  /-- A code, if it is one of a character, and the length of the escape. -/
  | code (value : Option Char) (length : Nat)
  /-- Not a Unicode escape at all. -/
  | other
  /-- A code point without its closing brace. -/
  | unclosed

def readInName (cs : List Char) : Name :=
  match cs with
  | 'u' :: '{' :: cs =>
    let digits := hexDigits cs
    if (cs.drop digits.length).head? != some '}' then .unclosed
    else
      let code := readHex digits
      .code (if digits.isEmpty || !code.isValidChar then none else some (Char.ofNat code))
        (digits.length + 3)
  | 'u' :: cs =>
    let digits := (hexDigits cs).take 4
    let code := readHex digits
    if digits.length < 4 || !code.isValidChar then .code none 1
    else .code (some (Char.ofNat code)) 5
  | _ => .other

end ScriptFeatures.Syntax.Escape
