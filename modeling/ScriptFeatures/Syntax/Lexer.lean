import ScriptFeatures.Syntax.Escape
import ScriptFeatures.Text.Identifier
import ScriptFeatures.Text.Source

namespace ScriptFeatures.Syntax

open Text (isIdentifierStart isIdentifierPart isLineTerminator isTokenBlank)

namespace Lexer

/-- What stands between two tokens: where it ends, whether a line ends in it, and its faults. -/
structure Gap where
  stop : Cursor
  hasNewline : Bool
  faults : List Diagnostic

/-- Whether a comment is being skipped. -/
inductive Skipping where
  | blanks | lineComment | blockComment

def skipFrom (mode : Skipping) (hasNewline : Bool) (offset : Nat) : List Char → Gap
  | [] =>
    match mode with
    | .blockComment => ⟨⟨[], offset⟩, hasNewline, [⟨.unterminatedComment, offset⟩]⟩
    | _ => ⟨⟨[], offset⟩, hasNewline, []⟩
  | c :: cs =>
    let next := offset + c.utf8Size
    match mode with
    | .lineComment =>
      if isLineTerminator c then skipFrom .blanks true next cs
      else skipFrom .lineComment hasNewline next cs
    | .blockComment =>
      match c, cs with
      | '*', '/' :: cs => skipFrom .blanks hasNewline (next + 1) cs
      | _, cs => skipFrom .blockComment (hasNewline || isLineTerminator c) next cs
    | .blanks =>
      if isTokenBlank c then skipFrom .blanks hasNewline next cs
      else if isLineTerminator c then skipFrom .blanks true next cs
      else
        match c, cs with
        | '/', '/' :: cs => skipFrom .lineComment hasNewline (next + 1) cs
        | '/', '*' :: cs => skipFrom .blockComment hasNewline (next + 1) cs
        | '<', '!' :: '-' :: '-' :: cs =>
          let gap := skipFrom .lineComment hasNewline (next + 3) cs
          { gap with faults := ⟨.legacyComment, offset⟩ :: gap.faults }
        | '-', '-' :: '>' :: cs =>
          if hasNewline then
            let gap := skipFrom .lineComment hasNewline (next + 2) cs
            { gap with faults := ⟨.legacyComment, offset⟩ :: gap.faults }
          else ⟨⟨c :: '-' :: '>' :: cs, offset⟩, hasNewline, []⟩
        | _, cs => ⟨⟨c :: cs, offset⟩, hasNewline, []⟩

def skipGap (c : Cursor) (hasNewline : Bool) : Gap :=
  skipFrom .blanks hasNewline c.offset c.rest

/-- The text of a token read so far, where it ends, and what is wrong with it. A fatal fault makes
the token invalid; the other faults leave it as it is. -/
structure Scan where
  value : List Char
  stop : Cursor
  faults : List Diagnostic := []
  fatal : Option Diagnostic := none
  /-- Whether an escape stands in it. -/
  escaped : Bool := false

namespace Scan

def cons (cs : List Char) (s : Scan) : Scan := { s with value := cs ++ s.value }

def fault (d : Diagnostic) (s : Scan) : Scan := { s with faults := d :: s.faults }

end Scan

def scanWord (skip : Nat) (isFirst : Bool) (offset : Nat) : List Char → Scan
  | [] => { value := [], stop := ⟨[], offset⟩ }
  | c :: cs =>
    let next := offset + c.utf8Size
    if skip ≠ 0 then scanWord (skip - 1) isFirst next cs
    else if c = '\\' then
      match Escape.readInName cs with
      | .other =>
        { value := [], stop := ⟨cs, next⟩, fatal := some ⟨.unicodeEscapeExpected, offset⟩ }
      | .unclosed =>
        { value := [], stop := ⟨cs, next⟩, fatal := some ⟨.invalidUnicodeEscape, next + 2⟩ }
      | .code value length =>
        let scan := scanWord length false next cs
        let fits (v : Char) := if isFirst then isIdentifierStart v else isIdentifierPart v
        let scan := { scan.cons value.toList with escaped := true }
        if value.any fits then scan else scan.fault ⟨.invalidIdentifierCharacter, offset⟩
    else if isIdentifierPart c then (scanWord 0 false next cs).cons [c]
    else { value := [], stop := ⟨c :: cs, offset⟩ }

/-- Reads a string up to its closing quote; `start` is where its opening quote stands. A string
that its line ends without a quote stops there. -/
def scanString (quote : Char) (start skip : Nat) (offset : Nat) : List Char → Scan
  | [] => { value := [], stop := ⟨[], offset⟩, faults := [⟨.unterminatedString, start⟩] }
  | c :: cs =>
    let next := offset + c.utf8Size
    if skip ≠ 0 then scanString quote start (skip - 1) next cs
    else if c = quote then { value := [], stop := ⟨cs, next⟩ }
    else if c = '\n' || c = '\r' then
      { value := [], stop := ⟨c :: cs, offset⟩, faults := [⟨.unterminatedString, start⟩] }
    else if c = '\\' then
      match Escape.read cs with
      | .error f => { value := [], stop := ⟨cs, next⟩, fatal := some ⟨f, offset⟩ }
      | .ok read =>
        let scan := (scanString quote start read.length next cs).cons read.value
        if Escape.isLegacy cs then scan.fault ⟨.legacyOctal, offset⟩ else scan
    else (scanString quote start 0 next cs).cons [c]

/-- A part of a template as far as it is read. -/
structure PartScan where
  /-- Where the text ends, before the delimiter. -/
  textEnd : Cursor
  /-- Where the delimiter ends. -/
  stop : Cursor
  isLast : Bool
  badEscape : Option Diagnostic

/-- Reads a template up to its closing quote or the next expression, if one of them comes. -/
def scanPart (skip : Nat) (offset : Nat) : List Char → Option PartScan
  | [] => none
  | c :: cs =>
    let next := offset + c.utf8Size
    if skip ≠ 0 then scanPart (skip - 1) next cs
    else if c.toNat = 0x60 then some ⟨⟨c :: cs, offset⟩, ⟨cs, next⟩, true, none⟩
    else
      match c, cs with
      | '$', '{' :: cs => some ⟨⟨'$' :: '{' :: cs, offset⟩, ⟨cs, next + 1⟩, false, none⟩
      | '\\', cs =>
        match Escape.read cs with
        | .error f =>
          (scanPart 0 next cs).map fun part => { part with badEscape := some ⟨f, offset⟩ }
        | .ok read =>
          (scanPart read.length next cs).map fun part =>
            if Escape.isLegacy cs then { part with badEscape := some ⟨.legacyOctal, offset⟩ }
            else part
      | _, cs => scanPart 0 next cs

/-- Reads the part of a template whose opening delimiter is one character long and stands at
`start`. -/
def templatePart (start : Cursor) : Except Diagnostic (TemplatePart × Cursor) :=
  let text := start.advance 1
  match scanPart 0 text.offset text.rest with
  | none => .error ⟨.unterminatedTemplate, start.offset⟩
  | some part =>
    .ok ({ raw := text.textUpTo part.textEnd
           span := ⟨text.offset, part.textEnd.offset⟩
           badEscape := part.badEscape
           isLast := part.isLast }, part.stop)

def scanRegex (inClass escaped : Bool) (offset : Nat) : List Char → Option Cursor
  | [] => none
  | c :: cs =>
    let next := offset + c.utf8Size
    if isLineTerminator c then none
    else if escaped then scanRegex inClass false next cs
    else if c = '/' && !inClass then some ⟨c :: cs, offset⟩
    else if c = '[' then scanRegex true false next cs
    else if c = ']' then scanRegex false false next cs
    else scanRegex inClass (c == '\\') next cs

/-- A regular expression: its pattern, its flags, and where it ends. -/
structure Regex where
  pattern : String
  flags : String
  stop : Cursor

def regex? (start : Cursor) : Option Regex :=
  let body := start.advance 1
  (scanRegex false false body.offset body.rest).map fun close =>
    let flags := close.advance 1
    let word := flags.rest.takeWhile isIdentifierPart
    { pattern := body.textUpTo close
      flags := String.ofList word
      stop := flags.advance word.length }

/-- Digits of a number: where they end, whether there are any, and misplaced separators. -/
structure Digits where
  stop : Cursor
  isEmpty : Bool := true
  isMisplaced : Bool := false

def isDigitOf (radix : Nat) (c : Char) : Bool :=
  match Escape.hexValue? c with
  | some n => n < radix
  | none => false

/-- Reads digits with separators among them. A separator has to stand before a digit and not after
another one. -/
def scanDigits (radix : Nat) (afterSeparator : Bool) (offset : Nat) : List Char → Digits
  | [] => { stop := ⟨[], offset⟩ }
  | c :: cs =>
    let next := offset + c.utf8Size
    if c = '_' then
      let digits := scanDigits radix true next cs
      let fits := !afterSeparator && (cs.head?.map (isDigitOf radix)).getD false
      { digits with isMisplaced := digits.isMisplaced || !fits }
    else if isDigitOf radix c then
      { scanDigits radix false next cs with isEmpty := false }
    else { stop := ⟨c :: cs, offset⟩ }

/-- The kind of a number, where it ends, and its faults. -/
structure NumberScan where
  kind : TokenKind
  stop : Cursor
  faults : List Diagnostic

def endNumber (start stop : Cursor) (faults : List Diagnostic) : NumberScan :=
  match stop.rest with
  | c :: _ =>
    if isIdentifierStart c || c = '\\' then
      ⟨.invalid ⟨.identifierAfterNumber, stop.offset⟩, stop.advance 1, faults⟩
    else ⟨.number (start.textUpTo stop), stop, faults⟩
  | [] => ⟨.number (start.textUpTo stop), stop, faults⟩

def separatorFault (offset : Nat) (digits : Digits) : List Diagnostic :=
  if digits.isMisplaced then [⟨.separatorMisplaced, offset⟩] else []

def endInteger (start stop : Cursor) (faults : List Diagnostic) : NumberScan :=
  if stop.rest.head? = some 'n' then
    let stop := stop.advance 1
    let scan := endNumber start stop faults
    match scan.kind with
    | .number _ => { scan with kind := .bigint }
    | _ => scan
  else endNumber start stop faults

def prefixedNumber (radix : Nat) (start : Cursor) : NumberScan :=
  let first := start.offset + 2
  let digits := scanDigits radix false first (start.rest.drop 2)
  let faults := separatorFault first digits
  if digits.isEmpty then ⟨.invalid ⟨.digitExpected radix, first⟩, digits.stop, faults⟩
  else endInteger start digits.stop faults

def withExponent (start stop : Cursor) (faults : List Diagnostic) : NumberScan :=
  match stop.rest with
  | e :: _ =>
    if e = 'e' || e = 'E' then
      let after := stop.advance 1
      if after.rest.isEmpty then
        ⟨.invalid ⟨.exponentExpected, after.offset⟩, after, faults⟩
      else
        let sign := after.rest.head?
        let after := if sign = some '+' || sign = some '-' then after.advance 1 else after
        let digits := scanDigits 10 false after.offset after.rest
        let faults := faults ++ separatorFault after.offset digits
        if digits.isEmpty then
          ⟨.invalid ⟨.digitExpected 10, after.offset⟩, digits.stop, faults⟩
        else endNumber start digits.stop faults
    else endNumber start stop faults
  | [] => endNumber start stop faults

def withFraction (start stop : Cursor) (faults : List Diagnostic) : NumberScan :=
  if stop.rest.head? = some '.' then
    let after := stop.advance 1
    let digits := scanDigits 10 false after.offset after.rest
    withExponent start digits.stop (faults ++ separatorFault after.offset digits)
  else withExponent start stop faults

/-- A decimal number. One that starts with a zero and more digits is octal if its digits allow it;
an octal number has neither a fraction nor a suffix. -/
def decimalNumber (start : Cursor) : NumberScan :=
  if start.rest.head? = some '.' then withFraction start start []
  else
    let digits := scanDigits 10 false start.offset start.rest
    let faults := separatorFault start.offset digits
    let text := start.rest.take (start.rest.length - digits.stop.rest.length)
    let isLong := text.head? = some '0' && 1 < text.length
    if isLong && text.all (fun c => Escape.isOctal c || c == '_') then
      endNumber start digits.stop (faults ++ [⟨.legacyOctal, start.offset⟩])
    else if isLong then
      withFraction start digits.stop (faults ++ [⟨.legacyDecimal, start.offset⟩])
    else if digits.stop.rest.head? = some 'n' then endInteger start digits.stop faults
    else withFraction start digits.stop faults

def number (start : Cursor) : NumberScan :=
  match start.rest with
  | '0' :: c :: _ =>
    if c = 'x' || c = 'X' then prefixedNumber 16 start
    else if c = 'o' || c = 'O' then prefixedNumber 8 start
    else if c = 'b' || c = 'B' then prefixedNumber 2 start
    else decimalNumber start
  | _ => decimalNumber start

/-- The longest punctuator at a place. A question mark and a period before a digit are two
tokens. -/
def punctuator? (c : Cursor) : Option (Punctuator × Cursor) :=
  match Punctuator.byLength.find? (·.1.isPrefixOf c.rest) with
  | some (_, .questionDot) =>
    let after := c.advance 2
    if (after.rest.head?.map Char.isDigit).getD false then some (.question, c.advance 1)
    else some (.questionDot, after)
  | some (text, p) => some (p, c.advance text.length)
  | none => none

def startsNumber (cs : List Char) : Bool :=
  match cs with
  | '.' :: c :: _ => c.isDigit
  | c :: _ => c.isDigit
  | [] => false

def forbidsEscapes (isStrict : Bool) (word : String) : Bool :=
  isKeyword word || (isStrict && strictWords.contains word)

def scanToken (isStrict : Bool) (start : Cursor) : TokenKind × Cursor × List Diagnostic :=
  match start.rest with
  | [] => (.endOfFile, start, [])
  | c :: cs =>
    let next := start.advance 1
    if isIdentifierStart c || c = '\\' then
      let scan := scanWord 0 true start.offset start.rest
      let word := String.ofList scan.value
      match scan.fatal with
      | some d => (.invalid d, scan.stop, scan.faults)
      | none =>
        if scan.escaped && forbidsEscapes isStrict word then
          (.invalid ⟨.escapedReservedWord word, start.offset⟩, scan.stop, scan.faults)
        else (.word word, scan.stop, scan.faults)
    else if startsNumber (c :: cs) then
      let scan := number start
      (scan.kind, scan.stop, scan.faults)
    else if c = '"' || c = '\'' then
      let scan := scanString c start.offset 0 next.offset cs
      match scan.fatal with
      | some d => (.invalid d, scan.stop, scan.faults)
      | none =>
        (.string (String.ofList scan.value) (start.textUpTo scan.stop), scan.stop, scan.faults)
    else if c.toNat = 0x60 then
      match templatePart start with
      | .ok (part, stop) => (.template part, stop, [])
      | .error d => (.invalid d, ⟨[], start.offset + Text.byteLength start.rest⟩, [])
    else
      match punctuator? start with
      | some (p, stop) => (.punctuator p, stop, [])
      | none => (.invalid ⟨.unexpectedCharacter c, start.offset⟩, next, [])

/-- A token and the faults found on the way to its end. -/
structure Lexed where
  token : Token
  faults : List Diagnostic

/-- The first token after a place. Before the first token of a text a line counts as ended, and so
it does before its end. A slash is read as a division: the parser itself asks for a regular
expression, the next part of a template or markup. -/
def next (c : Cursor) (isFirst : Bool) : Lexed :=
  let gap := skipGap c isFirst
  let (kind, stop, faults) := scanToken (!isFirst) gap.stop
  { token := {
      kind
      start := gap.stop
      stop
      afterNewline := gap.hasNewline || gap.stop.rest.isEmpty }
    faults := gap.faults ++ faults }

end Lexer
end ScriptFeatures.Syntax
