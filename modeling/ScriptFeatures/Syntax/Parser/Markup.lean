import ScriptFeatures.Syntax.Parser.Basic

namespace ScriptFeatures.Syntax.Parse

open Text (isIdentifierStart isIdentifierPart)

def enterTokens (c : Cursor) : Parse Unit := moveTo c c

def failAt {α : Type} (fault : Fault) (c : Cursor) : Parse α := do
  enterTokens c
  throw ⟨fault, c.offset⟩

def skipGap (c : Cursor) : Parse Cursor := do
  let gap := Lexer.skipGap c false
  gap.faults.forM note
  return gap.stop

def expectCharacter (x : Char) (c : Cursor) : Parse Cursor := do
  match c.rest with
  | [] => failAt .endOfInput c
  | y :: _ =>
    if x = y then return c.advance 1
    else failAt (.expected x.toString y.toString) c

def markupWord (c : Cursor) : Parse (String × Cursor) := do
  match c.rest with
  | [] => failAt .endOfInput c
  | x :: _ =>
    if isIdentifierStart x then
      let word := c.rest.takeWhile fun y => isIdentifierPart y || y == '-'
      return (String.ofList word, c.advance word.length)
    else failAt .identifierExpected c

def markupNameRest (name : String) : Nat → Cursor → Parse (String × Cursor)
  | 0, c => return (name, c)
  | n + 1, c => do
    let d ← skipGap c
    match d.rest with
    | x :: _ =>
      if x = '.' || x = ':' then
        let (word, c) ← markupWord (← skipGap (d.advance 1))
        markupNameRest (name ++ x.toString ++ word) n c
      else return (name, c)
    | [] => return (name, c)

def markupName (c : Cursor) : Parse (String × Cursor) := do
  let (word, c) ← markupWord (← skipGap c)
  markupNameRest word (← limit) c

def leaveTokens : Parse Cursor := do
  let t ← current
  if t.is .rightBrace then return t.stop else failHere (.expected "\x7d" t.text)

def markupString (quote : Char) (start : Cursor) : Parse (Node × Cursor) := do
  let body := start.advance 1
  let text := body.rest.takeWhile (· ≠ quote)
  let close := body.advance text.length
  if close.rest.isEmpty then failAt .unterminatedString start
  let stop := close.advance 1
  let literal := .stringLiteral ⟨start.offset, stop.offset⟩ (String.ofList text)
    (some (start.textUpTo stop))
  return (literal, stop)

def markupContainer (start : Cursor) : Parse (Node × Cursor) := do
  enterTokens (start.advance 1)
  if (← current).is .rightBrace then
    let stop ← leaveTokens
    return (.markupContainer ⟨start.offset, stop.offset⟩ none, stop)
  let isSpread ← eat .ellipsis
  let e ← withIn (descend .expression)
  let stop ← leaveTokens
  let span : Span := ⟨start.offset, stop.offset⟩
  return (if isSpread then .markupSpreadChild span e else .markupContainer span (some e), stop)

def markupSpread (start : Cursor) : Parse (Node × Cursor) := do
  enterTokens (start.advance 1)
  let dotsStart ← position
  expect .ellipsis
  let dots ← spanFrom dotsStart
  let e ← withIn (descend .assignment)
  return (.objectSpread dots e, ← leaveTokens)

def markupText (start : Cursor) : Parse (Node × Cursor) := do
  let text := start.rest.takeWhile fun x => x ≠ '<' && x ≠ '{'
  let stop := start.advance text.length
  if text.contains '>' then note ⟨.markupGreaterThan, start.offset⟩
  if text.contains '}' then note ⟨.markupBrace, start.offset⟩
  return (.markupText ⟨start.offset, stop.offset⟩, stop)

def markupTagEnd (c : Cursor) : Parse (Bool × Cursor) := do
  match c.rest with
  | '/' :: _ => return (true, ← expectCharacter '>' (← skipGap (c.advance 1)))
  | _ => return (false, ← expectCharacter '>' c)

/-- A closing tag after its `</`. It has the name of the opening one, if that has a name. -/
def markupClosing (name : Option String) (c : Cursor) : Parse Cursor := do
  let start ← skipGap c
  match name with
  | none =>
    match start.rest with
    | '>' :: _ => return start.advance 1
    | [] => failAt .endOfInput start
    | _ => failAt .markupFragmentEndExpected start
  | some name =>
    let (closing, c) ← markupName start
    let c ← expectCharacter '>' (← skipGap c)
    if closing ≠ name then failAt (.markupClosingTagExpected name) start
    return c

mutual

/-- An element with its `<` at `start`. Between tags stands text and not tokens: the rules for markup
read characters, and go over to tokens inside braces. -/
def markupElement : Nat → Cursor → Parse (Node × Cursor)
  | 0, start => failAt .tooDeep start
  | n + 1, start => do
    let c ← skipGap (start.advance 1)
    match c.rest with
    | '>' :: _ =>
      let (children, c) ← markupChildren none n (c.advance 1)
      return (.markupFragment ⟨start.offset, c.offset⟩ children, c)
    | _ =>
      let (name, c) ← markupName c
      let (attributes, c) ← markupAttributes n c
      let (isEmpty, c) ← markupTagEnd c
      let (children, c) ← if isEmpty then pure ([], c) else markupChildren (some name) n c
      return (.markupElement ⟨start.offset, c.offset⟩ name attributes children, c)

def markupAttributes : Nat → Cursor → Parse (List Node × Cursor)
  | 0, c => failAt .tooDeep c
  | n + 1, c => do
    let c ← skipGap c
    match c.rest with
    | '/' :: _ | '>' :: _ | [] => return ([], c)
    | '{' :: _ =>
      let (spread, c) ← markupSpread c
      let (others, c) ← markupAttributes n c
      return (spread :: others, c)
    | _ =>
      let start := c
      let (name, c) ← markupName c
      let d ← skipGap c
      let (value, c) ←
        match d.rest with
        | '=' :: _ => do
          let (value, c) ← markupValue n (← skipGap (d.advance 1))
          pure (some value, c)
        | _ => pure (none, c)
      let (others, stop) ← markupAttributes n c
      return (.markupAttribute ⟨start.offset, c.offset⟩ name value :: others, stop)

def markupValue : Nat → Cursor → Parse (Node × Cursor)
  | 0, c => failAt .tooDeep c
  | n + 1, c => do
    match c.rest with
    | '{' :: _ =>
      let (value, stop) ← markupContainer c
      match value with
      | .markupContainer _ (some _) => return (value, stop)
      | _ => failAt .markupAttributeEmpty c
    | '<' :: _ => markupElement n c
    | x :: _ =>
      if x = '"' || x = '\'' then markupString x c
      else
        enterTokens c
        let e ← descend .unary
        fail .markupValueExpected e.span.lo
    | [] => failAt .endOfInput c

def markupChildren (name : Option String) : Nat → Cursor → Parse (List Node × Cursor)
  | 0, c => failAt .tooDeep c
  | n + 1, c => do
    match c.rest with
    | [] => failAt .endOfInput c
    | '<' :: _ =>
      let d ← skipGap (c.advance 1)
      match d.rest with
      | '/' :: _ => return ([], ← markupClosing name (d.advance 1))
      | _ =>
        let (child, c) ← markupElement n c
        let (others, c) ← markupChildren name n c
        return (child :: others, c)
    | '{' :: _ =>
      let (child, c) ← markupContainer c
      let (others, c) ← markupChildren name n c
      return (child :: others, c)
    | _ =>
      let (child, c) ← markupText c
      let (others, c) ← markupChildren name n c
      return (child :: others, c)

end

def markup : Parse Node := do
  let start := (← current).start
  let (element, stop) ← markupElement (← limit) start
  moveTo start stop
  return element

end ScriptFeatures.Syntax.Parse
