namespace ScriptFeatures

/-- A JSON value whose numbers are natural. -/
inductive Json where
  | null
  | bool (b : Bool)
  | number (n : Nat)
  | string (s : String)
  | array (elements : List Json)
  | object (fields : List (String × Json))

namespace Json

/-- The character that a two-character escape names, for the characters that have one. -/
def shortEscape? (c : Char) : Option Char :=
  if c = '"' then some '"'
  else if c = '\\' then some '\\'
  else if c = '\x08' then some 'b'
  else if c = '\x0C' then some 'f'
  else if c = '\n' then some 'n'
  else if c = '\r' then some 'r'
  else if c = '\t' then some 't'
  else none

/-- One character inside a string: control characters are escaped, by four hexadecimal digits if
they have no short escape. -/
def escapeChar (c : Char) : List Char :=
  match shortEscape? c with
  | some e => ['\\', e]
  | none =>
    if c < ' ' then
      ['\\', 'u', '0', '0', Nat.digitChar (c.toNat / 16), Nat.digitChar (c.toNat % 16)]
    else [c]

/-- A string between quotes. -/
def quote (s : String) : List Char := '"' :: s.toList.flatMap escapeChar ++ ['"']

/-- Writes the elements one after the other with `separator` between them. -/
def joinWith (separator : List Char) : List (List Char) → List Char
  | [] => []
  | [x] => x
  | x :: y :: xs => x ++ separator ++ joinWith separator (y :: xs)

mutual

/-- The written form without blanks. -/
def compactChars : Json → List Char
  | null => "null".toList
  | bool b => (if b then "true" else "false").toList
  | number n => Nat.toDigits 10 n
  | string s => quote s
  | array es => '[' :: joinWith [','] (compactElements es) ++ [']']
  | object fs => '{' :: joinWith [','] (compactFields fs) ++ ['}']

def compactElements : List Json → List (List Char)
  | [] => []
  | e :: es => compactChars e :: compactElements es

def compactFields : List (String × Json) → List (List Char)
  | [] => []
  | (k, v) :: fs => (quote k ++ ':' :: compactChars v) :: compactFields fs

end

/-- A new line indented by two blanks for each level. -/
def newline (level : Nat) : List Char := '\n' :: List.replicate (2 * level) ' '

/-- Parts on lines of their own between two brackets; without parts the brackets touch. -/
def bracketed (level : Nat) (opening closing : Char) (parts : List (List Char)) : List Char :=
  if parts.isEmpty then [opening, closing]
  else
    opening :: newline (level + 1) ++ joinWith (',' :: newline (level + 1)) parts
      ++ newline level ++ [closing]

mutual

/-- The written form with each element and field on a line of its own. -/
def prettyChars (level : Nat) : Json → List Char
  | null => "null".toList
  | bool b => (if b then "true" else "false").toList
  | number n => Nat.toDigits 10 n
  | string s => quote s
  | array es => bracketed level '[' ']' (prettyElements (level + 1) es)
  | object fs => bracketed level '{' '}' (prettyFields (level + 1) fs)

def prettyElements (level : Nat) : List Json → List (List Char)
  | [] => []
  | e :: es => prettyChars level e :: prettyElements level es

def prettyFields (level : Nat) : List (String × Json) → List (List Char)
  | [] => []
  | (k, v) :: fs => (quote k ++ ':' :: ' ' :: prettyChars level v) :: prettyFields level fs

end

/-- The text of a value on one line. -/
def compact (j : Json) : String := String.ofList j.compactChars

/-- The text of a value over many lines. -/
def pretty (j : Json) : String := String.ofList (j.prettyChars 0)

end Json
end ScriptFeatures
