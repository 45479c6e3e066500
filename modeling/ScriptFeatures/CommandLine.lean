import ScriptFeatures.Analysis
import ScriptFeatures.Json.Report

namespace ScriptFeatures.CommandLine

/-- What the arguments ask for. -/
inductive Command where
  | help
  | version
  | catalogue (pretty : Bool)
  /-- Without a file, the text on standard input is analyzed. -/
  | analyze (file : Option String) (options : Options) (pretty : Bool)
deriving DecidableEq, Repr, Inhabited

/-- Why arguments ask for nothing. -/
inductive UsageError where
  | unexpectedArgument (text : String)
  | repeatedOption (name : String)
  | valueMissing
  | valueInvalid (text : String)
deriving DecidableEq, Repr, Inhabited

/-- The options and the file that have been read from the arguments so far. -/
structure Settings where
  file : Option String := none
  contextLines : Option Nat := none
  markup : Bool := false
  pretty : Bool := false
  list : Bool := false

namespace Settings

def command (s : Settings) : Command :=
  if s.list then .catalogue s.pretty
  else .analyze s.file
    { contextLines := s.contextLines.getD Text.Source.defaultContext, markup := s.markup } s.pretty

def withContextLines (s : Settings) (value : String) : Except UsageError Settings :=
  if s.contextLines.isSome then .error (.repeatedOption "--context-lines <CONTEXT_LINES>")
  else
    let digits := match value.toList with
      | '+' :: cs => cs
      | cs => cs
    let n := digits.foldl (fun n c => 10 * n + (c.toNat - '0'.toNat)) 0
    if digits.isEmpty || !digits.all Char.isDigit || Nat.pow 2 64 ≤ n then .error (.valueInvalid value)
    else .ok { s with contextLines := some n }

def withFile (s : Settings) (path : String) : Except UsageError Settings :=
  if s.file.isSome then .error (.unexpectedArgument path) else .ok { s with file := some path }

end Settings

def readSwitch (s : Settings) (arg : String) : Except UsageError Settings :=
  if arg = "--jsx" then
    if s.markup then .error (.repeatedOption arg) else .ok { s with markup := true }
  else if arg = "--pretty" then
    if s.pretty then .error (.repeatedOption arg) else .ok { s with pretty := true }
  else if arg = "--list" then
    if s.list then .error (.repeatedOption arg) else .ok { s with list := true }
  else .error (.unexpectedArgument arg)

def readArguments (s : Settings) : List String → Except UsageError Command
  | [] => .ok s.command
  | "--" :: args => (args.foldlM Settings.withFile s).map Settings.command
  | "--help" :: _ | "-h" :: _ => .ok .help
  | "--version" :: _ | "-V" :: _ => .ok .version
  | "--context-lines" :: value :: args =>
    if value.startsWith "-" then .error .valueMissing
    else do readArguments (← s.withContextLines value) args
  | ["--context-lines"] => .error .valueMissing
  | arg :: args => do
    if arg.startsWith "--context-lines=" then
      readArguments (← s.withContextLines (String.ofList (arg.toList.drop 16))) args
    else if arg.startsWith "-" && arg != "-" then readArguments (← readSwitch s arg) args
    else readArguments (← s.withFile arg) args

def parse (args : List String) : Except UsageError Command := readArguments {} args

/-- Where a text to analyze comes from. -/
inductive Origin where
  | file (path : String)
  | standardInput
deriving DecidableEq, Repr, Inhabited

def Command.origin? : Command → Option Origin
  | .analyze (some path) _ _ => some (.file path)
  | .analyze none _ _ => some .standardInput
  | _ => none

def Origin.name : Origin → String
  | .file path => path
  | .standardInput => "stdin"

/-- Why a text could not be read. -/
inductive ReadError where
  | missing
  | directory
  | invalidText
  | other (message : String)
deriving DecidableEq, Repr, Inhabited

def ReadError.message : ReadError → String
  | missing => "No such file or directory (os error 2)"
  | directory => "Is a directory (os error 21)"
  | invalidText => "stream did not contain valid UTF-8"
  | other message => message

def decode (bytes : ByteArray) : Except ReadError String :=
  match String.fromUTF8? bytes with
  | some text => .ok text
  | none => .error .invalidText

/-- What a run of the program leaves behind. -/
structure Answer where
  exit : Nat
  stdout : String := ""
  stderr : String := ""
deriving DecidableEq, Repr, Inhabited

def versionText : String := "portal-solutions-featscan 0.1.0\n"

def usageText : String := "Usage: featscan [OPTIONS] [FILE]\n"

def helpText : String :=
  "Detects the JavaScript language and API features a snippet uses and the browser versions it "
    ++ "needs\n\n" ++ usageText
    ++ "\nArguments:\n"
    ++ "  [FILE]  Source file to analyze; reads stdin when omitted\n"
    ++ "\nOptions:\n"
    ++ "      --context-lines <CONTEXT_LINES>  Lines of context kept around each match [default: "
    ++ toString Text.Source.defaultContext ++ "]\n"
    ++ "      --jsx                            Accept JSX syntax\n"
    ++ "      --pretty                         Pretty-print the JSON output\n"
    ++ "      --list                           Print the feature catalogue instead of analyzing "
    ++ "anything\n"
    ++ "  -h, --help                           Print help\n"
    ++ "  -V, --version                        Print version\n"

namespace UsageError

def message : UsageError → String
  | unexpectedArgument text => "unexpected argument '" ++ text ++ "' found"
  | repeatedOption name => "the argument '" ++ name ++ "' cannot be used multiple times"
  | valueMissing =>
    "a value is required for '--context-lines <CONTEXT_LINES>' but none was supplied"
  | valueInvalid text => "invalid value '" ++ text ++ "' for '--context-lines <CONTEXT_LINES>'"

def answer (e : UsageError) : Answer where
  exit := 2
  stderr := "error: " ++ e.message ++ "\n\n" ++ usageText
    ++ "\nFor more information, try '--help'.\n"

end UsageError

def failure (message : String) : Answer := { exit := 1, stderr := "Error: " ++ message ++ "\n" }

def print (pretty : Bool) (value : Json) : Answer :=
  { exit := 0, stdout := (if pretty then value.pretty else value.compact) ++ "\n" }

def unreadable (origin : Origin) (e : ReadError) : Answer :=
  failure ("reading " ++ origin.name ++ "\n\nCaused by:\n    " ++ e.message)

/-- The answer to a command. `text` is what was read from its origin, if it has one. -/
def Command.answer (c : Command) (text : Except ReadError String) : Answer :=
  match c with
  | help => { exit := 0, stdout := helpText }
  | version => { exit := 0, stdout := versionText }
  | catalogue pretty => print pretty Catalogue.toJson
  | .analyze file options pretty =>
    match text with
    | .error e => unreadable (file.elim .standardInput .file) e
    | .ok text =>
      match ScriptFeatures.analyze options text with
      | .error e => failure e.message
      | .ok report => print pretty report.toJson

end ScriptFeatures.CommandLine
