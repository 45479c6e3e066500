import ScriptFeatures.CommandLine

namespace ScriptFeatures.CommandLine

/-- The bytes of a stream up to its end. -/
partial def readAll (stream : IO.FS.Stream) (bytes : ByteArray) : IO ByteArray := do
  let chunk ← stream.read 65536
  if chunk.isEmpty then return bytes else readAll stream (bytes ++ chunk)

def readErrorOf : IO.Error → ReadError
  | .noFileOrDirectory .. => .missing
  | .inappropriateType .. => .directory
  | e => .other (toString e)

/-- The text at an origin. -/
def read (origin : Origin) : IO (Except ReadError String) := do
  try
    let bytes ← match origin with
      | .file path => IO.FS.readBinFile path
      | .standardInput => readAll (← IO.getStdin) .empty
    return decode bytes
  catch e => return .error (readErrorOf e)

/-- The answer to the arguments. -/
def run (args : List String) : IO Answer := do
  match parse args with
  | .error e => return e.answer
  | .ok command =>
    match command.origin? with
    | some origin => return command.answer (← read origin)
    | none => return command.answer (.ok "")

end ScriptFeatures.CommandLine

def main (args : List String) : IO UInt32 := do
  let answer ← ScriptFeatures.CommandLine.run args
  (← IO.getStdout).putStr answer.stdout
  (← IO.getStderr).putStr answer.stderr
  return answer.exit.toUInt32
