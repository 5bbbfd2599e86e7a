import SchemaOutline.CommandLine.Run

/-!
# The program

Reads what a command line can refer to, runs the command, and carries out what the transcript says.
-/

set_option autoImplicit false

namespace SchemaOutline.Main

open CommandLine

def causeOf : IO.Error → PathCause
  | .invalidArgument _ 36 _ => .nameTooLong
  | .inappropriateType _ code _ => if code == 21 then .isDirectory else .throughFile
  | _ => .absent

def readPath (path : Path) : IO (Except PathCause (List UInt8)) := do
  try
    let bytes ← IO.FS.readBinFile path.text
    return .ok bytes.toList
  catch error => return .error (causeOf error)

/-- The paths that a run looks at. -/
def pathsOf : Option Request → List Path
  | some (.command command) =>
    Settings.variableFile :: command.path ::
      command.output.toList.flatMap fun path => [path, path.parent]
  | _ => []

def viewOf (paths : List Path) : IO FileView := do
  let contents ← paths.mapM fun path => do return (path, ← readPath path)
  return ⟨fun path => (contents.lookup path).getD (.error .absent)⟩

def environmentOf : IO (List (String × String)) := do
  let names := Settings.names.flatMap fun name =>
    let lower := Settings.variableStem ++ name
    [lower, lower.toUpper]
  let values ← names.mapM fun name => do
    let value ← IO.getEnv name
    return value.map fun value => (name, value)
  return values.filterMap id

def carryOut (transcript : Transcript) : IO Unit := do
  IO.print transcript.printed
  if let some (path, text) := transcript.written then
    IO.FS.writeFile path.text text
  for event in transcript.events do
    IO.eprintln event.line
  if let some (.ok line) := transcript.errorLine? then
    IO.eprintln line
  if let some failure := transcript.crash? then
    IO.eprintln failure.message
  if transcript.ending == .misused then
    IO.eprintln helpText

def program (words : List String) : IO UInt32 := do
  let view ← viewOf (pathsOf (Request.ofWords? words))
  let environment ← environmentOf
  let transcript := run words ⟨view, environment, IdSource.numbered "u", false⟩
  carryOut transcript
  return transcript.exitCode.toUInt32

end SchemaOutline.Main

def main (words : List String) : IO UInt32 := SchemaOutline.Main.program words
