-- SUMMARY: The program: arguments and files in, output and messages out.
import Flowchart.CommandLine

open Flowchart CommandLine

/-- The reason that messages give for a failed access to a file. -/
def accessFailure : IO.Error → FileError
  | .noFileOrDirectory .. => .missing
  | .inappropriateType .. => .directory
  | error => .unreadable (toString error)

/-- The bytes of a file. -/
def readFileBytes (path : String) : IO (Except FileError ByteArray) := do
  match ← (IO.FS.readBinFile path).toBaseIO with
  | .ok contents => return .ok contents
  | .error error => return .error (accessFailure error)

/-- The files named by the settings, read beforehand. -/
def readFiles (settings : Settings) : IO Files := do
  let paths := settings.file.toList ++ settings.shapes.toList
  let read ← paths.mapM fun path => return (path, ← readFileBytes path)
  let input ←
    if settings.file.isSome then pure ByteArray.empty
    else (← IO.getStdin).readBinToEnd
  return ⟨.ok input, fun path => (read.lookup path).getD (.error .missing)⟩

/-- The line that logs a notice. -/
def logLine (notice : Notice) : String :=
  notice.target ++ ": " ++ notice.message

def main (arguments : List String) : IO UInt32 := do
  let files ←
    match Settings.ofArguments arguments with
    | .ok settings => readFiles settings
    | .error _ => pure ⟨.ok .empty, fun _ => .error .missing⟩
  let outcome := run arguments files
  for notice in outcome.notices do
    IO.eprintln (logLine notice)
  for message in outcome.messages do
    IO.eprintln message
  IO.print outcome.output
  return outcome.exitCode.toUInt32
