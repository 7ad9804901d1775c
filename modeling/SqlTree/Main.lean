import SqlTree.CommandLine

/-!
# Program

Reads the input that the command line names, and prints the report of the run.
-/

namespace SqlTree.CommandLine

/-- All bytes of a stream. -/
partial def readAll (stream : IO.FS.Stream) (bytes : ByteArray) : IO ByteArray := do
  let more ← stream.read 65536
  if more.isEmpty then return bytes else readAll stream (bytes ++ more)

/-- Reads an input from a place, where what goes wrong becomes a fault. -/
def readFrom (place : String) (read : IO ByteArray) : IO Input := do
  try
    return .ofBytes place (← read)
  catch error =>
    match error with
    | .noFileOrDirectory .. => return .error (place, .noSuchFile)
    | error => return .error (place, .other error.toString)

/-- Reads the input of a command line: SQL that is given as it is, a file, or the standard input. -/
def readInput (arguments : Arguments) : IO Input := do
  match arguments.sql, arguments.file with
  | some sql, _ => return .ok sql
  | none, some file => readFrom file (IO.FS.readBinFile file)
  | none, none => readFrom "stdin" do readAll (← IO.getStdin) .empty

end SqlTree.CommandLine

open SqlTree.CommandLine in
/-- Runs the program. -/
def main (words : List String) : IO UInt32 := do
  let environment ← IO.getEnv sqlVariable
  match (Arguments.read? {} words).bind fun arguments => arguments.completed? environment with
  | none =>
    (← IO.getStderr).putStrLn "error: invalid arguments"
    return 2
  | some arguments =>
    let report := run arguments.settings (← readInput arguments)
    (← IO.getStderr).putStr report.log
    (← IO.getStdout).putStr report.output
    return report.exitCode.toUInt32
