import ToolBindings.CommandLine
/-!
# The generator as a program

Reads a request from standard input, writes the answer to standard output and the log to
standard error.
-/

namespace ToolBindings

/-- The variable of the environment that holds the log threshold. -/
def thresholdVariable : String := "PROTOC_GEN_TOOLS_LOG_LEVEL"

/-- The octets of a stream up to its end. -/
partial def readAll (stream : IO.FS.Stream) (octets : ByteArray) : IO ByteArray := do
  let chunk ← stream.read 65536
  if chunk.isEmpty then return octets else readAll stream (octets ++ chunk)

end ToolBindings

/-- Exits with status 1 if there is no answer. -/
def main : IO UInt32 := do
  let choice ← IO.getEnv ToolBindings.thresholdVariable
  let octets ← ToolBindings.readAll (← IO.getStdin) ByteArray.empty
  let outcome := ToolBindings.run choice octets.data.toList
  IO.eprint outcome.log
  match outcome.answer with
  | .ok answer =>
    let stdout ← IO.getStdout
    stdout.write ⟨answer.toArray⟩
    stdout.flush
    return 0
  | .error .badThreshold =>
    IO.eprintln "the log level is not a number"
    return 1
  | .error .malformed =>
    IO.eprintln "the request cannot be read"
    return 1
  | .error .incomplete =>
    IO.eprintln "options in the request are incomplete"
    return 1
