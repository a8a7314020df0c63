import ObjectDocument.CommandLine

/-!
# The program

The outer layer of the command line: it reads the input, carries out the command and writes the
output.
-/

namespace ObjectDocument.CommandLine

/-- The text of a stream, if it can be read. -/
def readStream : Stream → IO (Option String)
  | .standard => do
    let stdin ← IO.getStdin
    return some (← stdin.readToEnd)
  | .file path => do
    try
      return some (← IO.FS.readFile path)
    catch _ =>
      return none

/-- Write a text to a stream, and tell whether that succeeded. -/
def writeStream (text : String) : Stream → IO Bool
  | .standard => do
    IO.print text
    return true
  | .file path => do
    try
      IO.FS.writeFile path text
      return true
    catch _ =>
      return false

def runInvocation (i : Invocation) : IO UInt32 := do
  let input ← readStream i.input
  let outcome := execute i.config i.command input
  let target := if outcome.code = 0 then i.output else .standard
  let written ← writeStream outcome.text target
  return if written then outcome.code.toUInt32 else 1

end ObjectDocument.CommandLine

open ObjectDocument in
def main (args : List String) : IO UInt32 := do
  match CommandLine.parse args (← IO.getEnv CommandLine.configVariable) with
  | .run i => CommandLine.runInvocation i
  | .help => do
    IO.print CommandLine.usage
    return 0
  | .misuse => return CommandLine.misuse.code.toUInt32
