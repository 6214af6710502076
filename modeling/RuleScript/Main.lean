/-
  RuleScript.Main
  ───────────────
  **The command line.**

  Reads standard input to its end, and writes what `CommandLine.reply` says.
-/
import RuleScript.CommandLine

namespace RuleScript.CommandLine

/-- All bytes of a stream, after those read so far. -/
partial def readAll (stream : IO.FS.Stream) (bytes : ByteArray) : IO ByteArray := do
  let chunk ← stream.read 65536
  if chunk.isEmpty then return bytes else readAll stream (bytes ++ chunk)

end RuleScript.CommandLine

open RuleScript in
/-- Runs the script on standard input. -/
def main (args : List String) : IO UInt32 := do
  let script ← CommandLine.readAll (← IO.getStdin) .empty
  let reply := CommandLine.reply args script.toList
  (← IO.getStderr).putStr reply.errors
  (← IO.getStdout).putStr reply.output
  return reply.exit.toUInt32
