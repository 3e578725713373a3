import Chronicle.Headless
import Chronicle.Json.Printer
import Chronicle.Shell.Run

/-!
The command line program.  It reads the files that the command line names, runs the session without
a terminal and prints the report.

A session at a terminal is not run from here.  What its keys ask for (`Event.command?`) and what it draws
(`Screen.draw`) are there, but not the loop around them, which switches the terminal over, reads the keys
and draws again.  The pause between the lines of a replay and the log are left out too: their options are
read and nothing follows from them.
-/

namespace Chronicle

/-- The bytes of a file, or why they cannot be read. -/
def readFile (path : String) : IO (Except Config.FileFault (List UInt8)) := do
  try
    let contents ← IO.FS.readBinFile path
    return .ok contents.toList
  catch
    | .noFileOrDirectory .. => return .error .missing
    | e => return .error (.other (toString e))

/-- Runs a session without a terminal and prints its report. -/
def printReport (a : Arguments) : IO Unit := do
  let config ← readFile a.config
  let replay ← match a.replay with
    | some path => readFile path
    | none => pure (.error .missing)
  let now ← IO.monoNanosNow
  let session := Headless.run a ⟨config, replay⟩ Shell.runLine now
  let report := session.report (← IO.monoNanosNow)
  IO.println (Json.renderPretty 0 report.toJson)

end Chronicle

open Chronicle in
/-- Reads the command line. -/
def main (line : List String) : IO UInt32 := do
  match Arguments.parse line with
  | .error .help =>
    IO.println Arguments.usage
    return 0
  | .error e =>
    IO.eprintln ("error: " ++ e.message ++ "\n" ++ Arguments.usage)
    return 2
  | .ok a =>
    if a.headless then
      printReport a
      return 0
    else
      IO.eprintln "error: only sessions without a terminal are run; give --headless"
      return 1
