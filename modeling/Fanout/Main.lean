import Fanout.CommandLine.Report

/-!
# The program

Reads files, runs the command line, prints what comes of it.
-/

namespace Fanout

open CommandLine

/-- Why the system could not read a file. -/
def reasonOf : IO.Error → Unreadable
  | .inappropriateType _ code _ => if code = 20 then .notDirectory else .directory
  | .invalidArgument _ code _ => if code = 36 then .nameTooLong else .nullInName
  | _ => .missing

/-- Looking at the files of the system. -/
def systemFiles : IO (FileAccess IO) := do
  let userFolder? ← IO.getEnv "XDG_CONFIG_HOME"
  let home? ← IO.getEnv "HOME"
  return {
    read := fun path => do
      try return .ok (← IO.FS.readFile path)
      catch fault => return .error (reasonOf fault)
    isFile := fun path => do
      try
        let _ ← IO.FS.readFile path
        return true
      catch _ => return false
    userFolder? := userFolder?.or (home?.map fun home => joinPath home ".config") }

end Fanout

open Fanout CommandLine in
/-- Runs the planner. -/
def main (words : List String) : IO UInt32 := do
  match ← run (← systemFiles) words with
  | .misused =>
    IO.eprintln "Usage: cloudgen [OPTIONS] <plan|modules|catalog|describe>"
    return 2
  | .failed fault =>
    IO.eprintln (faultReport fault)
    return 1
  | .done output =>
    IO.print output
    return 0
