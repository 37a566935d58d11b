import LowPowerPayload.Command.Run
/-!
# The `cayenne-lpp` command

Reads the catalog file the command line names, runs the command, prints what it prints and
exits with its code. An error no part of the command handles is written to the error stream.
-/

open LowPowerPayload

/-- What a path names: a directory by its form or by what reading it finds, a file that may not
be read, a file with its bytes, or nothing. -/
def readEntry (path : String) : IO PathEntry := do
  if Catalog.isDirectoryPath path then return .directory
  try
    return .file (← IO.FS.readBinFile path).toList
  catch
    | .permissionDenied .. => return .denied
    | .inappropriateType _ 21 _ => return .directory
    | _ => return .absent

/-- Runs the command line. -/
def main (argv : List String) : IO UInt32 := do
  let entry ← match Command.catalogPath argv with
    | some p => readEntry p
    | none => pure .absent
  let files (q : String) : PathEntry :=
    if some q == Command.catalogPath argv then entry else .absent
  match Command.run argv files with
  | .ok out =>
    IO.print out.stdout
    return out.exit.toUInt32
  | .error (.fault f) =>
    IO.eprintln f.message
    return 1
  | .error (.catalog issue) =>
    IO.eprintln (issue.message?.getD "")
    return 1
