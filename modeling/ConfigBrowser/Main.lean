import ConfigBrowser.Replay.Run
import Std.Time.DateTime.Timestamp

/-!
# The Command Line

Looks at the files that a replay needs, replays the script, prints its actions and makes the changes
that the replay has left.
-/

namespace ConfigBrowser

/-- The tree with what there is at a path: a file with its text, a folder, or nothing. -/
def look (files : FileTree) (path : String) : IO FileTree := do
  try
    return files.put path (← IO.FS.readFile path)
  catch
    | .inappropriateType .. => return files.putFolder path
    | _ => return files

/-- The tree with what paths lead to and through. -/
def explore (files : FileTree) (paths : List String) : IO FileTree :=
  (paths.flatMap FileTree.waypoints).foldlM look files

/-- Makes the changes from one tree to another one. -/
def apply (old new : FileTree) : IO Unit := do
  for folder in new.folders.reverse do
    unless old.folders.contains folder do
      IO.FS.createDirAll folder
  for path in new.names.keys do
    let text := new.read? path
    if old.read? path ≠ text then
      IO.FS.writeFile path (text.getD "")
  for path in old.names.keys do
    unless new.names.contains path do
      IO.FS.removeFile path

/-- The reading of the clock, in seconds. -/
def readClock : IO Int := do
  return (← Std.Time.Timestamp.now).toSecondsSinceUnixEpoch.val

/-- Replays a script and gives the status of the program. -/
def runReplay (a : Replay.Arguments) : IO UInt32 := do
  let home ← IO.getEnv "HOME"
  let input ← if a.script.isNone then (← IO.getStdin).readToEnd else pure ""
  let named ← explore .empty (a.config.toList ++ a.seed.toList ++ a.script.toList)
  let files ← match Replay.loadSettings home named a with
    | .ok s =>
      let history := s.historyPath.toList
      explore named (history ++ history.map FileTree.draftPath ++ s.logFile.toList)
    | .error _ => pure named
  let report := Replay.replay home files a input (← readClock)
  for line in report.output do
    IO.println line
  apply files report.files
  match report.ending with
  | .finished => pure ()
  | .failed e => IO.eprintln ("error: " ++ e.message)
  | .broken => IO.eprintln "the program broke down"
  return report.ending.status.toUInt32

end ConfigBrowser

open ConfigBrowser in
/-- Runs the program. -/
def main (arguments : List String) : IO UInt32 :=
  match Replay.Invocation.parse arguments with
  | .version => do
    IO.println "confview 0.1.0"
    return 0
  | .misuse => do
    IO.eprintln "usage: confview [--config PATH] [--seed PATH] [SCRIPT]"
    return 2
  | .replay a => runReplay a
