import ConfigBrowser.Error
import ConfigBrowser.Files.Path
import ConfigBrowser.Log.Folder

/-!
# The Rotating Log File

A log is written to one file. When that has grown beyond its limit, the next write first gives it
a name with a stamp, the reading of the clock, and begins a new file. Of the files whose names go
on from that of the log with a dot, only the three changed last are kept.

Whoever writes keeps the file open. Another writer of the same log notices a rotation only when the
new file is full, too, and until then goes on writing to the old one.

## Main results

* `LogFile.rotate_of_size_le`: a file within its limit is not rotated.
-/

namespace ConfigBrowser

open Log

/-- A writer of a log file. -/
structure LogFile where
  /-- The name of the file in its folder. -/
  name : String
  /-- The file that is open, by its place in the folder. -/
  opened : Option Nat
deriving DecidableEq, Repr

namespace LogFile

/-- A file of more bytes is rotated. -/
def sizeLimit : Nat := 10 * 1024 * 1024

/-- The most rotated files that are kept. -/
def backupLimit : Nat := 3

/-- A writer that has not written, by the path of its file from its folder. A path that leads out
of the folder serves as the name of a file that cannot be opened. -/
def new (path : String) : LogFile :=
  ⟨(Path.nameHere? path.toList).elim path String.ofList, none⟩

/-- The name of a file that is rotated when the clock shows a number of seconds. -/
def backupName (name : String) (clock : Int) : String := name ++ "." ++ toString clock

/-- Does a name go on from that of the log with a dot? -/
def isBackup (name candidate : String) : Bool :=
  (name ++ ".").toList.isPrefixOf candidate.toList

/-- The names of the rotated files, those changed last in front. -/
def backups (d : Folder) (name : String) : List String :=
  let changed (candidate : String) : Moment :=
    (d.file? candidate).elim ⟨0, 0⟩ File.modified
  (d.names.keys.filter (isBackup name)).mergeSort fun a b => (changed a).notBefore (changed b)

/-- Removes all rotated files but those to be kept. -/
def prune (d : Folder) (name : String) : Folder :=
  ((backups d name).drop backupLimit).foldl Folder.remove d

/-- Has the file of the log grown beyond its limit? -/
def isFull (d : Folder) (name : String) : Bool :=
  (d.file? name).any fun f => sizeLimit < f.size

/-- May the folder have a file of this name? -/
def isFileName (name : String) : Bool :=
  Path.nameHere? name.toList = some name.toList && !Path.isRefused name.toList

/-- Rotates the file if it is full. That fails where the name with the stamp is too long. -/
def rotate (l : LogFile) (d : Folder) (clock : Int) : Option Folder × LogFile :=
  if isFull d l.name then
    let backup := backupName l.name clock
    let renamed := if isFileName backup then some (prune (d.rename l.name backup) l.name) else none
    (renamed, { l with opened := none })
  else (some d, l)

/-- Opens the file, making it if it is not there. -/
def openFile (l : LogFile) (d : Folder) (now : Moment) : Option (Nat × Folder) :=
  match l.opened with
  | some place => some (place, d)
  | none =>
    match d.find? l.name with
    | some place => some (place, d)
    | none => if isFileName l.name then some (d.create l.name ⟨[], now⟩) else none

/-- Writes bytes to the log and gives their number. That fails if the file cannot be rotated or
opened. -/
def write (l : LogFile) (d : Folder) (now : Moment) (b : List UInt8) :
    Except Error Nat × LogFile × Folder :=
  match l.rotate d now.seconds with
  | (none, l) => (.error .io, l, d)
  | (some rotated, l) =>
    match l.openFile rotated now with
    | none => (.error .io, l, rotated)
    | some (place, opened) =>
      let written := if b = [] then opened else opened.update place (·.append b now)
      (.ok b.length, { l with opened := some place }, written)

/-- A file within the limit is not rotated. -/
theorem rotate_of_size_le {d : Folder} {l : LogFile} {f : File} (hf : d.file? l.name = some f)
    (h : f.size ≤ sizeLimit) (clock : Int) : l.rotate d clock = (some d, l) := by
  have : isFull d l.name = false := by simp [isFull, hf, h]
  simp [rotate, this]

end LogFile

end ConfigBrowser
