import ConfigBrowser.Files.Tree
import ConfigBrowser.Log.Filter
import ConfigBrowser.Settings

/-!
# The Journal of a Replay

What a replay changes in its surroundings while it goes on: the log file, which takes the notes that
the filter lets pass, and the history file. Both live in one tree, and they may even be the same
file, so the order of their changes matters.

The log file is made when the first note passes, and is kept open from then on. Where its folder
cannot be made there is no log file.

## Main results

* `Journal.files_markAll_of_silent`: without a log file nothing but the history changes the tree.
-/

namespace ConfigBrowser.Replay

open Log

/-- The surroundings of a replay. -/
structure Journal where
  files : FileTree
  filter : Filter
  /-- The ranks up to which notes pass because of the spans that are open, the last in front. -/
  scope : List Nat
  logFile : Option String
  /-- The place of the log file, once it is open. -/
  opened : Option Nat
  historyPath : Option String
deriving DecidableEq, Repr

namespace Journal

/-- The journal at the start of a replay with the given settings, if these have a filter. -/
def start? (files : FileTree) (s : Settings) : Option Journal :=
  (Filter.ofSetting? s.traceLevel).map fun filter =>
    let ready := s.logFile.bind files.makeParents
    { files := ready.getD files
      filter
      scope := []
      logFile := if ready.isSome then s.logFile else none
      opened := none
      historyPath := s.historyPath }

/-- Writes a line to the log file, if it can be opened. -/
def write (j : Journal) (line : String) : Journal :=
  match j.logFile with
  | none => j
  | some path =>
    match j.opened with
    | some place => { j with files := j.files.append place line }
    | none =>
      match j.files.openFile path with
      | some (place, files) => { j with files := files.append place line, opened := some place }
      | none => j

/-- What a mark does. -/
def mark (j : Journal) : Mark → Journal
  | .note n => if j.filter.passes j.scope n then j.write n.line else j
  | .enter s => { j with scope := j.filter.spanThreshold s :: j.scope }
  | .leave => { j with scope := j.scope.tail }
  | .save document =>
    match j.historyPath with
    | some path => { j with files := j.files.saveHistory path document }
    | none => j

/-- What marks do in order. -/
def markAll (j : Journal) (marks : List Mark) : Journal := marks.foldl mark j

/-! ### Laws -/

/-- Without a log file nothing is written. -/
theorem write_of_silent {j : Journal} (h : j.logFile = none) (line : String) :
    j.write line = j := by
  simp [write, h]

/-- A mark opens no log file. -/
theorem logFile_mark_of_silent {j : Journal} (h : j.logFile = none) (m : Mark) :
    (j.mark m).logFile = none := by
  cases m with
  | note n => simp [mark, write_of_silent h, h]
  | enter s => simpa [mark] using h
  | leave => simpa [mark] using h
  | save document =>
    simp only [mark]
    split <;> exact h

/-- Without a log file, marks that save nothing leave the files as they are. -/
theorem files_markAll_of_silent {j : Journal} (h : j.logFile = none) {marks : List Mark}
    (hsave : ∀ document, .save document ∉ marks) : (j.markAll marks).files = j.files := by
  induction marks generalizing j with
  | nil => rfl
  | cons m rest ih =>
    have hrest : ((j.mark m).markAll rest).files = (j.mark m).files :=
      ih (logFile_mark_of_silent h m) fun document hmem => hsave document (.tail _ hmem)
    refine hrest.trans ?_
    cases m with
    | note n => simp [mark, write_of_silent h]
    | enter s => rfl
    | leave => rfl
    | save document => exact absurd (.head _) (hsave document)

end Journal

end ConfigBrowser.Replay
