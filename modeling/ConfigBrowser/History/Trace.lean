import ConfigBrowser.History.Lists
import ConfigBrowser.Log.Note

/-!
# Marks of the History

What is noted when a history is changed and when it is given up.

## Main results

* `History.balanced_putMarks`: what is noted on a put is a whole span.
-/

namespace ConfigBrowser.History

open Log

/-- The marks of saving a changed history. One that lives in memory only is not saved. -/
def saveMarks (h : History) : List Mark :=
  match h.file with
  | none => []
  | some file =>
    let text := h.document.text
    .save text ::
      if (file.save text).1 then [.trace .history "history saved" ["path"]] else []

/-- The marks of putting an entry in front of a list. -/
def putMarks (h : History) (key : String) (e : HistoryEntry) : List Mark :=
  Mark.within ⟨.history, "history_put", [("item", key), ("value", e.value)]⟩
    (h.withList key (putFront h.limit e (h.entries key))).saveMarks

/-- The marks of removing entries from a list. -/
def removeMarks (h : History) (key value : String) : List Mark :=
  if (h.entries key).any (·.value = value) then
    (h.withList key ((h.entries key).filter (·.value ≠ value))).saveMarks
  else []

/-- The marks of giving a history up. -/
def closeMarks (h : History) : List Mark :=
  if h.dirty then
    h.saveMarks ++
      if h.close.dirty then [.error .history "failed to save history on drop" ["error"]] else []
  else []

/-- What is noted on a save ends all spans that it begins. -/
theorem balanced_saveMarks (h : History) : Mark.Balanced h.saveMarks := by
  rw [saveMarks]
  split
  · exact Mark.balanced_nil
  · dsimp only
    split
    · exact Mark.balanced_save _ (Mark.balanced_note _ Mark.balanced_nil)
    · exact Mark.balanced_save _ Mark.balanced_nil

/-- What is noted on a put ends all spans that it begins. -/
theorem balanced_putMarks (h : History) (key : String) (e : HistoryEntry) :
    Mark.Balanced (h.putMarks key e) :=
  Mark.balanced_within _ (balanced_saveMarks _)

/-- What is noted on a removal ends all spans that it begins. -/
theorem balanced_removeMarks (h : History) (key value : String) :
    Mark.Balanced (h.removeMarks key value) := by
  rw [removeMarks]
  split
  · exact balanced_saveMarks _
  · exact Mark.balanced_nil

end ConfigBrowser.History
