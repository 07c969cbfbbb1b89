import ConfigBrowser.History.Document
import ConfigBrowser.History.Store

/-!
# Bounded History Lists

The history store of the browser. Its lists hold the latest entries first, no two entries with the
same value, and no more entries than its limit. They live in memory, and in a file where there is
one: after every change the whole document is written to a draft, which then takes the file's
place. A change that could not be saved is kept and marks the history as dirty, until a later save
succeeds.

## Main results

* `HistoryFile.save_text`: a save leaves the file as it was or with exactly the new text.
* `History.put_lists`, `History.remove_eq_false`: what a change does to the lists, saved or not.
* `History.put_of_file_eq_none`, `History.remove_of_file_eq_none`: changes of a history in memory.
-/

namespace ConfigBrowser

/-- How the surroundings of a history file treat its owner. -/
inductive FileAccess where
  /-- Everything succeeds. -/
  | granted
  /-- The draft cannot be written. -/
  | draftRefused
  /-- The draft cannot take the place of the file. -/
  | renameRefused
  /-- There is no folder for the file, and none can be made. -/
  | folderRefused
deriving DecidableEq, Repr

/-- A history file and its surroundings. -/
structure HistoryFile where
  /-- The text of the file, if it is there. -/
  text : Option String
  /-- The text of a draft that was left behind. -/
  draft : Option String
  access : FileAccess
deriving DecidableEq, Repr

namespace HistoryFile

/-- Writes a text to the file by way of a draft, and says whether that succeeded. -/
def save (f : HistoryFile) (text : String) : Bool × HistoryFile :=
  match f.access with
  | .granted => (true, { f with text := some text, draft := none })
  | .renameRefused => (false, { f with draft := some text })
  | .draftRefused | .folderRefused => (false, f)

/-- A save either writes the text or leaves the one there is. -/
theorem save_text (f : HistoryFile) (text : String) :
    (f.save text).2.text = if (f.save text).1 then some text else f.text := by
  rw [save]
  split <;> rfl

end HistoryFile

/-- The history of a browser. -/
structure History where
  document : HistoryDocument
  /-- The most entries that a list may hold. -/
  limit : Nat
  limit_pos : 0 < limit
  /-- Has a change not been saved? -/
  dirty : Bool
  file : Option HistoryFile
deriving DecidableEq, Repr

namespace History

/-- An empty history without a file. A limit of zero counts as one. -/
def inMemory (limit : Nat) : History := ⟨.initial, max limit 1, by omega, false, none⟩

/-- Opens the history of a file, which is empty if the file is not there. -/
def openFile (file : HistoryFile) (limit : Nat) : Except Error History :=
  let opened (document : HistoryDocument) : History :=
    ⟨document, max limit 1, by omega, false, some file⟩
  if file.access = .folderRefused then .error .io
  else
    match file.text with
    | none => .ok (opened .initial)
    | some text =>
      match HistoryDocument.ofText? text with
      | some document => .ok (opened document)
      | none => .error (.history "failed to parse JSON")

/-- Saves the history if it is dirty. Without a file there is nothing to write. -/
def save (h : History) : Except Error Unit × History :=
  if h.dirty then
    match h.file with
    | none => (.ok (), { h with dirty := false })
    | some file =>
      let (saved, file) := file.save h.document.text
      if saved then (.ok (), { h with dirty := false, file := some file })
      else (.error .io, { h with file := some file })
  else (.ok (), h)

/-- The entries of a list. -/
def entries (h : History) (key : String) : List HistoryEntry :=
  (h.document.lists.get? key).getD []

/-- A list with an entry in front, in place of those with the same value, cut to the limit. -/
def putFront (limit : Nat) (e : HistoryEntry) (list : List HistoryEntry) : List HistoryEntry :=
  (e :: list.filter (·.value ≠ e.value)).take limit

/-- The history with another list under a key, not yet saved. -/
def withList (h : History) (key : String) (list : List HistoryEntry) : History :=
  { h with
    document := { h.document with lists := h.document.lists.insert key list }
    dirty := true }

/-- Puts an entry in front of a list and saves. -/
def put (h : History) (key : String) (e : HistoryEntry) : Except Error Unit × History :=
  (h.withList key (putFront h.limit e (h.entries key))).save

/-- Removes the entries with a value from a list and saves. Where there are none nothing is
saved. -/
def remove (h : History) (key value : String) : Except Error Bool × History :=
  if (h.entries key).any (·.value = value) then
    let (saved, h) := (h.withList key ((h.entries key).filter (·.value ≠ value))).save
    (saved.map fun _ => true, h)
  else (.ok false, h)

/-- What becomes of a history that is given up: it is saved if it is dirty. -/
def close (h : History) : History := h.save.2

instance : HistoryStore History := ⟨put, remove, entries⟩

/-! ### Changes -/

/-- Saving leaves the document. -/
theorem save_document (h : History) : h.save.2.document = h.document := by
  rw [save]
  grind

/-- Without a file there is nothing to write, and a save succeeds. -/
theorem save_of_file_eq_none {h : History} (hfile : h.file = none) :
    h.save = (.ok (), { h with dirty := false }) := by
  rw [save]
  split
  · rw [hfile]
  · next hclean =>
    obtain ⟨document, limit, hlimit, dirty, file⟩ := h
    obtain rfl : dirty = false := by simpa using hclean
    rfl

/-- In memory an entry is put without a chance to fail. -/
theorem put_of_file_eq_none {h : History} (hfile : h.file = none) (key : String)
    (e : HistoryEntry) :
    h.put key e =
      (.ok (), { h.withList key (putFront h.limit e (h.entries key)) with dirty := false }) :=
  save_of_file_eq_none (h := h.withList key (putFront h.limit e (h.entries key))) hfile

/-- In memory a value is removed without a chance to fail. -/
theorem remove_of_file_eq_none {h : History} (hfile : h.file = none) (key value : String) :
    h.remove key value =
      if (h.entries key).any (·.value = value) then
        (.ok true,
          { h.withList key ((h.entries key).filter (·.value ≠ value)) with dirty := false })
      else (.ok false, h) := by
  have hsave := save_of_file_eq_none
    (h := h.withList key ((h.entries key).filter (·.value ≠ value))) hfile
  rw [remove, hsave]
  rfl

/-- The lists change with a put whether or not they can be saved. -/
theorem put_lists (h : History) (key : String) (e : HistoryEntry) :
    (h.put key e).2.document.lists =
      h.document.lists.insert key (putFront h.limit e (h.entries key)) := by
  rw [put, save_document, withList]

/-- Nothing happens when a value is removed that is not there. -/
theorem remove_eq_false {h : History} {key value : String}
    (hnone : ∀ e ∈ h.entries key, e.value ≠ value) : h.remove key value = (.ok false, h) := by
  have : (h.entries key).any (·.value = value) = false := by simpa using hnone
  simp [remove, this]

end History

end ConfigBrowser
