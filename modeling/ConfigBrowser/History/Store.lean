import ConfigBrowser.Error
import ConfigBrowser.History.Entry

/-!
# History Stores

What the browser asks of the keeper of its history. A change may fail, when it cannot be recorded;
the store has a next state in either case.
-/

namespace ConfigBrowser

/-- A keeper of history lists. -/
class HistoryStore (η : Type) where
  /-- Puts an entry in front of a list, in place of every entry with the same value. -/
  put : η → String → HistoryEntry → Except Error Unit × η
  /-- Removes the entries with a value from a list, and says whether there were any. -/
  remove : η → String → String → Except Error Bool × η
  /-- The entries of a list, the latest first. -/
  entries : η → String → List HistoryEntry

namespace HistoryStore

variable {η : Type} [HistoryStore η]

/-- Does a list hold an entry with the value? -/
def contains (h : η) (key value : String) : Bool := (entries h key).any (·.value = value)

/-- An entry as a line of text. -/
def line (e : HistoryEntry) : String := e.name ++ " <" ++ e.value ++ ">"

/-- A list as text, one line for each entry; `none` if there are no entries. -/
def rendered (h : η) (key : String) : Option String :=
  match entries h key with
  | [] => none
  | es => some ("\n".intercalate (es.map line))

end HistoryStore

end ConfigBrowser
