import ConfigBrowser.Error
import ConfigBrowser.Files.Path
import ConfigBrowser.SortedMap
import ConfigBrowser.Text.Blank
import ConfigBrowser.Text.Digits
import ConfigBrowser.Toml.Document

/-!
# Settings

What a person may set: the page, how long a wait may last, the history and its limit, and the log.
Settings come from a map of texts, where a bad value falls back to its default, or from a TOML
document, where it is an error. Paths may begin with a tilde for the home folder.

## Main results

* `Settings.ofMap_empty`: a map that sets nothing gives the default settings.
-/

namespace ConfigBrowser

/-- The settings of a browser. -/
structure Settings where
  page : String
  /-- How long a request for an entity may take before the wait is found long, in milliseconds. -/
  loadingDelay : Nat
  /-- The history file; without one the history is kept in memory. -/
  historyPath : Option String
  /-- The most entries that a history list may hold. -/
  historyLimit : Nat
  /-- What is logged. -/
  traceLevel : Option String
  logFile : Option String
deriving DecidableEq, Repr

namespace Settings

/-- The settings of a browser for which nothing is set. -/
def default : Settings := ⟨"configs", 3000, none, 10, none, none⟩

/-- Numbers in settings stay below this bound. -/
def numberBound : Nat := UInt64.size

/-- A number in a map of texts, blanks around it or not. -/
def readNumber (s : String) : Option Nat := Text.readCount numberBound (Text.trim s.toList)

/-- The settings of a map of texts. -/
def ofMap (home : Option String) (m : SortedMap String String) : Settings :=
  { page := (((m.get? "page_name").map Text.trimmed).filter (· ≠ "")).getD default.page
    loadingDelay := ((m.get? "loading_delay_ms").bind readNumber).getD default.loadingDelay
    historyPath := (m.get? "history_path").map (Path.expandHome home)
    historyLimit :=
      (((m.get? "history_limit").bind readNumber).filter (0 < ·)).getD default.historyLimit
    traceLevel := m.get? "trace_level"
    logFile := (m.get? "log_file").map (Path.expandHome home) }

/-- Where no variable is set, the settings are the default ones. -/
theorem ofMap_empty (home : Option String) : ofMap home .empty = default := rfl

/-! ### TOML documents -/

/-- The keys that a document may set. -/
def keys : List String :=
  ["page_name", "loading_delay_ms", "history_path", "history_limit", "trace_level", "log_file"]

/-- The text of a key that may be set. -/
def textOf (m : SortedMap String Toml.Value) (key : String) : Except Error (Option String) :=
  match m.get? key with
  | none => .ok none
  | some (.string s) => .ok (some s)
  | some (.integer _) => .error .toml

/-- The number of a key that may be set. -/
def numberOf (m : SortedMap String Toml.Value) (key : String) : Except Error (Option Nat) :=
  match m.get? key with
  | none => .ok none
  | some (.string _) => .error .toml
  | some (.integer i) => if 0 ≤ i then .ok (some i.toNat) else .error .toml

/-- The settings of a document, before they are checked. -/
def ofDocument (m : SortedMap String Toml.Value) : Except Error Settings := do
  if m.keys.all (keys.contains ·) then
    let page ← textOf m "page_name"
    let loadingDelay ← numberOf m "loading_delay_ms"
    let historyPath ← textOf m "history_path"
    let historyLimit ← numberOf m "history_limit"
    let traceLevel ← textOf m "trace_level"
    let logFile ← textOf m "log_file"
    return ⟨page.getD default.page, loadingDelay.getD default.loadingDelay, historyPath,
      historyLimit.getD default.historyLimit, traceLevel, logFile⟩
  else .error .toml

/-- The settings with their paths expanded, if the page has a name and a list may hold entries. -/
def check (home : Option String) (s : Settings) : Except Error Settings :=
  if Text.isAllBlank s.page then .error (.config .blankPageName)
  else if s.historyLimit = 0 then .error (.config .zeroHistoryLimit)
  else
    .ok { s with
      historyPath := s.historyPath.map (Path.expandHome home)
      logFile := s.logFile.map (Path.expandHome home) }

/-- The settings of a TOML text. -/
def ofToml (home : Option String) (source : String) : Except Error Settings :=
  match Toml.parse source with
  | some m => (ofDocument m).bind (check home)
  | none => .error .toml

/-- The settings of a file with the given text, if there is one. -/
def load (home : Option String) (text : Option String) : Except Error Settings :=
  match text with
  | some source => ofToml home source
  | none => .error .io

end Settings

end ConfigBrowser
