import ConfigBrowser.Store.Describe
import ConfigBrowser.View.Action

/-!
# Describing Events

How a diagnostic shows an event: constructors and fields by their names, strings quoted.
-/

namespace ConfigBrowser

/-- A button as diagnostics show it. -/
def ToolbarButton.describe : ToolbarButton → String
  | .new => "New"
  | .up => "Up"
  | .edit => "Edit"
  | .delete => "Delete"
  | .favorites => "Favorites"

/-- A map of texts as diagnostics show it. -/
def describeTexts (m : SortedMap String String) : String :=
  let entry (e : String × String) : String := Text.quoted e.1 ++ ": " ++ Text.quoted e.2
  "\x7b" ++ ", ".intercalate (m.entries.map entry) ++ "\x7d"

/-- A decision as diagnostics show it. -/
def DialogDecision.describe : DialogDecision → String
  | .confirmed fields => describeRecord "Confirmed" [("fields", describeTexts fields)]
  | .cancelled => "Cancelled"

/-- An event as diagnostics show it. -/
def Event.describe : Event → String
  | .routeChanged path => describeRecord "RouteChanged" [("path", Text.quoted path)]
  | .storeReplied ticket reply =>
    describeRecord "StoreReplied" [("ticket", ticket.describe), ("reply", reply.describe)]
  | .dialogResolved dialog decision =>
    describeRecord "DialogResolved" [("dialog", dialog.describe), ("decision", decision.describe)]
  | .timerFired timer => describeRecord "TimerFired" [("timer", timer.describe)]
  | .toolbarPressed button => describeRecord "ToolbarPressed" [("button", button.describe)]
  | .editRequested => "EditRequested"
  | .sessionReset => "SessionReset"

end ConfigBrowser
