import ConfigBrowser.Screen.Dialog
import ConfigBrowser.Screen.Template
import ConfigBrowser.Screen.Toolbar
import ConfigBrowser.Store.Message

/-!
# Events and Actions

The view hears of the world in events and answers with actions, which its host carries out. It
never calls anything itself.
-/

namespace ConfigBrowser

/-- What the host reports to the view. -/
inductive Event where
  /-- The location changed. -/
  | routeChanged (path : String)
  /-- The store answered the request with the ticket. -/
  | storeReplied (ticket : Ticket) (reply : StoreReply)
  /-- A person decided on a dialog. -/
  | dialogResolved (dialog : Ticket) (decision : DialogDecision)
  /-- A timer ran out. -/
  | timerFired (timer : Ticket)
  | toolbarPressed (button : ToolbarButton)
  /-- The displayed entity was clicked. -/
  | editRequested
  /-- The view was entered anew, which ends what stuck from the last visit. -/
  | sessionReset
deriving DecidableEq, Repr

/-- What the view asks its host to do. -/
inductive Action where
  /-- Change the location, and report the new route. -/
  | navigate (path : String)
  /-- Send a request to the store, and report its reply with the same ticket. -/
  | store (ticket : Ticket) (request : StoreRequest)
  | setTab (page : String)
  | setLayout (layout : Layout)
  | setToolbar (mode : ToolbarMode)
  /-- Fill the detail pane. -/
  | render (template : Template) (data : Json)
  /-- Fill the list. -/
  | replaceList (rows : List EntitySummary)
  /-- Set the list's filters. -/
  | syncListFilter (name kind : Option String)
  | showMessage (text : String)
  | clearMessage
  /-- Report when the time, in milliseconds, has passed. -/
  | scheduleTimer (timer : Ticket) (delay : Nat)
  | cancelTimer (timer : Ticket)
  /-- Let a click on the displayed entity ask to edit it. -/
  | enableEditAffordance
  | favoriteChanged (favorited : Bool)
  | openDialog (dialog : Ticket) (spec : DialogSpec)
  | closeDialog (dialog : Ticket)
  /-- Show an error inside an open dialog. -/
  | showDialogError (dialog : Ticket) (message : String)
  | showError (message : String)
deriving DecidableEq, Repr

/-- The name of an action. -/
def Action.kind : Action → String
  | navigate .. => "navigate"
  | store .. => "store"
  | setTab .. => "set_tab"
  | setLayout .. => "set_layout"
  | setToolbar .. => "set_toolbar"
  | render .. => "render"
  | replaceList .. => "replace_list"
  | syncListFilter .. => "sync_list_filter"
  | showMessage .. => "show_message"
  | clearMessage => "clear_message"
  | scheduleTimer .. => "schedule_timer"
  | cancelTimer .. => "cancel_timer"
  | enableEditAffordance => "enable_edit_affordance"
  | favoriteChanged .. => "favorite_changed"
  | openDialog .. => "open_dialog"
  | closeDialog .. => "close_dialog"
  | showDialogError .. => "show_dialog_error"
  | showError .. => "show_error"

end ConfigBrowser
