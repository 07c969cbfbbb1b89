import ConfigBrowser.View.Action
import ConfigBrowser.Wire.Screen
import ConfigBrowser.Wire.Store

/-!
# Actions as JSON

Actions are told apart by the member `action`, which holds their kind.

## Main results

* `Action.toJson_tag`: the form of an action begins with its kind.
-/

namespace ConfigBrowser.Action

/-- The kinds of actions. -/
def kinds : List String :=
  ["navigate", "store", "set_tab", "set_layout", "set_toolbar", "render", "replace_list",
    "sync_list_filter", "show_message", "clear_message", "schedule_timer", "cancel_timer",
    "enable_edit_affordance", "favorite_changed", "open_dialog", "close_dialog",
    "show_dialog_error", "show_error"]

/-- The members of an action's JSON form, apart from its kind. -/
def fields : Action → List (String × Json)
  | navigate path => [("path", .string path)]
  | store ticket request => [("ticket", ticket.toJson), ("request", request.toJson)]
  | setTab page => [("page", .string page)]
  | setLayout layout => [("layout", .string layout.name)]
  | setToolbar mode => [("mode", .string mode.name)]
  | render template data => [("template", .string template.name), ("data", data)]
  | replaceList rows => [("rows", .ofList EntitySummary.toJson rows)]
  | syncListFilter name kind => Wire.given "name" name ++ Wire.given "type" kind
  | showMessage text => [("text", .string text)]
  | clearMessage => []
  | scheduleTimer timer delay => [("timer", timer.toJson), ("delay_ms", .ofNat delay)]
  | cancelTimer timer => [("timer", timer.toJson)]
  | enableEditAffordance => []
  | favoriteChanged favorited => [("favorited", .bool favorited)]
  | openDialog dialog spec => [("dialog", dialog.toJson), ("spec", spec.toJson)]
  | closeDialog dialog => [("dialog", dialog.toJson)]
  | showDialogError dialog message => [("dialog", dialog.toJson), ("message", .string message)]
  | showError message => [("message", .string message)]

/-- The JSON form of an action. -/
def toJson (a : Action) : Json := .object (("action", .string a.kind) :: a.fields)

/-- The action of a JSON form. -/
def ofJson? (j : Json) : Option Action :=
  match Wire.tagged "action" kinds false j with
  | some ("navigate", rest) => (Wire.single "path" Wire.text rest).map navigate
  | some ("store", rest) => do
    let m ← Wire.members ["ticket", "request"] rest
    let ticket ← Wire.required m "ticket" Ticket.ofJson?
    let request ← Wire.required m "request" (StoreRequest.ofJson? true)
    return store ticket request
  | some ("set_tab", rest) => (Wire.single "page" Wire.text rest).map setTab
  | some ("set_layout", rest) => (Wire.single "layout" (Layout.ofJson? true) rest).map setLayout
  | some ("set_toolbar", rest) =>
    (Wire.single "mode" (ToolbarMode.ofJson? true) rest).map setToolbar
  | some ("render", rest) => do
    let m ← Wire.members ["template", "data"] rest
    let template ← Wire.required m "template" (Template.ofJson? true)
    let data ← Wire.required m "data" Wire.payload
    return render template data
  | some ("replace_list", rest) =>
    (Wire.single "rows" (Wire.list EntitySummary.ofJson?) rest).map replaceList
  | some ("sync_list_filter", rest) => do
    let m ← Wire.members ["name", "type"] rest
    let name ← Wire.optional m "name" Wire.text
    let kind ← Wire.optional m "type" Wire.text
    return syncListFilter name kind
  | some ("show_message", rest) => (Wire.single "text" Wire.text rest).map showMessage
  | some ("clear_message", rest) => Wire.bare clearMessage rest
  | some ("schedule_timer", rest) => do
    let m ← Wire.members ["timer", "delay_ms"] rest
    let timer ← Wire.required m "timer" Ticket.ofJson?
    let delay ← Wire.required m "delay_ms" (Wire.count Wire.wordBound)
    return scheduleTimer timer delay
  | some ("cancel_timer", rest) => (Wire.single "timer" Ticket.ofJson? rest).map cancelTimer
  | some ("enable_edit_affordance", rest) => Wire.bare enableEditAffordance rest
  | some ("favorite_changed", rest) => (Wire.single "favorited" Wire.flag rest).map favoriteChanged
  | some ("open_dialog", rest) => do
    let m ← Wire.members ["dialog", "spec"] rest
    let dialog ← Wire.required m "dialog" Ticket.ofJson?
    let spec ← Wire.required m "spec" (DialogSpec.ofJson? true)
    return openDialog dialog spec
  | some ("close_dialog", rest) => (Wire.single "dialog" Ticket.ofJson? rest).map closeDialog
  | some ("show_dialog_error", rest) => do
    let m ← Wire.members ["dialog", "message"] rest
    let dialog ← Wire.required m "dialog" Ticket.ofJson?
    let message ← Wire.required m "message" Wire.text
    return showDialogError dialog message
  | some ("show_error", rest) => (Wire.single "message" Wire.text rest).map showError
  | _ => none

/-- The form of an action names its kind. -/
theorem toJson_tag (a : Action) : a.toJson.field? "action" = some (.string a.kind) := by
  simp [toJson, Json.field?, Json.fields?]

end ConfigBrowser.Action
