import ConfigBrowser.View.Action
import ConfigBrowser.Wire.Screen
import ConfigBrowser.Wire.Store

/-!
# Events as JSON

Events are told apart by the member `event`.
-/

namespace ConfigBrowser.Event

/-- The names of the events. -/
def names : List String :=
  ["route_changed", "store_replied", "dialog_resolved", "timer_fired", "toolbar_pressed",
    "edit_requested", "session_reset"]

/-- The JSON form of an event. -/
def toJson : Event → Json
  | routeChanged path => .object [("event", .string "route_changed"), ("path", .string path)]
  | storeReplied ticket reply =>
    .object [("event", .string "store_replied"), ("ticket", ticket.toJson),
      ("reply", reply.toJson)]
  | dialogResolved dialog decision =>
    .object [("event", .string "dialog_resolved"), ("dialog", dialog.toJson),
      ("decision", decision.toJson)]
  | timerFired timer => .object [("event", .string "timer_fired"), ("timer", timer.toJson)]
  | toolbarPressed button =>
    .object [("event", .string "toolbar_pressed"), ("button", .string button.name)]
  | editRequested => .object [("event", .string "edit_requested")]
  | sessionReset => .object [("event", .string "session_reset")]

/-- The event of a JSON form. -/
def ofJson? (j : Json) : Option Event :=
  match Wire.tagged "event" names false j with
  | some ("route_changed", rest) => (Wire.single "path" Wire.text rest).map routeChanged
  | some ("store_replied", rest) => do
    let m ← Wire.members ["ticket", "reply"] rest
    let ticket ← Wire.required m "ticket" Ticket.ofJson?
    let reply ← Wire.required m "reply" (StoreReply.ofJson? true)
    return storeReplied ticket reply
  | some ("dialog_resolved", rest) => do
    let m ← Wire.members ["dialog", "decision"] rest
    let dialog ← Wire.required m "dialog" Ticket.ofJson?
    let decision ← Wire.required m "decision" (DialogDecision.ofJson? true)
    return dialogResolved dialog decision
  | some ("timer_fired", rest) => (Wire.single "timer" Ticket.ofJson? rest).map timerFired
  | some ("toolbar_pressed", rest) =>
    (Wire.single "button" (ToolbarButton.ofJson? true) rest).map toolbarPressed
  | some ("edit_requested", rest) => Wire.bare editRequested rest
  | some ("session_reset", rest) => Wire.bare sessionReset rest
  | _ => none

end ConfigBrowser.Event
