import ConfigBrowser.View.Dialogs
import ConfigBrowser.View.Navigation

/-!
# Handling Events

One step of the view: an event in, actions or an error out, and the next state in either case. The
reading of the clock comes with the event; it stamps what the event adds to the history.
-/

namespace ConfigBrowser.View

variable {η : Type} [HistoryStore η]

/-- Handles a reply. A reply that nobody waits for changes nothing. -/
def onStoreReplied (v : View η) (now : Int) (ticket : Ticket) (reply : StoreReply) : Turn η :=
  if v.ownsDetail ticket then v.onDetailReply now reply
  else if v.ownsSearch ticket then v.onSearchReply reply
  else if v.ownsMutation ticket then v.onMutationReply now reply
  else .done [] v

/-- Handles an event. -/
def step (now : Int) (v : View η) : Event → Turn η
  | .routeChanged path => v.onRouteChanged path
  | .storeReplied ticket reply => v.onStoreReplied now ticket reply
  | .dialogResolved dialog decision => v.onDialogResolved dialog decision
  | .timerFired timer => v.onTimer timer
  | .toolbarPressed button => v.onToolbar now button
  | .editRequested => v.onEditRequested
  | .sessionReset => v.onSessionReset

end ConfigBrowser.View
