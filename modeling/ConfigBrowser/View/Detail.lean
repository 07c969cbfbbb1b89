import ConfigBrowser.View.State

/-!
# Loading an Entity

Loading asks the store for an entity, says so, and sets a timer under the same ticket. When the
timer runs out while the request is still the one that counts, the message says that the wait is
long. A reply ends the wait; the reply to a request that no longer counts is not the view's.
-/

namespace ConfigBrowser.View

variable {η : Type}

/-- The message while an entity is loading. -/
def loadingText : String := "loading..."

/-- The message once the wait is found long. -/
def stillLoadingText : String := "still loading..."

/-- Is the entity shown for editing? -/
def isEditing (v : View η) (id : String) : Bool := v.mode = .editing id

/-- Starts to load the entity of a route, in place of the one that was loading. -/
def loadDetail (v : View η) (args : RouteArgs) : Turn η :=
  match args.id? with
  | none => .done [] v
  | some id =>
    let superseded := v.pending.toList.map fun p => Action.cancelTimer p.ticket
    let editable := v.isEditing id
    let (ticket, v) := v.issue
    .done
      (superseded ++
        [.store ticket (.get id), .showMessage loadingText, .scheduleTimer ticket v.loadingDelay])
      { v with
        pending := some ⟨ticket, args, editable, false⟩
        mode := if editable then v.mode else .viewing }

/-- Forgets the request under way, if there is one. -/
def abandonDetail (v : View η) : Turn η :=
  match v.pending with
  | some p => .done [.cancelTimer p.ticket, .clearMessage] { v with pending := none }
  | none => .done [] v

/-- Leaves the detail pane to the page's history. -/
def leaveDetail [HistoryStore η] (v : View η) : Turn η :=
  v.abandonDetail.andThen fun v =>
    .done [.render .defaultPage (Template.defaultPageData v.page v.history)]
      { v with displayed := none, mode := .viewing }

/-- Is the entity under way another one than the route's? -/
def pendingDiffers (v : View η) (args : RouteArgs) : Bool :=
  v.pending.any fun p => p.args.id? ≠ args.id?

/-- Has the entity of a route shown for editing when it is next loaded. -/
def enterEditMode (v : View η) (args : RouteArgs) : View η :=
  match args.id? with
  | some id => { v with mode := .editing id }
  | none => v

/-- Is the ticket that of the request under way? -/
def ownsDetail (v : View η) (ticket : Ticket) : Bool := v.pending.any (·.ticket = ticket)

/-- Shows an entity, and remembers it as seen. The history may fail to record that. -/
def showEntity [HistoryStore η] (v : View η) (now : Int) (e : Entity) (args : RouteArgs)
    (editable : Bool) : Turn η :=
  match v.detailPath args with
  | .error err => .fail err v
  | .ok path =>
    let recent := HistoryList.recent.key v.page
    let history := (HistoryStore.put v.history recent ⟨e.name, path, now⟩).2
    let favorited := HistoryStore.contains history (HistoryList.favorites.key v.page) path
    .done
      [.render .detail (Template.detailData e editable favorited), .favoriteChanged favorited,
       .clearMessage, .enableEditAffordance]
      { v with history, displayed := some (e, args) }

/-- Handles the reply to the request under way. -/
def onDetailReply [HistoryStore η] (v : View η) (now : Int) (reply : StoreReply) : Turn η :=
  match v.pending with
  | none => .done [] v
  | some p =>
    (Turn.done [.cancelTimer p.ticket] { v with pending := none }).andThen fun v =>
      match reply with
      | .entity e => v.showEntity now e p.args p.editable
      | .error message => .done [.clearMessage, .showError message] v
      | _ => .done [.clearMessage, .showError "unexpected reply to detail load"] v

/-- Finds the wait long when its timer runs out, once. -/
def onTimer (v : View η) (timer : Ticket) : Turn η :=
  match v.pending with
  | some p =>
    if p.ticket = timer ∧ !p.escalated then
      .done [.showMessage stillLoadingText] { v with pending := some { p with escalated := true } }
    else .done [] v
  | none => .done [] v

end ConfigBrowser.View
