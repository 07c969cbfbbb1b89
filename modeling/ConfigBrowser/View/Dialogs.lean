import ConfigBrowser.Store.Describe
import ConfigBrowser.View.State

/-!
# Buttons and Dialogs

The view keeps track of one dialog at a time. A dialog takes one decision for each time it asks:
once confirmed it waits for the store, and if creating fails it asks again.
-/

namespace ConfigBrowser.View

variable {η : Type}

/-! ### Opening and deciding -/

/-- Opens a dialog, unless one is tracked already. -/
def openDialog (v : View η) (purpose : DialogPurpose) : Turn η :=
  match v.dialog with
  | some _ => .done [] v
  | none =>
    let (ticket, v) := v.issue
    let spec := match purpose with
      | .create => DialogSpec.create
      | .delete => DialogSpec.delete
    .done [.openDialog ticket spec] { v with dialog := some ⟨ticket, purpose, .prompting⟩ }

/-- Sends the request of a confirmed dialog, which waits for the reply from then on. -/
def sendRequest (v : View η) (p : PendingDialog) (request : StoreRequest) (name : String) :
    Turn η :=
  let (ticket, v) := v.issue
  .done [.store ticket request] { v with dialog := some { p with state := .awaiting ticket name } }

/-- Confirms a dialog. Deleting closes it at once, and asks for nothing if no entity is
selected. -/
def confirm (v : View η) (p : PendingDialog) (fields : SortedMap String String) : Turn η :=
  match p.purpose with
  | .create =>
    let name := (fields.get? "name").getD ""
    let payload := (fields.get? "xml").getD ""
    v.sendRequest p (.put name payload) name
  | .delete =>
    match v.currentArgs.id? with
    | none => .done [.closeDialog p.ticket] { v with dialog := none }
    | some id =>
      (Turn.done [.closeDialog p.ticket] v).andThen fun v => v.sendRequest p (.delete id) ""

/-- Handles a decision. Only the tracked dialog takes one, and only while it asks. -/
def onDialogResolved (v : View η) (dialog : Ticket) (decision : DialogDecision) : Turn η :=
  match v.dialog with
  | none => .done [] v
  | some p =>
    if p.ticket = dialog ∧ p.state = .prompting then
      match decision with
      | .cancelled => .done [.closeDialog dialog] { v with dialog := none }
      | .confirmed fields => v.confirm p fields
    else .done [] v

/-! ### Replies -/

/-- Is the ticket that of the request the dialog waits for? -/
def ownsMutation (v : View η) (ticket : Ticket) : Bool :=
  v.dialog.any fun p =>
    match p.state with
    | .awaiting request _ => request = ticket
    | .prompting => false

/-- What a person is told about a reply that is not the one hoped for. -/
def failureText : StoreReply → String
  | .error message => message
  | other => "unexpected reply: " ++ other.describe

/-- Remembers a new entity and shows it. The history may fail to record it. -/
def onCreated [HistoryStore η] (v : View η) (now : Int) (dialog : Ticket) (name id : String) :
    Turn η :=
  let args := v.currentArgs.set RouteArgs.idKey id
  match v.detailPath args with
  | .error e => .fail e v
  | .ok value =>
    match v.hash .loadNewConfigs (args.withFlag .new) with
    | .error e => .fail e v
    | .ok path =>
      let history := (HistoryStore.put v.history (HistoryList.new.key v.page) ⟨name, value, now⟩).2
      .done [.closeDialog dialog, .navigate path] { v with history }

/-- Handles the reply to the request that the dialog waits for. -/
def onMutationReply [HistoryStore η] (v : View η) (now : Int) (reply : StoreReply) : Turn η :=
  match v.dialog with
  | none => .done [] v
  | some p =>
    match p.state with
    | .prompting => .done [] v
    | .awaiting _ name =>
      let v := { v with dialog := none }
      match p.purpose, reply with
      | .create, .created id => v.onCreated now p.ticket name id
      | .create, other =>
        .done [.showDialogError p.ticket (failureText other)]
          { v with dialog := some { p with state := .prompting } }
      | .delete, .deleted => v.redirect .loadDelete (v.currentArgs.withFlag .deleted)
      | .delete, other =>
        let (dialog, v) := v.issue
        .done [.openDialog dialog (.error (failureText other))] v

/-! ### Buttons -/

/-- Asks to edit the selected entity. -/
def onEditRequested (v : View η) : Turn η :=
  let args := v.currentArgs
  if args.id?.isNone then .done [] v
  else
    let kept := args.only [RouteArgs.idKey, RouteArgs.nameKey, RouteArgs.typeKey]
    v.redirect .loadEditConfigs (kept.withFlag .edit)

/-- Marks the displayed entity as a favorite, or no longer. -/
def toggleFavorite [HistoryStore η] (v : View η) (now : Int) : Turn η :=
  match v.displayed with
  | none => .done [] v
  | some (e, args) =>
    match v.detailPath args with
    | .error err => .fail err v
    | .ok path =>
      let key := HistoryList.favorites.key v.page
      if HistoryStore.contains v.history key path then
        let (outcome, history) := HistoryStore.remove v.history key path
        ⟨outcome.map fun _ => [.favoriteChanged false], { v with history }⟩
      else
        let (outcome, history) := HistoryStore.put v.history key ⟨e.name, path, now⟩
        ⟨outcome.map fun _ => [.favoriteChanged true], { v with history }⟩

/-- Handles the press of a button. -/
def onToolbar [HistoryStore η] (v : View η) (now : Int) (button : ToolbarButton) : Turn η :=
  if (v.toolbar.getD .noSelection).isEnabled button then
    match button with
    | .new => v.openDialog .create
    | .delete => v.openDialog .delete
    | .up => v.redirect .load (v.currentArgs.only [RouteArgs.nameKey, RouteArgs.typeKey])
    | .edit => v.onEditRequested
    | .favorites => v.toggleFavorite now
  else .done [] v

end ConfigBrowser.View
