import ConfigBrowser.Proofs.View.Dialogs
import ConfigBrowser.Proofs.View.Errands

/-!
# Turns Written Out

Single turns of a view that waits for no entity: a dialog is opened and confirmed, a route is
entered and handled, the list is filled, and the reply to a change is handed to the dialog.

## Main results

* `View.step_routeChanged_of_handle`: a route is entered, and then its handler decides.
* `View.step_storeReplied_of_pending`: replies when no entity is waited for.
-/

namespace ConfigBrowser.View

variable {η : Type}

/-- The view once a button has opened a dialog. -/
def prompted (v : View η) (purpose : DialogPurpose) : View η :=
  { v with
    dialog := some ⟨v.nextTicket, purpose, .prompting⟩
    lastTicket := v.lastTicket + 1 }

/-- The view once its dialog has sent a request. -/
def awaiting (v : View η) (p : PendingDialog) (name : String) : View η :=
  { v with
    dialog := some { p with state := .awaiting v.nextTicket name }
    lastTicket := v.lastTicket + 1 }

/-- Entering a route has no entity waited for. -/
theorem pending_entered_of_none {v : View η} (hpending : v.pending = none) (path : String)
    (h : Handler) (args : RouteArgs) : (v.entered path h args).pending = none := by
  simp [entered, hpending]

/-- The toolbar moves no dialog. -/
@[simp] theorem filter_movesDialog_toolbarActions (v : View η) (mode : ToolbarMode) :
    (v.toolbarActions mode).filter Action.movesDialog = [] := by
  rw [toolbarActions]
  split <;> rfl

/-- The toolbar goes to no path. -/
@[simp] theorem filterMap_path?_toolbarActions (v : View η) (mode : ToolbarMode) :
    (v.toolbarActions mode).filterMap Action.path? = [] := by
  rw [toolbarActions]
  split <;> rfl

/-- The toolbar searches for nothing. -/
@[simp] theorem filterMap_search?_toolbarActions (v : View η) (mode : ToolbarMode) :
    (v.toolbarActions mode).filterMap Action.search? = [] := by
  rw [toolbarActions]
  split <;> rfl

/-- A view goes where there is a path to. -/
theorem redirect_of_hash {v : View η} {h : Handler} {args : RouteArgs} {path : String}
    (hpath : v.hash h args = .ok path) : v.redirect h args = .done [.navigate path] v := by
  rw [redirect, hpath]

section Handlers

variable {v : View η} {args : RouteArgs} {id : String}

/-- An entity on a page that stays is asked for, and no more. -/
theorem loadConfigs_eq_of_continuation (hid : args.id? = some id) (hpending : v.pending = none)
    (hc : v.reconciler.classify args = .continuation) :
    v.loadConfigs args =
      .done [.store v.nextTicket (.get id), .showMessage loadingText,
        .scheduleTimer v.nextTicket v.loadingDelay]
        (asked { v with reconciler := ⟨some args⟩ } id args) := by
  rw [loadConfigs_eq v hid, listActions, listed, hc, askActions, hpending]
  rfl

/-- An entity just created that opens a new page is not asked for. -/
theorem loadTransient_eq_of_opening (hpending : v.pending = none) (flag : Flag)
    (hc : v.reconciler.classify args = .newPage) :
    v.loadTransient args flag =
      .done [.store v.nextTicket (.search (v.query args)), .setTab v.page, .setLayout .default]
        { v.searched with reconciler := ⟨some args⟩, pending := none } := by
  rw [loadTransient_eq_of_newPage v flag hc, listActions, listed, hc]
  simp [abandonActions, searched, hpending]

variable [HistoryStore η]

/-- A list that stays is not searched again. -/
theorem load_eq_of_continuation (hid : args.id? = none) (hpending : v.pending = none)
    (hc : v.reconciler.classify args = .continuation) :
    v.load args = .done [v.historyAction] (left { v with reconciler := ⟨some args⟩ }) := by
  rw [load_eq v hid, listActions, listed, hc]
  simp [abandonActions, historyAction, hpending]

/-- A list on a new page is searched for. -/
theorem load_eq_of_opening (hid : args.id? = none) (hpending : v.pending = none)
    (hc : v.reconciler.classify args = .newPage) :
    v.load args =
      .done [.store v.nextTicket (.search (v.query args)), .setTab v.page, .setLayout .default,
        v.historyAction] (left { v.searched with reconciler := ⟨some args⟩ }) := by
  rw [load_eq v hid, listActions, listed, hc]
  simp [abandonActions, historyAction, searched, hpending]

end Handlers

variable [HistoryStore η] {v : View η}

/-- A button opens its dialog when none is tracked. -/
theorem step_toolbarPressed_of_enabled (hdialog : v.dialog = none) {purpose : DialogPurpose}
    (henabled : (v.toolbar.getD .noSelection).isEnabled purpose.button = true) (now : Int) :
    v.step now (.toolbarPressed purpose.button) =
      .done [.openDialog v.nextTicket purpose.spec] (v.prompted purpose) := by
  have hopen : v.openDialog purpose =
      .done [.openDialog v.nextTicket purpose.spec] (v.prompted purpose) := by
    simp only [openDialog, hdialog]
    cases purpose <;> rfl
  simp only [step, onToolbar, if_pos henabled]
  cases purpose <;> exact hopen

/-- The dialog that has just been opened takes a decision. -/
theorem step_dialogResolved_prompted (purpose : DialogPurpose) (fields : SortedMap String String)
    (now : Int) :
    (v.prompted purpose).step now (.dialogResolved v.nextTicket (.confirmed fields)) =
      (v.prompted purpose).confirm ⟨v.nextTicket, purpose, .prompting⟩ fields := by
  simp [step, onDialogResolved, prompted]

/-- When no entity is waited for, replies go to the list or to the dialog. -/
theorem step_storeReplied_of_pending (hpending : v.pending = none) (now : Int) (ticket : Ticket)
    (reply : StoreReply) :
    v.step now (.storeReplied ticket reply) =
      if v.ownsSearch ticket then v.onSearchReply reply
      else if v.ownsMutation ticket then v.onMutationReply now reply
      else .done [] v := by
  have hdetail : v.ownsDetail ticket = false := by rw [ownsDetail, hpending]; rfl
  rw [step, onStoreReplied, if_neg (by simp [hdetail])]

/-- The listing that answers the last search fills the list. -/
theorem step_listing_of_pending (hpending : v.pending = none) {ticket : Ticket}
    (hsearch : v.latestSearch = some ticket) (now : Int) (rows : List EntitySummary) :
    v.step now (.storeReplied ticket (.listing rows)) =
      .done [.replaceList rows] { v with latestSearch := none } := by
  have howned : v.ownsSearch ticket = true := decide_eq_true hsearch
  rw [step_storeReplied_of_pending hpending, if_pos howned]
  rfl

/-- The reply to a change goes to the dialog that sent for it. -/
theorem step_storeReplied_of_awaiting (hpending : v.pending = none)
    (hsearch : v.latestSearch = none) {p : PendingDialog} {ticket : Ticket} {name : String}
    (hdialog : v.dialog = some p) (hwaits : p.state = .awaiting ticket name) (now : Int)
    (reply : StoreReply) :
    v.step now (.storeReplied ticket reply) = v.onMutationReply now reply := by
  have howned : v.ownsMutation ticket = true := ownsMutation_iff.2 ⟨p, hdialog, name, hwaits⟩
  rw [step_storeReplied_of_pending hpending, if_neg (by simp [ownsSearch, hsearch]), if_pos howned]

/-- An entity that is there and has a path is shown, and seen. -/
theorem step_entity_of_pending {p : PendingDetail} (hpending : v.pending = some p) {path : String}
    (hpath : v.detailPath p.args = .ok path) (now : Int) (e : Entity) :
    ∃ data favorited, v.step now (.storeReplied p.ticket (.entity e)) =
      .done [.cancelTimer p.ticket, .render .detail data, .favoriteChanged favorited,
        .clearMessage, .enableEditAffordance]
        { v with
          pending := none
          history := (HistoryStore.put v.history (HistoryList.recent.key v.page)
            ⟨e.name, path, now⟩).2
          displayed := some (e, p.args) } := by
  have hpath' : detailPath { v with pending := none } p.args = .ok path := hpath
  rw [step_of_pending hpending]
  simp only [onDetailReply, hpending, Turn.andThen_done, showEntity, hpath']
  exact ⟨_, _, rfl⟩

/-- A new entity with a path is remembered and led to. -/
theorem onCreated_of_path {id value path : String}
    (hvalue : v.detailPath (v.currentArgs.set RouteArgs.idKey id) = .ok value)
    (hpath : v.hash .loadNewConfigs ((v.currentArgs.set RouteArgs.idKey id).withFlag .new) =
      .ok path) (now : Int) (dialog : Ticket) (name : String) :
    v.onCreated now dialog name id = .done [.closeDialog dialog, .navigate path]
      { v with
        history := (HistoryStore.put v.history (HistoryList.new.key v.page)
          ⟨name, value, now⟩).2 } := by
  simp only [onCreated, hvalue, hpath]

/-- A path that resolves is entered, and then its handler decides. -/
theorem step_routeChanged_of_handle (hpending : v.pending = none) {path : String} {h : Handler}
    {args : RouteArgs} (hresolve : v.table.resolve path = .ok (h, args)) {actions : List Action}
    {w : View η} (hhandle : (v.entered path h args).handle args h = .done actions w) (now : Int) :
    v.step now (.routeChanged path) =
      .done (v.toolbarActions (toolbarOf args) ++ actions) w := by
  have hsame : v.pendingDiffers args = false := by rw [pendingDiffers, hpending]; rfl
  simp only [step, onRouteChanged, hresolve]
  rw [enterRoute_eq, if_neg (by simp [hsame]), List.append_nil]
  exact Turn.done_andThen hhandle

end ConfigBrowser.View
