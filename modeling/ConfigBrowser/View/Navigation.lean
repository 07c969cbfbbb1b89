import ConfigBrowser.View.Detail
import ConfigBrowser.View.Search

/-!
# Handling Routes

What each of a page's routes does. Work on the list is done when a navigation opens a new page;
routes with a flag do what the flag says and redirect to the same route without it.
-/

namespace ConfigBrowser.View

variable {η : Type}

/-- A task that a navigation may bring. -/
inductive Task where
  /-- Search the list, and select its tab and layout. -/
  | enterList
  /-- Have the list show its filters from now on. -/
  | enterFilterMode
  /-- Redirect to the route without the filter flag. -/
  | leaveFilterRoute
deriving DecidableEq, Repr

/-- The tasks of the list. -/
def loadPlan : List (Condition Task) := [.newPage .enterList]

/-- The tasks of the list with its filters. -/
def filterPlan : List (Condition Task) :=
  [.always .enterFilterMode, .newPage .enterList, .always .leaveFilterRoute]

/-- The tasks of an entity. -/
def detailPlan : List (Condition Task) := [.newPage .enterList]

/-- The tasks of an entity just created or to be edited: a new page shows its list and no more. -/
def transientPlan : List (Condition Task) := [(Condition.newPage .enterList).stopping]

/-- Searches the list, and selects its tab and layout. -/
def enterList (v : View η) (args : RouteArgs) : Turn η :=
  (v.search args).andThen fun v => .done [.setTab v.page, .setLayout .default] v

/-- Has the list show its filters. A list that stays is searched again, unless it showed them
already. -/
def enterFilterMode (v : View η) (args : RouteArgs) (c : Classification) : Turn η :=
  let entered := !v.filtered
  let v := { v with filtered := true }
  if entered ∧ c = .continuation then v.search args else .done [] v

/-- Redirects to the route without the filter flag. -/
def leaveFilterRoute (v : View η) (args : RouteArgs) : Turn η :=
  let reduced := args.lower .filter
  v.redirect (if reduced.id?.isSome then .loadConfigs else .load) reduced

/-- Does a task. -/
def runTask (args : RouteArgs) (c : Classification) (v : View η) : Task → Turn η
  | .enterList => v.enterList args
  | .enterFilterMode => v.enterFilterMode args c
  | .leaveFilterRoute => v.leaveFilterRoute args

/-- Does tasks in order. -/
def runTasks (args : RouteArgs) (c : Classification) (v : View η) : List Task → Turn η
  | [] => .done [] v
  | task :: rest => (v.runTask args c task).andThen fun v => v.runTasks args c rest

/-- Records a navigation, does the tasks that are due, and goes on knowing whether they ended the
walk. -/
def reconcile (v : View η) (args : RouteArgs) (plan : List (Condition Task))
    (next : Bool → View η → Turn η) : Turn η :=
  let (outcome, reconciler) := v.reconciler.reconcile args plan
  ({ v with reconciler }.runTasks args outcome.classification outcome.fired).andThen
    (next outcome.stopped)

/-! ### The handlers -/

/-- Shows the list. -/
def load [HistoryStore η] (v : View η) (args : RouteArgs) : Turn η :=
  v.reconcile args loadPlan fun _ v => if args.id?.isNone then v.leaveDetail else .done [] v

/-- Shows the list with its filters and redirects. -/
def loadFilter (v : View η) (args : RouteArgs) : Turn η :=
  v.reconcile args filterPlan fun _ v => .done [syncListFilter args] v

/-- Searches the list after an entity was deleted and redirects to the list. -/
def loadDelete (v : View η) (args : RouteArgs) : Turn η :=
  match v.hash .load (args.only [RouteArgs.nameKey]) with
  | .error e => .fail e v
  | .ok path => (v.search args).andThen fun v => .done [.navigate path] v

/-- Shows the list and an entity. -/
def loadConfigs (v : View η) (args : RouteArgs) : Turn η :=
  v.reconcile args detailPlan fun _ v => v.loadDetail args

/-- Searches the list and redirects to the entity without a flag. -/
def stripAndRedirect (v : View η) (flag : Flag) (args : RouteArgs) : Turn η :=
  let reduced := args.lower flag
  match v.hash .loadConfigs reduced with
  | .error e => .fail e v
  | .ok path => (v.search reduced).andThen fun v => .done [.navigate path] v

/-- Handles a route with a flag behind the id. -/
def loadTransient (v : View η) (args : RouteArgs) (flag : Flag) : Turn η :=
  v.reconcile args transientPlan fun stopped v =>
    if stopped then v.abandonDetail
    else
      let v := if flag = .edit then v.enterEditMode args else v
      v.stripAndRedirect flag args

/-- Does what a handler does. -/
def handle [HistoryStore η] (v : View η) (args : RouteArgs) : Handler → Turn η
  | .load => v.load args
  | .loadFilter => v.loadFilter args
  | .loadDelete => v.loadDelete args
  | .loadConfigs => v.loadConfigs args
  | .loadNewConfigs => v.loadTransient args .new
  | .loadEditConfigs => v.loadTransient args .edit

/-- Makes a route the current one: the toolbar follows the selection, and an entity that the route
does not select is no longer waited for. -/
def enterRoute (v : View η) (path : String) (handler : Handler) (args : RouteArgs) : Turn η :=
  let mode := if args.id?.isSome then ToolbarMode.selectionActive else .noSelection
  ({ v with current := some ⟨path, handler, args⟩ }.setToolbar mode).andThen fun v =>
    if v.pendingDiffers args then v.abandonDetail else .done [] v

/-- Handles a change of location. A path that no rule matches changes nothing. -/
def onRouteChanged [HistoryStore η] (v : View η) (path : String) : Turn η :=
  match v.table.resolve path with
  | .error _ => .done [] v
  | .ok (handler, args) =>
    (v.enterRoute path handler args).andThen fun v => v.handle args handler

/-- Ends what stuck from the last visit. A list that showed its filters is searched again. -/
def onSessionReset (v : View η) : Turn η :=
  let wasFiltered := v.filtered
  let v := { v with filtered := false }
  if wasFiltered ∧ v.current.isSome then v.search (v.currentArgs.lower .filter) else .done [] v

end ConfigBrowser.View
