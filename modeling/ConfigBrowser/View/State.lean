import ConfigBrowser.Route.Handler
import ConfigBrowser.View.Action
import ConfigBrowser.View.Reconciler

/-!
# The State of the View

Everything that outlives an event: the route table, the memory of the last navigation, the sticky
filter, the requests and the dialog that are under way, what is displayed, and the history. The
history store is a parameter, so what is said about the view holds for every keeper of histories.

Handling an event is a turn: it leaves the next state in any case, and either actions or an error.

## Main results

* `View.issue_lt`: a new ticket is above all tickets handed out before.
* `Turn.andThen_assoc`: turns may be put together in any grouping.
-/

namespace ConfigBrowser

/-- The route that resolved last. -/
structure CurrentRoute where
  path : String
  handler : Handler
  args : RouteArgs
deriving DecidableEq, Repr

/-- A request for an entity that has not been answered. -/
structure PendingDetail where
  /-- The ticket of the request, and of the timer that watches it. -/
  ticket : Ticket
  args : RouteArgs
  /-- Will the entity be shown for editing? -/
  editable : Bool
  /-- Has the wait been found long? -/
  escalated : Bool
deriving DecidableEq, Repr

/-- Whether the detail pane shows its entity for editing. Editing belongs to one id. -/
inductive DetailMode where
  | viewing
  | editing (id : String)
deriving DecidableEq, Repr

/-- What a dialog was opened for. -/
inductive DialogPurpose where
  | create
  | delete
deriving DecidableEq, Repr

/-- How far a dialog has come. -/
inductive DialogState where
  /-- It waits for a decision. -/
  | prompting
  /-- It was confirmed and waits for the store's reply to a request. -/
  | awaiting (request : Ticket) (name : String)
deriving DecidableEq, Repr

/-- The dialog that the view keeps track of. -/
structure PendingDialog where
  ticket : Ticket
  purpose : DialogPurpose
  state : DialogState
deriving DecidableEq, Repr

/-- The state of the view. -/
structure View (η : Type) where
  page : String
  /-- How long a request for an entity may take before the wait is found long, in milliseconds. -/
  loadingDelay : Nat
  table : RouteTable Handler
  reconciler : Reconciler
  /-- Once the list shows its filters, every search of the session does. -/
  filtered : Bool
  history : η
  current : Option CurrentRoute
  toolbar : Option ToolbarMode
  pending : Option PendingDetail
  /-- The entity in the detail pane and the arguments that led to it. -/
  displayed : Option (Entity × RouteArgs)
  mode : DetailMode
  /-- The ticket of the last search, until it is answered. -/
  latestSearch : Option Ticket
  dialog : Option PendingDialog
  /-- The number of the last ticket handed out. -/
  lastTicket : Nat
deriving DecidableEq, Repr

/-- What handling an event leaves. -/
structure Turn (η : Type) where
  answer : Except Error (List Action)
  view : View η

namespace Turn

variable {η : Type}

/-- A turn that ends with actions. -/
def done (actions : List Action) (v : View η) : Turn η := ⟨.ok actions, v⟩

/-- A turn that ends with an error. -/
def fail (e : Error) (v : View η) : Turn η := ⟨.error e, v⟩

/-- Goes on with a second turn after the first one's actions. After an error nothing follows. -/
def andThen (t : Turn η) (next : View η → Turn η) : Turn η :=
  match t.answer with
  | .error _ => t
  | .ok first =>
    let u := next t.view
    ⟨u.answer.map (first ++ ·), u.view⟩

/-- A turn goes on where the one before has succeeded, with its actions in front. -/
@[simp] theorem andThen_done (actions : List Action) (v : View η) (next : View η → Turn η) :
    (done actions v).andThen next = ⟨(next v).answer.map (actions ++ ·), (next v).view⟩ := rfl

/-- Nothing follows a turn that has failed. -/
@[simp] theorem andThen_fail (e : Error) (v : View η) (next : View η → Turn η) :
    (fail e v).andThen next = fail e v := rfl

/-- Turns may be put together in any grouping. -/
theorem andThen_assoc (t : Turn η) (f g : View η → Turn η) :
    (t.andThen f).andThen g = t.andThen fun v => (f v).andThen g := by
  obtain ⟨answer, v⟩ := t
  cases answer with
  | error e => rfl
  | ok first =>
    simp only [andThen]
    cases hf : (f v).answer with
    | error e => simp [Except.map, hf]
    | ok second => cases (g (f v).view).answer <;> simp [Except.map]

end Turn

namespace View

variable {η : Type}

/-- The view of a page before the first event. -/
def initial (page : String) (loadingDelay : Nat) (history : η) : Except Error (View η) :=
  (pageTable page).map fun table =>
    { page, loadingDelay, table, history
      reconciler := .initial
      filtered := false
      current := none
      toolbar := none
      pending := none
      displayed := none
      mode := .viewing
      latestSearch := none
      dialog := none
      lastTicket := 0 }

/-- Hands out a ticket. The numbers go on without an end, where a counter of 64 bits would overflow
after 2 to the 64 tickets; no view is supposed to hand out so many. -/
def issue (v : View η) : Ticket × View η :=
  (⟨v.lastTicket + 1⟩, { v with lastTicket := v.lastTicket + 1 })

/-- A new ticket is above all tickets handed out before. -/
theorem issue_lt (v : View η) : v.lastTicket < v.issue.1.number := Nat.lt_succ_self _

/-- The arguments of the current route; none before the first navigation. -/
def currentArgs (v : View η) : RouteArgs :=
  match v.current with
  | some route => route.args
  | none => .empty

/-- The path that leads to a handler. -/
def hash (v : View η) (handler : Handler) (args : RouteArgs) : Except Error String :=
  v.table.hash handler args

/-- The path that shows an entity, by which the history knows it. -/
def detailPath (v : View η) (args : RouteArgs) : Except Error String := v.hash .loadConfigs args

/-- Switches the toolbar. There is an action only when its state changes. -/
def setToolbar (v : View η) (mode : ToolbarMode) : Turn η :=
  if v.toolbar = some mode then .done [] v
  else .done [.setToolbar mode] { v with toolbar := some mode }

/-- Ends the turn with a navigation to a handler, if there is a path to it. -/
def redirect (v : View η) (handler : Handler) (args : RouteArgs) : Turn η :=
  match v.hash handler args with
  | .ok path => .done [.navigate path] v
  | .error e => .fail e v

end View

end ConfigBrowser
