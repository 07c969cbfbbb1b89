import ConfigBrowser.Proofs.Route.RoundTrip
import ConfigBrowser.View.Step

/-!
# What the Handlers Do

Each handler of the view written out as one turn: the actions it takes and the state it leaves. A
handler that redirects has its turn written out under the assumption that there is a path to
redirect to.

The second half is about what a turn keeps. A property of the state and a property of actions that
hold of the parts of a turn hold of the whole, also when one of its parts fails.

## Main results

* `View.reconcile_listPlan`, `View.reconcile_transientPlan`, `View.loadFilter_eq`: what the
  handlers do to the list.
* `Turn.Within.andThen`: what holds of both parts of a turn holds of the turn.
-/

namespace ConfigBrowser

/-! ### Turns -/

namespace Turn

variable {η : Type}

/-- The actions of a turn; a turn that failed has none. -/
def emitted (t : Turn η) : List Action :=
  match t.answer with
  | .ok actions => actions
  | .error _ => []

/-- A turn that succeeds emits its actions. -/
@[simp] theorem emitted_done (actions : List Action) (v : View η) :
    (done actions v).emitted = actions := rfl

/-- A turn that fails emits nothing. -/
@[simp] theorem emitted_fail (e : Error) (v : View η) : (fail e v).emitted = [] := rfl

/-- A turn that succeeds leaves the view that it says. -/
@[simp] theorem view_done (actions : List Action) (v : View η) : (done actions v).view = v := rfl

/-- A turn that fails leaves the view that it says, too. -/
@[simp] theorem view_fail (e : Error) (v : View η) : (fail e v).view = v := rfl

/-- A turn without actions leaves all to the next. -/
theorem done_nil_andThen (v : View η) (next : View η → Turn η) :
    (done [] v).andThen next = next v := by
  rw [andThen_done]
  cases h : (next v).answer <;> simp [Except.map, ← h]

/-- A turn without actions adds nothing. -/
theorem andThen_done_nil (t : Turn η) : (t.andThen fun v => done [] v) = t := by
  obtain ⟨answer, v⟩ := t
  cases answer with
  | error e => rfl
  | ok actions => simp [andThen, done, Except.map]

/-- Two turns that end with actions end with the actions of both. -/
theorem done_andThen {first second : List Action} {v w : View η} {next : View η → Turn η}
    (h : next v = done second w) : (done first v).andThen next = done (first ++ second) w := by
  rw [andThen_done, h]
  rfl

/-- The actions of two turns are those of the first and those of the second. -/
theorem mem_emitted_andThen {t : Turn η} {next : View η → Turn η} {a : Action}
    (ha : a ∈ (t.andThen next).emitted) : a ∈ t.emitted ∨ a ∈ (next t.view).emitted := by
  obtain ⟨answer, v⟩ := t
  cases answer with
  | error e => exact .inl ha
  | ok first =>
      rcases hanswer : (next v).answer with e | second
      · simp [andThen, emitted, hanswer, Except.map] at ha
      · simpa [andThen, emitted, hanswer, Except.map] using ha

/-- A turn leaves a state with a property, and each of its actions has a property. -/
structure Within (t : Turn η) (state : View η → Prop) (action : Action → Prop) : Prop where
  view : state t.view
  emitted : ∀ a ∈ t.emitted, action a

namespace Within

variable {state : View η → Prop} {action : Action → Prop}

/-- A turn that succeeds stays within what holds of its view and its actions. -/
theorem done {actions : List Action} {v : View η} (hv : state v)
    (hactions : ∀ a ∈ actions, action a) : (Turn.done actions v).Within state action :=
  ⟨hv, hactions⟩

/-- A turn that fails stays within what holds of its view. -/
theorem fail {e : Error} {v : View η} (hv : state v) : (Turn.fail e v).Within state action :=
  ⟨hv, by simp⟩

/-- What holds of both parts of a turn holds of the turn. -/
theorem andThen {t : Turn η} {next : View η → Turn η} (h : t.Within state action)
    (hnext : ∀ v, state v → (next v).Within state action) :
    (t.andThen next).Within state action := by
  obtain ⟨answer, v⟩ := t
  cases answer with
  | error e => exact h
  | ok first =>
      have hsecond := hnext v h.view
      exact ⟨hsecond.view, fun a ha =>
        (mem_emitted_andThen ha).elim (h.emitted a) (hsecond.emitted a)⟩

/-- The last part of a turn decides what state it leaves. -/
theorem done_andThen {first : List Action} {v : View η} {next : View η → Turn η}
    (hfirst : ∀ a ∈ first, action a) (hnext : (next v).Within state action) :
    ((Turn.done first v).andThen next).Within state action :=
  ⟨hnext.view, fun a ha => (mem_emitted_andThen ha).elim (hfirst a) (hnext.emitted a)⟩

end Within

end Turn

namespace View

variable {η : Type}

/-! ### Entering a route -/

/-- The toolbar that goes with a route. -/
def toolbarOf (args : RouteArgs) : ToolbarMode :=
  if args.id?.isSome then .selectionActive else .noSelection

/-- The actions that switch the toolbar. -/
def toolbarActions (v : View η) (mode : ToolbarMode) : List Action :=
  if v.toolbar = some mode then [] else [.setToolbar mode]

/-- The actions that forget the request under way. -/
def abandonActions (v : View η) : List Action :=
  match v.pending with
  | some p => [.cancelTimer p.ticket, .clearMessage]
  | none => []

/-- The view once it has entered a route. -/
def entered (v : View η) (path : String) (h : Handler) (args : RouteArgs) : View η :=
  { v with
    current := some ⟨path, h, args⟩
    toolbar := some (toolbarOf args)
    pending := if v.pendingDiffers args then none else v.pending }

/-- The buttons of a mode are shown unless they are. -/
theorem setToolbar_eq (v : View η) (mode : ToolbarMode) :
    v.setToolbar mode = .done (v.toolbarActions mode) { v with toolbar := some mode } := by
  rw [setToolbar, toolbarActions]
  split
  · next h => rw [← h]
  · rfl

/-- The request under way is forgotten, and its timer and message go. -/
theorem abandonDetail_eq (v : View η) :
    v.abandonDetail = .done v.abandonActions { v with pending := none } := by
  cases hpending : v.pending with
  | some p => simp [abandonDetail, abandonActions, hpending]
  | none =>
      have hv : { v with pending := none } = v := by rw [← hpending]
      simp [abandonDetail, abandonActions, hpending, hv]

/-- Entering a route shows its buttons, and drops a request for another entity. -/
theorem enterRoute_eq (v : View η) (path : String) (h : Handler) (args : RouteArgs) :
    v.enterRoute path h args =
      .done (v.toolbarActions (toolbarOf args) ++
        if v.pendingDiffers args then v.abandonActions else []) (v.entered path h args) := by
  have hdiffers : pendingDiffers
      { v with current := some ⟨path, h, args⟩, toolbar := some (toolbarOf args) } args =
        v.pendingDiffers args := rfl
  rw [enterRoute, setToolbar_eq, Turn.andThen_done, ← toolbarOf, hdiffers, entered]
  by_cases hpending : v.pendingDiffers args = true
  · rw [if_pos hpending, if_pos hpending, if_pos hpending, abandonDetail_eq]
    rfl
  · rw [if_neg hpending, if_neg hpending, if_neg hpending]
    rfl

/-! ### The list -/

/-- The ticket that is handed out next. -/
def nextTicket (v : View η) : Ticket := ⟨v.lastTicket + 1⟩

/-- The view once it has searched. -/
def searched (v : View η) : View η :=
  { v with lastTicket := v.lastTicket + 1, latestSearch := some v.nextTicket }

/-- Entering the list searches it and shows the tab and the layout of the page. -/
theorem enterList_eq (v : View η) (args : RouteArgs) :
    v.enterList args =
      .done [.store v.nextTicket (.search (v.query args)), .setTab v.page, .setLayout .default]
        v.searched := rfl

/-- The actions of a navigation that shows the list. -/
def listActions (v : View η) (args : RouteArgs) : List Action :=
  match v.reconciler.classify args with
  | .newPage =>
    [.store v.nextTicket (.search (v.query args)), .setTab v.page, .setLayout .default]
  | .continuation => []

/-- The view once a navigation has shown the list. -/
def listed (v : View η) (args : RouteArgs) : View η :=
  match v.reconciler.classify args with
  | .newPage => { v.searched with reconciler := ⟨some args⟩ }
  | .continuation => { v with reconciler := ⟨some args⟩ }

/-- A navigation shows the list and goes on. -/
theorem reconcile_listPlan (v : View η) (args : RouteArgs) (next : Bool → View η → Turn η) :
    v.reconcile args [.newPage .enterList] next =
      (Turn.done (v.listActions args) (v.listed args)).andThen (next false) := by
  rw [reconcile, listActions, listed]
  cases hc : v.reconciler.classify args with
  | newPage =>
      simp only [Reconciler.reconcile, hc, Reconciler.walk, Reconciler.due, Condition.newPage]
      rfl
  | continuation =>
      simp only [Reconciler.reconcile, hc, Reconciler.walk, Reconciler.due, Condition.newPage]
      rfl

/-- A navigation with a flag behind the id shows the list and goes on knowing whether the page is
new. -/
theorem reconcile_transientPlan (v : View η) (args : RouteArgs) (next : Bool → View η → Turn η) :
    v.reconcile args transientPlan next =
      (Turn.done (v.listActions args) (v.listed args)).andThen
        (next (v.reconciler.classify args = .newPage)) := by
  rw [reconcile, listActions, listed]
  cases hc : v.reconciler.classify args with
  | newPage =>
      simp only [Reconciler.reconcile, hc, Reconciler.walk, Reconciler.due, transientPlan]
      rfl
  | continuation =>
      simp only [Reconciler.reconcile, hc, Reconciler.walk, Reconciler.due, transientPlan]
      rfl

/-! ### The handlers -/

/-- The view once it has left the detail pane to the page's history. -/
def left (v : View η) : View η := { v with pending := none, displayed := none, mode := .viewing }

/-- The action that shows the page's history. -/
def historyAction [HistoryStore η] (v : View η) : Action :=
  .render .defaultPage (Template.defaultPageData v.page v.history)

/-- Leaving an entity drops the request under way and shows the history. -/
theorem leaveDetail_eq [HistoryStore η] (v : View η) :
    v.leaveDetail = .done (v.abandonActions ++ [v.historyAction]) v.left := by
  rw [leaveDetail, abandonDetail_eq]
  rfl

/-- The view once it has asked for the entity with an id. -/
def asked (v : View η) (id : String) (args : RouteArgs) : View η :=
  { v with
    lastTicket := v.lastTicket + 1
    pending := some ⟨v.nextTicket, args, v.isEditing id, false⟩
    mode := if v.isEditing id then v.mode else .viewing }

/-- The actions that ask for the entity with an id. -/
def askActions (v : View η) (id : String) : List Action :=
  (v.pending.toList.map fun p => Action.cancelTimer p.ticket) ++
    [.store v.nextTicket (.get id), .showMessage loadingText,
     .scheduleTimer v.nextTicket v.loadingDelay]

/-- The entity of a route is asked for. -/
theorem loadDetail_eq {args : RouteArgs} {id : String} (v : View η) (hid : args.id? = some id) :
    v.loadDetail args = .done (v.askActions id) (v.asked id args) := by
  rw [loadDetail, hid]
  rfl

/-- The view once the list shows its filters. -/
def filtering (v : View η) : View η := { v with filtered := true }

/-- The actions of a navigation that shows the list with its filters. A list that stays is searched
again when it did not show them. -/
def filterActions (v : View η) (args : RouteArgs) : List Action :=
  match v.reconciler.classify args with
  | .newPage => v.filtering.listActions args
  | .continuation =>
    if v.filtered then [] else [.store v.nextTicket (.search (v.filtering.query args))]

/-- The view once a navigation has shown the list with its filters. -/
def filterListed (v : View η) (args : RouteArgs) : View η :=
  match v.reconciler.classify args with
  | .newPage => v.filtering.listed args
  | .continuation =>
    if v.filtered then { v.filtering with reconciler := ⟨some args⟩ }
    else { v.filtering.searched with reconciler := ⟨some args⟩ }

/-- Showing the list with its filters changes no rule. -/
theorem table_filterListed (v : View η) (args : RouteArgs) :
    (v.filterListed args).table = v.table := by
  rw [filterListed, listed]
  split
  · split <;> rfl
  · split <;> rfl

/-- On a new page the filters are only remembered, since the list is searched anyway. -/
theorem enterFilterMode_newPage (v : View η) (args : RouteArgs) :
    v.enterFilterMode args .newPage = .done [] v.filtering := by
  simp [enterFilterMode, filtering]

/-- On a page that stays, the list is searched unless its filters were there before. -/
theorem enterFilterMode_continuation (v : View η) (args : RouteArgs) :
    v.enterFilterMode args .continuation =
      if v.filtered then .done [] v.filtering else v.filtering.search args := by
  cases h : v.filtered <;> simp [enterFilterMode, filtering, h]

/-- A navigation with the filter flag shows the list with its filters, and redirects. -/
theorem reconcile_filterPlan (v : View η) (args : RouteArgs) (next : Bool → View η → Turn η) :
    v.reconcile args filterPlan next =
      (Turn.done (v.filterActions args) (v.filterListed args)).andThen fun v =>
        (v.leaveFilterRoute args).andThen (next false) := by
  have hwalk : ∀ c : Classification, Reconciler.walk c filterPlan =
      ⟨c, .enterFilterMode ::
        (if c = .newPage then [.enterList, .leaveFilterRoute] else [.leaveFilterRoute]),
        false⟩ := by
    intro c
    cases c <;> rfl
  have hfiltering : v.filtering.reconciler.classify args = v.reconciler.classify args := rfl
  rw [reconcile]
  simp only [Reconciler.reconcile, hwalk]
  rw [filterActions, filterListed]
  cases hc : v.reconciler.classify args with
  | newPage =>
      rw [listActions, listed, hfiltering, hc]
      simp only [runTasks, runTask, if_true, Turn.andThen_done_nil, enterFilterMode_newPage,
        Turn.done_nil_andThen, Turn.andThen_assoc, enterList_eq]
      rfl
  | continuation =>
      simp only [runTasks, runTask, reduceCtorEq, if_false, Turn.andThen_done_nil,
        enterFilterMode_continuation, Turn.andThen_assoc]
      cases v.filtered <;> rfl

/-- The handler that a route with the filter flag redirects to. -/
def unfiltered (args : RouteArgs) : Handler :=
  if (args.lower .filter).id?.isSome then .loadConfigs else .load

section Handlers

variable {args : RouteArgs} {path : String} (v : View η)

/-- The list is shown, without an entity. -/
theorem load_eq [HistoryStore η] (hid : args.id? = none) :
    v.load args = .done
      (v.listActions args ++ ((v.listed args).abandonActions ++ [(v.listed args).historyAction]))
      (v.listed args).left := by
  rw [load, loadPlan, reconcile_listPlan]
  simp only [hid, Option.isNone_none, if_true, leaveDetail_eq]
  rfl

/-- The list is shown, and the entity is asked for. -/
theorem loadConfigs_eq {id : String} (hid : args.id? = some id) :
    v.loadConfigs args = .done (v.listActions args ++ (v.listed args).askActions id)
      ((v.listed args).asked id args) := by
  rw [loadConfigs, detailPlan, reconcile_listPlan]
  simp only [loadDetail_eq _ hid]
  rfl

/-- The list is shown with its filters, and the route without the flag is gone to. -/
theorem loadFilter_eq (hpath : v.hash (unfiltered args) (args.lower .filter) = .ok path) :
    v.loadFilter args = .done (v.filterActions args ++ [.navigate path, syncListFilter args])
      (v.filterListed args) := by
  have hleave : (v.filterListed args).leaveFilterRoute args =
      .done [.navigate path] (v.filterListed args) := by
    have hpath' : (v.filterListed args).hash (unfiltered args) (args.lower .filter) = .ok path := by
      rw [hash, table_filterListed]
      exact hpath
    rw [leaveFilterRoute, ← unfiltered, redirect, hpath']
  rw [loadFilter, reconcile_filterPlan]
  refine Turn.done_andThen ?_
  rw [hleave]
  rfl

/-- The list is searched, and the route of the list without a type is gone to. -/
theorem loadDelete_eq (hpath : v.hash .load (args.only [RouteArgs.nameKey]) = .ok path) :
    v.loadDelete args =
      .done [.store v.nextTicket (.search (v.query args)), .navigate path] v.searched := by
  rw [loadDelete, hpath]
  rfl

/-- A route with a flag behind the id shows the list and no more when it opens a new page. -/
theorem loadTransient_eq_of_newPage (flag : Flag) (hc : v.reconciler.classify args = .newPage) :
    v.loadTransient args flag =
      .done (v.listActions args ++ (v.listed args).abandonActions)
        { v.listed args with pending := none } := by
  rw [loadTransient, reconcile_transientPlan]
  simp only [hc, decide_true, if_true, abandonDetail_eq]
  rfl

/-- How the detail pane shows entities once a route with a flag behind the id has been handled. -/
def modeAfter (flag : Flag) (args : RouteArgs) : DetailMode :=
  match args.id? with
  | some id => if flag = .edit then .editing id else v.mode
  | none => v.mode

/-- The entity is shown for editing if the flag says so and there is an id. -/
theorem enterEditMode_eq (flag : Flag) (args : RouteArgs) :
    (if flag = .edit then v.enterEditMode args else v) =
      { v with mode := v.modeAfter flag args } := by
  rw [enterEditMode, modeAfter]
  by_cases hedit : flag = .edit
  · cases hid : args.id? <;> simp [hedit]
  · cases hid : args.id? <;> simp [hedit]

/-- The view once a route with a flag behind the id has searched its list again. -/
def refreshed (flag : Flag) (args : RouteArgs) : View η :=
  { v.searched with reconciler := ⟨some args⟩, mode := v.modeAfter flag args }

/-- A route with a flag behind the id searches its list again and redirects when it continues on
the same page. -/
theorem loadTransient_eq_of_continuation {flag : Flag}
    (hc : v.reconciler.classify args = .continuation)
    (hpath : v.hash .loadConfigs (args.lower flag) = .ok path) :
    v.loadTransient args flag =
      .done [.store v.nextTicket (.search (v.query (args.lower flag))), .navigate path]
        (v.refreshed flag args) := by
  have hstrip : ∀ w : View η, w.table = v.table → w.stripAndRedirect flag args =
      .done [.store w.nextTicket (.search (w.query (args.lower flag))), .navigate path]
        w.searched := by
    intro w hw
    have hpath' : w.hash .loadConfigs (args.lower flag) = .ok path := by
      rw [hash, hw]
      exact hpath
    simp only [stripAndRedirect, hpath']
    rfl
  rw [loadTransient, reconcile_transientPlan, listActions, listed, hc]
  refine Turn.done_andThen ?_
  rw [if_neg (by decide), enterEditMode_eq]
  exact hstrip _ rfl

end Handlers

end View

end ConfigBrowser
