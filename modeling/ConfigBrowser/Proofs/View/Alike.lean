import ConfigBrowser.Proofs.History.Changes
import ConfigBrowser.Proofs.View.Handlers

/-!
# Views That Are Alike

Two views are alike when they differ at most in the times of visits and in the search whose reply
they wait for. A route is handled alike by both: it reads neither, and waits for a new search
wherever it makes one. Views that wait for the same search handle every event alike, whatever the
clock reads for each of them.

## Main results

* `View.Alike.onRouteChanged`: views that are alike handle a route alike.
* `View.Alike.step`: views that are alike and wait for the same search handle every event alike.
-/

namespace ConfigBrowser

variable {waits : Option Ticket → Option Ticket → Prop}

/-- Two views are alike: they differ at most in the times of visits, and in the searches whose
replies they wait for, which are related. -/
inductive View.Alike (waits : Option Ticket → Option Ticket → Prop) (v : View History) :
    View History → Prop where
  | intro {history : History} {latestSearch : Option Ticket}
      (hhistory : history.undated = v.history.undated)
      (hsearch : waits v.latestSearch latestSearch) :
      Alike waits v { v with history, latestSearch }

/-- Two turns are alike: they end with the same actions or the same error, and leave views that are
alike. -/
inductive Turn.Alike (waits : Option Ticket → Option Ticket → Prop) :
    Turn History → Turn History → Prop where
  | intro {answer : Except Error (List Action)} {v w : View History} (h : v.Alike waits w) :
      Alike waits ⟨answer, v⟩ ⟨answer, w⟩

/-- A view without the times of visits. -/
def View.undated (v : View History) : View History := { v with history := v.history.undated }

/-- The searches that views which are alike wait for are related. -/
theorem View.Alike.waits_latestSearch {v w : View History} (h : v.Alike waits w) :
    waits v.latestSearch w.latestSearch := by
  cases h with
  | intro _ hsearch => exact hsearch

/-- Views that are alike stay so when their searches are related in another way. -/
theorem View.Alike.of_waits {related : Option Ticket → Option Ticket → Prop} {v w : View History}
    (h : v.Alike waits w) (hsearch : related v.latestSearch w.latestSearch) :
    v.Alike related w := by
  cases h with
  | intro hhistory _ => exact .intro hhistory hsearch

/-- A view is like itself if its search is related to itself. -/
theorem View.Alike.refl {v : View History} (hsearch : waits v.latestSearch v.latestSearch) :
    v.Alike waits v :=
  .intro rfl hsearch

/-- Views that are like the same one are alike, as far as their searches are related. -/
theorem View.Alike.trans {waits' related : Option Ticket → Option Ticket → Prop}
    {v u w : View History} (h : v.Alike waits u) (h' : u.Alike waits' w)
    (hsearch : related v.latestSearch w.latestSearch) : v.Alike related w := by
  cases h with
  | intro hhistory _ =>
      cases h' with
      | intro hhistory' _ => exact .intro (hhistory'.trans hhistory) hsearch

/-- Views that are alike and wait for the same search are the same but for times. -/
theorem View.Alike.undated_eq {v w : View History} (h : v.Alike Eq w) : w.undated = v.undated := by
  cases h with
  | intro hhistory hsearch =>
      obtain rfl := hsearch
      rw [View.undated, View.undated, hhistory]

namespace Turn.Alike

variable {t u : Turn History}

/-- Turns that are alike end in the same way. -/
theorem answer_eq (h : t.Alike waits u) : t.answer = u.answer := by
  cases h
  rfl

/-- Turns that are alike leave views that are alike. -/
theorem view (h : t.Alike waits u) : t.view.Alike waits u.view := by
  cases h with
  | intro h => exact h

/-- Turns that end in the same way are alike if the views are that they leave. -/
theorem of_answer_eq (hanswer : t.answer = u.answer) (h : t.view.Alike waits u.view) :
    t.Alike waits u := by
  obtain ⟨answer, v⟩ := t
  obtain rfl : answer = u.answer := hanswer
  exact .intro h

/-- A turn that is alike to one that ends with actions ends with the same actions. -/
theorem exists_done {actions : List Action} {v : View History}
    (h : (Turn.done actions v).Alike waits u) :
    ∃ w, u = .done actions w ∧ v.Alike waits w := by
  cases h with
  | intro h => exact ⟨_, rfl, h⟩

/-- What goes on alike after turns that are alike is alike. -/
theorem andThen {next next' : View History → Turn History} (h : t.Alike waits u)
    (hnext : ∀ {v w}, v.Alike waits w → (next v).Alike waits (next' w)) :
    (t.andThen next).Alike waits (u.andThen next') := by
  cases h with
  | @intro answer v w h =>
      cases answer with
      | error e => exact .intro h
      | ok first =>
          refine of_answer_eq ?_ (hnext h).view
          simp only [Turn.andThen, (hnext h).answer_eq]

/-- What goes on alike after the same actions is alike. -/
theorem done_andThen (actions : List Action) {v w : View History}
    {next next' : View History → Turn History} (h : (next v).Alike waits (next' w)) :
    ((Turn.done actions v).andThen next).Alike waits ((Turn.done actions w).andThen next') := by
  refine of_answer_eq ?_ h.view
  simp only [Turn.andThen, Turn.done, h.answer_eq]

end Turn.Alike

namespace View.Alike

section

variable {v w : View History} (h : v.Alike waits w)
include h

/-! ### What is the same -/

/-- They keep their lists under the same keys. -/
theorem key_eq (list : HistoryList) : list.key w.page = list.key v.page := by
  cases h
  rfl

/-- They write the same paths. -/
theorem hash_eq (handler : Handler) (args : RouteArgs) :
    w.hash handler args = v.hash handler args := by
  cases h
  rfl

/-- They are at the same route. -/
theorem currentArgs_eq : w.currentArgs = v.currentArgs := by
  cases h
  rfl

/-- They show the same buttons. -/
theorem toolbar_eq : w.toolbar = v.toolbar := by
  cases h
  rfl

/-- They wait for the same entity. -/
theorem pending_eq : w.pending = v.pending := by
  cases h
  rfl

/-- They display the same entity. -/
theorem displayed_eq : w.displayed = v.displayed := by
  cases h
  rfl

/-- They track the same dialog. -/
theorem dialog_eq : w.dialog = v.dialog := by
  cases h
  rfl

/-- Their histories hold the same values, whatever the times of the visits. -/
theorem contains_eq (key value : String) :
    HistoryStore.contains w.history key value = HistoryStore.contains v.history key value := by
  cases h with
  | intro hhistory _ =>
      rw [← History.contains_undated, hhistory, History.contains_undated]

/-! ### What may be changed -/

/-- They stay alike when both wait for an entity in the same way. -/
theorem withPending (pending : Option PendingDetail) :
    View.Alike waits { v with pending } { w with pending } := by
  cases h with
  | intro hhistory hsearch => exact .intro hhistory hsearch

/-- They stay alike when both display the same entity. -/
theorem withDisplayed (displayed : Option (Entity × RouteArgs)) :
    View.Alike waits { v with displayed } { w with displayed } := by
  cases h with
  | intro hhistory hsearch => exact .intro hhistory hsearch

/-- They stay alike when both track the same dialog. -/
theorem withDialog (dialog : Option PendingDialog) :
    View.Alike waits { v with dialog } { w with dialog } := by
  cases h with
  | intro hhistory hsearch => exact .intro hhistory hsearch

/-! ### Routes -/

/-- Turns that leave them as they are, with the same actions, are alike. -/
theorem done (actions : List Action) : (Turn.done actions v).Alike waits (Turn.done actions w) :=
  .intro h

/-- They go to the same path, if there is one to go to. -/
theorem redirect (handler : Handler) (args : RouteArgs) :
    (v.redirect handler args).Alike waits (w.redirect handler args) := by
  rw [View.redirect, View.redirect, h.hash_eq]
  cases v.hash handler args with
  | ok path => exact h.done _
  | error e => exact .intro h

/-- They show the buttons of a mode alike. -/
theorem setToolbar (mode : ToolbarMode) :
    (v.setToolbar mode).Alike waits (w.setToolbar mode) := by
  cases h with
  | intro hhistory hsearch =>
      rw [setToolbar_eq, setToolbar_eq]
      exact .intro (.intro hhistory hsearch)

/-- They drop the request under way alike. -/
theorem abandonDetail : v.abandonDetail.Alike waits w.abandonDetail := by
  cases h with
  | intro hhistory hsearch =>
      rw [abandonDetail_eq, abandonDetail_eq]
      exact .intro (.intro hhistory hsearch)

/-- They enter a route alike. -/
theorem enterRoute (path : String) (handler : Handler) (args : RouteArgs) :
    (v.enterRoute path handler args).Alike waits (w.enterRoute path handler args) := by
  cases h with
  | intro hhistory hsearch =>
      rw [enterRoute_eq, enterRoute_eq]
      exact .intro (.intro hhistory hsearch)

/-- They leave the entity alike. -/
theorem leaveDetail : v.leaveDetail.Alike waits w.leaveDetail := by
  cases h with
  | @intro history latestSearch hhistory hsearch =>
      have hrendered : ∀ key, HistoryStore.rendered history key =
          HistoryStore.rendered v.history key := fun key => by
        rw [← History.rendered_undated, hhistory, History.rendered_undated]
      rw [leaveDetail_eq, leaveDetail_eq]
      refine Turn.Alike.of_answer_eq ?_ (.intro hhistory hsearch)
      simp only [historyAction, Template.defaultPageData, hrendered]
      rfl

/-- They ask for the entity of a route alike. -/
theorem loadDetail (args : RouteArgs) :
    (v.loadDetail args).Alike waits (w.loadDetail args) := by
  cases h with
  | intro hhistory hsearch =>
      cases hid : args.id? with
      | none =>
          rw [View.loadDetail, View.loadDetail, hid]
          exact .intro (.intro hhistory hsearch)
      | some id =>
          rw [loadDetail_eq _ hid, loadDetail_eq _ hid]
          exact .intro (.intro hhistory hsearch)

/-- They show the entity of a route for editing alike. -/
theorem enterEditMode (args : RouteArgs) :
    (v.enterEditMode args).Alike waits (w.enterEditMode args) := by
  cases h with
  | intro hhistory hsearch =>
      rw [View.enterEditMode, View.enterEditMode]
      cases args.id? with
      | none => exact .intro hhistory hsearch
      | some id => exact .intro hhistory hsearch

variable (hrefl : ∀ ticket : Ticket, waits (some ticket) (some ticket))
include hrefl

/-- They search the list alike, under the same ticket, whatever they waited for before. -/
theorem search (args : RouteArgs) : (v.search args).Alike waits (w.search args) := by
  cases h with
  | intro hhistory hsearch => exact .intro (.intro hhistory (hrefl _))

/-- They enter the list alike. -/
theorem enterList (args : RouteArgs) : (v.enterList args).Alike waits (w.enterList args) := by
  cases h with
  | intro hhistory hsearch => exact .intro (.intro hhistory (hrefl _))

/-- They show the filters of the list alike. -/
theorem enterFilterMode (args : RouteArgs) (c : Classification) :
    (v.enterFilterMode args c).Alike waits (w.enterFilterMode args c) := by
  cases h with
  | intro hhistory hsearch =>
      rw [View.enterFilterMode, View.enterFilterMode]
      dsimp only
      split
      · exact .intro (.intro hhistory (hrefl _))
      · exact .intro (.intro hhistory hsearch)

/-- They do the tasks of a navigation alike. -/
theorem runTasks (args : RouteArgs) (c : Classification) (tasks : List Task) :
    (v.runTasks args c tasks).Alike waits (w.runTasks args c tasks) := by
  induction tasks generalizing v w with
  | nil => exact .intro h
  | cons task rest ih =>
      refine Turn.Alike.andThen ?_ fun h => ih h
      cases task with
      | enterList => exact h.enterList hrefl args
      | enterFilterMode => exact h.enterFilterMode hrefl args c
      | leaveFilterRoute => exact h.redirect _ _

/-- They handle a navigation alike if what follows its tasks is done alike. -/
theorem reconcile (args : RouteArgs) (plan : List (Condition Task))
    {next : Bool → View History → Turn History}
    (hnext : ∀ stopped, ∀ {v w : View History}, v.Alike waits w →
      (next stopped v).Alike waits (next stopped w)) :
    (v.reconcile args plan next).Alike waits (w.reconcile args plan next) := by
  cases h with
  | intro hhistory hsearch =>
      exact Turn.Alike.andThen
        (runTasks (v := { v with reconciler := ⟨some args⟩ }) (.intro hhistory hsearch) hrefl _ _ _)
        (hnext _)

/-- Searching and going on to a path, once there is one. -/
theorem loadDelete (args : RouteArgs) :
    (v.loadDelete args).Alike waits (w.loadDelete args) := by
  rw [View.loadDelete, View.loadDelete, h.hash_eq]
  cases v.hash .load (args.only [RouteArgs.nameKey]) with
  | error e => exact .intro h
  | ok path => exact (h.search hrefl args).andThen fun h => h.done _

/-- They go to the route without its flag alike. -/
theorem stripAndRedirect (flag : Flag) (args : RouteArgs) :
    (v.stripAndRedirect flag args).Alike waits (w.stripAndRedirect flag args) := by
  rw [View.stripAndRedirect, View.stripAndRedirect, h.hash_eq]
  cases v.hash .loadConfigs (args.lower flag) with
  | error e => exact .intro h
  | ok path => exact (h.search hrefl _).andThen fun h => h.done _

/-- Every handler does alike on both. -/
theorem handle (args : RouteArgs) (handler : Handler) :
    (v.handle args handler).Alike waits (w.handle args handler) := by
  have htransient : ∀ flag,
      (v.loadTransient args flag).Alike waits (w.loadTransient args flag) := fun flag =>
    h.reconcile hrefl args _ fun stopped {v w} h => by
      cases stopped with
      | true => exact h.abandonDetail
      | false =>
          refine stripAndRedirect ?_ hrefl flag args
          split
          · exact h.enterEditMode args
          · exact h
  cases handler with
  | load =>
      change (v.load args).Alike waits (w.load args)
      refine h.reconcile hrefl args _ fun _ {v w} h => ?_
      split
      · exact h.leaveDetail
      · exact h.done []
  | loadFilter => exact h.reconcile hrefl args _ fun _ {_ _} h => h.done _
  | loadDelete => exact h.loadDelete hrefl args
  | loadConfigs => exact h.reconcile hrefl args _ fun _ {_ _} h => h.loadDetail args
  | loadNewConfigs => exact htransient .new
  | loadEditConfigs => exact htransient .edit

/-- Views that are alike handle a route alike. -/
theorem onRouteChanged (path : String) :
    (v.onRouteChanged path).Alike waits (w.onRouteChanged path) := by
  have htable : w.table = v.table := by
    cases h
    rfl
  rw [View.onRouteChanged, View.onRouteChanged, htable]
  cases v.table.resolve path with
  | error e => exact h.done []
  | ok found =>
      exact (h.enterRoute path found.1 found.2).andThen fun h => h.handle hrefl found.2 found.1

/-- They end the session alike. -/
theorem onSessionReset : v.onSessionReset.Alike waits w.onSessionReset := by
  cases h with
  | intro hhistory hsearch =>
      rw [View.onSessionReset, View.onSessionReset]
      dsimp only
      split
      · exact .intro (.intro hhistory (hrefl _))
      · exact .intro (.intro hhistory hsearch)

end

/-! ### Events -/

section

variable {v w : View History} (h : v.Alike waits w)
include h

/-- They take note of a timer alike. -/
theorem onTimer (timer : Ticket) : (v.onTimer timer).Alike waits (w.onTimer timer) := by
  rw [View.onTimer, View.onTimer, h.pending_eq]
  cases v.pending with
  | none => exact h.done []
  | some p =>
      dsimp only
      split
      · exact (h.withPending _).done _
      · exact h.done []

/-- They open a dialog alike. -/
theorem openDialog (purpose : DialogPurpose) :
    (v.openDialog purpose).Alike waits (w.openDialog purpose) := by
  rw [View.openDialog.eq_def, View.openDialog.eq_def, h.dialog_eq]
  cases v.dialog with
  | none =>
      cases h with
      | intro hhistory hsearch => exact .intro (.intro hhistory hsearch)
  | some p => exact h.done []

/-- They answer the wish to edit alike. -/
theorem onEditRequested : v.onEditRequested.Alike waits w.onEditRequested := by
  rw [View.onEditRequested, View.onEditRequested, h.currentArgs_eq]
  dsimp only
  split
  · exact h.done []
  · exact h.redirect _ _

/-- They send the request of a dialog alike. -/
theorem sendRequest (p : PendingDialog) (request : StoreRequest) (name : String) :
    (v.sendRequest p request name).Alike waits (w.sendRequest p request name) := by
  cases h with
  | intro hhistory hsearch => exact .intro (.intro hhistory hsearch)

/-- They confirm a dialog alike. -/
theorem confirm (p : PendingDialog) (fields : SortedMap String String) :
    (v.confirm p fields).Alike waits (w.confirm p fields) := by
  rw [View.confirm, View.confirm, h.currentArgs_eq]
  cases p.purpose with
  | create => exact h.sendRequest _ _ _
  | delete =>
      dsimp only
      split
      · exact (h.withDialog _).done _
      · exact (h.done _).andThen fun h => h.sendRequest _ _ _

/-- They handle a decision alike. -/
theorem onDialogResolved (dialog : Ticket) (decision : DialogDecision) :
    (v.onDialogResolved dialog decision).Alike waits (w.onDialogResolved dialog decision) := by
  rw [View.onDialogResolved, View.onDialogResolved, h.dialog_eq]
  cases v.dialog with
  | none => exact h.done []
  | some p =>
      dsimp only
      split
      · cases decision with
        | confirmed fields => exact h.confirm p fields
        | cancelled => exact (h.withDialog _).done _
      · exact h.done []

variable (hfile : v.history.file = none) (hfile' : w.history.file = none)
include hfile hfile'

/-- Remembering an entry changes histories alike, whatever its time. -/
theorem put (key : String) {e e' : HistoryEntry} (he : e'.undated = e.undated) :
    View.Alike waits { v with history := (HistoryStore.put v.history key e).2 }
      { w with history := (HistoryStore.put w.history key e').2 } := by
  cases h with
  | @intro history _ hhistory hsearch =>
      refine .intro ?_ hsearch
      change (history.put key e').2.undated = (v.history.put key e).2.undated
      rw [History.undated_put hfile, History.undated_put hfile', hhistory, he]

/-- They stay alike when a value is removed from a list of both. -/
theorem remove (key value : String) :
    View.Alike waits { v with history := (HistoryStore.remove v.history key value).2 }
      { w with history := (HistoryStore.remove w.history key value).2 } := by
  cases h with
  | @intro history _ hhistory hsearch =>
      refine .intro ?_ hsearch
      change (history.remove key value).2.undated = (v.history.remove key value).2.undated
      rw [(History.undated_remove hfile key value).2, (History.undated_remove hfile' key value).2,
        hhistory]

/-- Removing a value fails for both or for none. -/
theorem remove_fst_eq (key value : String) :
    (HistoryStore.remove w.history key value).1 = (HistoryStore.remove v.history key value).1 := by
  cases h with
  | @intro history _ hhistory _ =>
      change (history.remove key value).1 = (v.history.remove key value).1
      rw [(History.undated_remove hfile key value).1, (History.undated_remove hfile' key value).1,
        hhistory]

/-- They show an entity alike, each with the reading of its own clock. -/
theorem showEntity (now now' : Int) (e : Entity) (args : RouteArgs) (editable : Bool) :
    (v.showEntity now e args editable).Alike waits (w.showEntity now' e args editable) := by
  simp only [View.showEntity, detailPath, h.hash_eq, h.key_eq]
  cases v.hash .loadConfigs args with
  | error err => exact .intro h
  | ok path =>
      have hentry : HistoryEntry.undated ⟨e.name, path, now'⟩ =
          HistoryEntry.undated ⟨e.name, path, now⟩ := rfl
      have hput := h.put hfile hfile' (HistoryList.recent.key v.page) hentry
      have hfavorited := hput.contains_eq (HistoryList.favorites.key v.page) path
      dsimp only at hfavorited
      simp only [hfavorited]
      exact .intro (hput.withDisplayed _)

/-- They handle the reply to the request under way alike. -/
theorem onDetailReply (now now' : Int) (reply : StoreReply) :
    (v.onDetailReply now reply).Alike waits (w.onDetailReply now' reply) := by
  rw [View.onDetailReply, View.onDetailReply, h.pending_eq]
  cases v.pending with
  | none => exact h.done []
  | some p =>
      have hnone := h.withPending none
      refine Turn.Alike.done_andThen _ ?_
      cases reply with
      | entity e => exact hnone.showEntity hfile hfile' now now' e p.args p.editable
      | _ => exact hnone.done _

/-- They lead to a new entity alike. -/
theorem onCreated (now now' : Int) (dialog : Ticket) (name id : String) :
    (v.onCreated now dialog name id).Alike waits (w.onCreated now' dialog name id) := by
  simp only [View.onCreated, detailPath, h.hash_eq, h.currentArgs_eq, h.key_eq]
  split
  · exact .intro h
  · split
    · exact .intro h
    · exact .intro (h.put hfile hfile' _ rfl)

/-- They handle the reply to a change alike. -/
theorem onMutationReply (now now' : Int) (reply : StoreReply) :
    (v.onMutationReply now reply).Alike waits (w.onMutationReply now' reply) := by
  have hclosed := h.withDialog none
  rw [View.onMutationReply.eq_def, View.onMutationReply.eq_def, h.dialog_eq]
  cases v.dialog with
  | none => exact h.done []
  | some p =>
      dsimp only
      cases p.state with
      | prompting => exact h.done []
      | awaiting ticket name =>
          dsimp only
          cases p.purpose with
          | create =>
              cases reply with
              | created id => exact hclosed.onCreated hfile hfile' now now' p.ticket name id
              | _ => exact (h.withDialog _).done _
          | delete =>
              cases reply with
              | deleted =>
                  cases h with
                  | intro hhistory hsearch =>
                      exact redirect (v := { v with dialog := none }) (.intro hhistory hsearch) _ _
              | _ =>
                  cases h with
                  | intro hhistory hsearch => exact .intro (.intro hhistory hsearch)

/-- They mark the displayed entity alike. -/
theorem toggleFavorite (now now' : Int) :
    (v.toggleFavorite now).Alike waits (w.toggleFavorite now') := by
  simp only [View.toggleFavorite, h.displayed_eq]
  cases v.displayed with
  | none => exact h.done []
  | some shown =>
      simp only [detailPath, h.hash_eq, h.key_eq, h.contains_eq]
      cases v.hash .loadConfigs shown.2 with
      | error e => exact .intro h
      | ok path =>
          dsimp only
          split
          · simp only [h.remove_fst_eq hfile hfile']
            exact .intro ((h.remove hfile hfile' _ path).withDisplayed _)
          · have hentry : HistoryEntry.undated ⟨shown.1.name, path, now'⟩ =
                HistoryEntry.undated ⟨shown.1.name, path, now⟩ := rfl
            have hput := h.put hfile hfile' (HistoryList.favorites.key v.page) hentry
            simp only [History.put_fst_of_file_eq_none hfile,
              History.put_fst_of_file_eq_none hfile']
            exact .intro (hput.withDisplayed _)

end

/-- Views that are alike, wait for the same search and keep their histories in memory handle every
event alike, whatever the clock reads for each. -/
theorem step {v w : View History} (h : v.Alike Eq w) (hfile : v.history.file = none)
    (hfile' : w.history.file = none) (now now' : Int) (e : Event) :
    (v.step now e).Alike Eq (w.step now' e) := by
  have hrefl : ∀ ticket : Ticket, some ticket = some ticket := fun _ => rfl
  cases e with
  | routeChanged path => exact h.onRouteChanged hrefl path
  | storeReplied ticket reply =>
      have howns : w.ownsDetail ticket = v.ownsDetail ticket ∧
          w.ownsSearch ticket = v.ownsSearch ticket ∧
          w.ownsMutation ticket = v.ownsMutation ticket := by
        cases h with
        | intro _ hsearch => exact ⟨rfl, hsearch ▸ rfl, rfl⟩
      simp only [View.step, onStoreReplied, howns]
      split
      · exact h.onDetailReply hfile hfile' now now' reply
      · split
        · cases h with
          | intro hhistory hsearch => cases reply <;> exact .intro (.intro hhistory rfl)
        · split
          · exact h.onMutationReply hfile hfile' now now' reply
          · exact h.done []
  | dialogResolved dialog decision => exact h.onDialogResolved dialog decision
  | timerFired timer => exact h.onTimer timer
  | toolbarPressed button =>
      simp only [View.step, onToolbar, h.toolbar_eq, h.currentArgs_eq]
      split
      · cases button with
        | new => exact h.openDialog .create
        | delete => exact h.openDialog .delete
        | up => exact h.redirect _ _
        | edit => exact h.onEditRequested
        | favorites => exact h.toggleFavorite hfile hfile' now now'
      · exact h.done []
  | editRequested => exact h.onEditRequested
  | sessionReset => exact h.onSessionReset hrefl

end View.Alike

end ConfigBrowser
