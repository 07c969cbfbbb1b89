import ConfigBrowser.History.Lists
import ConfigBrowser.Proofs.View.Course

/-!
# Work on the List

What the view has its host do to the list: search it, select its tab, select its layout. What a
route brings of that is decided by the page, the filter, the memory of navigations and the
arguments aside from the id. So two courses whose routes differ in nothing but ids work on the list
alike, at every moment, although the ids decide which entities are asked for and how many tickets
are handed out.

## Main results

* `View.Sound.listWork_step_routeChanged`: the work on the list that a route brings.
* `View.Twins.step`: views that work on the list alike do so after moments that differ in ids only.
* `View.Course.listWork_eq`: courses that differ in ids only work on the list alike.
-/

namespace ConfigBrowser

/-! ### Work -/

/-- Something that is done to the list. -/
inductive ListWork where
  | search (query : SearchQuery)
  | tab (page : String)
  | layout (layout : Layout)
deriving DecidableEq, Repr

/-- What an action does to the list. -/
def Action.listWork? : Action → Option ListWork
  | .store _ (.search query) => some (.search query)
  | .setTab page => some (.tab page)
  | .setLayout layout => some (.layout layout)
  | _ => none

/-- What a turn does to the list, in order. -/
def Turn.listWork {η : Type} (t : Turn η) : List ListWork := t.emitted.filterMap Action.listWork?

/-- What is done to the list at a moment, in order. -/
def Moment.listWork {η : Type} [HistoryStore η] (m : Moment η) : List ListWork := m.turn.listWork

/-- The handler that does the same to the list and leaves entities out of account. -/
def Handler.onList : Handler → Handler
  | .loadConfigs => .load
  | h => h

/-- A handler of routes with a flag stands for itself alone. -/
theorem Handler.onList_eq_iff {h flagged : Handler} (hflag : flagged.flag?.isSome = true) :
    h.onList = flagged ↔ h = flagged := by
  cases flagged with
  | load | loadConfigs => simp [Handler.flag?] at hflag
  | _ => cases h <;> simp [Handler.onList]

namespace View

variable {η : Type}

/-- The work of building the list anew. -/
def building (v : View η) (args : RouteArgs) : List ListWork :=
  [.search (v.query args), .tab v.page, .layout .default]

/-- The work of a route that shows the list: a list that stays needs none. -/
def listingWork (v : View η) (args : RouteArgs) : List ListWork :=
  match v.reconciler.classify args with
  | .newPage => v.building args
  | .continuation => []

/-- The work of a route with the filter flag: a list that stays is searched again when it did not
show its filters. -/
def filteringWork (v : View η) (args : RouteArgs) : List ListWork :=
  match v.reconciler.classify args with
  | .newPage => v.filtering.building args
  | .continuation => if v.filtered then [] else [.search (v.filtering.query args)]

/-- The work of a route with a flag behind the id: a list that stays is searched again. -/
def transientWork (v : View η) (args : RouteArgs) (flag : Flag) : List ListWork :=
  match v.reconciler.classify args with
  | .newPage => v.building args
  | .continuation => [.search (v.query (args.lower flag))]

/-- The work on the list that a route brings. -/
def workFor (v : View η) (args : RouteArgs) : Handler → List ListWork
  | .load | .loadConfigs => v.listingWork args
  | .loadFilter => v.filteringWork args
  | .loadDelete => [.search (v.query args)]
  | .loadNewConfigs => v.transientWork args .new
  | .loadEditConfigs => v.transientWork args .edit

/-- A handler brings the same work on the list without the entity of its route. -/
theorem workFor_onList (v : View η) (args : RouteArgs) (h : Handler) :
    v.workFor args h.onList = v.workFor args h := by
  cases h <;> rfl

/-! ### The work of a route -/

/-- Showing buttons is no work on the list. -/
theorem listWork_toolbarActions (v : View η) (mode : ToolbarMode) :
    (v.toolbarActions mode).filterMap Action.listWork? = [] := by
  rw [toolbarActions]
  split <;> rfl

/-- Dropping the request under way is no work on the list. -/
theorem listWork_abandonActions (v : View η) :
    v.abandonActions.filterMap Action.listWork? = [] := by
  rw [abandonActions]
  split <;> rfl

/-- Asking for an entity is no work on the list. -/
theorem listWork_askActions (v : View η) (id : String) :
    (v.askActions id).filterMap Action.listWork? = [] := by
  rw [askActions]
  cases v.pending <;> rfl

/-- Entering the list brings the work of listing. -/
theorem listWork_listActions (v : View η) (args : RouteArgs) :
    (v.listActions args).filterMap Action.listWork? = v.listingWork args := by
  rw [listActions, listingWork]
  cases v.reconciler.classify args <;> rfl

/-- Filtering the list brings the work of filtering. -/
theorem listWork_filterActions (v : View η) (args : RouteArgs) :
    (v.filterActions args).filterMap Action.listWork? = v.filteringWork args := by
  have hfiltering : v.filtering.reconciler.classify args = v.reconciler.classify args := rfl
  rw [filterActions, filteringWork]
  cases hc : v.reconciler.classify args with
  | newPage =>
      have hlist := v.filtering.listWork_listActions args
      rwa [listingWork, hfiltering, hc] at hlist
  | continuation => cases v.filtered <;> rfl

/-- Entering the list leaves its filters as they are. -/
theorem filtered_listed (v : View η) (args : RouteArgs) :
    (v.listed args).filtered = v.filtered := by
  rw [listed]
  split <;> rfl

/-- The list is filtered from then on. -/
theorem filtered_filterListed (v : View η) (args : RouteArgs) :
    (v.filterListed args).filtered = true := by
  rw [filterListed]
  split
  · exact v.filtering.filtered_listed args
  · split <;> rfl

section Handle

variable {v : View η} {args : RouteArgs}

/-- A route with a flag behind the id brings its work on the list. -/
theorem Sound.listWork_loadTransient (hv : v.Sound) (hid : args.id?.isSome = true) (flag : Flag) :
    (v.loadTransient args flag).listWork = v.transientWork args flag ∧
      (v.loadTransient args flag).view.filtered = v.filtered := by
  rw [transientWork]
  cases hc : v.reconciler.classify args with
  | newPage =>
      have hlisting : v.listingWork args = v.building args := by rw [listingWork, hc]
      rw [loadTransient_eq_of_newPage v flag hc, Turn.listWork, Turn.emitted_done,
        List.filterMap_append, listWork_listActions, listWork_abandonActions, List.append_nil]
      exact ⟨hlisting, v.filtered_listed args⟩
  | continuation =>
      obtain ⟨path, hpath⟩ := hv.exists_hash_loadConfigs (args.id?_lower flag ▸ hid)
      rw [loadTransient_eq_of_continuation v hc hpath]
      exact ⟨rfl, rfl⟩

variable [HistoryStore η]

/-- A route that is handled brings its work on the list, and the list shows its filters from the
first route with the filter flag on. -/
theorem Sound.listWork_handle (hv : v.Sound) {h : Handler} (ha : h.Admits args) :
    (v.handle args h).listWork = v.workFor args h ∧
      (v.handle args h).view.filtered = (decide (h = .loadFilter) || v.filtered) := by
  cases h with
  | load =>
      rw [handle, load_eq v (ha.id?_eq_none (by decide)), Turn.listWork, Turn.emitted_done,
        List.filterMap_append, List.filterMap_append, listWork_listActions,
        listWork_abandonActions]
      exact ⟨List.append_nil _, v.filtered_listed args⟩
  | loadFilter =>
      obtain ⟨path, hpath⟩ := hv.exists_hash_unfiltered args
      rw [handle, loadFilter_eq v hpath, Turn.listWork, Turn.emitted_done, List.filterMap_append,
        listWork_filterActions]
      exact ⟨List.append_nil _, v.filtered_filterListed args⟩
  | loadDelete =>
      obtain ⟨path, hpath⟩ := hv.exists_hash_load
      rw [handle, loadDelete_eq v hpath]
      exact ⟨rfl, rfl⟩
  | loadConfigs =>
      obtain ⟨id, hid⟩ := ha.exists_id rfl
      rw [handle, loadConfigs_eq v hid, Turn.listWork, Turn.emitted_done, List.filterMap_append,
        listWork_listActions, listWork_askActions]
      exact ⟨List.append_nil _, v.filtered_listed args⟩
  | loadNewConfigs =>
      exact hv.listWork_loadTransient (Option.isSome_iff_exists.2 (ha.exists_id rfl)) .new
  | loadEditConfigs =>
      exact hv.listWork_loadTransient (Option.isSome_iff_exists.2 (ha.exists_id rfl)) .edit

/-- A route that resolves brings its work on the list, and the list shows its filters from the
first route with the filter flag on. -/
theorem Sound.listWork_step_routeChanged (hv : v.Sound) {path : String} {h : Handler}
    (hresolve : v.table.resolve path = .ok (h, args)) (now : Int) :
    (v.step now (.routeChanged path)).listWork = v.workFor args h ∧
      (v.step now (.routeChanged path)).view.filtered =
        (decide (h = .loadFilter) || v.filtered) := by
  have ha : h.Admits args := admits_of_resolve hv.colon hv.table hresolve
  obtain ⟨hwork, hfiltered⟩ := (hv.of_entered ha path).listWork_handle ha
  obtain ⟨actions, w, hhandle, -⟩ := (hv.of_entered ha path).exists_handles ha
  have henter : (v.toolbarActions (toolbarOf args) ++
      if v.pendingDiffers args then v.abandonActions else []).filterMap Action.listWork? = [] := by
    rw [List.filterMap_append, listWork_toolbarActions]
    split
    · exact v.listWork_abandonActions
    · rfl
  obtain ⟨first, hfirst, hstep⟩ : ∃ first, first.filterMap Action.listWork? = [] ∧
      v.step now (.routeChanged path) = .done (first ++ actions) w := by
    refine ⟨_, henter, ?_⟩
    rw [View.step, onRouteChanged, hresolve]
    simp only [enterRoute_eq]
    exact Turn.done_andThen hhandle
  rw [hhandle] at hwork hfiltered
  rw [hstep, Turn.listWork, Turn.emitted_done, List.filterMap_append, hfirst]
  exact ⟨hwork, hfiltered⟩

end Handle

end View

/-! ### Routes that differ in ids only -/

namespace RouteArgs

variable {args args' : RouteArgs}

/-- Arguments that are the same but for the id agree in all other keys. -/
theorem get?_eq_of_without_id (h : args.without idKey = args'.without idKey) {key : String}
    (hkey : key ≠ idKey) : args.get? key = args'.get? key := by
  have hget := congrArg (SortedMap.get? · key) h
  simpa only [without, SortedMap.get?_erase, if_neg hkey] using hget

/-- Arguments that differ in the id only are of the same page. -/
theorem identity_eq_of_without_id (h : args.without idKey = args'.without idKey) :
    args.identity = args'.identity := by
  refine SortedMap.ext_get? fun key => ?_
  rw [identity, identity, SortedMap.get?_filterKeys, SortedMap.get?_filterKeys]
  by_cases hkey : key = idKey
  · simp [hkey]
  · rw [get?_eq_of_without_id h hkey]

/-- Arguments that differ in the id only still do so without a flag. -/
theorem without_id_lower (h : args.without idKey = args'.without idKey) (flag : Flag) :
    (args.lower flag).without idKey = (args'.lower flag).without idKey := by
  refine SortedMap.ext_get? fun key => ?_
  simp only [without, lower, SortedMap.get?_erase]
  by_cases hkey : key = idKey
  · simp [hkey]
  · rw [get?_eq_of_without_id h hkey]

end RouteArgs

/-- Two moments differ in ids only: both are resets, or both are changes of location that either
no rule matches or that resolve to the same but for the id. Whether an entity is shown besides the
list makes no difference either. -/
inductive Moment.DifferInIds {η η' : Type} (m : Moment η) (m' : Moment η') : Prop where
  | reset (h : m.event = .sessionReset) (h' : m'.event = .sessionReset)
  | unresolved {path path' : String} {err err' : Error} (h : m.event = .routeChanged path)
      (h' : m'.event = .routeChanged path') (hresolve : m.view.table.resolve path = .error err)
      (hresolve' : m'.view.table.resolve path' = .error err')
  | route {path path' : String} {handler handler' : Handler} {args args' : RouteArgs}
      (h : m.event = .routeChanged path) (h' : m'.event = .routeChanged path')
      (hresolve : m.view.table.resolve path = .ok (handler, args))
      (hresolve' : m'.view.table.resolve path' = .ok (handler', args'))
      (hhandler : handler.onList = handler'.onList)
      (hargs : args.without RouteArgs.idKey = args'.without RouteArgs.idKey)

namespace View

/-- Two views that work on the list alike: the page and the filter are the same, and the
navigations that they remember and the current routes are the same but for ids. -/
structure Twins {η η' : Type} (v : View η) (v' : View η') : Prop where
  page : v.page = v'.page
  filtered : v.filtered = v'.filtered
  reconciler : v.reconciler.previous.map RouteArgs.identity =
    v'.reconciler.previous.map RouteArgs.identity
  current : v.current.map (·.args.without RouteArgs.idKey) =
    v'.current.map (·.args.without RouteArgs.idKey)

namespace Twins

variable {η η' : Type} {v : View η} {v' : View η'} (h : v.Twins v') {args args' : RouteArgs}
include h

/-- The current routes of twins differ in ids only. -/
theorem currentArgs :
    v.currentArgs.without RouteArgs.idKey = v'.currentArgs.without RouteArgs.idKey := by
  have hcurrent := h.current
  rw [View.currentArgs, View.currentArgs]
  cases hv : v.current with
  | none =>
      cases hv' : v'.current with
      | none => rfl
      | some route' => simp [hv, hv'] at hcurrent
  | some route =>
      cases hv' : v'.current with
      | none => simp [hv, hv'] at hcurrent
      | some route' => simpa [hv, hv'] using hcurrent

section Args

variable (hargs : args.without RouteArgs.idKey = args'.without RouteArgs.idKey)
include hargs

/-- Twins tell a new page from one that stays in the same way. -/
theorem classify : v.reconciler.classify args = v'.reconciler.classify args' := by
  have hreconciler := h.reconciler
  rw [Reconciler.classify, Reconciler.classify, ← RouteArgs.identity_eq_of_without_id hargs]
  cases hp : v.reconciler.previous with
  | none =>
      cases hp' : v'.reconciler.previous with
      | none => rfl
      | some previous' => simp [hp, hp'] at hreconciler
  | some previous =>
      cases hp' : v'.reconciler.previous with
      | none => simp [hp, hp'] at hreconciler
      | some previous' =>
          have hidentity : previous.identity = previous'.identity := by
            simpa [hp, hp'] using hreconciler
          simp only [hidentity]

/-- Twins search the list for the same. -/
theorem query : v.query args = v'.query args' := by
  have hget : ∀ {key}, key ≠ RouteArgs.idKey → args.get? key = args'.get? key :=
    RouteArgs.get?_eq_of_without_id hargs
  rw [View.query, View.query, RouteArgs.name?, RouteArgs.name?, RouteArgs.type?, RouteArgs.type?,
    RouteArgs.hasFlag, RouteArgs.hasFlag, SortedMap.contains, SortedMap.contains, h.page,
    h.filtered, hget (by decide), hget (by decide), hget (by decide)]

/-- Twins bring the same work to build up a list. -/
theorem building : v.building args = v'.building args' := by
  rw [View.building, View.building, h.query hargs, h.page]

/-- Twins bring the same work for a route with a flag. -/
theorem transientWork (flag : Flag) : v.transientWork args flag = v'.transientWork args' flag := by
  rw [View.transientWork, View.transientWork, h.classify hargs, h.building hargs,
    h.query (RouteArgs.without_id_lower hargs flag)]

omit hargs in
/-- Twins stay twins when the filters of both come up. -/
theorem filtering : v.filtering.Twins v'.filtering := ⟨h.page, rfl, h.reconciler, h.current⟩

/-- The same handler brings the same work on the list, whatever the id. -/
theorem workFor_args (handler : Handler) : v.workFor args handler = v'.workFor args' handler := by
  have hlisting : v.listingWork args = v'.listingWork args' := by
    rw [listingWork, listingWork, h.classify hargs, h.building hargs]
  cases handler with
  | load | loadConfigs => exact hlisting
  | loadFilter =>
      rw [View.workFor, View.workFor, filteringWork, filteringWork, h.classify hargs, h.filtered,
        h.filtering.building hargs, h.filtering.query hargs]
  | loadDelete => rw [View.workFor, View.workFor, h.query hargs]
  | loadNewConfigs => exact h.transientWork hargs .new
  | loadEditConfigs => exact h.transientWork hargs .edit

/-- Routes that differ in ids only bring the same work on the list. -/
theorem workFor {handler handler' : Handler} (hhandler : handler.onList = handler'.onList) :
    v.workFor args handler = v'.workFor args' handler' :=
  calc v.workFor args handler
      = v.workFor args handler.onList := (v.workFor_onList args handler).symm
    _ = v'.workFor args' handler'.onList := hhandler ▸ h.workFor_args hargs handler.onList
    _ = v'.workFor args' handler' := v'.workFor_onList args' handler'

end Args

/-- A reset works on the list alike, and the views that it leaves do so again. -/
theorem onSessionReset : v.onSessionReset.listWork = v'.onSessionReset.listWork ∧
    v.onSessionReset.view.Twins v'.onSessionReset.view := by
  have hagain : v.searchesOnReset = v'.searchesOnReset := by
    have hcurrent := congrArg Option.isSome h.current
    rw [Option.isSome_map, Option.isSome_map] at hcurrent
    rw [searchesOnReset, searchesOnReset, h.filtered, hcurrent]
  have hreset : View.Twins { v with filtered := false } { v' with filtered := false } :=
    ⟨h.page, rfl, h.reconciler, h.current⟩
  rw [onSessionReset_eq, onSessionReset_eq, ← hagain]
  split
  · refine ⟨?_, hreset.page, rfl, hreset.reconciler, hreset.current⟩
    have hquery := hreset.query (RouteArgs.without_id_lower h.currentArgs .filter)
    exact congrArg (fun query => [ListWork.search query]) hquery
  · exact ⟨rfl, hreset⟩

end Twins

section Step

variable {η η' : Type} [HistoryStore η] [HistoryStore η']

omit [HistoryStore η] [HistoryStore η'] in
/-- Entering routes that differ in ids only. -/
theorem Twins.of_handles {v w : View η} {v' w' : View η'} (h : v.Twins v') {path path' : String}
    {handler handler' : Handler} {args args' : RouteArgs} {actions actions' : List Action}
    (hspec : (v.entered path handler args).Handles handler args actions w)
    (hspec' : (v'.entered path' handler' args').Handles handler' args' actions' w')
    (hhandler : handler.onList = handler'.onList)
    (hargs : args.without RouteArgs.idKey = args'.without RouteArgs.idKey)
    (hfiltered : w.filtered = w'.filtered) : w.Twins w' where
  page := by rw [hspec.page, hspec'.page]; exact h.page
  filtered := hfiltered
  reconciler := by
    have hdelete : handler = .loadDelete ↔ handler' = .loadDelete := by
      rw [← Handler.onList_eq_iff rfl, hhandler, Handler.onList_eq_iff rfl]
    rw [hspec.reconciler, hspec'.reconciler]
    by_cases hh : handler = .loadDelete
    · rw [if_pos hh, if_pos (hdelete.1 hh)]
      exact h.reconciler
    · rw [if_neg hh, if_neg (hdelete.not.1 hh)]
      exact congrArg some (RouteArgs.identity_eq_of_without_id hargs)
  current := by
    rw [hspec.current, hspec'.current]
    exact congrArg some hargs

/-- Views that work on the list alike do so at moments that differ in ids only, and afterwards. -/
theorem Twins.step {m : Moment η} {m' : Moment η'} (h : m.view.Twins m'.view)
    (hv : m.view.Sound) (hv' : m'.view.Sound) (hids : m.DifferInIds m') :
    m.listWork = m'.listWork ∧ m.after.Twins m'.after := by
  obtain ⟨v, now, e⟩ := m
  obtain ⟨v', now', e'⟩ := m'
  cases hids with
  | reset he he' =>
      obtain rfl : e = .sessionReset := he
      obtain rfl : e' = .sessionReset := he'
      exact h.onSessionReset
  | @unresolved path path' _ _ he he' hresolve hresolve' =>
      obtain rfl : e = .routeChanged path := he
      obtain rfl : e' = .routeChanged path' := he'
      rw [Moment.listWork, Moment.listWork, Moment.after, Moment.after, Moment.turn, Moment.turn,
        step_routeChanged_of_error hresolve, step_routeChanged_of_error hresolve']
      exact ⟨rfl, h⟩
  | @route path path' handler handler' args args' he he' hresolve hresolve' hhandler hargs =>
      obtain rfl : e = .routeChanged path := he
      obtain rfl : e' = .routeChanged path' := he'
      obtain ⟨hwork, hfiltered⟩ := hv.listWork_step_routeChanged hresolve now
      obtain ⟨hwork', hfiltered'⟩ := hv'.listWork_step_routeChanged hresolve' now'
      obtain ⟨actions, w, hstep, hspec⟩ := hv.step_routeChanged hresolve now
      obtain ⟨actions', w', hstep', hspec'⟩ := hv'.step_routeChanged hresolve' now'
      have hfilter : handler = .loadFilter ↔ handler' = .loadFilter := by
        rw [← Handler.onList_eq_iff rfl, hhandler, Handler.onList_eq_iff rfl]
      have hsame : (View.step now v (.routeChanged path)).view.filtered =
          (View.step now' v' (.routeChanged path')).view.filtered := by
        rw [hfiltered, hfiltered', decide_eq_decide.2 hfilter]
        exact congrArg _ h.filtered
      refine ⟨hwork.trans ((h.workFor hargs hhandler).trans hwork'.symm), ?_⟩
      rw [Moment.after, Moment.after, Moment.turn, Moment.turn]
      rw [hstep, hstep'] at hsame ⊢
      exact h.of_handles hspec hspec' hhandler hargs hsame

end Step

/-! ### Courses -/

section Course

variable {η η' : Type} [HistoryStore η] [HistoryStore η']

/-- Courses from views that work on the list alike do so at every moment, as long as they differ
in ids only. -/
theorem Twins.listWork_course {start v : View η} {start' v' : View η'} {ms : List (Moment η)}
    {ms' : List (Moment η')} (h : start.Twins start') (hsound : start.Sound)
    (hsound' : start'.Sound) (hcourse : Course start ms v) (hcourse' : Course start' ms' v')
    (hids : List.Forall₂ Moment.DifferInIds ms ms') :
    ms.map Moment.listWork = ms'.map Moment.listWork := by
  induction hids generalizing start start' with
  | nil => rfl
  | @cons m m' ms ms' hm hids ih =>
      obtain ⟨rfl, hrest⟩ := hcourse.of_cons
      obtain ⟨rfl, hrest'⟩ := hcourse'.of_cons
      obtain ⟨hwork, hafter⟩ := h.step hsound hsound' hm
      have hsame := ih hafter (hsound.step m.now m.event) (hsound'.step m'.now m'.event) hrest
        hrest'
      rw [List.map_cons, List.map_cons, hwork, hsame]

/-- On a page without a colon in its name, courses of routes and resets that differ in ids only
search the list for the same, and select the same tabs and layouts, at every moment. -/
theorem Course.listWork_eq {page : String} {delay delay' : Nat} {history : η} {history' : η'}
    {start v : View η} {start' v' : View η'} {ms : List (Moment η)} {ms' : List (Moment η')}
    (hpage : ':' ∉ page.toList) (hstart : View.initial page delay history = .ok start)
    (hstart' : View.initial page delay' history' = .ok start') (hcourse : Course start ms v)
    (hcourse' : Course start' ms' v') (hids : List.Forall₂ Moment.DifferInIds ms ms') :
    ms.map Moment.listWork = ms'.map Moment.listWork := by
  have htwins : start.Twins start' := by
    obtain ⟨table, -, rfl⟩ := initial_eq_ok_iff.1 hstart
    obtain ⟨table', -, rfl⟩ := initial_eq_ok_iff.1 hstart'
    exact ⟨rfl, rfl, rfl, rfl⟩
  exact htwins.listWork_course (.initial hpage hstart) (.initial hpage hstart') hcourse hcourse'
    hids

/-- The second course selects an entity where the first shows the list. So it hands out another
ticket, and yet both search the list for the same at the reset. -/
theorem listWork_configs_ids : ∃ (start v v' : View History) (ms ms' : List (Moment History)),
    View.initial "configs" 500 (History.inMemory 10) = .ok start ∧ Course start ms v ∧
    Course start ms' v' ∧ List.Forall₂ Moment.DifferInIds ms ms' ∧ ms.length = 3 ∧
    v.lastTicket ≠ v'.lastTicket ∧ ms.map Moment.listWork = ms'.map Moment.listWork := by
  obtain ⟨start, hstart⟩ : ∃ start, View.initial "configs" 500 (History.inMemory 10) = .ok start :=
    ⟨_, rfl⟩
  have hcourse := Course.step (.step (.step (.start : Course start [] start) 0
    (.routeChanged "configs/filter:/name:fx")) 0 (.routeChanged "configs/name:fx")) 0 .sessionReset
  have hcourse' := Course.step (.step (.step (.start : Course start [] start) 0
    (.routeChanged "configs/filter:/7/name:fx")) 0 (.routeChanged "configs/7/name:fx")) 0
    .sessionReset
  obtain ⟨hfilter, hfilter', hload, hload'⟩ :
      start.table.resolve "configs/filter:/name:fx" =
        .ok (.loadFilter, .ofList [("filter", ""), ("name", "fx")]) ∧
      start.table.resolve "configs/filter:/7/name:fx" =
        .ok (.loadFilter, .ofList [("filter", ""), ("id", "7"), ("name", "fx")]) ∧
      (View.step 0 start (.routeChanged "configs/filter:/name:fx")).view.table.resolve
        "configs/name:fx" = .ok (.load, .ofList [("name", "fx")]) ∧
      (View.step 0 start (.routeChanged "configs/filter:/7/name:fx")).view.table.resolve
        "configs/7/name:fx" = .ok (.loadConfigs, .ofList [("id", "7"), ("name", "fx")]) := by
    obtain rfl := Except.ok.inj hstart
    exact ⟨by decide +kernel, by decide +kernel, by decide +kernel, by decide +kernel⟩
  refine ⟨start, _, _, _, _, hstart, hcourse, hcourse', ?_⟩
  suffices hids : List.Forall₂ Moment.DifferInIds _ _ by
    refine ⟨hids, rfl, ?_, hcourse.listWork_eq (by decide) hstart hstart hcourse' hids⟩
    obtain rfl := Except.ok.inj hstart
    decide +kernel
  refine .cons (.route rfl rfl hfilter hfilter' rfl ?_)
    (.cons (.route rfl rfl hload hload' rfl ?_) (.cons (.reset rfl rfl) .nil))
  · decide +kernel
  · decide +kernel

end Course

end View

end ConfigBrowser
