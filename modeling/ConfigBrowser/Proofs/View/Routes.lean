import ConfigBrowser.Proofs.Route.Canonical
import ConfigBrowser.Proofs.View.Quiet

/-!
# What a Route Does

Handling a route that resolved, in one statement for all handlers: which search it makes, which
entity it asks for, where it redirects to, and what becomes of the memory of navigations and of the
request under way. On a page without a colon in its name there is always a path to redirect to, so
that no route fails to be handled.

## Main results

* `View.Sound.exists_handles`: every route is handled, as `View.Handles` says.
* `View.Sound.step_routeChanged`: a route is entered and then handled.
-/

namespace ConfigBrowser

/-! ### Arguments that are changed -/

namespace RouteArgs

/-- Lowering a flag leaves every other argument. -/
theorem get?_lower {args : RouteArgs} {flag : Flag} {key : String} (h : key ≠ flag.key) :
    (args.lower flag).get? key = args.get? key := by
  rw [lower, without, SortedMap.get?_erase, if_neg h]

/-- Lowering a flag leaves the id. -/
theorem id?_lower (args : RouteArgs) (flag : Flag) : (args.lower flag).id? = args.id? := by
  have hne : idKey ≠ flag.key := by cases flag <;> decide
  rw [id?, get?_lower hne, id?]

/-- Lowering a flag leaves the name. -/
theorem name?_lower (args : RouteArgs) (flag : Flag) : (args.lower flag).name? = args.name? :=
  get?_lower (by cases flag <;> decide)

/-- Lowering a flag leaves the type. -/
theorem type?_lower (args : RouteArgs) (flag : Flag) : (args.lower flag).type? = args.type? :=
  get?_lower (by cases flag <;> decide)

/-- A flag that is raised is there. -/
theorem hasFlag_withFlag (args : RouteArgs) (flag : Flag) :
    (args.withFlag flag).hasFlag flag = true := by
  rw [hasFlag, SortedMap.contains, withFlag, get?_set, if_pos rfl]
  rfl

/-- Raising a flag leaves the id. -/
theorem id?_withFlag (args : RouteArgs) (flag : Flag) : (args.withFlag flag).id? = args.id? := by
  have hne : idKey ≠ flag.key := by cases flag <;> decide
  rw [id?, withFlag, get?_set, if_neg hne, id?]

/-- Of arguments that are kept alone, no other one is left. -/
theorem get?_only (args : RouteArgs) (keys : List String) (key : String) :
    (args.only keys).get? key = if key ∈ keys then args.get? key else none := by
  rw [only, SortedMap.get?_filterKeys]
  simp

/-- The id is left if it is among those that are kept. -/
theorem id?_only (args : RouteArgs) (keys : List String) :
    (args.only keys).id? = if idKey ∈ keys then args.id? else none := by
  rw [id?, get?_only, apply_ite (Option.filter _), Option.filter_none, id?]

/-- Arguments that search for the same name are the same with the name alone. -/
theorem only_name_eq {args args' : RouteArgs} (h : args.name? = args'.name?) :
    args.only [nameKey] = args'.only [nameKey] := by
  refine SortedMap.ext_get? fun key => ?_
  rw [get?_only, get?_only]
  split
  · next hkey => rwa [List.mem_singleton.1 hkey]
  · rfl

/-- An id that is set is there unless it is empty. -/
theorem id?_set_idKey (args : RouteArgs) (id : String) :
    (args.set idKey id).id? = if id = "" then none else some id := by
  rw [id?, get?_set, if_pos rfl]
  by_cases hid : id = "" <;> simp [hid]

end RouteArgs

/-! ### Sound views -/

namespace View

variable {η : Type}

/-- What is known of a view on a page without a colon in its name: its table is that of the page,
and the arguments it keeps come from paths that the table resolved. -/
structure Sound (v : View η) : Prop where
  colon : ':' ∉ v.page.toList
  table : pageTable v.page = .ok v.table
  current : ∀ route, v.current = some route → route.handler.Admits route.args
  pending : ∀ p, v.pending = some p → p.args.id?.isSome = true

/-- What differs from a sound view in nothing that has to do with routes is sound. -/
theorem Sound.of_aside {v w : View η} (hv : v.Sound) (h : v.Aside w) : w.Sound where
  colon := h.page ▸ hv.colon
  table := by rw [h.page, h.table, hv.table]
  current route hroute := hv.current route (h.current ▸ hroute)
  pending p hp := by
    have hrequest : v.pending.map PendingDetail.request = some p.request := by
      rw [← h.pending, hp, Option.map_some]
    obtain ⟨q, hq, hqp⟩ := Option.map_eq_some_iff.1 hrequest
    rw [← (Prod.mk.inj hqp).2]
    exact hv.pending q hq

section Hash

variable {v : View η} (hv : v.Sound) {args : RouteArgs}
include hv

/-- There is a path to a handler when the flag and the id are there that it needs. -/
theorem Sound.exists_hash {h : Handler} (hrenders : h.Renders args) :
    ∃ path, v.hash h args = .ok path :=
  ⟨_, (hash_eq_ok_iff hv.colon hv.table).2 ⟨hrenders, rfl⟩⟩

/-- There is always a path to the list. -/
theorem Sound.exists_hash_load : ∃ path, v.hash .load args = .ok path :=
  hv.exists_hash ⟨by simp [Handler.flag?], by simp [Handler.requiresId]⟩

/-- There is a path to every entity. -/
theorem Sound.exists_hash_loadConfigs (hid : args.id?.isSome = true) :
    ∃ path, v.hash .loadConfigs args = .ok path :=
  hv.exists_hash ⟨by simp [Handler.flag?], fun _ => hid⟩

/-- There is a path to the route without the filter flag. -/
theorem Sound.exists_hash_unfiltered (args : RouteArgs) :
    ∃ path, v.hash (unfiltered args) (args.lower .filter) = .ok path := by
  rw [unfiltered]
  split
  · next hid => exact hv.exists_hash_loadConfigs hid
  · exact hv.exists_hash_load

end Hash

/-! ### Handling a route -/

/-- The search of a navigation that shows the list: one if the page is new. -/
def listSearch (v : View η) (args : RouteArgs) : List (Option String × Option String) :=
  match v.reconciler.classify args with
  | .newPage => [(args.name?, args.type?)]
  | .continuation => []

/-- The searches that a route makes. -/
def searchesFor (v : View η) (args : RouteArgs) : Handler → List (Option String × Option String)
  | .load | .loadConfigs => v.listSearch args
  | .loadFilter => if v.filtered then v.listSearch args else [(args.name?, args.type?)]
  | .loadDelete | .loadNewConfigs | .loadEditConfigs => [(args.name?, args.type?)]

/-- The entities that a route asks for: the ticket of the request and the id. -/
def getsFor (v : View η) (args : RouteArgs) : Handler → List (Ticket × String)
  | .loadConfigs => args.id?.toList.map ((v.listed args).nextTicket, ·)
  | _ => []

/-- The handler and the arguments that a route with a flag behind the id redirects to, unless it
opens a new page. -/
def transientTo (v : View η) (args : RouteArgs) (flag : Flag) : Option (Handler × RouteArgs) :=
  match v.reconciler.classify args with
  | .newPage => none
  | .continuation => some (.loadConfigs, args.lower flag)

/-- The handler and the arguments that a route redirects to. -/
def redirectTo (v : View η) (args : RouteArgs) : Handler → Option (Handler × RouteArgs)
  | .load | .loadConfigs => none
  | .loadFilter => some (unfiltered args, args.lower .filter)
  | .loadDelete => some (.load, args.only [RouteArgs.nameKey])
  | .loadNewConfigs => v.transientTo args .new
  | .loadEditConfigs => v.transientTo args .edit

/-- Does a route drop the request under way? -/
def drops (v : View η) (args : RouteArgs) : Handler → Bool
  | .load => true
  | .loadNewConfigs | .loadEditConfigs => v.reconciler.classify args = .newPage
  | .loadFilter | .loadDelete | .loadConfigs => false

/-- The request under way once a route has been handled. -/
def requestAfter (v : View η) (args : RouteArgs) (h : Handler) : Option (Ticket × RouteArgs) :=
  if h = .loadConfigs then some ((v.listed args).nextTicket, args)
  else if v.drops args h then none
  else v.pending.map PendingDetail.request

/-- What a route does: the actions it takes and the view it leaves. -/
structure Handles (v : View η) (h : Handler) (args : RouteArgs) (actions : List Action)
    (w : View η) : Prop where
  page : w.page = v.page
  table : w.table = v.table
  current : w.current = v.current
  reconciler : w.reconciler = if h = .loadDelete then v.reconciler else ⟨some args⟩
  pending : w.pending.map PendingDetail.request = v.requestAfter args h
  asks : ∃ paths, Action.Asks actions (v.searchesFor args h) (v.getsFor args h) paths ∧
    paths.map Except.ok = (v.redirectTo args h).toList.map fun (h, a) => v.hash h a

/-- Showing the list changes nothing that has to do with routes but the memory of navigations. -/
theorem listed_spec (v : View η) (args : RouteArgs) :
    (v.listed args).page = v.page ∧ (v.listed args).table = v.table ∧
      (v.listed args).current = v.current ∧ (v.listed args).pending = v.pending ∧
      (v.listed args).reconciler = ⟨some args⟩ := by
  rw [listed]
  split <;> exact ⟨rfl, rfl, rfl, rfl, rfl⟩

/-- Forgetting the request under way asks for nothing. -/
theorem abandonActions_asks (v : View η) : Action.Asks v.abandonActions [] [] [] := by
  rw [abandonActions]
  split <;> exact ⟨rfl, rfl, rfl, rfl⟩

/-- Showing the list searches it when the page is new. -/
theorem listActions_asks (v : View η) (args : RouteArgs) :
    Action.Asks (v.listActions args) (v.listSearch args) [] [] := by
  rw [listActions, listSearch]
  cases v.reconciler.classify args <;> exact ⟨rfl, rfl, rfl, rfl⟩

/-- Filtering the list changes the memory of navigations, and what is about the list. -/
theorem filterListed_spec (v : View η) (args : RouteArgs) :
    (v.filterListed args).page = v.page ∧ (v.filterListed args).table = v.table ∧
      (v.filterListed args).current = v.current ∧ (v.filterListed args).pending = v.pending ∧
      (v.filterListed args).reconciler = ⟨some args⟩ := by
  rw [filterListed]
  split
  · exact v.filtering.listed_spec args
  · split <;> exact ⟨rfl, rfl, rfl, rfl, rfl⟩

/-- Showing the list with its filters searches it unless it stays as it was. -/
theorem filterActions_asks (v : View η) (args : RouteArgs) :
    Action.Asks (v.filterActions args) (v.searchesFor args .loadFilter) [] [] := by
  have hfiltering : v.filtering.reconciler.classify args = v.reconciler.classify args := rfl
  rw [filterActions, searchesFor, listSearch]
  cases hc : v.reconciler.classify args with
  | newPage =>
      have hlist := v.filtering.listActions_asks args
      rw [listSearch, hfiltering, hc] at hlist
      simpa using hlist
  | continuation => cases v.filtered <;> exact ⟨rfl, rfl, rfl, rfl⟩

/-- Asking for an entity asks for that entity. -/
theorem askActions_asks (v : View η) (id : String) :
    Action.Asks (v.askActions id) [] [(v.nextTicket, id)] [] := by
  rw [askActions]
  cases v.pending <;> exact ⟨rfl, rfl, rfl, rfl⟩

section Handle

variable [HistoryStore η] {v : View η} {args : RouteArgs}

/-- The route of the list is handled. -/
theorem exists_handles_load (ha : Handler.load.Admits args) :
    ∃ actions w, v.handle args .load = .done actions w ∧ v.Handles .load args actions w := by
  refine ⟨_, _, load_eq v (ha.id?_eq_none (by decide)), ?_⟩
  obtain ⟨hpage, htable, hcurrent, -, hreconciler⟩ := v.listed_spec args
  have hshow : Action.Asks [(v.listed args).historyAction] [] [] [] := ⟨rfl, rfl, rfl, rfl⟩
  have hasks := (v.listActions_asks args).append ((v.listed args).abandonActions_asks.append hshow)
  exact ⟨hpage, htable, hcurrent, hreconciler, rfl, [],
    by simpa [searchesFor, getsFor] using hasks, rfl⟩

/-- The route of an entity is handled. -/
theorem exists_handles_loadConfigs (ha : Handler.loadConfigs.Admits args) :
    ∃ actions w, v.handle args .loadConfigs = .done actions w ∧
      v.Handles .loadConfigs args actions w := by
  obtain ⟨id, hid⟩ := ha.exists_id rfl
  refine ⟨_, _, loadConfigs_eq v hid, ?_⟩
  obtain ⟨hpage, htable, hcurrent, -, hreconciler⟩ := v.listed_spec args
  have hasks := (v.listActions_asks args).append ((v.listed args).askActions_asks id)
  refine ⟨hpage, htable, hcurrent, hreconciler, rfl, [], ?_, rfl⟩
  rw [List.append_nil] at hasks
  rw [getsFor, hid]
  exact hasks

/-- The route of the filtered list is handled, since there is a path without the flag. -/
theorem exists_handles_loadFilter (hv : v.Sound) :
    ∃ actions w, v.handle args .loadFilter = .done actions w ∧
      v.Handles .loadFilter args actions w := by
  obtain ⟨path, hpath⟩ := hv.exists_hash_unfiltered args
  refine ⟨_, _, loadFilter_eq v hpath, ?_⟩
  obtain ⟨hpage, htable, hcurrent, hpending, hreconciler⟩ := v.filterListed_spec args
  have hredirect : Action.Asks [.navigate path, syncListFilter args] [] [] [path] :=
    ⟨rfl, rfl, rfl, rfl⟩
  have hasks := (v.filterActions_asks args).append hredirect
  refine ⟨hpage, htable, hcurrent, hreconciler, ?_, [path],
    by simpa [getsFor] using hasks, ?_⟩
  · rw [hpending]
    rfl
  · simp [redirectTo, hpath]

/-- The route that tells of a deletion is handled, since there is a path of the list. -/
theorem exists_handles_loadDelete (hv : v.Sound) :
    ∃ actions w, v.handle args .loadDelete = .done actions w ∧
      v.Handles .loadDelete args actions w := by
  obtain ⟨path, hpath⟩ := hv.exists_hash_load
  refine ⟨_, _, loadDelete_eq v hpath, rfl, rfl, rfl, rfl, rfl, [path], ⟨rfl, rfl, rfl, rfl⟩, ?_⟩
  simp [redirectTo, hpath]

omit [HistoryStore η] in
/-- The routes with a flag behind the id are handled. -/
theorem exists_handles_transient (hv : v.Sound) {h : Handler} {flag : Flag}
    (hflag : (h = .loadNewConfigs ∧ flag = .new) ∨ (h = .loadEditConfigs ∧ flag = .edit))
    (ha : h.Admits args) :
    ∃ actions w, v.loadTransient args flag = .done actions w ∧ v.Handles h args actions w := by
  cases hc : v.reconciler.classify args with
  | newPage =>
      refine ⟨_, _, loadTransient_eq_of_newPage v flag hc, ?_⟩
      obtain ⟨hpage, htable, hcurrent, -, hreconciler⟩ := v.listed_spec args
      have hasks := (v.listActions_asks args).append (v.listed args).abandonActions_asks
      rw [listSearch, hc] at hasks
      rcases hflag with ⟨rfl, rfl⟩ | ⟨rfl, rfl⟩
      · refine ⟨hpage, htable, hcurrent, hreconciler, ?_, [], hasks, ?_⟩
        · simp [requestAfter, drops, hc]
        · simp [redirectTo, transientTo, hc]
      · refine ⟨hpage, htable, hcurrent, hreconciler, ?_, [], hasks, ?_⟩
        · simp [requestAfter, drops, hc]
        · simp [redirectTo, transientTo, hc]
  | continuation =>
      have hid : (args.lower flag).id?.isSome = true := by
        obtain ⟨id, hid⟩ : ∃ id, args.id? = some id := ha.exists_id (by
          rcases hflag with ⟨rfl, -⟩ | ⟨rfl, -⟩ <;> rfl)
        rw [RouteArgs.id?_lower, hid]
        rfl
      obtain ⟨path, hpath⟩ := hv.exists_hash_loadConfigs hid
      refine ⟨_, _, loadTransient_eq_of_continuation v hc hpath, ?_⟩
      have hasks : Action.Asks
          [.store v.nextTicket (.search (v.query (args.lower flag))), .navigate path]
          [(args.name?, args.type?)] [] [path] :=
        ⟨by rw [← args.name?_lower flag, ← args.type?_lower flag]; rfl, rfl, rfl, rfl⟩
      rcases hflag with ⟨rfl, rfl⟩ | ⟨rfl, rfl⟩
      · refine ⟨rfl, rfl, rfl, rfl, ?_, [path], hasks, ?_⟩
        · simp [requestAfter, drops, hc, refreshed, searched]
        · simp [redirectTo, transientTo, hc, hpath]
      · refine ⟨rfl, rfl, rfl, rfl, ?_, [path], hasks, ?_⟩
        · simp [requestAfter, drops, hc, refreshed, searched]
        · simp [redirectTo, transientTo, hc, hpath]

/-- Every route is handled on a page without a colon in its name. -/
theorem Sound.exists_handles (hv : v.Sound) {h : Handler} (ha : h.Admits args) :
    ∃ actions w, v.handle args h = .done actions w ∧ v.Handles h args actions w := by
  cases h with
  | load => exact exists_handles_load ha
  | loadFilter => exact exists_handles_loadFilter hv
  | loadDelete => exact exists_handles_loadDelete hv
  | loadConfigs => exact exists_handles_loadConfigs ha
  | loadNewConfigs => exact exists_handles_transient hv (.inl ⟨rfl, rfl⟩) ha
  | loadEditConfigs => exact exists_handles_transient hv (.inr ⟨rfl, rfl⟩) ha

/-! ### The turn of a route -/

/-- A path that no rule matches changes nothing. -/
theorem step_routeChanged_of_error {path : String} {e : Error}
    (hresolve : v.table.resolve path = .error e) (now : Int) :
    v.step now (.routeChanged path) = .done [] v := by
  rw [step, onRouteChanged, hresolve]

omit [HistoryStore η] in
/-- The actions of entering a route ask for nothing. -/
theorem enterActions_asks (v : View η) (args : RouteArgs) :
    Action.Asks (v.toolbarActions (toolbarOf args) ++
      if v.pendingDiffers args then v.abandonActions else []) [] [] [] := by
  have htoolbar : Action.Asks (v.toolbarActions (toolbarOf args)) [] [] [] := by
    rw [toolbarActions]
    split <;> exact ⟨rfl, rfl, rfl, rfl⟩
  have habandon :
      Action.Asks (if v.pendingDiffers args then v.abandonActions else []) [] [] [] := by
    split
    · exact v.abandonActions_asks
    · exact ⟨rfl, rfl, rfl, rfl⟩
  exact htoolbar.append habandon

omit [HistoryStore η] in
/-- A view that has entered a route that resolved is sound. -/
theorem Sound.of_entered (hv : v.Sound) {h : Handler} (ha : h.Admits args) (path : String) :
    (v.entered path h args).Sound := by
  refine ⟨hv.colon, hv.table, ?_, ?_⟩
  · rintro route ⟨⟩
    exact ha
  · intro p hp
    refine hv.pending p ?_
    simp only [entered] at hp
    split at hp
    · simp at hp
    · exact hp

/-- On a page without a colon in its name a route that resolves is entered and then handled. -/
theorem Sound.step_routeChanged (hv : v.Sound) {path : String} {h : Handler}
    (hresolve : v.table.resolve path = .ok (h, args)) (now : Int) :
    ∃ actions w, v.step now (.routeChanged path) = .done actions w ∧
      (v.entered path h args).Handles h args actions w := by
  have ha : h.Admits args := admits_of_resolve hv.colon hv.table hresolve
  obtain ⟨actions, w, hhandle, hspec⟩ := (hv.of_entered ha path).exists_handles ha
  obtain ⟨paths, hasks, hpaths⟩ := hspec.asks
  have hstep : v.step now (.routeChanged path) =
      .done ((v.toolbarActions (toolbarOf args) ++
        if v.pendingDiffers args then v.abandonActions else []) ++ actions) w := by
    rw [step, onRouteChanged, hresolve]
    simp only [enterRoute_eq]
    exact Turn.done_andThen hhandle
  exact ⟨_, w, hstep, hspec.page, hspec.table, hspec.current, hspec.reconciler, hspec.pending,
    paths, (v.enterActions_asks args).append hasks, hpaths⟩

end Handle

end View

end ConfigBrowser
