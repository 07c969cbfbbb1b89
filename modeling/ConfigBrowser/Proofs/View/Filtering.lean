import ConfigBrowser.Proofs.View.ListWork

/-!
# Which Searches Show the Filters

The filter sticks: from a route with the filter flag on, every search of the session has the list
show its filters, until a reset. Each change of the filter comes with a search, so that the list
always shows its filters when the session does. A reset finds a route to search for, since no
filter is raised before a route has resolved.

## Main results

* `View.Sound.filter_step`: what a moment does to the filter, and its searches.
* `View.Course.filter_iff`: which searches show the filters.
-/

namespace ConfigBrowser

/-- A search among what is done to the list. -/
def ListWork.query? : ListWork → Option SearchQuery
  | .search query => some query
  | .tab _ | .layout _ => none

namespace Moment

variable {η : Type}

/-- The moment of a route with the filter flag. -/
def Filters (m : Moment η) : Prop := ∃ args, m.route? = some (.loadFilter, args)

variable [HistoryStore η]

/-- What the list is searched for at a moment. -/
def queries (m : Moment η) : List SearchQuery := m.listWork.filterMap ListWork.query?

end Moment

variable {η : Type}

/-- A route with the filter flag has been handled after a course of events, and since then the view
has not been entered anew. -/
def Filtered (ms : List (Moment η)) : Prop :=
  Since Moment.Filters (fun m => m.event ≠ .sessionReset) ms

/-- The last search of a course. -/
def lastQuery [HistoryStore η] (ms : List (Moment η)) : Option SearchQuery :=
  (ms.flatMap Moment.queries).getLast?

/-! ### Routes -/

/-- Only the arguments of a route with the filter flag have it. -/
theorem Handler.Admits.hasFlag_filter {h : Handler} {args : RouteArgs} (ha : h.Admits args)
    (hh : h ≠ .loadFilter) : args.hasFlag .filter = false := by
  rw [← Bool.not_eq_true]
  intro hflag
  have hkey := ha.mem_keys _ hflag
  cases h with
  | loadFilter => exact hh rfl
  | _ => exact absurd hkey (by decide)

namespace View

/-- A search for arguments without the filter flag shows the filters if the session does. -/
theorem filter_query (v : View η) {args : RouteArgs} (h : args.hasFlag .filter = false) :
    (v.query args).filter = v.filtered := by
  rw [query, h, Bool.false_or]

/-- The list is built up from a search for what the route says. -/
theorem eq_query_of_mem_building {v : View η} {args : RouteArgs} {query : SearchQuery}
    (h : .search query ∈ v.building args) : query = v.query args := by
  simpa [building] using h

/-- The list is entered with a search for what the route says. -/
theorem eq_query_of_mem_listingWork {v : View η} {args : RouteArgs} {query : SearchQuery}
    (h : .search query ∈ v.listingWork args) : query = v.query args := by
  rw [listingWork] at h
  split at h
  · exact eq_query_of_mem_building h
  · exact absurd h List.not_mem_nil

/-- The list is filtered with a search that shows its filters. -/
theorem eq_query_of_mem_filteringWork {v : View η} {args : RouteArgs} {query : SearchQuery}
    (h : .search query ∈ v.filteringWork args) : query = v.filtering.query args := by
  rw [filteringWork] at h
  split at h
  · exact eq_query_of_mem_building h
  · split at h
    · exact absurd h List.not_mem_nil
    · simpa using h

/-- A route with a flag behind the id searches for its arguments with or without that flag. -/
theorem filter_of_mem_transientWork {v : View η} {args : RouteArgs} {flag : Flag}
    {query : SearchQuery} (hargs : args.hasFlag .filter = false) (hflag : flag ≠ .filter)
    (h : .search query ∈ v.transientWork args flag) : query.filter = v.filtered := by
  have hlower : (args.lower flag).hasFlag .filter = false := by
    have hkey : Flag.filter.key ≠ flag.key := by cases flag <;> simp_all [Flag.key]
    rw [RouteArgs.hasFlag, SortedMap.contains, RouteArgs.get?_lower hkey]
    exact hargs
  rw [transientWork] at h
  split at h
  · rw [eq_query_of_mem_building h, v.filter_query hargs]
  · obtain rfl : query = v.query (args.lower flag) := by simpa using h
    exact v.filter_query hlower

/-- The searches of a route show the filters if the session does once the route is handled. -/
theorem filter_of_mem_workFor {v : View η} {h : Handler} {args : RouteArgs} (ha : h.Admits args)
    {query : SearchQuery} (hquery : .search query ∈ v.workFor args h) :
    query.filter = (decide (h = .loadFilter) || v.filtered) := by
  cases h with
  | load | loadConfigs =>
      rw [eq_query_of_mem_listingWork hquery]
      exact v.filter_query (ha.hasFlag_filter (by decide))
  | loadFilter =>
      rw [eq_query_of_mem_filteringWork hquery]
      exact Bool.or_true _
  | loadDelete =>
      obtain rfl : query = v.query args := by simpa [workFor] using hquery
      exact v.filter_query (ha.hasFlag_filter (by decide))
  | loadNewConfigs | loadEditConfigs =>
      exact filter_of_mem_transientWork (ha.hasFlag_filter (by decide)) (by decide) hquery

/-- A route that raises the filter searches the list. -/
theorem exists_query_of_filtered {v : View η} (hfiltered : v.filtered = false) (args : RouteArgs) :
    ∃ query, .search query ∈ v.workFor args .loadFilter := by
  rw [workFor, filteringWork]
  cases v.reconciler.classify args with
  | newPage => exact ⟨_, List.mem_cons_self⟩
  | continuation => exact ⟨_, by simp [hfiltered]; rfl⟩

/-! ### Moments -/

section Step

variable [HistoryStore η] {v : View η}

/-- No event but a route that resolves and a reset changes the filter. -/
theorem filtered_step (now : Int) {e : Event}
    (hroute : ∀ path, e = .routeChanged path → ∃ err, v.table.resolve path = .error err)
    (hreset : e ≠ .sessionReset) : (v.step now e).view.filtered = v.filtered := by
  have houtcome := v.outcome_step now e
  generalize v.step now e = t at houtcome
  cases houtcome with
  | route hresolve =>
      obtain ⟨err, herr⟩ := hroute _ rfl
      simp [herr] at hresolve
  | reset => exact absurd rfl hreset
  | answered hpending hview => rw [hview]
  | led => rw [view_redirect]
  | deleted => rw [view_redirect]
  | _ => rfl

/-- Actions that do not search the list have no query. -/
theorem queries_eq_nil {m : Moment η} (h : ∀ a ∈ m.emitted, a.search? = none) :
    m.queries = [] := by
  rw [Moment.queries, Moment.listWork, Turn.listWork, List.filterMap_filterMap,
    List.filterMap_eq_nil_iff]
  intro a ha
  have hnone := h a ha
  cases a with
  | store ticket request =>
      cases request with
      | search query => simp [Action.search?] at hnone
      | _ => rfl
  | _ => rfl

/-- What a moment does to the filter. -/
structure FilterStep (m : Moment η) : Prop where
  /-- The filter is raised by a route with the flag, and stays until a reset. -/
  filtered : m.after.filtered = true ↔
    m.Filters ∨ m.view.filtered = true ∧ m.event ≠ .sessionReset
  /-- Every search shows the filters if the session does from then on. -/
  queries : ∀ query ∈ m.queries, query.filter = m.after.filtered
  /-- The filter changes only together with a search. -/
  silent : m.queries = [] → m.after.filtered = m.view.filtered
  /-- The filter is raised only where a route is current. -/
  current : m.after.filtered = true → m.after.current.isSome = true

/-- A moment without a route and without a search leaves the filter as it is. -/
theorem FilterStep.of_quiet {m : Moment η} (hroute : m.route? = none)
    (hreset : m.event ≠ .sessionReset) (hqueries : m.queries = [])
    (hfiltered : m.after.filtered = m.view.filtered) (hsame : m.after.current = m.view.current)
    (hcurrent : m.view.filtered = true → m.view.current.isSome = true) : FilterStep m where
  filtered := by simp [Moment.Filters, hroute, hreset, hfiltered]
  queries := by simp [hqueries]
  silent _ := hfiltered
  current h := by rw [hsame]; exact hcurrent (hfiltered ▸ h)

/-- A route that resolves raises the filter if it has the flag. -/
theorem Sound.filterStep_route (hv : v.Sound) {path : String} {h : Handler} {args : RouteArgs}
    (hresolve : v.table.resolve path = .ok (h, args)) (now : Int) :
    FilterStep ⟨v, now, .routeChanged path⟩ := by
  have ha : h.Admits args := admits_of_resolve hv.colon hv.table hresolve
  obtain ⟨hwork, hfiltered⟩ := hv.listWork_step_routeChanged hresolve now
  obtain ⟨actions, w, hstep, hspec⟩ := hv.step_routeChanged hresolve now
  have hroute := Moment.route?_of_resolve now hresolve
  have hafter : (Moment.after ⟨v, now, .routeChanged path⟩).filtered =
      (decide (h = .loadFilter) || v.filtered) := hfiltered
  have hqueries : Moment.queries ⟨v, now, .routeChanged path⟩ =
      (v.workFor args h).filterMap ListWork.query? := congrArg (List.filterMap _) hwork
  have hfilters : Moment.Filters ⟨v, now, .routeChanged path⟩ ↔ h = .loadFilter := by
    simp [Moment.Filters, hroute]
  have hmem : ∀ {query}, query ∈ (v.workFor args h).filterMap ListWork.query? →
      ListWork.search query ∈ v.workFor args h := by
    intro query hquery
    obtain ⟨work, hwork, hsome⟩ := List.mem_filterMap.1 hquery
    cases work with
    | search other =>
        obtain rfl := Option.some.inj hsome
        exact hwork
    | _ => simp [ListWork.query?] at hsome
  refine ⟨?_, fun query hquery => ?_, fun hnone => ?_, fun _ => ?_⟩
  · rw [hafter, hfilters]
    simp
  · rw [hafter]
    exact filter_of_mem_workFor ha (hmem (hqueries ▸ hquery))
  · rw [hafter]
    cases hraised : v.filtered with
    | true => exact Bool.or_true _
    | false =>
        rw [Bool.or_false, decide_eq_false_iff_not]
        rintro rfl
        obtain ⟨query, hquery⟩ := exists_query_of_filtered hraised args
        rw [hqueries, List.filterMap_eq_nil_iff] at hnone
        exact absurd (hnone _ hquery) (by simp [ListWork.query?])
  · have hcurrent : (Moment.after ⟨v, now, .routeChanged path⟩).current =
        some ⟨path, h, args⟩ := by
      rw [Moment.after, Moment.turn, hstep]
      exact hspec.current
    rw [hcurrent]
    rfl

/-- A reset lowers the filter, and searches the list again if the filter was raised. -/
theorem filterStep_reset (hcurrent : v.filtered = true → v.current.isSome = true) (now : Int) :
    FilterStep ⟨v, now, .sessionReset⟩ := by
  have hfiltered : (Moment.after ⟨v, now, .sessionReset⟩).filtered = false := by
    change v.onSessionReset.view.filtered = false
    rw [onSessionReset_eq]
    split <;> rfl
  have hwork : Moment.listWork ⟨v, now, .sessionReset⟩ = if v.searchesOnReset then
      [.search ({ v with filtered := false }.query (v.currentArgs.lower .filter))] else [] := by
    change v.onSessionReset.listWork = _
    rw [onSessionReset_eq]
    split <;> rfl
  refine ⟨?_, fun query hquery => ?_, fun hnone => ?_, fun hraised => ?_⟩
  · simp [hfiltered, Moment.Filters, Moment.route?]
  · rw [Moment.queries, hwork] at hquery
    split at hquery
    · obtain rfl : query = _ := by simpa [ListWork.query?] using hquery
      rw [hfiltered]
      refine filter_query _ ?_
      rw [RouteArgs.hasFlag, SortedMap.contains, RouteArgs.lower, RouteArgs.without,
        SortedMap.get?_erase, if_pos rfl]
      rfl
    · exact absurd hquery List.not_mem_nil
  · rw [hfiltered, eq_comm, ← Bool.not_eq_true]
    intro hraised
    rw [Moment.queries, hwork, searchesOnReset, hraised, hcurrent hraised] at hnone
    simp [ListWork.query?] at hnone
  · simp [hfiltered] at hraised

/-- What a moment does to the filter, and its searches. -/
theorem Sound.filter_step {m : Moment η} (hv : m.view.Sound)
    (hcurrent : m.view.filtered = true → m.view.current.isSome = true) : FilterStep m := by
  obtain ⟨v, now, e⟩ := m
  have hdoes := hv.does now e
  generalize hstep : View.step now v e = t at hdoes
  have hafter : Moment.after ⟨v, now, e⟩ = t.view := congrArg Turn.view hstep
  have hemitted : Moment.emitted ⟨v, now, e⟩ = t.emitted := congrArg Turn.emitted hstep
  cases hdoes with
  | quiet hroute hreset howned hturn =>
      have hnone : Moment.route? ⟨v, now, e⟩ = none := by
        cases e with
        | routeChanged path => exact absurd rfl (hroute path)
        | _ => rfl
      refine .of_quiet hnone hreset (queries_eq_nil fun a ha => ?_)
        (filtered_step now (fun path he => absurd he (hroute path)) hreset) ?_ hcurrent
      · exact (hturn.emitted a (hemitted ▸ ha)).1.2.1
      · rw [hafter]
        exact hturn.view.current
  | @unresolved path err hresolve =>
      refine .of_quiet (Moment.route?_of_error now hresolve) (by simp)
        (queries_eq_nil fun a ha => ?_) ?_ ?_ hcurrent
      · simp [hemitted] at ha
      · rw [hafter]; rfl
      · rw [hafter]; rfl
  | route hresolve ha hspec => exact hv.filterStep_route hresolve now
  | answer howned hspec =>
      refine .of_quiet rfl (by simp) (queries_eq_nil fun a ha => ?_)
        (filtered_step now (by simp) (by simp)) ?_ hcurrent
      · rw [hemitted] at ha
        exact List.filterMap_eq_nil_iff.1 hspec.searches a ha
      · rw [hafter]
        exact hspec.current
  | reset => exact filterStep_reset hcurrent now

end Step

/-! ### Courses -/

section Course

variable [HistoryStore η] {start v : View η} {ms : List (Moment η)}

/-- What a course has made of the filter: it is raised since a route with the flag, and only where a
route is current, and the last search was made with the filter as it is. -/
structure FilterState (ms : List (Moment η)) (v : View η) : Prop where
  filtered : v.filtered = true ↔ Filtered ms
  current : v.filtered = true → v.current.isSome = true
  last : ∀ query, lastQuery ms = some query → query.filter = v.filtered

/-- A moment keeps the filter in line with the course. -/
theorem FilterState.step {m : Moment η} (h : FilterState ms m.view) (hstep : FilterStep m) :
    FilterState (ms ++ [m]) m.after where
  filtered := by rw [hstep.filtered, Filtered, since_append_singleton, h.filtered, Filtered]
  current := hstep.current
  last query hlast := by
    rw [lastQuery, List.flatMap_append, List.flatMap_singleton, List.getLast?_append] at hlast
    cases hqueries : m.queries.getLast? with
    | some latest =>
        obtain rfl : latest = query := by simpa [hqueries] using hlast
        exact hstep.queries latest (List.mem_of_getLast? hqueries)
    | none =>
        rw [hqueries, Option.none_or] at hlast
        rw [h.last query hlast, hstep.silent (List.getLast?_eq_none_iff.1 hqueries)]

/-- The filters of the list are those of the course, if there were none at its start. -/
theorem Course.filterState (h : Course start ms v) (hsound : start.Sound)
    (hstart : start.filtered = false) : FilterState ms v := by
  induction h with
  | start =>
      refine ⟨?_, ?_, ?_⟩
      · simp [hstart, Filtered, not_since_nil]
      · simp [hstart]
      · simp [lastQuery]
  | @step ms v h now e ih =>
      have hstep : FilterStep ⟨v, now, e⟩ := Sound.filter_step (h.sound hsound) ih.current
      exact ih.step hstep

/-- On a page without a colon in its name a search shows the filters exactly if a route with the
filter flag has been handled, at that moment or before, since when the view has not been entered
anew. After every course the last search is one that shows the filters exactly if the session
does. -/
theorem Course.filter_iff {page : String} {delay : Nat} {history : η}
    (hpage : ':' ∉ page.toList) (hstart : View.initial page delay history = .ok start)
    (h : Course start ms v) :
    (∀ before m after, ms = before ++ m :: after →
      ∀ ticket query, .store ticket (.search query) ∈ m.emitted →
        (query.filter = true ↔ Filtered (before ++ [m]))) ∧
      ∀ query, lastQuery ms = some query → query.filter = v.filtered := by
  have hsound : start.Sound := .initial hpage hstart
  have hlowered : start.filtered = false := by
    obtain ⟨table, -, rfl⟩ := initial_eq_ok_iff.1 hstart
    rfl
  refine ⟨fun before m after hms ticket query hsearch => ?_,
    (h.filterState hsound hlowered).last⟩
  obtain ⟨hbefore, -⟩ := h.split hms
  have hstate := hbefore.filterState hsound hlowered
  have hstep := (hbefore.sound hsound).filter_step hstate.current
  have hquery : query ∈ m.queries :=
    List.mem_filterMap.2 ⟨.search query, List.mem_filterMap.2 ⟨_, hsearch, rfl⟩, rfl⟩
  rw [hstep.queries query hquery]
  exact (hstate.step hstep).filtered

/-- The route of the name `a` is searched for with filters, since a route had the flag. A reset ends
that, and the name `b` is searched for without. -/
theorem filter_configs_reset : ∃ (start v : View History) (before : List (Moment History))
    (m : Moment History) (after : List (Moment History)),
    View.initial "configs" 500 (History.inMemory 10) = .ok start ∧
    Course start (before ++ m :: after) v ∧
    (∃ ticket query, .store ticket (.search query) ∈ m.emitted ∧ query.name = some "a" ∧
      query.filter = true ∧ Filtered (before ++ [m])) ∧
    ∃ query, lastQuery (before ++ m :: after) = some query ∧ query.name = some "b" ∧
      query.filter = v.filtered ∧ v.filtered = false := by
  obtain ⟨start, hstart⟩ : ∃ start, View.initial "configs" 500 (History.inMemory 10) = .ok start :=
    ⟨_, rfl⟩
  have hcourse := Course.step (.step (.step (.step (.start : Course start [] start) 0
    (.routeChanged "configs/filter:")) 0 (.routeChanged "configs/name:a")) 0 .sessionReset) 0
    (.routeChanged "configs/name:b")
  obtain ⟨hiff, hlast⟩ := hcourse.filter_iff (by decide) hstart
  refine ⟨start, _, [_], _, [_, _], hstart, hcourse, ?_, ?_⟩
  · refine ⟨⟨2⟩, ⟨"configs", some "a", none, true, listColumns⟩, ?_, rfl, rfl,
      (hiff [_] _ [_, _] rfl ⟨2⟩ ⟨"configs", some "a", none, true, listColumns⟩ ?_).1 rfl⟩
    all_goals
      obtain rfl := Except.ok.inj hstart
      decide +kernel
  · refine ⟨⟨"configs", some "b", none, false, listColumns⟩, ?_, rfl, hlast _ ?_, ?_⟩
    all_goals
      obtain rfl := Except.ok.inj hstart
      decide +kernel

end Course

end View

end ConfigBrowser
