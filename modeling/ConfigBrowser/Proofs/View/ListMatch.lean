import ConfigBrowser.Proofs.View.Course

/-!
# The List and the Route

The name and the type of the last search, compared with those of the current route. A navigation is
not searched for when it continues on the page of the navigation before, and the memory of that is
what keeps the list in step with the route. The route of an acknowledged deletion searches without
being remembered. So the route that follows it may be taken for a continuation of the page before
it, and then the list and the route differ until the next search. That is the only way in which they
come to differ.

Every course is in one of four phases, and each moment leads from phase to phase.

## Main results

* `View.Phase.step`: what a moment makes of the phase of a course.
* `View.Course.search_eq_iff`: when the last search is that of the current route.
-/

namespace ConfigBrowser

/-- What a route searches the list for: the name and the type. -/
def RouteArgs.listKey (args : RouteArgs) : Option String × Option String := (args.name?, args.type?)

/-- Arguments of one page search the list for the same. -/
theorem RouteArgs.listKey_eq_of_identity_eq {args args' : RouteArgs}
    (h : args.identity = args'.identity) : args.listKey = args'.listKey := by
  have hget : ∀ key, key ≠ RouteArgs.idKey → Flag.isTransient key = false →
      args.get? key = args'.get? key := by
    intro key hid hflag
    have hkept := congrArg (SortedMap.get? · key) h
    simpa [RouteArgs.identity, SortedMap.get?_filterKeys, hid, hflag] using hkept
  rw [listKey, listKey, name?, name?, type?, type?, hget nameKey (by decide) (by decide),
    hget typeKey (by decide) (by decide)]

/-- A flag has no part in what the list is searched for. -/
theorem RouteArgs.listKey_lower (args : RouteArgs) (flag : Flag) :
    (args.lower flag).listKey = args.listKey := by
  rw [listKey, listKey, args.name?_lower, args.type?_lower]

/-- With the name alone the list is searched for any type. -/
theorem RouteArgs.listKey_only_name (args : RouteArgs) :
    (args.only [nameKey]).listKey = (args.name?, none) := by
  rw [listKey, name?, type?, get?_only, get?_only]
  rfl

variable {η : Type} [HistoryStore η]

/-- The searches of the list that are made at a moment: the name and the type of each. -/
def Moment.searches (m : Moment η) : List (Option String × Option String) :=
  m.emitted.filterMap Action.search?

/-- The name and the type of the last search of a course. -/
def lastSearch (ms : List (Moment η)) : Option (Option String × Option String) :=
  (ms.flatMap Moment.searches).getLast?

omit [HistoryStore η] in
/-- The last route of a course that resolved. -/
def lastRoute (ms : List (Moment η)) : Option (Handler × RouteArgs) :=
  (ms.filterMap Moment.route?).getLast?

/-- A deletion was overlooked: the route right after that of an acknowledged deletion has another
name or type, and the list has not been searched at that route nor since. -/
def Overlooked (ms : List (Moment η)) : Prop :=
  ∃ before m after h deleted args, ms = before ++ m :: after ∧
    lastRoute before = some (.loadDelete, deleted) ∧ m.route? = some (h, args) ∧
    args.listKey ≠ deleted.listKey ∧ ∀ n ∈ m :: after, n.searches = []

section Append

variable (ms : List (Moment η)) {m : Moment η}

/-- A moment without a search leaves the last one. -/
theorem lastSearch_append_of_nil (h : m.searches = []) :
    lastSearch (ms ++ [m]) = lastSearch ms := by
  simp [lastSearch, h]

/-- The search of a moment is the last one. -/
theorem lastSearch_append_of_eq {key : Option String × Option String} (h : m.searches = [key]) :
    lastSearch (ms ++ [m]) = some key := by
  simp [lastSearch, h]

omit [HistoryStore η] in
/-- A moment without a route leaves the last one. -/
theorem lastRoute_append_of_none (h : m.route? = none) : lastRoute (ms ++ [m]) = lastRoute ms := by
  simp [lastRoute, h]

omit [HistoryStore η] in
/-- The route of a moment is the last one. -/
theorem lastRoute_append_of_some {route : Handler × RouteArgs} (h : m.route? = some route) :
    lastRoute (ms ++ [m]) = some route := by
  simp [lastRoute, h]

/-- A moment at which the list is searched leaves nothing overlooked. -/
theorem not_overlooked_append {key : Option String × Option String} (h : m.searches = [key]) :
    ¬ Overlooked (ms ++ [m]) := by
  rintro ⟨before, n, after, -, -, -, hsplit, -, -, -, hnone⟩
  have hm : m ∈ n :: after := by
    rcases eq_or_exists_of_append_singleton hsplit with ⟨-, rfl, -⟩ | ⟨middle, rfl, -⟩
    · exact List.mem_cons_self
    · simp
  simp [hnone m hm] at h

/-- When a deletion is overlooked after another moment: the moment is the route that overlooks it,
or it was overlooked before. -/
theorem overlooked_append_iff (h : m.searches = []) :
    Overlooked (ms ++ [m]) ↔ Overlooked ms ∨ ∃ handler deleted args,
      lastRoute ms = some (.loadDelete, deleted) ∧ m.route? = some (handler, args) ∧
        args.listKey ≠ deleted.listKey := by
  constructor
  · rintro ⟨before, n, after, handler, deleted, args, hsplit, hlast, hroute, hne, hnone⟩
    rcases eq_or_exists_of_append_singleton hsplit with ⟨rfl, rfl, -⟩ | ⟨middle, rfl, rfl⟩
    · exact .inr ⟨handler, deleted, args, hlast, hroute, hne⟩
    · refine .inl ⟨before, n, middle, handler, deleted, args, rfl, hlast, hroute, hne, ?_⟩
      exact fun k hk => hnone k (List.mem_append_left [m] hk)
  · rintro (⟨before, n, after, handler, deleted, args, rfl, hlast, hroute, hne, hnone⟩ |
      ⟨handler, deleted, args, hlast, hroute, hne⟩)
    · refine ⟨before, n, after ++ [m], handler, deleted, args, by simp, hlast, hroute, hne, ?_⟩
      intro k hk
      rw [← List.cons_append] at hk
      rcases List.mem_append.1 hk with hk | hk
      · exact hnone k hk
      · obtain rfl := List.mem_singleton.1 hk
        exact h
    · exact ⟨ms, m, [], handler, deleted, args, rfl, hlast, hroute, hne, by simpa using h⟩

end Append

namespace View

omit [HistoryStore η] in
/-- A navigation that shows the list searches it, or it continues on the page that is remembered. -/
theorem listSearch_cases (v : View η) (args : RouteArgs) :
    v.listSearch args = [args.listKey] ∨ v.listSearch args = [] ∧
      ∃ previous, v.reconciler.previous = some previous ∧ previous.listKey = args.listKey := by
  rw [listSearch]
  cases hc : v.reconciler.classify args with
  | newPage => exact .inl rfl
  | continuation =>
      refine .inr ⟨rfl, ?_⟩
      rw [Reconciler.classify] at hc
      split at hc
      · next previous hprevious =>
        split at hc
        · next hidentity =>
          exact ⟨previous, hprevious, RouteArgs.listKey_eq_of_identity_eq hidentity⟩
        · simp at hc
      · simp at hc

omit [HistoryStore η] in
/-- Every route searches the list, or it continues on the page that is remembered. -/
theorem searchesFor_cases (v : View η) (args : RouteArgs) (h : Handler) :
    v.searchesFor args h = [args.listKey] ∨ v.searchesFor args h = [] ∧ h ≠ .loadDelete ∧
      ∃ previous, v.reconciler.previous = some previous ∧ previous.listKey = args.listKey := by
  have hlist : h ≠ .loadDelete → v.listSearch args = [args.listKey] ∨
      v.listSearch args = [] ∧ h ≠ .loadDelete ∧
        ∃ previous, v.reconciler.previous = some previous ∧ previous.listKey = args.listKey :=
    fun hh => (v.listSearch_cases args).imp_right fun hcontinues =>
      ⟨hcontinues.1, hh, hcontinues.2⟩
  cases h with
  | load | loadConfigs => exact hlist (by decide)
  | loadFilter =>
      rw [searchesFor]
      split
      · exact hlist (by decide)
      · exact .inl rfl
  | loadDelete | loadNewConfigs | loadEditConfigs => exact .inl rfl

/-! ### Phases -/

/-- The phase of a course that has led to a view. -/
inductive Phase (ms : List (Moment η)) (v : View η) : Prop where
  /-- No route has resolved. -/
  | idle (hcurrent : v.current = none) (hprevious : v.reconciler.previous = none)
      (hlast : lastRoute ms = none) (hoverlooked : ¬ Overlooked ms)
  /-- The list is that of the current route, and so is the page that is remembered. -/
  | synced (route : CurrentRoute) (previous : RouteArgs) (hcurrent : v.current = some route)
      (hprevious : v.reconciler.previous = some previous)
      (hpage : previous.listKey = route.args.listKey)
      (hlast : ∀ args, lastRoute ms ≠ some (.loadDelete, args))
      (hsearch : lastSearch ms = some route.args.listKey) (hoverlooked : ¬ Overlooked ms)
  /-- The current route is that of an acknowledged deletion, which is not remembered. -/
  | acknowledged (route : CurrentRoute) (hcurrent : v.current = some route)
      (hlast : lastRoute ms = some (.loadDelete, route.args))
      (hsearch : lastSearch ms = some route.args.listKey) (hoverlooked : ¬ Overlooked ms)
  /-- The list is that of an acknowledged deletion, while the current route continues on the page
  before it. -/
  | behind (route : CurrentRoute) (previous : RouteArgs) (key : Option String × Option String)
      (hcurrent : v.current = some route) (hprevious : v.reconciler.previous = some previous)
      (hpage : previous.listKey = route.args.listKey)
      (hlast : ∀ args, lastRoute ms ≠ some (.loadDelete, args))
      (hsearch : lastSearch ms = some key) (hne : key ≠ route.args.listKey)
      (hoverlooked : Overlooked ms)

namespace Phase

variable {ms : List (Moment η)} {m : Moment η} {v w : View η}

/-- A moment without a route and without a search changes no phase. -/
theorem of_silent (h : Phase ms v) (hsearches : m.searches = []) (hroute : m.route? = none)
    (hreconciler : w.reconciler = v.reconciler) (hcurrent : w.current = v.current) :
    Phase (ms ++ [m]) w := by
  have hlast := lastRoute_append_of_none ms hroute
  have hsearch := lastSearch_append_of_nil ms hsearches
  have hover : Overlooked (ms ++ [m]) ↔ Overlooked ms := by
    rw [overlooked_append_iff ms hsearches]
    simp [hroute]
  cases h with
  | idle hc hp hl ho => exact .idle (hcurrent ▸ hc) (hreconciler ▸ hp) (hlast ▸ hl) (hover.not.2 ho)
  | synced route previous hc hp hpage hl hs ho =>
      exact .synced route previous (hcurrent ▸ hc) (hreconciler ▸ hp) hpage (hlast ▸ hl)
        (hsearch ▸ hs) (hover.not.2 ho)
  | acknowledged route hc hl hs ho =>
      exact .acknowledged route (hcurrent ▸ hc) (hlast ▸ hl) (hsearch ▸ hs) (hover.not.2 ho)
  | behind route previous key hc hp hpage hl hs hne ho =>
      exact .behind route previous key (hcurrent ▸ hc) (hreconciler ▸ hp) hpage (hlast ▸ hl)
        (hsearch ▸ hs) hne (hover.2 ho)

/-- A moment at which the list is searched for the current route, without another route, brings the
list in step with it. -/
theorem of_search {route : CurrentRoute} (h : Phase ms v) (hroutes : v.current = some route)
    (hsearches : m.searches = [route.args.listKey]) (hroute : m.route? = none)
    (hreconciler : w.reconciler = v.reconciler) (hcurrent : w.current = v.current) :
    Phase (ms ++ [m]) w := by
  have hlast := lastRoute_append_of_none ms hroute
  have hsearch := lastSearch_append_of_eq ms hsearches
  have hover := not_overlooked_append ms hsearches
  cases h with
  | idle hc hp hl ho => simp [hc] at hroutes
  | synced route' previous hc hp hpage hl hs ho =>
      obtain rfl : route = route' := Option.some.inj (hroutes.symm.trans hc)
      exact .synced route previous (hcurrent ▸ hc) (hreconciler ▸ hp) hpage (hlast ▸ hl) hsearch
        hover
  | acknowledged route' hc hl hs ho =>
      obtain rfl : route = route' := Option.some.inj (hroutes.symm.trans hc)
      exact .acknowledged route (hcurrent ▸ hc) (hlast ▸ hl) hsearch hover
  | behind route' previous key hc hp hpage hl hs hne ho =>
      obtain rfl : route = route' := Option.some.inj (hroutes.symm.trans hc)
      exact .synced route previous (hcurrent ▸ hc) (hreconciler ▸ hp) hpage (hlast ▸ hl) hsearch
        hover

/-- A route that is searched for brings the list in step with it, and is remembered unless it is
that of an acknowledged deletion. -/
theorem of_searched_route {route : CurrentRoute}
    (hsearches : m.searches = [route.args.listKey])
    (hroute : m.route? = some (route.handler, route.args)) (hcurrent : w.current = some route)
    (hreconciler : route.handler ≠ .loadDelete → w.reconciler.previous = some route.args) :
    Phase (ms ++ [m]) w := by
  have hlast := lastRoute_append_of_some ms hroute
  have hsearch := lastSearch_append_of_eq ms hsearches
  have hover := not_overlooked_append ms hsearches
  by_cases hh : route.handler = .loadDelete
  · exact .acknowledged route hcurrent (by rw [hlast, hh]) hsearch hover
  · refine .synced route route.args hcurrent (hreconciler hh) rfl (fun args he => ?_) hsearch hover
    rw [hlast] at he
    exact hh (Prod.mk.inj (Option.some.inj he)).1

/-- A route that is not searched for continues on the page that is remembered. Right after an
acknowledged deletion the list may then stay behind. -/
theorem of_continued_route {route : CurrentRoute} {previous : RouteArgs} (h : Phase ms v)
    (hprevious : v.reconciler.previous = some previous)
    (hpage : previous.listKey = route.args.listKey) (hsearches : m.searches = [])
    (hroute : m.route? = some (route.handler, route.args)) (hh : route.handler ≠ .loadDelete)
    (hcurrent : w.current = some route) (hreconciler : w.reconciler.previous = some route.args) :
    Phase (ms ++ [m]) w := by
  have hlast : ∀ args, lastRoute (ms ++ [m]) ≠ some (.loadDelete, args) := fun args he => by
    rw [lastRoute_append_of_some ms hroute] at he
    exact hh (Prod.mk.inj (Option.some.inj he)).1
  have hsearch := lastSearch_append_of_nil ms hsearches
  have hover := overlooked_append_iff ms hsearches
  cases h with
  | idle hc hp hl ho => simp [hp] at hprevious
  | synced route' previous' hc hp hpage' hl hs ho =>
      obtain rfl : previous = previous' := Option.some.inj (hprevious.symm.trans hp)
      refine .synced route route.args hcurrent hreconciler rfl hlast ?_ (hover.not.2 ?_)
      · rw [hsearch, hs, ← hpage', hpage]
      · rintro (ho' | ⟨-, args, -, hl', -⟩)
        · exact ho ho'
        · exact hl args hl'
  | acknowledged route' hc hl hs ho =>
      by_cases hsame : route.args.listKey = route'.args.listKey
      · refine .synced route route.args hcurrent hreconciler rfl hlast ?_ (hover.not.2 ?_)
        · rw [hsearch, hs, hsame]
        · rintro (ho' | ⟨_, deleted, args, hl', hr, hne⟩)
          · exact ho ho'
          · obtain ⟨-, rfl⟩ := Prod.mk.inj (Option.some.inj (hl.symm.trans hl'))
            obtain ⟨-, rfl⟩ := Prod.mk.inj (Option.some.inj (hroute.symm.trans hr))
            exact hne hsame
      · refine .behind route route.args _ hcurrent hreconciler rfl hlast (hsearch.trans hs)
          (Ne.symm hsame) (hover.2 (.inr ⟨_, _, _, hl, hroute, hsame⟩))
  | behind route' previous' key hc hp hpage' hl hs hne ho =>
      obtain rfl : previous = previous' := Option.some.inj (hprevious.symm.trans hp)
      refine .behind route route.args key hcurrent hreconciler rfl hlast (hsearch.trans hs) ?_
        (hover.2 (.inl ho))
      rw [← hpage, hpage']
      exact hne

end Phase

/-- What a moment makes of the phase of a course. -/
theorem Phase.step {ms : List (Moment η)} {v : View η} (h : Phase ms v) (hv : v.Sound) (now : Int)
    (e : Event) : Phase (ms ++ [⟨v, now, e⟩]) (v.step now e).view := by
  have hdoes := hv.does now e
  generalize hstep : v.step now e = t at hdoes ⊢
  have hsearches : Moment.searches ⟨v, now, e⟩ = t.emitted.filterMap Action.search? := by
    rw [Moment.searches, Moment.emitted, Moment.turn, hstep]
  cases hdoes with
  | quiet hroute hreset howned hturn =>
      refine h.of_silent ?_ ?_ hturn.view.reconciler hturn.view.current
      · rw [hsearches]
        exact List.filterMap_eq_nil_iff.2 fun a ha => (hturn.emitted a ha).1.2.1
      · cases e with
        | routeChanged path => exact absurd rfl (hroute path)
        | _ => rfl
  | unresolved hresolve =>
      exact h.of_silent hsearches (Moment.route?_of_error now hresolve) rfl rfl
  | @route path handler args actions w hresolve ha hspec =>
      have hroute := Moment.route?_of_resolve now hresolve
      obtain ⟨paths, hasks, -⟩ := hspec.asks
      rw [Turn.emitted_done, hasks.searches] at hsearches
      have hcurrent : w.current = some ⟨path, handler, args⟩ := hspec.current
      rcases (v.entered path handler args).searchesFor_cases args handler with
        hone | ⟨hnone, hh, hp⟩
      · refine Phase.of_searched_route (hsearches.trans hone) hroute hcurrent fun hh => ?_
        rw [Turn.view_done, hspec.reconciler, if_neg hh]
      · obtain ⟨previous, hprevious, hpage⟩ := hp
        refine h.of_continued_route hprevious hpage (hsearches.trans hnone) hroute hh hcurrent ?_
        rw [Turn.view_done, hspec.reconciler, if_neg hh]
  | answer howned hspec =>
      exact h.of_silent (hsearches.trans hspec.searches) rfl hspec.reconciler hspec.current
  | reset =>
      have haside := v.aside_onSessionReset
      rw [onSessionReset_eq] at hsearches
      by_cases hagain : v.searchesOnReset = true
      · rw [if_pos hagain] at hsearches
        obtain ⟨route, hroute⟩ : ∃ route, v.current = some route := by
          rw [searchesOnReset, Bool.and_eq_true] at hagain
          exact Option.isSome_iff_exists.1 hagain.2
        refine h.of_search hroute ?_ rfl haside.reconciler haside.current
        rw [hsearches, ← route.args.listKey_lower .filter]
        simp only [currentArgs, hroute]
        rfl
      · rw [if_neg hagain] at hsearches
        exact h.of_silent hsearches rfl haside.reconciler haside.current

/-- The list after a course of events: the last search is that of the current route, unless a
deletion was overlooked. -/
theorem Course.search_eq_iff {start v : View η} {ms : List (Moment η)} (h : Course start ms v)
    (hstart : start.Sound) (hcurrent : start.current = none)
    (hprevious : start.reconciler.previous = none) {route : CurrentRoute}
    (hroute : v.current = some route) :
    ∃ key, lastSearch ms = some key ∧ (key = route.args.listKey ↔ ¬ Overlooked ms) := by
  have hphase : Phase ms v := by
    clear hroute
    induction h with
    | start => exact .idle hcurrent hprevious rfl (by simp [Overlooked])
    | step hcourse now e ih => exact ih.step (hcourse.sound hstart) now e
  cases hphase with
  | idle hc => simp [hc] at hroute
  | synced route' previous hc hp hpage hl hs ho =>
      obtain rfl : route = route' := Option.some.inj (hroute.symm.trans hc)
      exact ⟨_, hs, iff_of_true rfl ho⟩
  | acknowledged route' hc hl hs ho =>
      obtain rfl : route = route' := Option.some.inj (hroute.symm.trans hc)
      exact ⟨_, hs, iff_of_true rfl ho⟩
  | behind route' previous key hc hp hpage hl hs hne ho =>
      obtain rfl : route = route' := Option.some.inj (hroute.symm.trans hc)
      exact ⟨_, hs, iff_of_false hne (not_not_intro ho)⟩

end View

end ConfigBrowser
