import ConfigBrowser.Proofs.View.Signals

/-!
# What Is Selected

A route selects the entity whose id it carries, or none. The toolbar, the detail pane and the
requests to the store go with that: the toolbar is active while an entity is selected, what the pane
waits for is the entity selected, and a route that selects none only searches the list.

The toolbar is known to the host by actions alone. Only entering a route switches it, and only to
another state, so that the actions tell the state and never the same one twice.

## Main results

* `View.Sound.switches_step`: the toolbar is switched exactly where its state changes.
* `View.Sound.searches_of_unselected`: a route without an id only searches the list.
* `View.Course.selection`: what a course of events has selected.
-/

namespace ConfigBrowser

variable {η : Type}

/-- Where a route resolves, its path was reported. -/
theorem Moment.exists_path {m : Moment η} {route : Handler × RouteArgs}
    (h : m.route? = some route) :
    ∃ path, m.event = .routeChanged path ∧ m.view.table.resolve path = .ok route := by
  obtain ⟨v, now, e⟩ := m
  cases e with
  | routeChanged path =>
      refine ⟨path, rfl, ?_⟩
      cases hresolve : v.table.resolve path with
      | error err => cases (route?_of_error now hresolve).symm.trans h
      | ok other => rw [Option.some.inj ((route?_of_resolve now hresolve).symm.trans h)]
  | _ => cases h

/-- The states that the toolbar is switched to at the moment. -/
def Moment.switches [HistoryStore η] (m : Moment η) : List ToolbarMode :=
  m.emitted.filterMap Action.toolbar?

/-- The states that the toolbar is switched to in a course of events. -/
def switches [HistoryStore η] (ms : List (Moment η)) : List ToolbarMode :=
  ms.flatMap Moment.switches

/-- The switches of the last moment come behind those of the others. -/
theorem switches_append_singleton [HistoryStore η] (ms : List (Moment η)) (m : Moment η) :
    switches (ms ++ [m]) = switches ms ++ m.switches := by
  rw [switches, List.flatMap_append, List.flatMap_singleton, switches]

namespace View

/-! ### The toolbar -/

/-- What signals nothing does not switch the toolbar. -/
theorem filterMap_toolbar?_of_no_signal {actions : List Action}
    (h : ∀ a ∈ actions, a.isSignal = false) : actions.filterMap Action.toolbar? = [] :=
  List.filterMap_eq_nil_iff.2 fun a ha => Action.toolbar?_of_isSignal_eq_false (h a ha)

/-- Entering a route switches the toolbar, if its state is another one. -/
theorem filterMap_toolbar?_enterActions (v : View η) (args : RouteArgs) :
    (v.enterActions args).filterMap Action.toolbar? =
      if v.toolbar = some (toolbarOf args) then [] else [toolbarOf args] := by
  have habandon : (if v.pendingDiffers args then v.abandonActions else []).filterMap
      Action.toolbar? = [] := by
    split
    · exact filterMap_toolbar?_of_no_signal v.isSignal_abandonActions
    · rfl
  rw [enterActions, List.filterMap_append, habandon, List.append_nil, toolbarActions]
  split <;> rfl

section Toolbar

variable [HistoryStore η] {v : View η}

/-- A route that resolves switches the toolbar, if its state is another one. -/
theorem Sound.switches_routeChanged (hv : v.Sound) {path : String} {h : Handler}
    {args : RouteArgs} (hresolve : v.table.resolve path = .ok (h, args)) (now : Int) :
    Moment.switches ⟨v, now, .routeChanged path⟩ =
      if v.toolbar = some (toolbarOf args) then [] else [toolbarOf args] := by
  have ha : h.Admits args := admits_of_resolve hv.colon hv.table hresolve
  obtain ⟨actions, w, hhandle, -⟩ := (hv.of_entered ha path).exists_handles ha
  have hnone := (v.entered path h args).noSignal_handle args h
  have hstep : v.step now (.routeChanged path) = .done (v.enterActions args ++ actions) w := by
    rw [View.step, onRouteChanged, hresolve]
    simp only [enterRoute_eq]
    exact Turn.done_andThen hhandle
  have hsilent : actions.filterMap Action.toolbar? = [] := by
    rw [hhandle] at hnone
    exact filterMap_toolbar?_of_no_signal hnone.emitted
  rw [Moment.switches, Moment.emitted, Moment.turn, hstep, Turn.emitted_done,
    List.filterMap_append, filterMap_toolbar?_enterActions, hsilent, List.append_nil]

/-- The toolbar is switched exactly where its state changes. -/
theorem Sound.switches_step {m : Moment η} (hv : m.view.Sound) :
    m.switches = if m.view.toolbar = m.after.toolbar then [] else m.after.toolbar.toList := by
  obtain ⟨v, now, e⟩ := m
  have hunswitched : (∀ a ∈ Moment.emitted ⟨v, now, e⟩, a.toolbar? = none) →
      (Moment.after ⟨v, now, e⟩).toolbar = v.toolbar →
      Moment.switches ⟨v, now, e⟩ = if v.toolbar = (Moment.after ⟨v, now, e⟩).toolbar then []
        else (Moment.after ⟨v, now, e⟩).toolbar.toList := by
    intro hsilent hsame
    rw [if_pos hsame.symm]
    exact List.filterMap_eq_nil_iff.2 hsilent
  rcases v.current_step now e with ⟨hnone, -, hsame⟩ | ⟨_, h, args, hsome, -, htoolbar⟩
  · refine hunswitched (fun a ha => ?_) hsame
    cases e with
    | routeChanged path =>
        obtain ⟨err, herr⟩ : ∃ err, v.table.resolve path = .error err := by
          cases hresolve : v.table.resolve path with
          | error err => exact ⟨err, rfl⟩
          | ok route => cases (Moment.route?_of_resolve now hresolve).symm.trans hnone
        rw [Moment.emitted, Moment.turn, step_routeChanged_of_error herr] at ha
        exact absurd ha List.not_mem_nil
    | _ => exact toolbar?_of_mem_step (by simp) ha
  · obtain ⟨path, rfl, hresolve⟩ := Moment.exists_path hsome
    have hafter : (Moment.after ⟨v, now, .routeChanged path⟩).toolbar = some (toolbarOf args) :=
      htoolbar
    rw [hv.switches_routeChanged hresolve now, hafter]
    rfl

end Toolbar

/-! ### Routes that select nothing -/

section Unselected

variable [HistoryStore η] {v : View η}

/-- A route without an id only searches the list. -/
theorem Sound.searches_of_unselected (hv : v.Sound) {path : String} {h : Handler}
    {args : RouteArgs} (hresolve : v.table.resolve path = .ok (h, args)) (hid : args.id? = none)
    (now : Int) {ticket : Ticket} {request : StoreRequest}
    (hmem : .store ticket request ∈ (v.step now (.routeChanged path)).emitted) :
    ∃ query, request = .search query := by
  obtain ⟨actions, w, hstep, hspec⟩ := hv.step_routeChanged hresolve now
  obtain ⟨paths, hasks, -⟩ := hspec.asks
  have hgets : actions.filterMap Action.get? = [] := by
    rw [hasks.gets, getsFor.eq_def]
    split
    · rw [hid]
      rfl
    · rfl
  have hasked := hmem
  rw [hstep, Turn.emitted_done] at hmem
  have hreads : request.reads = true := by
    by_contra hwrites
    obtain ⟨p, fields, -, hevent, -⟩ := confirms_of_write hasked (by simpa using hwrites)
    cases hevent
  cases request with
  | search query => exact ⟨query, rfl⟩
  | get id => simpa [Action.get?] using List.filterMap_eq_nil_iff.1 hgets _ hmem
  | _ => cases hreads

end Unselected

/-! ### Courses -/

/-- What a course of events has selected: how the toolbar, the entity that is waited for and the
requests of the last route go with the current route. -/
structure Selection [HistoryStore η] (ms : List (Moment η)) (v : View η) : Prop where
  /-- The toolbar has no state until a route has resolved. -/
  unset_iff : v.toolbar = none ↔ ∀ m ∈ ms, m.route? = none
  /-- It is active while the current route carries an id. -/
  active_iff : v.toolbar = some .selectionActive ↔
    ∃ route, v.current = some route ∧ route.args.id?.isSome = true
  /-- Its state is the one that it was switched to last. -/
  last : v.toolbar = (switches ms).getLast?
  /-- It is never switched to the state it is in. -/
  alternates : (switches ms).IsChain (· ≠ ·)
  /-- What is waited for is the entity of the current route. -/
  awaited : ∀ p, v.pending = some p → ∃ id, p.args.id? = some id ∧ v.currentArgs.id? = some id
  /-- A current route without an id waits for nothing, and only searched when it became current. -/
  unselected : ∀ route, v.current = some route → route.args.id? = none → v.pending = none ∧
    ∃ before m after, ms = before ++ m :: after ∧ m.event = .routeChanged route.path ∧
      m.route? = some (route.handler, route.args) ∧ m.after.current = some route ∧
      (∀ n ∈ after, n.route? = none) ∧
      ∀ ticket request, .store ticket request ∈ m.emitted → ∃ query, request = .search query

section Course

variable [HistoryStore η] {start v : View η} {ms : List (Moment η)}

/-- The current route goes back to the last moment at which a route resolved. -/
theorem Course.exists_current (h : Course start ms v) (hsound : start.Sound)
    (hstart : start.current = none) {route : CurrentRoute} (hroute : v.current = some route) :
    ∃ before m after, ms = before ++ m :: after ∧ m.event = .routeChanged route.path ∧
      m.view.table.resolve route.path = .ok (route.handler, route.args) ∧
      m.after.current = some route ∧ ∀ n ∈ after, n.route? = none := by
  induction h with
  | start => cases hstart.symm.trans hroute
  | @step ms v h now e ih =>
      rcases v.current_step now e with ⟨hnone, hsame, -⟩ | ⟨_, handler, args, hsome, -, -⟩
      · obtain ⟨before, m, after, rfl, hevent, hresolve, hafter, hsince⟩ := ih (hsame ▸ hroute)
        refine ⟨before, m, after ++ [⟨v, now, e⟩], by simp, hevent, hresolve, hafter, ?_⟩
        intro n hn
        rcases List.mem_append.1 hn with hn | hn
        · exact hsince n hn
        · rw [List.mem_singleton.1 hn]
          exact hnone
      · obtain ⟨path, rfl, hresolve⟩ := Moment.exists_path hsome
        obtain ⟨actions, w, hstep, hspec⟩ := (h.sound hsound).step_routeChanged hresolve now
        have hcurrent : (v.step now (.routeChanged path)).view.current =
            some ⟨path, handler, args⟩ := by
          rw [hstep]
          exact hspec.current
        obtain rfl := Option.some.inj (hcurrent.symm.trans hroute)
        exact ⟨ms, _, [], rfl, rfl, hresolve, hroute, by simp⟩

/-- No route is current until one has resolved. -/
theorem Course.current_eq_none_iff (h : Course start ms v) (hstart : start.current = none) :
    v.current = none ↔ ∀ m ∈ ms, m.route? = none := by
  induction h with
  | start => simp [hstart]
  | @step ms v h now e ih =>
      simp only [List.mem_append, List.mem_singleton, or_imp, forall_and, forall_eq, ← ih]
      rcases v.current_step now e with ⟨hnone, hsame, -⟩ | ⟨path, _, _, hsome, hcurrent, -⟩
      · simp [hnone, hsame]
      · simp [hsome, hcurrent]

/-- The states that the toolbar was switched to end with the one it is in, and no two of them in a
row are the same. -/
theorem Course.switches_spec (h : Course start ms v) (hsound : start.Sound)
    (hstart : start.toolbar = none) :
    v.toolbar = (switches ms).getLast? ∧ (switches ms).IsChain (· ≠ ·) := by
  induction h with
  | start => exact ⟨hstart, .nil⟩
  | @step ms v h now e ih =>
      obtain ⟨hlast, hchain⟩ := ih
      have hswitch : Moment.switches ⟨v, now, e⟩ =
          if v.toolbar = (v.step now e).view.toolbar then []
          else (v.step now e).view.toolbar.toList := (h.sound hsound).switches_step
      rw [switches_append_singleton, hswitch]
      split
      · next hsame =>
        rw [List.append_nil, ← hsame]
        exact ⟨hlast, hchain⟩
      · next hchanged =>
        obtain ⟨mode, hmode⟩ : ∃ mode, (v.step now e).view.toolbar = some mode := by
          rcases v.current_step now e with ⟨-, -, hsame⟩ | ⟨_, _, args, -, -, htoolbar⟩
          · exact absurd hsame.symm hchanged
          · exact ⟨_, htoolbar⟩
        rw [hmode, Option.toList_some]
        refine ⟨by simp, hchain.append (.singleton mode) ?_⟩
        rintro x hx _ ⟨⟩ rfl
        exact hchanged (hlast.trans (hx.trans hmode.symm))

/-- On a page without a colon in its name the toolbar, the detail pane and the requests go with what
the current route selects, along every course. -/
theorem Course.selection {page : String} {delay : Nat} {history : η} (hpage : ':' ∉ page.toList)
    (hstart : View.initial page delay history = .ok start) (h : Course start ms v) :
    Selection ms v := by
  have hsound : start.Sound := .initial hpage hstart
  obtain ⟨table, -, rfl⟩ := initial_eq_ok_iff.1 hstart
  have htoolbar := h.toolbar_eq rfl
  obtain ⟨hlast, hchain⟩ := h.switches_spec hsound rfl
  have hawaited : ∀ p, v.pending = some p →
      ∃ id, p.args.id? = some id ∧ v.currentArgs.id? = some id :=
    fun p hp => h.pending_selected rfl hp
  refine ⟨?_, ?_, hlast, hchain, hawaited, fun route hroute hid => ⟨?_, ?_⟩⟩
  · rw [htoolbar, Option.map_eq_none_iff]
    exact h.current_eq_none_iff rfl
  · rw [htoolbar, Option.map_eq_some_iff]
    refine exists_congr fun route => and_congr_right fun _ => ?_
    cases hid : route.args.id? <;> simp [toolbarOf, hid]
  · refine Option.eq_none_iff_forall_ne_some.2 fun p hp => ?_
    obtain ⟨id, -, hselected⟩ := hawaited p hp
    rw [currentArgs, hroute] at hselected
    cases hid.symm.trans hselected
  · obtain ⟨before, m, after, rfl, hevent, hresolve, hcurrent, hsince⟩ :=
      h.exists_current hsound rfl hroute
    refine ⟨before, m, after, rfl, hevent, ?_, hcurrent, hsince, fun ticket request hmem => ?_⟩
    · obtain ⟨w, now, e⟩ := m
      obtain rfl : e = .routeChanged route.path := hevent
      exact Moment.route?_of_resolve now hresolve
    · have hview := h.sound_of_mem hsound (m := m) (by simp)
      rw [Moment.emitted, Moment.turn, hevent] at hmem
      exact hview.searches_of_unselected hresolve hid _ hmem

/-- The route of the entity `1` makes the toolbar active. It stays so on the route of `2`, which is
waited for, until the route of the list selects none. -/
theorem selection_configs_list : ∃ (start u v : View History) (ms : List (Moment History))
    (m : Moment History),
    View.initial "configs" 500 (History.inMemory 10) = .ok start ∧ Course start ms u ∧
    Selection ms u ∧ switches ms = [.selectionActive] ∧ u.pending.isSome = true ∧
    Course start (ms ++ [m]) v ∧ Selection (ms ++ [m]) v ∧
    switches (ms ++ [m]) = [.selectionActive, .noSelection] ∧ v.pending = none := by
  obtain ⟨start, hstart⟩ : ∃ start, View.initial "configs" 500 (History.inMemory 10) = .ok start :=
    ⟨_, rfl⟩
  have hcourse := Course.step (.step (.start : Course start [] start) 0
    (.routeChanged "configs/1")) 0 (.routeChanged "configs/2")
  have hlonger := hcourse.step 0 (.routeChanged "configs")
  refine ⟨start, _, _, _, _, hstart, hcourse, hcourse.selection (by decide) hstart, ?_, ?_,
    hlonger, hlonger.selection (by decide) hstart, ?_, ?_⟩
  all_goals
    obtain rfl := Except.ok.inj hstart
    decide +kernel

end Course

end View

end ConfigBrowser
