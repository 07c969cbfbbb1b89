import ConfigBrowser.Host.Trace
import ConfigBrowser.Proofs.Host.Settling
import ConfigBrowser.Proofs.View.Deletions
import ConfigBrowser.Proofs.View.Notices

/-!
# What a Host Shows of Its View

The message and the timers of a host tell of the wait of its view, whatever operations it has gone
through, and its location is that of the current route if it resolves at all. While events wait the
location may be ahead of the view. It is then that of the last route that waits, since every change
of location is reported.

A timer that has run out is no longer armed before the view is told. At most one is ever armed, so
no other event comes in between.

## Main results

* `Host.Mirrors.handled`: handling an event keeps the host in line with its view.
* `Host.performAll_mirrors`: message, timers and location between two operations.
-/

namespace ConfigBrowser

variable {σ η : Type}

/-- The path of an event that reports a change of location. -/
def Event.path? : Event → Option String
  | .routeChanged path => some path
  | _ => none

/-- What tells of a wait is among what surrounds the view. -/
def Surroundings.notice (s : Surroundings) : Notice := ⟨s.timers, s.message⟩

/-- What tells of a wait changes with the actions alone. -/
theorem Surroundings.notice_foldl_after (s : Surroundings) (actions : List Action) :
    (actions.foldl after s).notice = actions.foldl Notice.after s.notice := by
  induction actions generalizing s with
  | nil => rfl
  | cons a rest ih =>
      have hfirst : (s.after a).notice = s.notice.after a := by cases a <;> rfl
      rw [List.foldl_cons, ih, hfirst, List.foldl_cons]

/-- The location is that of the last action that changes it. -/
theorem Surroundings.location_foldl_after (s : Surroundings) (actions : List Action) :
    (actions.foldl after s).location =
      (actions.filterMap Action.path?).getLast?.or s.location := by
  induction actions generalizing s with
  | nil => rfl
  | cons a rest ih =>
      rw [List.foldl_cons, ih, ← List.singleton_append, List.filterMap_append,
        List.getLast?_append, Option.or_assoc]
      cases a <;> rfl

/-- Every change of location is reported. -/
theorem Traffic.paths_foldl_after [RemoteStore σ] (t : Traffic σ) (actions : List Action) :
    (actions.foldl after t).queue.filterMap Event.path? =
      t.queue.filterMap Event.path? ++ actions.filterMap Action.path? := by
  induction actions generalizing t with
  | nil => exact (List.append_nil _).symm
  | cons a rest ih =>
      have hfirst : (t.after a).queue.filterMap Event.path? =
          t.queue.filterMap Event.path? ++ [a].filterMap Action.path? := by
        cases a with
        | navigate path => exact List.filterMap_append
        | store ticket r =>
            rw [after]
            split
            · exact (List.append_nil _).symm
            · exact List.filterMap_append
        | _ => exact (List.append_nil _).symm
      rw [List.foldl_cons, ih, hfirst, List.append_assoc, ← List.filterMap_append,
        List.singleton_append]

/-! ### Where a view is -/

namespace View

/-- The current route is that of the location, if that resolves. -/
def IsAt (v : View η) (location : Option String) : Prop :=
  ∀ path h args, location = some path → v.table.resolve path = .ok (h, args) →
    v.current = some ⟨path, h, args⟩

variable [HistoryStore η] {v : View η}

/-- A route brings the view to its path. -/
theorem Sound.isAt_route (hv : v.Sound) (now : Int) (path : String) :
    (v.step now (.routeChanged path)).view.IsAt (some path) := by
  rintro _ h args ⟨⟩ hresolve
  rw [hv.table_step] at hresolve
  obtain ⟨actions, w, hstep, hspec⟩ := hv.step_routeChanged hresolve now
  rw [hstep]
  exact hspec.current

/-- Other events leave the view where it is. -/
theorem Sound.isAt_step (hv : v.Sound) (now : Int) {e : Event} (he : e.path? = none)
    {location : Option String} (h : v.IsAt location) : (v.step now e).view.IsAt location := by
  intro path handler args hlocation hresolve
  rw [hv.table_step] at hresolve
  rcases v.current_step now e with ⟨-, hcurrent, -⟩ | ⟨_, _, _, hroute, -⟩
  · rw [hcurrent]
    exact h path handler args hlocation hresolve
  · cases e with
    | routeChanged path => cases he
    | _ => cases hroute

end View

/-! ### Hosts in line with their views -/

namespace Host

/-- What a host shows of its view, while events wait. -/
structure Mirrors (h : Host σ η) : Prop where
  notice : h.surroundings.notice = h.view.notice
  timers : ∀ timer, .timerFired timer ∉ h.queue
  ahead : ∀ path, (h.queue.filterMap Event.path?).getLast? = some path → h.location = some path
  there : h.queue.filterMap Event.path? = [] → h.view.IsAt h.location

variable [RemoteStore σ] [HistoryStore η] {h : Host σ η} {e : Event} {rest : List Event}

/-- Handling an event keeps the host in line with its view. -/
theorem Mirrors.handled (hd : h.Disciplined) (hqueue : h.queue = e :: rest) (hm : h.Mirrors) :
    (h.handled e rest).Mirrors := by
  have hpaths : (h.handled e rest).queue.filterMap Event.path? =
      rest.filterMap Event.path? ++ (h.view.step h.clock e).emitted.filterMap Action.path? := by
    rw [hd.queue_handled hqueue, Traffic.paths_foldl_after]
  have hlocation : (h.handled e rest).location =
      ((h.view.step h.clock e).emitted.filterMap Action.path?).getLast?.or h.location := by
    have hafter := congrArg Surroundings.location (surroundings_of_handled h e rest)
    rwa [Surroundings.location_foldl_after] at hafter
  have hbefore : h.queue.filterMap Event.path? = e.path?.toList ++ rest.filterMap Event.path? := by
    rw [hqueue]
    cases hpath : e.path? <;> simp [hpath]
  refine ⟨?_, fun timer hmem => ?_, fun path hlast => ?_, fun hnone => ?_⟩
  · rw [surroundings_of_handled, Surroundings.notice_foldl_after, hm.notice, handled_view]
    refine hd.sound.tells_step h.clock fun timer he => hm.timers timer ?_
    rw [hqueue, he]
    exact List.mem_cons_self
  · rcases h.handled_queue e rest _ hmem with hrest | hreported
    · exact hm.timers timer (hqueue ▸ List.mem_cons_of_mem e hrest)
    · cases hreported
  · rw [hpaths, List.getLast?_append] at hlast
    rw [hlocation]
    cases hnew : ((h.view.step h.clock e).emitted.filterMap Action.path?).getLast? with
    | some next => rwa [hnew] at hlast
    | none =>
        rw [hnew, Option.none_or] at hlast
        refine hm.ahead path ?_
        rw [hbefore, List.getLast?_append, hlast, Option.some_or]
  · rw [hpaths, List.append_eq_nil_iff] at hnone
    rw [hlocation, hnone.2, handled_view]
    rw [hnone.1, List.append_nil] at hbefore
    cases hpath : e.path? with
    | none =>
        rw [hpath] at hbefore
        exact hd.sound.isAt_step h.clock hpath (hm.there hbefore)
    | some path =>
        -- The route that is handled is the last one that waited.
        rw [hpath] at hbefore
        have hthere : h.location = some path := hm.ahead path (by rw [hbefore]; rfl)
        cases e with
        | routeChanged next =>
            obtain rfl := Option.some.inj hpath
            exact hthere ▸ hd.sound.isAt_route h.clock next
        | _ => cases hpath

omit [HistoryStore η] in
/-- What an operation does before its event keeps the host in line with its view. -/
theorem Mirrors.acts (hs : h.Settled) {h' : Host σ η} (hacts : h.Acts e h')
    (he : ∀ timer, e ≠ .timerFired timer) (hm : h.Mirrors) : (h'.enqueue e).Mirrors := by
  have hqueue : (h'.enqueue e).queue = [e] := by
    rw [enqueue, hacts.queue_eq, hs.queue]
    rfl
  have hnotice : (h'.enqueue e).surroundings.notice = (h'.enqueue e).view.notice := by
    have hview : (h'.enqueue e).view = h.view := hacts.view_eq
    rw [hview, ← hm.notice]
    cases hacts <;> rfl
  have hthere : h.view.IsAt h.location := hm.there (by rw [hs.queue]; rfl)
  refine ⟨hnotice, fun timer hmem => ?_, ?_, ?_⟩
  · rw [hqueue, List.mem_singleton] at hmem
    exact he timer hmem.symm
  · rw [hqueue]
    rintro path hpath
    cases hacts with
    | navigate => exact hpath
    | _ => cases hpath
  · rw [hqueue]
    intro hnone
    cases hacts with
    | navigate => cases hnone
    | _ => exact hthere

/-! ### Timers that run out -/

section Fires

variable {p : PendingDetail} (hpending : h.view.pending = some p) (hp : p.escalated = false)
include hpending hp

omit [RemoteStore σ] in
/-- The timer of the request under way finds the wait long. -/
theorem step_timerFired (now : Int) : h.view.step now (.timerFired p.ticket) =
    .done [.showMessage View.stillLoadingText]
      { h.view with pending := some { p with escalated := true } } := by
  simp [View.step, View.onTimer, hpending, hp]

/-- No event comes of a wait that is found long. -/
theorem queue_handled_timerFired : (h.handled (.timerFired p.ticket) []).queue = [] :=
  congrArg Traffic.queue (traffic_handled (step_timerFired hpending hp h.clock) [])

/-- Nothing follows when the timer of the request under way runs out. -/
theorem dispatch_timerFired (hqueue : h.queue = []) :
    h.dispatch (.timerFired p.ticket) = (.ok (), h.handled (.timerFired p.ticket) []) := by
  have hsingle : (h.enqueue (.timerFired p.ticket)).queue = [.timerFired p.ticket] := by
    rw [enqueue, hqueue]
    rfl
  rw [dispatch, stepLimit, drain_of_done (h := h.enqueue (.timerFired p.ticket))
    (step_timerFired hpending hp h.clock) hsingle, handled_enqueue,
    drain_nil (queue_handled_timerFired hpending hp)]

/-- The message says that the wait is long once the timer has run out. -/
theorem Mirrors.handled_timerFired (htimers : h.timers = .empty)
    (hthere : h.view.IsAt h.location) : (h.handled (.timerFired p.ticket) []).Mirrors := by
  have hturn := step_timerFired hpending hp h.clock
  have hqueue := queue_handled_timerFired hpending hp
  have hsurroundings := surroundings_handled hturn []
  have hlocation : (h.handled (.timerFired p.ticket) []).location = h.location :=
    congrArg Surroundings.location hsurroundings
  refine ⟨?_, ?_, ?_, fun _ => ?_⟩
  · rw [hsurroundings, view_handled hturn]
    exact congrArg (Notice.mk · (some View.stillLoadingText)) htimers
  · simp [hqueue]
  · simp [hqueue]
  · rw [view_handled hturn, hlocation]
    exact hthere

end Fires

/-- Timers that run out leave the host in line with its view. -/
theorem Mirrors.fireTimers (hs : h.Settled) (hm : h.Mirrors) : h.fireTimers.2.Mirrors := by
  have harmed : h.timers = h.view.notice.timers := congrArg Notice.timers hm.notice
  have hthere : h.view.IsAt h.location := hm.there (by rw [hs.queue]; rfl)
  have hnone : h.timers = .empty → h.fireTimers.2.Mirrors := fun hempty => by
    have hsame : { h with timers := .empty } = h := by rw [← hempty]
    change (fire { h with timers := .empty } h.timers.keys).2.Mirrors
    rw [hsame, hempty]
    exact hm
  rw [View.notice] at harmed
  cases hpending : h.view.pending with
  | none =>
      rw [hpending] at harmed
      exact hnone harmed
  | some p =>
      rw [hpending] at harmed
      cases hp : p.escalated with
      | true =>
          simp only [hp, if_true] at harmed
          exact hnone harmed
      | false =>
          simp only [hp, Bool.false_eq_true, if_false] at harmed
          have hkeys : h.timers.keys = [p.ticket] := by rw [harmed]; rfl
          change (fire { h with timers := .empty } h.timers.keys).2.Mirrors
          rw [hkeys, fire,
            dispatch_timerFired (h := { h with timers := .empty }) hpending hp hs.queue]
          exact handled_timerFired (h := { h with timers := .empty }) hpending hp rfl hthere

/-! ### From the first event on -/

/-- A host mirrors what its view waits for after any operations. -/
theorem Mirrors.performAll (hs : h.Settled) (hm : h.Mirrors) (ops : List Operation) :
    (h.performAll ops).Settled ∧ (h.performAll ops).Mirrors := by
  induction ops generalizing h with
  | nil => exact ⟨hs, hm⟩
  | cons op later ih =>
      have hnext := hs.perform_induction Mirrors.handled
        (fun hs hacts he hm => hm.acts hs hacts he)
        (fun hs hm => ⟨hs.fireTimers, hm.fireTimers hs⟩)
        (fun _ hm _ _ => ⟨hm.notice, hm.timers, hm.ahead, hm.there⟩) hm op
      exact ih hnext.1 hnext.2

omit [RemoteStore σ] [HistoryStore η] in
/-- A new host shows nothing, and its view waits for nothing. -/
theorem Mirrors.initial {page : String} {delay : Nat} {history : η} {view : View η}
    (hview : View.initial page delay history = .ok view) (store : σ) :
    (Host.initial view store).Mirrors := by
  obtain ⟨table, -, rfl⟩ := View.initial_eq_ok_iff.1 hview
  exact ⟨rfl, by simp [Host.initial], by simp [Host.initial], by simp [Host.initial, View.IsAt]⟩

/-- On a page without a colon in its name, whatever operations have been performed and however they
came out, no event waits. The message says that an entity is loading, or that this takes long, or
nothing, and a timer is armed exactly while the wait has not been found long. And if the location
resolves, it is that of the current route. -/
theorem performAll_mirrors {page : String} {delay : Nat} {history : η} {view : View η}
    (hpage : ':' ∉ page.toList) (hview : View.initial page delay history = .ok view) {store : σ}
    {ops : List Operation} (hops : (Host.initial view store).performAll ops = h) :
    h.queue = [] ∧
    h.message = h.view.pending.map (fun p =>
      if p.escalated then View.stillLoadingText else View.loadingText) ∧
    h.timers.keys =
      (h.view.pending.filter fun p => !p.escalated).toList.map PendingDetail.ticket ∧
    ∀ path handler args, h.location = some path → h.view.table.resolve path = .ok (handler, args) →
      h.view.current = some ⟨path, handler, args⟩ := by
  obtain ⟨hs, hm⟩ := (Mirrors.initial hview store).performAll (.initial hpage hview store) ops
  rw [hops] at hs hm
  have htimers : h.timers = h.view.notice.timers := congrArg Notice.timers hm.notice
  have hmessage : h.message = h.view.notice.message := congrArg Notice.message hm.notice
  refine ⟨hs.queue, ?_, ?_, hm.there (by rw [hs.queue]; rfl)⟩
  · rw [hmessage, View.notice]
    cases h.view.pending with
    | none => rfl
    | some p => cases hp : p.escalated <;> simp [hp]
  · rw [htimers, View.notice]
    cases h.view.pending with
    | none => rfl
    | some p =>
        rw [Option.filter_some]
        cases hp : p.escalated <;> simp [hp] <;> rfl

/-- While the request for an entity is held back, the message says first that it is loading, with a
timer armed, and then that this takes long, with none. -/
theorem mirrors_configs_long_wait : ∃ (view : View History) (soon late : Browser),
    View.initial "configs" 500 (History.inMemory 10) = .ok view ∧
    (Host.initial view MemoryStore.empty).performAll [.setDeferred true, .navigate "configs/1"] =
      soon ∧
    (Host.initial view MemoryStore.empty).performAll
      [.setDeferred true, .navigate "configs/1", .fireTimers] = late ∧
    soon.message = some "loading..." ∧ soon.timers.keys = [⟨2⟩] ∧
    late.message = some "still loading..." ∧ late.timers.keys = [] := by
  obtain ⟨view, hview⟩ : ∃ view, View.initial "configs" 500 (History.inMemory 10) = .ok view :=
    ⟨_, rfl⟩
  obtain ⟨soon, hsoon⟩ : ∃ h : Browser, (Host.initial view MemoryStore.empty).performAll
      [.setDeferred true, .navigate "configs/1"] = h := ⟨_, rfl⟩
  obtain ⟨late, hlate⟩ : ∃ h : Browser, (Host.initial view MemoryStore.empty).performAll
      [.setDeferred true, .navigate "configs/1", .fireTimers] = h := ⟨_, rfl⟩
  obtain ⟨-, hmessage, htimers, -⟩ := performAll_mirrors (by decide) hview hsoon
  obtain ⟨-, hmessage', htimers', -⟩ := performAll_mirrors (by decide) hview hlate
  have hpending : soon.view.pending = some ⟨⟨2⟩, .ofList [("id", "1")], false, false⟩ ∧
      late.view.pending = some ⟨⟨2⟩, .ofList [("id", "1")], false, true⟩ := by
    subst hsoon hlate
    obtain rfl := Except.ok.inj hview
    decide +kernel
  rw [hpending.1] at hmessage htimers
  rw [hpending.2] at hmessage' htimers'
  exact ⟨view, soon, late, hview, hsoon, hlate, hmessage, htimers, hmessage', htimers'⟩

end Host

end ConfigBrowser
