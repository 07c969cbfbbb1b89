import ConfigBrowser.Proofs.Host.Dialogs
import ConfigBrowser.Proofs.Host.Prompt
import ConfigBrowser.Proofs.View.Deletions
import ConfigBrowser.Proofs.View.Pane
import ConfigBrowser.Proofs.View.Redirects

/-!
# Hosts at Rest

What is known of a host that has never held a request back, between any two operations. The memory
of navigations is that of the current route: it falls behind only at the route of an acknowledged
deletion, and then the route that this one redirects to is on its way. Nothing is displayed before
the first route, and the toolbar goes with the current one.

## Main results

* `Host.Recalls.handled`: the memory falls behind only while a route is on its way.
* `Host.Resting.performAll`: what is known of a host at rest.
-/

namespace ConfigBrowser

/-- An entity is displayed only once there is a current route. -/
theorem View.Course.isSome_current_of_displayed {η : Type} [HistoryStore η] {start v : View η}
    {ms : List (Moment η)} (h : Course start ms v) (hdisplayed : start.displayed = none)
    (hpending : start.pending = none) (hv : v.displayed.isSome = true) :
    v.current.isSome = true := by
  induction h with
  | start => simp [hdisplayed] at hv
  | @step ms v hcourse now e ih =>
      have hbefore : v.current.isSome = true := by
        obtain ⟨⟨entity, args⟩, hshown⟩ := Option.isSome_iff_exists.1 hv
        rcases displayed_step ⟨v, now, e⟩ hshown with hshows | hkept
        · obtain ⟨⟨p, hp, -⟩, -⟩ := hshows
          obtain ⟨id, -, hid⟩ := hcourse.pending_selected hpending hp
          by_contra hnone
          rw [currentArgs, Option.not_isSome_iff_eq_none.1 hnone] at hid
          cases hid
        · exact ih (by rw [hkept]; rfl)
      rcases v.current_step now e with ⟨-, hcurrent, -⟩ | ⟨path, h, args, -, hcurrent, -⟩
      · rw [hcurrent, hbefore]
      · rw [hcurrent]
        rfl

namespace Host

variable {σ η : Type}

/-- The memory of navigations is that of the current route, or a route is on its way. -/
structure Recalls (h : Host σ η) : Prop where
  routable : Routable h.view.page
  memory : h.view.reconciler.previous = h.view.current.map CurrentRoute.args ∨
    ∃ path ∈ h.queue.filterMap Event.path?, ∃ route, h.view.table.resolve path = .ok route

variable [RemoteStore σ] [HistoryStore η] {h : Host σ η} {e : Event} {rest : List Event}

/-- The memory falls behind only at the route of a deletion, which has another route follow. -/
theorem Recalls.handled (hp : h.Prompt) (hqueue : h.queue = e :: rest) (hr : h.Recalls) :
    (h.handled e rest).Recalls := by
  have hpaths : (h.handled e rest).queue.filterMap Event.path? =
      rest.filterMap Event.path? ++ (h.view.step h.clock e).emitted.filterMap Action.path? := by
    rw [hp.queue_handled hqueue, Traffic.paths_foldl_after]
  refine ⟨?_, ?_⟩
  · rw [handled_view, hp.sound.page_step]
    exact hr.routable
  rw [hpaths, handled_view, hp.sound.table_step]
  by_cases hroute : ∃ path route, e = .routeChanged path ∧ h.view.table.resolve path = .ok route
  · obtain ⟨path, ⟨handler, args⟩, rfl, hresolve⟩ := hroute
    have hadmits := admits_of_resolve hp.sound.colon hp.sound.table hresolve
    obtain ⟨actions, w, hstep, hspec⟩ := hp.sound.step_routeChanged hresolve h.clock
    rw [hstep]
    by_cases hdelete : handler = .loadDelete
    · subst hdelete
      obtain ⟨paths, hasks, hnext⟩ := hspec.asks
      rw [View.redirectTo_of_redirects hadmits (by exact trivial)] at hnext
      obtain ⟨next, rfl⟩ : ∃ next, paths = [next] :=
        List.length_eq_one_iff.1 (by simpa using congrArg List.length hnext)
      have hhash : h.view.hash .load (args.only [RouteArgs.nameKey]) = .ok next :=
        (List.cons.inj hnext).1.symm
      refine .inr ⟨next, ?_, Handler.loadDelete.plainRoute args, ?_⟩
      · rw [Turn.emitted_done, hasks.paths]
        simp
      · exact View.Regular.resolve_plainRoute (h := .loadDelete)
          ⟨hr.routable, hp.sound, hp.issued, hp.nodup⟩ hadmits hhash
    · left
      rw [Turn.view_done, hspec.reconciler, if_neg hdelete, hspec.current]
      rfl
  · have hnone : Moment.route? ⟨h.view, h.clock, e⟩ = none := by
      cases e with
      | routeChanged path =>
          cases hresolve : h.view.table.resolve path with
          | ok route => exact absurd ⟨path, route, rfl, hresolve⟩ hroute
          | error err => exact Moment.route?_of_error h.clock hresolve
      | _ => rfl
    have hcurrent : (h.view.step h.clock e).view.current = h.view.current := by
      rcases h.view.current_step h.clock e with ⟨-, hcurrent, -⟩ | ⟨_, _, _, hsome, -⟩
      · exact hcurrent
      · simp [hnone] at hsome
    rw [hcurrent, hp.sound.reconciler_step hnone]
    refine hr.memory.imp_right ?_
    rintro ⟨path, hmem, route, hresolve⟩
    refine ⟨path, List.mem_append_left _ ?_, route, hresolve⟩
    rw [hqueue] at hmem
    cases e with
    | routeChanged other =>
        rcases List.mem_cons.1 hmem with rfl | hmem
        · exact absurd ⟨path, route, rfl, hresolve⟩ hroute
        · exact hmem
    | _ => exact hmem

omit [RemoteStore σ] [HistoryStore η] in
/-- When no event waits, the memory is that of the current route. -/
theorem Recalls.previous_eq (hr : h.Recalls) (hqueue : h.queue = []) :
    h.view.reconciler.previous = h.view.current.map CurrentRoute.args := by
  rcases hr.memory with hmemory | ⟨path, hmem, -⟩
  · exact hmemory
  · rw [hqueue] at hmem
    exact absurd hmem List.not_mem_nil

/-- A host recalls its last route after every operation that holds nothing back. -/
theorem Recalls.perform (hp : h.Prompt) (hqueue : h.queue = []) (hr : h.Recalls) {op : Operation}
    (hop : op ≠ .setDeferred true) :
    (h.perform op).Prompt ∧ (h.perform op).queue = [] ∧ (h.perform op).Recalls := by
  refine hp.perform_induction Recalls.handled hqueue (fun _ => ⟨hr.routable, hr.memory⟩) ?_ hop
  intro h' e hacts
  have hview : (h'.enqueue e).view = h.view := hacts.view_eq
  exact ⟨hview ▸ hr.routable, .inl (hview ▸ hr.previous_eq hqueue)⟩

/-- A host recalls its last route after any operations that hold nothing back. -/
theorem Recalls.performAll (hp : h.Prompt) (hqueue : h.queue = []) (hr : h.Recalls)
    {ops : List Operation} (hops : .setDeferred true ∉ ops) :
    (h.performAll ops).Prompt ∧ (h.performAll ops).queue = [] ∧ (h.performAll ops).Recalls := by
  induction ops generalizing h with
  | nil => exact ⟨hp, hqueue, hr⟩
  | cons op later ih =>
      obtain ⟨hp', hqueue', hr'⟩ :=
        hr.perform hp hqueue (List.ne_of_not_mem_cons hops).symm
      exact ih hp' hqueue' hr' (List.not_mem_of_not_mem_cons hops)

/-! ### At rest -/

/-- A host between two operations that has never held a request back, on a page whose paths can be
told from others. -/
structure Resting (h : Host σ η) : Prop extends Prompt h where
  queue : h.queue = []
  routable : Routable h.view.page
  /-- The last navigation that is remembered is that of the current route. -/
  previous : h.view.reconciler.previous = h.view.current.map CurrentRoute.args
  toolbar : h.view.toolbar = h.view.current.map fun route => View.toolbarOf route.args
  displayed : h.view.current = none → h.view.displayed = none
  /-- Every open dialog has a ticket that was handed out. -/
  opened : ∀ d spec, h.dialogs.get? d = some spec → d.number ≤ h.view.lastTicket

/-- Whatever operations have been performed, a host that was not told to hold requests back is at
rest. -/
theorem Resting.performAll {page : String} {delay : Nat} {history : η} {view : View η}
    (hpage : Routable page) (hview : View.initial page delay history = .ok view) {store : σ}
    {ops : List Operation} (hprompt : .setDeferred true ∉ ops)
    (hops : (Host.initial view store).performAll ops = h) : h.Resting := by
  have hsettled := Settled.initial hpage.colon hview store
  obtain ⟨hstory, -⟩ := Story.start.performAll hsettled.queue (hsettled.settles ops)
  have hstart := Prompt.initial hpage.colon hview store
  obtain ⟨table, -, rfl⟩ := View.initial_eq_ok_iff.1 hview
  obtain ⟨hp, hqueue, hr⟩ := Recalls.performAll hstart rfl ⟨hpage, .inl rfl⟩ hprompt
  subst hops
  exact
    { toPrompt := hp
      queue := hqueue
      routable := hr.routable
      previous := hr.previous_eq hqueue
      toolbar := hstory.course.toolbar_eq rfl
      displayed := fun hnone => by
        by_contra hsome
        have hcurrent := hstory.course.isSome_current_of_displayed rfl rfl
          (Option.isSome_iff_ne_none.2 hsome)
        simp [hnone] at hcurrent
      opened := fun d spec hopen => (hstory.dialogsMatch rfl rfl rfl).number_le_of_open hopen }

namespace Resting

omit [RemoteStore σ] [HistoryStore η]

variable (hr : h.Resting)
include hr

/-- A host at rest has a regular view. -/
theorem regular : h.view.Regular := ⟨hr.routable, hr.sound, hr.issued, hr.nodup⟩

/-- A host at rest has no entity loading. -/
theorem pending : h.view.pending = none := hr.pending_eq_none hr.queue

/-- A host at rest has no search going on. -/
theorem latestSearch : h.view.latestSearch = none := hr.latestSearch_eq_none hr.queue

/-- No dialog is open under a ticket that has not been handed out. -/
theorem get?_dialogs_of_lt {ticket : Ticket} (hlt : h.view.lastTicket < ticket.number) :
    h.dialogs.get? ticket = none := by
  cases hopen : h.dialogs.get? ticket with
  | none => rfl
  | some spec => exact absurd (hr.opened _ spec hopen) (Nat.not_le_of_lt hlt)

/-- No dialog is open under the next ticket. -/
theorem get?_nextTicket : h.dialogs.get? h.view.nextTicket = none :=
  hr.get?_dialogs_of_lt (Nat.lt_succ_self _)

end Resting

end Host

end ConfigBrowser
