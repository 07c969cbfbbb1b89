import ConfigBrowser.Proofs.Host.Effects
import ConfigBrowser.Proofs.View.Expectations

/-!
# Every Host Comes to Rest

On a page without a colon in its name an event that may fail waits alone. So a failure drops no
event, and what a host does with an event can be told in one way, whether or not it failed.

Redirects go to routes of a lower rank, and only routes and the replies that a dialog waits for send
for anything. So every operation ends with no event waiting, on every such page, whether its name is
plain or not. A property that is kept whenever an event is handled is a property of all hosts that
operations can lead to.

## Main results

* `Host.Disciplined.handled`: an event that may fail waits alone.
* `Host.Disciplined.traffic_handled`: what handling an event does to a host, failed or not.
* `Host.Disciplined.backlog_handled`: what waits causes less with every event that is handled.
* `Host.Settled.perform_induction`: what operations keep.
* `Host.Settled.settles`: every operation ends with no event waiting.
-/

namespace ConfigBrowser

variable {σ η : Type}

/-! ### The traffic of actions -/

namespace Traffic

variable [RemoteStore σ] {t : Traffic σ} {actions : List Action}

/-- What waits after actions waited before, or reports one of them. -/
theorem of_mem_queue {e : Event} (h : e ∈ (actions.foldl after t).queue) :
    e ∈ t.queue ∨ (∃ path, .navigate path ∈ actions ∧ e = .routeChanged path) ∨
      ∃ ticket r reply, .store ticket r ∈ actions ∧ e = .storeReplied ticket reply := by
  induction actions generalizing t with
  | nil => exact .inl h
  | cons a rest ih =>
      rcases ih h with hfirst | ⟨path, hmem, rfl⟩ | ⟨ticket, r, reply, hmem, rfl⟩
      · cases a with
        | navigate path =>
            rcases List.mem_append.1 hfirst with hold | hnew
            · exact .inl hold
            · exact .inr (.inl ⟨path, List.mem_cons_self, List.mem_singleton.1 hnew⟩)
        | store ticket r =>
            rw [after] at hfirst
            split at hfirst
            · exact .inl hfirst
            · rcases List.mem_append.1 hfirst with hold | hnew
              · exact .inl hold
              · exact .inr (.inr ⟨ticket, r, _, List.mem_cons_self, List.mem_singleton.1 hnew⟩)
        | _ => exact .inl hfirst
      · exact .inr (.inl ⟨path, List.mem_cons_of_mem a hmem, rfl⟩)
      · exact .inr (.inr ⟨ticket, r, reply, List.mem_cons_of_mem a hmem, rfl⟩)

/-- Each action reports at most one event. -/
theorem length_queue_le (t : Traffic σ) (actions : List Action) :
    (actions.foldl after t).queue.length ≤ t.queue.length + actions.length := by
  induction actions generalizing t with
  | nil => exact le_rfl
  | cons a rest ih =>
      have hfirst : (t.after a).queue.length ≤ t.queue.length + 1 := by
        rw [after.eq_def]
        split
        · simp
        · split <;> simp
        · exact Nat.le_succ _
      have hrest := ih (t.after a)
      rw [List.foldl_cons, List.length_cons]
      omega

end Traffic

/-! ### How much an event can cause -/

namespace View

/-- A bound on the number of events that the reply under a ticket causes, itself included. -/
def replySpan (v : View η) (ticket : Ticket) : Nat := if v.ownsMutation ticket then 21 else 1

/-- A bound on the number of events that an event causes, itself included. It takes routes by their
rank, so that it does not need to know which route comes of a path that was written. -/
def span (v : View η) : Event → Nat
  | .routeChanged path => 4 * v.rank path + 4
  | .storeReplied ticket _ => v.replySpan ticket
  | .dialogResolved .. | .sessionReset => 22
  | .toolbarPressed _ | .editRequested => 21
  | .timerFired _ => 1

/-- A bound on the number of events that an action causes. -/
def actionSpan (v : View η) : Action → Nat
  | .navigate path => 4 * v.rank path + 4
  | .store ticket _ => v.replySpan ticket
  | _ => 0

/-- A bound on the number of events that events cause, themselves included. -/
def backlog (v : View η) (events : List Event) : Nat := (events.map v.span).sum

/-- A reply causes at most twenty-one events, itself included. -/
theorem replySpan_bounds (v : View η) (ticket : Ticket) :
    0 < v.replySpan ticket ∧ v.replySpan ticket ≤ 21 := by
  rw [replySpan]
  split <;> decide

/-- Every event causes one event at least: itself. -/
theorem span_pos (v : View η) (e : Event) : 0 < v.span e := by
  cases e with
  | storeReplied ticket reply => exact (v.replySpan_bounds ticket).1
  | _ => simp [span]

/-- What actions report causes no more than the actions. -/
theorem backlog_foldl_after [RemoteStore σ] (v : View η) (t : Traffic σ) (actions : List Action) :
    v.backlog (actions.foldl Traffic.after t).queue ≤
      v.backlog t.queue + (actions.map v.actionSpan).sum := by
  induction actions generalizing t with
  | nil => exact le_rfl
  | cons a rest ih =>
      have hfirst : v.backlog (t.after a).queue ≤ v.backlog t.queue + v.actionSpan a := by
        cases a with
        | navigate path => simp [Traffic.after, backlog, span, actionSpan]
        | store ticket r =>
            rw [Traffic.after]
            split <;> simp [backlog, span, actionSpan]
        | _ => exact le_rfl
      have hrest := ih (t.after a)
      rw [List.foldl_cons, List.map_cons, List.sum_cons]
      omega

/-- Only actions that matter cause anything. -/
theorem sum_actionSpan_filter_matters (v : View η) (actions : List Action) :
    ((actions.filter Action.matters).map v.actionSpan).sum = (actions.map v.actionSpan).sum := by
  induction actions with
  | nil => rfl
  | cons a rest ih =>
      rw [List.filter_cons]
      cases a with
      | navigate _ | store _ _ | replaceList _ =>
          exact congrArg (v.actionSpan _ + ·) ih
      | _ => exact ih.trans (Nat.zero_add _).symm

/-- What actions cause that only read, and whose replies the dialog does not wait for. -/
theorem sum_actionSpan_eq (v : View η) {actions : List Action}
    (hreads : ∀ a ∈ actions, a.changes = false)
    (hidle : ∀ ticket r, .store ticket r ∈ actions → v.ownsMutation ticket = false) :
    (actions.map v.actionSpan).sum = (actions.filterMap Action.search?).length +
      (actions.filterMap Action.get?).length +
        ((actions.filterMap Action.path?).map fun path => 4 * v.rank path + 4).sum := by
  induction actions with
  | nil => rfl
  | cons a rest ih =>
      have hrest := ih (fun a ha => hreads a (List.mem_cons_of_mem _ ha))
        fun ticket r ha => hidle ticket r (List.mem_cons_of_mem _ ha)
      rw [List.map_cons, List.sum_cons, hrest]
      cases a with
      | navigate path =>
          simp only [List.filterMap_cons, Action.search?, Action.get?, Action.path?, actionSpan,
            List.map_cons, List.sum_cons]
          omega
      | store ticket r =>
          have hnot := hidle ticket r List.mem_cons_self
          have hread := hreads (.store ticket r) List.mem_cons_self
          cases r with
          | put _ _ | delete _ => cases hread
          | get _ | search _ =>
              simp only [List.filterMap_cons, Action.search?, Action.get?, Action.path?, actionSpan,
                replySpan, hnot, List.length_cons, Bool.false_eq_true, if_false]
              omega
      | _ => exact Nat.zero_add _

/-- Going to a path causes at most twenty events. -/
theorem Sound.actionSpan_navigate_le {v : View η} (hv : v.Sound) (path : String) :
    v.actionSpan (.navigate path) ≤ 20 := by
  have hrank := hv.rank_le path
  rw [actionSpan]
  omega

/-- A redirect causes at most twenty events, whatever the view is then. -/
theorem Sound.sum_redirect_le {v : View η} (hv : v.Sound) (w : View η) (h : Handler)
    (args : RouteArgs) : ((w.redirect h args).emitted.map v.actionSpan).sum ≤ 20 := by
  rw [redirect]
  split
  · next path _ => simpa using hv.actionSpan_navigate_le path
  · simp

section Spans

variable [HistoryStore η] {v : View η} (hv : v.Sound)
  (hissued : ∀ ticket ∈ v.awaited, ticket.number ≤ v.lastTicket) (now : Int)
include hv hissued

/-- A route causes more than its actions. -/
theorem Sound.sum_actionSpan_route (path : String) :
    ((v.step now (.routeChanged path)).emitted.map
      (v.step now (.routeChanged path)).view.actionSpan).sum < v.span (.routeChanged path) := by
  cases hresolve : v.table.resolve path with
  | error err =>
      rw [step_routeChanged_of_error hresolve]
      exact v.span_pos _
  | ok route =>
      obtain ⟨h, args⟩ := route
      have hreads : ∀ a ∈ (v.step now (.routeChanged path)).emitted, a.changes = false :=
        fun a ha => changes_of_mem_route ha
      have hidle : ∀ ticket r, .store ticket r ∈ (v.step now (.routeChanged path)).emitted →
          (v.step now (.routeChanged path)).view.ownsMutation ticket = false := by
        intro ticket r hmem
        by_contra howned
        have hfail : (v.step now (.routeChanged path)).view.mayFail
            (.storeReplied ticket .deleted) = true := by simpa [mayFail] using howned
        obtain ⟨dialog, decision, he⟩ := mayFail_of_store_mem hissued hmem hfail
        cases he
      have hless : ∀ next, .navigate next ∈ (v.step now (.routeChanged path)).emitted →
          (v.step now (.routeChanged path)).view.rank next < v.rank path := by
        intro next hmem
        rw [hv.rank_step]
        exact hv.rank_lt_of_navigate hmem
      rw [sum_actionSpan_eq _ hreads hidle]
      obtain ⟨actions, w, hstep, hspec⟩ := hv.step_routeChanged hresolve now
      obtain ⟨paths, hasks, hpaths⟩ := hspec.asks
      rw [hstep] at hless ⊢
      simp only [Turn.emitted_done, Turn.view_done] at hless ⊢
      rw [hasks.searches, hasks.gets, hasks.paths, span]
      have hcount := (v.entered path h args).lt_routeWeight h args
      have hweight := ((v.entered path h args).routeWeight_le args h).2
      have hlength := congrArg List.length hpaths
      rw [List.length_map, List.length_map] at hlength
      cases hto : (v.entered path h args).redirectTo args h with
      | none =>
          obtain rfl : paths = [] := List.eq_nil_of_length_eq_zero (by simpa [hto] using hlength)
          simp only [hto, Option.isSome_none, Bool.false_eq_true, if_false] at hcount
          simp only [List.map_nil, List.sum_nil]
          omega
      | some target =>
          obtain ⟨next, rfl⟩ := List.length_eq_one_iff.1
            (by simpa [hto] using hlength : paths.length = 1)
          have hmem : .navigate next ∈ actions := by
            have hnext : next ∈ actions.filterMap Action.path? := by simp [hasks.paths]
            obtain ⟨a, ha, hpath⟩ := List.mem_filterMap.1 hnext
            cases a <;> cases hpath
            exact ha
          have hrank : w.rank next < v.rank path := hless next hmem
          simp only [hto, Option.isSome_some, if_true] at hcount
          simp only [List.map_cons, List.map_nil, List.sum_cons, List.sum_nil]
          omega

/-- An event causes more than its actions. -/
theorem Sound.sum_actionSpan_lt (e : Event) :
    ((v.step now e).emitted.map (v.step now e).view.actionSpan).sum < v.span e := by
  have hafter : (v.step now e).view.Sound := hv.step now e
  have hroute := hv.sum_actionSpan_route hissued now
  have hstore : ∀ w : View η, w.replySpan v.nextTicket < 22 := fun w =>
    Nat.lt_succ_of_le (w.replySpan_bounds v.nextTicket).2
  rw [← sum_actionSpan_filter_matters]
  have hnothing : (v.step now e).emitted.filter Action.matters = [] →
      (((v.step now e).emitted.filter Action.matters).map
        (v.step now e).view.actionSpan).sum < v.span e := fun h => by
    rw [h]
    exact v.span_pos e
  have houtcome := v.outcome_step now e
  generalize hstep : v.step now e = t at hnothing hafter houtcome ⊢
  cases houtcome with
  | @route path => exact hstep ▸ (sum_actionSpan_filter_matters _ _).trans_lt (hroute path)
  | answered hpending =>
      obtain ⟨actions, w, hanswer, hidle, -⟩ :=
        hv.matters_onDetailReply (by rw [hpending]; rfl) now _
      rw [step_of_pending hpending, hanswer] at hstep
      exact hnothing (by rw [← hstep]; exact hidle)
  | listed hsearch ha =>
      rcases ha with ⟨rows, rfl⟩ | ⟨text, rfl⟩ <;> exact v.span_pos _
  | @led e h args hto hreply =>
      have hspan : v.span e = 21 := by
        cases e with
        | storeReplied ticket reply => exact absurd rfl (hreply ticket reply)
        | toolbarPressed button => rfl
        | editRequested => rfl
        | _ => cases hto
      rw [hspan, sum_actionSpan_filter_matters]
      exact Nat.lt_succ_of_le (hafter.sum_redirect_le v h args)
  | @favored changed history => exact hnothing (by cases changed <;> rfl)
  | creates | deletes => exact hstore _
  | @created p ticket name id path history hdialog hwaits =>
      have hspan : v.span (.storeReplied ticket (.created id)) = 21 :=
        if_pos (ownsMutation_iff.2 ⟨p, hdialog, name, hwaits⟩)
      rw [hspan]
      exact Nat.lt_succ_of_le (hafter.actionSpan_navigate_le path)
  | @deleted p ticket name hdialog hwaits =>
      have hspan : v.span (.storeReplied ticket .deleted) = 21 :=
        if_pos (ownsMutation_iff.2 ⟨p, hdialog, name, hwaits⟩)
      rw [hspan, sum_actionSpan_filter_matters]
      exact Nat.lt_succ_of_le (hafter.sum_redirect_le _ _ _)
  | reset =>
      change v.onSessionReset = _ at hstep
      rw [onSessionReset_eq] at hstep
      split at hstep
      · rw [← hstep]
        exact hstore _
      · exact hnothing (by rw [← hstep]; rfl)
  | _ => exact hnothing rfl

end Spans

/-- What an event causes does not grow while other events than decisions are handled. -/
theorem Sound.span_step_le [HistoryStore η] {v : View η} (hv : v.Sound) (now : Int) {e : Event}
    (he : ∀ dialog decision, e ≠ .dialogResolved dialog decision) (e' : Event) :
    (v.step now e).view.span e' ≤ v.span e' := by
  cases e' with
  | routeChanged path =>
      rw [span, span, hv.rank_step]
  | storeReplied ticket reply =>
      cases howned : (v.step now e).view.ownsMutation ticket with
      | true =>
          have hbefore : v.ownsMutation ticket = true :=
            (ownsMutation_step howned).resolve_right fun ⟨_, dialog, decision, hdecision⟩ =>
              he dialog decision hdecision
          rw [span, span, replySpan, replySpan, howned, hbefore]
      | false =>
          rw [span, replySpan, howned]
          exact v.span_pos (.storeReplied ticket reply)
  | _ => exact le_rfl

end View

namespace Host

variable [RemoteStore σ] [HistoryStore η] {h : Host σ η} {e : Event} {rest : List Event}

/-! ### Order among the events that wait -/

/-- What is known of a host on a page without a colon in its name: its view waits only for replies
to requests that it has made, for each of them once, and an event that may fail waits alone. -/
structure Disciplined (h : Host σ η) : Prop where
  sound : h.view.Sound
  issued : ∀ ticket ∈ h.view.awaited, ticket.number ≤ h.view.lastTicket
  nodup : h.view.awaited.Nodup
  alone : ∀ e ∈ h.queue, h.view.mayFail e = true → h.queue = [e]

/-- What surrounds the view changes by the actions of an event. -/
theorem surroundings_of_handled (h : Host σ η) (e : Event) (rest : List Event) :
    (h.handled e rest).surroundings =
      (h.view.step h.clock e).emitted.foldl Surroundings.after h.surroundings := by
  rw [handled, Turn.emitted]
  cases (h.view.step h.clock e).answer with
  | error err => rfl
  | ok actions => exact (foldl_execute _ actions).1

omit [RemoteStore σ] [HistoryStore η] in
/-- Behind an event that may fail nothing waits. -/
theorem Disciplined.rest_eq_nil (hd : h.Disciplined) (hqueue : h.queue = e :: rest)
    (hfail : h.view.mayFail e = true) : rest = [] := by
  have halone := hd.alone e (hqueue ▸ List.mem_cons_self) hfail
  exact (List.cons.inj (hqueue.symm.trans halone)).2

/-- The traffic of a host changes by the actions of an event. After a failure nothing is lost. -/
theorem Disciplined.traffic_handled (hd : h.Disciplined) (hqueue : h.queue = e :: rest) :
    (h.handled e rest).traffic = (h.view.step h.clock e).emitted.foldl Traffic.after
      { h.traffic with queue := rest } := by
  rw [Host.handled, Turn.emitted]
  cases hanswer : (h.view.step h.clock e).answer with
  | error err =>
      obtain rfl := hd.rest_eq_nil hqueue (hd.sound.mayFail_of_error hanswer)
      rfl
  | ok actions => exact (foldl_execute _ actions).2

/-- The events that wait are those of the traffic, also after a failure. -/
theorem Disciplined.queue_handled (hd : h.Disciplined) (hqueue : h.queue = e :: rest) :
    (h.handled e rest).queue = ((h.view.step h.clock e).emitted.foldl Traffic.after
      { h.traffic with queue := rest }).queue :=
  congrArg Traffic.queue (hd.traffic_handled hqueue)

/-- An event that may fail waits alone, also once another one has been handled. -/
theorem Disciplined.handled (hd : h.Disciplined) (hqueue : h.queue = e :: rest) :
    (h.handled e rest).Disciplined := by
  refine ⟨?_, ?_, ?_, fun e' he' hfail => ?_⟩
  · exact handled_view h e rest ▸ hd.sound.step h.clock e
  · exact handled_view h e rest ▸ (h.view.advances_step h.clock e).issued hd.issued
  · exact handled_view h e rest ▸ (h.view.advances_step h.clock e).nodup hd.issued hd.nodup
  rw [handled_view] at hfail
  have hdecision : (∃ dialog decision, e = .dialogResolved dialog decision) →
      (h.handled e rest).queue = [e'] := by
    rintro ⟨dialog, decision, rfl⟩
    obtain rfl := hd.rest_eq_nil hqueue rfl
    have hlength : (h.handled (.dialogResolved dialog decision) []).queue.length ≤ 1 := by
      rw [hd.queue_handled hqueue, ← Traffic.foldl_after_filter_matters]
      refine (Traffic.length_queue_le _ _).trans ?_
      exact (Nat.zero_add _).le.trans (View.length_matters_of_decision dialog decision)
    obtain ⟨x, hx⟩ := List.length_eq_one_iff.1
      (le_antisymm hlength (List.length_pos_of_mem he'))
    rw [hx] at he' ⊢
    rw [List.mem_singleton.1 he']
  rw [hd.queue_handled hqueue] at he'
  rcases Traffic.of_mem_queue he' with hold | ⟨path, -, rfl⟩ | ⟨ticket, r, reply, hmem, rfl⟩
  · rcases View.mayFail_step hfail with hfailed | hdecides
    · -- The event that waits could fail before, so it was alone.
      have halone := hd.alone e' (hqueue ▸ List.mem_cons_of_mem e hold) hfailed
      rw [hqueue] at halone
      rw [(List.cons.inj halone).2] at hold
      exact absurd hold List.not_mem_nil
    · exact hdecision hdecides
  · cases hfail
  · exact hdecision (View.mayFail_of_store_mem hd.issued hmem hfail)

/-- What waits causes less once the first event has been handled. -/
theorem Disciplined.backlog_handled (hd : h.Disciplined) (hqueue : h.queue = e :: rest) :
    (h.handled e rest).view.backlog (h.handled e rest).queue < h.view.backlog h.queue := by
  have hcaused := hd.sound.sum_actionSpan_lt hd.issued h.clock e
  have hrest : (h.view.step h.clock e).view.backlog rest ≤ h.view.backlog rest := by
    by_cases hdecision : ∃ dialog decision, e = .dialogResolved dialog decision
    · obtain ⟨dialog, decision, rfl⟩ := hdecision
      obtain rfl := hd.rest_eq_nil hqueue rfl
      exact le_rfl
    · refine List.sum_le_sum fun e' _ => hd.sound.span_step_le h.clock ?_ e'
      exact fun dialog decision he => hdecision ⟨dialog, decision, he⟩
  have hafter := (h.view.step h.clock e).view.backlog_foldl_after
    { h.traffic with queue := rest } (h.view.step h.clock e).emitted
  have hbefore : h.view.backlog h.queue = h.view.span e + h.view.backlog rest := by
    rw [hqueue]
    exact List.sum_cons
  rw [handled_view, hd.queue_handled hqueue, hbefore]
  exact hafter.trans_lt (by dsimp only; omega)

omit [RemoteStore σ] [HistoryStore η] in
/-- An event waits alone where none waited. -/
theorem Disciplined.enqueue (hd : h.Disciplined) (hqueue : h.queue = []) (e : Event) :
    (h.enqueue e).Disciplined := by
  refine ⟨hd.sound, hd.issued, hd.nodup, fun e' he' _ => ?_⟩
  have hsingle : (h.enqueue e).queue = [e] := by
    rw [Host.enqueue, hqueue]
    rfl
  rw [hsingle] at he' ⊢
  rw [List.mem_singleton.1 he']

/-! ### Hosts that have come to rest -/

/-- A host between two operations: no event waits. -/
structure Settled (h : Host σ η) : Prop extends Disciplined h where
  queue : h.queue = []

/-- What is kept whenever an event is handled is kept until no event waits. -/
theorem Disciplined.drain_induction {P : Host σ η → Prop}
    (hhandled : ∀ {h : Host σ η} {e : Event} {rest : List Event}, h.Disciplined →
      h.queue = e :: rest → P h → P (h.handled e rest))
    (hd : h.Disciplined) (hP : P h) {fuel : Nat} (hfuel : h.view.backlog h.queue ≤ fuel) :
    (h.drain fuel).2.Settled ∧ P (h.drain fuel).2 := by
  induction fuel generalizing h with
  | zero =>
      have hqueue : h.queue = [] := by
        cases hqueue : h.queue with
        | nil => rfl
        | cons e rest =>
            have hpos := h.view.span_pos e
            rw [hqueue, View.backlog, List.map_cons, List.sum_cons] at hfuel
            omega
      rw [drain_nil hqueue]
      exact ⟨⟨hd, hqueue⟩, hP⟩
  | succ fuel ih =>
      cases hqueue : h.queue with
      | nil =>
          rw [drain_nil hqueue]
          exact ⟨⟨hd, hqueue⟩, hP⟩
      | cons e rest =>
          rw [drain_succ_snd hqueue]
          refine ih (hd.handled hqueue) (hhandled hd hqueue hP) ?_
          exact Nat.le_of_lt_succ ((hd.backlog_handled hqueue).trans_le hfuel)

omit [RemoteStore σ] [HistoryStore η] in
/-- Only the view and what waits tell whether a host has come to rest. -/
theorem Settled.of_eq {h' : Host σ η} (hs : h.Settled) (hview : h'.view = h.view)
    (hqueue : h'.queue = h.queue) : h'.Settled where
  sound := hview ▸ hs.sound
  issued := hview ▸ hs.issued
  nodup := hview ▸ hs.nodup
  alone _ he := absurd (hs.queue ▸ hqueue ▸ he) List.not_mem_nil
  queue := hqueue.trans hs.queue

section Operations

variable {P : Host σ η → Prop}
  (hhandled : ∀ {h : Host σ η} {e : Event} {rest : List Event}, h.Disciplined →
    h.queue = e :: rest → P h → P (h.handled e rest))
include hhandled

/-- What is kept whenever an event is handled is kept until all that follows from an event has been
handled. -/
theorem Settled.dispatch_induction (hs : h.Settled) (hP : P (h.enqueue e)) :
    (h.dispatch e).2.Settled ∧ P (h.dispatch e).2 := by
  refine (hs.toDisciplined.enqueue hs.queue e).drain_induction hhandled hP ?_
  have hspan : h.view.span e ≤ 22 := by
    cases e with
    | routeChanged path =>
        have hrank := hs.sound.rank_le path
        rw [View.span]
        omega
    | storeReplied ticket reply => exact (h.view.replySpan_bounds ticket).2.trans (by decide)
    | _ => simp [View.span]
  rw [enqueue, hs.queue]
  exact (Nat.add_zero _).le.trans (hspan.trans (by decide))

variable (hacts : ∀ {h h' : Host σ η} {e : Event}, h.Settled → h.Acts e h' →
    (∀ timer, e ≠ .timerFired timer) → P h → P (h'.enqueue e))
include hacts

/-- What handling events keeps is kept by an operation that is no timer. -/
theorem Settled.acts_induction {h' : Host σ η} (hs : h.Settled) (hP : P h) (he : h.Acts e h')
    (hnot : ∀ timer, e ≠ .timerFired timer) : (h'.dispatch e).2.Settled ∧ P (h'.dispatch e).2 :=
  (hs.of_eq he.view_eq he.queue_eq).dispatch_induction hhandled (hacts hs he hnot hP)

/-- What handling events keeps is kept by releasing a request. -/
theorem Settled.release_induction (hs : h.Settled) (hP : P h) (ticket : Ticket) :
    (h.release ticket).2.Settled ∧ P (h.release ticket).2 := by
  rw [Host.release]
  cases hheld : h.inFlight.get? ticket with
  | none => exact ⟨hs, hP⟩
  | some r => exact hs.acts_induction hhandled hacts hP (.release hheld) (by simp)

/-- What handling events keeps is kept by releasing requests. -/
theorem Settled.releaseUpTo_induction (hs : h.Settled) (hP : P h) (fuel : Nat) :
    (h.releaseUpTo fuel).2.Settled ∧ P (h.releaseUpTo fuel).2 := by
  induction fuel generalizing h with
  | zero =>
      rw [releaseUpTo.eq_def]
      split <;> exact ⟨hs, hP⟩
  | succ fuel ih =>
      rw [releaseUpTo.eq_def]
      cases h.inFlight.keys with
      | nil => exact ⟨hs, hP⟩
      | cons ticket later =>
          have hnext := hs.release_induction hhandled hacts hP ticket
          dsimp only
          rcases houtcome : h.release ticket with ⟨err | found, h'⟩
          · rw [houtcome] at hnext
            exact hnext
          · rw [houtcome] at hnext
            exact ih hnext.1 hnext.2

/-- What operations keep. Timers that run out are left to the property. -/
theorem Settled.perform_induction
    (hfires : ∀ {h : Host σ η}, h.Settled → P h → h.fireTimers.2.Settled ∧ P h.fireTimers.2)
    (hidle : ∀ {h : Host σ η}, h.Settled → P h → ∀ clock deferred, P { h with clock, deferred })
    (hs : h.Settled) (hP : P h) (op : Operation) : (h.perform op).Settled ∧ P (h.perform op) := by
  cases op with
  | navigate path => exact hs.acts_induction hhandled hacts hP (.navigate path) (by simp)
  | press button => exact hs.acts_induction hhandled hacts hP (.press button) (by simp)
  | requestEdit => exact hs.acts_induction hhandled hacts hP .requestEdit (by simp)
  | resolveDialog dialog decision =>
      exact hs.acts_induction hhandled hacts hP (.decide dialog decision) (by simp)
  | fireTimers => exact hfires hs hP
  | release ticket => exact hs.release_induction hhandled hacts hP ticket
  | releaseAll => exact hs.releaseUpTo_induction hhandled hacts hP _
  | setDeferred deferred => exact ⟨hs.of_eq rfl rfl, hidle hs hP h.clock deferred⟩
  | reset => exact hs.acts_induction hhandled hacts hP .reset (by simp)
  | wait now => exact ⟨hs.of_eq rfl rfl, hidle hs hP now h.deferred⟩

end Operations

/-- A settled host stays so when timers run out. -/
theorem Settled.fire (hs : h.Settled) (timers : List Ticket) : (h.fire timers).2.Settled := by
  induction timers generalizing h with
  | nil => exact hs
  | cons timer later ih =>
      have hnext := (hs.dispatch_induction (P := fun _ => True) (e := .timerFired timer)
        (fun _ _ _ => trivial) trivial).1
      rw [Host.fire]
      rcases houtcome : h.dispatch (.timerFired timer) with ⟨err | ⟨⟩, h'⟩
      · rw [houtcome] at hnext
        exact hnext
      · rw [houtcome] at hnext
        exact ih hnext

/-- A settled host stays so when all timers run out. -/
theorem Settled.fireTimers (hs : h.Settled) : h.fireTimers.2.Settled :=
  have hunarmed : Settled { h with timers := .empty } := hs.of_eq rfl rfl
  hunarmed.fire h.timers.keys

/-- Every operation ends with no event waiting. -/
theorem Settled.perform (hs : h.Settled) (op : Operation) : (h.perform op).Settled :=
  (hs.perform_induction (P := fun _ => True) (fun _ _ _ => trivial) (fun _ _ _ _ => trivial)
    (fun hs _ => ⟨hs.fireTimers, trivial⟩) (fun _ _ _ _ => trivial) trivial op).1

/-- After each of any operations no event waits. -/
theorem Settled.settles (hs : h.Settled) (ops : List Operation) : h.settles ops = true := by
  induction ops generalizing h with
  | nil => rfl
  | cons op rest ih =>
      have hnext := hs.perform op
      rw [Host.settles, hnext.queue, ih hnext]
      rfl

omit [RemoteStore σ] [HistoryStore η] in
/-- A host before its first event has come to rest. -/
theorem Settled.initial {page : String} {delay : Nat} {history : η} {view : View η}
    (hpage : ':' ∉ page.toList) (hview : View.initial page delay history = .ok view) (store : σ) :
    (Host.initial view store).Settled where
  sound := .initial hpage hview
  issued _ hticket := absurd (View.awaited_initial hview ▸ hticket) List.not_mem_nil
  nodup := (View.awaited_initial hview).symm ▸ List.nodup_nil
  alone _ he := absurd he List.not_mem_nil
  queue := rfl

end Host

end ConfigBrowser
