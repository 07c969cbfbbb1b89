import ConfigBrowser.Proofs.View.Errands

/-!
# What Tells of a Wait

While an entity is loading a message says so, and a timer is armed that makes the message say that
the wait is long. The view keeps neither of them: it only orders timers and messages, one at a time.
What tells of a wait can nevertheless be read off the view, for the orders of every turn lead from
what goes with the view before to what goes with it afterwards.

On a page without a colon in its name this holds of every event, also of one that fails, for what
fails has left alone what is loading. The one exception is a timer: it is no longer armed when it
is reported.

## Main results

* `View.tells_abandon`, `View.tells_ask`, `View.Sound.tells_detailReply`: a wait ends, begins, and
  is answered.
* `View.Sound.tells_step`: what goes with the view is told at every event.
-/

namespace ConfigBrowser

/-! ### Timers and messages -/

/-- What tells of a wait: the timers that are armed, and the message. -/
structure Notice where
  timers : SortedMap Ticket Nat
  message : Option String

/-- What tells of a wait once an action has been carried out. -/
def Notice.after (n : Notice) : Action → Notice
  | .scheduleTimer timer delay => { n with timers := n.timers.insert timer delay }
  | .cancelTimer timer => { n with timers := n.timers.erase timer }
  | .showMessage text => { n with message := some text }
  | .clearMessage => { n with message := none }
  | _ => n

/-- Does an action concern neither timers nor the message? -/
def Action.isSilent : Action → Bool
  | .scheduleTimer .. | .cancelTimer _ | .showMessage _ | .clearMessage => false
  | _ => true

/-- Silent actions change nothing that tells of a wait. -/
theorem Notice.foldl_after_of_silent {actions : List Action}
    (h : ∀ a ∈ actions, a.isSilent = true) (n : Notice) : actions.foldl after n = n := by
  induction actions with
  | nil => rfl
  | cons a rest ih =>
      have hfirst : n.after a = n := by
        have hsilent := h a List.mem_cons_self
        cases a <;> first | rfl | cases hsilent
      rw [List.foldl_cons, hfirst]
      exact ih fun a' ha' => h a' (List.mem_cons_of_mem a ha')

namespace View

variable {η : Type}

/-- What tells of the wait of a view. -/
def notice (v : View η) : Notice :=
  match v.pending with
  | none => ⟨.empty, none⟩
  | some p =>
    if p.escalated then ⟨.empty, some stillLoadingText⟩
    else ⟨SortedMap.empty.insert p.ticket v.loadingDelay, some loadingText⟩

/-- Actions lead from what tells of the wait of one view to what tells of that of another. -/
def Tells (v : View η) (actions : List Action) (w : View η) : Prop :=
  actions.foldl Notice.after v.notice = w.notice

variable {v u w : View η} {first second actions : List Action} {args : RouteArgs}

/-- Actions may go on where others have led. -/
theorem Tells.append (h : v.Tells first u) (h' : u.Tells second w) :
    v.Tells (first ++ second) w := by
  rw [Tells, List.foldl_append, h]
  exact h'

/-- Nothing is to be told where the notice stays the same. -/
theorem tells_of_silent (h : ∀ a ∈ actions, a.isSilent = true) (hsame : w.notice = v.notice) :
    v.Tells actions w :=
  (Notice.foldl_after_of_silent h v.notice).trans hsame.symm

/-! ### Beginning and ending a wait -/

/-- No timer is armed but that of the request under way. -/
theorem erase_timers_notice {p : PendingDetail} (hpending : v.pending = some p) :
    v.notice.timers.erase p.ticket = .empty := by
  rw [notice, hpending]
  dsimp only
  split
  · rfl
  · exact SortedMap.erase_insert rfl _

/-- A wait that is given up. -/
theorem tells_abandon (v : View η) : v.Tells v.abandonActions { v with pending := none } := by
  rw [Tells, abandonActions]
  cases hpending : v.pending with
  | none => rw [notice, hpending]; rfl
  | some p => exact congrArg (Notice.mk · none) (erase_timers_notice hpending)

/-- A wait that begins, in place of another one. -/
theorem tells_ask (v : View η) (id : String) (args : RouteArgs) :
    v.Tells (v.askActions id) (v.asked id args) := by
  have hbegins : ∀ n : Notice, n.timers = .empty →
      [Action.store v.nextTicket (.get id), .showMessage loadingText,
        .scheduleTimer v.nextTicket v.loadingDelay].foldl Notice.after n =
        (v.asked id args).notice := by
    rintro ⟨timers, message⟩ rfl
    rfl
  rw [Tells, askActions, List.foldl_append]
  refine hbegins _ ?_
  cases hpending : v.pending with
  | none => rw [notice, hpending]; rfl
  | some p => exact erase_timers_notice hpending

/-! ### Routes -/

/-- Entering the list is silent. -/
theorem isSilent_listActions (v : View η) (args : RouteArgs) :
    ∀ a ∈ v.listActions args, a.isSilent = true := by
  rw [listActions]
  split <;> simp [Action.isSilent]

/-- Filtering the list is silent. -/
theorem isSilent_filterActions (v : View η) (args : RouteArgs) :
    ∀ a ∈ v.filterActions args, a.isSilent = true := by
  rw [filterActions]
  split
  · exact v.filtering.isSilent_listActions args
  · split <;> simp [Action.isSilent]

/-- Entering the list leads to what tells of the wait then, which is the same. -/
theorem tells_listed (v : View η) (args : RouteArgs) :
    v.Tells (v.listActions args) (v.listed args) := by
  refine tells_of_silent (v.isSilent_listActions args) ?_
  rw [listed]
  split <;> rfl

/-- So does filtering the list. -/
theorem tells_filterListed (v : View η) (args : RouteArgs) :
    v.Tells (v.filterActions args) (v.filterListed args) := by
  refine tells_of_silent (v.isSilent_filterActions args) ?_
  rw [filterListed, listed]
  split
  · split <;> rfl
  · split <;> rfl

/-- Entering a route leads to what tells of the wait then, also if a request is dropped. -/
theorem tells_entered (v : View η) (path : String) (h : Handler) (args : RouteArgs) :
    v.Tells (v.enterActions args) (v.entered path h args) := by
  have htoolbar : ∀ a ∈ v.toolbarActions (toolbarOf args), a.isSilent = true := by
    rw [toolbarActions]
    split <;> simp [Action.isSilent]
  have hswitched : v.Tells (v.toolbarActions (toolbarOf args)) v := tells_of_silent htoolbar rfl
  refine hswitched.append ?_
  rw [entered]
  split
  · exact v.tells_abandon
  · rfl

/-- A route with a flag leads to what tells of the wait then. -/
theorem Sound.tells_loadTransient (hv : v.Sound) {flag : Flag} (hid : args.id?.isSome = true) :
    v.Tells (v.loadTransient args flag).emitted (v.loadTransient args flag).view := by
  cases hc : v.reconciler.classify args with
  | newPage =>
      rw [loadTransient_eq_of_newPage v flag hc]
      exact (v.tells_listed args).append (v.listed args).tells_abandon
  | continuation =>
      have hlower : (args.lower flag).id?.isSome = true := by rwa [RouteArgs.id?_lower]
      obtain ⟨path, hpath⟩ := hv.exists_hash_loadConfigs hlower
      rw [loadTransient_eq_of_continuation v hc hpath]
      rfl

variable [HistoryStore η]

/-- A handler tells what becomes of the wait. -/
theorem Sound.tells_handle (hv : v.Sound) {h : Handler} (ha : h.Admits args) :
    v.Tells (v.handle args h).emitted (v.handle args h).view := by
  cases h with
  | load =>
      rw [handle, load_eq v (ha.id?_eq_none (by decide))]
      refine (v.tells_listed args).append ((v.listed args).tells_abandon.append ?_)
      rfl
  | loadFilter =>
      obtain ⟨path, hpath⟩ := hv.exists_hash_unfiltered args
      rw [handle, loadFilter_eq v hpath]
      exact (v.tells_filterListed args).append rfl
  | loadDelete =>
      obtain ⟨path, hpath⟩ : ∃ path, v.hash .load (args.only [RouteArgs.nameKey]) = .ok path :=
        hv.exists_hash_load
      rw [handle, loadDelete_eq v hpath]
      rfl
  | loadConfigs =>
      obtain ⟨id, hid⟩ := ha.exists_id rfl
      rw [handle, loadConfigs_eq v hid]
      exact (v.tells_listed args).append ((v.listed args).tells_ask id args)
  | loadNewConfigs =>
      obtain ⟨id, hid⟩ := ha.exists_id rfl
      exact hv.tells_loadTransient (by rw [hid]; rfl)
  | loadEditConfigs =>
      obtain ⟨id, hid⟩ := ha.exists_id rfl
      exact hv.tells_loadTransient (by rw [hid]; rfl)

/-- A route tells what becomes of the wait. -/
theorem Sound.tells_route (hv : v.Sound) (now : Int) (path : String) :
    v.Tells (v.step now (.routeChanged path)).emitted (v.step now (.routeChanged path)).view := by
  cases hresolve : v.table.resolve path with
  | error err =>
      rw [step_routeChanged_of_error hresolve]
      rfl
  | ok route =>
      obtain ⟨h, args⟩ := route
      have ha : h.Admits args := admits_of_resolve hv.colon hv.table hresolve
      have hentered := hv.of_entered ha path
      obtain ⟨actions, w, hhandle, -⟩ := hentered.exists_handles ha
      have htells := hentered.tells_handle ha
      rw [hhandle] at htells
      rw [View.step, onRouteChanged, hresolve]
      simp only [enterRoute_eq]
      rw [Turn.done_andThen hhandle]
      exact (v.tells_entered path h args).append htells

/-! ### All events -/

/-- A wait that is over. -/
theorem Sound.tells_detailReply (hv : v.Sound) {p : PendingDetail} (hpending : v.pending = some p)
    (now : Int) (reply : StoreReply) :
    ∃ actions w, v.onDetailReply now reply = .done actions w ∧ v.Tells actions w := by
  have hover : (⟨v.notice.timers.erase p.ticket, none⟩ : Notice) = ⟨.empty, none⟩ :=
    congrArg (Notice.mk · none) (erase_timers_notice hpending)
  rcases hv.onDetailReply_cases hpending now reply with
    ⟨e, history, favorited, rfl, hturn⟩ | ⟨text, -, hturn⟩
  · exact ⟨_, _, hturn, hover⟩
  · exact ⟨_, _, hturn, hover⟩

/-- Every event tells what becomes of the wait, but the timer that was armed for it. -/
theorem Sound.tells_step (hv : v.Sound) (now : Int) {e : Event}
    (he : ∀ timer, e ≠ .timerFired timer) : v.Tells (v.step now e).emitted (v.step now e).view := by
  have hredirect : ∀ (u : View η) (h : Handler) (args : RouteArgs),
      u.Tells (u.redirect h args).emitted (u.redirect h args).view := by
    intro u h args
    rw [redirect]
    split <;> rfl
  have houtcome := v.outcome_step now e
  generalize hstep : v.step now e = t at houtcome ⊢
  cases houtcome with
  | route => exact hstep ▸ hv.tells_route now _
  | escalated => exact absurd rfl (he _)
  | answered hpending =>
      obtain ⟨actions, w, hturn, htells⟩ := hv.tells_detailReply hpending now _
      rw [← hstep, step_of_pending hpending, hturn]
      exact htells
  | listed _ ha => rcases ha with ⟨rows, rfl⟩ | ⟨text, rfl⟩ <;> rfl
  | led => exact hredirect v _ _
  | @favored changed => cases changed <;> rfl
  | deleted => exact hredirect { v with dialog := none } _ _
  | reset =>
      change v.onSessionReset = _ at hstep
      rw [onSessionReset_eq] at hstep
      split at hstep
      · exact hstep ▸ rfl
      · exact hstep ▸ rfl
  | _ => rfl

end View

end ConfigBrowser
