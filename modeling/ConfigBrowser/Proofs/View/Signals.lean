import ConfigBrowser.Proofs.View.Pane

/-!
# Which Events Signal What

Two parts of the screen are told what state they are in, and keep it until they are told another:
the toolbar, and the mark of a favorite beside the displayed entity. The first is told by routes,
the second when an entity is shown and by the favorites' button. No handler tells either of them,
nor does any other event.

## Main results

* `View.noSignal_handle`: a handler signals nothing.
* `View.signal_of_mem_step`: which event signals what.
-/

namespace ConfigBrowser

variable {η : Type}

namespace Action

/-- The state that the toolbar is switched to. -/
def toolbar? : Action → Option ToolbarMode
  | setToolbar mode => some mode
  | _ => none

/-- Whether the displayed entity is marked as a favorite. -/
def favorite? : Action → Option Bool
  | favoriteChanged favorited => some favorited
  | _ => none

/-- Does an action tell the toolbar or the favorite's mark what state it is in? -/
def isSignal : Action → Bool
  | setToolbar _ | favoriteChanged _ => true
  | _ => false

/-- An action that signals nothing shows no buttons. -/
theorem toolbar?_of_isSignal_eq_false {a : Action} (h : a.isSignal = false) :
    a.toolbar? = none := by
  cases a <;> first | rfl | cases h

/-- An action that signals nothing marks no favorite. -/
theorem favorite?_of_isSignal_eq_false {a : Action} (h : a.isSignal = false) :
    a.favorite? = none := by
  cases a <;> first | rfl | cases h

end Action

namespace View

/-! ### Handlers -/

/-- A turn that signals nothing. -/
abbrev NoSignal (t : Turn η) : Prop := t.Within (fun _ => True) fun a => a.isSignal = false

section Handlers

variable (v : View η) (args : RouteArgs)

/-- Dropping the request under way signals nothing. -/
theorem isSignal_abandonActions : ∀ a ∈ v.abandonActions, a.isSignal = false := by
  rw [abandonActions]
  split <;> simp [Action.isSignal]

/-- Entering the list signals nothing. -/
theorem isSignal_listActions : ∀ a ∈ v.listActions args, a.isSignal = false := by
  rw [listActions]
  split <;> simp [Action.isSignal]

/-- Filtering the list signals nothing. -/
theorem isSignal_filterActions : ∀ a ∈ v.filterActions args, a.isSignal = false := by
  rw [filterActions]
  split
  · exact v.filtering.isSignal_listActions args
  · split <;> simp [Action.isSignal]

/-- Asking for an entity signals nothing. -/
theorem isSignal_askActions (id : String) : ∀ a ∈ v.askActions id, a.isSignal = false := by
  rw [askActions]
  cases v.pending <;> simp [Action.isSignal]

/-- Going to another route signals nothing. -/
theorem noSignal_redirect (h : Handler) : NoSignal (v.redirect h args) := by
  rw [redirect]
  split
  · exact .done trivial (by simp [Action.isSignal])
  · exact .fail trivial

/-- Going to the route without its flag signals nothing. -/
theorem noSignal_stripAndRedirect (flag : Flag) : NoSignal (v.stripAndRedirect flag args) := by
  simp only [stripAndRedirect]
  split
  · exact .fail trivial
  · exact .done_andThen (by simp [Action.isSignal]) (.done trivial (by simp [Action.isSignal]))

/-- A route with a flag signals nothing. -/
theorem noSignal_loadTransient (flag : Flag) : NoSignal (v.loadTransient args flag) := by
  rw [loadTransient, reconcile_transientPlan]
  refine .done_andThen (v.isSignal_listActions args) ?_
  split
  · rw [abandonDetail_eq]
    exact .done trivial (isSignal_abandonActions _)
  · exact noSignal_stripAndRedirect _ args flag

/-- The route of an entity signals nothing before the entity is there. -/
theorem noSignal_loadDetail : NoSignal (v.loadDetail args) := by
  cases hid : args.id? with
  | none =>
      rw [loadDetail, hid]
      exact .done trivial (by simp)
  | some id =>
      rw [loadDetail_eq v hid]
      exact .done trivial (v.isSignal_askActions id)

/-- The end of a session signals nothing. -/
theorem noSignal_onSessionReset : NoSignal v.onSessionReset := by
  rw [onSessionReset_eq]
  split
  · exact .done trivial (by simp [Action.isSignal])
  · exact .done trivial (by simp)

variable [HistoryStore η]

/-- Leaving an entity signals nothing. -/
theorem noSignal_leaveDetail : NoSignal v.leaveDetail := by
  rw [leaveDetail_eq]
  refine .done trivial fun a ha => ?_
  rcases List.mem_append.1 ha with ha | ha
  · exact v.isSignal_abandonActions a ha
  · rw [List.mem_singleton.1 ha]
    rfl

/-- A handler signals nothing, on any page. -/
theorem noSignal_handle (h : Handler) : NoSignal (v.handle args h) := by
  cases h with
  | load =>
      rw [handle, load, loadPlan, reconcile_listPlan]
      refine .done_andThen (v.isSignal_listActions args) ?_
      split
      · exact noSignal_leaveDetail _
      · exact .done trivial (by simp)
  | loadFilter =>
      rw [handle, loadFilter, reconcile_filterPlan]
      refine .done_andThen (v.isSignal_filterActions args) ?_
      exact (noSignal_redirect _ _ _).andThen fun w _ =>
        .done trivial (by simp [syncListFilter, Action.isSignal])
  | loadDelete =>
      rw [handle, loadDelete]
      split
      · exact .fail trivial
      · exact .done_andThen (by simp [Action.isSignal]) (.done trivial (by simp [Action.isSignal]))
  | loadConfigs =>
      rw [handle, loadConfigs, detailPlan, reconcile_listPlan]
      exact .done_andThen (v.isSignal_listActions args) (noSignal_loadDetail _ args)
  | loadNewConfigs => exact v.noSignal_loadTransient args .new
  | loadEditConfigs => exact v.noSignal_loadTransient args .edit

end Handlers

/-! ### Events -/

section Events

variable [HistoryStore η] {v : View η} {now : Int} {a : Action}

/-- A route signals by entering. -/
theorem mem_enterActions_of_signal {path : String} {h : Handler} {args : RouteArgs}
    (hresolve : v.table.resolve path = .ok (h, args))
    (ha : a ∈ (v.step now (.routeChanged path)).emitted) (hsignal : a.isSignal = true) :
    a = .setToolbar (toolbarOf args) := by
  have hnot : ∀ {actions : List Action}, (∀ a ∈ actions, a.isSignal = false) → a ∉ actions := by
    intro actions hnone hmem
    cases hsignal.symm.trans (hnone a hmem)
  rw [step, onRouteChanged, hresolve] at ha
  simp only [enterRoute_eq] at ha
  rcases Turn.mem_emitted_andThen ha with ha | ha
  · rcases List.mem_append.1 ha with ha | ha
    · rw [toolbarActions] at ha
      split at ha
      · exact absurd ha List.not_mem_nil
      · exact List.mem_singleton.1 ha
    · split at ha
      · exact absurd ha (hnot v.isSignal_abandonActions)
      · exact absurd ha List.not_mem_nil
  · exact absurd ha (hnot (noSignal_handle _ _ _).emitted)

/-- The reply to the request under way signals by showing an entity. -/
theorem signal_of_detailReply {p : PendingDetail} (hpending : v.pending = some p)
    {reply : StoreReply} (ha : a ∈ (v.step now (.storeReplied p.ticket reply)).emitted)
    (hsignal : a.isSignal = true) :
    ∃ favorited entity, a = .favoriteChanged favorited ∧ reply = .entity entity := by
  have howned : v.ownsDetail p.ticket = true := ownsDetail_iff_pending.2 ⟨p, hpending, rfl⟩
  rw [step, onStoreReplied, if_pos howned, onDetailReply, hpending] at ha
  rcases Turn.mem_emitted_andThen ha with ha | ha
  · rw [List.mem_singleton.1 ha] at hsignal
    cases hsignal
  · cases reply with
    | entity entity =>
        simp only [showEntity] at ha
        split at ha
        · exact absurd ha List.not_mem_nil
        · simp only [Turn.emitted_done, List.mem_cons, List.not_mem_nil, or_false] at ha
          rcases ha with rfl | rfl | rfl | rfl
          · cases hsignal
          · exact ⟨_, entity, rfl, rfl⟩
          · cases hsignal
          · cases hsignal
    | _ =>
        simp only [Turn.emitted_done, List.mem_cons, List.not_mem_nil, or_false] at ha
        rcases ha with rfl | rfl <;> cases hsignal

/-- The toolbar is told by routes, and the favorite's mark when an entity is shown and by the
favorites' button. -/
theorem signal_of_mem_step {e : Event} (ha : a ∈ (v.step now e).emitted)
    (hsignal : a.isSignal = true) :
    (∃ path mode, e = .routeChanged path ∧ a = .setToolbar mode) ∨
      ∃ favorited, a = .favoriteChanged favorited ∧ (e = .toolbarPressed .favorites ∨
        ∃ p entity, v.pending = some p ∧ e = .storeReplied p.ticket (.entity entity)) := by
  have hnever : ∀ {t : Turn η}, NoSignal t → a ∉ t.emitted := by
    intro t hnone hmem
    cases hsignal.symm.trans (hnone.emitted a hmem)
  have houtcome := v.outcome_step now e
  generalize hstep : v.step now e = t at houtcome ha
  cases houtcome with
  | route hresolve =>
      exact .inl ⟨_, _, rfl, mem_enterActions_of_signal hresolve (hstep ▸ ha) hsignal⟩
  | answered hpending =>
      obtain ⟨favorited, entity, rfl, rfl⟩ := signal_of_detailReply hpending (hstep ▸ ha) hsignal
      exact .inr ⟨favorited, rfl, .inr ⟨_, entity, hpending, rfl⟩⟩
  | @favored changed =>
      cases changed with
      | error err => exact absurd ha List.not_mem_nil
      | ok favorited => exact .inr ⟨favorited, List.mem_singleton.1 ha, .inl rfl⟩
  | listed _ hlisted =>
      rw [List.mem_singleton.1 ha] at hsignal
      rcases hlisted with ⟨rows, rfl⟩ | ⟨text, rfl⟩ <;> cases hsignal
  | led => exact absurd ha (hnever (v.noSignal_redirect _ _))
  | deleted => exact absurd ha (hnever (noSignal_redirect _ _ _))
  | reset => exact absurd ha (hnever (hstep ▸ v.noSignal_onSessionReset))
  | deletes | created =>
      simp only [Turn.emitted_done, List.mem_cons, List.not_mem_nil, or_false] at ha
      rcases ha with rfl | rfl <;> cases hsignal
  | ignored | lost => exact absurd ha List.not_mem_nil
  | _ =>
      rw [List.mem_singleton.1 ha] at hsignal
      cases hsignal

/-- No event but a route switches the toolbar. -/
theorem toolbar?_of_mem_step {e : Event} (hroute : ∀ path, e ≠ .routeChanged path)
    (ha : a ∈ (v.step now e).emitted) : a.toolbar? = none := by
  cases hsignal : a.isSignal with
  | false => exact Action.toolbar?_of_isSignal_eq_false hsignal
  | true =>
      rcases signal_of_mem_step ha hsignal with ⟨path, -, rfl, -⟩ | ⟨favorited, rfl, -⟩
      · exact absurd rfl (hroute path)
      · rfl

/-- The favorite's mark is told by its button and by the reply that brings an entity. -/
theorem favorite?_of_mem_step {e : Event} (hbutton : e ≠ .toolbarPressed .favorites)
    (hreply : ∀ p entity, v.pending = some p → e ≠ .storeReplied p.ticket (.entity entity))
    (ha : a ∈ (v.step now e).emitted) : a.favorite? = none := by
  cases hsignal : a.isSignal with
  | false => exact Action.favorite?_of_isSignal_eq_false hsignal
  | true =>
      rcases signal_of_mem_step ha hsignal with
        ⟨-, mode, -, rfl⟩ | ⟨-, -, rfl | ⟨p, entity, hpending, rfl⟩⟩
      · rfl
      · exact absurd rfl hbutton
      · exact absurd rfl (hreply p entity hpending)

end Events

end View

end ConfigBrowser
