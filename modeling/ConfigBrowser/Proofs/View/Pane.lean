import ConfigBrowser.Proofs.View.Deletions

/-!
# The Detail Pane

The pane of the view shows one entity at a time, for viewing or for editing, while it may wait for
another. What each event makes of it is written out, on any page: routes turn the pane or leave it,
the reply to the request under way fills it, and all other events leave it alone. Handlers that fail
on the way to a path have done their work on the pane by then.

A request under way goes back to the moment of the route that made it, and all routes since carry
its id. So what the pane waits for is what the current route selects.

## Main results

* `View.leavesPane_handle`: what a handler makes of the pane, and that it shows no entity.
* `View.paneMove_step`: what an event makes of the pane.
* `View.shows_step`: which reply shows an entity, and how.
* `View.displayed_step`: what is displayed is shown by a reply, or stays.
* `View.Course.exists_request`: the moment at which the request under way was made.
-/

namespace ConfigBrowser

variable {η : Type}

/-- Where no entity is shown, no action shows one. -/
theorem Action.Asks.hidden {actions : List Action}
    {searches : List (Option String × Option String)} {gets : List (Ticket × String)}
    {paths : List String} (h : Action.Asks actions searches gets paths) :
    ∀ a ∈ actions, a.showsEntity = false := fun a ha => by
  simpa using List.all_eq_true.1 h.shows a ha

namespace View

/-- What the detail pane shows and waits for. -/
structure Pane where
  pending : Option PendingDetail
  displayed : Option (Entity × RouteArgs)
  mode : DetailMode

/-- The detail pane of a view. -/
def pane (v : View η) : Pane := ⟨v.pending, v.displayed, v.mode⟩

/-! ### What routes make of the pane -/

/-- The pane once a route with a flag behind the id has been handled. -/
def transientPane (v : View η) (flag : Flag) (args : RouteArgs) : Pane :=
  match v.reconciler.classify args with
  | .newPage => { v.pane with pending := none }
  | .continuation => { v.pane with mode := v.modeAfter flag args }

/-- The pane once a route has been handled. -/
def paneAfter (v : View η) (args : RouteArgs) : Handler → Pane
  | .load => if args.id?.isNone then v.left.pane else v.pane
  | .loadFilter | .loadDelete => v.pane
  | .loadConfigs =>
    match args.id? with
    | some id => ((v.listed args).asked id args).pane
    | none => v.pane
  | .loadNewConfigs => v.transientPane .new args
  | .loadEditConfigs => v.transientPane .edit args

/-- Entering the list leaves the pane. -/
theorem pane_listed (v : View η) (args : RouteArgs) : (v.listed args).pane = v.pane := by
  rw [listed]
  split <;> rfl

/-- Filtering the list leaves the pane. -/
theorem pane_filterListed (v : View η) (args : RouteArgs) :
    (v.filterListed args).pane = v.pane := by
  rw [filterListed]
  split
  · exact v.filtering.pane_listed args
  · split <;> rfl

/-- Routes leave what is displayed, or display nothing. -/
theorem displayed_paneAfter (v : View η) (args : RouteArgs) (h : Handler) :
    (v.paneAfter args h).displayed = v.displayed ∨ (v.paneAfter args h).displayed = none := by
  have htransient : ∀ flag, (v.transientPane flag args).displayed = v.displayed := by
    intro flag
    rw [transientPane]
    split <;> rfl
  cases h with
  | load =>
      rw [paneAfter]
      split
      · exact .inr rfl
      · exact .inl rfl
  | loadFilter | loadDelete => exact .inl rfl
  | loadConfigs =>
      rw [paneAfter]
      split
      · exact .inl (congrArg Pane.displayed (v.pane_listed args))
      · exact .inl rfl
  | loadNewConfigs => exact .inl (htransient .new)
  | loadEditConfigs => exact .inl (htransient .edit)

/-- A turn that leaves the pane in a certain way, and shows no entity. -/
abbrev LeavesPane (p : Pane) (t : Turn η) : Prop :=
  t.Within (fun w => w.pane = p) fun a => a.showsEntity = false

/-- Going to another route leaves the pane. -/
theorem leavesPane_redirect (v : View η) (h : Handler) (args : RouteArgs) :
    LeavesPane v.pane (v.redirect h args) := by
  rw [redirect]
  split
  · exact .done rfl (by simp [Action.showsEntity])
  · exact .fail rfl

/-- A route with a flag leaves the pane but for its mode. -/
theorem leavesPane_loadTransient (v : View η) (flag : Flag) (args : RouteArgs) :
    LeavesPane (v.transientPane flag args) (v.loadTransient args flag) := by
  have hlisted := v.pane_listed args
  rw [loadTransient, reconcile_transientPlan, transientPane]
  refine .done_andThen (v.listActions_asks args).hidden ?_
  cases hc : v.reconciler.classify args with
  | newPage =>
      simp only [decide_true, if_true, abandonDetail_eq]
      refine .done ?_ (v.listed args).abandonActions_asks.hidden
      rw [← hlisted]
      rfl
  | continuation =>
      have hstays : v.listed args = { v with reconciler := ⟨some args⟩ } := by rw [listed, hc]
      simp only [reduceCtorEq, decide_false, if_false, enterEditMode_eq, hstays, stripAndRedirect,
        Bool.false_eq_true]
      split
      · exact .fail rfl
      · exact .done_andThen (by simp [Action.showsEntity])
          (.done rfl (by simp [Action.showsEntity]))

section Handle

variable [HistoryStore η] (v : View η) (args : RouteArgs)

/-- What a handler makes of the pane. It shows no entity. -/
theorem leavesPane_handle (h : Handler) : LeavesPane (v.paneAfter args h) (v.handle args h) := by
  have hlisted := v.pane_listed args
  cases h with
  | load =>
      rw [handle, load, loadPlan, reconcile_listPlan, paneAfter]
      refine .done_andThen (v.listActions_asks args).hidden ?_
      split
      · rw [leaveDetail_eq]
        refine .done rfl ?_
        have hhistory : Action.Asks [(v.listed args).historyAction] [] [] [] := ⟨rfl, rfl, rfl, rfl⟩
        exact ((v.listed args).abandonActions_asks.append hhistory).hidden
      · exact .done hlisted (by simp)
  | loadFilter =>
      rw [handle, loadFilter, reconcile_filterPlan, paneAfter]
      refine .done_andThen (v.filterActions_asks args).hidden ?_
      rw [← v.pane_filterListed args]
      exact (leavesPane_redirect _ _ _).andThen fun w hw =>
        .done hw (by simp [syncListFilter, Action.showsEntity])
  | loadDelete =>
      rw [handle, loadDelete, paneAfter]
      split
      · exact .fail rfl
      · exact .done_andThen (by simp [Action.showsEntity])
          (.done rfl (by simp [Action.showsEntity]))
  | loadConfigs =>
      rw [handle, loadConfigs, detailPlan, reconcile_listPlan, paneAfter]
      refine .done_andThen (v.listActions_asks args).hidden ?_
      split
      · next id hid =>
        rw [loadDetail_eq _ hid]
        exact .done rfl ((v.listed args).askActions_asks id).hidden
      · next hid =>
        rw [loadDetail, hid]
        exact .done hlisted (by simp)
  | loadNewConfigs => exact v.leavesPane_loadTransient .new args
  | loadEditConfigs => exact v.leavesPane_loadTransient .edit args

end Handle

/-! ### What events make of the pane -/

/-- What an event makes of the pane, with the turn it leads to. -/
inductive PaneMove (v : View η) : Event → Turn η → Prop where
  /-- The pane is left alone, as by a path that no rule matches. -/
  | kept {e : Event} {t : Turn η}
      (hroute : ∀ path, e = .routeChanged path → ∃ err, v.table.resolve path = .error err)
      (hturn : LeavesPane v.pane t) : PaneMove v e t
  /-- A route is entered and handled. -/
  | route {path : String} {h : Handler} {args : RouteArgs} {t : Turn η}
      (hresolve : v.table.resolve path = .ok (h, args))
      (hturn : LeavesPane ((v.entered path h args).paneAfter args h) t) :
      PaneMove v (.routeChanged path) t
  /-- The wait is found long. -/
  | escalated {p : PendingDetail} {t : Turn η} (hpending : v.pending = some p)
      (hturn : LeavesPane { v.pane with pending := some { p with escalated := true } } t) :
      PaneMove v (.timerFired p.ticket) t
  /-- The wait is over, with nothing to show. -/
  | missed {p : PendingDetail} {reply : StoreReply} {t : Turn η} (hpending : v.pending = some p)
      (hturn : LeavesPane { v.pane with pending := none } t) :
      PaneMove v (.storeReplied p.ticket reply) t
  /-- The wait is over, and its entity is shown as it was asked for. -/
  | shown {p : PendingDetail} {entity : Entity} {t : Turn η} (favorited : Bool)
      (hpending : v.pending = some p)
      (hview : t.view.pane = { v.pane with pending := none, displayed := some (entity, p.args) })
      (hshows : t.emitted.filter Action.showsEntity =
        [.render .detail (Template.detailData entity p.editable favorited)]) :
      PaneMove v (.storeReplied p.ticket (.entity entity)) t

section Events

variable [HistoryStore η] (v : View η) (now : Int)

/-- A route that resolves moves the pane as its handler does. -/
theorem paneMove_routeChanged {path : String} {h : Handler} {args : RouteArgs}
    (hresolve : v.table.resolve path = .ok (h, args)) :
    v.PaneMove (.routeChanged path) (v.step now (.routeChanged path)) := by
  refine .route hresolve ?_
  rw [step, onRouteChanged, hresolve]
  simp only [enterRoute_eq]
  exact .done_andThen (v.enterActions_asks args).hidden (leavesPane_handle _ _ _)

/-- The reply to the request under way moves the pane. -/
theorem paneMove_detailReply {p : PendingDetail} (hpending : v.pending = some p)
    (reply : StoreReply) :
    v.PaneMove (.storeReplied p.ticket reply) (v.step now (.storeReplied p.ticket reply)) := by
  have howned : v.ownsDetail p.ticket = true := ownsDetail_iff_pending.2 ⟨p, hpending, rfl⟩
  rw [step, onStoreReplied, if_pos howned]
  simp only [onDetailReply, hpending, Turn.andThen_done]
  cases reply with
  | entity e =>
      simp only [showEntity]
      split
      · exact .missed hpending ⟨rfl, by simp [Turn.emitted, Turn.fail, Except.map]⟩
      · exact .shown _ hpending rfl rfl
  | _ =>
      refine .missed hpending ⟨rfl, ?_⟩
      simp [Turn.emitted, Turn.done, Except.map, Action.showsEntity]

/-- The end of a session leaves the pane. -/
theorem paneMove_sessionReset : v.PaneMove .sessionReset (v.step now .sessionReset) := by
  refine .kept (by simp) ?_
  rw [step, onSessionReset_eq]
  split
  · exact .done rfl (by simp [Action.showsEntity])
  · exact .done rfl (by simp)

/-- What an event makes of the pane. -/
theorem paneMove_step (e : Event) : v.PaneMove e (v.step now e) := by
  have houtcome := v.outcome_step now e
  generalize hstep : v.step now e = t at houtcome
  cases houtcome with
  | ignored hroute => exact .kept hroute (.done rfl (by simp))
  | route hresolve => exact hstep ▸ v.paneMove_routeChanged now hresolve
  | escalated hpending => exact .escalated hpending (.done rfl (by simp [Action.showsEntity]))
  | answered hpending => exact hstep ▸ v.paneMove_detailReply now hpending _
  | listed _ ha =>
      rcases ha with ⟨rows, rfl⟩ | ⟨text, rfl⟩ <;>
        exact .kept (by simp) (.done rfl (by simp [Action.showsEntity]))
  | led hto =>
      refine .kept ?_ (leavesPane_redirect v _ _)
      rintro path rfl
      cases hto
  | @favored changed history =>
      refine .kept (by simp) ⟨rfl, ?_⟩
      cases changed <;> simp [Turn.emitted, Except.map, Action.showsEntity]
  | lost => exact .kept (by simp) (.fail rfl)
  | deleted => exact .kept (by simp) (leavesPane_redirect _ _ _)
  | reset => exact hstep ▸ v.paneMove_sessionReset now
  | _ => exact .kept (by simp) (.done rfl (by simp [Action.showsEntity]))

/-- An entity is shown by the reply to the request under way, as it was asked for. -/
theorem shows_step {v : View η} {now : Int} {e : Event} {data : Json}
    (hmem : .render .detail data ∈ (v.step now e).emitted) :
    ∃ p entity favorited, v.pending = some p ∧ e = .storeReplied p.ticket (.entity entity) ∧
      data = Template.detailData entity p.editable favorited := by
  have hmove := v.paneMove_step now e
  generalize v.step now e = t at hmove hmem
  have hnot : ∀ {q : Pane}, ¬ LeavesPane q t := fun hturn => by
    simpa [Action.showsEntity] using hturn.emitted _ hmem
  cases hmove with
  | @shown p entity _ favorited hpending hview hshows =>
      have hshown : .render .detail data ∈ t.emitted.filter Action.showsEntity :=
        List.mem_filter.2 ⟨hmem, rfl⟩
      rw [hshows, List.mem_singleton] at hshown
      exact ⟨p, entity, favorited, hpending, rfl, (Action.render.inj hshown).2⟩
  | kept _ hturn | route _ hturn | escalated _ hturn | missed _ hturn => exact absurd hturn hnot

end Events

end View

/-! ### What is displayed -/

/-- The moment of the reply that brings an entity, asked for with certain arguments, and shows
it. -/
structure Moment.Shows [HistoryStore η] (m : Moment η) (entity : Entity) (args : RouteArgs) :
    Prop where
  replied : ∃ p, m.view.pending = some p ∧ p.args = args ∧
    m.event = .storeReplied p.ticket (.entity entity)
  rendered : ∃ data, .render .detail data ∈ m.emitted

/-- What is displayed after a moment is shown at the moment, or was displayed before. -/
theorem View.displayed_step [HistoryStore η] (m : Moment η) {entity : Entity} {args : RouteArgs}
    (hdisplayed : m.after.displayed = some (entity, args)) :
    m.Shows entity args ∨ m.view.displayed = some (entity, args) := by
  obtain ⟨v, now, e⟩ := m
  have hmove := v.paneMove_step now e
  have hpane : (v.step now e).view.pane.displayed = some (entity, args) := hdisplayed
  generalize hstep : v.step now e = t at hmove hpane
  cases hmove with
  | kept hroute hturn =>
      rw [hturn.view] at hpane
      exact .inr hpane
  | @route path h routeArgs _ hresolve hturn =>
      rw [hturn.view] at hpane
      rcases (v.entered path h routeArgs).displayed_paneAfter routeArgs h with hsame | hnone
      · exact .inr (hsame.symm.trans hpane)
      · rw [hnone] at hpane
        cases hpane
  | escalated hpending hturn =>
      rw [hturn.view] at hpane
      exact .inr hpane
  | missed hpending hturn =>
      rw [hturn.view] at hpane
      exact .inr hpane
  | @shown p shown _ favorited hpending hview hshows =>
      rw [hview] at hpane
      obtain ⟨rfl, rfl⟩ := Prod.mk.inj (Option.some.inj hpane)
      refine .inl ⟨⟨p, hpending, rfl, rfl⟩, Template.detailData shown p.editable favorited, ?_⟩
      rw [Moment.emitted, Moment.turn, hstep]
      exact List.mem_of_mem_filter (hshows ▸ List.mem_singleton_self _)

/-! ### Where the request under way comes from -/

namespace Moment

/-- Does a route that resolves at the moment carry an id? -/
def Carries (m : Moment η) (id : String) : Prop :=
  ∀ route, m.route? = some route → route.2.id? = some id

instance (m : Moment η) (id : String) : Decidable (m.Carries id) :=
  decidable_of_iff (m.route?.all fun route => route.2.id? = some id)
    (by cases hroute : m.route? <;> simp [Carries, hroute])

/-- The moment of a route that makes a request for the entity with an id. The entity will be shown
for editing if that id was being edited. -/
structure Requests [HistoryStore η] (m : Moment η) (p : PendingDetail) (id : String) : Prop where
  route : m.route? = some (.loadConfigs, p.args)
  selects : p.args.id? = some id
  stored : .store p.ticket (.get id) ∈ m.emitted
  editable : p.editable = m.view.isEditing id

/-- A request that has been found long was made as it was. -/
theorem Requests.of_escalated [HistoryStore η] {m : Moment η} {p q : PendingDetail} {id : String}
    (h : m.Requests q id) (hp : p = { q with escalated := p.escalated }) : m.Requests p id := by
  rw [hp]
  exact ⟨h.route, h.selects, h.stored, h.editable⟩

end Moment

namespace View

/-- On entering a route the request under way is kept if it is for the id of the route. -/
theorem pending_entered {v : View η} {path : String} {h : Handler} {args : RouteArgs}
    {p : PendingDetail} (hp : (v.entered path h args).pending = some p) :
    v.pending = some p ∧ p.args.id? = args.id? := by
  simp only [entered] at hp
  split at hp
  · cases hp
  · next hsame => exact ⟨hp, by simpa [pendingDiffers, hp] using hsame⟩

/-- A request under way after a route is that of the route, or it was under way before. -/
theorem pending_paneAfter {v : View η} {args : RouteArgs} {h : Handler} {p : PendingDetail}
    (hp : (v.paneAfter args h).pending = some p) :
    v.pending = some p ∨ h = .loadConfigs ∧ ∃ id, args.id? = some id ∧
      p = ⟨(v.listed args).nextTicket, args, v.isEditing id, false⟩ := by
  have htransient : ∀ flag, (v.transientPane flag args).pending = some p → v.pending = some p := by
    intro flag hp
    rw [transientPane] at hp
    split at hp
    · cases hp
    · exact hp
  cases h with
  | load =>
      rw [paneAfter] at hp
      split at hp
      · cases hp
      · exact .inl hp
  | loadFilter | loadDelete => exact .inl hp
  | loadConfigs =>
      rw [paneAfter] at hp
      split at hp
      · next id hid =>
        have hmode : (v.listed args).mode = v.mode := congrArg Pane.mode (v.pane_listed args)
        obtain rfl := Option.some.inj hp
        exact .inr ⟨rfl, id, hid, by rw [isEditing, hmode, ← isEditing]⟩
      · exact .inl hp
  | loadNewConfigs => exact .inl (htransient .new hp)
  | loadEditConfigs => exact .inl (htransient .edit hp)

variable [HistoryStore η]

/-- The route of an entity asks for it. -/
theorem store_mem_step {v : View η} {path : String} {args : RouteArgs} {id : String}
    (hresolve : v.table.resolve path = .ok (.loadConfigs, args)) (hid : args.id? = some id)
    (now : Int) : .store ((v.entered path .loadConfigs args).listed args).nextTicket (.get id) ∈
      (v.step now (.routeChanged path)).emitted := by
  have hhandle := loadConfigs_eq (v.entered path .loadConfigs args) hid
  rw [step, onRouteChanged, hresolve]
  simp only [enterRoute_eq, handle]
  rw [Turn.done_andThen hhandle, Turn.emitted_done]
  refine List.mem_append_right _ (List.mem_append_right _ (List.mem_append_right _ ?_))
  exact List.mem_cons_self

/-- A request is under way after a moment: the moment has made it, or it was under way before, and a
route that has resolved carries its id. -/
theorem pending_step (m : Moment η) {p : PendingDetail} (hp : m.after.pending = some p) :
    (∃ id, m.Requests p id) ∨ ∃ q, m.view.pending = some q ∧
      p = { q with escalated := p.escalated } ∧
      ∀ route, m.route? = some route → route.2.id? = p.args.id? := by
  obtain ⟨v, now, e⟩ := m
  have hmove := v.paneMove_step now e
  have hpane : (v.step now e).view.pane.pending = some p := hp
  generalize v.step now e = t at hmove hpane
  cases hmove with
  | kept hroute hturn =>
      rw [hturn.view] at hpane
      refine .inr ⟨p, hpane, rfl, fun route hsome => ?_⟩
      cases e with
      | routeChanged path =>
          obtain ⟨err, herr⟩ := hroute path rfl
          rw [Moment.route?_of_error now herr] at hsome
          cases hsome
      | _ => cases hsome
  | @route path h args _ hresolve hturn =>
      rw [hturn.view] at hpane
      have hroute := Moment.route?_of_resolve now hresolve
      rcases pending_paneAfter hpane with hkept | ⟨rfl, id, hid, rfl⟩
      · obtain ⟨hbefore, hsame⟩ := pending_entered hkept
        refine .inr ⟨p, hbefore, rfl, fun route hsome => ?_⟩
        obtain rfl := Option.some.inj (hroute.symm.trans hsome)
        exact hsame.symm
      · exact .inl ⟨id, hroute, hid, store_mem_step hresolve hid now, rfl⟩
  | @escalated q _ hpending hturn =>
      rw [hturn.view] at hpane
      obtain rfl := Option.some.inj hpane
      exact .inr ⟨q, hpending, rfl, fun route hsome => by cases hsome⟩
  | missed _ hturn =>
      rw [hturn.view] at hpane
      cases hpane
  | shown _ _ hview =>
      rw [hview] at hpane
      cases hpane

/-- The request under way goes back to the route that made it, and all routes since carry its id. -/
theorem Course.exists_request {start v : View η} {ms : List (Moment η)} (h : Course start ms v)
    (hstart : start.pending = none) {p : PendingDetail} (hp : v.pending = some p) :
    ∃ before m after id, ms = before ++ m :: after ∧ m.Requests p id ∧
      ∀ n ∈ m :: after, n.Carries id := by
  induction h generalizing p with
  | start => simp [hstart] at hp
  | @step ms v h now e ih =>
      rcases pending_step ⟨v, now, e⟩ hp with ⟨id, hrequests⟩ | ⟨q, hq, hsame, hcarries⟩
      · refine ⟨ms, _, [], id, rfl, hrequests, fun n hn route hroute => ?_⟩
        obtain rfl := List.mem_singleton.1 hn
        obtain rfl := Option.some.inj (hrequests.route.symm.trans hroute)
        exact hrequests.selects
      · obtain ⟨before, m, after, id, rfl, hrequests, hsince⟩ := ih hq
        have hrequests := hrequests.of_escalated hsame
        refine ⟨before, m, after ++ [⟨v, now, e⟩], id, by simp, hrequests, fun n hn => ?_⟩
        rcases List.mem_append.1 (List.cons_append ▸ hn) with hn | hn
        · exact hsince n hn
        · obtain rfl := List.mem_singleton.1 hn
          exact fun route hroute => (hcarries route hroute).trans hrequests.selects

/-- While all routes since one that resolved carry an id, that id is selected. -/
theorem Course.selects_of_carries {start v : View η} {before after : List (Moment η)}
    {m : Moment η} {route : Handler × RouteArgs} {id : String}
    (h : Course start (before ++ m :: after) v) (hm : m.route? = some route)
    (hcarries : ∀ n ∈ m :: after, n.Carries id) : v.currentArgs.id? = some id := by
  have hlast : lastRoute (before ++ m :: after) = lastRoute (m :: after) := by
    rw [lastRoute, List.filterMap_append, List.filterMap_cons_some hm,
      List.getLast?_append_of_ne_nil _ (List.cons_ne_nil _ _), lastRoute,
      List.filterMap_cons_some hm]
  obtain ⟨last, hsome⟩ : ∃ last, lastRoute (m :: after) = some last := by
    rw [lastRoute, List.filterMap_cons_some hm]
    exact ⟨_, List.getLast?_eq_getLast_of_ne_nil (List.cons_ne_nil _ _)⟩
  obtain ⟨n, hn, hroute⟩ := List.mem_filterMap.1 (List.mem_of_getLast? hsome)
  rw [h.currentArgs_eq, hlast, hsome, Option.map_some, Option.getD_some]
  exact hcarries n hn last hroute

/-- What the view waits for is the entity that the current route selects. -/
theorem Course.pending_selected {start v : View η} {ms : List (Moment η)} (h : Course start ms v)
    (hstart : start.pending = none) {p : PendingDetail} (hp : v.pending = some p) :
    ∃ id, p.args.id? = some id ∧ v.currentArgs.id? = some id := by
  obtain ⟨before, m, after, id, rfl, hrequests, hcarries⟩ := h.exists_request hstart hp
  exact ⟨id, hrequests.selects, h.selects_of_carries hrequests.route hcarries⟩

end View

end ConfigBrowser
