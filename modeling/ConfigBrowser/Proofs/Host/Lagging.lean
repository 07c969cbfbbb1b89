import ConfigBrowser.Host.Trace
import ConfigBrowser.Proofs.Host.Effects
import ConfigBrowser.Proofs.View.Alike

/-!
# A Host That Lags Behind

Of two hosts with equal stores one has its requests answered at once, and the other holds them back.
They handle the same routes. The one that holds back lags behind the other: replies that the other
has handled are still to come, of which only those to the last search and to the request under way
count.

The host that does not hold back has handled all replies whenever it comes to a route, since a turn
searches before it goes anywhere, and asks for an entity only if it goes nowhere. So a route finds
views that differ in nothing but the search that is waited for, which no route looks at.

## Main results

* `Host.Lags.turn`: a turn that only reads leaves a host that lags behind lagging behind.
* `Host.Leads.drain`: and so do all routes that it leads to, which come to an end.
* `Host.Lags.drain`: an event of which a turn only reads is handled to the end.
-/

namespace ConfigBrowser

namespace Host

/-! ### Lagging -/

/-- The rows that the list of a host shows once the search that is waited for is answered. -/
inductive Listed (k : Browser) : Option (List EntitySummary) → Prop where
  | shown (hsearch : k.view.latestSearch = none) : Listed k (shownRows k.log)
  | due {ticket : Ticket} {query : SearchQuery} (hsearch : k.view.latestSearch = some ticket)
      (hheld : k.inFlight.get? ticket = some (.search query)) :
      Listed k (some (k.store.listing query))

/-- The view and the surroundings of a host once the request under way is answered, whatever the
clock reads then. -/
inductive Loaded (k : Browser) : View History → Surroundings → Prop where
  | shown {v : View History} (hpending : k.view.pending = none)
      (halike : v.Alike (fun _ _ => True) k.view) : Loaded k v k.surroundings
  | due {v w : View History} {p : PendingDetail} {id : String} {now : Int} {actions : List Action}
      (hpending : k.view.pending = some p) (hheld : k.inFlight.get? p.ticket = some (.get id))
      (hturn : k.view.onDetailReply now (RemoteStore.execute k.store (.get id)).1 =
        .done actions w)
      (halike : v.Alike (fun _ _ => True) w) :
      Loaded k v (actions.foldl Surroundings.after k.surroundings)

/-- Two hosts with equal stores, of which the second holds requests back that only read. -/
structure Paired (h k : Browser) : Prop where
  orderly : h.view.Orderly
  orderly' : k.view.Orderly
  deferred : h.deferred = false
  deferred' : k.deferred = true
  store : k.store = h.store
  held : ∀ ticket r, k.inFlight.get? ticket = some r →
    r.reads = true ∧ ticket.number ≤ k.view.lastTicket

/-- The host that does not hold back has no search to wait for, and the list of the other will show
what its list shows. -/
structure Level (h k : Browser) : Prop extends Paired h k where
  latestSearch : h.view.latestSearch = none
  rows : k.Listed (shownRows h.log)

/-- A host that holds requests back lags behind one that does not: with the replies to the requests
it holds, it comes to the same. -/
structure Lags (h k : Browser) : Prop extends Level h k where
  pending : h.view.pending = none
  loaded : k.Loaded h.view h.surroundings

/-- The host that does not hold back has nothing left to handle but the last errand of a turn. -/
structure Aiming (h k : Browser) (aims : List Action) (next : Option String) : Prop
    extends Level h k where
  alike : h.view.Alike (fun _ _ => True) k.view
  surroundings : k.surroundings = h.surroundings
  errand : h.view.Aims aims next
  queue : h.queue = aims.filterMap (Action.report? h.store)
  sent : ∀ ticket r, .store ticket r ∈ aims → k.inFlight.get? ticket = some r

/-- Both hosts go to the next route, if there is one. -/
structure Leads (h k : Browser) (next : Option String) : Prop extends Lags h k where
  queue : h.queue = next.toList.map .routeChanged
  queue' : k.queue = next.toList.map .routeChanged
  pending' : next ≠ none → k.view.pending = none

/-- What the list will show is a matter of the search that is waited for, the request for it, the
store, and the rows shown so far. -/
theorem Listed.congr {k k' : Browser} {rows : Option (List EntitySummary)} (h : k.Listed rows)
    (hsearch : k'.view.latestSearch = k.view.latestSearch)
    (hheld : ∀ ticket query, k.view.latestSearch = some ticket →
      k.inFlight.get? ticket = some (.search query) →
      k'.inFlight.get? ticket = some (.search query))
    (hstore : k'.store = k.store) (hrows : shownRows k'.log = shownRows k.log) :
    k'.Listed rows := by
  cases h with
  | shown hnone => exact hrows ▸ .shown (hsearch.trans hnone)
  | due hsome hsent => exact hstore ▸ .due (hsearch.trans hsome) (hheld _ _ hsome hsent)

/-! ### A turn of both hosts -/

/-- Requests that read leave the store in memory as it is. -/
theorem execute_of_reads {store : MemoryStore} {r : StoreRequest} (h : r.reads = true) :
    (RemoteStore.execute store r).2 = store := by
  cases r with
  | get _ | search _ => rfl
  | put _ _ | delete _ => cases h

/-- A host with an orderly view has one after every event. -/
theorem orderly_handled {h : Browser} (horderly : h.view.Orderly) (e : Event)
    (rest : List Event) : (h.handled e rest).view.Orderly := by
  rw [handled_view]
  exact horderly.step h.clock e

/-- A host whose list has been filled. -/
def listing (h : Browser) (rows : List EntitySummary) (rest : List Event) : Browser :=
  { h with
    view := { h.view with latestSearch := none }
    queue := rest
    screen := h.screen ++ [.replaceList rows]
    log := h.log ++ [.replaceList rows] }

/-- The listing that answers the last search fills the list, and does no more. -/
theorem handled_listing {h : Browser} (horderly : h.view.Orderly) {ticket : Ticket}
    (hsearch : h.view.latestSearch = some ticket) (rows : List EntitySummary)
    (rest : List Event) :
    h.handled (.storeReplied ticket (.listing rows)) rest = h.listing rows rest := by
  rw [handled_eq (horderly.step_listing hsearch h.clock rows)]
  rfl

section Turn

variable {h : Browser} {e : Event} {actions : List Action} {v w : View History}
  {next : Option String}

/-- The host that does not hold back has the replies wait. -/
theorem queue_handled_of_errands (hdeferred : h.deferred = false)
    (hturn : h.view.step h.clock e = .done actions v) (herrands : h.view.Errands actions v next) :
    (h.handled e []).traffic =
      ⟨h.store, false, actions.filterMap (Action.report? h.store), h.inFlight⟩ := by
  rw [traffic_handled hturn, Traffic.foldl_after_immediate hdeferred fun ticket r ha =>
    execute_of_reads (herrands.reads ha)]
  rw [List.nil_append, traffic, hdeferred]

/-- The host that holds back holds the requests. -/
theorem traffic_handled_of_deferred {k : Browser} (hdeferred : k.deferred = true)
    (hturn : k.view.step k.clock e = .done actions w) :
    (k.handled e []).traffic =
      ⟨k.store, true, (actions.filterMap Action.path?).map .routeChanged,
        actions.foldl Action.hold k.inFlight⟩ := by
  rw [traffic_handled hturn, Traffic.foldl_after_deferred hdeferred, List.nil_append, traffic,
    hdeferred]

end Turn

section Paired

variable {h k : Browser} (hp : Paired h k) {e : Event} {actions : List Action} {v w : View History}
  {next : Option String}
include hp

section Held

variable (hturn : k.view.step k.clock e = .done actions w)
include hturn

/-- A host that holds requests back holds those of the actions as well. -/
theorem Paired.inFlight_handled :
    (k.handled e []).inFlight = actions.foldl Action.hold k.inFlight :=
  congrArg Traffic.inFlight (traffic_handled_of_deferred hp.deferred' hturn)

omit hp in
/-- A turn that succeeds hands out tickets in order. -/
theorem advances_of_done : k.view.Advances (Action.tickets actions) w := by
  have hadvances := k.view.advances_step k.clock e
  rwa [hturn] at hadvances

/-- The requests of a turn are held after it. -/
theorem Paired.get?_handled_of_mem {ticket : Ticket} {r : StoreRequest}
    (hmem : .store ticket r ∈ actions) : (k.handled e []).inFlight.get? ticket = some r := by
  rw [hp.inFlight_handled hturn]
  exact Action.get?_foldl_hold_of_mem hmem (advances_of_done hturn).increasing _

/-- What is held before a turn is held after it. -/
theorem Paired.get?_handled_of_held {ticket : Ticket} {r : StoreRequest}
    (hheld : k.inFlight.get? ticket = some r) :
    (k.handled e []).inFlight.get? ticket = some r := by
  have hnot : ticket ∉ Action.tickets actions := fun hmem =>
    absurd ((advances_of_done hturn).fresh ticket hmem).1 (not_lt.2 (hp.held ticket r hheld).2)
  rw [hp.inFlight_handled hturn, Action.get?_foldl_hold_of_not_mem hnot, hheld]

/-- After a turn that only reads, only requests that read are held. -/
theorem Paired.held_handled (herrands : h.view.Errands actions v next) (ticket : Ticket)
    (r : StoreRequest) (hheld : (k.handled e []).inFlight.get? ticket = some r) :
    r.reads = true ∧ ticket.number ≤ w.lastTicket := by
  rw [hp.inFlight_handled hturn] at hheld
  rcases Action.get?_foldl_hold hheld with hold | hmem
  · obtain ⟨hreads, hissued⟩ := hp.held ticket r hold
    exact ⟨hreads, hissued.trans (advances_of_done hturn).le⟩
  · exact ⟨herrands.reads hmem,
      ((advances_of_done hturn).fresh ticket (List.mem_filterMap.2 ⟨_, hmem, rfl⟩)).2⟩

/-- What the list will show stays the same in a turn without a search. -/
theorem Paired.listed_handled (hsearch : w.latestSearch = k.view.latestSearch)
    (hrows : actions.filterMap Action.rows? = []) {rows : Option (List EntitySummary)}
    (hlisted : k.Listed rows) : (k.handled e []).Listed rows :=
  hlisted.congr (by rw [view_handled hturn, hsearch])
    (fun _ _ _ => hp.get?_handled_of_held hturn)
    (congrArg Traffic.store (traffic_handled_of_deferred hp.deferred' hturn))
    (shownRows_handled hturn hrows [])

end Held

section Handled

variable (hturn : h.view.step h.clock e = .done actions v)
  (hturn' : k.view.step k.clock e = .done actions w) (herrands : h.view.Errands actions v next)
include hturn hturn' herrands

omit hturn' in
/-- The store is left as it is by requests that only read. -/
theorem Paired.store_handled : (h.handled e []).store = h.store :=
  congrArg Traffic.store (queue_handled_of_errands hp.deferred hturn herrands)

/-- A turn that only reads leaves the stores equal. -/
theorem Paired.handled : Paired (h.handled e []) (k.handled e []) where
  orderly := orderly_handled hp.orderly e []
  orderly' := orderly_handled hp.orderly' e []
  deferred := congrArg Traffic.deferred (queue_handled_of_errands hp.deferred hturn herrands)
  deferred' := congrArg Traffic.deferred (traffic_handled_of_deferred hp.deferred' hturn')
  store := by
    have htraffic' := traffic_handled_of_deferred hp.deferred' hturn'
    rw [hp.store_handled hturn herrands, ← hp.store]
    exact congrArg Traffic.store htraffic'
  held := by
    rw [view_handled hturn']
    exact hp.held_handled hturn' herrands

end Handled

omit e actions v w next in
/-- Filling the list of the host that does not hold back. -/
theorem Paired.listing {ticket : Ticket} (hsearch : h.view.latestSearch = some ticket)
    (rows : List EntitySummary) (rest : List Event) : Paired (h.listing rows rest) k where
  orderly := by
    have horderly := hp.orderly.step h.clock (.storeReplied ticket (.listing rows))
    rwa [hp.orderly.step_listing hsearch] at horderly
  orderly' := hp.orderly'
  deferred := hp.deferred
  deferred' := hp.deferred'
  store := hp.store
  held := hp.held

end Paired

section Level

variable {h k : Browser} (hl : Level h k) {e : Event} {actions : List Action} {v w : View History}
  {next : Option String}
include hl

/-- The host that does not hold back has its search answered before anything else. -/
theorem Level.search (hqueue : h.queue = [e])
    (hturn : h.view.step h.clock e = .done actions v)
    (hturn' : k.view.step k.clock e = .done actions w)
    (halike : v.Alike (fun a b => b = a.or k.view.latestSearch) w)
    (hsurroundings : k.surroundings = h.surroundings) (herrands : h.view.Errands actions v next) :
    ∃ aims n h', n ≤ 2 ∧ (∀ fuel, h.drain (fuel + n) = h'.drain fuel) ∧
      Aiming h' (k.handled e []) aims next := by
  have hpaired := hl.handled hturn hturn' herrands
  have hview : (h.handled e []).view = v := view_handled hturn []
  have hview' : (k.handled e []).view = w := view_handled hturn' []
  have hsame : (k.handled e []).surroundings = (h.handled e []).surroundings := by
    rw [surroundings_handled hturn, surroundings_handled hturn', hsurroundings]
  have hstore := hl.store_handled hturn herrands
  have hrows := herrands.rows
  have htraffic := queue_handled_of_errands hl.deferred hturn herrands
  have hsearch' : w.latestSearch = v.latestSearch.or k.view.latestSearch :=
    halike.waits_latestSearch
  obtain ⟨hactions, hsearches, haims⟩ := herrands
  rename_i searches aims
  have hsent : ∀ ticket r, .store ticket r ∈ searches ++ aims →
      (k.handled e []).inFlight.get? ticket = some r := fun ticket r ha =>
    hl.get?_handled_of_mem hturn' (List.mem_filter.1 (hactions ▸ ha)).1
  have hevents : (h.handled e []).queue =
      (searches ++ aims).filterMap (Action.report? h.store) := by
    rw [← hactions, Action.filterMap_report?_filter_matters]
    exact congrArg Traffic.queue htraffic
  cases hsearches with
  | none hsearch =>
      have hnone : v.latestSearch = none := hsearch.trans hl.latestSearch
      have hlisted : (k.handled e []).Listed (shownRows (h.handled e []).log) := by
        rw [shownRows_handled hturn hrows]
        exact hl.listed_handled hturn' (by rw [hsearch', hnone, Option.none_or]) hrows hl.rows
      exact ⟨aims, 1, h.handled e [], by decide, drain_of_done hturn hqueue,
        ⟨hpaired, hview ▸ hnone, hlisted⟩, hview ▸ hview' ▸ halike.of_waits trivial, hsame,
        hview ▸ haims, hstore ▸ hevents, hsent⟩
  | @one ticket query hsearch =>
      have hwaits : (h.handled e []).view.latestSearch = some ticket := hview ▸ hsearch
      have hnext : (h.handled e []).queue = .storeReplied ticket (.listing (h.store.listing query))
          :: aims.filterMap (Action.report? h.store) := hevents
      have hreply :=
        hpaired.orderly.step_listing hwaits (h.handled e []).clock (h.store.listing query)
      have hlisting := handled_listing hpaired.orderly hwaits (h.store.listing query)
        (aims.filterMap (Action.report? h.store))
      have hlisted : (k.handled e []).Listed (some (h.store.listing query)) := by
        rw [← hstore, ← hpaired.store]
        exact .due (by rw [hview', hsearch', hsearch]; rfl) (hsent _ _ List.mem_cons_self)
      have hviews : View.Alike (fun _ _ => True)
          { (h.handled e []).view with latestSearch := none } (h.handled e []).view :=
        .intro rfl trivial
      refine ⟨aims, 2, (h.handled e []).listing (h.store.listing query)
        (aims.filterMap (Action.report? h.store)), le_rfl, fun fuel => ?_,
        ⟨hpaired.listing hwaits _ _, rfl, shownRows_append_replaceList _ _ ▸ hlisted⟩,
        hviews.trans (hview ▸ hview' ▸ halike) trivial, hsame, haims.congr (hview ▸ rfl),
        congrArg (fun store => aims.filterMap (Action.report? store)) hstore.symm,
        fun ticket r ha => hsent ticket r (List.mem_cons_of_mem _ ha)⟩
      rw [drain_of_done hturn hqueue, drain_of_done hreply hnext, hlisting]

omit hl e actions v w in
/-- Then the host that does not hold back has its request for an entity answered, if it goes
nowhere. -/
theorem Aiming.aim {aims : List Action} (ha : Aiming h k aims next) :
    ∃ n h', n ≤ 1 ∧ (∀ fuel, h.drain (fuel + n) = h'.drain fuel) ∧ Lags h' k ∧
      h'.queue = next.toList.map .routeChanged ∧ (next ≠ none → k.view.pending = none) := by
  obtain ⟨hl, halike, hsame, haims, hqueue, hsent⟩ := ha
  cases haims with
  | stay hpending =>
      have hloaded := Loaded.shown (halike.pending_eq.trans hpending) halike
      exact ⟨0, h, Nat.zero_le 1, fun _ => rfl, ⟨hl, hpending, hsame ▸ hloaded⟩, hqueue, by simp⟩
  | lead hpending =>
      have hnone := halike.pending_eq.trans hpending
      exact ⟨0, h, Nat.zero_le 1, fun _ => rfl, ⟨hl, hpending, hsame ▸ Loaded.shown hnone halike⟩,
        hqueue, fun _ => hnone⟩
  | @ask p id hpending =>
      obtain ⟨actions, v, hload, hfilter, hover, hsearch, -⟩ :=
        hl.orderly.sound.matters_onDetailReply (by rw [hpending]; rfl) h.clock
          (RemoteStore.execute h.store (.get id)).1
      have hwaits : h.queue =
          [.storeReplied p.ticket (RemoteStore.execute h.store (.get id)).1] := hqueue
      have hasked := hsent p.ticket (.get id) (List.mem_singleton_self _)
      rw [← hl.store] at hload hwaits
      generalize hreply : (RemoteStore.execute k.store (.get id)).1 = reply at hload hwaits
      have hturn := (View.step_of_pending hpending h.clock reply).trans hload
      obtain ⟨hview, htraffic, hrows⟩ := handled_of_filter_eq_nil hturn hfilter []
      obtain ⟨w, hload', halike'⟩ := Turn.Alike.exists_done (hload ▸
        halike.onDetailReply hl.orderly.file hl.orderly'.file h.clock h.clock reply)
      have hloaded := Loaded.due (halike.pending_eq.trans hpending) hasked (hreply ▸ hload') halike'
      have hpaired : Paired (h.handled (.storeReplied p.ticket reply) []) k :=
        { hl with
          orderly := orderly_handled hl.orderly _ []
          deferred := (congrArg Traffic.deferred htraffic).trans hl.deferred
          store := hl.store.trans (congrArg Traffic.store htraffic).symm }
      refine ⟨1, h.handled (.storeReplied p.ticket reply) [], le_rfl, drain_of_done hturn hwaits,
        ⟨⟨hpaired, by rw [hview, hsearch, hl.latestSearch], hrows ▸ hl.rows⟩,
          by rw [hview, hover], ?_⟩, congrArg Traffic.queue htraffic, by simp⟩
      rw [hview, surroundings_handled hturn, ← hsame]
      exact hloaded

end Level

/-! ### Routes -/

/-- A host that waits for no entity has what surrounds it at once. -/
theorem Loaded.of_pending {k : Browser} {v : View History} {s : Surroundings} (h : k.Loaded v s)
    (hpending : k.view.pending = none) :
    v.Alike (fun _ _ => True) k.view ∧ k.surroundings = s := by
  cases h with
  | shown _ halike => exact ⟨halike, rfl⟩
  | due hsome => cases hpending.symm.trans hsome

/-- Two hosts of which the second lags behind. No event waits, nor does a dialog wait for a
change. -/
structure Behind (h k : Browser) : Prop extends Lags h k where
  queue : h.queue = []
  queue' : k.queue = []
  quiet : k.view.awaitsChange = false

/-- Two hosts handle all events that wait, the one that does not hold back in at most three times as
many steps as the other. -/
structure Finishes (n : Nat) (h k h' k' : Browser) : Prop where
  drain : ∀ fuel, 3 * n ≤ fuel → h.drain fuel = (.ok (), h')
  drain' : ∀ fuel, n ≤ fuel → k.drain fuel = (.ok (), k')
  behind : Behind h' k'

section Lags

variable {h k : Browser} (hl : Lags h k) {e : Event} {actions : List Action} {v w : View History}
  {next : Option String}
include hl

/-- A turn that only reads leaves a host that lags behind lagging behind. -/
theorem Lags.turn (hpending : k.view.pending = none) (hqueue : h.queue = [e])
    (hturn : h.view.step h.clock e = .done actions v)
    (hturn' : k.view.step k.clock e = .done actions w)
    (halike : v.Alike (fun a b => b = a.or k.view.latestSearch) w)
    (herrands : h.view.Errands actions v next) :
    ∃ n h', n ≤ 3 ∧ (∀ fuel, h.drain (fuel + n) = h'.drain fuel) ∧
      Leads h' (k.handled e []) next := by
  obtain ⟨-, hsame⟩ := hl.loaded.of_pending hpending
  obtain ⟨aims, n, h₁, hn, hdrain, haiming⟩ :=
    hl.toLevel.search hqueue hturn hturn' halike hsame herrands
  obtain ⟨m, h₂, hm, hdrain', hlags, hqueue₂, hnone⟩ := haiming.aim
  refine ⟨m + n, h₂, by omega, fun fuel => ?_, hlags, hqueue₂, ?_, hnone⟩
  · rw [← Nat.add_assoc, hdrain, hdrain']
  · rw [← herrands.paths]
    exact congrArg Traffic.queue (traffic_handled_of_deferred hl.deferred' hturn')

/-- A turn, and then all routes that it leads to. -/
theorem Lags.drain_of_turn {n : Nat} (hpending : k.view.pending = none) (hqueue : h.queue = [e])
    (hqueue' : k.queue = [e]) (hturn : h.view.step h.clock e = .done actions v)
    (hturn' : k.view.step k.clock e = .done actions w)
    (halike : v.Alike (fun a b => b = a.or k.view.latestSearch) w)
    (herrands : h.view.Errands actions v next)
    (hrest : ∀ h₁, Leads h₁ (k.handled e []) next →
      ∃ h' k', Finishes n h₁ (k.handled e []) h' k') :
    ∃ h' k', Finishes (n + 1) h k h' k' := by
  obtain ⟨m, h₁, hm, hdrain, hleads⟩ := hl.turn hpending hqueue hturn hturn' halike herrands
  obtain ⟨h', k', hends, hends', hbehind⟩ := hrest h₁ hleads
  refine ⟨h', k', fun fuel hfuel => ?_, fun fuel hfuel => ?_, hbehind⟩
  · obtain ⟨fuel, rfl⟩ : ∃ rest, fuel = rest + m := ⟨fuel - m, by omega⟩
    rw [hdrain, hends fuel (by omega)]
  · obtain ⟨fuel, rfl⟩ : ∃ rest, fuel = rest + 1 := ⟨fuel - 1, by omega⟩
    rw [drain_of_done hturn' hqueue', hends' fuel (by omega)]

omit hl in
/-- With no further route there is nothing left to handle. -/
theorem Leads.finishes (hl : Leads h k none) (hquiet : k.view.awaitsChange = false) (n : Nat) :
    Finishes n h k h k :=
  ⟨fun fuel _ => drain_nil hl.queue fuel, fun fuel _ => drain_nil hl.queue' fuel,
    ⟨hl.toLags, hl.queue, hl.queue', hquiet⟩⟩

omit hl e actions v w in
/-- A route, and all routes that it leads to. Each of them has a lower rank than the one before. -/
theorem Leads.drain {n : Nat} (hl : Leads h k next) (hquiet : k.view.awaitsChange = false)
    (hrank : ∀ path ∈ next, k.view.rank path < n) : ∃ h' k', Finishes n h k h' k' := by
  induction n generalizing h k next with
  | zero =>
      cases next with
      | none => exact ⟨h, k, hl.finishes hquiet 0⟩
      | some path => exact absurd (hrank path rfl) (Nat.not_lt_zero _)
  | succ n ih =>
      cases next with
      | none => exact ⟨h, k, hl.finishes hquiet (n + 1)⟩
      | some path =>
          have hnone := hl.pending' (by simp)
          obtain ⟨hviews, -⟩ := hl.loaded.of_pending hnone
          obtain ⟨actions, v, hturn⟩ :=
            hl.orderly.exists_done (e := .routeChanged path) (by simp) h.clock
          have hlater : h.view.Alike (fun a b => b = a.or k.view.latestSearch) k.view :=
            hviews.of_waits (by rw [hl.latestSearch, Option.none_or])
          have hturns : (h.view.step h.clock (.routeChanged path)).Alike _
              (k.view.step k.clock (.routeChanged path)) :=
            hlater.onRouteChanged (fun _ => rfl) path
          rw [hturn] at hturns
          obtain ⟨w, hturn', halike⟩ := hturns.exists_done
          obtain ⟨next, herrands⟩ : ∃ next, h.view.Errands actions v next := by
            rcases hl.orderly.sound.errands_step hl.pending hl.latestSearch hturn with
              hgoes | ⟨dialog, decision, r, he, -⟩
            · exact hgoes
            · cases he
          have hquiet' : (k.handled (.routeChanged path) []).view.awaitsChange = false := by
            rw [handled_view]
            exact View.awaitsChange_step_eq_false (by simp) hquiet
          have hrank' : ∀ path' ∈ next,
              (k.handled (.routeChanged path) []).view.rank path' < n := by
            intro path' hpath'
            have hnavigates :
                .navigate path' ∈ (k.view.step k.clock (.routeChanged path)).emitted :=
              hturn' ▸ herrands.navigate_mem hpath'
            have hless := hl.orderly'.sound.rank_lt_of_navigate hnavigates
            have hrank := hrank path rfl
            rw [handled_view, hl.orderly'.sound.rank_step]
            omega
          exact hl.drain_of_turn hnone hl.queue hl.queue' hturn hturn' halike herrands
            fun h₁ hleads => ih hleads hquiet' hrank'

/-- An event that both views handle alike, and all routes that it leads to. -/
theorem Lags.drain (hpending : k.view.pending = none) (hqueue : h.queue = [e])
    (hqueue' : k.queue = [e]) (hturn : h.view.step h.clock e = .done actions v)
    (hturn' : k.view.step k.clock e = .done actions w)
    (halike : v.Alike (fun a b => b = a.or k.view.latestSearch) w)
    (herrands : h.view.Errands actions v next) (hquiet : w.awaitsChange = false) :
    ∃ h' k', Finishes 6 h k h' k' := by
  have hquiet' : (k.handled e []).view.awaitsChange = false := view_handled hturn' [] ▸ hquiet
  refine hl.drain_of_turn hpending hqueue hqueue' hturn hturn' halike herrands fun h₁ hleads =>
    hleads.drain hquiet' fun path _ => ?_
  exact Nat.lt_succ_of_le (hleads.orderly'.sound.rank_le path)

end Lags

end Host

end ConfigBrowser
