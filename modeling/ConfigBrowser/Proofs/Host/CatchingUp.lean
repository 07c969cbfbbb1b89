import ConfigBrowser.Proofs.Host.Lagging

/-!
# Catching Up

A host that lags behind catches up with every request that it releases, in whatever order. The reply
to the request under way brings the entity that the other host has shown already, the reply to the
last search brings its rows, and no other reply is waited for.

A decision that asks for a change in the store is different. The host holds nothing but that request
then, and only lags behind once it is released.

## Main results

* `Host.Behind.release`: a release leaves a host that lags behind lagging behind.
* `Host.Trails.behind`, `Host.Trails.exists_released`: all held requests can be released, and the
  host has caught up then.
-/

namespace ConfigBrowser

namespace Host

/-! ### Dispatching a reply -/

/-- An event that the view handles without leaving others behind is dispatched at one go. -/
theorem dispatch_of_done {h : Browser} {e : Event} {actions : List Action} {w : View History}
    (hqueue : h.queue = []) (hturn : h.view.step h.clock e = .done actions w)
    (hidle : (h.handled e []).queue = []) : h.dispatch e = (.ok (), h.handled e []) := by
  have hfirst : (h.enqueue e).queue = [e] := by
    rw [enqueue, hqueue]
    rfl
  have hsame : (h.enqueue e).view.step (h.enqueue e).clock e = .done actions w := hturn
  rw [dispatch, stepLimit, drain_of_done hsame hfirst, handled_enqueue, drain_nil hidle]

/-- A held request is released, and the reply of the store dispatched. -/
theorem release_of_dispatch {k k' : Browser} {ticket : Ticket} {r : StoreRequest}
    (hheld : k.inFlight.get? ticket = some r)
    (hdispatch : (k.released ticket r).dispatch
      (.storeReplied ticket (RemoteStore.execute k.store r).1) = (.ok (), k')) :
    k.release ticket = (.ok true, k') := by
  simp only [release, hheld]
  exact congrArg (fun d : Except Error Unit × Browser => (d.1.map fun _ => true, d.2)) hdispatch

/-! ### What the view waits for is held -/

/-- The request under way of a host that waits for an entity is held. -/
theorem Loaded.of_pending_eq_some {k : Browser} {v : View History} {s : Surroundings}
    (h : k.Loaded v s) {p : PendingDetail} (hpending : k.view.pending = some p) :
    ∃ id now actions w, k.inFlight.get? p.ticket = some (.get id) ∧
      k.view.onDetailReply now (RemoteStore.execute k.store (.get id)).1 = .done actions w ∧
      v.Alike (fun _ _ => True) w ∧ actions.foldl Surroundings.after k.surroundings = s := by
  cases h with
  | shown hnone => cases hnone.symm.trans hpending
  | due hsome hheld hturn halike =>
      obtain rfl := Option.some.inj (hsome.symm.trans hpending)
      exact ⟨_, _, _, _, hheld, hturn, halike, rfl⟩

/-- The request of the last search of a host that waits for one is held. -/
theorem Listed.of_latestSearch_eq_some {k : Browser} {rows : Option (List EntitySummary)}
    (h : k.Listed rows) {ticket : Ticket} (hsearch : k.view.latestSearch = some ticket) :
    ∃ query, k.inFlight.get? ticket = some (.search query) ∧
      some (k.store.listing query) = rows := by
  cases h with
  | shown hnone => cases hnone.symm.trans hsearch
  | due hsome hheld =>
      obtain rfl := Option.some.inj (hsome.symm.trans hsearch)
      exact ⟨_, hheld, rfl⟩

/-- The list of a host that waits for no search shows what it will show. -/
theorem Listed.eq_of_latestSearch {k : Browser} {rows : Option (List EntitySummary)}
    (h : k.Listed rows) (hsearch : k.view.latestSearch = none) : shownRows k.log = rows := by
  cases h with
  | shown => rfl
  | due hsome => cases hsearch.symm.trans hsome

/-- What the view will become is a matter of the view, the request under way, the store and the
surroundings. -/
theorem Loaded.congr {k k' : Browser} {v : View History} {s : Surroundings} (hl : k.Loaded v s)
    (hviews : k.view.Alike (fun _ _ => True) k'.view) (hfile : k.view.history.file = none)
    (hfile' : k'.view.history.file = none)
    (hheld : ∀ p id, k.view.pending = some p → k.inFlight.get? p.ticket = some (.get id) →
      k'.inFlight.get? p.ticket = some (.get id))
    (hstore : k'.store = k.store) (hsame : k'.surroundings = k.surroundings) : k'.Loaded v s := by
  cases hl with
  | shown hpending halike =>
      exact hsame ▸ .shown (hviews.pending_eq.trans hpending) (halike.trans hviews trivial)
  | @due w p id now actions hpending hsent hturn halike =>
      obtain ⟨u, hturn', halike'⟩ := Turn.Alike.exists_done
        (hturn ▸ hviews.onDetailReply hfile hfile' now now _)
      exact hsame ▸ .due (hviews.pending_eq.trans hpending) (hheld p id hpending hsent)
        (hstore ▸ hturn') (halike.trans halike' trivial)

/-! ### Releases -/

/-- A host when the clock reads another time. -/
def wait (h : Browser) (now : Int) : Browser := { h with clock := now }

/-- A host that lags behind still does when the clock reads another time. -/
theorem Behind.wait {h k : Browser} (hb : Behind h k) (now : Int) :
    Behind h (k.wait now) where
  orderly := hb.orderly
  orderly' := hb.orderly'
  deferred := hb.deferred
  deferred' := hb.deferred'
  store := hb.store
  latestSearch := hb.latestSearch
  held := hb.held
  rows := hb.rows.congr rfl (fun _ _ _ => id) rfl rfl
  pending := hb.pending
  loaded := hb.loaded.congr (.refl trivial) hb.orderly'.file hb.orderly'.file (fun _ _ _ => id)
    rfl rfl
  queue := hb.queue
  queue' := hb.queue'
  quiet := hb.quiet

/-- A held request has been released, and the host that lagged behind still does. -/
structure Delivers (h k : Browser) (ticket : Ticket) (k' : Browser) : Prop where
  release : k.release ticket = (.ok true, k')
  behind : Behind h k'
  inFlight : k'.inFlight = k.inFlight.erase ticket

section Release

variable {h k : Browser} {ticket : Ticket} {r : StoreRequest} (hb : Behind h k)
  (hheld : k.inFlight.get? ticket = some r)
include hb hheld

/-- Releasing a request of which the list takes no notice. -/
theorem Behind.released {e : Event} {actions : List Action} {w : View History}
    (hturn : k.view.step k.clock e = .done actions w)
    (hfilter : actions.filter Action.matters = []) (hsearch : w.latestSearch = k.view.latestSearch)
    (hother : k.view.latestSearch ≠ some ticket) :
    Level h ((k.released ticket r).handled e []) ∧
      ((k.released ticket r).handled e []).queue = [] ∧
      ((k.released ticket r).handled e []).inFlight = k.inFlight.erase ticket := by
  have hturn' : (k.released ticket r).view.step (k.released ticket r).clock e = .done actions w :=
    hturn
  obtain ⟨hview, htraffic, hrows⟩ := handled_of_filter_eq_nil hturn' hfilter []
  generalize (k.released ticket r).handled e [] = k' at hview htraffic hrows ⊢
  have hstore : k'.store = k.store := (congrArg Traffic.store htraffic).trans
    (execute_of_reads (hb.held ticket r hheld).1)
  have hinFlight : k'.inFlight = k.inFlight.erase ticket := congrArg Traffic.inFlight htraffic
  have horderly := hb.orderly'.step k.clock e
  have hissued : k.view.lastTicket ≤ w.lastTicket := (advances_of_done hturn).le
  rw [hturn] at horderly
  refine ⟨⟨⟨hb.orderly, hview ▸ horderly, hb.deferred,
    (congrArg Traffic.deferred htraffic).trans hb.deferred', hstore.trans hb.store,
    fun other r' hsent => ?_⟩, hb.latestSearch, ?_⟩, congrArg Traffic.queue htraffic, hinFlight⟩
  · rw [hinFlight] at hsent
    obtain ⟨hreads, hle⟩ := hb.held other r' (SortedMap.get?_of_get?_erase hsent)
    exact ⟨hreads, hview ▸ hle.trans hissued⟩
  · refine hb.rows.congr (by rw [hview, hsearch]) (fun other query hlast hsent => ?_) hstore hrows
    have hne : other ≠ ticket := fun heq => hother (heq ▸ hlast)
    rw [hinFlight, SortedMap.get?_erase, if_neg hne, hsent]

section Replies

variable {reply : StoreReply} (hreply : (RemoteStore.execute k.store r).1 = reply)
include hreply

/-- A host that is behind delivers the reply if handling it leaves no events and takes no more than
the ticket from those in flight. -/
theorem Behind.delivers {actions : List Action} {w : View History}
    (hturn : k.view.step k.clock (.storeReplied ticket reply) = .done actions w)
    (hlags : Lags h ((k.released ticket r).handled (.storeReplied ticket reply) []))
    (hidle : ((k.released ticket r).handled (.storeReplied ticket reply) []).queue = [])
    (hinFlight : ((k.released ticket r).handled (.storeReplied ticket reply) []).inFlight =
      k.inFlight.erase ticket) : ∃ k', Delivers h k ticket k' := by
  subst hreply
  have hdispatch := dispatch_of_done (h := k.released ticket r) hb.queue' hturn hidle
  refine ⟨_, release_of_dispatch hheld hdispatch, ⟨hlags, hb.queue, hidle, ?_⟩, hinFlight⟩
  rw [handled_view]
  exact View.awaitsChange_step_eq_false (by simp) hb.quiet

/-- The entity comes that the view waits for. What it would have become, it becomes now. -/
theorem Behind.release_detail (howned : k.view.ownsDetail ticket = true) :
    ∃ k', Delivers h k ticket k' := by
  obtain ⟨p, hpending, rfl⟩ := View.ownsDetail_iff_pending.1 howned
  obtain ⟨id, now, actions, w, hsent, hload, halike, hsame⟩ :=
    hb.loaded.of_pending_eq_some hpending
  obtain rfl := Option.some.inj (hheld.symm.trans hsent)
  rw [hreply] at hload
  obtain ⟨u, hload', halike'⟩ := Turn.Alike.exists_done (hload ▸
    (View.Alike.refl trivial : k.view.Alike (fun _ _ => True) k.view).onDetailReply
      hb.orderly'.file hb.orderly'.file now k.clock reply)
  obtain ⟨_, _, hturn, hfilter, hover, hsearch, -⟩ :=
    hb.orderly'.sound.matters_onDetailReply (by rw [hpending]; rfl) k.clock reply
  obtain ⟨hactions, rfl⟩ := Turn.mk.inj (hload'.symm.trans hturn)
  obtain rfl := Except.ok.inj hactions
  have hstep := (View.step_of_pending hpending k.clock reply).trans hload'
  have hother : k.view.latestSearch ≠ some p.ticket := fun hlast => by
    obtain ⟨query, hsearched, -⟩ := hb.rows.of_latestSearch_eq_some hlast
    cases hheld.symm.trans hsearched
  obtain ⟨hlevel, hidle, hinFlight⟩ := hb.released hheld hstep hfilter hsearch hother
  have hview : ((k.released p.ticket (.get id)).handled (.storeReplied p.ticket reply) []).view =
      u := view_handled (h := k.released p.ticket (.get id)) hstep []
  have hsurroundings : ((k.released p.ticket (.get id)).handled (.storeReplied p.ticket reply)
      []).surroundings = h.surroundings :=
    (surroundings_handled (h := k.released p.ticket (.get id)) hstep []).trans hsame
  refine hb.delivers hheld hreply hstep ⟨hlevel, hb.pending, ?_⟩ hidle hinFlight
  exact hsurroundings ▸ .shown (hview ▸ hover) (hview ▸ halike.trans halike' trivial)

/-- The rows come that the list waits for. -/
theorem Behind.release_search (howned : k.view.ownsSearch ticket = true) :
    ∃ k', Delivers h k ticket k' := by
  have hsearch : k.view.latestSearch = some ticket := of_decide_eq_true howned
  obtain ⟨query, hsent, hrows⟩ := hb.rows.of_latestSearch_eq_some hsearch
  obtain rfl := Option.some.inj (hheld.symm.trans hsent)
  obtain rfl : .listing (k.store.listing query) = reply := hreply
  have hlisting : (RemoteStore.execute k.store (.search query)).1 =
      .listing (k.store.listing query) := rfl
  have hstep := hb.orderly'.step_listing hsearch k.clock (k.store.listing query)
  have horderly := hb.orderly'.step k.clock
    (.storeReplied ticket (.listing (k.store.listing query)))
  have hshown := handled_listing (h := k.released ticket (.search query)) hb.orderly' hsearch
    (k.store.listing query) []
  rw [hstep] at horderly
  refine hb.delivers hheld hlisting hstep ?_ (hshown ▸ rfl) (hshown ▸ rfl)
  rw [hshown]
  refine ⟨⟨⟨hb.orderly, horderly, hb.deferred, hb.deferred', hb.store,
    fun other r' hother => hb.held other r' (SortedMap.get?_of_get?_erase hother)⟩,
    hb.latestSearch, ?_⟩, hb.pending, ?_⟩
  · rw [← hrows, ← shownRows_append_replaceList k.log]
    exact .shown rfl
  · refine hb.loaded.congr (.intro rfl trivial) hb.orderly'.file hb.orderly'.file
      (fun p id _ hother => ?_) rfl rfl
    have hne : p.ticket ≠ ticket := fun heq => by
      cases hother.symm.trans (heq ▸ hheld)
    exact (SortedMap.get?_erase ..).trans ((if_neg hne).trans hother)

/-- A reply comes that nobody waits for. -/
theorem Behind.release_stale (hdetail : k.view.ownsDetail ticket ≠ true)
    (hsearch : k.view.ownsSearch ticket ≠ true) : ∃ k', Delivers h k ticket k' := by
  have hquiet := hb.quiet
  have hmutation : k.view.ownsMutation ticket ≠ true := fun howned => by
    rw [View.awaitsChange_iff.2 ⟨ticket, howned⟩] at hquiet
    cases hquiet
  have hnot : ticket ∉ k.view.awaited := by simp [View.mem_awaited_iff, *]
  have hstep := View.step_eq_of_not_mem_awaited hnot k.clock reply
  obtain ⟨hlevel, hidle, hinFlight⟩ := hb.released hheld hstep rfl rfl fun hlast =>
    hsearch (decide_eq_true hlast)
  have hview : ((k.released ticket r).handled (.storeReplied ticket reply) []).view = k.view :=
    view_handled (h := k.released ticket r) hstep []
  refine hb.delivers hheld hreply hstep ⟨hlevel, hb.pending, ?_⟩ hidle hinFlight
  refine hb.loaded.congr (hview ▸ .refl trivial) hb.orderly'.file (hview ▸ hb.orderly'.file)
    (fun p id hpending hother => ?_) (hlevel.store.trans hb.store.symm)
    (surroundings_handled (h := k.released ticket r) hstep [])
  have hne : p.ticket ≠ ticket := fun heq =>
    hdetail (View.ownsDetail_iff_pending.2 ⟨p, hpending, heq⟩)
  rw [hinFlight, SortedMap.get?_erase, if_neg hne, hother]

end Replies

/-- A release leaves a host that lags behind lagging behind, whichever request it releases. -/
theorem Behind.release : ∃ k', Delivers h k ticket k' := by
  by_cases hdetail : k.view.ownsDetail ticket = true
  · exact hb.release_detail hheld rfl hdetail
  · by_cases hsearch : k.view.ownsSearch ticket = true
    · exact hb.release_search hheld rfl hsearch
    · exact hb.release_stale hheld rfl hdetail hsearch

end Release

/-! ### All releases -/

/-- All held requests are released, one after the other and in any order. The clock may read another
time at each release. -/
inductive Released : Browser → Browser → Prop where
  | done {k : Browser} (hnone : k.inFlight.keys = []) : Released k k
  | next {k k' : Browser} {ticket : Ticket} (now : Int) (hheld : ticket ∈ k.inFlight.keys)
      (hrest : Released ((k.wait now).release ticket).2 k') : Released k k'

/-- A host that holds requests back has still to come to where another one is: it lags behind, or it
will do so after the release of the one request that it holds. -/
inductive Trails (h k : Browser) : Prop where
  | reads (hb : Behind h k)
  | changes {ticket : Ticket} (honly : k.inFlight.keys = [ticket])
      (hrelease : ∀ now, ∃ k', (k.wait now).release ticket = (.ok true, k') ∧
        Behind h k')

section Trails

variable {h k k' : Browser}

/-- Once all requests are released, the host has caught up. -/
theorem Trails.behind (ht : Trails h k) (hreleased : Released k k') :
    Behind h k' ∧ k'.inFlight.keys = [] := by
  induction hreleased with
  | @done k hnone =>
      cases ht with
      | reads hb => exact ⟨hb, hnone⟩
      | changes honly => cases hnone.symm.trans honly
  | @next k k' ticket now hheld hrest ih =>
      refine ih ?_
      cases ht with
      | reads hb =>
          obtain ⟨r, hr⟩ := SortedMap.mem_keys_iff.1 hheld
          obtain ⟨k₁, hrelease, hb₁, -⟩ := (hb.wait now).release hr
          rw [hrelease]
          exact .reads hb₁
      | changes honly hrelease =>
          rw [honly] at hheld
          obtain rfl := List.mem_singleton.1 hheld
          obtain ⟨k₁, hrelease, hb₁⟩ := hrelease now
          rw [hrelease]
          exact .reads hb₁

/-- All requests of a host that lags behind can be released: each release leaves one less. -/
theorem Behind.exists_released {n : Nat} (hb : Behind h k) (hn : k.inFlight.size ≤ n) :
    ∃ k', Released k k' := by
  induction n generalizing k with
  | zero =>
      have hnone : k.inFlight.keys = [] := by
        rw [SortedMap.keys, List.map_eq_nil_iff]
        exact List.length_eq_zero_iff.1 (Nat.le_zero.1 hn)
      exact ⟨k, .done hnone⟩
  | succ n ih =>
      cases hkeys : k.inFlight.keys with
      | nil => exact ⟨k, .done hkeys⟩
      | cons ticket _ =>
          have hmem : ticket ∈ k.inFlight.keys := hkeys ▸ List.mem_cons_self
          obtain ⟨r, hr⟩ := SortedMap.mem_keys_iff.1 hmem
          obtain ⟨k₁, hrelease, hb₁, hinFlight⟩ := hb.release hr
          have hless := SortedMap.size_erase_lt hr
          obtain ⟨k', hrest⟩ := ih hb₁ (by rw [hinFlight]; omega)
          exact ⟨k', .next k.clock hmem (hrelease ▸ hrest)⟩

/-- A host that trails another has a request to release. -/
theorem Trails.exists_released (ht : Trails h k) : ∃ k', Released k k' := by
  cases ht with
  | reads hb => exact hb.exists_released le_rfl
  | changes honly hrelease =>
      obtain ⟨k₁, hrelease, hb⟩ := hrelease k.clock
      obtain ⟨k', hrest⟩ := hb.exists_released le_rfl
      exact ⟨k', .next k.clock (honly ▸ List.mem_singleton_self _) (hrelease ▸ hrest)⟩

end Trails

end Host

end ConfigBrowser
