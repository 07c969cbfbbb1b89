import ConfigBrowser.Host.Trace
import ConfigBrowser.Proofs.Host.Settling

/-!
# No Reply Is Lost

A request is owed a reply while it is held, or while its reply waits to be handled. On a page
without a colon in its name every reply that the view expects is owed. Requests get new tickets, so
none takes the place of another one. Only the view's own handling of the reply ends what is owed,
and it ends the expectation. And when an event fails nothing else waits, so no reply is dropped.

So between two operations, when no event waits, the host holds every request whose reply the view
expects, whatever the store answers, whether or not the history can be written, and however
operations came out.

## Main results

* `Host.Answerable.handled`: handling an event leaves owed what is expected.
* `Host.performAll_holds_expected`: the requests that are held between two operations.
-/

namespace ConfigBrowser

variable {σ η : Type}

/-! ### What is owed -/

/-- The reply under a ticket to a request with a property is still to come: the request is held, or
a reply to it waits. -/
def Traffic.Owes (t : Traffic σ) (ticket : Ticket) (R : StoreRequest → Prop) : Prop :=
  (∃ r, R r ∧ t.inFlight.get? ticket = some r) ∨ ∃ reply, .storeReplied ticket reply ∈ t.queue

namespace Traffic

variable {t u : Traffic σ} {ticket : Ticket} {R : StoreRequest → Prop}

/-- What is owed stays so while the request is held and no event is lost. -/
theorem Owes.mono (h : t.Owes ticket R)
    (hheld : ∀ r, t.inFlight.get? ticket = some r → u.inFlight.get? ticket = some r)
    (hqueue : ∀ e ∈ t.queue, e ∈ u.queue) : u.Owes ticket R :=
  h.imp (fun ⟨r, hr, hget⟩ => ⟨r, hr, hheld r hget⟩) fun ⟨reply, hmem⟩ => ⟨reply, hqueue _ hmem⟩

variable [RemoteStore σ]

/-- Other requests do not touch what is owed. -/
theorem Owes.after (h : t.Owes ticket R) {a : Action} (ha : a.ticket? ≠ some ticket) :
    (t.after a).Owes ticket R := by
  have happend : ∀ e, ∀ e' ∈ t.queue, e' ∈ t.queue ++ [e] :=
    fun e e' he' => List.mem_append_left [e] he'
  cases a with
  | navigate path => exact h.mono (fun _ hget => hget) (happend _)
  | store other r =>
      have hne : ticket ≠ other := fun heq => ha (congrArg some heq.symm)
      rw [Traffic.after]
      split
      · refine h.mono (fun r' hget => ?_) fun _ he => he
        rw [SortedMap.get?_insert, if_neg hne]
        exact hget
      · exact h.mono (fun _ hget => hget) (happend _)
  | _ => exact h

/-- The host owes a reply past all actions that do not concern its ticket. -/
theorem Owes.foldl_after (h : t.Owes ticket R) {actions : List Action}
    (hnot : ticket ∉ Action.tickets actions) : (actions.foldl Traffic.after t).Owes ticket R := by
  induction actions generalizing t with
  | nil => exact h
  | cons a rest ih =>
      rw [← List.singleton_append, Action.tickets_append, List.mem_append, not_or] at hnot
      refine ih (h.after fun ha => hnot.1 ?_) hnot.2
      exact List.mem_filterMap.2 ⟨a, List.mem_singleton_self a, ha⟩

/-- A request is owed a reply once it has been made. -/
theorem owes_of_store_mem {actions : List Action} {r : StoreRequest}
    (hmem : .store ticket r ∈ actions)
    (hincreasing : (Action.tickets actions).Pairwise (·.number < ·.number)) (hr : R r) :
    (actions.foldl after t).Owes ticket R := by
  obtain ⟨before, rest, rfl, hnot⟩ := Action.exists_append_of_store_mem hmem hincreasing
  rw [List.foldl_append, List.foldl_cons]
  refine Owes.foldl_after ?_ hnot
  rw [Traffic.after]
  split
  · exact .inl ⟨r, hr, by rw [SortedMap.get?_insert, if_pos rfl]⟩
  · exact .inr ⟨_, List.mem_append_right _ (List.mem_singleton_self _)⟩

end Traffic

/-! ### Hosts that owe what is expected -/

namespace Host

variable {h : Host σ η} {e : Event} {rest : List Event}

/-- Every reply that the view expects is still to come. -/
structure Answerable (h : Host σ η) : Prop extends Disciplined h where
  owes : ∀ {ticket R}, h.view.Expects ticket R → h.traffic.Owes ticket R

/-- Between two operations the requests are held whose replies the view expects. -/
theorem Answerable.held (ha : h.Answerable) (hqueue : h.queue = []) {ticket : Ticket}
    {R : StoreRequest → Prop} (hexpects : h.view.Expects ticket R) :
    ∃ r, R r ∧ h.inFlight.get? ticket = some r :=
  (ha.owes hexpects).resolve_right fun ⟨_, hmem⟩ =>
    absurd ((show h.traffic.queue = [] from hqueue) ▸ hmem) List.not_mem_nil

variable [RemoteStore σ] [HistoryStore η]

/-- Handling an event leaves owed what is expected. -/
theorem Answerable.handled (ha : h.Answerable) (hqueue : h.queue = e :: rest) :
    (h.handled e rest).Answerable := by
  refine ⟨ha.toDisciplined.handled hqueue, fun {ticket R} hexpects => ?_⟩
  rw [handled_view] at hexpects
  rw [ha.traffic_handled hqueue]
  have hadvances := h.view.advances_step h.clock e
  rcases ha.sound.expects_step hexpects with hbefore | ⟨r, hr, hmem⟩
  · -- The request was made under a ticket that is not handed out again.
    have hnot : ticket ∉ Action.tickets (h.view.step h.clock e).emitted := fun hnew =>
      absurd (ha.issued ticket hbefore.mem_awaited) (not_le.2 (hadvances.fresh ticket hnew).1)
    refine Traffic.Owes.foldl_after ?_ hnot
    rcases ha.owes hbefore with hheld | ⟨reply, hmem⟩
    · exact .inl hheld
    · refine .inr ⟨reply, ?_⟩
      rw [show h.traffic.queue = e :: rest from hqueue] at hmem
      refine (List.mem_cons.1 hmem).resolve_left fun hreply => ?_
      subst hreply
      exact View.not_mem_awaited_of_reply ha.nodup h.clock reply hexpects.mem_awaited
  · exact Traffic.owes_of_store_mem hmem hadvances.increasing hr

omit [HistoryStore η] in
/-- What an operation does before its event leaves owed what is expected: a request that is released
is answered. -/
theorem Answerable.acts (ha : h.Answerable) (hqueue : h.queue = []) {h' : Host σ η}
    (hacts : h.Acts e h') : (h'.enqueue e).Answerable := by
  have hsettled : h'.Settled :=
    (Settled.mk ha.toDisciplined hqueue).of_eq hacts.view_eq hacts.queue_eq
  refine ⟨hsettled.toDisciplined.enqueue hsettled.queue e, fun {ticket R} hexpects => ?_⟩
  have hexpected : h.view.Expects ticket R := hacts.view_eq ▸ hexpects
  obtain ⟨r, hr, hget⟩ := ha.held hqueue hexpected
  cases hacts with
  | @release other _ hheld =>
      by_cases hsame : ticket = other
      · subst hsame
        exact .inr ⟨_, List.mem_append_right _ (List.mem_singleton_self _)⟩
      · refine .inl ⟨r, hr, ?_⟩
        exact (SortedMap.get?_erase _ _ _).trans ((if_neg hsame).trans hget)
  | _ => exact .inl ⟨r, hr, hget⟩

/-- Small steps leave owed what is expected. -/
theorem Story.answerable {start : Host σ η} {ms : List (Moment η)} (hstory : Story start ms h)
    (hstart : start.Answerable) : h.Answerable := by
  induction hstory with
  | start => exact hstart
  | @act ms h h' e hstory hqueue hacts ih =>
      have hsingle : (h'.enqueue e).queue = [e] := by
        rw [enqueue, hacts.queue_eq, hqueue]
        rfl
      exact handled_enqueue h' e e [] ▸ (ih.acts hqueue hacts).handled hsingle
  | next hstory hqueue ih => exact ih.handled hqueue
  | idle hstory hqueue clock timers deferred ih =>
      exact ⟨⟨ih.sound, ih.issued, ih.nodup, ih.alone⟩, ih.owes⟩

omit [RemoteStore σ] [HistoryStore η] in
/-- The view of a host before its first event expects nothing. -/
theorem Answerable.initial {page : String} {delay : Nat} {history : η} {view : View η}
    (hpage : ':' ∉ page.toList) (hview : View.initial page delay history = .ok view) (store : σ) :
    (Host.initial view store).Answerable where
  toDisciplined := (Settled.initial hpage hview store).toDisciplined
  owes hexpects := absurd (View.awaited_initial hview ▸ hexpects.mem_awaited) List.not_mem_nil

/-- On a page without a colon in its name, whatever operations have been performed and however they
came out, no event waits and the host holds the requests whose replies the view expects: the one for
the entity that is loading, the last search, and the change that a confirmed dialog asked for. -/
theorem performAll_holds_expected {page : String} {delay : Nat} {history : η} {view : View η}
    (hpage : ':' ∉ page.toList) (hview : View.initial page delay history = .ok view) {store : σ}
    {ops : List Operation} (hops : (Host.initial view store).performAll ops = h) :
    h.queue = [] ∧
    (∀ p, h.view.pending = some p →
      ∃ id, p.args.id? = some id ∧ h.inFlight.get? p.ticket = some (.get id)) ∧
    (∀ ticket, h.view.latestSearch = some ticket →
      ∃ query, h.inFlight.get? ticket = some (.search query)) ∧
    ∀ p ticket name, h.view.dialog = some p → p.state = .awaiting ticket name →
      ∃ r, p.purpose.Sends r ∧ h.inFlight.get? ticket = some r := by
  have hstart := Settled.initial hpage hview store
  obtain ⟨hstory, hqueue⟩ := Story.start.performAll hstart.queue (hstart.settles ops)
  rw [hops] at hstory hqueue
  have ha : h.Answerable := hstory.answerable (.initial hpage hview store)
  refine ⟨hqueue, fun p hpending => ?_, fun ticket hsearch => ?_, ?_⟩
  · obtain ⟨id, hid⟩ := Option.isSome_iff_exists.1 (ha.sound.pending p hpending)
    obtain ⟨r, rfl, hget⟩ := ha.held hqueue (.entity hpending hid)
    exact ⟨id, hid, hget⟩
  · obtain ⟨r, ⟨query, rfl⟩, hget⟩ := ha.held hqueue (.listing hsearch)
    exact ⟨query, hget⟩
  · exact fun p ticket name hdialog hwaits => ha.held hqueue (.change hdialog hwaits)

/-- An entity is loading and a create has been confirmed while requests are held back: the host
holds the search, the request for the entity and the create. -/
theorem holds_configs_three_requests : ∃ (view : View History) (h : Browser)
    (query : SearchQuery) (name payload : String),
    View.initial "configs" 500 (History.inMemory 10) = .ok view ∧
    (Host.initial view MemoryStore.empty).performAll
      [.setDeferred true, .navigate "configs/1", .press .new,
        .resolveDialog ⟨3⟩ (.confirmed (.ofList [("name", "a")]))] = h ∧
    h.queue = [] ∧ h.inFlight.keys = [⟨1⟩, ⟨2⟩, ⟨4⟩] ∧
    h.inFlight.get? ⟨1⟩ = some (.search query) ∧ h.inFlight.get? ⟨2⟩ = some (.get "1") ∧
    h.inFlight.get? ⟨4⟩ = some (.put name payload) := by
  obtain ⟨view, hview⟩ : ∃ view, View.initial "configs" 500 (History.inMemory 10) = .ok view :=
    ⟨_, rfl⟩
  obtain ⟨h, hops⟩ : ∃ h : Browser, (Host.initial view MemoryStore.empty).performAll
      [.setDeferred true, .navigate "configs/1", .press .new,
        .resolveDialog ⟨3⟩ (.confirmed (.ofList [("name", "a")]))] = h := ⟨_, rfl⟩
  obtain ⟨hqueue, hentity, hlisting, hchange⟩ :=
    performAll_holds_expected (by decide) hview hops
  have hstate : h.inFlight.keys = [⟨1⟩, ⟨2⟩, ⟨4⟩] ∧
      h.view.pending = some ⟨⟨2⟩, .ofList [("id", "1")], false, false⟩ ∧
      h.view.latestSearch = some ⟨1⟩ ∧
      h.view.dialog = some ⟨⟨3⟩, .create, .awaiting ⟨4⟩ "a"⟩ := by
    subst hops
    obtain rfl := Except.ok.inj hview
    decide +kernel
  obtain ⟨hkeys, hpending, hsearch, hdialog⟩ := hstate
  obtain ⟨id, hid, hget⟩ := hentity _ hpending
  obtain ⟨query, hquery⟩ := hlisting _ hsearch
  obtain ⟨r, ⟨name, payload, rfl⟩, hput⟩ := hchange _ _ _ hdialog rfl
  obtain rfl : "1" = id := Option.some.inj hid
  exact ⟨view, h, query, name, payload, hview, hops, hqueue, hkeys, hquery, hget, hput⟩

end Host

end ConfigBrowser
