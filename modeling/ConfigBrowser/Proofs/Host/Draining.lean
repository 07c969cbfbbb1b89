import ConfigBrowser.Host.Trace
import ConfigBrowser.Proofs.Host.Settling

/-!
# Every Event Is Handled to the End

Of the events that wait at most one is anything else than the reply to a request that only read.
Handling an event takes more weight off the queue than it puts on, and the replies that wait weigh
the same afterwards. So the weight of the queue bounds the number of events that are still to be
handled, and no event causes more than six, itself included. Nothing is assumed of the store.

Held requests count as well: all of them are answered after a number of releases that is bounded
beforehand.

## Main results

* `Host.Drains.handled`: handling an event takes weight off the queue.
* `Host.AtRest.releasesLeft_release`: a release leaves fewer releases to come.
* `Host.performAll_drains`: every event is handled to the end, and all held requests are released.
-/

namespace ConfigBrowser

variable {σ η : Type}

namespace Host

variable [RemoteStore σ]

/-! ### Carrying out actions -/

/-- What waits, measured by a view: how many events are not replies to requests that only read, what
the events weigh, and what they weigh with the held requests. -/
structure Load (v : View η) (h : Host σ η) (others total held : Nat) : Prop where
  others : v.others h.queue ≤ others
  total : v.total h.queue ≤ total
  held : v.total h.queue + h.inFlight.size ≤ held

omit [RemoteStore σ] in
/-- An event more waits. -/
theorem Load.enqueue {v : View η} {h : Host σ η} {others total held : Nat}
    (hload : h.Load v others total held) (e : Event) :
    (h.enqueue e).Load v (others + if v.isRead e then 0 else 1) (total + v.weight e)
      (held + v.weight e) := by
  obtain ⟨hothers, htotal, hheld⟩ := hload
  have hqueue : v.total (h.enqueue e).queue = v.total h.queue + v.weight e := v.total_append _ _
  refine ⟨?_, by omega, ?_⟩
  · change v.others (h.queue ++ [e]) ≤ _
    rw [View.others_append]
    refine Nat.add_le_add hothers ?_
    cases hread : v.isRead e <;> simp [View.others, hread]
  · change v.total (h.enqueue e).queue + h.inFlight.size ≤ _
    omega

/-- An action adds at most its weight. -/
theorem Load.execute {v : View η} {h : Host σ η} {others total held : Nat}
    (hload : h.Load v others total held) {a : Action}
    (hread : ∀ ticket r, a = .store ticket r → r.reads = true →
      ∀ reply, v.isRead (.storeReplied ticket reply) = true) :
    (h.execute a).Load v (others + if a.isHeavy then 1 else 0) (total + v.actionWeight a)
      (held + v.actionWeight a) := by
  obtain ⟨hothers, htotal, hheld⟩ := hload
  cases a with
  | navigate path =>
      obtain ⟨hothers, htotal, hheld⟩ :=
        Load.enqueue ⟨hothers, htotal, hheld⟩ (.routeChanged path)
      exact ⟨hothers, htotal, hheld⟩
  | store ticket r =>
      have hpos : 1 ≤ v.actionWeight (.store ticket r) := by
        rw [View.actionWeight]
        split <;> decide
      simp only [Host.execute, effect, request]
      split
      · have hsize := h.inFlight.size_insert_le ticket r
        refine ⟨hothers.trans (Nat.le_add_right _ _), htotal.trans (Nat.le_add_right _ _), ?_⟩
        change v.total h.queue + (h.inFlight.insert ticket r).size ≤ _
        omega
      · obtain ⟨hothers, htotal, hheld⟩ := Load.enqueue ⟨hothers, htotal, hheld⟩
          (.storeReplied ticket (RemoteStore.execute h.store r).1)
        have hreply : v.weight (.storeReplied ticket (RemoteStore.execute h.store r).1) ≤
            v.actionWeight (.store ticket r) := by
          cases hreads : r.reads with
          | true =>
              rw [View.weight_of_isRead (hread ticket r rfl hreads _)]
              exact hpos
          | false =>
              rw [View.weight, View.actionWeight, hreads]
              split <;> decide
        have hheavy : (if v.isRead (.storeReplied ticket (RemoteStore.execute h.store r).1) then 0
            else 1) ≤ if (Action.store ticket r).isHeavy then 1 else 0 := by
          cases hreads : r.reads with
          | true =>
              rw [if_pos (hread ticket r rfl hreads _)]
              exact Nat.zero_le _
          | false =>
              have hchange : (Action.store ticket r).isHeavy = true := by
                simp [Action.isHeavy, hreads]
              rw [if_pos hchange]
              split <;> decide
        exact ⟨hothers.trans (Nat.add_le_add_left hheavy _),
          htotal.trans (Nat.add_le_add_left hreply _), hheld.trans (Nat.add_le_add_left hreply _)⟩
  | _ => exact ⟨hothers, htotal, hheld⟩

/-- Actions add at most their weight. -/
theorem Load.foldl_execute {v : View η} {actions : List Action} {h : Host σ η}
    {others total held : Nat} (hload : h.Load v others total held)
    (hread : ∀ ticket r, .store ticket r ∈ actions → r.reads = true →
      ∀ reply, v.isRead (.storeReplied ticket reply) = true) :
    (actions.foldl Host.execute h).Load v (others + actions.countP Action.isHeavy)
      (total + v.burden actions) (held + v.burden actions) := by
  induction actions generalizing h others total held with
  | nil => exact hload
  | cons a rest ih =>
      have hfirst := hload.execute (a := a) fun ticket r ha =>
        hread ticket r (ha ▸ List.mem_cons_self)
      have hrest := ih hfirst fun ticket r ha => hread ticket r (List.mem_cons_of_mem _ ha)
      rw [List.foldl_cons, List.countP_cons, View.burden]
      obtain ⟨hothers, htotal, hheld⟩ := hrest
      exact ⟨by omega, by omega, by omega⟩

/-! ### Handling an event -/

variable [HistoryStore η]

/-- The events that wait cause at most `n` events, themselves included, and together with the held
requests at most `m`. At most one of them is anything else than the reply to a request that only
read. -/
structure Drains (n m : Nat) (h : Host σ η) : Prop where
  regular : h.view.Regular
  load : h.Load h.view 1 n m

/-- Handling an event takes weight off the queue. -/
theorem Drains.handled {n m : Nat} {h : Host σ η} {e : Event} {rest : List Event}
    (hd : h.Drains (n + 1) (m + 1)) (hqueue : h.queue = e :: rest) :
    (h.handled e rest).Drains n m := by
  obtain ⟨hregular, hothers, htotal, hheld⟩ := hd
  obtain ⟨hburden, -⟩ := hregular.outweighs h.clock e
  rw [hqueue] at hothers htotal hheld
  obtain ⟨hsame, hsingle⟩ := hregular.rest hothers h.clock
  rw [View.total] at htotal hheld
  refine ⟨by rw [handled_view]; exact hregular.step h.clock e, ?_⟩
  rw [handled_view, Host.handled]
  rw [Turn.emitted] at hburden hsingle
  have hread : ∀ ticket r, .store ticket r ∈ (h.view.step h.clock e).emitted → r.reads = true →
      ∀ reply, (h.view.step h.clock e).view.isRead (.storeReplied ticket reply) = true :=
    fun ticket r ha hreads => hregular.isRead_of_mem ha hreads
  rw [Turn.emitted] at hread
  cases hanswer : (h.view.step h.clock e).answer with
  | error err =>
      have hpos := (h.view.weight_le e).1
      refine ⟨Nat.zero_le 1, Nat.zero_le n, ?_⟩
      change 0 + h.inFlight.size ≤ m
      omega
  | ok actions =>
      simp only [hanswer] at hburden hsingle hread
      have hload : Load (h.view.step h.clock e).view
          { h with view := (h.view.step h.clock e).view, queue := rest }
          ((h.view.step h.clock e).view.others rest) ((h.view.step h.clock e).view.total rest)
          ((h.view.step h.clock e).view.total rest + h.inFlight.size) := ⟨le_rfl, le_rfl, le_rfl⟩
      obtain ⟨hothers', htotal', hheld'⟩ := hload.foldl_execute hread
      exact ⟨hothers'.trans (by omega), htotal'.trans (by omega), hheld'.trans (by omega)⟩

/-! ### Handling all events -/

omit [RemoteStore σ] [HistoryStore η] in
/-- Nothing waits when nothing weighs. -/
theorem Drains.queue_eq_nil {m : Nat} {h : Host σ η} (hd : h.Drains 0 m) : h.queue = [] := by
  have htotal := hd.load.total
  cases hqueue : h.queue with
  | nil => rfl
  | cons e rest =>
      have hpos := (h.view.weight_le e).1
      rw [hqueue, View.total] at htotal
      omega

omit [RemoteStore σ] [HistoryStore η] in
/-- A host without events that wait causes nothing. -/
theorem Drains.of_queue_eq_nil {n m m' : Nat} {h : Host σ η} (hd : h.Drains n m)
    (hqueue : h.queue = []) (hm : m ≤ m') : h.Drains 0 m' := by
  refine ⟨hd.regular, hd.load.others, ?_, hd.load.held.trans hm⟩
  rw [hqueue]
  exact le_rfl

/-- All events that wait are handled, by no more steps than they weigh. Unless none waited,
something has been taken off the queue and the held requests together. -/
theorem Drains.drain {n m fuel : Nat} {h : Host σ η} (hd : h.Drains n m) (hfuel : n ≤ fuel) :
    (h.drainMoments fuel).length ≤ n ∧ h.drain fuel = h.drain n ∧
      (h.drain fuel).2.Drains 0 (if h.queue = [] then m else m - 1) := by
  induction n generalizing h m fuel with
  | zero =>
      have hqueue := hd.queue_eq_nil
      rw [drain_nil hqueue, drain_nil hqueue, drainMoments.eq_def, hqueue]
      exact ⟨le_rfl, rfl, by simpa using hd⟩
  | succ n ih =>
      cases hqueue : h.queue with
      | nil =>
          rw [drain_nil hqueue, drain_nil hqueue, drainMoments.eq_def, hqueue]
          exact ⟨Nat.zero_le _, rfl, hd.of_queue_eq_nil hqueue (by simp)⟩
      | cons e rest =>
          obtain ⟨m, rfl⟩ : ∃ k, m = k + 1 := by
            have hpos := (h.view.weight_le e).1
            have hheld := hd.load.held
            rw [hqueue, View.total] at hheld
            exact ⟨m - 1, by omega⟩
          obtain ⟨fuel, rfl⟩ : ∃ k, fuel = k + 1 := ⟨fuel - 1, by omega⟩
          have hnext := hd.handled hqueue
          rw [drain_succ hqueue, drain_succ hqueue, drainMoments_succ hqueue]
          cases hanswer : (h.view.step h.clock e).answer with
          | error err =>
              refine ⟨Nat.succ_le_succ (Nat.zero_le n), rfl, ?_⟩
              exact hnext.of_queue_eq_nil (handled_queue_of_error hanswer) (by simp)
          | ok actions =>
              obtain ⟨hlength, hsame, hlast⟩ := ih hnext (Nat.le_of_succ_le_succ hfuel)
              refine ⟨Nat.succ_le_succ hlength, hsame, hlast.of_queue_eq_nil hlast.queue_eq_nil ?_⟩
              split <;> simp

/-! ### Hosts at rest -/

/-- A host between two operations: its view is regular, and no event waits. -/
structure AtRest (h : Host σ η) : Prop where
  regular : h.view.Regular
  queue : h.queue = []

omit [RemoteStore σ] [HistoryStore η] in
/-- A host at rest causes what the one event that it gets weighs. -/
theorem AtRest.enqueue {h : Host σ η} (hrest : h.AtRest) (e : Event) :
    (h.enqueue e).Drains (h.view.weight e) (h.view.weight e + h.inFlight.size) := by
  have hqueue : (h.enqueue e).queue = [e] := by
    rw [Host.enqueue, hrest.queue]
    rfl
  refine ⟨hrest.regular, ?_⟩
  have hnone : h.Load h.view 0 0 h.inFlight.size := by
    refine ⟨?_, ?_, ?_⟩ <;> rw [hrest.queue]
    · exact le_rfl
    · exact le_rfl
    · exact (Nat.zero_add _).le
  obtain ⟨hothers, htotal, hheld⟩ := hnone.enqueue e
  refine ⟨hothers.trans ?_, htotal.trans ?_, hheld.trans ?_⟩
  · split <;> simp
  · exact (Nat.zero_add _).le
  · exact (Nat.add_comm _ _).le

section Dispatch

variable {h : Host σ η} (hrest : h.AtRest) (e : Event)
include hrest

/-- Six steps are enough for the event and all that follows from it. -/
theorem AtRest.drain_enqueue {fuel : Nat} (hfuel : 6 ≤ fuel) :
    ((h.enqueue e).drainMoments fuel).length ≤ h.view.weight e ∧
      (h.enqueue e).drain fuel = (h.enqueue e).drain (h.view.weight e) ∧
      ((h.enqueue e).drain fuel).2.Drains 0 (h.view.weight e + h.inFlight.size - 1) := by
  have hnonempty : (h.enqueue e).queue ≠ [] := by simp [Host.enqueue]
  have hdrain := (hrest.enqueue e).drain ((h.view.weight_le e).2.trans hfuel)
  rwa [if_neg hnonempty] at hdrain

/-- An event causes at most six, itself included. -/
theorem AtRest.length_dispatchMoments_le : (h.dispatchMoments e).length ≤ 6 :=
  (hrest.drain_enqueue e (by decide)).1.trans (h.view.weight_le e).2

/-- The bound on the number of steps is never reached. -/
theorem AtRest.drain_eq_dispatch {fuel : Nat} (hfuel : 6 ≤ fuel) :
    (h.enqueue e).drain fuel = h.dispatch e :=
  (hrest.drain_enqueue e hfuel).2.1.trans (hrest.drain_enqueue e (by decide)).2.1.symm

/-- No event is left waiting. -/
theorem AtRest.dispatch : (h.dispatch e).2.AtRest :=
  have hlast := (hrest.drain_enqueue e (by decide)).2.2
  ⟨hlast.regular, hlast.queue_eq_nil⟩

/-- The requests that are held because of an event weigh less than the event. -/
theorem AtRest.size_dispatch_lt :
    (h.dispatch e).2.inFlight.size < h.view.weight e + h.inFlight.size := by
  have hheld := (hrest.drain_enqueue e (by decide : 6 ≤ stepLimit)).2.2.load.held
  have hpos := (h.view.weight_le e).1
  rw [Host.dispatch]
  omega

end Dispatch

omit [RemoteStore σ] [HistoryStore η] in
/-- A host at rest is settled. -/
theorem AtRest.settled {h : Host σ η} (hrest : h.AtRest) : h.Settled where
  sound := hrest.regular.sound
  issued := hrest.regular.issued
  nodup := hrest.regular.nodup
  alone _ he := absurd (hrest.queue ▸ he) List.not_mem_nil
  queue := hrest.queue

/-- Every operation ends with no event waiting, on the same page. -/
theorem AtRest.perform {h : Host σ η} (hrest : h.AtRest) (op : Operation) :
    (h.perform op).AtRest := by
  have hs := hrest.settled.perform op
  have hcourse := (Story.start.perform hrest.queue op).course
  have hpage := hcourse.page hrest.regular.sound
  exact ⟨⟨hpage ▸ hrest.regular.routable, hs.sound, hs.issued, hs.nodup⟩, hs.queue⟩

/-- A host at rest comes to rest after any operations. -/
theorem AtRest.performAll {h : Host σ η} (hrest : h.AtRest) (ops : List Operation) :
    (h.performAll ops).AtRest := by
  induction ops generalizing h with
  | nil => exact hrest
  | cons op rest ih => exact ih (hrest.perform op)

/-! ### Releasing all held requests -/

/-- Releasing held requests, the oldest first, until none is left or one of them fails: it comes to
an end, with an outcome. -/
inductive Releases : Host σ η → Except Error Unit × Host σ η → Prop where
  | nil {h : Host σ η} (hkeys : h.inFlight.keys = []) : Releases h (.ok (), h)
  | error {h h' : Host σ η} {ticket : Ticket} {later : List Ticket} {e : Error}
      (hkeys : h.inFlight.keys = ticket :: later) (hrelease : h.release ticket = (.error e, h')) :
      Releases h (.error e, h')
  | next {h h' : Host σ η} {ticket : Ticket} {later : List Ticket} {found : Bool}
      {outcome : Except Error Unit × Host σ η} (hkeys : h.inFlight.keys = ticket :: later)
      (hrelease : h.release ticket = (.ok found, h')) (hrest : Releases h' outcome) :
      Releases h outcome

/-- No request is held once all have been released. -/
theorem Releases.keys_eq_nil {h : Host σ η} {outcome : Except Error Unit × Host σ η}
    (hreleases : h.Releases outcome) (hok : outcome.1 = .ok ()) : outcome.2.inFlight.keys = [] := by
  induction hreleases with
  | nil hkeys => exact hkeys
  | error => cases hok
  | next _ _ _ ih => exact ih hok

/-- A bound on the number of releases until no request is held. -/
def releasesLeft (h : Host σ η) : Nat := h.inFlight.size + if h.view.awaitsChange then 4 else 0

omit [HistoryStore η] in
/-- What is reported is no decision. -/
theorem Reported.ne_dialogResolved {e : Event} (h : Reported σ e) (dialog : Ticket)
    (decision : DialogDecision) : e ≠ .dialogResolved dialog decision := by
  cases h <;> simp

/-- Handling what has been reported has no dialog begin to wait. -/
theorem awaitsChange_drain {h : Host σ η} (hreported : ∀ e ∈ h.queue, Reported σ e) (fuel : Nat)
    (hwaits : (h.drain fuel).2.view.awaitsChange = true) : h.view.awaitsChange = true := by
  induction fuel generalizing h with
  | zero =>
      rw [drain.eq_def] at hwaits
      split at hwaits <;> exact hwaits
  | succ fuel ih =>
      cases hqueue : h.queue with
      | nil =>
          rw [drain_nil hqueue] at hwaits
          exact hwaits
      | cons e rest =>
          rw [hqueue] at hreported
          rw [drain_succ_snd hqueue] at hwaits
          have hnext : (h.handled e rest).view.awaitsChange = true :=
            ih (fun e' he' => (h.handled_queue e rest e' he').elim
              (fun hmem => hreported e' (List.mem_cons_of_mem e hmem)) id) hwaits
          rw [handled_view] at hnext
          exact View.awaitsChange_step (hreported e List.mem_cons_self).ne_dialogResolved hnext

/-- After an event a dialog waits only if it does after the first turn. -/
theorem AtRest.awaitsChange_dispatch {h : Host σ η} (hrest : h.AtRest) {e : Event}
    (hwaits : (h.dispatch e).2.view.awaitsChange = true) :
    (h.view.step h.clock e).view.awaitsChange = true := by
  have hqueue : (h.enqueue e).queue = [e] := by
    rw [Host.enqueue, hrest.queue]
    rfl
  rw [Host.dispatch, stepLimit, drain_succ_snd hqueue, handled_enqueue] at hwaits
  have hlast := awaitsChange_drain
    (fun e' he' => (h.handled_queue e [] e' he').resolve_left List.not_mem_nil) _ hwaits
  rwa [handled_view] at hlast

/-- A release leaves fewer releases to come. -/
theorem AtRest.releasesLeft_release {h : Host σ η} (hrest : h.AtRest) {ticket : Ticket}
    {r : StoreRequest} (hheld : h.inFlight.get? ticket = some r) :
    (h.release ticket).2.releasesLeft < h.releasesLeft := by
  have hreleased : (h.released ticket r).AtRest := ⟨hrest.regular, hrest.queue⟩
  have herase : (h.released ticket r).inFlight.size < h.inFlight.size :=
    SortedMap.size_erase_lt hheld
  have hlast : (h.release ticket).2 = ((h.released ticket r).dispatch
      (.storeReplied ticket (RemoteStore.execute h.store r).1)).2 := by
    rw [Host.release, hheld]
    rfl
  rw [releasesLeft, releasesLeft, hlast]
  generalize (RemoteStore.execute h.store r).1 = reply
  have hsize := hreleased.size_dispatch_lt (.storeReplied ticket reply)
  have hwaits := hreleased.awaitsChange_dispatch (e := .storeReplied ticket reply)
  generalize ((h.released ticket r).dispatch (.storeReplied ticket reply)).2 = h' at hsize hwaits ⊢
  cases howned : h.view.ownsMutation ticket with
  | true =>
      -- The reply weighs more, but the dialog no longer waits.
      have hweight : (h.released ticket r).view.weight (.storeReplied ticket reply) = 5 :=
        if_pos howned
      have hended : h'.view.awaitsChange = false := by
        have hreply := View.awaitsChange_reply hrest.regular.nodup howned h.clock reply
        cases hlater : h'.view.awaitsChange with
        | false => rfl
        | true => exact (hwaits hlater).symm.trans hreply
      have hwaited : h.view.awaitsChange = true := View.awaitsChange_iff.2 ⟨ticket, howned⟩
      rw [hended, hwaited]
      simp only [Bool.false_eq_true, if_false, if_true]
      omega
  | false =>
      have hweight : (h.released ticket r).view.weight (.storeReplied ticket reply) = 1 := by
        simp [View.weight, released, howned]
      have hkept : h'.view.awaitsChange = true → h.view.awaitsChange = true := fun hlater =>
        View.awaitsChange_step (by simp) (hwaits hlater)
      cases hlater : h'.view.awaitsChange with
      | false =>
          simp only [Bool.false_eq_true, if_false]
          omega
      | true =>
          rw [hkept hlater]
          omega

/-- All held requests are released, unless one of the releases fails. -/
theorem AtRest.releases {h : Host σ η} (hrest : h.AtRest) {fuel : Nat}
    (hfuel : h.releasesLeft ≤ fuel) : h.Releases (h.releaseUpTo fuel) := by
  induction fuel generalizing h with
  | zero =>
      have hkeys : h.inFlight.keys = [] := by
        refine List.eq_nil_of_length_eq_zero ?_
        rw [releasesLeft, SortedMap.size] at hfuel
        rw [SortedMap.keys, List.length_map]
        omega
      rw [releaseUpTo.eq_def, hkeys]
      exact .nil hkeys
  | succ fuel ih =>
      rw [releaseUpTo.eq_def]
      cases hkeys : h.inFlight.keys with
      | nil => exact .nil hkeys
      | cons ticket later =>
          obtain ⟨r, hheld⟩ : ∃ r, h.inFlight.get? ticket = some r :=
            SortedMap.mem_keys_iff.1 (hkeys ▸ List.mem_cons_self)
          have hless := hrest.releasesLeft_release hheld
          have hnext : (h.release ticket).2.AtRest := hrest.perform (.release ticket)
          dsimp only
          rcases hrelease : h.release ticket with ⟨e | found, h'⟩
          · exact .error hkeys hrelease
          · rw [hrelease] at hless hnext
            exact .next hkeys hrelease (ih hnext (Nat.le_of_lt_succ (hless.trans_le hfuel)))

/-! ### From the first event on -/

/-- From the first event on, on a page with a plain name, every operation ends with no event
waiting, and no event causes more than six, itself included. Releasing all held requests comes to an
end, and if none of the releases fails no request is held then. -/
theorem performAll_drains {page : String} {delay : Nat} {history : η} {view : View η}
    (hpage : Routable page) (hview : View.initial page delay history = .ok view) {store : σ}
    {ops : List Operation} {h : Host σ η} (hops : (Host.initial view store).performAll ops = h) :
    h.queue = [] ∧
    (∀ e, (h.dispatchMoments e).length ≤ 6 ∧ (h.dispatch e).2.queue = [] ∧
      ∀ fuel, 6 ≤ fuel → (h.enqueue e).drain fuel = h.dispatch e) ∧
    h.Releases h.releaseAll ∧
    (h.releaseAll.1 = .ok () → h.releaseAll.2.inFlight.keys = []) := by
  have hstart : (Host.initial view store).AtRest := ⟨View.Regular.initial hpage hview, rfl⟩
  have hrest : h.AtRest := hops ▸ hstart.performAll ops
  have hfuel : h.releasesLeft ≤ h.inFlight.size + stepLimit := by
    rw [releasesLeft]
    split <;> simp [stepLimit]
  have hreleases := hrest.releases hfuel
  exact ⟨hrest.queue, fun e => ⟨hrest.length_dispatchMoments_le e, (hrest.dispatch e).queue,
    fun fuel => hrest.drain_eq_dispatch e⟩, hreleases, hreleases.keys_eq_nil⟩

/-- Confirming a create causes six events: the decision, the reply to the create, the route of the
new entity, the reply to the search there, the route without the flag, and the reply to the request
of the entity. -/
theorem drains_configs : ∃ (view : View History) (h : Browser),
    View.initial "configs" 500 (History.inMemory 10) = .ok view ∧
    (Host.initial view MemoryStore.empty).performAll [.navigate "configs", .press .new] = h ∧
    (h.dispatchMoments (.dialogResolved ⟨2⟩ (.confirmed (.ofList [("name", "a")])))).length = 6 ∧
    (∀ e, (h.dispatchMoments e).length ≤ 6) ∧ h.Releases h.releaseAll := by
  obtain ⟨view, hview⟩ : ∃ view, View.initial "configs" 500 (History.inMemory 10) = .ok view :=
    ⟨_, rfl⟩
  obtain ⟨h, hops⟩ : ∃ h : Browser, (Host.initial view MemoryStore.empty).performAll
      [.navigate "configs", .press .new] = h := ⟨_, rfl⟩
  obtain ⟨-, hdrains, hreleases, -⟩ :=
    performAll_drains ⟨by decide, 'c', by decide, by decide⟩ hview hops
  refine ⟨view, h, hview, hops, ?_, fun e => (hdrains e).1, hreleases⟩
  subst hops
  obtain rfl := Except.ok.inj hview
  decide +kernel

end Host

end ConfigBrowser
