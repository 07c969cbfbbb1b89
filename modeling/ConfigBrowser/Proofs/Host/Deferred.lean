import ConfigBrowser.Host.Command
import ConfigBrowser.Proofs.Host.CatchingUp

/-!
# Holding Requests Back

Two hosts run the same commands. One has its requests answered at once. The other holds them back,
and after each command releases them in any order until none is held. After every command both have
come to the same, apart from the times of visits.

Between two commands nothing is held and no event waits, and the views differ at most in the times
of visits. An event that only reads leaves the second host lagging behind, until its requests are
released. An event that asks for a change in the store has the second host hold that request and
nothing else; once it is released, both stores have changed alike, and both hosts handle the same
reply.

## Main results

* `Host.InStep.run`: a command succeeds on both hosts, and leaves the second trailing the first.
* `Host.SideBySide.inStep`: with all requests released after each command, the hosts stay in step.
* `Host.agrees_of_sideBySide`: two hosts of a page come to the same after every command.
-/

namespace ConfigBrowser

/-- Is a command anything else than one that holds requests back or releases them? -/
def Command.isOrdinary : Command → Bool
  | .defer _ | .release _ => false
  | _ => true

/-- Views that are alike await a change both or neither. -/
theorem View.Alike.awaitsChange_eq {waits : Option Ticket → Option Ticket → Prop}
    {v w : View History} (h : v.Alike waits w) : w.awaitsChange = v.awaitsChange := by
  rw [awaitsChange, h.dialog_eq, awaitsChange]

namespace Host

/-! ### Hosts in step -/

/-- Two hosts that have come to the same, of which the second holds requests back and has none to
release. -/
structure Matched (h k : Browser) : Prop where
  orderly : h.view.Orderly
  orderly' : k.view.Orderly
  deferred : h.deferred = false
  deferred' : k.deferred = true
  store : k.store = h.store
  alike : h.view.Alike Eq k.view
  pending : h.view.pending = none
  latestSearch : h.view.latestSearch = none
  held : k.inFlight = .empty
  surroundings : k.surroundings = h.surroundings
  rows : shownRows k.log = shownRows h.log

/-- Two hosts between two commands that have come to the same. -/
structure InStep (h k : Browser) : Prop extends Matched h k where
  queue : h.queue = []
  queue' : k.queue = []
  quiet : k.view.awaitsChange = false

section Matched

variable {h k : Browser} (hm : Matched h k)
include hm

/-- The other host waits for no search either. -/
theorem Matched.latestSearch' : k.view.latestSearch = none :=
  hm.alike.waits_latestSearch.symm.trans hm.latestSearch

/-- The other host waits for no entity either. -/
theorem Matched.pending' : k.view.pending = none := hm.alike.pending_eq.trans hm.pending

/-- A host that has come to the same as another one does not lag far behind. -/
theorem Matched.lags : Lags h k where
  orderly := hm.orderly
  orderly' := hm.orderly'
  deferred := hm.deferred
  deferred' := hm.deferred'
  store := hm.store
  latestSearch := hm.latestSearch
  held ticket r hheld := by
    rw [hm.held] at hheld
    cases hheld
  rows := hm.rows ▸ .shown hm.latestSearch'
  pending := hm.pending
  loaded := hm.surroundings ▸ .shown hm.pending' (hm.alike.of_waits trivial)

/-- Both hosts handle an event alike. -/
theorem Matched.exists_done {e : Event} {actions : List Action} {v : View History}
    (hturn : h.view.step h.clock e = .done actions v) :
    ∃ w, k.view.step k.clock e = .done actions w ∧ v.Alike Eq w := by
  have hturns := hm.alike.step hm.orderly.file hm.orderly'.file h.clock k.clock e
  rw [hturn] at hturns
  exact hturns.exists_done

/-- A turn that only reads, and all routes that it leads to. -/
theorem Matched.drain {e : Event} {actions : List Action} {v : View History} {next : Option String}
    (hqueue : h.queue = [e]) (hqueue' : k.queue = [e])
    (hturn : h.view.step h.clock e = .done actions v) (herrands : h.view.Errands actions v next)
    (hquiet : v.awaitsChange = false) : ∃ h' k', Finishes 6 h k h' k' := by
  obtain ⟨w, hturn', halike⟩ := hm.exists_done hturn
  have hwaits : w.latestSearch = v.latestSearch.or k.view.latestSearch := by
    rw [hm.latestSearch', Option.or_none, halike.waits_latestSearch]
  exact hm.lags.drain hm.pending' hqueue hqueue' hturn hturn' (halike.of_waits hwaits) herrands
    (halike.awaitsChange_eq.trans hquiet)

/-- The reply to a request for a change. -/
theorem Matched.reply {ticket : Ticket} {reply : StoreReply}
    (hqueue : h.queue = [.storeReplied ticket reply])
    (hqueue' : k.queue = [.storeReplied ticket reply])
    (howned : h.view.ownsMutation ticket = true) (hreply : reply ≠ .created "") :
    ∃ h' k', Finishes 6 h k h' k' := by
  obtain ⟨actions, v, hturn⟩ :=
    hm.orderly.exists_done (e := .storeReplied ticket reply) (by simp [hreply]) h.clock
  have hquiet := View.awaitsChange_reply hm.orderly.nodup howned h.clock reply
  rw [hturn] at hquiet
  rcases hm.orderly.sound.errands_step hm.pending hm.latestSearch hturn with
    ⟨next, herrands⟩ | ⟨dialog, decision, r, he, -⟩
  · exact hm.drain hqueue hqueue' hturn herrands hquiet
  · cases he

end Matched

/-- A host that lags behind has caught up when it holds no request. -/
theorem Behind.inStep {h k : Browser} (hb : Behind h k) (hnone : k.inFlight.keys = []) :
    InStep h k := by
  have hheld : k.inFlight = .empty := SortedMap.ext_entries (List.map_eq_nil_iff.1 hnone)
  have hpending : k.view.pending = none := by
    rw [Option.eq_none_iff_forall_ne_some]
    intro p hp
    obtain ⟨id, now, actions, w, hsent, -⟩ := hb.loaded.of_pending_eq_some hp
    rw [hheld] at hsent
    cases hsent
  have hsearch : k.view.latestSearch = none := by
    rw [Option.eq_none_iff_forall_ne_some]
    intro ticket hticket
    obtain ⟨query, hsent, -⟩ := hb.rows.of_latestSearch_eq_some hticket
    rw [hheld] at hsent
    cases hsent
  obtain ⟨halike, hsame⟩ := hb.loaded.of_pending hpending
  exact ⟨⟨hb.orderly, hb.orderly', hb.deferred, hb.deferred', hb.store,
    halike.of_waits (hb.latestSearch.trans hsearch.symm), hb.pending, hb.latestSearch, hheld, hsame,
    hb.rows.eq_of_latestSearch hsearch⟩, hb.queue, hb.queue', hb.quiet⟩

/-- A host in step with another one lags behind it by nothing. -/
theorem InStep.behind {h k : Browser} (hi : InStep h k) : Behind h k :=
  ⟨hi.lags, hi.queue, hi.queue', hi.quiet⟩

/-! ### Events -/

/-- The traffic of a turn that sends for a change. -/
theorem traffic_handled_of_sends {h : Browser} {e : Event} {actions : List Action}
    {v : View History} {ticket : Ticket} {r : StoreRequest}
    (hturn : h.view.step h.clock e = .done actions v)
    (hsends : actions.filter Action.matters = [.store ticket r]) :
    (h.handled e []).traffic = { h.traffic with queue := [] }.after (.store ticket r) := by
  rw [traffic_handled hturn, ← Traffic.foldl_after_filter_matters, hsends]
  rfl

/-- Of two hosts one has the reply to a request for a change, and the other holds the request. Once
it has been answered, both have come to the same. -/
structure Sent (h k : Browser) (ticket : Ticket) (r : StoreRequest) : Prop where
  queue : h.queue = [.storeReplied ticket (RemoteStore.execute k.store r).1]
  queue' : k.queue = []
  held : k.inFlight = SortedMap.empty.insert ticket r
  owned : h.view.ownsMutation ticket = true
  matched : ∀ now, Matched h ((k.wait now).released ticket r)

/-- The first host handles the reply, and the second does once the request is released. -/
theorem Sent.release {h k : Browser} {ticket : Ticket} {r : StoreRequest} (hs : Sent h k ticket r)
    (now : Int) {fuel : Nat} (hfuel : 18 ≤ fuel) :
    ∃ k', h.drain fuel = (.ok (), (h.drain fuel).2) ∧
      (k.wait now).release ticket = (.ok true, k') ∧
      Behind (h.drain fuel).2 k' := by
  have hreply := MemoryStore.execute_ne_created_empty k.store r
  have hmatched : Matched h (((k.wait now).released ticket r).enqueue
      (.storeReplied ticket (RemoteStore.execute k.store r).1)) := { hs.matched now with }
  obtain ⟨h', k', hdrain, hdrain', hb⟩ :=
    hmatched.reply hs.queue (by simp [enqueue, released, wait, hs.queue']) hs.owned hreply
  have hheld : k.inFlight.get? ticket = some r := by
    rw [hs.held, SortedMap.get?_insert, if_pos rfl]
  rw [hdrain fuel hfuel]
  exact ⟨k', rfl, release_of_dispatch hheld (hdrain' stepLimit (by decide)), hb⟩

section Dispatch

variable {h k : Browser} (hi : InStep h k) {e : Event} {actions : List Action} {v : View History}
include hi

/-- A turn that only reads. -/
theorem InStep.reads {next : Option String} (hturn : h.view.step h.clock e = .done actions v)
    (herrands : h.view.Errands actions v next) : ∃ h' k', h.dispatch e = (.ok (), h') ∧
      k.dispatch e = (.ok (), k') ∧ Trails h' k' := by
  have hm : Matched (h.enqueue e) (k.enqueue e) := { hi with }
  have hquiet : v.awaitsChange = false :=
    herrands.awaitsChange_eq_false hturn (hi.alike.awaitsChange_eq.symm.trans hi.quiet)
  obtain ⟨h', k', hdrain, hdrain', hb⟩ := hm.drain (by simp [enqueue, hi.queue])
    (by simp [enqueue, hi.queue']) hturn herrands hquiet
  exact ⟨h', k', hdrain stepLimit (by decide), hdrain' stepLimit (by decide), .reads hb⟩

/-- A turn that sends for a change changes both hosts alike, apart from the request. -/
theorem InStep.sent {r : StoreRequest} (hturn : h.view.step h.clock e = .done actions v)
    (hsends : h.view.Sends actions v r) :
    Sent (h.handled e []) (k.handled e []) h.view.nextTicket r := by
  obtain ⟨w, hturn', halike⟩ := hi.exists_done hturn
  have htraffic : (h.handled e []).traffic =
      ⟨(RemoteStore.execute h.store r).2, false,
        [.storeReplied h.view.nextTicket (RemoteStore.execute h.store r).1], h.inFlight⟩ := by
    rw [traffic_handled_of_sends hturn hsends.actions]
    simp [Traffic.after, traffic, hi.deferred]
  have htraffic' : (k.handled e []).traffic =
      ⟨h.store, true, [], SortedMap.empty.insert h.view.nextTicket r⟩ := by
    rw [traffic_handled_of_sends hturn' hsends.actions]
    simp [Traffic.after, traffic, hi.deferred', hi.held, hi.store]
  have hsame : (k.handled e []).surroundings = (h.handled e []).surroundings := by
    rw [surroundings_handled hturn, surroundings_handled hturn', hi.surroundings]
  have hrows : shownRows (k.handled e []).log = shownRows (h.handled e []).log := by
    rw [shownRows_handled hturn hsends.rows, shownRows_handled hturn' hsends.rows, hi.rows]
  have hview : (h.handled e []).view = v := view_handled hturn []
  have hview' : (k.handled e []).view = w := view_handled hturn' []
  have horderly := orderly_handled hi.orderly e []
  have horderly' := orderly_handled hi.orderly' e []
  generalize h.handled e [] = h₁ at *
  generalize k.handled e [] = k₁ at *
  have hstore : h₁.store = (RemoteStore.execute h.store r).2 := congrArg Traffic.store htraffic
  have hstore' : k₁.store = h.store := congrArg Traffic.store htraffic'
  have hheld : k₁.inFlight = SortedMap.empty.insert h.view.nextTicket r :=
    congrArg Traffic.inFlight htraffic'
  refine ⟨hstore' ▸ congrArg Traffic.queue htraffic, congrArg Traffic.queue htraffic', hheld,
    hview ▸ hsends.waits, fun now => ?_⟩
  refine ⟨horderly, horderly', congrArg Traffic.deferred htraffic,
    congrArg Traffic.deferred htraffic', ?_, hview ▸ hview' ▸ halike, ?_, ?_, ?_, hsame, hrows⟩
  · rw [hstore, released, wait, hstore']
  · rw [hview, hsends.pending, hi.pending]
  · rw [hview, hsends.latestSearch, hi.latestSearch]
  · rw [released, wait, hheld, SortedMap.erase_insert (SortedMap.get?_empty _)]

/-- A turn that sends for a change. -/
theorem InStep.changes {r : StoreRequest} (hturn : h.view.step h.clock e = .done actions v)
    (hsends : h.view.Sends actions v r) : ∃ h' k', h.dispatch e = (.ok (), h') ∧
      k.dispatch e = (.ok (), k') ∧ Trails h' k' := by
  obtain ⟨w, hturn', -⟩ := hi.exists_done hturn
  have hs := hi.sent hturn hsends
  have hfirst : (h.enqueue e).queue = [e] := by
    rw [enqueue, hi.queue]
    rfl
  have hsame : (h.enqueue e).view.step (h.enqueue e).clock e = .done actions v := hturn
  refine ⟨((h.handled e []).drain 999).2, k.handled e [], ?_,
    dispatch_of_done hi.queue' hturn' hs.queue', .changes (by rw [hs.held]; rfl) fun now => ?_⟩
  · obtain ⟨-, hdrain, -⟩ := hs.release 0 (by decide : 18 ≤ 999)
    rw [Host.dispatch, stepLimit, drain_of_done hsame hfirst, handled_enqueue, hdrain]
  · obtain ⟨k', -, hrelease, hb⟩ := hs.release now (by decide : 18 ≤ 999)
    exact ⟨k', hrelease, hb⟩

/-- An event that is not the reply to a request leaves the second host trailing the first. -/
theorem InStep.dispatch (he : ∀ ticket reply, e ≠ .storeReplied ticket reply) :
    ∃ h' k', h.dispatch e = (.ok (), h') ∧ k.dispatch e = (.ok (), k') ∧ Trails h' k' := by
  obtain ⟨actions, v, hturn⟩ := hi.orderly.exists_done (fun ticket => he ticket _) h.clock
  rcases hi.orderly.sound.errands_step hi.pending hi.latestSearch hturn with
    ⟨next, herrands⟩ | ⟨dialog, decision, r, -, hsends⟩
  · exact hi.reads hturn herrands
  · exact hi.changes hturn hsends

end Dispatch

/-! ### Commands -/

/-- A host with other surroundings. -/
def within (h : Browser) (s : Surroundings) : Browser :=
  { h with
    timers := s.timers
    dialogs := s.dialogs
    location := s.location
    message := s.message }

/-- A timer that runs out while nothing is loading does nothing. -/
theorem fire_of_pending_eq_none {h : Browser} (hqueue : h.queue = [])
    (hpending : h.view.pending = none) (timers : List Ticket) : h.fire timers = (.ok (), h) := by
  induction timers with
  | nil => rfl
  | cons timer rest ih =>
      have hturn : h.view.step h.clock (.timerFired timer) = .done [] h.view := by
        rw [View.step, View.onTimer, hpending]
      have hhandled : h.handled (.timerFired timer) [] = h := by
        rw [handled_eq hturn, List.foldl_nil, ← hqueue]
      have hdispatch := dispatch_of_done hqueue hturn (by rw [hhandled, hqueue])
      rw [fire, hdispatch, hhandled]
      exact ih

section Run

variable {h k : Browser} (hi : InStep h k)
include hi

/-- Hosts stay in step in other surroundings, if these are the same for both. -/
theorem InStep.within (change : Surroundings → Surroundings) :
    InStep (h.within (change h.surroundings)) (k.within (change k.surroundings)) :=
  { hi with surroundings := congrArg change hi.surroundings }

/-- Hosts stay in step when time passes for both. -/
theorem InStep.wait (now now' : Int) :
    InStep (h.wait now) (k.wait now') := { hi with }

/-- A decision on the newest open dialog. -/
theorem InStep.resolveNewest (decision : DialogDecision) :
    ∃ h' k', h.resolveNewest decision = (.ok (), h') ∧ k.resolveNewest decision = (.ok (), k') ∧
      Trails h' k' := by
  have hdialogs : k.dialogs = h.dialogs := congrArg Surroundings.dialogs hi.surroundings
  rw [Host.resolveNewest, Host.resolveNewest, newestDialog?, newestDialog?, hdialogs]
  cases h.dialogs.keys.getLast? with
  | none => exact ⟨h, k, rfl, rfl, .reads hi.behind⟩
  | some dialog =>
      have hdecided : InStep (h.decided dialog decision) (k.decided dialog decision) :=
        hi.within fun s =>
          let closes := decision = .cancelled ∨ (s.dialogs.get? dialog).any DialogSpec.isError
          { s with dialogs := if closes then s.dialogs.erase dialog else s.dialogs }
      exact hdecided.dispatch (by simp)

/-- A command leaves the second host trailing the first. -/
theorem InStep.run {command : Command} (hordinary : command.isOrdinary = true) :
    ∃ h' k', h.run command = (.ok (), h') ∧ k.run command = (.ok (), k') ∧ Trails h' k' := by
  cases command with
  | navigate path =>
      have hthere : InStep { h with location := some path } { k with location := some path } :=
        hi.within fun s => { s with location := some path }
      exact hthere.dispatch (by simp)
  | press button => exact hi.dispatch (by simp)
  | confirm fields => exact hi.resolveNewest (.confirmed fields)
  | cancel => exact hi.resolveNewest .cancelled
  | edit => exact hi.dispatch (by simp)
  | reset => exact hi.dispatch (by simp)
  | timers =>
      have hdone : InStep { h with timers := .empty } { k with timers := .empty } :=
        hi.within fun s => { s with timers := .empty }
      have hfire := fire_of_pending_eq_none hdone.queue hdone.pending h.timers.keys
      have hfire' := fire_of_pending_eq_none hdone.queue' hdone.pending' k.timers.keys
      refine ⟨_, _, ?_, ?_, .reads hdone.behind⟩
      · simp only [Host.run, fireTimers, hfire]
        rfl
      · simp only [Host.run, fireTimers, hfire']
        rfl
  | defer _ | release _ => cases hordinary

end Run

/-! ### Courses of commands -/

/-- Two hosts after the same commands. After each of them the second host releases all requests that
it holds, in any order. The clocks may read other times at each command. -/
inductive SideBySide (h₀ k₀ : Browser) : List Command → Browser → Browser → Prop where
  | start : SideBySide h₀ k₀ [] h₀ k₀
  | step {commands : List Command} {h k k' : Browser} (hcourse : SideBySide h₀ k₀ commands h k)
      {command : Command} (hordinary : command.isOrdinary = true) (now now' : Int)
      (hreleased : Released ((k.wait now').run command).2 k') :
      SideBySide h₀ k₀ (commands ++ [command]) ((h.wait now).run command).2 k'

/-- Two hosts have come to the same, apart from the times of visits. -/
structure Agrees (h k : Browser) : Prop where
  view : k.view.undated = h.view.undated
  store : k.store = h.store
  location : k.location = h.location
  message : k.message = h.message
  timers : k.timers = h.timers
  dialogs : k.dialogs = h.dialogs
  rows : shownRows k.log = shownRows h.log

/-- Matched hosts agree in what can be seen of them. -/
theorem Matched.agrees {h k : Browser} (hm : Matched h k) : Agrees h k where
  view := hm.alike.undated_eq
  store := hm.store
  location := congrArg Surroundings.location hm.surroundings
  message := congrArg Surroundings.message hm.surroundings
  timers := congrArg Surroundings.timers hm.surroundings
  dialogs := congrArg Surroundings.dialogs hm.surroundings
  rows := hm.rows

section SideBySide

variable {h₀ k₀ h k : Browser} {commands : List Command}

/-- Hosts that go through the same commands side by side stay in step. -/
theorem SideBySide.inStep (hc : SideBySide h₀ k₀ commands h k) (hi : InStep h₀ k₀) :
    InStep h k := by
  induction hc with
  | start => exact hi
  | step _ hordinary now now' hreleased ih =>
      obtain ⟨h', k', hrun, hrun', ht⟩ := (ih.wait now now').run hordinary
      rw [hrun'] at hreleased
      rw [hrun]
      obtain ⟨hb, hnone⟩ := ht.behind hreleased
      exact hb.inStep hnone

/-- Commands can be run in order, each of them with all requests released. -/
theorem InStep.exists_sideBySide (hi : InStep h₀ k₀)
    (hordinary : ∀ command ∈ commands, command.isOrdinary = true) :
    ∃ h k, SideBySide h₀ k₀ commands h k := by
  induction commands using List.reverseRecOn with
  | nil => exact ⟨h₀, k₀, .start⟩
  | append_singleton commands command ih =>
      obtain ⟨h, k, hc⟩ := ih fun c hc => hordinary c (List.mem_append_left _ hc)
      have hlast := hordinary command (by simp)
      obtain ⟨h', k', hrun, hrun', ht⟩ := (hc.inStep hi).run hlast
      obtain ⟨k'', hreleased⟩ := ht.exists_released
      exact ⟨_, k'', .step hc hlast h.clock k.clock (hrun' ▸ hreleased)⟩

end SideBySide

/-- Two hosts of a page that run the same commands, one of which holds requests back and releases
them after each command, come to the same after every command. No command fails, and all held
requests can be released. -/
theorem agrees_of_sideBySide {page : String} {delay : Nat} {history : History} {view : View History}
    (store : MemoryStore) (hpage : ':' ∉ page.toList) (hfile : history.file = none)
    (hview : View.initial page delay history = .ok view) :
    (∀ commands h k,
      SideBySide (.initial view store) ((Host.initial view store).setDeferred true) commands h k →
        Agrees h k ∧ ∀ command, command.isOrdinary = true → ∀ now,
          ((h.wait now).run command).1 = .ok () ∧ ((k.wait now).run command).1 = .ok ()) ∧
      ∀ commands, (∀ command ∈ commands, command.isOrdinary = true) → ∃ h k, SideBySide
        (.initial view store) ((Host.initial view store).setDeferred true) commands h k := by
  have hi : InStep (Host.initial view store) ((Host.initial view store).setDeferred true) := by
    have horderly := View.Orderly.initial hpage hfile hview
    obtain ⟨table, -, rfl⟩ := View.initial_eq_ok_iff.1 hview
    exact ⟨⟨horderly, horderly, rfl, rfl, rfl, .refl rfl, rfl, rfl, rfl, rfl, rfl⟩, rfl, rfl, rfl⟩
  refine ⟨fun commands h k hc => ?_, fun commands hordinary => hi.exists_sideBySide hordinary⟩
  have hin := hc.inStep hi
  refine ⟨hin.agrees, fun command hordinary now => ?_⟩
  obtain ⟨h', k', hrun, hrun', -⟩ := (hin.wait now now).run hordinary
  rw [hrun, hrun']
  exact ⟨rfl, rfl⟩

/-- A host that holds requests back goes to an entity, which comes before the rows of the list. -/
theorem agrees_configs : ∃ view : View History,
    View.initial "configs" 500 (History.inMemory 10) = .ok view ∧
      let start : Browser := .initial view (.ofEntities [⟨"1", "ViewDefinition", "fx", .null⟩])
      let held := ((start.setDeferred true).run (.navigate "configs/1")).2
      held.inFlight.keys = [⟨1⟩, ⟨2⟩] ∧
        Agrees (start.run (.navigate "configs/1")).2 ((held.release ⟨2⟩).2.release ⟨1⟩).2 := by
  obtain ⟨view, hview⟩ : ∃ view, View.initial "configs" 500 (History.inMemory 10) = .ok view :=
    ⟨_, rfl⟩
  refine ⟨view, hview, ?_⟩
  intro start held
  have hkeys : held.inFlight.keys = [⟨1⟩, ⟨2⟩] ∧
      (held.release ⟨2⟩).2.inFlight.keys = [⟨1⟩] ∧
      ((held.release ⟨2⟩).2.release ⟨1⟩).2.inFlight.keys = [] := by
    subst held start
    obtain rfl := Except.ok.inj hview
    decide +kernel
  obtain ⟨hboth, hone, hnone⟩ := hkeys
  have hreleased : Released held ((held.release ⟨2⟩).2.release ⟨1⟩).2 :=
    .next held.clock (hboth ▸ by simp) (.next (held.release ⟨2⟩).2.clock (hone ▸ by simp)
      (.done hnone))
  have hcourse : SideBySide start (start.setDeferred true) [.navigate "configs/1"] _ _ :=
    .step .start rfl 0 0 hreleased
  exact ⟨hboth, ((agrees_of_sideBySide _ (by decide) rfl hview).1 _ _ _ hcourse).1⟩

end Host

end ConfigBrowser
