import ConfigBrowser.Host.Basic
import ConfigBrowser.Proofs.View.Course

/-!
# Operations on a Host

A host comes into new states by operations: navigations, buttons, decisions, timers, replies that
are released, and the reset. Each is carried out until no event waits. The moments of an operation
are the events that the view handles on the way, with the view that handles each.

What a host has gone through is told by small steps, which is how all invariants are proved: an
operation acts on the host and has the view handle an event, or the view handles the next event that
waits. A story puts no bound on the events that an operation causes, and an operation is only taken
up when no event waits; so every state that operations can lead to is told of by a story.

## Main results

* `Host.Story.perform`, `Host.Story.performAll`: operations go by small steps.
* `Host.Story.course`, `Host.Story.log_eq`: what the view of a host has gone through, and what the
  log says of it.
* `Host.Story.reply_eq`: every reply that the view has handled is one of the store.
-/

namespace ConfigBrowser.Host

variable {σ η : Type}

/-- What a person and the world can do to a host. -/
inductive Operation where
  | navigate (path : String)
  | press (button : ToolbarButton)
  | requestEdit
  | resolveDialog (dialog : Ticket) (decision : DialogDecision)
  | fireTimers
  | release (ticket : Ticket)
  | releaseAll
  | setDeferred (deferred : Bool)
  | reset
  /-- The clock reads another time from now on. -/
  | wait (now : Int)

section Operations

variable [RemoteStore σ] [HistoryStore η]

/-- The host after an operation, whether or not that succeeded. -/
def perform (h : Host σ η) : Operation → Host σ η
  | .navigate path => (h.navigate path).2
  | .press button => (h.press button).2
  | .requestEdit => h.requestEdit.2
  | .resolveDialog dialog decision => (h.resolveDialog dialog decision).2
  | .fireTimers => h.fireTimers.2
  | .release ticket => (h.release ticket).2
  | .releaseAll => h.releaseAll.2
  | .setDeferred deferred => h.setDeferred deferred
  | .reset => (h.dispatch .sessionReset).2
  | .wait now => { h with clock := now }

/-! ### Moments -/

/-- The host once the view has handled an event and its actions have been carried out. -/
def handled (h : Host σ η) (e : Event) (rest : List Event) : Host σ η :=
  match (h.view.step h.clock e).answer with
  | .error _ => { h with view := (h.view.step h.clock e).view, queue := [] }
  | .ok actions =>
    actions.foldl execute { h with view := (h.view.step h.clock e).view, queue := rest }

/-- The moments of handling the events that wait. -/
def drainMoments (fuel : Nat) (h : Host σ η) : List (Moment η) :=
  match h.queue with
  | [] => []
  | e :: rest =>
    match fuel with
    | 0 => []
    | fuel + 1 =>
      ⟨h.view, h.clock, e⟩ ::
        match (h.view.step h.clock e).answer with
        | .error _ => []
        | .ok _ => drainMoments fuel (h.handled e rest)

/-- The moments of an event and all that follows from it. -/
def dispatchMoments (h : Host σ η) (e : Event) : List (Moment η) :=
  (h.enqueue e).drainMoments stepLimit

/-- The host before it handles the decision on a dialog. -/
def decided (h : Host σ η) (dialog : Ticket) (decision : DialogDecision) : Host σ η :=
  let closes := decision = .cancelled ∨ (h.dialogs.get? dialog).any DialogSpec.isError
  { h with dialogs := if closes then h.dialogs.erase dialog else h.dialogs }

/-- The host before it handles the reply to a request that was held back. -/
def released (h : Host σ η) (ticket : Ticket) (r : StoreRequest) : Host σ η :=
  { h with inFlight := h.inFlight.erase ticket, store := (RemoteStore.execute h.store r).2 }

/-- The moments of releasing a held request. -/
def releaseMoments (h : Host σ η) (ticket : Ticket) : List (Moment η) :=
  match h.inFlight.get? ticket with
  | none => []
  | some r =>
    (h.released ticket r).dispatchMoments
      (.storeReplied ticket (RemoteStore.execute h.store r).1)

/-- The moments of releasing held requests, at most `fuel` of them. -/
def releaseUpToMoments (fuel : Nat) (h : Host σ η) : List (Moment η) :=
  match h.inFlight.keys with
  | [] => []
  | ticket :: _ =>
    match fuel with
    | 0 => []
    | fuel + 1 =>
      h.releaseMoments ticket ++
        match h.release ticket with
        | (.error _, _) => []
        | (.ok _, h) => releaseUpToMoments fuel h

/-- The moments of timers that run out in order. -/
def fireMoments (h : Host σ η) : List Ticket → List (Moment η)
  | [] => []
  | timer :: rest =>
    h.dispatchMoments (.timerFired timer) ++
      match h.dispatch (.timerFired timer) with
      | (.error _, _) => []
      | (.ok _, h) => fireMoments h rest

/-- The moments of an operation. -/
def moments (h : Host σ η) : Operation → List (Moment η)
  | .navigate path => { h with location := some path }.dispatchMoments (.routeChanged path)
  | .press button => h.dispatchMoments (.toolbarPressed button)
  | .requestEdit => h.dispatchMoments .editRequested
  | .resolveDialog dialog decision =>
    (h.decided dialog decision).dispatchMoments (.dialogResolved dialog decision)
  | .fireTimers => fireMoments { h with timers := .empty } h.timers.keys
  | .release ticket => h.releaseMoments ticket
  | .releaseAll => h.releaseUpToMoments (h.inFlight.size + stepLimit)
  | .reset => h.dispatchMoments .sessionReset
  | .setDeferred _ | .wait _ => []

/-- The host after operations in order. -/
def performAll (h : Host σ η) (ops : List Operation) : Host σ η := ops.foldl perform h

/-- The moments of operations in order. -/
def allMoments (h : Host σ η) : List Operation → List (Moment η)
  | [] => []
  | op :: rest => h.moments op ++ (h.perform op).allMoments rest

/-- Does each of the operations end with no event waiting? -/
def settles (h : Host σ η) : List Operation → Bool
  | [] => true
  | op :: rest => (h.perform op).queue.isEmpty && (h.perform op).settles rest

/-! ### Carrying out actions -/

omit [HistoryStore η] in
/-- Carrying out an action leaves the view. -/
theorem execute_view (h : Host σ η) (a : Action) : (h.execute a).view = h.view := by
  cases a with
  | store ticket r =>
      simp only [execute, effect, request]
      split <;> rfl
  | _ => rfl

omit [HistoryStore η] in
/-- An action that is carried out is logged last. -/
theorem execute_log (h : Host σ η) (a : Action) : (h.execute a).log = h.log ++ [a] := by
  cases a with
  | store ticket r =>
      simp only [execute, effect, request]
      split <;> rfl
  | _ => rfl

omit [HistoryStore η] in
/-- Carrying out actions leaves the view. -/
theorem foldl_execute_view (h : Host σ η) (actions : List Action) :
    (actions.foldl execute h).view = h.view := by
  induction actions generalizing h with
  | nil => rfl
  | cons a rest ih => rw [List.foldl_cons, ih, execute_view]

omit [HistoryStore η] in
/-- Actions are logged in the order in which they are carried out. -/
theorem foldl_execute_log (h : Host σ η) (actions : List Action) :
    (actions.foldl execute h).log = h.log ++ actions := by
  induction actions generalizing h with
  | nil => exact (List.append_nil h.log).symm
  | cons a rest ih =>
      rw [List.foldl_cons, ih, execute_log, List.append_assoc, List.singleton_append]

/-- Once an event has been handled, the view is as it leaves it. -/
theorem handled_view (h : Host σ η) (e : Event) (rest : List Event) :
    (h.handled e rest).view = (h.view.step h.clock e).view := by
  rw [handled]
  split
  · rfl
  · rw [foldl_execute_view]

/-- The log goes on with the actions of the view. -/
theorem handled_log (h : Host σ η) (e : Event) (rest : List Event) :
    (h.handled e rest).log = h.log ++ (h.view.step h.clock e).emitted := by
  rw [handled, Turn.emitted]
  cases (h.view.step h.clock e).answer with
  | error err => exact (List.append_nil h.log).symm
  | ok actions => exact foldl_execute_log _ actions

/-- What is reported without being asked for: a change of location that the view made, or a reply of
the store. -/
inductive Reported (σ : Type) [RemoteStore σ] : Event → Prop where
  | routeChanged (path : String) : Reported σ (.routeChanged path)
  | storeReplied (ticket : Ticket) (store : σ) (r : StoreRequest) :
      Reported σ (.storeReplied ticket (RemoteStore.execute store r).1)

omit [HistoryStore η] in
/-- An action makes no event wait but a change of location or a reply of the store. -/
theorem execute_queue (h : Host σ η) (a : Action) :
    ∀ e ∈ (h.execute a).queue, e ∈ h.queue ∨ Reported σ e := by
  intro e he
  cases a with
  | navigate path =>
      rcases List.mem_append.1 he with he | he
      · exact .inl he
      · exact .inr (List.mem_singleton.1 he ▸ .routeChanged path)
  | store ticket r =>
      simp only [execute, effect, request] at he
      split at he
      · exact .inl he
      · rcases List.mem_append.1 he with he | he
        · exact .inl he
        · exact .inr (List.mem_singleton.1 he ▸ .storeReplied ticket h.store r)
  | _ => exact .inl he

omit [HistoryStore η] in
/-- Nor do several actions. -/
theorem foldl_execute_queue (h : Host σ η) (actions : List Action) :
    ∀ e ∈ (actions.foldl execute h).queue, e ∈ h.queue ∨ Reported σ e := by
  induction actions generalizing h with
  | nil => exact fun e he => .inl he
  | cons a rest ih =>
      intro e he
      rcases ih (h.execute a) e he with he | he
      · exact h.execute_queue a e he
      · exact .inr he

/-- What waits after an event waited before, or is reported. -/
theorem handled_queue (h : Host σ η) (e : Event) (rest : List Event) :
    ∀ e' ∈ (h.handled e rest).queue, e' ∈ rest ∨ Reported σ e' := by
  rw [handled]
  split
  · simp
  · exact foldl_execute_queue _ _

/-! ### Small steps -/

/-- What an operation does to a host before the view handles the event of the operation. -/
inductive Acts (h : Host σ η) : Event → Host σ η → Prop where
  | navigate (path : String) : Acts h (.routeChanged path) { h with location := some path }
  | press (button : ToolbarButton) : Acts h (.toolbarPressed button) h
  | requestEdit : Acts h .editRequested h
  | decide (dialog : Ticket) (decision : DialogDecision) :
      Acts h (.dialogResolved dialog decision) (h.decided dialog decision)
  | fire (timer : Ticket) : Acts h (.timerFired timer) h
  | release {ticket : Ticket} {r : StoreRequest} (hheld : h.inFlight.get? ticket = some r) :
      Acts h (.storeReplied ticket (RemoteStore.execute h.store r).1) (h.released ticket r)
  | reset : Acts h .sessionReset h

/-- The moments by which a host has come from one state to another, step by step. -/
inductive Story (start : Host σ η) : List (Moment η) → Host σ η → Prop where
  | start : Story start [] start
  /-- The view handles the event of an operation. -/
  | act {ms : List (Moment η)} {h h' : Host σ η} {e : Event} (hstory : Story start ms h)
      (hqueue : h.queue = []) (hacts : h.Acts e h') :
      Story start (ms ++ [⟨h'.view, h'.clock, e⟩]) (h'.handled e [])
  /-- The view handles the next event that waits. -/
  | next {ms : List (Moment η)} {h : Host σ η} {e : Event} {rest : List Event}
      (hstory : Story start ms h) (hqueue : h.queue = e :: rest) :
      Story start (ms ++ [⟨h.view, h.clock, e⟩]) (h.handled e rest)
  /-- Nothing happens but to the clock, the timers or the way that requests go. -/
  | idle {ms : List (Moment η)} {h : Host σ η} (hstory : Story start ms h) (hqueue : h.queue = [])
      (clock : Int) (timers : SortedMap Ticket Nat) (deferred : Bool) :
      Story start ms { h with clock, timers, deferred }

omit [HistoryStore η] in
/-- An operation that acts on a host leaves the events that wait. -/
theorem Acts.queue_eq {h h' : Host σ η} {e : Event} (hacts : h.Acts e h') : h'.queue = h.queue := by
  cases hacts <;> rfl

omit [HistoryStore η] in
/-- An operation that acts on a host leaves the view. -/
theorem Acts.view_eq {h h' : Host σ η} {e : Event} (hacts : h.Acts e h') : h'.view = h.view := by
  cases hacts <;> rfl

omit [HistoryStore η] in
/-- An operation that acts on a host logs nothing. -/
theorem Acts.log_eq {h h' : Host σ η} {e : Event} (hacts : h.Acts e h') : h'.log = h.log := by
  cases hacts <;> rfl

/-- Handling the events that wait begins with the first of them. -/
theorem drain_succ {h : Host σ η} {e : Event} {rest : List Event} (hqueue : h.queue = e :: rest)
    (fuel : Nat) :
    h.drain (fuel + 1) =
      match (h.view.step h.clock e).answer with
      | .error err => (.error err, h.handled e rest)
      | .ok _ => (h.handled e rest).drain fuel := by
  rw [drain.eq_def, hqueue, handled]
  cases hanswer : (h.view.step h.clock e).answer with
  | error err => simp [hanswer]
  | ok actions => simp [hanswer]

/-- After an error no event waits. -/
theorem handled_queue_of_error {h : Host σ η} {e : Event} {rest : List Event} {err : Error}
    (hanswer : (h.view.step h.clock e).answer = .error err) : (h.handled e rest).queue = [] := by
  simp only [Host.handled, hanswer]

/-- What follows the first event is handled in the same way whether or not it fails: after an error
no event waits. -/
theorem drain_succ_snd {h : Host σ η} {e : Event} {rest : List Event} (hqueue : h.queue = e :: rest)
    (fuel : Nat) : (h.drain (fuel + 1)).2 = ((h.handled e rest).drain fuel).2 := by
  rw [drain_succ hqueue]
  cases hanswer : (h.view.step h.clock e).answer with
  | error err => rw [drain_nil (handled_queue_of_error hanswer)]
  | ok actions => rfl

/-- The first of the moments is that of the first event that waits. -/
theorem drainMoments_succ {h : Host σ η} {e : Event} {rest : List Event}
    (hqueue : h.queue = e :: rest) (fuel : Nat) :
    h.drainMoments (fuel + 1) = ⟨h.view, h.clock, e⟩ ::
      match (h.view.step h.clock e).answer with
      | .error _ => []
      | .ok _ => (h.handled e rest).drainMoments fuel := by
  rw [drainMoments.eq_def, hqueue]

/-- Handling an event does not depend on the events that waited before. -/
theorem handled_enqueue (h : Host σ η) (e e' : Event) (rest : List Event) :
    (h.enqueue e').handled e rest = h.handled e rest := rfl

namespace Story

variable {start h : Host σ η} {ms : List (Moment η)}

/-- Handling the events that wait goes by small steps. -/
theorem drain (hstory : Story start ms h) (fuel : Nat) :
    Story start (ms ++ h.drainMoments fuel) (h.drain fuel).2 := by
  induction fuel generalizing h ms with
  | zero =>
      rw [drain.eq_def, drainMoments.eq_def]
      split
      · next hqueue => simpa [hqueue] using hstory
      · next hqueue => simpa [hqueue] using hstory
  | succ fuel ih =>
      cases hqueue : h.queue with
      | nil =>
          rw [drain_nil hqueue, drainMoments.eq_def, hqueue, List.append_nil]
          exact hstory
      | cons e rest =>
          have hnext := hstory.next hqueue
          rw [drain_succ hqueue, drainMoments_succ hqueue, List.append_cons]
          cases (h.view.step h.clock e).answer with
          | error err => simpa using hnext
          | ok actions => exact ih hnext

/-- Having the view handle an event goes by small steps. -/
theorem dispatch {h' : Host σ η} {e : Event} (hstory : Story start ms h) (hqueue : h.queue = [])
    (hacts : h.Acts e h') : Story start (ms ++ h'.dispatchMoments e) (h'.dispatch e).2 := by
  have hqueue' : (h'.enqueue e).queue = [e] := by
    rw [enqueue, hacts.queue_eq, hqueue]
    rfl
  have hact := hstory.act hqueue hacts
  change Story start (ms ++ (h'.enqueue e).drainMoments (999 + 1))
    ((h'.enqueue e).drain (999 + 1)).2
  rw [drain_succ hqueue', drainMoments_succ hqueue', List.append_cons, handled_enqueue]
  have hanswer : ((h'.enqueue e).view.step (h'.enqueue e).clock e).answer =
      (h'.view.step h'.clock e).answer := rfl
  rw [hanswer]
  cases (h'.view.step h'.clock e).answer with
  | error err =>
      rw [List.append_nil]
      exact hact
  | ok actions => exact hact.drain 999

/-- Releasing a held request goes by small steps. -/
theorem release (hstory : Story start ms h) (hqueue : h.queue = []) (ticket : Ticket) :
    Story start (ms ++ h.releaseMoments ticket) (h.release ticket).2 := by
  rw [Host.release, releaseMoments]
  cases hheld : h.inFlight.get? ticket with
  | none => simpa using hstory
  | some r => exact hstory.dispatch hqueue (.release hheld)

/-- A release that succeeded has left no event waiting. -/
theorem queue_of_release_ok {h h' : Host σ η} {ticket : Ticket} {found : Bool}
    (hqueue : h.queue = []) (hrelease : h.release ticket = (.ok found, h')) : h'.queue = [] := by
  rw [Host.release] at hrelease
  split at hrelease
  · obtain ⟨-, rfl⟩ := Prod.mk.inj hrelease
    exact hqueue
  · next r hheld =>
    obtain ⟨houtcome, rfl⟩ := Prod.mk.inj hrelease
    rcases hdispatch : (h.released ticket r).dispatch
        (.storeReplied ticket (RemoteStore.execute h.store r).1) with ⟨e | ⟨⟩, h'⟩
    · have herror : (Except.error e : Except Error Unit).map (fun _ => true) = .ok found := by
        rw [← houtcome]
        exact congrArg (fun d => d.1.map fun _ => true) hdispatch.symm
      simp [Except.map] at herror
    · have hdrained := queue_of_drain_ok hdispatch
      rw [← hdrained]
      exact congrArg (fun d => d.2.queue) hdispatch

/-- Releasing held requests goes by small steps. -/
theorem releaseUpTo (hstory : Story start ms h) (hqueue : h.queue = []) (fuel : Nat) :
    Story start (ms ++ h.releaseUpToMoments fuel) (h.releaseUpTo fuel).2 := by
  induction fuel generalizing h ms with
  | zero =>
      rw [releaseUpTo.eq_def, releaseUpToMoments.eq_def]
      cases hkeys : h.inFlight.keys with
      | nil => simpa using hstory
      | cons ticket _ => simpa using hstory
  | succ fuel ih =>
      rw [releaseUpTo.eq_def, releaseUpToMoments.eq_def]
      cases hkeys : h.inFlight.keys with
      | nil => simpa using hstory
      | cons ticket _ =>
          have hrelease := hstory.release hqueue ticket
          dsimp only
          rcases houtcome : h.release ticket with ⟨e | found, h'⟩
          · simpa [houtcome] using hrelease
          · rw [houtcome] at hrelease
            rw [← List.append_assoc]
            exact ih hrelease (queue_of_release_ok hqueue houtcome)

/-- Letting timers run out goes by small steps. -/
theorem fire (hstory : Story start ms h) (hqueue : h.queue = []) (timers : List Ticket) :
    Story start (ms ++ h.fireMoments timers) (h.fire timers).2 := by
  induction timers generalizing h ms with
  | nil => simpa [Host.fire, fireMoments] using hstory
  | cons timer rest ih =>
      have hfire := hstory.dispatch hqueue (.fire timer)
      rw [Host.fire, fireMoments]
      rcases houtcome : h.dispatch (.timerFired timer) with ⟨e | ⟨⟩, h'⟩
      · simpa [houtcome] using hfire
      · rw [houtcome] at hfire
        rw [← List.append_assoc]
        exact ih hfire (queue_of_drain_ok houtcome)

/-- An operation goes by small steps. -/
theorem perform (hstory : Story start ms h) (hqueue : h.queue = []) (op : Operation) :
    Story start (ms ++ h.moments op) (h.perform op) := by
  cases op with
  | navigate path => exact hstory.dispatch hqueue (.navigate path)
  | press button => exact hstory.dispatch hqueue (.press button)
  | requestEdit => exact hstory.dispatch hqueue .requestEdit
  | resolveDialog dialog decision => exact hstory.dispatch hqueue (.decide dialog decision)
  | fireTimers =>
      exact (hstory.idle hqueue h.clock .empty h.deferred).fire hqueue h.timers.keys
  | release ticket => exact hstory.release hqueue ticket
  | releaseAll => exact hstory.releaseUpTo hqueue _
  | setDeferred deferred =>
      rw [moments, List.append_nil]
      exact hstory.idle hqueue h.clock h.timers deferred
  | reset => exact hstory.dispatch hqueue .reset
  | wait now =>
      rw [moments, List.append_nil]
      exact hstory.idle hqueue now h.timers h.deferred

/-- Operations that each end with no event waiting go by small steps. -/
theorem performAll (hstory : Story start ms h) (hqueue : h.queue = []) {ops : List Operation}
    (hsettles : h.settles ops = true) :
    Story start (ms ++ h.allMoments ops) (h.performAll ops) ∧ (h.performAll ops).queue = [] := by
  induction ops generalizing h ms with
  | nil => exact ⟨by simpa [Host.performAll, allMoments] using hstory, hqueue⟩
  | cons op rest ih =>
      obtain ⟨hidle, hrest⟩ := (Bool.and_eq_true _ _).mp hsettles
      rw [allMoments, ← List.append_assoc]
      exact ih (hstory.perform hqueue op) (List.isEmpty_iff.1 hidle) hrest

/-! ### What a story tells -/

/-- The view of a host has gone through the moments of the story. -/
theorem course (hstory : Story start ms h) : View.Course start.view ms h.view := by
  induction hstory with
  | start => exact .start
  | act hstory hqueue hacts ih =>
      rw [handled_view, hacts.view_eq]
      exact ih.step _ _
  | next hstory hqueue ih =>
      rw [handled_view]
      exact ih.step _ _
  | idle hstory hqueue clock timers deferred ih => exact ih

/-- The log of a host holds the actions of the story. -/
theorem log_eq (hstory : Story start ms h) : h.log = start.log ++ ms.flatMap Moment.emitted := by
  induction hstory with
  | start => simp
  | act hstory hqueue hacts ih => simp [handled_log, hacts.log_eq, ih, Moment.emitted, Moment.turn]
  | next hstory hqueue ih => simp [handled_log, ih, Moment.emitted, Moment.turn]
  | idle hstory hqueue clock timers deferred ih => exact ih

/-- Whatever waits has been reported. -/
theorem queue_reported (hstory : Story start ms h) (hstart : start.queue = []) :
    ∀ e ∈ h.queue, Reported σ e := by
  induction hstory with
  | start => simp [hstart]
  | act hstory hqueue hacts ih =>
      intro e he
      exact (handled_queue _ _ [] e he).resolve_left List.not_mem_nil
  | @next ms h e rest hstory hqueue ih =>
      intro e' he'
      rcases handled_queue _ _ rest e' he' with he' | he'
      · exact ih e' (hqueue ▸ List.mem_cons_of_mem e he')
      · exact he'
  | idle hstory hqueue clock timers deferred ih => exact ih

/-- Every reply that the view has handled is one of the store. -/
theorem reply_eq (hstory : Story start ms h) (hstart : start.queue = []) {m : Moment η}
    (hm : m ∈ ms) {ticket : Ticket} {reply : StoreReply}
    (hevent : m.event = .storeReplied ticket reply) :
    ∃ (store : σ) (r : StoreRequest), reply = (RemoteStore.execute store r).1 := by
  induction hstory with
  | start => simp at hm
  | act hstory hqueue hacts ih =>
      rcases List.mem_append.1 hm with hm | hm
      · exact ih hm
      · obtain rfl := List.mem_singleton.1 hm
        cases hacts with
        | release hheld =>
            obtain ⟨-, rfl⟩ := Event.storeReplied.inj hevent
            exact ⟨_, _, rfl⟩
        | _ => simp at hevent
  | @next ms h e rest hstory hqueue ih =>
      rcases List.mem_append.1 hm with hm | hm
      · exact ih hm
      · obtain rfl := List.mem_singleton.1 hm
        have hreported := hstory.queue_reported hstart e (hqueue ▸ List.mem_cons_self)
        cases hreported with
        | routeChanged path => simp at hevent
        | storeReplied ticket' store r =>
            obtain ⟨-, rfl⟩ := Event.storeReplied.inj hevent
            exact ⟨store, r, rfl⟩
  | idle hstory hqueue clock timers deferred ih => exact ih hm

end Story

end Operations

end ConfigBrowser.Host
