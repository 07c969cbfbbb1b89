import ConfigBrowser.View.Step

/-!
# The Host

The host feeds events to the view and carries out its actions: it sends requests to a remote store,
keeps timers, dialogs, location and message, and turns navigations and replies into further events
until none is left. Time passes only when timers are fired. Requests can be held back and released
in any order.

The store and the keeper of the history are parameters. Handling events is bounded by a number of
steps, which no host of an ordinary page comes near.

## Main results

* `Host.drain_nil`: without events nothing happens.
* `Host.queue_of_drain_ok`: events are handled until none is left.
-/

namespace ConfigBrowser

/-- The view with what surrounds it. -/
structure Host (σ η : Type) where
  view : View η
  store : σ
  /-- The events to be handled, the oldest first. -/
  queue : List Event
  /-- Are requests held back? -/
  deferred : Bool
  /-- The requests held back. -/
  inFlight : SortedMap Ticket StoreRequest
  /-- The timers that are armed, with their delays. -/
  timers : SortedMap Ticket Nat
  /-- The dialogs that are open. -/
  dialogs : SortedMap Ticket DialogSpec
  location : Option String
  message : Option String
  /-- The actions carried out since the log was last taken. -/
  log : List Action
  /-- The actions shown on the screen since it was last taken. -/
  screen : List Action
  /-- The reading of the clock, in seconds. -/
  clock : Int
deriving DecidableEq, Repr

namespace Host

variable {σ η : Type}

/-- A host before the first event. -/
def initial (view : View η) (store : σ) : Host σ η :=
  { view, store
    queue := []
    deferred := false
    inFlight := .empty
    timers := .empty
    dialogs := .empty
    location := none
    message := none
    log := []
    screen := []
    clock := 0 }

/-- Puts an event behind those that wait. -/
def enqueue (h : Host σ η) (e : Event) : Host σ η := { h with queue := h.queue ++ [e] }

/-- Holds a request back, or has the store answer it at once. -/
def request [RemoteStore σ] (h : Host σ η) (ticket : Ticket) (r : StoreRequest) : Host σ η :=
  if h.deferred then { h with inFlight := h.inFlight.insert ticket r }
  else
    let (reply, store) := RemoteStore.execute h.store r
    { h with store }.enqueue (.storeReplied ticket reply)

/-- What an action does to the host, apart from being shown and logged. -/
def effect [RemoteStore σ] (h : Host σ η) : Action → Host σ η
  | .navigate path => { h with location := some path }.enqueue (.routeChanged path)
  | .store ticket r => h.request ticket r
  | .scheduleTimer timer delay => { h with timers := h.timers.insert timer delay }
  | .cancelTimer timer => { h with timers := h.timers.erase timer }
  | .openDialog dialog spec => { h with dialogs := h.dialogs.insert dialog spec }
  | .closeDialog dialog => { h with dialogs := h.dialogs.erase dialog }
  | .showMessage text => { h with message := some text }
  | .clearMessage => { h with message := none }
  | _ => h

/-- Carries out an action. -/
def execute [RemoteStore σ] (h : Host σ η) (a : Action) : Host σ η :=
  let h := { h with screen := h.screen ++ [a] }.effect a
  { h with log := h.log ++ [a] }

/-! ### Handling events -/

variable [RemoteStore σ] [HistoryStore η]

/-- Handles the events that wait, and those they cause, in at most `fuel` steps. After an error the
events that still wait are dropped. -/
def drain (fuel : Nat) (h : Host σ η) : Except Error Unit × Host σ η :=
  match h.queue with
  | [] => (.ok (), h)
  | e :: rest =>
    match fuel with
    | 0 => (.error .stalled, h)
    | fuel + 1 =>
      let turn := h.view.step h.clock e
      match turn.answer with
      | .error err => (.error err, { h with view := turn.view, queue := [] })
      | .ok actions =>
        drain fuel (actions.foldl execute { h with view := turn.view, queue := rest })

/-- The most steps that an event may take. -/
def stepLimit : Nat := 1000

/-- Handles an event and all that follows from it. -/
def dispatch (h : Host σ η) (e : Event) : Except Error Unit × Host σ η :=
  (h.enqueue e).drain stepLimit

/-- Where no event waits there is nothing to drain. -/
theorem drain_nil {h : Host σ η} (hq : h.queue = []) (fuel : Nat) : h.drain fuel = (.ok (), h) := by
  rw [drain]
  rw [hq]

/-- No event waits behind a drain that came to an end. -/
theorem queue_of_drain_ok {fuel : Nat} {h h' : Host σ η} (hd : h.drain fuel = (.ok (), h')) :
    h'.queue = [] := by
  induction fuel generalizing h with
  | zero =>
    rw [drain] at hd
    split at hd
    · next hq => simp_all
    · simp at hd
  | succ fuel ih =>
    rw [drain] at hd
    split at hd
    · next hq => simp_all
    · dsimp only at hd
      split at hd
      · simp at hd
      · exact ih hd

/-! ### What a person and the world can do -/

/-- Changes the location. -/
def navigate (h : Host σ η) (path : String) : Except Error Unit × Host σ η :=
  { h with location := some path }.dispatch (.routeChanged path)

/-- Presses a button. -/
def press (h : Host σ η) (button : ToolbarButton) : Except Error Unit × Host σ η :=
  h.dispatch (.toolbarPressed button)

/-- Clicks the displayed entity. -/
def requestEdit (h : Host σ η) : Except Error Unit × Host σ η := h.dispatch .editRequested

/-- Decides on a dialog. Cancelling closes it, and so does taking note of a failure. -/
def resolveDialog (h : Host σ η) (dialog : Ticket) (decision : DialogDecision) :
    Except Error Unit × Host σ η :=
  let closes := decision = .cancelled ∨ (h.dialogs.get? dialog).any DialogSpec.isError
  { h with dialogs := if closes then h.dialogs.erase dialog else h.dialogs }.dispatch
    (.dialogResolved dialog decision)

/-- Has the store answer a request that is held back. Says whether there was one. -/
def release (h : Host σ η) (ticket : Ticket) : Except Error Bool × Host σ η :=
  match h.inFlight.get? ticket with
  | none => (.ok false, h)
  | some r =>
    let (reply, store) := RemoteStore.execute h.store r
    let (outcome, h) := { h with inFlight := h.inFlight.erase ticket, store }.dispatch
      (.storeReplied ticket reply)
    (outcome.map fun _ => true, h)

/-- Releases held requests, the oldest first, until none is left, at most `fuel` of them. -/
def releaseUpTo (fuel : Nat) (h : Host σ η) : Except Error Unit × Host σ η :=
  match h.inFlight.keys with
  | [] => (.ok (), h)
  | ticket :: _ =>
    match fuel with
    | 0 => (.error .stalled, h)
    | fuel + 1 =>
      match h.release ticket with
      | (.error e, h) => (.error e, h)
      | (.ok _, h) => releaseUpTo fuel h

/-- Releases all held requests, the oldest first, including those that come while releasing. -/
def releaseAll (h : Host σ η) : Except Error Unit × Host σ η :=
  h.releaseUpTo (h.inFlight.size + stepLimit)

/-- Reports timers as run out, in order. -/
def fire (h : Host σ η) : List Ticket → Except Error Unit × Host σ η
  | [] => (.ok (), h)
  | timer :: rest =>
    match h.dispatch (.timerFired timer) with
    | (.error e, h) => (.error e, h)
    | (.ok _, h) => fire h rest

/-- Lets every armed timer run out, and says how many there were. -/
def fireTimers (h : Host σ η) : Except Error Nat × Host σ η :=
  let (outcome, h') := { h with timers := .empty }.fire h.timers.keys
  (outcome.map fun _ => h.timers.size, h')

omit [RemoteStore σ] [HistoryStore η]

/-- Holds requests back from now on, or no longer. -/
def setDeferred (h : Host σ η) (deferred : Bool) : Host σ η := { h with deferred }

/-- Takes the log. -/
def takeLog (h : Host σ η) : List Action × Host σ η := (h.log, { h with log := [] })

/-- Takes what the screen has shown. -/
def takeScreen (h : Host σ η) : List Action × Host σ η := (h.screen, { h with screen := [] })

end Host

end ConfigBrowser
