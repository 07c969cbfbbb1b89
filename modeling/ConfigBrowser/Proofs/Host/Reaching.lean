import ConfigBrowser.Proofs.Host.Resting
import ConfigBrowser.Proofs.View.Exchanges

/-!
# Following a Host Turn by Turn

What a host comes to after some events whose turns are known. The turns are put together one at a
time: each goes from the view and the traffic that the last one left, and what surrounds the view is
left to the list of all actions.

## Main results

* `Host.Reaches.turn`: one more event is handled.
* `Host.Reaches.dispatch`: an operation is over when no event waits any more.
* `Host.Resting.asks`: a host at rest opens a dialog.
* `Host.Resting.dialogs_of_closed`: once that dialog is closed, all dialogs are as before.
-/

namespace ConfigBrowser

variable {σ η : Type}

/-- Dialogs are opened and closed by the actions that do so. -/
theorem Surroundings.dialogs_foldl_after (s : Surroundings) (actions : List Action) :
    (actions.foldl after s).dialogs =
      (actions.filter Action.movesDialog).foldl Action.dialogsAfter s.dialogs := by
  induction actions generalizing s with
  | nil => rfl
  | cons a rest ih =>
      rw [List.foldl_cons, ih, List.filter_cons]
      cases a <;> rfl

namespace Host

/-- A host comes to another one by handling `n` events with some actions, and what the view and the
traffic are then. -/
structure Reaches [RemoteStore σ] [HistoryStore η] (h : Host σ η) (n : Nat) (issued : List Action)
    (v : View η) (t : Traffic σ) (k : Host σ η) : Prop where
  drain : ∀ fuel, h.drain (fuel + n) = k.drain fuel
  clock : k.clock = h.clock
  view : k.view = v
  traffic : k.traffic = t
  surroundings : k.surroundings = issued.foldl Surroundings.after h.surroundings
  log : k.log = h.log ++ issued

section Clock

variable [RemoteStore σ]

/-- Carrying out an action takes no time. -/
theorem execute_clock (h : Host σ η) (a : Action) : (h.execute a).clock = h.clock := by
  cases a with
  | store ticket r =>
      simp only [execute, effect, request]
      split <;> rfl
  | _ => rfl

/-- Carrying out actions takes no time. -/
theorem foldl_execute_clock (h : Host σ η) (actions : List Action) :
    (actions.foldl execute h).clock = h.clock := by
  induction actions generalizing h with
  | nil => rfl
  | cons a rest ih => rw [List.foldl_cons, ih, execute_clock]

end Clock

variable [RemoteStore σ] [HistoryStore η] {h k : Host σ η}

namespace Reaches

variable {n : Nat} {issued actions sent : List Action} {v w : View η} {store : σ} {e : Event}
  {rest : List Event} {t : Traffic σ}

/-- A host reaches itself without an event. -/
theorem refl (h : Host σ η) : h.Reaches 0 [] h.view h.traffic h where
  drain _ := rfl
  clock := rfl
  view := rfl
  traffic := rfl
  surroundings := rfl
  log := (List.append_nil _).symm

/-- The next event is handled, with actions of which some matter to the traffic. -/
theorem turn {deferred : Bool} {inFlight : SortedMap Ticket StoreRequest}
    (hr : h.Reaches n issued v ⟨store, deferred, e :: rest, inFlight⟩ k)
    (hturn : v.step h.clock e = .done actions w) (hsent : actions.filter Action.matters = sent)
    (hafter : sent.foldl Traffic.after ⟨store, deferred, rest, inFlight⟩ = t) :
    h.Reaches (n + 1) (issued ++ actions) w t (k.handled e rest) := by
  have hqueue : k.queue = e :: rest := congrArg Traffic.queue hr.traffic
  rw [← hr.view, ← hr.clock] at hturn
  have htraffic : { k.traffic with queue := rest } = ⟨store, deferred, rest, inFlight⟩ := by
    rw [hr.traffic]
  exact
    { drain := fun fuel => by
        rw [← Nat.add_assoc, Nat.add_right_comm, hr.drain, drain_of_done hturn hqueue]
      clock := by rw [handled_eq hturn, foldl_execute_clock, ← hr.clock]
      view := view_handled hturn rest
      traffic := by
        rw [traffic_handled hturn, htraffic, ← Traffic.foldl_after_filter_matters, hsent, hafter]
      surroundings := by
        rw [surroundings_handled hturn, hr.surroundings, List.foldl_append]
      log := by
        rw [handled_log, hturn, hr.log, List.append_assoc]
        rfl }

/-- An operation is over when no event waits any more. -/
theorem dispatch (hr : (h.enqueue e).Reaches n issued v t k) (hqueue : t.queue = [])
    (hn : n ≤ stepLimit) : h.dispatch e = (.ok (), k) := by
  have hnone : k.queue = [] := (congrArg Traffic.queue hr.traffic).trans hqueue
  rw [Host.dispatch, ← Nat.sub_add_cancel hn, hr.drain, drain_nil hnone]

section Result

variable (hr : h.Reaches n issued v t k)
include hr

/-- The dialogs move with the actions on the way. -/
theorem dialogs : k.dialogs =
    (issued.filter Action.movesDialog).foldl Action.dialogsAfter h.dialogs := by
  have hdialogs := congrArg Surroundings.dialogs hr.surroundings
  rwa [Surroundings.dialogs_foldl_after] at hdialogs

/-- The location is the path that was gone to last. -/
theorem location : k.location = (issued.filterMap Action.path?).getLast?.or h.location := by
  have hlocation := congrArg Surroundings.location hr.surroundings
  rwa [Surroundings.location_foldl_after] at hlocation

end Result

end Reaches

/-- An event that has a store in memory search the list, and at most leads elsewhere besides, is
handled, and so is the listing. -/
theorem Reaches.lists {h k : Host MemoryStore η} {n : Nat} {issued actions : List Action}
    {v w : View η} {store : MemoryStore} {inFlight : SortedMap Ticket StoreRequest} {e : Event}
    (hr : h.Reaches n issued v ⟨store, false, [e], inFlight⟩ k)
    (hturn : v.step h.clock e = .done actions w) {ticket : Ticket} {query : SearchQuery}
    (next : Option String) (hsent : actions.filter Action.matters =
      .store ticket (.search query) :: next.toList.map .navigate)
    (hpending : w.pending = none) (hsearch : w.latestSearch = some ticket) :
    ∃ j, h.Reaches (n + 2) (issued ++ (actions ++ [.replaceList (store.listing query)]))
      { w with latestSearch := none } ⟨store, false, next.toList.map .routeChanged, inFlight⟩
      j := by
  have hafter : (.store ticket (.search query) :: next.toList.map .navigate).foldl Traffic.after
      ⟨store, false, [], inFlight⟩ = ⟨store, false,
        .storeReplied ticket (.listing (store.listing query)) :: next.toList.map .routeChanged,
        inFlight⟩ := by
    cases next <;> rfl
  have hlisted := (hr.turn hturn hsent hafter).turn
    (View.step_listing_of_pending hpending hsearch h.clock _) rfl rfl
  rw [List.append_assoc] at hlisted
  exact ⟨_, hlisted⟩

/-! ### Dialogs -/

/-- A host at rest handles its next event. -/
theorem Resting.reaches (hr : h.Resting) (e : Event) :
    (h.enqueue e).Reaches 0 [] h.view ⟨h.store, false, [e], .empty⟩ (h.enqueue e) := by
  have htraffic : (h.enqueue e).traffic = ⟨h.store, false, [e], .empty⟩ := by
    rw [traffic, enqueue, hr.queue, hr.deferred, hr.inFlight]
    rfl
  exact htraffic ▸ Reaches.refl (h.enqueue e)

/-- A host that has opened a dialog and takes note of its confirmation. -/
structure Asks (h : Host σ η) (purpose : DialogPurpose) (fields : SortedMap String String)
    (k : Host σ η) : Prop where
  press : h.press purpose.button = (.ok (), k)
  surroundings : k.surroundings =
    h.surroundings.after (.openDialog h.view.nextTicket purpose.spec)
  log : k.log = h.log ++ [.openDialog h.view.nextTicket purpose.spec]
  clock : k.clock = h.clock
  resolve : k.resolveDialog h.view.nextTicket (.confirmed fields) =
    k.dispatch (.dialogResolved h.view.nextTicket (.confirmed fields))
  reaches : (k.enqueue (.dialogResolved h.view.nextTicket (.confirmed fields))).Reaches 0 []
    (h.view.prompted purpose)
    ⟨h.store, false, [.dialogResolved h.view.nextTicket (.confirmed fields)], .empty⟩
    (k.enqueue (.dialogResolved h.view.nextTicket (.confirmed fields)))

/-- A host at rest that tracks no dialog opens one when a button asks for it. -/
theorem Resting.asks (hr : h.Resting) (hdialog : h.view.dialog = none) (purpose : DialogPurpose)
    (henabled : (h.view.toolbar.getD .noSelection).isEnabled purpose.button = true)
    (fields : SortedMap String String) : ∃ k, h.Asks purpose fields k := by
  have hturn := View.step_toolbarPressed_of_enabled hdialog henabled h.clock
  obtain ⟨k, hk⟩ : ∃ k, (h.enqueue (.toolbarPressed purpose.button)).Reaches 1
      [.openDialog h.view.nextTicket purpose.spec] (h.view.prompted purpose)
      ⟨h.store, false, [], .empty⟩ k := ⟨_, (hr.reaches _).turn hturn rfl rfl⟩
  have hdialogs : k.dialogs = h.dialogs.insert h.view.nextTicket purpose.spec :=
    congrArg Surroundings.dialogs hk.surroundings
  have hkeeps : ¬ ((DialogDecision.confirmed fields = .cancelled) ∨
      (k.dialogs.get? h.view.nextTicket).any DialogSpec.isError) := by
    rw [hdialogs, SortedMap.get?_insert, if_pos rfl]
    cases purpose <;> simp [DialogPurpose.spec, DialogSpec.create, DialogSpec.delete,
      DialogSpec.isError]
  refine ⟨k, hk.dispatch rfl (by decide), hk.surroundings, hk.log, hk.clock, ?_, ?_⟩
  · rw [resolveDialog, if_neg (by simpa using hkeeps)]
  · have htraffic : (k.enqueue (.dialogResolved h.view.nextTicket (.confirmed fields))).traffic =
        ⟨h.store, false, [.dialogResolved h.view.nextTicket (.confirmed fields)], .empty⟩ := by
      obtain ⟨hstore, hdeferred, hqueue, hinFlight⟩ := Traffic.mk.inj hk.traffic
      rw [traffic, enqueue, hstore, hdeferred, hqueue, hinFlight]
      rfl
    rw [← htraffic, ← hk.view]
    exact .refl _

section Asks

variable {purpose : DialogPurpose} {fields : SortedMap String String}
  (hk : h.Asks purpose fields k)
include hk

/-- The dialog that asks is open besides those that were. -/
theorem Asks.dialogs : k.dialogs = h.dialogs.insert h.view.nextTicket purpose.spec :=
  congrArg Surroundings.dialogs hk.surroundings

/-- When the dialog is the only one to be closed and no other is opened, all are as before. -/
theorem Resting.dialogs_of_closed (hr : h.Resting) {e : Event} {n : Nat} {issued : List Action}
    {w : View η} {t : Traffic σ} {o : Host σ η} (hreaches : (k.enqueue e).Reaches n issued w t o)
    (hmoves : issued.filter Action.movesDialog = [.closeDialog h.view.nextTicket]) :
    o.dialogs = h.dialogs := by
  rw [hreaches.dialogs, hmoves]
  change k.dialogs.erase h.view.nextTicket = h.dialogs
  rw [hk.dialogs, SortedMap.erase_insert hr.get?_nextTicket]

end Asks

end Host

end ConfigBrowser
