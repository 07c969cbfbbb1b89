import ConfigBrowser.Proofs.Host.Operations
import ConfigBrowser.Proofs.View.Errands

/-!
# What Actions Do to a Host

What surrounds the view changes with the actions in the same way whether requests are held back or
not. The traffic of requests and replies does not: a request that is held back is kept under its
ticket, and one that is not puts the reply of the store behind the events that wait. Where the
requests only read, all replies come from the same store.

## Main results

* `Host.surroundings_handled`, `Host.traffic_handled`: what handling an event does to a host.
* `Traffic.foldl_after_deferred`, `Traffic.foldl_after_immediate`: the traffic of actions that are
  carried out in order.
-/

namespace ConfigBrowser

/-- The rows that the list shows once actions have been carried out. -/
def shownRows (actions : List Action) : Option (List EntitySummary) :=
  (actions.filterMap Action.rows?).getLast?

/-- Actions that show no rows leave the list as it is. -/
theorem shownRows_append_of_eq_nil {first second : List Action}
    (h : second.filterMap Action.rows? = []) :
    shownRows (first ++ second) = shownRows first := by
  rw [shownRows, List.filterMap_append, h, List.append_nil, shownRows]

/-- The rows that were shown last are shown. -/
theorem shownRows_append_replaceList (first : List Action) (rows : List EntitySummary) :
    shownRows (first ++ [.replaceList rows]) = some rows := by
  rw [shownRows, List.filterMap_append]
  exact List.getLast?_concat

/-! ### Surroundings -/

/-- What surrounds the view. -/
structure Surroundings where
  timers : SortedMap Ticket Nat
  dialogs : SortedMap Ticket DialogSpec
  location : Option String
  message : Option String

/-- What surrounds the view once an action has been carried out. -/
def Surroundings.after (s : Surroundings) : Action → Surroundings
  | .navigate path => { s with location := some path }
  | .scheduleTimer timer delay => { s with timers := s.timers.insert timer delay }
  | .cancelTimer timer => { s with timers := s.timers.erase timer }
  | .openDialog dialog spec => { s with dialogs := s.dialogs.insert dialog spec }
  | .closeDialog dialog => { s with dialogs := s.dialogs.erase dialog }
  | .showMessage text => { s with message := some text }
  | .clearMessage => { s with message := none }
  | _ => s

/-! ### Traffic -/

/-- The requests of the view and what has become of them. -/
structure Traffic (σ : Type) where
  store : σ
  deferred : Bool
  queue : List Event
  inFlight : SortedMap Ticket StoreRequest

/-- The event that an action has the host report, if requests are not held back. -/
def Action.report? {σ : Type} [RemoteStore σ] (store : σ) : Action → Option Event
  | .navigate path => some (.routeChanged path)
  | .store ticket r => some (.storeReplied ticket (RemoteStore.execute store r).1)
  | _ => none

/-- Only actions that matter for the traffic are reported on. -/
theorem Action.filterMap_report?_filter_matters {σ : Type} [RemoteStore σ] (store : σ)
    (actions : List Action) : (actions.filter Action.matters).filterMap (Action.report? store) =
      actions.filterMap (Action.report? store) :=
  filterMap_filter_matters (fun a ha => by cases a <;> first | rfl | cases ha) actions

/-- The held requests once an action has been carried out, if requests are held back. -/
def Action.hold (held : SortedMap Ticket StoreRequest) : Action → SortedMap Ticket StoreRequest
  | .store ticket r => held.insert ticket r
  | _ => held

/-- A request that is held after actions was held before, or is one of theirs. -/
theorem Action.get?_foldl_hold {actions : List Action} {held : SortedMap Ticket StoreRequest}
    {ticket : Ticket} {r : StoreRequest} (h : (actions.foldl hold held).get? ticket = some r) :
    held.get? ticket = some r ∨ .store ticket r ∈ actions := by
  induction actions generalizing held with
  | nil => exact .inl h
  | cons a rest ih =>
      rcases ih h with hheld | hrest
      · cases a with
        | store other r' =>
            rw [hold, SortedMap.get?_insert] at hheld
            split at hheld
            · next heq =>
              obtain rfl := Option.some.inj hheld
              exact .inr (heq ▸ List.mem_cons_self)
            · exact .inl hheld
        | _ => exact .inl hheld
      · exact .inr (List.mem_cons_of_mem a hrest)

/-- A request that is held stays so while actions make other requests. -/
theorem Action.get?_foldl_hold_of_not_mem {actions : List Action} {ticket : Ticket}
    (h : ticket ∉ Action.tickets actions) (held : SortedMap Ticket StoreRequest) :
    (actions.foldl hold held).get? ticket = held.get? ticket := by
  induction actions generalizing held with
  | nil => rfl
  | cons a rest ih =>
      rw [← List.singleton_append, Action.tickets_append, List.mem_append, not_or] at h
      rw [List.foldl_cons, ih h.2]
      cases a with
      | store other r =>
          have hne : ticket ≠ other := fun heq => h.1 (heq ▸ List.mem_singleton_self other)
          rw [hold, SortedMap.get?_insert, if_neg hne]
      | _ => rfl

/-- Of requests with increasing tickets none comes under the ticket of an earlier one. -/
theorem Action.exists_append_of_store_mem {actions : List Action} {ticket : Ticket}
    {r : StoreRequest} (hmem : .store ticket r ∈ actions)
    (hincreasing : (Action.tickets actions).Pairwise (·.number < ·.number)) :
    ∃ before rest, actions = before ++ .store ticket r :: rest ∧
      ticket ∉ Action.tickets rest := by
  obtain ⟨before, rest, rfl⟩ := List.append_of_mem hmem
  refine ⟨before, rest, rfl, fun hlater => ?_⟩
  rw [Action.tickets_append, List.pairwise_append] at hincreasing
  have hapart := (List.pairwise_cons.1 hincreasing.2.1).1
  exact absurd (hapart ticket hlater) (lt_irrefl _)

/-- The requests of actions are held under their tickets. -/
theorem Action.get?_foldl_hold_of_mem {actions : List Action} {ticket : Ticket} {r : StoreRequest}
    (hmem : .store ticket r ∈ actions)
    (hincreasing : (Action.tickets actions).Pairwise (·.number < ·.number))
    (held : SortedMap Ticket StoreRequest) :
    (actions.foldl hold held).get? ticket = some r := by
  obtain ⟨before, rest, rfl, hnot⟩ := exists_append_of_store_mem hmem hincreasing
  rw [List.foldl_append, List.foldl_cons, get?_foldl_hold_of_not_mem hnot, hold,
    SortedMap.get?_insert, if_pos rfl]

namespace Traffic

variable {σ : Type} [RemoteStore σ]

/-- The traffic once an action has been carried out. -/
def after (t : Traffic σ) : Action → Traffic σ
  | .navigate path => { t with queue := t.queue ++ [.routeChanged path] }
  | .store ticket r =>
    if t.deferred then { t with inFlight := t.inFlight.insert ticket r }
    else
      { t with
        store := (RemoteStore.execute t.store r).2
        queue := t.queue ++ [.storeReplied ticket (RemoteStore.execute t.store r).1] }
  | _ => t

/-- Actions that do not matter cause no traffic. -/
theorem foldl_after_filter_matters (actions : List Action) (t : Traffic σ) :
    (actions.filter Action.matters).foldl after t = actions.foldl after t := by
  induction actions generalizing t with
  | nil => rfl
  | cons a rest ih =>
      rw [List.filter_cons]
      cases a with
      | navigate _ | store _ _ => exact ih _
      | replaceList _ => exact ih t
      | _ => exact ih t

/-- While requests are held back, only the changes of location are reported. -/
theorem foldl_after_deferred {t : Traffic σ} (ht : t.deferred = true) (actions : List Action) :
    actions.foldl after t =
      { t with
        queue := t.queue ++ (actions.filterMap Action.path?).map .routeChanged
        inFlight := actions.foldl Action.hold t.inFlight } := by
  induction actions generalizing t with
  | nil => simp
  | cons a rest ih =>
      rw [List.foldl_cons]
      cases a with
      | navigate path =>
          rw [ih (by exact ht)]
          simp [after, Action.path?, Action.hold]
      | store ticket r =>
          rw [after, if_pos ht]
          exact ih ht
      | _ => exact ih ht

/-- While requests are not held back, all is reported. If the requests only read, all replies come
from the store as it was. -/
theorem foldl_after_immediate {t : Traffic σ} (ht : t.deferred = false) {actions : List Action}
    (hreads : ∀ ticket r, .store ticket r ∈ actions → (RemoteStore.execute t.store r).2 = t.store) :
    actions.foldl after t =
      { t with queue := t.queue ++ actions.filterMap (Action.report? t.store) } := by
  induction actions generalizing t with
  | nil => simp
  | cons a rest ih =>
      have hrest : ∀ ticket r, .store ticket r ∈ rest →
          (RemoteStore.execute t.store r).2 = t.store :=
        fun ticket r ha => hreads ticket r (List.mem_cons_of_mem a ha)
      rw [List.foldl_cons]
      cases a with
      | navigate path =>
          rw [after, ih (by exact ht) (by exact hrest)]
          simp [Action.report?]
      | store ticket r =>
          have hstore := hreads ticket r List.mem_cons_self
          rw [after, if_neg (by simp [ht]), ih (by exact ht) (by rw [hstore]; exact hrest), hstore]
          simp [Action.report?]
      | _ => exact ih ht hrest

end Traffic

/-! ### Hosts -/

namespace Host

variable {σ η : Type}

/-- What surrounds the view of a host. -/
def surroundings (h : Host σ η) : Surroundings := ⟨h.timers, h.dialogs, h.location, h.message⟩

/-- The requests of the view of a host. -/
def traffic (h : Host σ η) : Traffic σ := ⟨h.store, h.deferred, h.queue, h.inFlight⟩

variable [RemoteStore σ]

/-- What surrounds the view changes with an action alone. -/
theorem surroundings_execute (h : Host σ η) (a : Action) :
    (h.execute a).surroundings = h.surroundings.after a := by
  cases a with
  | store ticket r =>
      simp only [execute, effect, request]
      split <;> rfl
  | _ => rfl

/-- The traffic changes with an action and the store alone. -/
theorem traffic_execute (h : Host σ η) (a : Action) :
    (h.execute a).traffic = h.traffic.after a := by
  cases a with
  | store ticket r =>
      obtain ⟨view, store, queue, deferred⟩ := h
      cases deferred <;> rfl
  | _ => rfl

/-- Surroundings and traffic change with each action in order. -/
theorem foldl_execute (h : Host σ η) (actions : List Action) :
    (actions.foldl execute h).surroundings = actions.foldl Surroundings.after h.surroundings ∧
      (actions.foldl execute h).traffic = actions.foldl Traffic.after h.traffic := by
  induction actions generalizing h with
  | nil => exact ⟨rfl, rfl⟩
  | cons a rest ih =>
      obtain ⟨hsurroundings, htraffic⟩ := ih (h.execute a)
      rw [surroundings_execute] at hsurroundings
      rw [traffic_execute] at htraffic
      exact ⟨hsurroundings, htraffic⟩

variable [HistoryStore η]

section Handled

variable {h : Host σ η} {e : Event} {actions : List Action} {w : View η}
  (hturn : h.view.step h.clock e = .done actions w)
include hturn

/-- A turn that succeeds has its actions carried out. -/
theorem handled_eq (rest : List Event) :
    h.handled e rest = actions.foldl execute { h with view := w, queue := rest } := by
  simp only [handled, hturn]
  rfl

/-- What surrounds the view changes with the actions of the turn. -/
theorem surroundings_handled (rest : List Event) :
    (h.handled e rest).surroundings = actions.foldl Surroundings.after h.surroundings := by
  rw [handled_eq hturn]
  exact (foldl_execute _ actions).1

/-- The traffic changes with the actions of the turn. -/
theorem traffic_handled (rest : List Event) :
    (h.handled e rest).traffic =
      actions.foldl Traffic.after { h.traffic with queue := rest } := by
  rw [handled_eq hturn]
  exact (foldl_execute _ actions).2

/-- The view is the one that the turn leaves. -/
theorem view_handled (rest : List Event) : (h.handled e rest).view = w := by
  rw [handled_view, hturn]
  rfl

/-- A turn that shows no rows leaves those that are shown. -/
theorem shownRows_handled (hrows : actions.filterMap Action.rows? = []) (rest : List Event) :
    shownRows (h.handled e rest).log = shownRows h.log := by
  rw [handled_log, hturn]
  exact shownRows_append_of_eq_nil hrows

/-- A host goes on with the next event after a turn that succeeds. -/
theorem drain_of_done {rest : List Event} (hqueue : h.queue = e :: rest) (fuel : Nat) :
    h.drain (fuel + 1) = (h.handled e rest).drain fuel := by
  rw [drain_succ hqueue, hturn]
  rfl

/-- Handling an event whose actions do not matter changes the view, and what surrounds it. -/
theorem handled_of_filter_eq_nil (hfilter : actions.filter Action.matters = [])
    (rest : List Event) :
    (h.handled e rest).view = w ∧
      (h.handled e rest).traffic = { h.traffic with queue := rest } ∧
      shownRows (h.handled e rest).log = shownRows h.log := by
  have hrows : actions.filterMap Action.rows? = [] := by
    rw [← Action.filterMap_rows?_filter_matters, hfilter]
    rfl
  refine ⟨view_handled hturn rest, ?_, shownRows_handled hturn hrows rest⟩
  rw [traffic_handled hturn, ← Traffic.foldl_after_filter_matters, hfilter]
  rfl

end Handled

end Host

end ConfigBrowser
