import ConfigBrowser.History.Lists
import ConfigBrowser.Proofs.View.Course

/-!
# Waiting for an Entity

Requests for entities may be answered late, in any order, or not at all, while other routes are
visited. An entity is shown exactly when it answers the request that stands: the last one that was
made, unanswered so far, for an id that every route since has carried. A route with a flag behind
the id that opens a new page ends the wait as well.

The request that stands is a matter of the whole course of events, while the view keeps a single
optional request. That the two agree is the invariant that carries the result.

## Main results

* `View.Sound.waitsFor_after`: when a view waits for an entity after an event.
* `View.Course.waitsFor_iff_stands`: the view waits for the request that stands.
* `View.Course.shows_iff_stands`: when an entity is shown.
-/

namespace ConfigBrowser

namespace Moment

variable {η : Type} [HistoryStore η]

/-- The requests for an entity that are made at the moment. -/
def gets (m : Moment η) : List (Ticket × String) := m.emitted.filterMap Action.get?

/-- A moment that keeps a request waiting: there is no other request, it is not answered, and a
route that resolves carries its id and does not open a new page with a flag behind the id. -/
structure Keeps (m : Moment η) (ticket : Ticket) (id : String) : Prop where
  gets : m.gets = []
  unanswered : ∀ reply, m.event ≠ .storeReplied ticket reply
  same : ∀ h args, m.route? = some (h, args) → args.id? = some id
  continues : ∀ h args, m.route? = some (h, args) → h = .loadNewConfigs ∨ h = .loadEditConfigs →
    m.view.reconciler.classify args = .continuation

end Moment

variable {η : Type} [HistoryStore η]

/-- The request for an id that stands after a course of events: it is the last request that was made
and every moment since has kept it. -/
def Stands (ms : List (Moment η)) (ticket : Ticket) (id : String) : Prop :=
  ∃ before m after, ms = before ++ m :: after ∧ m.gets.getLast? = some (ticket, id) ∧
    ∀ n ∈ after, n.Keeps ticket id

/-- After another moment a request stands if it was made last at the moment, or if it stood before
and the moment has kept it. -/
theorem stands_append_singleton {ms : List (Moment η)} {m : Moment η} {ticket : Ticket}
    {id : String} :
    Stands (ms ++ [m]) ticket id ↔
      m.gets.getLast? = some (ticket, id) ∨ Stands ms ticket id ∧ m.Keeps ticket id :=
  since_append_singleton

namespace View

omit [HistoryStore η] in
/-- Does the view wait for the reply to a request for an id? -/
def WaitsFor (v : View η) (ticket : Ticket) (id : String) : Prop :=
  ∃ args, v.pending.map PendingDetail.request = some (ticket, args) ∧ args.id? = some id

omit [HistoryStore η] in
/-- The view owns a reply if its ticket is the one that the pending detail waits for. -/
theorem ownsDetail_iff {v : View η} {ticket : Ticket} :
    v.ownsDetail ticket = true ↔
      ∃ args, v.pending.map PendingDetail.request = some (ticket, args) := by
  rw [ownsDetail]
  cases v.pending with
  | none => simp
  | some p => simp [PendingDetail.request]

omit [HistoryStore η] in
/-- A sound view owns a reply if it waits for an entity under its ticket. -/
theorem Sound.ownsDetail_iff_exists {v : View η} (hv : v.Sound) {ticket : Ticket} :
    v.ownsDetail ticket = true ↔ ∃ id, v.WaitsFor ticket id := by
  rw [ownsDetail_iff]
  constructor
  · rintro ⟨args, hrequest⟩
    obtain ⟨p, hp, hpr⟩ := Option.map_eq_some_iff.1 hrequest
    obtain ⟨id, hid⟩ := Option.isSome_iff_exists.1 (hv.pending p hp)
    exact ⟨id, args, hrequest, (Prod.mk.inj hpr).2 ▸ hid⟩
  · rintro ⟨id, args, hrequest, -⟩
    exact ⟨args, hrequest⟩

omit [HistoryStore η] in
/-- A view that differs in nothing that has to do with routes waits for the same. -/
theorem Aside.waitsFor_iff {v w : View η} (h : v.Aside w) {ticket : Ticket} {id : String} :
    w.WaitsFor ticket id ↔ v.WaitsFor ticket id := by
  rw [WaitsFor, h.pending, WaitsFor]

/-- A moment without a route that asks for nothing, leaves the request as it is and does not answer
it, leaves the view waiting for what it waited for. -/
theorem waitsFor_of_aside {m : Moment η} (h : m.view.Aside m.after) (hgets : m.gets = [])
    (hroute : m.route? = none) {ticket : Ticket} {id : String}
    (hreply : m.view.WaitsFor ticket id → ∀ reply, m.event ≠ .storeReplied ticket reply) :
    m.after.WaitsFor ticket id ↔
      m.gets.getLast? = some (ticket, id) ∨ m.view.WaitsFor ticket id ∧ m.Keeps ticket id := by
  rw [h.waitsFor_iff, hgets]
  constructor
  · intro hwaits
    exact .inr ⟨hwaits, hgets, hreply hwaits, by simp [hroute], by simp [hroute]⟩
  · rintro (hlast | ⟨hwaits, -⟩)
    · simp at hlast
    · exact hwaits

omit [HistoryStore η] in
/-- On entering a route the request under way is kept if it is for the id of the route. -/
theorem waitsFor_entered (v : View η) (path : String) (h : Handler) (args : RouteArgs)
    (ticket : Ticket) (id : String) :
    (v.entered path h args).WaitsFor ticket id ↔ v.WaitsFor ticket id ∧ args.id? = some id := by
  have hpending : (v.entered path h args).pending =
      if v.pendingDiffers args then none else v.pending := rfl
  have hdiffers : v.WaitsFor ticket id → (v.pendingDiffers args = true ↔ args.id? ≠ some id) := by
    rintro ⟨args', hrequest, hid⟩
    obtain ⟨p, hp, hpr⟩ := Option.map_eq_some_iff.1 hrequest
    obtain rfl : p.args = args' := (Prod.mk.inj hpr).2
    rw [pendingDiffers, hp, Option.any_some, hid, decide_eq_true_eq, ne_comm]
  by_cases hd : v.pendingDiffers args = true
  · rw [if_pos hd] at hpending
    refine iff_of_false (by simp [WaitsFor, hpending]) ?_
    rintro ⟨hwaits, hid⟩
    exact (hdiffers hwaits).1 hd hid
  · rw [if_neg hd] at hpending
    have hsame : (v.entered path h args).WaitsFor ticket id ↔ v.WaitsFor ticket id := by
      rw [WaitsFor, hpending, WaitsFor]
    rw [hsame]
    refine ⟨fun hwaits => ⟨hwaits, ?_⟩, And.left⟩
    by_contra hid
    exact hd ((hdiffers hwaits).2 hid)

/-- A route that asks for no entity keeps a request if it carries the id and does not drop it. -/
theorem keeps_routeChanged_iff {v : View η} {now : Int} {path : String} {h : Handler}
    {args : RouteArgs} {ticket : Ticket} {id : String} (ha : h.Admits args)
    (hroute : Moment.route? ⟨v, now, .routeChanged path⟩ = some (h, args)) (hh : h ≠ .loadConfigs)
    (hgets : Moment.gets ⟨v, now, .routeChanged path⟩ = []) :
    Moment.Keeps ⟨v, now, .routeChanged path⟩ ticket id ↔
      args.id? = some id ∧ (v.entered path h args).drops args h = false := by
  constructor
  · intro hkeeps
    have hid := hkeeps.same h args hroute
    refine ⟨hid, ?_⟩
    cases h with
    | load => simp [ha.id?_eq_none (by decide)] at hid
    | loadConfigs => exact absurd rfl hh
    | loadFilter | loadDelete => rfl
    | loadNewConfigs =>
        have hc := hkeeps.continues _ _ hroute (.inl rfl)
        exact decide_eq_false (by rw [entered, hc]; decide)
    | loadEditConfigs =>
        have hc := hkeeps.continues _ _ hroute (.inr rfl)
        exact decide_eq_false (by rw [entered, hc]; decide)
  · rintro ⟨hid, hdrops⟩
    refine ⟨hgets, by simp, ?_, ?_⟩
    · intro h' args' he
      obtain ⟨rfl, rfl⟩ := Prod.mk.inj (Option.some.inj (hroute.symm.trans he))
      exact hid
    · intro h' args' he hflag
      obtain ⟨rfl, rfl⟩ := Prod.mk.inj (Option.some.inj (hroute.symm.trans he))
      have hnot : v.reconciler.classify args ≠ .newPage := by
        rcases hflag with rfl | rfl <;> exact of_decide_eq_false hdrops
      cases hc : v.reconciler.classify args with
      | newPage => exact absurd hc hnot
      | continuation => rfl

/-- When a view waits for an entity after a route that resolved. -/
theorem waitsFor_routeChanged {v w : View η} {now : Int} {path : String} {h : Handler}
    {args : RouteArgs} {actions : List Action}
    (hstep : v.step now (.routeChanged path) = .done actions w)
    (hresolve : v.table.resolve path = .ok (h, args)) (ha : h.Admits args)
    (hspec : (v.entered path h args).Handles h args actions w) {ticket : Ticket} {id : String} :
    w.WaitsFor ticket id ↔
      (Moment.gets ⟨v, now, .routeChanged path⟩).getLast? = some (ticket, id) ∨
        v.WaitsFor ticket id ∧ Moment.Keeps ⟨v, now, .routeChanged path⟩ ticket id := by
  have hroute := Moment.route?_of_resolve now hresolve
  obtain ⟨paths, hasks, -⟩ := hspec.asks
  have hgets : Moment.gets ⟨v, now, .routeChanged path⟩ =
      (v.entered path h args).getsFor args h := by
    rw [Moment.gets, Moment.emitted, Moment.turn, hstep, Turn.emitted_done, hasks.gets]
  rw [WaitsFor, hspec.pending, requestAfter]
  by_cases hh : h = .loadConfigs
  · -- The route asks for its entity, in place of whatever was asked for before.
    subst hh
    obtain ⟨id', hid'⟩ := ha.exists_id rfl
    rw [getsFor, hid', Option.toList_some, List.map_singleton] at hgets
    rw [hgets, if_pos rfl]
    constructor
    · rintro ⟨args', hrequest, hid⟩
      obtain ⟨rfl, rfl⟩ := Prod.mk.inj (Option.some.inj hrequest)
      obtain rfl : id' = id := Option.some.inj (hid'.symm.trans hid)
      exact .inl rfl
    · rintro (hlast | ⟨-, hkeeps⟩)
      · obtain ⟨rfl, rfl⟩ := Prod.mk.inj (Option.some.inj hlast)
        exact ⟨args, rfl, hid'⟩
      · have hempty := hkeeps.gets
        simp [hgets] at hempty
  · have hnone : Moment.gets ⟨v, now, .routeChanged path⟩ = [] := by
      rw [hgets]
      cases h <;> first | rfl | exact absurd rfl hh
    rw [if_neg hh, hnone, keeps_routeChanged_iff ha hroute hh hnone, ← and_assoc,
      ← waitsFor_entered v path h args ticket id]
    cases (v.entered path h args).drops args h with
    | true => simp
    | false => simp [WaitsFor]

/-- A view waits for an entity after an event if it has just asked for it, or if it waited for it
before and the event has kept the request. -/
theorem Sound.waitsFor_after {m : Moment η} (hv : m.view.Sound) {ticket : Ticket} {id : String} :
    m.after.WaitsFor ticket id ↔
      m.gets.getLast? = some (ticket, id) ∨ m.view.WaitsFor ticket id ∧ m.Keeps ticket id := by
  obtain ⟨v, now, e⟩ := m
  have hdoes := hv.does now e
  generalize hstep : v.step now e = t at hdoes
  have hafter : Moment.after ⟨v, now, e⟩ = t.view := by rw [Moment.after, Moment.turn, hstep]
  have hgets : Moment.gets ⟨v, now, e⟩ = t.emitted.filterMap Action.get? := by
    rw [Moment.gets, Moment.emitted, Moment.turn, hstep]
  cases hdoes with
  | quiet hroute hreset howned hturn =>
      refine waitsFor_of_aside (hafter ▸ hturn.view) ?_ ?_ ?_
      · rw [hgets]
        exact List.filterMap_eq_nil_iff.2 fun a ha => (hturn.emitted a ha).1.1
      · cases e with
        | routeChanged path => exact absurd rfl (hroute path)
        | _ => rfl
      · intro hwaits reply he
        have hnot := howned ticket reply he
        rw [hv.ownsDetail_iff_exists.2 ⟨id, hwaits⟩] at hnot
        simp at hnot
  | unresolved hresolve =>
      refine waitsFor_of_aside ?_ hgets (Moment.route?_of_error now hresolve) (by simp)
      rw [hafter]
      exact .refl v
  | route hresolve ha hspec =>
      rw [hafter]
      exact waitsFor_routeChanged hstep hresolve ha hspec
  | @answer other reply actions w howned hspec =>
      have hover : ¬ w.WaitsFor ticket id := by simp [WaitsFor, hspec.pending]
      rw [hafter]
      refine iff_of_false hover ?_
      rintro (hlast | ⟨⟨args, hwaits, -⟩, hkeeps⟩)
      · rw [hgets, Turn.emitted_done, hspec.gets] at hlast
        simp at hlast
      · obtain ⟨args', howner⟩ := ownsDetail_iff.1 howned
        obtain rfl : ticket = other :=
          (Prod.mk.inj (Option.some.inj (hwaits.symm.trans howner))).1
        exact hkeeps.unanswered reply rfl
  | reset =>
      refine waitsFor_of_aside (hafter ▸ v.aside_onSessionReset) ?_ rfl (by simp)
      rw [hgets, onSessionReset_eq]
      split <;> rfl

/-- The view waits for the request that stands. -/
theorem Course.waitsFor_iff_stands {start v : View η} {ms : List (Moment η)}
    (h : Course start ms v) (hstart : start.Sound) (hpending : start.pending = none)
    {ticket : Ticket} {id : String} : v.WaitsFor ticket id ↔ Stands ms ticket id := by
  induction h with
  | start => simp [WaitsFor, hpending, Stands]
  | @step ms v hcourse now e ih =>
      have hv : (Moment.view ⟨v, now, e⟩).Sound := hcourse.sound hstart
      rw [stands_append_singleton, ← ih]
      exact hv.waitsFor_after

omit [HistoryStore η] in
/-- An event that shows nothing is not the answer to the request under way. -/
theorem shows_iff_of_none {actions : List Action} (h : actions.all fun a => !a.showsEntity)
    {P : Prop} (hP : ¬ P) : (∃ data, Action.render .detail data ∈ actions) ↔ P := by
  refine iff_of_false ?_ hP
  rintro ⟨data, hmem⟩
  simpa [Action.showsEntity] using List.all_eq_true.1 h _ hmem

/-- An entity is shown exactly when it answers the request under way. -/
theorem Sound.shows_iff {v : View η} (hv : v.Sound) {now : Int} {e : Event} :
    (∃ data, Action.render .detail data ∈ (v.step now e).emitted) ↔
      ∃ ticket entity, e = .storeReplied ticket (.entity entity) ∧ v.ownsDetail ticket = true := by
  have hdoes := hv.does now e
  generalize v.step now e = t at hdoes
  cases hdoes with
  | quiet hroute hreset howned hturn =>
      refine shows_iff_of_none (List.all_eq_true.2 fun a ha => ?_) ?_
      · rw [(hturn.emitted a ha).1.2.2]
        rfl
      · rintro ⟨ticket, entity, he, howns⟩
        simp [howned ticket _ he] at howns
  | unresolved hresolve => exact shows_iff_of_none rfl (by simp)
  | route hresolve ha hspec =>
      obtain ⟨paths, hasks, -⟩ := hspec.asks
      exact shows_iff_of_none hasks.shows (by simp)
  | @answer ticket reply actions w howned hspec =>
      have hany : (∃ data, Action.render .detail data ∈ actions) ↔ reply.isEntity = true := by
        rw [← hspec.shows, List.any_eq_true]
        constructor
        · rintro ⟨data, hmem⟩
          exact ⟨_, hmem, rfl⟩
        · rintro ⟨a, hmem, hshow⟩
          obtain ⟨data, rfl⟩ := Action.showsEntity_iff.1 hshow
          exact ⟨data, hmem⟩
      rw [Turn.emitted_done, hany]
      cases reply <;> simp [StoreReply.isEntity, howned]
  | reset =>
      refine shows_iff_of_none ?_ (by simp)
      rw [onSessionReset_eq]
      split <;> rfl

/-- An entity is shown exactly when it answers the request that stands, and no other event shows
one. -/
theorem Course.shows_iff_stands {page : String} {delay : Nat} {history : η} {start v : View η}
    {ms : List (Moment η)} (hpage : ':' ∉ page.toList)
    (hstart : View.initial page delay history = .ok start) (h : Course start ms v) (now : Int)
    (e : Event) :
    (∃ data, Action.render .detail data ∈ (Moment.emitted ⟨v, now, e⟩)) ↔
      ∃ ticket entity id, e = .storeReplied ticket (.entity entity) ∧ Stands ms ticket id := by
  have hsound : start.Sound := Sound.initial hpage hstart
  have hv : v.Sound := h.sound hsound
  have hpending : start.pending = none := by
    obtain ⟨table, -, rfl⟩ := initial_eq_ok_iff.1 hstart
    rfl
  rw [Moment.emitted, Moment.turn, hv.shows_iff]
  constructor
  · rintro ⟨ticket, entity, rfl, howns⟩
    obtain ⟨id, hwaits⟩ := hv.ownsDetail_iff_exists.1 howns
    exact ⟨ticket, entity, id, rfl, (h.waitsFor_iff_stands hsound hpending).1 hwaits⟩
  · rintro ⟨ticket, entity, id, rfl, hstands⟩
    refine ⟨ticket, entity, rfl, hv.ownsDetail_iff_exists.2 ⟨id, ?_⟩⟩
    exact (h.waitsFor_iff_stands hsound hpending).2 hstands

/-- After the route of an entity, the reply that brings it shows it. -/
theorem shows_configs_entity : ∃ start : View History,
    View.initial "configs" 500 (History.inMemory 10) = .ok start ∧
    ∃ data, Action.render .detail data ∈
      Moment.emitted ⟨(start.step 0 (.routeChanged "configs/1")).view, 0,
        .storeReplied ⟨2⟩ (.entity ⟨"1", "ViewDefinition", "fx", .null⟩)⟩ := by
  obtain ⟨start, hstart⟩ : ∃ start, View.initial "configs" 500 (History.inMemory 10) = .ok start :=
    ⟨_, rfl⟩
  have hgets : (Moment.gets ⟨start, 0, .routeChanged "configs/1"⟩).getLast? = some (⟨2⟩, "1") := by
    obtain rfl := Except.ok.inj hstart
    rfl
  refine ⟨start, hstart, (Course.shows_iff_stands (by decide) hstart
    (.step .start 0 (.routeChanged "configs/1")) 0 _).2 ⟨⟨2⟩, _, "1", rfl, ?_⟩⟩
  exact ⟨[], _, [], rfl, hgets, by simp⟩

end View

end ConfigBrowser
