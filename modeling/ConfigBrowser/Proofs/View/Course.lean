import ConfigBrowser.Proofs.View.Outcomes
import ConfigBrowser.Proofs.View.Routes

/-!
# Courses of Events

A view handles one event after the other. A moment is an event with the view that handles it, and a
course is the list of all moments from the first view on. What is said about every course is said
about every order in which routes, replies, timers and decisions may reach the view.

## Main results

* `View.quietTurn_step`: what all events but a few leave alone.
* `View.Sound.does`: what an event can do.
* `View.Sound.step`: what is known of the view holds after every event.
-/

namespace ConfigBrowser

/-! ### The reply to the request under way -/

/-- Does a reply bring an entity? -/
def StoreReply.isEntity : StoreReply → Bool
  | entity _ => true
  | _ => false

namespace View

variable {η : Type}

/-- What the reply to the request under way does: the wait is over, and an entity is shown exactly
when the reply brings one. -/
structure Answers (v : View η) (reply : StoreReply) (actions : List Action) (w : View η) :
    Prop where
  page : w.page = v.page
  table : w.table = v.table
  reconciler : w.reconciler = v.reconciler
  current : w.current = v.current
  pending : w.pending = none
  searches : actions.filterMap Action.search? = []
  gets : actions.filterMap Action.get? = []
  paths : actions.filterMap Action.path? = []
  shows : actions.any Action.showsEntity = reply.isEntity

variable [HistoryStore η] {v : View η}

/-- The reply to the request under way shows the entity that it brings, to which there is a path,
or else reports what is wrong with it. -/
theorem Sound.onDetailReply_cases (hv : v.Sound) {p : PendingDetail} (hpending : v.pending = some p)
    (now : Int) (reply : StoreReply) :
    (∃ e history favorited, reply = .entity e ∧ v.onDetailReply now reply =
      .done [.cancelTimer p.ticket, .render .detail (Template.detailData e p.editable favorited),
        .favoriteChanged favorited, .clearMessage, .enableEditAffordance]
        { v with pending := none, history, displayed := some (e, p.args) }) ∨
    ∃ text, reply.isEntity = false ∧ v.onDetailReply now reply =
      .done [.cancelTimer p.ticket, .clearMessage, .showError text] { v with pending := none } := by
  obtain ⟨path, hpath⟩ := hv.exists_hash_loadConfigs (hv.pending p hpending)
  have hdetail : View.detailPath { v with pending := none } p.args = .ok path := hpath
  simp only [View.onDetailReply, hpending, Turn.andThen_done]
  cases reply with
  | entity e =>
      simp only [showEntity, hdetail]
      exact .inl ⟨_, _, _, rfl, rfl⟩
  | _ => exact .inr ⟨_, rfl, rfl⟩

/-- A reply to the request under way is answered by showing what came of it. -/
theorem Sound.onDetailReply (hv : v.Sound) (hpending : v.pending.isSome = true) (now : Int)
    (reply : StoreReply) :
    ∃ actions w, v.onDetailReply now reply = .done actions w ∧ v.Answers reply actions w := by
  obtain ⟨p, hp⟩ := Option.isSome_iff_exists.1 hpending
  rcases hv.onDetailReply_cases hp now reply with
    ⟨e, history, favorited, rfl, hturn⟩ | ⟨text, hnone, hturn⟩
  · exact ⟨_, _, hturn, rfl, rfl, rfl, rfl, rfl, rfl, rfl, rfl, rfl⟩
  · exact ⟨_, _, hturn, rfl, rfl, rfl, rfl, rfl, rfl, rfl, rfl, hnone.symm⟩

/-! ### Events aside from routes -/

/-- Only routes, resets and the reply to the request under way concern routes, the list or the
detail pane. -/
theorem quietTurn_step (now : Int) {e : Event} (hroute : ∀ path, e ≠ .routeChanged path)
    (hreset : e ≠ .sessionReset)
    (howned : ∀ ticket reply, e = .storeReplied ticket reply → v.ownsDetail ticket = false) :
    v.QuietTurn (v.quietDestination e) (v.step now e) := by
  have houtcome := v.outcome_step now e
  generalize v.step now e = t at houtcome
  cases houtcome with
  | ignored => exact QuietTurn.done (.refl v) ⟨rfl, rfl, rfl, rfl⟩
  | route => exact absurd rfl (hroute _)
  | reset => exact absurd rfl hreset
  | answered hpending =>
      have hnot := howned _ _ rfl
      simp [ownsDetail_iff_pending.2 ⟨_, hpending, rfl⟩] at hnot
  | escalated hpending =>
      exact QuietTurn.done ⟨rfl, rfl, rfl, rfl, by rw [hpending]; rfl⟩ ⟨rfl, rfl, rfl, rfl⟩
  | listed hsearch ha =>
      rcases ha with ⟨rows, rfl⟩ | ⟨text, rfl⟩
      · exact QuietTurn.done ⟨rfl, rfl, rfl, rfl, rfl⟩ ⟨rfl, rfl, rfl, rfl⟩
      · exact QuietTurn.done ⟨rfl, rfl, rfl, rfl, rfl⟩ ⟨rfl, rfl, rfl, rfl⟩
  | led hto => exact hto ▸ QuietTurn.redirect (.refl v) _ _
  | @favored changed =>
      cases changed with
      | error err => exact Turn.Within.fail ⟨rfl, rfl, rfl, rfl, rfl⟩
      | ok favorited => exact QuietTurn.done ⟨rfl, rfl, rfl, rfl, rfl⟩ ⟨rfl, rfl, rfl, rfl⟩
  | @created p ticket name id path history hdialog hwaits hpurpose hpath =>
      refine ⟨⟨rfl, rfl, rfl, rfl, rfl⟩, fun a ha => ?_⟩
      rcases List.mem_cons.1 ha with rfl | ha
      · exact ⟨⟨rfl, rfl, rfl⟩, fun _ hnone => by simp [Action.path?] at hnone⟩
      · obtain rfl := List.mem_singleton.1 ha
        refine ⟨⟨rfl, rfl, rfl⟩, ?_⟩
        rintro _ ⟨⟩
        exact ⟨_, _, rfl, hpath⟩
  | lost => exact Turn.Within.fail ⟨rfl, rfl, rfl, rfl, rfl⟩
  | deleted =>
      have hclosed : v.Aside { v with dialog := none } := ⟨rfl, rfl, rfl, rfl, rfl⟩
      exact QuietTurn.redirect hclosed _ _
  | _ => exact QuietTurn.done ⟨rfl, rfl, rfl, rfl, rfl⟩ ⟨rfl, rfl, rfl, rfl⟩

/-! ### What an event can do -/

omit [HistoryStore η] in
/-- A reply belongs to the request under way only if there is one. -/
theorem isSome_pending_of_ownsDetail {ticket : Ticket} (h : v.ownsDetail ticket = true) :
    v.pending.isSome = true := by
  rw [ownsDetail] at h
  cases hp : v.pending with
  | none => simp [hp] at h
  | some p => rfl

/-- What an event can do to a view, by the turns it can lead to. -/
inductive Does (v : View η) : Event → Turn η → Prop where
  /-- The event concerns neither routes nor the list nor the detail pane. -/
  | quiet {e : Event} {t : Turn η} (hroute : ∀ path, e ≠ .routeChanged path)
      (hreset : e ≠ .sessionReset)
      (howned : ∀ ticket reply, e = .storeReplied ticket reply → v.ownsDetail ticket = false)
      (hturn : v.QuietTurn (v.quietDestination e) t) : Does v e t
  /-- A path that resolves to nothing changes nothing. -/
  | unresolved {path : String} {err : Error} (hresolve : v.table.resolve path = .error err) :
      Does v (.routeChanged path) (.done [] v)
  /-- A route that resolves is entered and handled. -/
  | route {path : String} {h : Handler} {args : RouteArgs} {actions : List Action} {w : View η}
      (hresolve : v.table.resolve path = .ok (h, args)) (ha : h.Admits args)
      (hspec : (v.entered path h args).Handles h args actions w) :
      Does v (.routeChanged path) (.done actions w)
  /-- The request under way is answered. -/
  | answer {ticket : Ticket} {reply : StoreReply} {actions : List Action} {w : View η}
      (howned : v.ownsDetail ticket = true) (hspec : v.Answers reply actions w) :
      Does v (.storeReplied ticket reply) (.done actions w)
  /-- The view is entered anew. -/
  | reset : Does v .sessionReset v.onSessionReset

/-- On a page without a colon in its name every event does one of these. -/
theorem Sound.does (hv : v.Sound) (now : Int) (e : Event) : v.Does e (v.step now e) := by
  by_cases hquiet : (∀ path, e ≠ .routeChanged path) ∧ e ≠ .sessionReset ∧
      ∀ ticket reply, e = .storeReplied ticket reply → v.ownsDetail ticket = false
  · obtain ⟨hroute, hreset, howned⟩ := hquiet
    exact .quiet hroute hreset howned (quietTurn_step now hroute hreset howned)
  · cases e with
    | routeChanged path =>
        cases hresolve : v.table.resolve path with
        | error e =>
            rw [step_routeChanged_of_error hresolve]
            exact .unresolved hresolve
        | ok route =>
            obtain ⟨h, args⟩ := route
            obtain ⟨actions, w, hstep, hspec⟩ := hv.step_routeChanged hresolve now
            rw [hstep]
            exact .route hresolve (admits_of_resolve hv.colon hv.table hresolve) hspec
    | storeReplied ticket reply =>
        have howned : v.ownsDetail ticket = true := by
          by_contra hnot
          refine hquiet ⟨by simp, by simp, ?_⟩
          rintro _ _ ⟨⟩
          simpa using hnot
        obtain ⟨actions, w, hturn, hspec⟩ :=
          hv.onDetailReply (isSome_pending_of_ownsDetail howned) now reply
        rw [step, onStoreReplied, if_pos howned, hturn]
        exact .answer howned hspec
    | sessionReset => exact .reset
    | _ => exact absurd ⟨by simp, by simp, by simp⟩ hquiet

end View

/-! ### Moments -/

/-- A moment of a longer course is the new one at the end, or it was there before. -/
theorem eq_or_exists_of_append_singleton {α : Type} {xs before after : List α} {x y : α}
    (h : xs ++ [x] = before ++ y :: after) :
    (before = xs ∧ y = x ∧ after = []) ∨ ∃ middle, after = middle ++ [x] ∧
      xs = before ++ y :: middle := by
  rcases List.append_eq_append_iff.1 h with ⟨front, rfl, hx⟩ | ⟨front, rfl, hy⟩
  · cases front with
    | nil =>
        obtain ⟨rfl, rfl⟩ := List.cons.inj hx
        exact .inl ⟨List.append_nil _, rfl, rfl⟩
    | cons z front => simp at hx
  · cases front with
    | nil =>
        obtain ⟨rfl, rfl⟩ := List.cons.inj hy
        exact .inl ⟨(List.append_nil _).symm, rfl, rfl⟩
    | cons z front =>
        obtain ⟨rfl, rfl⟩ := List.cons.inj hy
        exact .inr ⟨front, rfl, rfl⟩

/-- One of the items has a first property, and every later one has a second. -/
def Since {α : Type} (begins keeps : α → Prop) (xs : List α) : Prop :=
  ∃ before x after, xs = before ++ x :: after ∧ begins x ∧ ∀ y ∈ after, keeps y

/-- Nothing has begun where nothing has happened. -/
theorem not_since_nil {α : Type} {begins keeps : α → Prop} : ¬ Since begins keeps [] := by
  rintro ⟨before, x, after, hsplit, -⟩
  simp at hsplit

/-- A longer course begins anew with its last item, or has begun before and is kept by it. -/
theorem since_append_singleton {α : Type} {begins keeps : α → Prop} {xs : List α} {x : α} :
    Since begins keeps (xs ++ [x]) ↔ begins x ∨ Since begins keeps xs ∧ keeps x := by
  constructor
  · rintro ⟨before, y, after, hsplit, hbegins, hkept⟩
    rcases eq_or_exists_of_append_singleton hsplit with ⟨-, rfl, -⟩ | ⟨middle, rfl, rfl⟩
    · exact .inl hbegins
    · refine .inr ⟨⟨before, y, middle, rfl, hbegins, fun z hz => hkept z ?_⟩, hkept _ ?_⟩
      · exact List.mem_append_left _ hz
      · exact List.mem_append_right _ List.mem_cons_self
  · rintro (hbegins | ⟨⟨before, y, after, rfl, hbegins, hkept⟩, hkeeps⟩)
    · exact ⟨xs, x, [], rfl, hbegins, by simp⟩
    · refine ⟨before, y, after ++ [x], by simp, hbegins, fun z hz => ?_⟩
      rcases List.mem_append.1 hz with hz | hz
      · exact hkept z hz
      · obtain rfl := List.mem_singleton.1 hz
        exact hkeeps

/-- An event with the view that handles it and the reading of the clock. -/
structure Moment (η : Type) where
  view : View η
  now : Int
  event : Event

namespace Moment

variable {η : Type} [HistoryStore η]

/-- The turn that the view takes. -/
def turn (m : Moment η) : Turn η := m.view.step m.now m.event

/-- The view after the event. -/
def after (m : Moment η) : View η := m.turn.view

/-- The actions that the view takes; none if the event fails. -/
def emitted (m : Moment η) : List Action := m.turn.emitted

omit [HistoryStore η] in
/-- The route that resolves at the moment. -/
def route? (m : Moment η) : Option (Handler × RouteArgs) :=
  match m.event with
  | .routeChanged path => (m.view.table.resolve path).toOption
  | _ => none

section Route

variable {v : View η} {path : String} (now : Int)

omit [HistoryStore η] in
/-- A moment at which a path resolves is one of that route. -/
theorem route?_of_resolve {route : Handler × RouteArgs} (h : v.table.resolve path = .ok route) :
    route? ⟨v, now, .routeChanged path⟩ = some route := by
  simp only [route?, h]
  rfl

omit [HistoryStore η] in
/-- A moment at which a path does not resolve is one of no route. -/
theorem route?_of_error {e : Error} (h : v.table.resolve path = .error e) :
    route? ⟨v, now, .routeChanged path⟩ = none := by
  simp only [route?, h]
  rfl

end Route

end Moment

namespace View

variable {η : Type}

/-- The moments of a course of events that begins with one view and has led to another. -/
inductive Course [HistoryStore η] (start : View η) : List (Moment η) → View η → Prop where
  | start : Course start [] start
  | step {ms : List (Moment η)} {v : View η} (h : Course start ms v) (now : Int) (e : Event) :
      Course start (ms ++ [⟨v, now, e⟩]) (v.step now e).view

/-- The first view of a page has the page's table and nothing else. -/
theorem initial_eq_ok_iff {page : String} {delay : Nat} {history : η} {v : View η} :
    View.initial page delay history = .ok v ↔ ∃ table, pageTable page = .ok table ∧ v =
      { page, loadingDelay := delay, table, history, reconciler := .initial, filtered := false,
        current := none, toolbar := none, pending := none, displayed := none, mode := .viewing,
        latestSearch := none, dialog := none, lastTicket := 0 } := by
  rw [View.initial]
  cases pageTable page with
  | error e => simp [Except.map]
  | ok table => simp [Except.map, eq_comm]

/-- A new view is sound on every page without a colon in its name. -/
theorem Sound.initial {page : String} {delay : Nat} {history : η} {v : View η}
    (hpage : ':' ∉ page.toList) (hv : View.initial page delay history = .ok v) : v.Sound := by
  obtain ⟨table, htable, rfl⟩ := initial_eq_ok_iff.1 hv
  exact ⟨hpage, htable, by simp, by simp⟩

section Step

variable [HistoryStore η] {v : View η}

omit [HistoryStore η] in
/-- The view that a route leaves is sound. -/
theorem Sound.of_handles (hv : v.Sound) {path : String} {h : Handler} {args : RouteArgs}
    {actions : List Action} {w : View η} (ha : h.Admits args)
    (hspec : (v.entered path h args).Handles h args actions w) : w.Sound where
  colon := by rw [hspec.page]; exact hv.colon
  table := by rw [hspec.page, hspec.table]; exact hv.table
  current route hroute := by
    rw [hspec.current] at hroute
    obtain rfl := Option.some.inj hroute
    exact ha
  pending p hp := by
    have hrequest : (v.entered path h args).requestAfter args h = some p.request := by
      rw [← hspec.pending, hp, Option.map_some]
    rw [requestAfter] at hrequest
    split at hrequest
    · next hh =>
      subst hh
      obtain ⟨id, hid⟩ := ha.exists_id rfl
      rw [← (Prod.mk.inj (Option.some.inj hrequest)).2, hid]
      rfl
    · split at hrequest
      · simp at hrequest
      · obtain ⟨q, hq, hqp⟩ := Option.map_eq_some_iff.1 hrequest
        rw [← (Prod.mk.inj hqp).2]
        exact (hv.of_entered ha path).pending q hq

/-- What is known of the view holds after every event. -/
theorem Sound.step (hv : v.Sound) (now : Int) (e : Event) : (v.step now e).view.Sound := by
  have hdoes := hv.does now e
  generalize v.step now e = t at hdoes ⊢
  cases hdoes with
  | quiet hroute hreset howned hturn => exact hv.of_aside hturn.view
  | unresolved hresolve => exact hv
  | route hresolve ha hspec => exact hv.of_handles ha hspec
  | @answer ticket reply actions w howned hspec =>
      exact ⟨hspec.page ▸ hv.colon, by rw [Turn.view_done, hspec.page, hspec.table, hv.table],
        fun route hroute => hv.current route (hspec.current ▸ hroute),
        fun p hp => by simp [hspec.pending] at hp⟩
  | reset => exact hv.of_aside v.aside_onSessionReset

/-- No event changes the page. -/
theorem Sound.page_step (hv : v.Sound) (now : Int) (e : Event) :
    (v.step now e).view.page = v.page := by
  have hdoes := hv.does now e
  generalize v.step now e = t at hdoes ⊢
  cases hdoes with
  | quiet hroute hreset howned hturn => exact hturn.view.page
  | unresolved hresolve => rfl
  | route hresolve ha hspec => exact hspec.page
  | answer howned hspec => exact hspec.page
  | reset => exact v.aside_onSessionReset.page

/-- What is known of the view holds along every course. -/
theorem Course.sound {start : View η} {ms : List (Moment η)} (h : Course start ms v)
    (hstart : start.Sound) : v.Sound := by
  induction h with
  | start => exact hstart
  | step _ now e ih => exact ih.step now e

/-- At every moment of a course the view is sound. -/
theorem Course.sound_of_mem {start : View η} {ms : List (Moment η)} (h : Course start ms v)
    (hstart : start.Sound) {m : Moment η} (hm : m ∈ ms) : m.view.Sound := by
  induction h with
  | start => simp at hm
  | step h now e ih =>
      rcases List.mem_append.1 hm with hm | hm
      · exact ih hm
      · rw [List.mem_singleton.1 hm]
        exact h.sound hstart

/-- A course is at every one of its moments the course up to there, with the rest to come. -/
theorem Course.split {start : View η} {ms before after : List (Moment η)} {m : Moment η}
    (h : Course start ms v) (hms : ms = before ++ m :: after) :
    Course start before m.view ∧ Course m.after after v := by
  induction h generalizing after with
  | start => simp at hms
  | @step ms v h now e ih =>
      rcases eq_or_exists_of_append_singleton hms with ⟨rfl, rfl, rfl⟩ | ⟨middle, rfl, hsplit⟩
      · exact ⟨h, .start⟩
      · obtain ⟨hbefore, hafter⟩ := ih hsplit
        exact ⟨hbefore, hafter.step now e⟩

/-- A course begins with its first moment. -/
theorem Course.of_cons {start : View η} {m : Moment η} {ms : List (Moment η)}
    (h : Course start (m :: ms) v) : m.view = start ∧ Course m.after ms v := by
  obtain ⟨hbefore, hafter⟩ := h.split (List.nil_append (m :: ms)).symm
  refine ⟨?_, hafter⟩
  generalize hnil : ([] : List (Moment η)) = before at hbefore
  generalize m.view = u at hbefore ⊢
  cases hbefore with
  | start => rfl
  | step => simp at hnil

/-- The page stays the same along every course. -/
theorem Course.page {start : View η} {ms : List (Moment η)} (h : Course start ms v)
    (hstart : start.Sound) : v.page = start.page := by
  induction h with
  | start => rfl
  | step h now e ih => rw [(h.sound hstart).page_step, ih]

end Step

end View

end ConfigBrowser
