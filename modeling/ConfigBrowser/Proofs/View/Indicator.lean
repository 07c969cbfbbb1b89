import ConfigBrowser.Proofs.History.Exposed
import ConfigBrowser.Proofs.View.Signals
import Mathlib

/-!
# What the Favorite's Mark Tells

The host shows beside the displayed entity whether it is a favorite, as it was told last. It is told
when the entity is shown and when the button has been pressed. A press whose change cannot be
recorded fails and tells nothing, while the list has changed already. So the mark is wrong from then
on, until the host is told again or another press is lost in the same way.

## Main results

* `View.samePlace_step`, `View.isFavorite_step`: what an event leaves of the page and its favorites.
* `View.markMove`: what a moment makes of the mark of the displayed entity.
* `View.Course.favorite_mark`: the mark tells the truth exactly while an even number of presses has
  been lost since it was told.
-/

namespace ConfigBrowser

variable {η : Type} [HistoryStore η]

namespace View

/-- Is the entity that a path shows a favorite? -/
def isFavorite (v : View η) (path : String) : Bool :=
  HistoryStore.contains v.history (HistoryList.favorites.key v.page) path

/-! ### What events leave alone -/

/-- Two views of the same page, with the same rules. -/
structure SamePlace (v w : View η) : Prop where
  page : w.page = v.page
  table : w.table = v.table

omit [HistoryStore η] in
/-- A part of a route's work stays at its place. -/
theorem Part.samePlace {v w : View η} {actions : List Action} (h : v.Part actions w) :
    v.SamePlace w := by
  cases h <;> exact ⟨rfl, rfl⟩

omit [HistoryStore η] in
/-- The parts of a route's work stay at their place. -/
theorem Parts.samePlace {v w : View η} {actions : List Action} (h : v.Parts actions w) :
    v.SamePlace w := by
  induction h with
  | nil => exact ⟨rfl, rfl⟩
  | cons hfirst _ ih =>
      have hplace := hfirst.samePlace
      exact ⟨ih.page.trans hplace.page, ih.table.trans hplace.table⟩

/-- No event changes the page or its rules, whatever the page is called. -/
theorem samePlace_step (v : View η) (now : Int) (e : Event) : v.SamePlace (v.step now e).view := by
  have houtcome := v.outcome_step now e
  generalize v.step now e = t at houtcome
  cases houtcome with
  | route _ hparts => exact ⟨hparts.samePlace.page, hparts.samePlace.table⟩
  | answered _ hview => rw [hview]; exact ⟨rfl, rfl⟩
  | led | deleted => rw [view_redirect]; exact ⟨rfl, rfl⟩
  | reset hparts => exact hparts.samePlace
  | _ => exact ⟨rfl, rfl⟩

/-- What becomes of the history of a page where the favorites' button is not concerned: it stays as
it is, or an entry is put in front of another list. -/
inductive SparesFavorites (page : String) (history : η) : η → Prop where
  | nothing : SparesFavorites page history history
  | entry {list : HistoryList} (hlist : list ≠ .favorites) (e : HistoryEntry) :
      SparesFavorites page history (HistoryStore.put history (list.key page) e).2

section SparesFavorites

variable (v : View η) (now : Int)

/-- The reply to the request under way leaves the favorites. -/
theorem sparesFavorites_onDetailReply (reply : StoreReply) :
    SparesFavorites v.page v.history (v.onDetailReply now reply).view.history := by
  rw [onDetailReply]
  split
  · exact .nothing
  · rw [Turn.andThen_done]
    cases reply with
    | entity e =>
        simp only [showEntity]
        split
        · exact .nothing
        · exact .entry (by decide) _
    | _ => exact .nothing

/-- The reply to a change leaves the favorites. -/
theorem sparesFavorites_onMutationReply (reply : StoreReply) :
    SparesFavorites v.page v.history (v.onMutationReply now reply).view.history := by
  simp only [onMutationReply]
  split
  · exact .nothing
  · split
    · exact .nothing
    · split
      · simp only [onCreated]
        split
        · exact .nothing
        · split
          · exact .nothing
          · exact .entry (by decide) _
      · exact .nothing
      · rw [view_redirect]
        exact .nothing
      · exact .nothing

/-- No reply changes the favorites. -/
theorem sparesFavorites_onStoreReplied (ticket : Ticket) (reply : StoreReply) :
    SparesFavorites v.page v.history (v.onStoreReplied now ticket reply).view.history := by
  rw [onStoreReplied]
  split
  · exact v.sparesFavorites_onDetailReply now reply
  · split
    · cases reply <;> exact .nothing
    · split
      · exact v.sparesFavorites_onMutationReply now reply
      · exact .nothing

/-- No event but a press of the favorites' button changes the favorites. -/
theorem sparesFavorites_step {e : Event} (hbutton : e ≠ .toolbarPressed .favorites) :
    SparesFavorites v.page v.history (v.step now e).view.history := by
  have houtcome := v.outcome_step now e
  have hreplied : ∀ ticket reply, e = .storeReplied ticket reply →
      SparesFavorites v.page v.history (v.step now e).view.history := by
    rintro ticket reply rfl
    exact v.sparesFavorites_onStoreReplied now ticket reply
  generalize v.step now e = t at houtcome hreplied ⊢
  cases houtcome with
  | route _ hparts =>
      rw [hparts.frame.history]
      exact .nothing
  | reset hparts =>
      rw [Turn.view_done, hparts.frame.history]
      exact .nothing
  | favored => exact absurd rfl hbutton
  | answered | created => exact hreplied _ _ rfl
  | led | deleted =>
      rw [view_redirect]
      exact .nothing
  | _ => exact .nothing

/-- Only the button for favorites makes a path a favorite, or none any more. -/
theorem isFavorite_step [HistoryStore.Lawful η] {e : Event}
    (hbutton : e ≠ .toolbarPressed .favorites) (path : String) :
    (v.step now e).view.isFavorite path = v.isFavorite path := by
  have hspares := v.sparesFavorites_step now hbutton
  rw [isFavorite, (v.samePlace_step now e).page, isFavorite]
  generalize (v.step now e).view.history = history at hspares
  cases hspares with
  | nothing => rfl
  | entry hlist e =>
      refine HistoryStore.Lawful.contains_put_of_ne v.history (fun hkey => hlist ?_) e path
      exact (HistoryList.key_injective hkey).symm

end SparesFavorites

end View

/-! ### Telling the host -/

namespace Moment

/-- What the host is told of the mark at the moment. -/
def marks (m : Moment η) : List Bool := m.emitted.filterMap Action.favorite?

/-- Is a press of the favorites' button lost at the moment? It fails, since its change cannot be
recorded. -/
def isLost (m : Moment η) : Bool :=
  m.event = .toolbarPressed .favorites && !m.turn.answer.isOk

end Moment

/-- What the host was told of the mark last. -/
def lastMark (ms : List (Moment η)) : Option Bool := (ms.flatMap Moment.marks).getLast?

/-- How many presses have been lost since the host was told of the mark. -/
def lostPresses (ms : List (Moment η)) : Nat :=
  (ms.reverse.takeWhile fun m => m.marks = []).countP Moment.isLost

/-- The mark that a moment tells last is the last one. -/
theorem lastMark_append_singleton (ms : List (Moment η)) (m : Moment η) :
    lastMark (ms ++ [m]) = m.marks.getLast?.or (lastMark ms) := by
  rw [lastMark, List.flatMap_append, List.flatMap_singleton, List.getLast?_append, lastMark]

/-- Presses that are lost are counted from the moment at which the mark was told. -/
theorem lostPresses_append_singleton (ms : List (Moment η)) (m : Moment η) :
    lostPresses (ms ++ [m]) =
      if m.marks = [] then lostPresses ms + (if m.isLost then 1 else 0) else 0 := by
  rw [lostPresses, List.reverse_append, List.reverse_singleton, List.singleton_append,
    List.takeWhile_cons]
  by_cases hsilent : m.marks = []
  · rw [if_pos (decide_eq_true hsilent), if_pos hsilent, List.countP_cons, lostPresses]
  · rw [if_neg (by simpa using hsilent), if_neg hsilent, List.countP_nil]

namespace View

/-! ### What events make of the mark -/

/-- What a moment makes of the mark of the entity that is displayed after it. -/
inductive MarkMove (m : Moment η) (args : RouteArgs) : Prop where
  /-- The host is told the truth. -/
  | told {path : String} (hpath : m.after.detailPath args = .ok path)
      (hmarks : m.marks = [m.after.isFavorite path])
  /-- Neither the mark nor the favorites change. -/
  | kept (hdisplayed : m.view.displayed = m.after.displayed) (hmarks : m.marks = [])
      (hlost : m.isLost = false) (hsame : ∀ path, m.after.isFavorite path = m.view.isFavorite path)
  /-- The entity is turned into a favorite or the reverse, and the host is not told. -/
  | lost {path : String} (hdisplayed : m.view.displayed = m.after.displayed) (hmarks : m.marks = [])
      (hlost : m.isLost = true) (hpath : m.view.detailPath args = .ok path)
      (hturned : m.after.isFavorite path = !m.view.isFavorite path)

/-- There is a path to what is displayed. -/
def Reachable (v : View η) : Prop :=
  ∀ entity args, v.displayed = some (entity, args) → ∃ path, v.detailPath args = .ok path

section Moves

variable {v : View η} {now : Int} {entity : Entity} {args : RouteArgs}

/-- The path of an entity is written alike before and after an event. -/
theorem detailPath_step (v : View η) (now : Int) (e : Event) (args : RouteArgs) :
    (v.step now e).view.detailPath args = v.detailPath args := by
  rw [detailPath, hash, (v.samePlace_step now e).table, detailPath, hash]

/-- Where a press turns the entity of a path, it tells so if its change has been recorded. -/
theorem markMove_of_turned {α : Type} {outcome : Except Error α} {favorited : Bool} {history : η}
    {path : String} (hpath : v.detailPath args = .ok path)
    (hturn : v.step now (.toolbarPressed .favorites) =
      ⟨outcome.map fun _ => [.favoriteChanged favorited], { v with history }⟩)
    (hbefore : v.isFavorite path = !favorited)
    (hafter : HistoryStore.contains history (HistoryList.favorites.key v.page) path = favorited) :
    MarkMove ⟨v, now, .toolbarPressed .favorites⟩ args := by
  have hview : Moment.after ⟨v, now, .toolbarPressed .favorites⟩ = { v with history } := by
    rw [Moment.after, Moment.turn, hturn]
  have hfavorite : View.isFavorite { v with history } path = favorited := hafter
  cases outcome with
  | error err =>
      refine .lost (by rw [hview]) ?_ ?_ hpath ?_
      · rw [Moment.marks, Moment.emitted, Moment.turn, hturn]
        rfl
      · rw [Moment.isLost, Moment.turn, hturn]
        rfl
      · rw [hview, hfavorite, hbefore, Bool.not_not]
  | ok =>
      refine .told (by rw [hview]; exact hpath) ?_
      rw [hview, hfavorite, Moment.marks, Moment.emitted, Moment.turn, hturn]
      rfl

/-- A moment that tells nothing, and is no press, leaves the mark. -/
theorem markMove_of_silent [HistoryStore.Lawful η] {m : Moment η}
    (hbutton : m.event ≠ .toolbarPressed .favorites) (hmarks : m.marks = [])
    (hdisplayed : m.view.displayed = m.after.displayed) : MarkMove m args :=
  .kept hdisplayed hmarks (by rw [Moment.isLost, decide_eq_false hbutton, Bool.false_and])
    fun path => m.view.isFavorite_step m.now hbutton path

/-- A press of the button turns the displayed entity, and tells so unless it is lost. -/
theorem markMove_press [HistoryStore.Lawful η] (hreachable : v.Reachable)
    (hdisplayed : v.displayed = some (entity, args)) :
    MarkMove ⟨v, now, .toolbarPressed .favorites⟩ args := by
  obtain ⟨path, hpath⟩ := hreachable entity args hdisplayed
  let key := HistoryList.favorites.key v.page
  by_cases henabled : (v.toolbar.getD .noSelection).isEnabled .favorites = true
  · have hpress : v.step now (.toolbarPressed .favorites) = v.toggleFavorite now := by
      rw [step, onToolbar, if_pos henabled]
    cases hfavorite : v.isFavorite path with
    | true =>
        have hturn : v.step now (.toolbarPressed .favorites) =
            ⟨(HistoryStore.remove v.history key path).1.map fun _ => [.favoriteChanged false],
              { v with history := (HistoryStore.remove v.history key path).2 }⟩ := by
          rw [isFavorite] at hfavorite
          simp only [hpress, toggleFavorite, hdisplayed, hpath, hfavorite, if_true]
          rfl
        exact markMove_of_turned hpath hturn hfavorite
          (HistoryStore.Lawful.contains_remove v.history key path)
    | false =>
        have hturn : v.step now (.toolbarPressed .favorites) =
            ⟨(HistoryStore.put v.history key ⟨entity.name, path, now⟩).1.map fun _ =>
                [.favoriteChanged true],
              { v with
                history := (HistoryStore.put v.history key ⟨entity.name, path, now⟩).2 }⟩ := by
          rw [isFavorite] at hfavorite
          simp only [hpress, toggleFavorite, hdisplayed, hpath, hfavorite, Bool.false_eq_true,
            if_false]
          rfl
        exact markMove_of_turned hpath hturn hfavorite
          (HistoryStore.Lawful.contains_put v.history key ⟨entity.name, path, now⟩)
  · have hturn : v.step now (.toolbarPressed .favorites) = .done [] v := by
      rw [step, onToolbar, if_neg henabled]
    have hview : Moment.after ⟨v, now, .toolbarPressed .favorites⟩ = v := by
      rw [Moment.after, Moment.turn, hturn, Turn.view_done]
    refine .kept (by rw [hview]) ?_ ?_ (fun path => by rw [hview])
    · rw [Moment.marks, Moment.emitted, Moment.turn, hturn]
      rfl
    · rw [Moment.isLost, Moment.turn, hturn]
      rfl

/-- The reply that brings an entity tells of its mark. If there is no path to it, it is not
shown. -/
theorem markMove_reply [HistoryStore.Lawful η] {p : PendingDetail} (hpending : v.pending = some p)
    {brought : Entity}
    (hdisplayed : (Moment.after ⟨v, now, .storeReplied p.ticket (.entity brought)⟩).displayed =
      some (entity, args)) :
    MarkMove ⟨v, now, .storeReplied p.ticket (.entity brought)⟩ args := by
  have hturn : v.step now (.storeReplied p.ticket (.entity brought)) =
      (Turn.done [.cancelTimer p.ticket] { v with pending := none }).andThen
        fun v => v.showEntity now brought p.args p.editable := by
    rw [step, onStoreReplied, if_pos (ownsDetail_iff_pending.2 ⟨p, hpending, rfl⟩), onDetailReply,
      hpending]
  cases hpath : View.detailPath { v with pending := none } p.args with
  | error err =>
      simp only [showEntity, Turn.andThen_done, hpath] at hturn
      refine markMove_of_silent (by simp) ?_ ?_
      · rw [Moment.marks, Moment.emitted, Moment.turn, hturn]
        rfl
      · rw [Moment.after, Moment.turn, hturn]
        rfl
  | ok path =>
      simp only [showEntity, Turn.andThen_done, hpath] at hturn
      rw [Moment.after, Moment.turn, hturn] at hdisplayed
      obtain ⟨rfl, rfl⟩ := Prod.mk.inj (Option.some.inj hdisplayed)
      have hafter : (Moment.after ⟨v, now, .storeReplied p.ticket (.entity brought)⟩).detailPath
          p.args = .ok path := by
        rw [Moment.after, Moment.turn, detailPath_step]
        exact hpath
      refine .told hafter ?_
      rw [Moment.marks, Moment.emitted, Moment.after, Moment.turn, hturn]
      rfl

/-- What a moment makes of the mark of the entity that is displayed after it. -/
theorem markMove [HistoryStore.Lawful η] {m : Moment η} (hreachable : m.view.Reachable)
    (hdisplayed : m.after.displayed = some (entity, args)) : MarkMove m args := by
  by_cases hreply : ∃ p brought, m.view.pending = some p ∧
      m.event = .storeReplied p.ticket (.entity brought)
  · obtain ⟨v, now, e⟩ := m
    obtain ⟨p, brought, hpending, rfl⟩ := hreply
    exact markMove_reply hpending hdisplayed
  · have hsame : m.view.displayed = some (entity, args) := by
      rcases displayed_step m hdisplayed with hshows | hsame
      · obtain ⟨p, hpending, -, hevent⟩ := hshows.replied
        exact absurd ⟨p, entity, hpending, hevent⟩ hreply
      · exact hsame
    by_cases hbutton : m.event = .toolbarPressed .favorites
    · obtain ⟨v, now, e⟩ := m
      obtain rfl : e = _ := hbutton
      exact markMove_press hreachable hsame
    · refine markMove_of_silent hbutton (List.filterMap_eq_nil_iff.2 fun a ha => ?_)
        (hsame.trans hdisplayed.symm)
      exact favorite?_of_mem_step hbutton
        (fun p brought hpending hevent => hreply ⟨p, brought, hpending, hevent⟩) ha

end Moves

/-! ### Any course of events -/

/-- After any course of events: there is a path to the displayed entity, the host has been told of
its mark, and what it was told last is the truth exactly if an even number of presses has been lost
since. -/
theorem Course.mark_iff [HistoryStore.Lawful η] {start v : View η} {ms : List (Moment η)}
    (hstart : start.displayed = none) (h : Course start ms v) {entity : Entity} {args : RouteArgs}
    (hdisplayed : v.displayed = some (entity, args)) :
    ∃ path favorited, v.detailPath args = .ok path ∧ lastMark ms = some favorited ∧
      (favorited = v.isFavorite path ↔ Even (lostPresses ms)) := by
  induction h generalizing entity args with
  | start => cases hstart.symm.trans hdisplayed
  | @step ms v h now e ih =>
      have hreachable : v.Reachable := fun entity args hbefore =>
        (ih hbefore).imp fun _ ⟨_, hpath, _⟩ => hpath
      have hmove : MarkMove ⟨v, now, e⟩ args := markMove hreachable hdisplayed
      rw [lastMark_append_singleton, lostPresses_append_singleton]
      cases hmove with
      | @told path hpath hmarks =>
          refine ⟨path, _, hpath, by rw [hmarks]; rfl, ?_⟩
          rw [hmarks, if_neg (List.cons_ne_nil _ _)]
          exact iff_of_true rfl Even.zero
      | kept hsame hmarks hlost hfavorites =>
          obtain ⟨path, favorited, hpath, hlast, hiff⟩ := ih (hsame.trans hdisplayed)
          refine ⟨path, favorited, (detailPath_step v now e args).trans hpath, ?_, ?_⟩
          · rw [hmarks, hlast]
            rfl
          · rw [hmarks, if_pos rfl, hlost]
            exact hfavorites path ▸ hiff
      | @lost turned hsame hmarks hlost hpath' hturned =>
          obtain ⟨path, favorited, hpath, hlast, hiff⟩ := ih (hsame.trans hdisplayed)
          obtain rfl : turned = path := Except.ok.inj (hpath'.symm.trans hpath)
          refine ⟨turned, favorited, (detailPath_step v now e args).trans hpath, ?_, ?_⟩
          · rw [hmarks, hlast]
            rfl
          · have hnow : View.isFavorite (v.step now e).view turned = !v.isFavorite turned := hturned
            rw [hmarks, if_pos rfl, hlost, if_pos rfl, Nat.even_add_one, ← hiff, hnow]
            cases favorited <;> cases v.isFavorite turned <;> decide

/-- Whichever changes of the history can be recorded, after any course of events in which an entity
is displayed: there is a path to it, and the host has been told whether it is a favorite. What it
was told last is the truth exactly if an even number of presses of the favorites' button has been
lost since. -/
theorem Course.favorite_mark {page : String} {delay : Nat} {history : ExposedHistory}
    {start v : View ExposedHistory} {ms : List (Moment ExposedHistory)}
    (hstart : View.initial page delay history = .ok start) (h : Course start ms v)
    {entity : Entity} {args : RouteArgs} (hdisplayed : v.displayed = some (entity, args)) :
    ∃ path favorited, v.detailPath args = .ok path ∧ lastMark ms = some favorited ∧
      (favorited = HistoryStore.contains v.history (HistoryList.favorites.key v.page) path ↔
        Even (lostPresses ms)) := by
  obtain ⟨table, -, rfl⟩ := initial_eq_ok_iff.1 hstart
  exact h.mark_iff rfl hdisplayed

/-- The entity `1` is shown, and becomes a favorite by a press whose change is not recorded. The
host has been told that it is none. -/
theorem favorite_mark_lost : ∃ (start v : View ExposedHistory) (ms : List (Moment ExposedHistory)),
    View.initial "configs" 500
        ⟨⟨.initial, 10, by decide, false, some ⟨none, none, .granted⟩⟩,
          fun n => if n = 1 then .renameRefused else .granted⟩ = .ok start ∧
    Course start ms v ∧ ∃ entity args path, v.displayed = some (entity, args) ∧
      v.detailPath args = .ok path ∧ lastMark ms = some false ∧ lostPresses ms = 1 ∧
      HistoryStore.contains v.history (HistoryList.favorites.key v.page) path = true := by
  obtain ⟨start, hstart⟩ : ∃ start, View.initial "configs" 500
        (⟨⟨.initial, 10, by decide, false, some ⟨none, none, .granted⟩⟩,
          fun n => if n = 1 then .renameRefused else .granted⟩ : ExposedHistory) = .ok start :=
    ⟨_, rfl⟩
  have hpressed := Course.step (.step (.step (.start : Course start [] start) 0
    (.routeChanged "configs/1")) 0
    (.storeReplied ⟨2⟩ (.entity ⟨"1", "ViewDefinition", "fx", .null⟩))) 0
    (.toolbarPressed .favorites)
  obtain ⟨v, ms, hcourse, hsome, hlast, hlost⟩ : ∃ v ms, Course start ms v ∧
      v.displayed.isSome = true ∧ lastMark ms = some false ∧ lostPresses ms = 1 := by
    refine ⟨_, _, hpressed, ?_, ?_, ?_⟩
    all_goals
      obtain rfl := Except.ok.inj hstart
      decide +kernel
  obtain ⟨⟨entity, args⟩, hdisplayed⟩ := Option.isSome_iff_exists.1 hsome
  obtain ⟨path, favorited, hpath, hmark, hiff⟩ := hcourse.favorite_mark hstart hdisplayed
  obtain rfl : false = favorited := Option.some.inj (hlast.symm.trans hmark)
  have hodd : ¬ Even (lostPresses ms) := by rw [hlost]; decide
  have hwrong := mt hiff.1 hodd
  exact ⟨start, v, ms, hstart, hcourse, entity, args, path, hdisplayed, hpath, hlast, hlost,
    by simpa using hwrong⟩

end View

end ConfigBrowser
