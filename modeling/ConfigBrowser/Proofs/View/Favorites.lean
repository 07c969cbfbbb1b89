import ConfigBrowser.Proofs.View.Pane

/-!
# Which Entity Becomes a Favorite

The favorites' button acts on the entity in the detail pane, while it can be pressed when the
current route selects one. The pane lags behind the route: until the selected entity has been
brought, or when it is never brought, the pane stays with the one shown before. A route with a flag
behind the id that opens a new page selects an entity that the pane does not turn to at all.

What the pane shows goes back to the reply that brought it, for the entity that was selected at that
time. So the favorite is the selected entity exactly if the last route since then, if there is one,
still selects it.

## Main results

* `View.favored_of_changed`: what the button does to the favorites.
* `View.Course.exists_showing`: the moment at which the displayed entity was shown.
* `View.Course.favorites_displayed`: which entity is marked, and when it is the selected one.
-/

namespace ConfigBrowser

variable {η : Type} [HistoryStore η]

namespace View

/-! ### What is displayed -/

/-- What is displayed goes back to the reply that brought it, and has been displayed ever since. -/
theorem Course.exists_showing {start v : View η} {ms : List (Moment η)} (h : Course start ms v)
    (hstart : start.displayed = none) {entity : Entity} {args : RouteArgs}
    (hdisplayed : v.displayed = some (entity, args)) :
    Since (·.Shows entity args) (·.after.displayed = some (entity, args)) ms := by
  induction h with
  | start => simp [hstart] at hdisplayed
  | @step ms v h now e ih =>
      rw [since_append_singleton]
      exact (displayed_step ⟨v, now, e⟩ hdisplayed).imp_right fun hbefore =>
        ⟨ih hbefore, hdisplayed⟩

/-! ### What the button does -/

/-- The history once the entity of a path has become a favorite, or is none any more. -/
def favored (v : View η) (now : Int) (name path : String) : η :=
  if HistoryStore.contains v.history (HistoryList.favorites.key v.page) path then
    (HistoryStore.remove v.history (HistoryList.favorites.key v.page) path).2
  else (HistoryStore.put v.history (HistoryList.favorites.key v.page) ⟨name, path, now⟩).2

/-- Where the favorites' button changes the history, it marks the displayed entity or unmarks
it. -/
theorem favored_of_changed {v : View η} {now : Int}
    (hchanged : (v.step now (.toolbarPressed .favorites)).view.history ≠ v.history) :
    (v.toolbar.getD .noSelection).isEnabled .favorites = true ∧
      ∃ entity args path, v.displayed = some (entity, args) ∧ v.detailPath args = .ok path ∧
        (v.step now (.toolbarPressed .favorites)).view.history =
          v.favored now entity.name path := by
  rw [step, onToolbar] at hchanged ⊢
  split at hchanged
  · next henabled =>
    rw [if_pos henabled]
    refine ⟨henabled, ?_⟩
    simp only [toggleFavorite] at hchanged ⊢
    split at hchanged
    · exact absurd rfl hchanged
    · next entity args hdisplayed =>
      split at hchanged
      · exact absurd rfl hchanged
      · next path hpath =>
        refine ⟨entity, args, path, hdisplayed, hpath, ?_⟩
        simp only [hdisplayed, favored]
        split <;> rfl
  · exact absurd rfl hchanged

/-- The favorites' button changes its list only by marking or unmarking the path of the displayed
entity. That entity was selected when it was shown, and has been displayed since. It is the entity
selected at the press exactly if the last route to resolve in between, if there is one, selects it
too. -/
theorem Course.favorites_displayed {page : String} {delay : Nat} {history : η} {start v : View η}
    {ms : List (Moment η)} (hstart : View.initial page delay history = .ok start)
    (h : Course start ms v) {now : Int}
    (hchanged :
      HistoryStore.entries (v.step now (.toolbarPressed .favorites)).view.history
          (HistoryList.favorites.key v.page) ≠
        HistoryStore.entries v.history (HistoryList.favorites.key v.page)) :
    ∃ entity args id path before m after selected,
      v.displayed = some (entity, args) ∧ args.id? = some id ∧ v.detailPath args = .ok path ∧
      (v.step now (.toolbarPressed .favorites)).view.history = v.favored now entity.name path ∧
      ms = before ++ m :: after ∧ m.Shows entity args ∧ m.view.currentArgs.id? = some id ∧
      (∀ n ∈ after, n.after.displayed = some (entity, args)) ∧
      v.currentArgs.id? = some selected ∧
      (id = selected ↔ ∀ route, lastRoute after = some route → route.2.id? = some id) := by
  obtain ⟨table, -, rfl⟩ := initial_eq_ok_iff.1 hstart
  obtain ⟨henabled, entity, args, path, hdisplayed, hpath, hfavored⟩ :=
    favored_of_changed fun hsame => hchanged (by rw [hsame])
  obtain ⟨before, m, after, rfl, hshows, hsince⟩ := h.exists_showing rfl hdisplayed
  obtain ⟨hbefore, hafter⟩ := h.split rfl
  obtain ⟨p, hpending, rfl, hevent⟩ := hshows.replied
  obtain ⟨id, hid, hselected⟩ := hbefore.pending_selected rfl hpending
  obtain ⟨selected, hcurrent⟩ := Option.isSome_iff_exists.1
    (isSome_id?_of_isEnabled (h.toolbar_eq rfl) (by decide) henabled)
  have hreply : m.route? = none := by rw [Moment.route?, hevent]
  refine ⟨entity, p.args, id, path, before, m, after, selected, hdisplayed, hid, hpath, hfavored,
    rfl, hshows, hselected, hsince, hcurrent, ?_⟩
  rw [← hafter.selected_iff hreply hselected, hcurrent, Option.some.injEq, eq_comm]

/-- The entity that is shown and selected becomes a favorite. -/
theorem favorites_configs_selected : ∃ (start v : View History) (ms : List (Moment History)),
    View.initial "configs" 500 (History.inMemory 10) = .ok start ∧ Course start ms v ∧
    HistoryStore.entries (v.step 7 (.toolbarPressed .favorites)).view.history
        (HistoryList.favorites.key v.page) ≠
      HistoryStore.entries v.history (HistoryList.favorites.key v.page) ∧
    ∃ entity args id, v.displayed = some (entity, args) ∧ args.id? = some id ∧
      ∃ m ∈ ms, m.Shows entity args ∧ m.view.currentArgs.id? = some id := by
  obtain ⟨start, hstart⟩ : ∃ start, View.initial "configs" 500 (History.inMemory 10) = .ok start :=
    ⟨_, rfl⟩
  have hcourse := Course.step (.step (.start : Course start [] start) 0 (.routeChanged "configs/1"))
    0 (.storeReplied ⟨2⟩ (.entity ⟨"1", "ViewDefinition", "fx", .null⟩))
  generalize hv : (View.step 0 (View.step 0 start (.routeChanged "configs/1")).view
    (.storeReplied ⟨2⟩ (.entity ⟨"1", "ViewDefinition", "fx", .null⟩))).view = v at hcourse
  have hchanged : HistoryStore.entries (v.step 7 (.toolbarPressed .favorites)).view.history
        (HistoryList.favorites.key v.page) ≠
      HistoryStore.entries v.history (HistoryList.favorites.key v.page) := by
    obtain rfl := Except.ok.inj hstart
    subst hv
    decide +kernel
  obtain ⟨entity, args, id, -, before, m, after, -, hdisplayed, hid, -, -, hms, hshows, hselected,
    -⟩ := hcourse.favorites_displayed hstart hchanged
  exact ⟨start, v, _, hstart, hcourse, hchanged, entity, args, id, hdisplayed, hid, m,
    hms ▸ by simp, hshows, hselected⟩

/-- The entity `1` is displayed and a route selects `2`, which opens a new page and asks for
nothing. The button makes `1` a favorite. -/
theorem favorites_configs_other : ∃ (start v : View History) (ms : List (Moment History)),
    View.initial "configs" 500 (History.inMemory 10) = .ok start ∧ Course start ms v ∧
    v.pending = none ∧ v.currentArgs.id? = some "2" ∧
    HistoryStore.entries v.history (HistoryList.favorites.key v.page) = [] ∧
    HistoryStore.entries (v.step 7 (.toolbarPressed .favorites)).view.history
      (HistoryList.favorites.key v.page) = [⟨"fx", "configs/1", 7⟩] := by
  obtain ⟨start, hstart⟩ : ∃ start, View.initial "configs" 500 (History.inMemory 10) = .ok start :=
    ⟨_, rfl⟩
  have hcourse := Course.step (.step (.step (.start : Course start [] start) 0
    (.routeChanged "configs/1")) 0
    (.storeReplied ⟨2⟩ (.entity ⟨"1", "ViewDefinition", "fx", .null⟩))) 0
    (.routeChanged "configs/2/new:/name:x")
  refine ⟨start, _, _, hstart, hcourse, ?_⟩
  obtain rfl := Except.ok.inj hstart
  exact ⟨by decide +kernel, by decide +kernel, by decide +kernel, by decide +kernel⟩

end View

end ConfigBrowser
