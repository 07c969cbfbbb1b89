import ConfigBrowser.Proofs.View.Pane

/-!
# When an Entity Is Shown for Editing

A route with the edit flag that continues on its page has the entity with its id edited, and sends
on to the route of the entity. Whether the entity is shown for editing is settled when it is asked
for, and the request lasts only as long as all routes carry its id.

Between the two routes the detail pane may only be turned to that entity. What turns it is the route
of an entity, that of the list without one, and another route to edit. The routes that search the
list and send on, and those that stop at a new page, leave the pane as it is, so they do not end the
editing, whatever they select.

## Main results

* `View.editing_step`: when an entity is edited after a moment.
* `View.Course.editing_iff`: an entity is edited since a route had it edited.
* `View.Course.editable_iff`: when an entity is shown for editing.
-/

namespace ConfigBrowser

/-- The data of the detail template say whether the entity may be edited. -/
theorem Template.field?_editable (e : Entity) (editable favorited : Bool) :
    (detailData e editable favorited).field? "editable" = some (.bool editable) := by
  cases hdata : configData e.data <;>
    simp [detailData, hdata, Json.field?, Json.fields?, List.lookup]

variable {η : Type}

namespace View

/-- What a route turns the detail pane to: to the entity with an id, or to none and with that to the
page's history. Other routes do not turn the pane. -/
def turnsTo (v : View η) (args : RouteArgs) : Handler → Option (Option String)
  | .load => if args.id?.isNone then some none else none
  | .loadConfigs => args.id?.map some
  | .loadEditConfigs =>
    match v.reconciler.classify args with
    | .newPage => none
    | .continuation => args.id?.map some
  | .loadFilter | .loadDelete | .loadNewConfigs => none

end View

namespace Moment

/-- The moment of a route that has the entity with an id edited. -/
def Edits (m : Moment η) (id : String) : Prop :=
  ∃ args, m.route? = some (.loadEditConfigs, args) ∧ args.id? = some id ∧
    m.view.reconciler.classify args = .continuation

instance (m : Moment η) (id : String) : Decidable (m.Edits id) :=
  decidable_of_iff (m.route?.any fun route => route.1 = .loadEditConfigs ∧
      route.2.id? = some id ∧ m.view.reconciler.classify route.2 = .continuation)
    (by cases hroute : m.route? <;> simp [Edits, hroute, Prod.ext_iff])

/-- A moment at which the detail pane is turned to no other than the entity with an id. -/
def StaysWith (m : Moment η) (id : String) : Prop :=
  ∀ h args, m.route? = some (h, args) → ∀ target, m.view.turnsTo args h = some target →
    target = some id

end Moment

/-- The entity with an id is edited after a course of events: a route has had it edited, and since
then the detail pane has been turned to no other. -/
def Edited (ms : List (Moment η)) (id : String) : Prop := Since (·.Edits id) (·.StaysWith id) ms

namespace View

/-! ### The mode of the pane -/

/-- An entity is edited after a route that has it edited, and after one that does not turn the pane
to another if it was edited before. -/
theorem mode_paneAfter_iff (v : View η) (args : RouteArgs) (h : Handler) (id : String) :
    (v.paneAfter args h).mode = .editing id ↔
      (h = .loadEditConfigs ∧ args.id? = some id ∧ v.reconciler.classify args = .continuation) ∨
        v.mode = .editing id ∧ ∀ target, v.turnsTo args h = some target → target = some id := by
  have hlisted : (v.listed args).mode = v.mode := congrArg Pane.mode (v.pane_listed args)
  cases h with
  | load =>
      rw [paneAfter, turnsTo]
      split <;> simp [left, pane]
  | loadFilter | loadDelete => simp [paneAfter, turnsTo, pane]
  | loadConfigs =>
      rw [paneAfter, turnsTo]
      cases hid : args.id? with
      | none => simp [pane]
      | some other =>
          by_cases hmode : v.mode = .editing other
          · simp [pane, asked, isEditing, hlisted, hmode, eq_comm]
          · have hother : v.mode = .editing id → other ≠ id := by
              rintro hediting rfl
              exact hmode hediting
            simpa [pane, asked, isEditing, hlisted, hmode] using hother
  | loadNewConfigs =>
      rw [paneAfter, transientPane, turnsTo]
      split
      · simp [pane]
      · cases hid : args.id? <;> simp [modeAfter, hid]
  | loadEditConfigs =>
      rw [paneAfter, transientPane, turnsTo]
      cases hc : v.reconciler.classify args with
      | newPage => simp [pane]
      | continuation =>
          cases hid : args.id? with
          | none => simp [modeAfter, hid]
          | some other => simp [modeAfter, hid, or_iff_left_of_imp And.right]

variable [HistoryStore η]

/-- An entity is edited after a moment that has it edited, and after one that does not turn the pane
to another if it was edited before. -/
theorem editing_step (m : Moment η) (id : String) :
    m.after.mode = .editing id ↔ m.Edits id ∨ m.view.mode = .editing id ∧ m.StaysWith id := by
  obtain ⟨v, now, e⟩ := m
  have hmove := v.paneMove_step now e
  have hmode : Moment.after ⟨v, now, e⟩ = (v.step now e).view := rfl
  have hnone : Moment.route? ⟨v, now, e⟩ = none → (v.step now e).view.mode = v.mode →
      ((v.step now e).view.mode = .editing id ↔ Moment.Edits ⟨v, now, e⟩ id ∨
        v.mode = .editing id ∧ Moment.StaysWith ⟨v, now, e⟩ id) := by
    intro hroute hsame
    simp [Moment.Edits, Moment.StaysWith, hroute, hsame]
  rw [hmode]
  generalize v.step now e = t at hmove hnone ⊢
  have hpane : t.view.pane.mode = t.view.mode := rfl
  cases hmove with
  | @kept e _ hroute hturn =>
      refine hnone ?_ (by rw [← hpane, hturn.view]; rfl)
      cases e with
      | routeChanged path =>
          obtain ⟨err, herr⟩ := hroute path rfl
          exact Moment.route?_of_error now herr
      | _ => rfl
  | @route path h args _ hresolve hturn =>
      have hroute := Moment.route?_of_resolve now hresolve
      rw [← hpane, hturn.view, mode_paneAfter_iff]
      refine or_congr ⟨?_, ?_⟩ (and_congr_right fun _ => ⟨?_, ?_⟩)
      · rintro ⟨rfl, hid, hc⟩
        exact ⟨args, hroute, hid, hc⟩
      · rintro ⟨other, hsome, hid, hc⟩
        obtain ⟨rfl, rfl⟩ := Prod.mk.inj (Option.some.inj (hroute.symm.trans hsome))
        exact ⟨rfl, hid, hc⟩
      · rintro hstays h' args' hsome
        obtain ⟨rfl, rfl⟩ := Prod.mk.inj (Option.some.inj (hroute.symm.trans hsome))
        exact hstays
      · exact fun hstays => hstays h args hroute
  | escalated hpending hturn => exact hnone rfl (by rw [← hpane, hturn.view]; rfl)
  | missed hpending hturn => exact hnone rfl (by rw [← hpane, hturn.view]; rfl)
  | shown _ hpending hview => exact hnone rfl (by rw [← hpane, hview]; rfl)

/-- The entity that is edited is the one that a route had edited, since when the pane has been
turned to no other. -/
theorem Course.editing_iff {start v : View η} {ms : List (Moment η)} (h : Course start ms v)
    (hstart : start.mode = .viewing) (id : String) : v.mode = .editing id ↔ Edited ms id := by
  induction h with
  | start => simp [hstart, Edited, not_since_nil]
  | @step ms v h now e ih =>
      rw [Edited, since_append_singleton, ← Edited, ← ih]
      exact editing_step ⟨v, now, e⟩ id

/-! ### The entity that is shown -/

/-- An entity is shown by the reply to a request since which all routes have carried its id. It is
shown for editing exactly if it was edited when it was asked for: a route for it with the edit flag
had continued on its page, and since then the detail pane had been turned to no other. -/
theorem Course.editable_iff {page : String} {delay : Nat} {history : η} {start v : View η}
    {ms : List (Moment η)} (hstart : View.initial page delay history = .ok start)
    (h : Course start ms v) {now : Int} {e : Event} {data : Json}
    (hrender : .render .detail data ∈ Moment.emitted ⟨v, now, e⟩) :
    ∃ ticket entity id before m after, e = .storeReplied ticket (.entity entity) ∧
      ms = before ++ m :: after ∧ .store ticket (.get id) ∈ m.emitted ∧
      (∀ n ∈ m :: after, n.Carries id) ∧
      (data.field? "editable" = some (.bool true) ↔ Edited before id) := by
  obtain ⟨table, -, rfl⟩ := initial_eq_ok_iff.1 hstart
  obtain ⟨p, entity, favorited, hpending, rfl, rfl⟩ := shows_step hrender
  obtain ⟨before, m, after, id, rfl, hrequests, hcarries⟩ := h.exists_request rfl hpending
  obtain ⟨hbefore, -⟩ := h.split rfl
  refine ⟨p.ticket, entity, id, before, m, after, rfl, rfl, hrequests.stored, hcarries, ?_⟩
  rw [Template.field?_editable, hrequests.editable, ← hbefore.editing_iff rfl id]
  simp [isEditing]

/-- After the route to edit an entity and that of the entity, it is shown for editing. -/
theorem editable_configs_edited : ∃ (start v : View History) (ms : List (Moment History)),
    View.initial "configs" 500 (History.inMemory 10) = .ok start ∧ Course start ms v ∧
    ∃ data, .render .detail data ∈ Moment.emitted
        ⟨v, 0, .storeReplied ⟨4⟩ (.entity ⟨"1", "ViewDefinition", "fx", .null⟩)⟩ ∧
      data.field? "editable" = some (.bool true) ∧ ∃ id before after, ms = before ++ after ∧
        Edited before id ∧ ∀ n ∈ after, n.Carries id := by
  obtain ⟨start, hstart⟩ : ∃ start, View.initial "configs" 500 (History.inMemory 10) = .ok start :=
    ⟨_, rfl⟩
  have hcourse := Course.step (.step (.step (.start : Course start [] start) 0
    (.routeChanged "configs/1")) 0 (.routeChanged "configs/1/edit:")) 0 (.routeChanged "configs/1")
  generalize hv : (View.step 0 (View.step 0 (View.step 0 start (.routeChanged "configs/1")).view
    (.routeChanged "configs/1/edit:")).view (.routeChanged "configs/1")).view = v at hcourse
  obtain ⟨data, hrender, heditable⟩ : ∃ data, .render .detail data ∈ Moment.emitted
        ⟨v, 0, .storeReplied ⟨4⟩ (.entity ⟨"1", "ViewDefinition", "fx", .null⟩)⟩ ∧
      data.field? "editable" = some (.bool true) := by
    obtain rfl := Except.ok.inj hstart
    subst hv
    exact ⟨Template.detailData ⟨"1", "ViewDefinition", "fx", .null⟩ true false, by decide +kernel,
      Template.field?_editable ..⟩
  obtain ⟨-, -, id, before, m, after, -, hms, -, hcarries, hedited⟩ :=
    hcourse.editable_iff hstart hrender
  exact ⟨start, v, _, hstart, hcourse, data, hrender, heditable, id, before, m :: after, hms,
    hedited.1 heditable, hcarries⟩

/-- The entity `1` is edited, and a route selects `2`, which opens a new page and does not turn the
pane. When `1` is asked for next, it is shown for editing. -/
theorem editable_configs_returned : ∃ (start v : View History) (before : List (Moment History))
    (m : Moment History), View.initial "configs" 500 (History.inMemory 10) = .ok start ∧
    Course start (before ++ [m]) v ∧ .store ⟨6⟩ (.get "1") ∈ m.emitted ∧
    (∃ data, .render .detail data ∈ Moment.emitted
        ⟨v, 0, .storeReplied ⟨6⟩ (.entity ⟨"1", "ViewDefinition", "fx", .null⟩)⟩ ∧
      data.field? "editable" = some (.bool true)) ∧
    ¬ Since (·.Edits "1") (·.Carries "1") (before ++ [m]) := by
  obtain ⟨start, hstart⟩ : ∃ start, View.initial "configs" 500 (History.inMemory 10) = .ok start :=
    ⟨_, rfl⟩
  have hcourse := Course.step (.step (.step (.step (.step (.start : Course start [] start) 0
    (.routeChanged "configs/1")) 0 (.routeChanged "configs/1/edit:")) 0
    (.routeChanged "configs/1")) 0 (.routeChanged "configs/2/new:/name:x")) 0
    (.routeChanged "configs/1/name:x")
  refine ⟨start, _, _, _, hstart, hcourse, ?_⟩
  obtain rfl := Except.ok.inj hstart
  refine ⟨by decide +kernel, ⟨Template.detailData ⟨"1", "ViewDefinition", "fx", .null⟩ true false,
    by decide +kernel, Template.field?_editable ..⟩, ?_⟩
  intro hsince
  rcases since_append_singleton.1 hsince with hedits | ⟨hearlier, -⟩
  · exact absurd hedits (by decide +kernel)
  · rcases since_append_singleton.1 hearlier with hedits | ⟨-, hcarries⟩
    · exact absurd hedits (by decide +kernel)
    · exact absurd hcarries (by decide +kernel)

end View

end ConfigBrowser
