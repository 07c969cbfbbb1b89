import ConfigBrowser.History.Lists
import ConfigBrowser.Proofs.View.ListMatch
import ConfigBrowser.Proofs.View.Tickets

/-!
# What a Confirmed Deletion Deletes

A dialog asks whether to delete the selected entity, without naming it, and routes go on to resolve
while it asks. Once it is confirmed, the entity is deleted that is selected then: the one the dialog
was opened for, unless a route that selects another has been entered since.

Two facts about courses tie the two moments together, on any page. A tracked dialog goes back to the
moment at which a button opened it. And the current route is that of the last path that resolved.

## Main results

* `View.confirms_of_write`: the store is changed by confirmed dialogs only.
* `View.Course.currentArgs_eq`: the current route is the last one that resolved.
* `View.Course.exists_opening`: the moment at which a tracked dialog was opened.
* `View.Course.deletes_current`: which entity is deleted, and when it is the one selected at first.
-/

namespace ConfigBrowser

/-- The ticket of a dialog that is opened is handed out. -/
theorem Action.mem_tickets_of_openDialog {actions : List Action} {dialog : Ticket}
    {spec : DialogSpec} (h : .openDialog dialog spec ∈ actions) : dialog ∈ tickets actions :=
  List.mem_filterMap.2 ⟨_, h, rfl⟩

variable {η : Type}

/-- A button opens a dialog at the moment. -/
structure Moment.Opens [HistoryStore η] (m : Moment η) (purpose : DialogPurpose) (dialog : Ticket) :
    Prop where
  event : m.event = .toolbarPressed purpose.button
  enabled : (m.view.toolbar.getD .noSelection).isEnabled purpose.button = true
  emitted : m.emitted = [.openDialog dialog purpose.spec]

namespace View

/-! ### The requests of confirmed dialogs -/

/-- Routes only read from the store. -/
theorem Parts.reads {v w : View η} {actions : List Action} (h : v.Parts actions w) {ticket : Ticket}
    {request : StoreRequest} (hmem : .store ticket request ∈ actions) : request.reads = true := by
  rcases h.mem_cases hmem with hplain | ⟨_, _, hstore, hreads⟩
  · simp [Action.isPlain] at hplain
  · rwa [(Action.store.inj hstore).2]

variable [HistoryStore η]

/-- The store is changed by a dialog only that is confirmed: one creates an entity, the other
deletes the selected one. -/
theorem confirms_of_write {v : View η} {now : Int} {e : Event} {ticket : Ticket}
    {request : StoreRequest} (hmem : .store ticket request ∈ (v.step now e).emitted)
    (hwrites : request.reads = false) :
    ∃ p fields, v.dialog = some p ∧ e = .dialogResolved p.ticket (.confirmed fields) ∧
      (p.purpose = .create ∧ (∃ name payload, request = .put name payload) ∨
        p.purpose = .delete ∧ ∃ id, v.currentArgs.id? = some id ∧ request = .delete id) := by
  have houtcome := v.outcome_step now e
  generalize v.step now e = t at houtcome hmem
  have hplain : ¬ ∀ a ∈ t.emitted, a.isPlain = true := fun h => by
    simpa [Action.isPlain] using h _ hmem
  cases houtcome with
  | @creates p fields name payload hdialog hasks hpurpose =>
      obtain ⟨-, rfl⟩ := Action.store.inj (List.mem_singleton.1 hmem)
      exact ⟨p, fields, hdialog, rfl, .inl ⟨hpurpose, name, payload, rfl⟩⟩
  | @deletes p fields id hdialog hasks hpurpose hid =>
      have hrequest : ticket = v.nextTicket ∧ request = .delete id := by
        simpa [Turn.emitted, Turn.done] using hmem
      exact ⟨p, fields, hdialog, rfl, .inr ⟨hpurpose, id, hid, hrequest.2⟩⟩
  | route hresolve hparts hanswer =>
      rcases List.mem_append.1 (Turn.mem_of_mem_emitted hanswer hmem) with hmem | hmem
      · exact absurd (isPlain_of_mem_enterActions hmem) (by simp [Action.isPlain])
      · simp [hparts.reads hmem] at hwrites
  | reset hparts => simp [hparts.reads hmem] at hwrites
  | answered _ _ hall => exact absurd hall hplain
  | listed _ ha =>
      rcases ha with ⟨rows, rfl⟩ | ⟨text, rfl⟩ <;> simp [Turn.emitted, Turn.done] at hmem
  | led => exact absurd (fun a ha => isPlain_of_mem_redirect ha) hplain
  | deleted => exact absurd (fun a ha => isPlain_of_mem_redirect ha) hplain
  | @favored changed => cases changed <;> simp [Turn.emitted, Except.map] at hmem
  | _ => simp [Turn.emitted, Turn.done, Turn.fail] at hmem

/-! ### The current route -/

/-- A path that resolves becomes the current route. Nothing else changes it, or the toolbar. -/
theorem current_step (v : View η) (now : Int) (e : Event) :
    (Moment.route? ⟨v, now, e⟩ = none ∧ (v.step now e).view.current = v.current ∧
        (v.step now e).view.toolbar = v.toolbar) ∨
      ∃ path h args, Moment.route? ⟨v, now, e⟩ = some (h, args) ∧
        (v.step now e).view.current = some ⟨path, h, args⟩ ∧
        (v.step now e).view.toolbar = some (toolbarOf args) := by
  have houtcome := v.outcome_step now e
  generalize v.step now e = t at houtcome
  cases houtcome with
  | ignored hroute hreply =>
      refine .inl ⟨?_, rfl, rfl⟩
      cases e with
      | routeChanged path =>
          obtain ⟨err, herr⟩ := hroute path rfl
          exact Moment.route?_of_error now herr
      | _ => rfl
  | @route path h args actions t hresolve hparts hanswer =>
      exact .inr ⟨path, h, args, Moment.route?_of_resolve now hresolve, hparts.frame.current,
        hparts.frame.toolbar⟩
  | answered hpending hview hplain => exact .inl ⟨rfl, by rw [hview], by rw [hview]⟩
  | led hto =>
      rw [view_redirect]
      refine .inl ⟨?_, rfl, rfl⟩
      cases e with
      | routeChanged path => cases hto
      | _ => rfl
  | deleted hdialog hwaits hpurpose =>
      rw [view_redirect]
      exact .inl ⟨rfl, rfl, rfl⟩
  | reset hparts => exact .inl ⟨rfl, hparts.frame.current, hparts.frame.toolbar⟩
  | _ => exact .inl ⟨rfl, rfl, rfl⟩

/-- The current route is the last one that resolved. -/
theorem Course.currentArgs_eq {start v : View η} {ms : List (Moment η)} (h : Course start ms v) :
    v.currentArgs = ((lastRoute ms).map Prod.snd).getD start.currentArgs := by
  induction h with
  | start => rfl
  | @step ms v _ now e ih =>
      rcases v.current_step now e with ⟨hnone, hcurrent, -⟩ | ⟨path, h, args, hsome, hcurrent, -⟩
      · rw [lastRoute_append_of_none ms hnone, currentArgs, hcurrent]
        exact ih
      · rw [lastRoute_append_of_some ms hsome, currentArgs, hcurrent]
        rfl

/-- What is selected at a moment without a route stays selected exactly if the last route to resolve
since, if there is one, selects it too. -/
theorem Course.selected_iff {v : View η} {m : Moment η} {after : List (Moment η)} {id : String}
    (h : Course m.after after v) (hroute : m.route? = none)
    (hid : m.view.currentArgs.id? = some id) :
    v.currentArgs.id? = some id ↔
      ∀ route, lastRoute after = some route → route.2.id? = some id := by
  have hsame : m.after.currentArgs = m.view.currentArgs := by
    rcases m.view.current_step m.now m.event with ⟨-, hcurrent, -⟩ | ⟨_, _, _, hsome, -⟩
    · rw [currentArgs, Moment.after, Moment.turn, hcurrent]
      rfl
    · cases hroute.symm.trans hsome
  rw [h.currentArgs_eq, hsame]
  cases hlast : lastRoute after with
  | none => simp [hid]
  | some route => simp

/-- The toolbar goes with the current route. -/
theorem Course.toolbar_eq {start v : View η} {ms : List (Moment η)} (h : Course start ms v)
    (hstart : start.toolbar = start.current.map fun route => toolbarOf route.args) :
    v.toolbar = v.current.map fun route => toolbarOf route.args := by
  induction h with
  | start => exact hstart
  | @step ms v _ now e ih =>
      rcases v.current_step now e with
        ⟨-, hcurrent, htoolbar⟩ | ⟨path, h, args, -, hcurrent, htoolbar⟩
      · rw [hcurrent, htoolbar, ih]
      · rw [hcurrent, htoolbar]
        rfl

omit [HistoryStore η] in
/-- Only where the selection is active can a button be pressed that is not for a new entity. -/
theorem isSome_id?_of_isEnabled {v : View η} {button : ToolbarButton}
    (htoolbar : v.toolbar = v.current.map fun route => toolbarOf route.args)
    (hbutton : button ≠ .new) (henabled : (v.toolbar.getD .noSelection).isEnabled button = true) :
    v.currentArgs.id?.isSome = true := by
  rw [htoolbar] at henabled
  rw [currentArgs]
  cases hcurrent : v.current with
  | none => simp [hcurrent, ToolbarMode.isEnabled, hbutton] at henabled
  | some route =>
      by_contra hid
      simp [hcurrent, toolbarOf, hid, ToolbarMode.isEnabled, hbutton] at henabled

omit [HistoryStore η] in
/-- Only where the selection is active can one delete. -/
theorem isSome_id?_of_isEnabled_delete {v : View η}
    (htoolbar : v.toolbar = v.current.map fun route => toolbarOf route.args)
    (henabled : (v.toolbar.getD .noSelection).isEnabled .delete = true) :
    v.currentArgs.id?.isSome = true :=
  isSome_id?_of_isEnabled htoolbar (by decide) henabled

/-! ### The moment a dialog was opened -/

/-- The dialog that is tracked after an event was tracked before, for the same purpose, or a button
has just opened it. -/
theorem dialog_step {v : View η} {now : Int} {e : Event} {p : PendingDialog}
    (hp : (v.step now e).view.dialog = some p) :
    (∃ q, v.dialog = some q ∧ q.ticket = p.ticket ∧ q.purpose = p.purpose) ∨
      Moment.Opens ⟨v, now, e⟩ p.purpose p.ticket := by
  have houtcome := v.outcome_step now e
  generalize hstep : v.step now e = t at houtcome hp
  cases houtcome with
  | opened hdialog henabled =>
      obtain rfl := Option.some.inj hp
      exact .inr ⟨rfl, henabled, by rw [Moment.emitted, Moment.turn, hstep, Turn.emitted_done]⟩
  | creates name payload hdialog =>
      obtain rfl := Option.some.inj hp
      exact .inl ⟨_, hdialog, rfl, rfl⟩
  | deletes hdialog =>
      obtain rfl := Option.some.inj hp
      exact .inl ⟨_, hdialog, rfl, rfl⟩
  | rearmed text hdialog =>
      obtain rfl := Option.some.inj hp
      exact .inl ⟨_, hdialog, rfl, rfl⟩
  | route hresolve hparts hanswer => exact .inl ⟨p, hparts.frame.dialog ▸ hp, rfl, rfl⟩
  | reset hparts => exact .inl ⟨p, hparts.frame.dialog ▸ hp, rfl, rfl⟩
  | answered hpending hview hplain => exact .inl ⟨p, by rwa [hview] at hp, rfl, rfl⟩
  | led => exact .inl ⟨p, by rwa [view_redirect] at hp, rfl, rfl⟩
  | deleted => simp at hp
  | closed | created | lost | refused => cases hp
  | _ => exact .inl ⟨p, hp, rfl, rfl⟩

/-- A button opened the dialog that is tracked. -/
theorem Course.exists_opening {start v : View η} {ms : List (Moment η)} (h : Course start ms v)
    (hstart : start.dialog = none) {p : PendingDialog} (hp : v.dialog = some p) :
    ∃ before m after, ms = before ++ m :: after ∧ m.Opens p.purpose p.ticket := by
  induction h generalizing p with
  | start => simp [hstart] at hp
  | @step ms v h now e ih =>
      rcases dialog_step hp with ⟨q, hq, hticket, hpurpose⟩ | hopens
      · obtain ⟨before, m, after, rfl, hopens⟩ := ih hq
        exact ⟨before, m, after ++ [⟨v, now, e⟩], by simp, hticket ▸ hpurpose ▸ hopens⟩
      · exact ⟨ms, _, [], rfl, hopens⟩

/-- No dialog is opened twice. -/
theorem Course.opened_once {start v : View η} {before after : List (Moment η)} {m : Moment η}
    (h : Course start (before ++ m :: after) v) {dialog : Ticket} {spec : DialogSpec}
    (hopens : .openDialog dialog spec ∈ m.emitted) :
    ∀ n ∈ before ++ after, ∀ other, .openDialog dialog other ∉ n.emitted := by
  have hincreasing := h.advances.increasing
  rw [List.flatMap_append, List.flatMap_cons, Action.tickets_append, Action.tickets_append,
    List.pairwise_append, List.pairwise_append] at hincreasing
  obtain ⟨-, ⟨-, -, hlater⟩, hearlier⟩ := hincreasing
  have hm : dialog ∈ Action.tickets m.emitted := Action.mem_tickets_of_openDialog hopens
  intro n hn other hother
  have hagain : ∀ ns : List (Moment η), n ∈ ns →
      dialog ∈ Action.tickets (ns.flatMap Moment.emitted) := fun ns hns =>
    Action.mem_tickets_of_openDialog (List.mem_flatMap.2 ⟨n, hns, hother⟩)
  rcases List.mem_append.1 hn with hn | hn
  · exact lt_irrefl _ (hearlier dialog (hagain before hn) dialog (List.mem_append_left _ hm))
  · exact lt_irrefl _ (hlater dialog hm dialog (hagain after hn))

/-- An entity is deleted only when a dialog is confirmed that a button opened, once, with an entity
selected. It is the entity selected at the confirmation. That is the one selected at the opening
exactly if the last route to resolve in between, if there is one, selects it too. -/
theorem Course.deletes_current {page : String} {delay : Nat} {history : η} {start v : View η}
    {ms : List (Moment η)} (hstart : View.initial page delay history = .ok start)
    (h : Course start ms v) {now : Int} {e : Event} {ticket : Ticket} {id : String}
    (hdelete : .store ticket (.delete id) ∈ Moment.emitted ⟨v, now, e⟩) :
    v.currentArgs.id? = some id ∧
      ∃ dialog fields before m after opened, e = .dialogResolved dialog (.confirmed fields) ∧
        ms = before ++ m :: after ∧ m.Opens .delete dialog ∧
        (∀ n ∈ before ++ after, ∀ spec, .openDialog dialog spec ∉ n.emitted) ∧
        m.view.currentArgs.id? = some opened ∧
        (id = opened ↔ ∀ route, lastRoute after = some route → route.2.id? = some opened) := by
  obtain ⟨p, fields, hp, rfl, hconfirms⟩ := confirms_of_write hdelete rfl
  obtain ⟨hpurpose, hid⟩ : p.purpose = .delete ∧ v.currentArgs.id? = some id := by
    rcases hconfirms with ⟨-, name, payload, hput⟩ | ⟨hpurpose, id', hid, hsame⟩
    · cases hput
    · obtain rfl := StoreRequest.delete.inj hsame
      exact ⟨hpurpose, hid⟩
  obtain ⟨table, -, rfl⟩ := initial_eq_ok_iff.1 hstart
  obtain ⟨before, m, after, rfl, hopens⟩ := h.exists_opening rfl hp
  rw [hpurpose] at hopens
  obtain ⟨hbefore, hafter⟩ := h.split rfl
  obtain ⟨opened, hopened⟩ : ∃ opened, m.view.currentArgs.id? = some opened :=
    Option.isSome_iff_exists.1
      (isSome_id?_of_isEnabled_delete (hbefore.toolbar_eq rfl) hopens.enabled)
  refine ⟨hid, p.ticket, fields, before, m, after, opened, rfl, rfl, hopens, ?_, hopened, ?_⟩
  · exact h.opened_once (hopens.emitted ▸ List.mem_singleton_self _)
  · -- The press of the button is not a route, so only what follows it counts.
    have hpressed : m.route? = none := by rw [Moment.route?, hopens.event]
    rw [← hafter.selected_iff hpressed hopened, hid, Option.some.injEq]

/-- The entity that is selected all the time is deleted. -/
theorem deletes_configs_selected : ∃ (start v : View History) (ms : List (Moment History)),
    View.initial "configs" 500 (History.inMemory 10) = .ok start ∧ Course start ms v ∧
    .store ⟨4⟩ (.delete "1") ∈
      Moment.emitted ⟨v, 0, .dialogResolved ⟨3⟩ (.confirmed .empty)⟩ ∧
    v.currentArgs.id? = some "1" ∧ ∃ m ∈ ms, ∃ dialog, m.Opens .delete dialog := by
  obtain ⟨start, hstart⟩ : ∃ start, View.initial "configs" 500 (History.inMemory 10) = .ok start :=
    ⟨_, rfl⟩
  have hcourse := Course.step (.step (.start : Course start [] start) 0 (.routeChanged "configs/1"))
    0 (.toolbarPressed .delete)
  generalize hv : (View.step 0 (View.step 0 start (.routeChanged "configs/1")).view
    (.toolbarPressed .delete)).view = v at hcourse
  have hdelete : .store ⟨4⟩ (.delete "1") ∈
      Moment.emitted ⟨v, 0, .dialogResolved ⟨3⟩ (.confirmed .empty)⟩ := by
    obtain rfl := Except.ok.inj hstart
    subst hv
    decide +kernel
  obtain ⟨hid, dialog, -, before, m, after, -, -, hms, hopens, -⟩ :=
    hcourse.deletes_current hstart hdelete
  exact ⟨start, v, _, hstart, hcourse, hdelete, hid, m, hms ▸ by simp, dialog, hopens⟩

/-- A dialog is opened with the entity `1` selected and the entity `2` is deleted, which the route
between selects. -/
theorem deletes_configs_other : ∃ (start v : View History) (before after : List (Moment History))
    (m : Moment History), View.initial "configs" 500 (History.inMemory 10) = .ok start ∧
    Course start (before ++ m :: after) v ∧ m.Opens .delete ⟨3⟩ ∧
    m.view.currentArgs.id? = some "1" ∧
    Moment.emitted ⟨v, 0, .dialogResolved ⟨3⟩ (.confirmed .empty)⟩ =
      [.closeDialog ⟨3⟩, .store ⟨5⟩ (.delete "2")] := by
  obtain ⟨start, hstart⟩ : ∃ start, View.initial "configs" 500 (History.inMemory 10) = .ok start :=
    ⟨_, rfl⟩
  have hcourse := Course.step (.step (.step (.start : Course start [] start) 0
    (.routeChanged "configs/1")) 0 (.toolbarPressed .delete)) 0 (.routeChanged "configs/2")
  refine ⟨start, _, [_], [_], _, hstart, hcourse, ?_⟩
  obtain rfl := Except.ok.inj hstart
  exact ⟨⟨rfl, by decide +kernel, by decide +kernel⟩, by decide +kernel, by decide +kernel⟩

end View

end ConfigBrowser
