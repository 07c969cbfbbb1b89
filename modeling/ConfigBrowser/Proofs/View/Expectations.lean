import ConfigBrowser.Proofs.View.Errands

/-!
# What a View Expects

The view expects a reply to the request for an entity, to the last search, and to the change that
its dialog asked for, each under the ticket of the request. On a page without a colon in its name it
expects only what the actions of its turns have asked for, and nothing of a turn that failed. A
reply ends the expectation that it meets.

Routes do not fail on such a page, nor do replies except to the change that the dialog asked for. A
decision, which starts to expect that reply, asks for nothing else.

## Main results

* `View.Sound.expects_step`: what is expected has been asked for, or was expected before.
* `View.not_mem_awaited_of_reply`: a reply is not expected any more.
* `View.Sound.mayFail_of_error`, `View.mayFail_step`: which events may fail.
-/

namespace ConfigBrowser

/-- The request that a confirmed dialog sends. -/
def DialogPurpose.Sends : DialogPurpose → StoreRequest → Prop
  | .create, r => ∃ name payload, r = .put name payload
  | .delete, r => ∃ id, r = .delete id

namespace View

variable {η : Type}

/-! ### Expectations -/

/-- The view expects the reply under a ticket to a request with a property. -/
inductive Expects (v : View η) : Ticket → (StoreRequest → Prop) → Prop where
  /-- To the request for an entity. -/
  | entity {p : PendingDetail} {id : String} (hpending : v.pending = some p)
      (hid : p.args.id? = some id) : Expects v p.ticket (· = .get id)
  /-- To the last search. -/
  | listing {ticket : Ticket} (hsearch : v.latestSearch = some ticket) :
      Expects v ticket fun r => ∃ query, r = .search query
  /-- To the change that the dialog asked for. -/
  | change {p : PendingDialog} {ticket : Ticket} {name : String} (hdialog : v.dialog = some p)
      (hwaits : p.state = .awaiting ticket name) : Expects v ticket p.purpose.Sends

variable {v w : View η} {ticket : Ticket} {R : StoreRequest → Prop}

/-- What is expected is waited for. -/
theorem Expects.mem_awaited (h : v.Expects ticket R) : ticket ∈ v.awaited := by
  cases h with
  | entity hpending hid =>
      exact mem_awaited_iff.2 (.inl (ownsDetail_iff_pending.2 ⟨_, hpending, rfl⟩))
  | listing hsearch => exact mem_awaited_iff.2 (.inr (.inl (by simp [ownsSearch, hsearch])))
  | change hdialog hwaits =>
      exact mem_awaited_iff.2 (.inr (.inr (ownsMutation_iff.2 ⟨_, hdialog, _, hwaits⟩)))

/-- A view whose requests are those of another one, or fewer, expects no more. -/
theorem Expects.mono (h : w.Expects ticket R)
    (hpending : w.pending.map PendingDetail.request = v.pending.map PendingDetail.request ∨
      w.pending = none)
    (hsearch : w.latestSearch = v.latestSearch ∨ w.latestSearch = none)
    (hdialog : w.dialog = v.dialog ∨ w.dialog.bind PendingDialog.request? = none) :
    v.Expects ticket R := by
  cases h with
  | @entity p id hp hid =>
      rcases hpending with hsame | hnone
      · rw [hp, Option.map_some] at hsame
        obtain ⟨q, hq, hrequest⟩ := Option.map_eq_some_iff.1 hsame.symm
        obtain ⟨hticket, hargs⟩ := Prod.mk.inj hrequest
        rw [← hticket]
        exact .entity hq (hargs ▸ hid)
      · cases hp.symm.trans hnone
  | listing hlatest =>
      rcases hsearch with hsame | hnone
      · exact .listing (hsame ▸ hlatest)
      · cases hlatest.symm.trans hnone
  | @change p _ name hd hwaits =>
      rcases hdialog with hsame | hnone
      · exact .change (hsame ▸ hd) hwaits
      · rw [hd, Option.bind_some, p.request?_of_awaiting hwaits] at hnone
        cases hnone

/-- A dialog that begins to wait for a request expects the reply to it. -/
theorem Expects.of_confirmed {p : PendingDialog} {asked : Ticket} {name : String} {r : StoreRequest}
    (h : w.Expects ticket R) (hpending : w.pending = v.pending)
    (hsearch : w.latestSearch = v.latestSearch)
    (hdialog : w.dialog = some { p with state := .awaiting asked name })
    (hr : p.purpose.Sends r) : v.Expects ticket R ∨ (ticket = asked ∧ R r) := by
  cases h with
  | entity hp hid => exact .inl (.entity (hpending ▸ hp) hid)
  | listing hlatest => exact .inl (.listing (hsearch ▸ hlatest))
  | change hd hwaits =>
      obtain rfl := Option.some.inj (hdialog.symm.trans hd)
      obtain ⟨rfl, -⟩ := DialogState.awaiting.inj hwaits
      exact .inr ⟨rfl, hr⟩

/-- A part of a route's work expects what it asks for, and what was expected before. -/
theorem Part.expects {actions : List Action} (h : v.Part actions w) (hw : w.Expects ticket R) :
    v.Expects ticket R ∨ ∃ r, R r ∧ .store ticket r ∈ actions := by
  cases h with
  | search args =>
      cases hw with
      | entity hpending hid => exact .inl (.entity hpending hid)
      | listing hsearch =>
          obtain rfl := Option.some.inj hsearch
          exact .inr ⟨_, ⟨_, rfl⟩, List.mem_singleton_self _⟩
      | change hdialog hwaits => exact .inl (.change hdialog hwaits)
  | @ask args id hid =>
      cases hw with
      | entity hpending hid' =>
          obtain rfl := Option.some.inj hpending
          obtain rfl : id = _ := Option.some.inj (hid.symm.trans hid')
          exact .inr ⟨_, rfl, List.mem_append_right _ List.mem_cons_self⟩
      | listing hsearch => exact .inl (.listing hsearch)
      | change hdialog hwaits => exact .inl (.change hdialog hwaits)
  | abandon => exact .inl (hw.mono (.inr rfl) (.inl rfl) (.inl rfl))
  | note => exact .inl (hw.mono (.inl rfl) (.inl rfl) (.inl rfl))

/-- A reply is expected because it was expected before, or because its request has just been made.
-/
theorem Parts.expects {actions : List Action} (h : v.Parts actions w) (hw : w.Expects ticket R) :
    v.Expects ticket R ∨ ∃ r, R r ∧ .store ticket r ∈ actions := by
  induction h with
  | nil => exact .inl hw
  | cons hfirst _ ih =>
      rcases ih hw with hu | ⟨r, hr, hmem⟩
      · exact (hfirst.expects hu).imp_right fun ⟨r, hr, hmem⟩ =>
          ⟨r, hr, List.mem_append_left _ hmem⟩
      · exact .inr ⟨r, hr, List.mem_append_right _ hmem⟩

variable [HistoryStore η] {now : Int} {e : Event}

/-- A route that resolves expects what it asks for, and what was expected before. -/
theorem Sound.expects_routeChanged (hv : v.Sound) {path : String} {h : Handler} {args : RouteArgs}
    (hresolve : v.table.resolve path = .ok (h, args))
    (hw : (v.step now (.routeChanged path)).view.Expects ticket R) :
    v.Expects ticket R ∨
      ∃ r, R r ∧ .store ticket r ∈ (v.step now (.routeChanged path)).emitted := by
  obtain ⟨done, w, hstep, -⟩ := hv.step_routeChanged hresolve now
  have houtcome := v.outcome_step now (.routeChanged path)
  generalize v.step now (.routeChanged path) = t at houtcome hstep hw ⊢
  cases houtcome with
  | ignored => exact .inl hw
  | led hto => cases hto
  | route _ hparts hanswer =>
      rw [hstep, Turn.emitted_done, hanswer done (by rw [hstep]; rfl)]
      rcases hparts.expects hw with hentered | ⟨r, hr, hmem⟩
      · refine .inl (hentered.mono ?_ (.inl rfl) (.inl rfl))
        simp only [entered]
        split
        · exact .inr rfl
        · exact .inl rfl
      · exact .inr ⟨r, hr, List.mem_append_right _ hmem⟩

/-- What is expected after an event has been asked for at the event, or was expected before. -/
theorem Sound.expects_step (hv : v.Sound) (hw : (v.step now e).view.Expects ticket R) :
    v.Expects ticket R ∨ ∃ r, R r ∧ .store ticket r ∈ (v.step now e).emitted := by
  have houtcome := v.outcome_step now e
  generalize hstep : v.step now e = t at houtcome hw ⊢
  cases houtcome with
  | ignored => exact .inl hw
  | route hresolve =>
      subst hstep
      exact hv.expects_routeChanged hresolve hw
  | escalated hpending =>
      exact .inl (hw.mono (.inl (by rw [hpending]; rfl)) (.inl rfl) (.inl rfl))
  | answered hpending hview =>
      rw [hview] at hw
      exact .inl (hw.mono (.inr rfl) (.inl rfl) (.inl rfl))
  | led =>
      rw [view_redirect] at hw
      exact .inl hw
  | deleted =>
      rw [view_redirect] at hw
      exact .inl (hw.mono (.inl rfl) (.inl rfl) (.inr rfl))
  | @creates p fields name payload hdialog hasks hpurpose =>
      have hsends : p.purpose.Sends (.put name payload) := hpurpose ▸ ⟨name, payload, rfl⟩
      rcases hw.of_confirmed (v := v) rfl rfl rfl hsends with hbefore | ⟨rfl, hr⟩
      · exact .inl hbefore
      · exact .inr ⟨_, hr, List.mem_singleton_self _⟩
  | @deletes p fields id hdialog hasks hpurpose hid =>
      have hsends : p.purpose.Sends (.delete id) := hpurpose ▸ ⟨id, rfl⟩
      rcases hw.of_confirmed (v := v) rfl rfl rfl hsends with hbefore | ⟨rfl, hr⟩
      · exact .inl hbefore
      · exact .inr ⟨_, hr, List.mem_cons_of_mem _ (List.mem_singleton_self _)⟩
  | listed => exact .inl (hw.mono (.inl rfl) (.inr rfl) (.inl rfl))
  | favored => exact .inl (hw.mono (.inl rfl) (.inl rfl) (.inl rfl))
  | opened | closed | created | lost | rearmed | refused =>
      exact .inl (hw.mono (.inl rfl) (.inl rfl) (.inr rfl))
  | reset hparts => exact hparts.expects hw

/-- A reply that has been handled is not waited for any more. -/
theorem not_mem_awaited_of_reply (hnodup : v.awaited.Nodup) (now : Int) (reply : StoreReply) :
    ticket ∉ (v.step now (.storeReplied ticket reply)).view.awaited := by
  by_cases hwaits : ticket ∈ v.awaited
  · have hperm := awaited_perm_of_reply hwaits now reply
    exact (List.nodup_cons.1 (hperm.nodup_iff.1 hnodup)).1
  · rw [step_eq_of_not_mem_awaited hwaits]
    exact hwaits

/-! ### Events that may fail -/

omit [HistoryStore η] in
/-- May an event fail? A route does not, nor does a reply but to the change that the dialog asked
for. -/
def mayFail (v : View η) : Event → Bool
  | .routeChanged _ => false
  | .storeReplied ticket _ => v.ownsMutation ticket
  | _ => true

/-- An event that fails is one that may. -/
theorem Sound.mayFail_of_error (hv : v.Sound) {err : Error}
    (herror : (v.step now e).answer = .error err) : v.mayFail e = true := by
  obtain ⟨hroute, -⟩ := hv.of_error herror
  cases e with
  | routeChanged path => exact absurd rfl (hroute path)
  | storeReplied ticket reply =>
      have hdoes := hv.does now (.storeReplied ticket reply)
      have houtcome := v.outcome_step now (.storeReplied ticket reply)
      generalize v.step now (.storeReplied ticket reply) = t at herror hdoes houtcome
      cases houtcome with
      | answered hpending =>
          cases hdoes with
          | quiet _ _ howned =>
              have hnot := howned _ _ rfl
              simp [ownsDetail_iff_pending.2 ⟨_, hpending, rfl⟩] at hnot
          | answer => cases herror
      | led hto hreply => exact absurd rfl (hreply ticket reply)
      | lost hdialog hwaits => exact ownsMutation_iff.2 ⟨_, hdialog, _, hwaits⟩
      | deleted hdialog hwaits => exact ownsMutation_iff.2 ⟨_, hdialog, _, hwaits⟩
      | _ => cases herror
  | _ => rfl

/-- An event that may fail after another one could fail before, or the other one is a decision. -/
theorem mayFail_step {e' : Event} (h : (v.step now e).view.mayFail e' = true) :
    v.mayFail e' = true ∨ ∃ dialog decision, e = .dialogResolved dialog decision := by
  cases e' with
  | storeReplied ticket reply => exact (ownsMutation_step h).imp_right And.right
  | routeChanged path => cases h
  | _ => exact .inl rfl

/-- The reply to a request that has just been made may fail only if a decision made it. -/
theorem mayFail_of_store_mem (hissued : ∀ t ∈ v.awaited, t.number ≤ v.lastTicket)
    {r : StoreRequest} (hmem : .store ticket r ∈ (v.step now e).emitted) {reply : StoreReply}
    (h : (v.step now e).view.mayFail (.storeReplied ticket reply) = true) :
    ∃ dialog decision, e = .dialogResolved dialog decision := by
  rcases mayFail_step h with hold | hdecision
  · have hnew := ((v.advances_step now e).fresh ticket (List.mem_filterMap.2 ⟨_, hmem, rfl⟩)).1
    exact absurd (hissued ticket (mem_awaited_iff.2 (.inr (.inr hold)))) (not_le.2 hnew)
  · exact hdecision

/-- A decision sends for one thing at most. -/
theorem length_matters_of_decision (dialog : Ticket) (decision : DialogDecision) :
    ((v.step now (.dialogResolved dialog decision)).emitted.filter Action.matters).length ≤ 1 := by
  have houtcome := v.outcome_step now (.dialogResolved dialog decision)
  generalize v.step now (.dialogResolved dialog decision) = t at houtcome
  cases houtcome with
  | led hto => cases hto
  | ignored | closed => exact Nat.zero_le 1
  | creates | deletes => exact le_rfl

end View

end ConfigBrowser
