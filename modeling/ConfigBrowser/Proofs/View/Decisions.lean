import ConfigBrowser.History.Lists
import ConfigBrowser.Proofs.View.Errors
import ConfigBrowser.Proofs.View.Mentions
import ConfigBrowser.Proofs.View.Weights

/-!
# One Decision for Each Prompt

A dialog takes one decision for each time that it asks. It asks when it is opened, and once more
when an error is shown in it, so it changes the store at most once more than it shows errors. The
count is kept by what the view owes a dialog, which is one change unless the dialog still asks: a
change is paid with what is owed from then on, and what an error makes the view ask again for is
owed no longer.

Once a dialog is closed, nothing mentions it any more. The changes that have been sent for and not
been answered are those that the dialog waits for, hence at most one. Nothing is supposed of the
page here.

## Main results

* `View.Accounted.owed_step`: what the changes of a dialog are paid with.
* `View.Accounted.retired_of_closes`, `View.Retired.step`: a dialog that is closed is gone.
* `View.Accounted.changesAwaited_step`: which changes wait for an answer.
* `View.Course.one_decision_per_prompt`: a dialog takes one decision for each time that it asks.
-/

namespace ConfigBrowser

/-- Is the event a decision on a dialog? -/
def Event.decidesOn (dialog : Ticket) : Event → Bool
  | .dialogResolved d _ => d = dialog
  | _ => false

/-- Is the event the reply to a request? -/
def Event.answers (request : Ticket) : Event → Bool
  | .storeReplied t _ => t = request
  | _ => false

/-- Does the action show an error inside a dialog? -/
def Action.showsErrorIn (dialog : Ticket) : Action → Bool
  | .showDialogError d _ => d = dialog
  | _ => false

/-- The ticket of a change that the store is asked for. -/
def Action.change? : Action → Option Ticket
  | .store ticket r => if r.reads then none else some ticket
  | _ => none

/-- An event that is no reply to a request does not answer it. -/
theorem Event.answers_eq_false {e : Event} {request : Ticket}
    (h : ∀ reply, e ≠ .storeReplied request reply) : e.answers request = false := by
  cases e with
  | storeReplied ticket reply =>
      refine decide_eq_false ?_
      rintro rfl
      exact h reply rfl
  | _ => rfl

/-- An action without a request for a change changes nothing. -/
theorem Action.change?_eq_none_iff {a : Action} : a.change? = none ↔ a.changes = false := by
  cases a <;> simp [change?, changes]

/-- Plain actions ask for no change. -/
theorem Action.filterMap_change?_of_plain {actions : List Action}
    (h : ∀ a ∈ actions, a.isPlain = true) : actions.filterMap Action.change? = [] :=
  List.filterMap_eq_nil_iff.2 fun a ha => change?_eq_none_iff.2 (a.changes_of_isPlain (h a ha))

/-- The changes that have been sent for in a course of events, and not been answered. -/
def unanswered {η : Type} [HistoryStore η] (ms : List (Moment η)) : List Ticket :=
  ms.foldl (fun requests m =>
    requests.filter (fun request => !m.event.answers request) ++
      m.emitted.filterMap Action.change?) []

/-- An item of two lists together is in the second one, or in the first. -/
theorem eq_append_cons_cases {α : Type} {xs ys before after : List α} {x : α}
    (h : xs ++ ys = before ++ x :: after) :
    (∃ front, ys = front ++ x :: after) ∨
      ∃ back, xs = before ++ x :: back ∧ after = back ++ ys := by
  rcases List.append_eq_append_iff.1 h with ⟨front, -, hys⟩ | ⟨back, hxs, hafter⟩
  · exact .inl ⟨front, hys⟩
  · cases back with
    | nil => exact .inl ⟨[], hafter.symm⟩
    | cons y back =>
        obtain ⟨rfl, rfl⟩ := List.cons.inj hafter
        exact .inr ⟨back, hxs, rfl⟩

namespace View

variable {η : Type}

/-- Does a dialog wait for a decision? -/
def asks (v : View η) (dialog : Ticket) : Bool :=
  v.dialog.any fun p => p.ticket = dialog && p.state = .prompting

variable {v : View η}

/-- A view asks for a decision on a dialog if it tracks that dialog and still prompts. -/
theorem asks_iff {d : Ticket} :
    v.asks d = true ↔ ∃ p, v.dialog = some p ∧ p.ticket = d ∧ p.state = .prompting := by
  rw [asks]
  cases v.dialog <;> simp

/-- A decision that no dialog waits for changes nothing. -/
theorem step_dialogResolved_of_not_asks [HistoryStore η] {d : Ticket} (h : v.asks d = false)
    (now : Int) (decision : DialogDecision) :
    v.step now (.dialogResolved d decision) = .done [] v := by
  rw [step, onDialogResolved]
  split
  · rfl
  · next p hdialog =>
    refine if_neg fun hasks => ?_
    simp [asks_iff.2 ⟨p, hdialog, hasks⟩] at h

/-- The changes that a view waits for: that of its dialog, if it waits. -/
def changesAwaited (v : View η) : List Ticket := (v.dialog.bind PendingDialog.request?).toList

/-- The changes that a view awaits are those whose replies belong to its dialog. -/
theorem mem_changesAwaited_iff {request : Ticket} :
    request ∈ v.changesAwaited ↔ v.ownsMutation request = true := by
  rw [changesAwaited, Option.mem_toList, ownsMutation_iff_request]

/-- A dialog that waits for the store awaits one change. -/
theorem changesAwaited_of_awaiting {p : PendingDialog} {request : Ticket} {name : String}
    (hdialog : v.dialog = some p) (hwaits : p.state = .awaiting request name) :
    v.changesAwaited = [request] := by
  rw [changesAwaited, hdialog, Option.bind_some, p.request?_of_awaiting hwaits, Option.toList_some]

/-- A dialog that prompts awaits no change. -/
theorem changesAwaited_of_prompting {p : PendingDialog} (hdialog : v.dialog = some p)
    (hasks : p.state = .prompting) : v.changesAwaited = [] := by
  rw [changesAwaited, hdialog, Option.bind_some, PendingDialog.request?, hasks, Option.toList_none]

/-- Without a dialog no change is awaited. -/
theorem changesAwaited_of_none (hdialog : v.dialog = none) : v.changesAwaited = [] := by
  rw [changesAwaited, hdialog, Option.bind_none, Option.toList_none]

/-! ### Views in order -/

/-- What is known of the tickets of a view: it waits for replies only to requests that it has made,
for each of them once, and the ticket of its dialog is spent. -/
structure Accounted (v : View η) : Prop where
  issued : ∀ ticket ∈ v.awaited, ticket.number ≤ v.lastTicket
  nodup : v.awaited.Nodup
  dialog : ∀ p, v.dialog = some p → v.Spent p.ticket

/-- A new view is in order. -/
theorem Accounted.initial {page : String} {delay : Nat} {history : η}
    (hv : View.initial page delay history = .ok v) : v.Accounted := by
  have hnone := awaited_initial hv
  obtain ⟨table, -, rfl⟩ := initial_eq_ok_iff.1 hv
  exact ⟨by simp [hnone], by simp [hnone], by simp⟩

variable [HistoryStore η]

/-- No event brings a view out of order. -/
theorem Accounted.step (hv : v.Accounted) (now : Int) (e : Event) :
    (v.step now e).view.Accounted where
  issued := (v.advances_step now e).issued hv.issued
  nodup := (v.advances_step now e).nodup hv.issued hv.nodup
  dialog p hp := by
    have hadvances := v.advances_step now e
    have hmove := v.dialogMove_step now e
    generalize v.step now e = t at hadvances hmove hp
    cases hmove with
    | aloof hturn => exact hadvances.spent (hv.dialog p (hturn.view.dialog ▸ hp))
    | opens purpose spec hdialog =>
        obtain rfl := Option.some.inj hp
        refine ⟨le_rfl, fun hmem => ?_⟩
        have hold : v.nextTicket ∈ v.awaited := by
          simpa [awaited, hdialog, PendingDialog.request?, Turn.done] using hmem
        exact absurd (hv.issued _ hold) (not_le.2 (Nat.lt_succ_self _))
    | closes hdialog _ _ htracked =>
        rw [(htracked p hp).1]
        exact hadvances.spent (hv.dialog _ hdialog)
    | turns state hdialog _ _ _ htracked =>
        obtain rfl := Option.some.inj (htracked.symm.trans hp)
        have hold := hv.dialog _ hdialog
        exact hadvances.spent hold
    | loses | refuses => cases hp
    | deletes => simp at hp

/-- A view stays in order along a course. -/
theorem Course.accounted {start : View η} {ms : List (Moment η)} (h : Course start ms v)
    (hstart : start.Accounted) : v.Accounted := by
  induction h with
  | start => exact hstart
  | step _ now e ih => exact ih.step now e

/-! ### Changes without an answer -/

section

omit [HistoryStore η]

/-- The parts of a route's work ask for no change. -/
theorem Parts.filterMap_change? {w : View η} {actions : List Action} (h : v.Parts actions w) :
    actions.filterMap Action.change? = [] := by
  refine List.filterMap_eq_nil_iff.2 fun a ha => Action.change?_eq_none_iff.2 ?_
  rcases h.mem_cases ha with hplain | ⟨ticket, request, rfl, hreads⟩
  · exact a.changes_of_isPlain hplain
  · simp [Action.changes, hreads]

/-- The changes that are waited for stay the same if the dialog does, and no change is answered or
sent for. -/
theorem changesAwaited_of_kept {e : Event} {t : Turn η} (hdialog : t.view.dialog = v.dialog)
    (hother : ∀ request, v.ownsMutation request = true → ∀ reply, e ≠ .storeReplied request reply)
    (hnone : t.emitted.filterMap Action.change? = []) :
    t.view.changesAwaited = v.changesAwaited.filter (fun request => !e.answers request) ++
      t.emitted.filterMap Action.change? := by
  rw [hnone, List.append_nil, changesAwaited, hdialog]
  refine (List.filter_eq_self.2 fun request hrequest => ?_).symm
  rw [Event.answers_eq_false (hother request (mem_changesAwaited_iff.1 hrequest))]
  rfl

/-- No change is waited for any more once that of the dialog has been answered. -/
theorem filter_changesAwaited_of_answered {p : PendingDialog} {request : Ticket} {name : String}
    (hdialog : v.dialog = some p) (hwaits : p.state = .awaiting request name) (reply : StoreReply) :
    v.changesAwaited.filter (fun t => !(Event.storeReplied request reply).answers t) = [] := by
  simp [changesAwaited_of_awaiting hdialog hwaits, Event.answers]

end

/-- The changes that are waited for after an event are those that were, without the one that the
event answers, and those that the view has just sent for. -/
theorem Accounted.changesAwaited_step (hv : v.Accounted) (now : Int) (e : Event) :
    (v.step now e).view.changesAwaited =
      v.changesAwaited.filter (fun request => !e.answers request) ++
        (v.step now e).emitted.filterMap Action.change? := by
  have houtcome := v.outcome_step now e
  generalize v.step now e = t at houtcome ⊢
  cases houtcome with
  | ignored _ hreply =>
      refine changesAwaited_of_kept rfl (fun request howned reply he => ?_) rfl
      simp [(hreply request reply he).2.2] at howned
  | route _ hparts hanswer =>
      refine changesAwaited_of_kept hparts.frame.dialog (fun _ _ => by simp) ?_
      refine List.filterMap_eq_nil_iff.2 fun a ha => ?_
      rcases List.mem_append.1 (Turn.mem_of_mem_emitted hanswer ha) with ha | ha
      · exact Action.change?_eq_none_iff.2 (a.changes_of_isPlain (isPlain_of_mem_enterActions ha))
      · exact List.filterMap_eq_nil_iff.1 hparts.filterMap_change? a ha
  | escalated => exact changesAwaited_of_kept rfl (fun _ _ => by simp) rfl
  | answered hpending hview hplain =>
      refine changesAwaited_of_kept (by rw [hview]) (fun request howned reply he => ?_)
        (Action.filterMap_change?_of_plain hplain)
      obtain ⟨rfl, -⟩ := Event.storeReplied.inj he
      have hdetail := (not_owns_of_ownsMutation hv.nodup howned).1
      simp [ownsDetail_iff_pending.2 ⟨_, hpending, rfl⟩] at hdetail
  | listed hsearch ha =>
      refine changesAwaited_of_kept rfl (fun request howned reply he => ?_) ?_
      · obtain ⟨rfl, -⟩ := Event.storeReplied.inj he
        have hlisting := (not_owns_of_ownsMutation hv.nodup howned).2
        simp [ownsSearch, hsearch] at hlisting
      · rcases ha with ⟨rows, rfl⟩ | ⟨text, rfl⟩ <;> rfl
  | led _ hreply =>
      exact changesAwaited_of_kept (by rw [view_redirect]) (fun request _ => hreply request)
        (Action.filterMap_change?_of_plain fun a ha => isPlain_of_mem_redirect ha)
  | @favored changed =>
      exact changesAwaited_of_kept rfl (fun _ _ => by simp) (by cases changed <;> rfl)
  | opened hdialog =>
      rw [changesAwaited_of_none hdialog]
      rfl
  | closed hdialog hasks | creates _ _ hdialog hasks | deletes hdialog hasks =>
      rw [changesAwaited_of_prompting hdialog hasks]
      rfl
  | created hdialog hwaits | lost hdialog hwaits | rearmed _ hdialog hwaits
  | refused _ hdialog hwaits =>
      rw [filter_changesAwaited_of_answered hdialog hwaits]
      rfl
  | deleted hdialog hwaits =>
      rw [filter_changesAwaited_of_answered hdialog hwaits, view_redirect,
        Action.filterMap_change?_of_plain fun a ha => isPlain_of_mem_redirect ha]
      rfl
  | reset hparts =>
      exact changesAwaited_of_kept hparts.frame.dialog (fun _ _ => by simp)
        hparts.filterMap_change?

/-! ### Dialogs that are gone -/

/-- A ticket that is spent, and not that of a dialog on the screen. -/
structure Retired (v : View η) (d : Ticket) : Prop where
  spent : v.Spent d
  hidden : ∀ p, v.dialog = some p → p.ticket = d → ¬ p.IsShown

/-- A dialog that is gone is not mentioned any more. -/
theorem Retired.not_mentions {d : Ticket} (h : v.Retired d) {now : Int} {e : Event} :
    ∀ a ∈ (v.step now e).emitted, a.mentions d = false := by
  intro a ha
  by_contra hmentions
  obtain ⟨p, hdialog, hticket, hshown⟩ := h.spent.shown_of_mentions ha (by simpa using hmentions)
  exact h.hidden p hdialog hticket hshown

/-- A dialog that is gone stays gone. -/
theorem Retired.step {d : Ticket} (h : v.Retired d) (now : Int) (e : Event) :
    (v.step now e).view.Retired d := by
  refine ⟨(v.advances_step now e).spent h.spent, fun q hq hticket => ?_⟩
  have hmove := v.dialogMove_step now e
  generalize v.step now e = t at hmove hq
  cases hmove with
  | aloof hturn => exact h.hidden q (hturn.view.dialog ▸ hq) hticket
  | opens =>
      obtain rfl := Option.some.inj hq
      exact absurd hticket h.spent.nextTicket_ne
  | closes _ _ _ htracked => exact (htracked q hq).2
  | @turns _ p _ _ state hdialog hpurpose _ _ htracked =>
      obtain rfl := Option.some.inj (htracked.symm.trans hq)
      exact absurd (.inr hpurpose) (h.hidden p hdialog hticket)
  | loses | refuses => cases hq
  | deletes => simp at hq

/-- A dialog that is closed is closed at first, and not mentioned any more from then on. -/
theorem Accounted.retired_of_closes (hv : v.Accounted) {now : Int} {e : Event} {d : Ticket}
    (hcloses : .closeDialog d ∈ (v.step now e).emitted) :
    ∃ rest, (v.step now e).emitted = .closeDialog d :: rest ∧
      (∀ a ∈ rest, a.mentions d = false) ∧ (v.step now e).view.Retired d := by
  have hadvances := v.advances_step now e
  have houtcome := v.outcome_step now e
  generalize v.step now e = t at houtcome hadvances hcloses ⊢
  have hplain : ¬ ∀ a ∈ t.emitted, a.isPlain = true := fun h => by
    simpa [Action.isPlain] using h _ hcloses
  cases houtcome with
  | closed hdialog hasks =>
      obtain rfl := Action.closeDialog.inj (List.mem_singleton.1 hcloses)
      exact ⟨[], rfl, by simp, hadvances.spent (hv.dialog _ hdialog), by simp⟩
  | @deletes p _ _ hdialog _ hpurpose =>
      obtain rfl : d = p.ticket := by simpa using hcloses
      have hspent := hv.dialog _ hdialog
      refine ⟨[_], rfl, ?_, hadvances.spent hspent, ?_⟩
      · simpa [Action.mentions] using hspent.nextTicket_ne
      · rintro q ⟨⟩ -
        simp [PendingDialog.IsShown, hpurpose]
  | @created p _ _ _ _ _ hdialog =>
      obtain rfl : d = p.ticket := by simpa using hcloses
      exact ⟨[_], rfl, by simp [Action.mentions], hadvances.spent (hv.dialog _ hdialog), by simp⟩
  | route _ hparts hanswer =>
      rcases List.mem_append.1 (Turn.mem_of_mem_emitted hanswer hcloses) with hmem | hmem
      · cases isPlain_of_mem_enterActions hmem
      · cases hparts.movesDialog _ hmem
  | reset hparts => cases hparts.movesDialog _ hcloses
  | answered _ _ hall => exact absurd hall hplain
  | led => exact absurd (fun a ha => isPlain_of_mem_redirect ha) hplain
  | deleted => exact absurd (fun a ha => isPlain_of_mem_redirect ha) hplain
  | listed _ ha => rcases ha with ⟨rows, rfl⟩ | ⟨text, rfl⟩ <;> simp at hcloses
  | @favored changed => cases changed <;> simp [Turn.emitted, Except.map] at hcloses
  | _ => simp [Turn.emitted, Turn.done, Turn.fail] at hcloses

/-! ### Changes of a dialog -/

omit [HistoryStore η] in
/-- What a view owes a dialog: one change, once the dialog has its ticket, unless it still asks. -/
def owed (v : View η) (d : Ticket) : Nat :=
  if d.number ≤ v.lastTicket ∧ v.asks d = false then 1 else 0

/-- A dialog asks if it did before, if it has just got its ticket, or if it shows an error. -/
theorem asks_step {now : Int} {e : Event} {d : Ticket}
    (hasks : (v.step now e).view.asks d = true) : v.asks d = true ∨ v.lastTicket < d.number ∨
      0 < (v.step now e).emitted.countP (Action.showsErrorIn d) := by
  obtain ⟨p, hp, hticket, hstate⟩ := asks_iff.1 hasks
  have hkept : ∀ {w : View η}, w.dialog = v.dialog → w.dialog = some p → v.asks d = true :=
    fun hdialog hw => asks_iff.2 ⟨p, hdialog ▸ hw, hticket, hstate⟩
  have houtcome := v.outcome_step now e
  generalize v.step now e = t at houtcome hp ⊢
  cases houtcome with
  | route _ hparts => exact .inl (hkept hparts.frame.dialog hp)
  | reset hparts => exact .inl (hkept hparts.frame.dialog hp)
  | answered _ hview => exact .inl (hkept (by rw [hview]) hp)
  | led => exact .inl (hkept (by rw [view_redirect]) hp)
  | opened =>
      obtain rfl := Option.some.inj hp
      exact .inr (.inl (hticket ▸ Nat.lt_succ_self _))
  | rearmed text =>
      obtain rfl := Option.some.inj hp
      subst hticket
      exact .inr (.inr (by simp [Action.showsErrorIn]))
  | creates | deletes =>
      obtain rfl := Option.some.inj hp
      cases hstate
  | deleted => simp at hp
  | closed | created | lost | refused => cases hp
  | _ => exact .inl (hkept rfl hp)

/-- A decision asks for no change, or it takes what the dialog asked for. -/
theorem changes_of_decision (now : Int) (d : Ticket) (decision : DialogDecision) :
    (v.step now (.dialogResolved d decision)).emitted.countP Action.changes = 0 ∨
      (v.step now (.dialogResolved d decision)).emitted.countP Action.changes = 1 ∧
        v.asks d = true ∧ (v.step now (.dialogResolved d decision)).view.asks d = false := by
  have houtcome := v.outcome_step now (.dialogResolved d decision)
  generalize v.step now (.dialogResolved d decision) = t at houtcome ⊢
  cases houtcome with
  | led hto => cases hto
  | ignored | closed => exact .inl rfl
  | creates _ _ hdialog hasks =>
      exact .inr ⟨rfl, asks_iff.2 ⟨_, hdialog, rfl, hasks⟩, by simp [asks, Turn.done]⟩
  | deletes hdialog hasks =>
      exact .inr ⟨rfl, asks_iff.2 ⟨_, hdialog, rfl, hasks⟩, by simp [asks, Turn.done]⟩

omit [HistoryStore η] in
/-- A dialog that asks for a decision is owed nothing. -/
theorem owed_of_asks {d : Ticket} (h : v.asks d = true) : v.owed d = 0 := by
  rw [owed, if_neg]
  simp [h]

omit [HistoryStore η] in
/-- A dialog is owed one change at most. -/
theorem owed_le_one (v : View η) (d : Ticket) : v.owed d ≤ 1 := by
  rw [owed]
  split <;> decide

/-- What is owed to a dialog is still owed after an event, unless an error is shown in it. -/
theorem owed_le_step (now : Int) (e : Event) (d : Ticket) :
    v.owed d ≤ (v.step now e).emitted.countP (Action.showsErrorIn d) +
      (v.step now e).view.owed d := by
  by_cases howed : d.number ≤ v.lastTicket ∧ v.asks d = false
  · by_cases hasks : (v.step now e).view.asks d = true
    · rcases asks_step hasks with hold | hnew | herror
      · simp [howed.2] at hold
      · exact absurd howed.1 (not_le.2 hnew)
      · have := v.owed_le_one d
        omega
    · have hissued := howed.1.trans (v.advances_step now e).le
      have hstill : (v.step now e).view.owed d = 1 := if_pos ⟨hissued, by simpa using hasks⟩
      have := v.owed_le_one d
      omega
  · rw [owed, if_neg howed]
    exact Nat.zero_le _

/-- A change is paid with what the dialog is owed from then on, or with an error. -/
theorem Accounted.owed_step (hv : v.Accounted) (now : Int) (e : Event) (d : Ticket) :
    (if e.decidesOn d then (v.step now e).emitted.countP Action.changes else 0) + v.owed d ≤
      (v.step now e).emitted.countP (Action.showsErrorIn d) + (v.step now e).view.owed d := by
  have hkept := v.owed_le_step now e d
  split
  · next hdecides =>
    obtain ⟨decision, rfl⟩ : ∃ decision, e = .dialogResolved d decision := by
      cases e with
      | dialogResolved other decision => exact ⟨decision, by rw [of_decide_eq_true hdecides]⟩
      | _ => cases hdecides
    rcases v.changes_of_decision now d decision with hnone | ⟨hone, hasks, hdone⟩
    · omega
    · obtain ⟨p, hdialog, rfl, -⟩ := asks_iff.1 hasks
      have hadvances := v.advances_step now (.dialogResolved p.ticket decision)
      have hpaid : (v.step now (.dialogResolved p.ticket decision)).view.owed p.ticket = 1 :=
        if_pos ⟨(hv.dialog p hdialog).issued.trans hadvances.le, hdone⟩
      rw [hone, owed_of_asks hasks, hpaid]
      omega
  · omega

/-! ### Courses -/

section Course

variable {start : View η} {ms : List (Moment η)} (h : Course start ms v) (hstart : start.Accounted)
include h hstart

/-- The decisions on a dialog have changed the store no more often than it has shown errors, and
once more unless it asks. -/
theorem Course.changes_le (d : Ticket) :
    ((ms.filter fun m => m.event.decidesOn d).flatMap Moment.emitted).countP Action.changes ≤
      (ms.flatMap Moment.emitted).countP (Action.showsErrorIn d) + v.owed d := by
  induction h with
  | start => exact Nat.zero_le _
  | @step ms v hcourse now e ih =>
      have hstep := (hcourse.accounted hstart).owed_step now e d
      have hlast : (([⟨v, now, e⟩] : List (Moment η)).flatMap Moment.emitted) =
          (v.step now e).emitted := List.flatMap_singleton ..
      have hdecided : ((([⟨v, now, e⟩] : List (Moment η)).filter fun m =>
          m.event.decidesOn d).flatMap Moment.emitted).countP Action.changes =
            if e.decidesOn d then (v.step now e).emitted.countP Action.changes else 0 := by
        cases hdecides : e.decidesOn d <;> simp [hdecides, Moment.emitted, Moment.turn]
      rw [List.filter_append, List.flatMap_append, List.flatMap_append, List.countP_append,
        List.countP_append, hlast, hdecided]
      omega

/-- A dialog that has been closed is not mentioned any more, and never will be. -/
theorem Course.retired_of_closes {d : Ticket} {before after : List Action}
    (hsplit : ms.flatMap Moment.emitted = before ++ .closeDialog d :: after) :
    (∀ a ∈ after, a.mentions d = false) ∧ v.Retired d := by
  induction h generalizing before after with
  | start => simp at hsplit
  | @step ms v hcourse now e ih =>
      rw [List.flatMap_append, List.flatMap_singleton] at hsplit
      rcases eq_append_cons_cases hsplit with ⟨front, hlast⟩ | ⟨back, hearlier, rfl⟩
      · change (v.step now e).emitted = _ at hlast
        have hcloses : .closeDialog d ∈ (v.step now e).emitted := by simp [hlast]
        obtain ⟨rest, hfirst, hrest, hretired⟩ :=
          (hcourse.accounted hstart).retired_of_closes hcloses
        refine ⟨fun a ha => hrest a ?_, hretired⟩
        rw [hlast] at hfirst
        cases front with
        | nil => exact (List.cons.inj hfirst).2 ▸ ha
        | cons b front =>
            rw [← (List.cons.inj hfirst).2]
            exact List.mem_append_right _ (List.mem_cons_of_mem _ ha)
      · obtain ⟨hback, hretired⟩ := ih hearlier
        refine ⟨fun a ha => ?_, hretired.step now e⟩
        rcases List.mem_append.1 ha with ha | ha
        · exact hback a ha
        · exact hretired.not_mentions a ha

/-- The changes that have not been answered are those that the view waits for. -/
theorem Course.unanswered_eq (hnone : start.dialog = none) :
    unanswered ms = v.changesAwaited := by
  induction h with
  | start => exact (changesAwaited_of_none hnone).symm
  | @step ms v hcourse now e ih =>
      rw [unanswered, List.foldl_append, ← unanswered, ih, List.foldl_cons, List.foldl_nil]
      exact ((hcourse.accounted hstart).changesAwaited_step now e).symm

end Course

/-- From the first view on, a dialog changes the store at most once, and once more for each error
that is shown in it. It is closed at most once, and nothing mentions it after that. At any time at
most one change that the view has sent for has not been answered. A decision changes nothing unless
it is on the dialog that the view tracks, while that asks. -/
theorem Course.one_decision_per_prompt {page : String} {delay : Nat} {history : η} {start : View η}
    {ms : List (Moment η)} (hstart : View.initial page delay history = .ok start)
    (h : Course start ms v) (d : Ticket) :
    ((ms.filter fun m => m.event.decidesOn d).flatMap Moment.emitted).countP Action.changes ≤
        1 + (ms.flatMap Moment.emitted).countP (Action.showsErrorIn d) ∧
      (ms.flatMap Moment.emitted).count (.closeDialog d) ≤ 1 ∧
      (∀ before after, ms.flatMap Moment.emitted = before ++ .closeDialog d :: after →
        ∀ a ∈ after, a.mentions d = false) ∧
      (unanswered ms).length ≤ 1 ∧
      (v.asks d = false → ∀ now decision,
        v.step now (.dialogResolved d decision) = .done [] v) := by
  have haccounted := Accounted.initial hstart
  have hgone : ∀ before after, ms.flatMap Moment.emitted = before ++ .closeDialog d :: after →
      ∀ a ∈ after, a.mentions d = false := fun before after hsplit =>
    (h.retired_of_closes haccounted hsplit).1
  refine ⟨?_, ?_, hgone, ?_, fun hasks now decision =>
    step_dialogResolved_of_not_asks hasks now decision⟩
  · have hchanges := h.changes_le haccounted d
    have := v.owed_le_one d
    omega
  · by_cases hcloses : .closeDialog d ∈ ms.flatMap Moment.emitted
    · obtain ⟨before, after, hsplit, hfirst⟩ := List.eq_append_cons_of_mem hcloses
      have hlast : .closeDialog d ∉ after := fun hmem => by
        simpa [Action.mentions] using hgone before after hsplit _ hmem
      rw [hsplit, List.count_append, List.count_cons_self, List.count_eq_zero.2 hfirst,
        List.count_eq_zero.2 hlast]
    · rw [List.count_eq_zero.2 hcloses]
      exact Nat.zero_le 1
  · obtain ⟨table, -, rfl⟩ := initial_eq_ok_iff.1 hstart
    rw [h.unanswered_eq haccounted rfl, changesAwaited]
    exact Option.length_toList_le

/-- A dialog for a new entity that is confirmed twice, because the store has refused once, and then
closed. A third decision changes nothing. -/
theorem one_decision_configs_refused_once : ∃ (start v : View History)
    (ms : List (Moment History)), View.initial "configs" 500 (History.inMemory 10) = .ok start ∧
    Course start ms v ∧
    ((ms.filter fun m => m.event.decidesOn ⟨1⟩).flatMap Moment.emitted).countP Action.changes = 2 ∧
    2 ≤ 1 + (ms.flatMap Moment.emitted).countP (Action.showsErrorIn ⟨1⟩) ∧
    .closeDialog ⟨1⟩ ∈ ms.flatMap Moment.emitted ∧
    (ms.flatMap Moment.emitted).count (.closeDialog ⟨1⟩) ≤ 1 ∧ (unanswered ms).length ≤ 1 ∧
    ∀ now decision, v.step now (.dialogResolved ⟨1⟩ decision) = .done [] v := by
  obtain ⟨start, hstart⟩ : ∃ start, View.initial "configs" 500 (History.inMemory 10) = .ok start :=
    ⟨_, rfl⟩
  have hcourse := Course.step (.step (.step (.step (.step (.start : Course start [] start) 0
    (.toolbarPressed .new)) 0 (.dialogResolved ⟨1⟩ (.confirmed .empty))) 0
    (.storeReplied ⟨2⟩ (.error "no"))) 0 (.dialogResolved ⟨1⟩ (.confirmed .empty))) 0
    (.storeReplied ⟨3⟩ (.created "7"))
  obtain ⟨hchanges, hclosed, -, hone, hstays⟩ := hcourse.one_decision_per_prompt hstart ⟨1⟩
  obtain rfl := Except.ok.inj hstart
  refine ⟨_, _, _, rfl, hcourse, by decide +kernel, ?_, by decide +kernel, hclosed, hone,
    hstays (by decide +kernel)⟩
  exact hchanges

end View

end ConfigBrowser
