import ConfigBrowser.History.Lists
import ConfigBrowser.Host.Trace
import ConfigBrowser.Proofs.Host.Operations
import ConfigBrowser.Proofs.View.Dialogs

/-!
# The Dialogs of a Host

The host has dialogs open and the view tracks one. They are kept in step by the actions of the view,
and by the host itself, which closes a dialog as soon as it is cancelled. The view does not hear of
that while it waits for the store: it takes no decision then, and if the store refuses it asks again
in a dialog that is gone. On pages to whose entities no path can be written there is another way to
fall out of step, since an event that fails may drop a dialog without closing it. Those two are the
only ways.

The invariant relates the moments behind the host to the dialog of the view and to those that are
open. It is kept by each kind of move that the view makes with dialogs.

## Main results

* `DialogsMatch.step`: handling an event keeps the dialogs in step.
* `Host.Story.dialogs_match_iff`: when the dialogs of a host and of its view are the same.
-/

namespace ConfigBrowser

variable {η : Type}

/-! ### Histories of dialogs -/

/-- The view keeps track of a dialog. -/
def View.Tracks (v : View η) (d : Ticket) : Prop := ∃ p, v.dialog = some p ∧ p.ticket = d

/-- The view waits for a decision on a dialog. -/
def View.Prompts (v : View η) (d : Ticket) : Prop :=
  ∃ p, v.dialog = some p ∧ p.ticket = d ∧ p.state = .prompting

/-- A dialog is cancelled while the view waits for the store. -/
def Moment.CancelsLate (m : Moment η) (d : Ticket) : Prop :=
  m.event = .dialogResolved d .cancelled ∧ m.view.Tracks d ∧ ¬ m.view.Prompts d

/-- The event fails, and the view no longer tracks the dialog. -/
def Moment.Loses [HistoryStore η] (m : Moment η) (d : Ticket) : Prop :=
  (∃ e, m.turn.answer = .error e) ∧ m.view.Tracks d ∧ m.after.dialog = none

/-- A dialog has been cancelled while the view waited for the store. -/
def CancelledLate (ms : List (Moment η)) (d : Ticket) : Prop := ∃ m ∈ ms, m.CancelsLate d

/-- A dialog has been dropped by an event that failed. -/
def Lost [HistoryStore η] (ms : List (Moment η)) (d : Ticket) : Prop := ∃ m ∈ ms, m.Loses d

/-- A dialog is cancelled late at the last moment or before it. -/
theorem cancelledLate_append_singleton (ms : List (Moment η)) (m : Moment η) (d : Ticket) :
    CancelledLate (ms ++ [m]) d ↔ CancelledLate ms d ∨ m.CancelsLate d := by
  simp [CancelledLate, or_and_right, exists_or]

/-- A dialog is lost at the last moment or before it. -/
theorem lost_append_singleton [HistoryStore η] (ms : List (Moment η)) (m : Moment η) (d : Ticket) :
    Lost (ms ++ [m]) d ↔ Lost ms d ∨ m.Loses d := by
  simp [Lost, or_and_right, exists_or]

/-- The dialogs that are open when the view hears of an event. A decision that cancels closes its
dialog before, and so does one on a dialog that reports a failure. -/
def Event.dialogsBefore (dialogs : SortedMap Ticket DialogSpec) : Event →
    SortedMap Ticket DialogSpec
  | .dialogResolved dialog decision =>
    if decision = .cancelled ∨ (dialogs.get? dialog).any DialogSpec.isError then
      dialogs.erase dialog
    else dialogs
  | _ => dialogs

/-- A dialog is off the screen before an event is handled if it was, or if the event takes it off.
-/
theorem Event.get?_dialogsBefore_eq_none_iff {e : Event} {dialogs : SortedMap Ticket DialogSpec}
    {d : Ticket} :
    (e.dialogsBefore dialogs).get? d = none ↔ dialogs.get? d = none ∨
      ∃ decision, e = .dialogResolved d decision ∧
        (decision = .cancelled ∨ (dialogs.get? d).any DialogSpec.isError) := by
  cases e with
  | dialogResolved dialog decision =>
      rw [dialogsBefore]
      split
      · next hcloses =>
        rw [SortedMap.get?_erase]
        by_cases hd : d = dialog
        · subst hd
          simp [hcloses]
        · simp [hd, Ne.symm hd]
      · next hcloses =>
        constructor
        · exact .inl
        · rintro (hnone | ⟨decision', he, hcloses'⟩)
          · exact hnone
          · obtain ⟨rfl, rfl⟩ := Event.dialogResolved.inj he
            exact absurd hcloses' hcloses
  | _ => simp [dialogsBefore]

/-- What is open when the view hears of an event was open before. -/
theorem Event.get?_of_dialogsBefore {e : Event} {dialogs : SortedMap Ticket DialogSpec} {d : Ticket}
    {spec : DialogSpec} (h : (e.dialogsBefore dialogs).get? d = some spec) :
    dialogs.get? d = some spec := by
  cases e with
  | dialogResolved dialog decision =>
      rw [dialogsBefore] at h
      split at h
      · rw [SortedMap.get?_erase] at h
        split at h
        · simp at h
        · exact h
      · exact h
  | _ => exact h

/-! ### The dialogs in step -/

section Match

variable [HistoryStore η]

/-- The dialogs in step: what is known of the dialog that the view tracks, of those that are open
and of the moments behind them. -/
structure DialogsMatch (ms : List (Moment η)) (v : View η)
    (dialogs : SortedMap Ticket DialogSpec) : Prop where
  /-- Whatever dialog is known has a ticket that was handed out. -/
  issued : ∀ d, (dialogs.get? d).isSome ∨ v.Tracks d ∨ CancelledLate ms d ∨ Lost ms d →
    d.number ≤ v.lastTicket
  /-- A dialog that the view takes to be on the screen is gone if and only if it was cancelled
  late. -/
  shown : ∀ p, v.dialog = some p → p.IsShown →
    (dialogs.get? p.ticket = none ↔ CancelledLate ms p.ticket)
  /-- The view tracks no dialog that reports a failure. -/
  asks : ∀ p spec, v.dialog = some p → dialogs.get? p.ticket = some spec → spec.isError = false
  /-- An open dialog that asks is tracked, unless it was lost. -/
  known : ∀ d spec, dialogs.get? d = some spec → spec.isError = false →
    Lost ms d ∨ ∃ p, v.dialog = some p ∧ p.ticket = d ∧ p.IsShown
  /-- What was lost is not tracked again. -/
  lost : ∀ d, Lost ms d → ¬ v.Tracks d

namespace DialogsMatch

variable {ms : List (Moment η)} {v w : View η} {now : Int} {e : Event}
  {dialogs after : SortedMap Ticket DialogSpec} (h : DialogsMatch ms v dialogs)

include h

/-- Tickets stay handed out. -/
theorem issued_append (htickets : v.lastTicket ≤ w.lastTicket)
    (hopen : ∀ d spec, after.get? d = some spec → d.number ≤ w.lastTicket)
    (htracked : ∀ d, w.Tracks d → d.number ≤ w.lastTicket) (d : Ticket) :
    (after.get? d).isSome ∨ w.Tracks d ∨ CancelledLate (ms ++ [⟨v, now, e⟩]) d ∨
      Lost (ms ++ [⟨v, now, e⟩]) d → d.number ≤ w.lastTicket := by
  have hold : v.Tracks d ∨ CancelledLate ms d ∨ Lost ms d → d.number ≤ w.lastTicket :=
    fun hd => (h.issued d (.inr hd)).trans htickets
  rintro (hsome | htracks | hlate | hlost)
  · obtain ⟨spec, hspec⟩ := Option.isSome_iff_exists.1 hsome
    exact hopen d spec hspec
  · exact htracked d htracks
  · rcases (cancelledLate_append_singleton ms _ d).1 hlate with hlate | ⟨-, htracks, -⟩
    · exact hold (.inr (.inl hlate))
    · exact hold (.inl htracks)
  · rcases (lost_append_singleton ms _ d).1 hlost with hlost | ⟨-, htracks, -⟩
    · exact hold (.inr (.inr hlost))
    · exact hold (.inl htracks)

/-- A dialog on the screen has a ticket that was handed out. -/
theorem number_le_of_open {d : Ticket} {spec : DialogSpec} (hopen : dialogs.get? d = some spec) :
    d.number ≤ v.lastTicket :=
  h.issued d (.inl (by simp [hopen]))

/-- The dialog that is tracked stays, and so do those that are open, but for what a decision
closes. -/
theorem of_kept (htickets : v.lastTicket ≤ w.lastTicket)
    (hkept : ∀ q, w.dialog = some q → ∃ p, v.dialog = some p ∧ p.ticket = q.ticket ∧
      (q.IsShown → p.IsShown))
    (hstays : ∀ p, v.dialog = some p → ∃ q, w.dialog = some q ∧ q.ticket = p.ticket ∧
      (p.IsShown → q.IsShown))
    (hcancel : ∀ p, v.dialog = some p → e = .dialogResolved p.ticket .cancelled →
      p.state ≠ .prompting)
    (hlost : ∀ d, ¬ Moment.Loses ⟨v, now, e⟩ d) :
    DialogsMatch (ms ++ [⟨v, now, e⟩]) w (e.dialogsBefore dialogs) := by
  have htracks : ∀ d, w.Tracks d → v.Tracks d := by
    rintro d ⟨q, hq, rfl⟩
    obtain ⟨p, hp, hpq, -⟩ := hkept q hq
    exact ⟨p, hp, hpq⟩
  have hlosing : ∀ d, Lost (ms ++ [⟨v, now, e⟩]) d → Lost ms d := fun d hd =>
    ((lost_append_singleton ms _ d).1 hd).resolve_right (hlost d)
  refine ⟨h.issued_append htickets ?_ ?_, ?_, ?_, ?_, ?_⟩
  · exact fun d spec hopen =>
      (h.number_le_of_open (Event.get?_of_dialogsBefore hopen)).trans htickets
  · exact fun d hd => (h.issued d (.inr (.inl (htracks d hd)))).trans htickets
  · intro q hq hshown
    obtain ⟨p, hp, hpq, hback⟩ := hkept q hq
    rw [← hpq, Event.get?_dialogsBefore_eq_none_iff, cancelledLate_append_singleton,
      h.shown p hp (hback hshown)]
    -- A decision closes the dialog of the view only by cancelling it, which it then does late.
    refine or_congr Iff.rfl ⟨?_, fun hlate => ⟨.cancelled, hlate.1, .inl rfl⟩⟩
    rintro ⟨decision, he, rfl | herror⟩
    · refine ⟨he, ⟨p, hp, rfl⟩, ?_⟩
      rintro ⟨p', hp', -, hstate⟩
      obtain rfl : p = p' := Option.some.inj (hp.symm.trans hp')
      exact hcancel p hp he hstate
    · obtain ⟨spec, hspec, hisError⟩ := (Option.any_eq_true _ _).1 herror
      rw [h.asks p spec hp hspec] at hisError
      cases hisError
  · intro q spec hq hopen
    obtain ⟨p, hp, hpq, -⟩ := hkept q hq
    rw [← hpq] at hopen
    exact h.asks p spec hp (Event.get?_of_dialogsBefore hopen)
  · intro d spec hopen hspec
    rcases h.known d spec (Event.get?_of_dialogsBefore hopen) hspec with hd | ⟨p, hp, rfl, hshown⟩
    · exact .inl ((lost_append_singleton ms _ d).2 (.inl hd))
    · obtain ⟨q, hq, hqp, hforth⟩ := hstays p hp
      exact .inr ⟨q, hq, hqp, hforth hshown⟩
  · exact fun d hd htrack => h.lost d (hlosing d hd) (htracks d htrack)

/-- A dialog that asks is opened under a new ticket, while none is tracked. -/
theorem of_opened (hdialog : v.dialog = none) {p : PendingDialog} (hp : w.dialog = some p)
    (hticket : p.ticket = v.nextTicket) (hshown : p.IsShown)
    (htickets : w.lastTicket = v.lastTicket + 1) {spec : DialogSpec} (hspec : spec.isError = false)
    (hevent : ∀ d decision, e ≠ .dialogResolved d decision) :
    DialogsMatch (ms ++ [⟨v, now, e⟩]) w (dialogs.insert v.nextTicket spec) := by
  have huntracked : ∀ d, ¬ v.Tracks d := by simp [View.Tracks, hdialog]
  have hlosing : ∀ d, Lost (ms ++ [⟨v, now, e⟩]) d → Lost ms d := fun d hd =>
    ((lost_append_singleton ms _ d).1 hd).resolve_right fun hm => huntracked d hm.2.1
  have hnext : v.nextTicket.number = w.lastTicket := htickets.symm
  have htracks : ∀ d, w.Tracks d → d = v.nextTicket := by
    rintro d ⟨q, hq, rfl⟩
    obtain rfl : p = q := Option.some.inj (hp.symm.trans hq)
    exact hticket
  refine ⟨h.issued_append (by omega) ?_ ?_, ?_, ?_, ?_, ?_⟩
  · intro d spec' hopen
    rw [SortedMap.get?_insert] at hopen
    split at hopen
    · next hd => rw [hd, hnext]
    · exact (h.number_le_of_open hopen).trans (by omega)
  · exact fun d hd => by rw [htracks d hd, hnext]
  · intro q hq _
    rw [htracks q.ticket ⟨q, hq, rfl⟩, SortedMap.get?_insert, if_pos rfl,
      cancelledLate_append_singleton]
    refine iff_of_false (by simp) ?_
    rintro (hlate | hlate)
    · exact absurd (h.issued _ (.inr (.inr (.inl hlate)))) (Nat.not_succ_le_self _)
    · exact hevent _ _ hlate.1
  · intro q spec' hq hopen
    rw [htracks q.ticket ⟨q, hq, rfl⟩, SortedMap.get?_insert, if_pos rfl] at hopen
    rw [← Option.some.inj hopen, hspec]
  · intro d spec' hopen hspec'
    rw [SortedMap.get?_insert] at hopen
    split at hopen
    · next hd => exact .inr ⟨p, hp, by rw [hticket, hd], hshown⟩
    · rcases h.known d spec' hopen hspec' with hd | ⟨p', hp', -, -⟩
      · exact .inl ((lost_append_singleton ms _ d).2 (.inl hd))
      · simp [hdialog] at hp'
  · intro d hd htrack
    rw [htracks d htrack] at hd
    exact absurd (h.issued _ (.inr (.inr (.inr (hlosing _ hd))))) (Nat.not_succ_le_self _)

/-- The dialog that is tracked is closed or dropped. At most a deletion is waited for from then on,
and a dialog that is not closed is lost or reports a failure. -/
theorem of_left {p : PendingDialog} (hp : v.dialog = some p)
    (htickets : v.lastTicket ≤ w.lastTicket)
    (hopen : ∀ d spec, after.get? d = some spec → d.number ≤ w.lastTicket)
    (hold : ∀ d spec, after.get? d = some spec → spec.isError = false →
      dialogs.get? d = some spec ∧
        (d = p.ticket → p.IsShown → Moment.Loses ⟨v, now, e⟩ d))
    (htracked : ∀ q, w.dialog = some q → q.ticket = p.ticket ∧ ¬ q.IsShown ∧
      after.get? p.ticket = none ∧ ¬ Moment.Loses ⟨v, now, e⟩ p.ticket) :
    DialogsMatch (ms ++ [⟨v, now, e⟩]) w after := by
  have htracks : ∀ d, w.Tracks d → d = p.ticket := by
    rintro d ⟨q, hq, rfl⟩
    exact (htracked q hq).1
  refine ⟨h.issued_append htickets hopen ?_, ?_, ?_, ?_, ?_⟩
  · intro d hd
    exact (h.issued d (.inr (.inl ⟨p, hp, (htracks d hd).symm⟩))).trans htickets
  · exact fun q hq hshown => absurd hshown (htracked q hq).2.1
  · intro q spec hq hget
    obtain ⟨hticket, -, hnone, -⟩ := htracked q hq
    rw [hticket, hnone] at hget
    cases hget
  · intro d spec hget hspec
    obtain ⟨hbefore, hloses⟩ := hold d spec hget hspec
    refine .inl ((lost_append_singleton ms _ d).2 ?_)
    rcases h.known d spec hbefore hspec with hd | ⟨p', hp', rfl, hshown⟩
    · exact .inl hd
    · obtain rfl : p = p' := Option.some.inj (hp.symm.trans hp')
      exact .inr (hloses rfl hshown)
  · rintro d hd ⟨q, hq, hqd⟩
    obtain ⟨hticket, -, -, hkept⟩ := htracked q hq
    obtain rfl : p.ticket = d := hticket.symm.trans hqd
    rcases (lost_append_singleton ms _ _).1 hd with hd | hd
    · exact h.lost _ hd ⟨p, hp, rfl⟩
    · exact hkept hd

/-- The dialog that is tracked is closed. -/
theorem of_closed {p : PendingDialog} (hp : v.dialog = some p)
    (htracked : ∀ q, w.dialog = some q → q.ticket = p.ticket ∧ ¬ q.IsShown)
    (htickets : v.lastTicket ≤ w.lastTicket) (hkeeps : ∀ d, ¬ Moment.Loses ⟨v, now, e⟩ d) :
    DialogsMatch (ms ++ [⟨v, now, e⟩]) w ((e.dialogsBefore dialogs).erase p.ticket) := by
  have hopen : ∀ d spec, ((e.dialogsBefore dialogs).erase p.ticket).get? d = some spec →
      d ≠ p.ticket ∧ dialogs.get? d = some spec := by
    intro d spec hd
    rw [SortedMap.get?_erase] at hd
    split at hd
    · cases hd
    · next hne => exact ⟨hne, Event.get?_of_dialogsBefore hd⟩
  refine h.of_left hp htickets ?_ ?_ ?_
  · exact fun d spec hd => (h.number_le_of_open (hopen d spec hd).2).trans htickets
  · exact fun d spec hd _ => ⟨(hopen d spec hd).2, fun heq => absurd heq (hopen d spec hd).1⟩
  · intro q hq
    obtain ⟨hticket, hshown⟩ := htracked q hq
    exact ⟨hticket, hshown, by rw [SortedMap.get?_erase, if_pos rfl], hkeeps _⟩

/-- The dialog that is tracked is dropped, and another one reports why. -/
theorem of_refused {p : PendingDialog} (hp : v.dialog = some p) (hshown : ¬ p.IsShown)
    (hdropped : w.dialog = none) (htickets : w.lastTicket = v.lastTicket + 1) (text : String) :
    DialogsMatch (ms ++ [⟨v, now, e⟩]) w (dialogs.insert v.nextTicket (.error text)) := by
  have hnext : v.nextTicket.number = w.lastTicket := htickets.symm
  refine h.of_left hp (by omega) ?_ ?_ (by simp [hdropped])
  · intro d spec hd
    rw [SortedMap.get?_insert] at hd
    split at hd
    · next heq => rw [heq, hnext]
    · exact (h.number_le_of_open hd).trans (by omega)
  · intro d spec hd hspec
    rw [SortedMap.get?_insert] at hd
    split at hd
    · obtain rfl := Option.some.inj hd
      cases hspec
    · exact ⟨hd, fun _ hp => absurd hp hshown⟩

/-- Handling an event keeps the dialogs in step. -/
theorem step (now : Int) (e : Event) :
    DialogsMatch (ms ++ [⟨v, now, e⟩]) (v.step now e).view
      ((v.step now e).emitted.foldl Action.dialogsAfter (e.dialogsBefore dialogs)) := by
  have hmove := v.dialogMove_step now e
  have hloses : ∀ d, Moment.Loses ⟨v, now, e⟩ d ↔ (∃ err, (v.step now e).answer = .error err) ∧
      v.Tracks d ∧ (v.step now e).view.dialog = none := fun d => Iff.rfl
  generalize v.step now e = t at hmove hloses ⊢
  have hdone : ∀ {actions}, t.answer = .ok actions → ∀ d, ¬ Moment.Loses ⟨v, now, e⟩ d := by
    intro actions hok d hd
    obtain ⟨⟨err, herror⟩, -, -⟩ := (hloses d).1 hd
    simp [hok] at herror
  cases hmove with
  | aloof hturn hevent =>
      have hsame := hturn.view.dialog
      rw [Action.foldl_dialogsAfter hturn.emitted]
      refine h.of_kept hturn.view.tickets ?_ ?_ ?_ ?_
      · exact fun q hq => ⟨q, hsame ▸ hq, rfl, id⟩
      · exact fun p hp => ⟨p, hsame.symm ▸ hp, rfl, id⟩
      · exact fun p hp he hstate => hevent p hp hstate .cancelled he
      · rintro d hd
        obtain ⟨-, ⟨p, hp, -⟩, hnone⟩ := (hloses d).1 hd
        simp [hsame, hp] at hnone
  | opens purpose spec hdialog hspec =>
      exact h.of_opened hdialog rfl rfl (.inl rfl) rfl hspec (by simp)
  | closes hdialog hevent hactions htracked htickets =>
      rw [Turn.emitted_done, List.foldl_cons, Action.foldl_dialogsAfter hactions]
      exact h.of_closed hdialog htracked htickets (hdone rfl)
  | @turns _ p actions w state hdialog hpurpose hevent hactions htracked htickets =>
      rw [Turn.emitted_done, Action.foldl_dialogsAfter hactions]
      refine h.of_kept htickets ?_ ?_ ?_ (hdone rfl)
      · intro q hq
        obtain rfl : { p with state } = q := Option.some.inj (htracked.symm.trans hq)
        exact ⟨p, hdialog, rfl, fun _ => .inr hpurpose⟩
      · intro p' hp'
        obtain rfl : p = p' := Option.some.inj (hdialog.symm.trans hp')
        exact ⟨_, htracked, rfl, fun _ => .inr hpurpose⟩
      · exact fun p' hp' he _ => (hevent _ _ he).2 rfl
  | @loses ticket id p err hdialog hpath =>
      refine h.of_left hdialog le_rfl ?_ ?_ (by simp)
      · exact fun d spec hd => h.number_le_of_open hd
      · exact fun d spec hd _ =>
          ⟨hd, fun heq _ => (hloses d).2 ⟨⟨err, rfl⟩, ⟨p, hdialog, heq.symm⟩, rfl⟩⟩
  | @deletes ticket p hdialog hshown =>
      have hturn := View.aloof_redirect (.refl { v with dialog := none })
        (v.currentArgs.withFlag .deleted) .loadDelete
      rw [Action.foldl_dialogsAfter hturn.emitted]
      refine h.of_left hdialog hturn.view.tickets ?_ ?_ ?_
      · exact fun d spec hd => (h.number_le_of_open hd).trans hturn.view.tickets
      · exact fun d spec hd _ => ⟨hd, fun _ hp => absurd hp hshown⟩
      · exact fun q hq => by simp at hq
  | refuses text hdialog hshown => exact h.of_refused hdialog hshown rfl rfl text

end DialogsMatch

end Match

/-! ### Hosts -/

namespace Host

variable {σ η : Type} [RemoteStore σ]

/-- An action that is carried out moves dialogs as it says. -/
theorem execute_dialogs (h : Host σ η) (a : Action) :
    (h.execute a).dialogs = Action.dialogsAfter h.dialogs a := by
  cases a with
  | store ticket r =>
      simp only [execute, effect, request]
      split <;> rfl
  | _ => rfl

/-- Actions move dialogs in the order in which they are carried out. -/
theorem foldl_execute_dialogs (h : Host σ η) (actions : List Action) :
    (actions.foldl execute h).dialogs = actions.foldl Action.dialogsAfter h.dialogs := by
  induction actions generalizing h with
  | nil => rfl
  | cons a rest ih => rw [List.foldl_cons, ih, execute_dialogs, List.foldl_cons]

variable [HistoryStore η]

/-- The dialogs that are open follow the actions of the view. -/
theorem handled_dialogs (h : Host σ η) (e : Event) (rest : List Event) :
    (h.handled e rest).dialogs =
      (h.view.step h.clock e).emitted.foldl Action.dialogsAfter h.dialogs := by
  rw [handled, Turn.emitted]
  cases (h.view.step h.clock e).answer with
  | error err => rfl
  | ok actions => exact foldl_execute_dialogs _ actions

omit [HistoryStore η] in
/-- An operation closes the dialog that is decided on, if at all. -/
theorem Acts.dialogs_eq {h h' : Host σ η} {e : Event} (hacts : h.Acts e h') :
    h'.dialogs = e.dialogsBefore h.dialogs := by
  cases hacts <;> rfl

/-- The dialogs of a host that was fresh are in step. -/
theorem Story.dialogsMatch {start h : Host σ η} {ms : List (Moment η)} (hstory : Story start ms h)
    (hview : start.view.dialog = none) (hdialogs : start.dialogs = .empty)
    (hqueue : start.queue = []) : DialogsMatch ms h.view h.dialogs := by
  induction hstory with
  | start =>
      have hnone : ∀ d, start.dialogs.get? d = none := fun d => by rw [hdialogs]; rfl
      exact ⟨by simp [hnone, View.Tracks, hview, CancelledLate, Lost], by simp [hview],
        by simp [hview], by simp [hnone], by simp [Lost]⟩
  | act hstory hidle hacts ih =>
      rw [handled_view, handled_dialogs, hacts.dialogs_eq, hacts.view_eq]
      exact ih.step _ _
  | @next ms h e rest hstory hwaits ih =>
      have hsame : e.dialogsBefore h.dialogs = h.dialogs := by
        have hreported := hstory.queue_reported hqueue e (hwaits ▸ List.mem_cons_self)
        cases hreported <;> rfl
      rw [handled_view, handled_dialogs, ← hsame]
      exact ih.step _ _
  | idle hstory hidle clock timers deferred ih => exact ih

/-- The dialogs of a host that was fresh, and those of its view. A dialog for which the view waits
is open, unless it was cancelled late; and a dialog that is open and asks is the one that the view
tracks, unless an event has failed and lost it. Without a colon in the name of the page none is
lost. -/
theorem Story.dialogs_match_iff {page : String} {delay : Nat} {history : η} {view : View η}
    (hview : View.initial page delay history = .ok view) {store : MemoryStore}
    {ms : List (Moment η)} {h : Host MemoryStore η}
    (hstory : Story (Host.initial view store) ms h) :
    (∀ d, h.view.Prompts d → ((h.dialogs.get? d).isSome ↔ ¬ CancelledLate ms d)) ∧
    (∀ d spec, h.dialogs.get? d = some spec → spec.isError = false →
      (h.view.Tracks d ↔ ¬ Lost ms d)) ∧
    (':' ∉ page.toList → ∀ d, ¬ Lost ms d) := by
  obtain ⟨table, htable, hfresh⟩ := View.initial_eq_ok_iff.1 hview
  have hmatch : DialogsMatch ms h.view h.dialogs :=
    hstory.dialogsMatch (by rw [hfresh]; rfl) rfl rfl
  refine ⟨?_, ?_, ?_⟩
  · rintro d ⟨p, hp, rfl, hstate⟩
    rw [← hmatch.shown p hp (.inl hstate)]
    exact Option.isSome_iff_ne_none
  · intro d spec hopen hspec
    refine ⟨fun htracks hlost => hmatch.lost d hlost htracks, fun hkept => ?_⟩
    obtain ⟨p, hp, hpd, -⟩ := (hmatch.known d spec hopen hspec).resolve_left hkept
    exact ⟨p, hp, hpd⟩
  · rintro hpage d ⟨m, hm, ⟨e, herror⟩, ⟨p, hp, -⟩, hdropped⟩
    have hsound := hstory.course.sound_of_mem (View.Sound.initial hpage hview) hm
    obtain ⟨ticket, hevent⟩ := hsound.created_of_error herror hp hdropped
    obtain ⟨store', r, hreply⟩ := hstory.reply_eq rfl hm hevent
    exact MemoryStore.execute_ne_created_empty _ _ hreply.symm

/-- A dialog is cancelled while the store is asked to create an entity without a name. The store
refuses, and the view waits for a decision on a dialog that is gone. -/
theorem dialog_gone_after_refusal : ∃ (view : View History) (ms : List (Moment History))
    (h : Browser), View.initial "configs" 500 (History.inMemory 10) = .ok view ∧
    Story (Host.initial view MemoryStore.empty) ms h ∧ h.queue = [] ∧
    h.view.dialog = some ⟨⟨1⟩, .create, .prompting⟩ ∧ h.dialogs.get? ⟨1⟩ = none ∧
    CancelledLate ms ⟨1⟩ ∧ ∀ d, ¬ Lost ms d := by
  obtain ⟨view, hview⟩ : ∃ view, View.initial "configs" 500 (History.inMemory 10) = .ok view :=
    ⟨_, rfl⟩
  generalize hops : [Operation.setDeferred true, .press .new,
    .resolveDialog ⟨1⟩ (.confirmed (.ofList [("name", " ")])), .resolveDialog ⟨1⟩ .cancelled,
    .release ⟨2⟩] = ops
  have hruns : settles (Host.initial view MemoryStore.empty) ops = true ∧
      (performAll (Host.initial view MemoryStore.empty) ops).view.dialog =
        some ⟨⟨1⟩, .create, .prompting⟩ ∧
      (performAll (Host.initial view MemoryStore.empty) ops).dialogs.get? ⟨1⟩ = none := by
    subst hops
    obtain rfl := Except.ok.inj hview
    decide +kernel
  obtain ⟨hsettles, hdialog, hgone⟩ := hruns
  obtain ⟨hstory, hqueue⟩ := Story.start.performAll rfl hsettles
  obtain ⟨hshown, -, hkept⟩ := Story.dialogs_match_iff hview hstory
  refine ⟨view, _, _, hview, hstory, hqueue, hdialog, hgone, ?_, hkept (by decide)⟩
  by_contra hnot
  have hopen := (hshown ⟨1⟩ ⟨_, hdialog, rfl, rfl⟩).2 hnot
  rw [hgone] at hopen
  cases hopen

end Host

end ConfigBrowser
