import ConfigBrowser.History.Lists
import ConfigBrowser.Proofs.View.Course

/-!
# Tickets

Requests and dialogs are numbered from one counter. At any time the view waits for at most three
replies: to the request for an entity, to the last search, and to the change that its dialog asked
for. A ticket that has been handed out and is not waited for is spent: the reply to it changes
nothing. It stays spent, because the view only begins to wait for tickets that it has just handed
out. So every reply counts at most once, whatever the order of events, on any page.

## Main results

* `View.advances_step`, `View.Course.advances`: one event and a course of events hand out new
  tickets in increasing order, and the view begins to wait for no others.
* `View.awaited_perm_of_reply`: a reply that counts ends one wait.
* `View.Course.replies_count_once`: the laws of tickets from the first view on.
-/

namespace ConfigBrowser

/-- The ticket that an action hands out. -/
def Action.ticket? : Action → Option Ticket
  | .store ticket _ => some ticket
  | .openDialog dialog _ => some dialog
  | _ => none

/-- The tickets that actions hand out, in order. -/
def Action.tickets (actions : List Action) : List Ticket := actions.filterMap Action.ticket?

/-- The tickets of actions come in their order. -/
theorem Action.tickets_append (first second : List Action) :
    Action.tickets (first ++ second) = Action.tickets first ++ Action.tickets second :=
  List.filterMap_append

/-- Actions that concern neither the store nor a dialog hand out no ticket. -/
theorem Action.tickets_of_plain {actions : List Action} (h : ∀ a ∈ actions, a.isPlain = true) :
    Action.tickets actions = [] := by
  refine List.filterMap_eq_nil_iff.2 fun a ha => ?_
  have hplain := h a ha
  cases a <;> first | rfl | simp [Action.isPlain] at hplain

/-- The ticket of the request whose reply a dialog waits for. -/
def PendingDialog.request? (p : PendingDialog) : Option Ticket :=
  match p.state with
  | .awaiting request _ => some request
  | .prompting => none

/-- A dialog that waits for the store has its request. -/
theorem PendingDialog.request?_of_awaiting {p : PendingDialog} {ticket : Ticket} {name : String}
    (h : p.state = .awaiting ticket name) : p.request? = some ticket := by
  rw [request?, h]

namespace View

variable {η : Type}

/-- The tickets of the replies that a view waits for. -/
def awaited (v : View η) : List Ticket :=
  (v.pending.map PendingDetail.ticket).toList ++
    (v.latestSearch.toList ++ (v.dialog.bind PendingDialog.request?).toList)

/-- A ticket that has been handed out, and that the view does not wait for. -/
structure Spent (v : View η) (ticket : Ticket) : Prop where
  issued : ticket.number ≤ v.lastTicket
  not_mem : ticket ∉ v.awaited

/-- A view waits for the reply to a change when that is what its dialog has requested. -/
theorem ownsMutation_iff_request {v : View η} {ticket : Ticket} :
    v.ownsMutation ticket = true ↔ v.dialog.bind PendingDialog.request? = some ticket := by
  rw [ownsMutation_iff, Option.bind_eq_some_iff]
  refine exists_congr fun p => and_congr_right fun _ => ?_
  rw [PendingDialog.request?]
  cases p.state <;> simp

/-- What a view waits for are the tickets that it owns. -/
theorem mem_awaited_iff {v : View η} {ticket : Ticket} :
    ticket ∈ v.awaited ↔
      v.ownsDetail ticket = true ∨ v.ownsSearch ticket = true ∨ v.ownsMutation ticket = true := by
  rw [ownsMutation_iff_request, ownsDetail_iff_pending, ownsSearch, awaited, List.mem_append,
    List.mem_append, Option.mem_toList, Option.mem_toList, Option.mem_toList,
    Option.map_eq_some_iff, decide_eq_true_eq]

/-! ### What a view waits for after a change -/

/-- A view that waits for the same replies as another one or for fewer. -/
theorem awaited_sublist {v w : View η}
    (hpending : w.pending.map PendingDetail.ticket = v.pending.map PendingDetail.ticket ∨
      w.pending.map PendingDetail.ticket = none)
    (hsearch : w.latestSearch = v.latestSearch ∨ w.latestSearch = none)
    (hdialog : w.dialog.bind PendingDialog.request? = v.dialog.bind PendingDialog.request? ∨
      w.dialog.bind PendingDialog.request? = none) : w.awaited.Sublist v.awaited := by
  have hkept : ∀ {a b : Option Ticket}, b = a ∨ b = none → b.toList.Sublist a.toList := by
    rintro a b (rfl | rfl)
    · exact List.Sublist.refl _
    · exact List.nil_sublist _
  exact (hkept hpending).append ((hkept hsearch).append (hkept hdialog))

/-- A view whose dialog waits for a reply waits for that and for what it does without the dialog. -/
theorem awaited_perm_of_dialog {v w : View η} {p : PendingDialog} {ticket : Ticket}
    (hdialog : v.dialog = some p) (hp : p.request? = some ticket)
    (hpending : w.pending = v.pending) (hsearch : w.latestSearch = v.latestSearch)
    (hnone : w.dialog.bind PendingDialog.request? = none) :
    v.awaited.Perm (ticket :: w.awaited) := by
  simp only [awaited, hdialog, hpending, hsearch, hnone, Option.bind_some, hp, Option.toList_some,
    Option.toList_none, List.append_nil, ← List.append_assoc]
  exact List.perm_append_singleton _ _

/-- From one view to another tickets are handed out in increasing order, each of them new, and
the other view waits for no ticket that is neither new nor waited for before, nor twice for any. -/
structure Advances (v : View η) (tickets : List Ticket) (w : View η) : Prop where
  le : v.lastTicket ≤ w.lastTicket
  fresh : ∀ t ∈ tickets, v.lastTicket < t.number ∧ t.number ≤ w.lastTicket
  increasing : tickets.Pairwise (·.number < ·.number)
  awaited : ∀ t ∈ w.awaited, t ∈ v.awaited ∨ v.lastTicket < t.number ∧ t.number ≤ w.lastTicket
  nodup : (∀ t ∈ v.awaited, t.number ≤ v.lastTicket) → v.awaited.Nodup → w.awaited.Nodup

namespace Advances

variable {v u w : View η} {tickets : List Ticket}

/-- A view that waits for no more than before, and may have handed out and lost a ticket. -/
theorem of_sublist (hle : v.lastTicket ≤ w.lastTicket) (hkept : w.awaited.Sublist v.awaited) :
    v.Advances [] w where
  le := hle
  fresh := by simp
  increasing := .nil
  awaited t ht := .inl (hkept.subset ht)
  nodup _ h := h.sublist hkept

/-- Without actions no ticket is handed out. -/
theorem refl (v : View η) : v.Advances [] v := of_sublist le_rfl (List.Sublist.refl _)

/-- A view that has handed out the next ticket. -/
theorem of_next (hlast : w.lastTicket = v.lastTicket + 1) {kept : List Ticket}
    (hkept : kept.Sublist v.awaited)
    (hawaited : w.awaited = kept ∨ w.awaited.Perm (v.nextTicket :: kept)) :
    v.Advances [v.nextTicket] w := by
  have hnext : v.lastTicket < v.nextTicket.number := Nat.lt_succ_self _
  have hfresh : v.lastTicket < v.nextTicket.number ∧ v.nextTicket.number ≤ w.lastTicket :=
    ⟨hnext, hlast ▸ le_rfl⟩
  refine ⟨hlast ▸ Nat.le_succ _, by simpa using hfresh, List.pairwise_singleton _ _, ?_, ?_⟩
  · intro t ht
    rcases hawaited with heq | hperm
    · exact .inl (hkept.subset (heq ▸ ht))
    · rcases List.mem_cons.1 (hperm.mem_iff.1 ht) with rfl | ht
      · exact .inr hfresh
      · exact .inl (hkept.subset ht)
  · intro hissued hnodup
    rcases hawaited with heq | hperm
    · exact heq ▸ hnodup.sublist hkept
    · refine hperm.nodup_iff.2 (List.nodup_cons.2 ⟨fun hmem => ?_, hnodup.sublist hkept⟩)
      exact absurd (hissued _ (hkept.subset hmem)) (not_le.2 hnext)

/-- What is waited for has been handed out, also afterwards. -/
theorem issued (h : v.Advances tickets w) (hv : ∀ t ∈ v.awaited, t.number ≤ v.lastTicket) :
    ∀ t ∈ w.awaited, t.number ≤ w.lastTicket := fun t ht =>
  (h.awaited t ht).elim (fun hold => (hv t hold).trans h.le) And.right

/-- Tickets may be handed out in parts. -/
theorem trans {later : List Ticket} (h : v.Advances tickets u) (h' : u.Advances later w) :
    v.Advances (tickets ++ later) w where
  le := h.le.trans h'.le
  fresh t ht := by
    rcases List.mem_append.1 ht with ht | ht
    · exact ⟨(h.fresh t ht).1, (h.fresh t ht).2.trans h'.le⟩
    · exact ⟨h.le.trans_lt (h'.fresh t ht).1, (h'.fresh t ht).2⟩
  increasing := by
    refine List.pairwise_append.2 ⟨h.increasing, h'.increasing, fun t ht t' ht' => ?_⟩
    exact (h.fresh t ht).2.trans_lt (h'.fresh t' ht').1
  awaited t ht := by
    rcases h'.awaited t ht with ht | ⟨hlt, hle⟩
    · exact (h.awaited t ht).imp_right fun hnew => ⟨hnew.1, hnew.2.trans h'.le⟩
    · exact .inr ⟨h.le.trans_lt hlt, hle⟩
  nodup hissued hnodup := h'.nodup (h.issued hissued) (h.nodup hissued hnodup)

/-- Tickets that were handed out and then lost count as handed out. -/
theorem lose (h : v.Advances tickets w) : v.Advances [] w :=
  ⟨h.le, by simp, .nil, h.awaited, h.nodup⟩

/-- A turn that may have lost its actions. -/
theorem of_answer {t : Turn η} {actions : List Action}
    (h : v.Advances (Action.tickets actions) t.view)
    (hanswer : ∀ done, t.answer = .ok done → Action.tickets done = Action.tickets actions) :
    v.Advances (Action.tickets t.emitted) t.view := by
  rw [Turn.emitted]
  split
  · next done hdone =>
    rw [hanswer done hdone]
    exact h
  · exact h.lose

/-- A ticket that was spent stays spent. -/
theorem spent (h : v.Advances tickets w) {ticket : Ticket} (hspent : v.Spent ticket) :
    w.Spent ticket where
  issued := hspent.issued.trans h.le
  not_mem hmem := by
    rcases h.awaited ticket hmem with hold | ⟨hnew, -⟩
    · exact hspent.not_mem hold
    · exact absurd hspent.issued (not_le.2 hnew)

end Advances

/-! ### Routes -/

/-- A part of a route's work hands out tickets in order. -/
theorem Part.advances {v w : View η} {actions : List Action} (h : v.Part actions w) :
    v.Advances (Action.tickets actions) w := by
  cases h with
  | search args =>
      refine Advances.of_next rfl (?_ : List.Sublist _ _) (.inr List.perm_middle)
      exact (List.Sublist.refl _).append (List.sublist_append_right _ _)
  | @ask args id hid =>
      have htickets : Action.tickets (v.askActions id) = [v.nextTicket] := by
        rw [askActions]
        cases v.pending <;> rfl
      rw [htickets]
      exact Advances.of_next rfl (List.sublist_append_right _ _) (.inr (List.Perm.refl _))
  | abandon =>
      rw [Action.tickets_of_plain fun a ha => isPlain_of_mem_abandonActions ha]
      exact Advances.of_sublist le_rfl (awaited_sublist (.inr rfl) (.inl rfl) (.inl rfl))
  | note hplain =>
      rw [Action.tickets_of_plain hplain]
      exact Advances.of_sublist le_rfl (List.Sublist.refl _)

/-- The parts of a route's work hand out tickets in order. -/
theorem Parts.advances {v w : View η} {actions : List Action} (h : v.Parts actions w) :
    v.Advances (Action.tickets actions) w := by
  induction h with
  | nil v => exact .refl v
  | cons hfirst _ ih =>
      rw [Action.tickets_append]
      exact hfirst.advances.trans ih

/-- On entering a route the request under way may be dropped. -/
theorem advances_entered (v : View η) (path : String) (h : Handler) (args : RouteArgs) :
    v.Advances [] (v.entered path h args) := by
  refine Advances.of_sublist le_rfl (awaited_sublist ?_ (.inl rfl) (.inl rfl))
  rw [entered]
  split
  · exact .inr rfl
  · exact .inl rfl

/-- A dialog that begins to wait for a reply waits for that to the request just made. -/
theorem advances_dialog (v : View η) {p : PendingDialog} (hp : p.request? = some v.nextTicket) :
    v.Advances [v.nextTicket] { v with dialog := some p, lastTicket := v.lastTicket + 1 } := by
  refine Advances.of_next rfl (?_ : List.Sublist (awaited { v with dialog := none }) _) (.inr ?_)
  · exact awaited_sublist (.inl rfl) (.inl rfl) (.inr rfl)
  · exact awaited_perm_of_dialog rfl hp rfl rfl rfl

/-! ### Events -/

section Step

variable [HistoryStore η]

/-- An event hands out new tickets in increasing order, and no others begin to be waited for. -/
theorem advances_step (v : View η) (now : Int) (e : Event) :
    v.Advances (Action.tickets (v.step now e).emitted) (v.step now e).view := by
  have houtcome := v.outcome_step now e
  generalize v.step now e = t at houtcome
  -- The view waits for no more than before, unless it has just handed out a ticket.
  cases houtcome with
  | ignored => exact .refl v
  | @route path h args actions t hresolve hparts hanswer =>
      have hentered : Action.tickets (v.enterActions args) = [] :=
        Action.tickets_of_plain fun a ha => isPlain_of_mem_enterActions ha
      refine Advances.of_answer ((v.advances_entered path h args).trans hparts.advances) ?_
      intro done hdone
      rw [hanswer done hdone, Action.tickets_append, hentered, List.nil_append]
  | escalated hpending =>
      refine Advances.of_sublist le_rfl (awaited_sublist (.inl ?_) (.inl rfl) (.inl rfl))
      simp [Turn.done, hpending]
  | answered hpending hview hplain =>
      rw [Action.tickets_of_plain hplain, hview]
      exact Advances.of_sublist le_rfl (awaited_sublist (.inr rfl) (.inl rfl) (.inl rfl))
  | @listed _ _ a hsearch ha =>
      have hnone : Action.tickets [a] = [] := by rcases ha with ⟨rows, rfl⟩ | ⟨text, rfl⟩ <;> rfl
      rw [Turn.emitted_done, hnone]
      exact Advances.of_sublist le_rfl (awaited_sublist (.inl rfl) (.inr rfl) (.inl rfl))
  | led =>
      rw [Action.tickets_of_plain fun a ha => isPlain_of_mem_redirect ha, view_redirect]
      exact .refl v
  | @favored changed history =>
      have hkept : v.Advances (Action.tickets []) { v with history } :=
        Advances.of_sublist le_rfl (List.Sublist.refl _)
      refine Advances.of_answer hkept ?_
      cases changed <;> rintro _ ⟨⟩
      rfl
  | @opened purpose hdialog =>
      refine Advances.of_next rfl (List.Sublist.refl _) (.inl ?_)
      simp [Turn.done, awaited, hdialog, PendingDialog.request?]
  | closed hdialog hasks =>
      exact Advances.of_sublist le_rfl (awaited_sublist (.inl rfl) (.inl rfl) (.inr rfl))
  | creates name payload => exact advances_dialog v rfl
  | deletes => exact advances_dialog v rfl
  | created hdialog hwaits =>
      exact Advances.of_sublist le_rfl (awaited_sublist (.inl rfl) (.inl rfl) (.inr rfl))
  | lost hdialog hwaits =>
      exact Advances.of_sublist le_rfl (awaited_sublist (.inl rfl) (.inl rfl) (.inr rfl))
  | rearmed text hdialog hwaits =>
      exact Advances.of_sublist le_rfl (awaited_sublist (.inl rfl) (.inl rfl) (.inr rfl))
  | deleted hdialog hwaits =>
      rw [Action.tickets_of_plain fun a ha => isPlain_of_mem_redirect ha, view_redirect]
      exact Advances.of_sublist le_rfl (awaited_sublist (.inl rfl) (.inl rfl) (.inr rfl))
  | refused text hdialog hwaits =>
      refine Advances.of_next rfl (?_ : List.Sublist _ _) (.inl rfl)
      exact awaited_sublist (.inl rfl) (.inl rfl) (.inr rfl)
  | reset hparts => exact hparts.advances

/-- The reply to a ticket that the view does not wait for changes nothing. -/
theorem step_eq_of_not_mem_awaited {v : View η} {ticket : Ticket} (h : ticket ∉ v.awaited)
    (now : Int) (reply : StoreReply) : v.step now (.storeReplied ticket reply) = .done [] v := by
  simp only [mem_awaited_iff, not_or] at h
  obtain ⟨hdetail, hsearch, hmutation⟩ := h
  rw [step, onStoreReplied, if_neg hdetail, if_neg hsearch, if_neg hmutation]

/-- The reply to a ticket that the view waits for ends that wait and no other. -/
theorem awaited_perm_of_reply {v : View η} {ticket : Ticket} (h : ticket ∈ v.awaited) (now : Int)
    (reply : StoreReply) :
    v.awaited.Perm (ticket :: (v.step now (.storeReplied ticket reply)).view.awaited) := by
  have houtcome := v.outcome_step now (.storeReplied ticket reply)
  generalize v.step now (.storeReplied ticket reply) = t at houtcome
  cases houtcome with
  | ignored hroute hreply =>
      obtain ⟨hdetail, hsearch, hmutation⟩ := hreply ticket reply rfl
      simp [mem_awaited_iff, hdetail, hsearch, hmutation] at h
  | answered hpending hview =>
      rw [hview, awaited, hpending]
      exact List.Perm.refl _
  | listed hsearch =>
      rw [awaited, hsearch]
      exact List.perm_middle
  | led hto hreply => exact absurd rfl (hreply ticket reply)
  | @created p _ name _ _ _ hdialog hwaits =>
      exact awaited_perm_of_dialog hdialog (p.request?_of_awaiting hwaits) rfl rfl rfl
  | @lost p _ _ _ _ hdialog hwaits =>
      exact awaited_perm_of_dialog hdialog (p.request?_of_awaiting hwaits) rfl rfl rfl
  | @rearmed p _ _ _ _ hdialog hwaits =>
      exact awaited_perm_of_dialog hdialog (p.request?_of_awaiting hwaits) rfl rfl rfl
  | @deleted p _ _ hdialog hwaits =>
      rw [view_redirect]
      exact awaited_perm_of_dialog hdialog (p.request?_of_awaiting hwaits) rfl rfl rfl
  | @refused p _ _ _ _ hdialog hwaits =>
      exact awaited_perm_of_dialog hdialog (p.request?_of_awaiting hwaits) rfl rfl rfl

/-! ### Courses -/

/-- Along a course tickets are handed out in increasing order, and the view begins to wait for no
others. -/
theorem Course.advances {start v : View η} {ms : List (Moment η)} (h : Course start ms v) :
    start.Advances (Action.tickets (ms.flatMap Moment.emitted)) v := by
  induction h with
  | start => exact .refl start
  | @step ms v _ now e ih =>
      rw [List.flatMap_append, List.flatMap_singleton, Action.tickets_append]
      exact ih.trans (v.advances_step now e)

omit [HistoryStore η] in
/-- The first view of a page waits for nothing. -/
theorem awaited_initial {page : String} {delay : Nat} {history : η} {start : View η}
    (hstart : View.initial page delay history = .ok start) : start.awaited = [] := by
  obtain ⟨table, -, rfl⟩ := initial_eq_ok_iff.1 hstart
  rfl

/-- From the first view on, tickets are handed out in increasing order, and the view waits for no
ticket twice. A spent ticket stays spent: whatever happens, a reply to it changes nothing any more.
The reply to a ticket that the view waits for spends the ticket, also when the reply cannot be
handled to the end. -/
theorem Course.replies_count_once {page : String} {delay : Nat} {history : η} {start v : View η}
    {ms : List (Moment η)} (hstart : View.initial page delay history = .ok start)
    (h : Course start ms v) :
    (Action.tickets (ms.flatMap Moment.emitted)).Pairwise (·.number < ·.number) ∧
      (∀ ticket ∈ Action.tickets (ms.flatMap Moment.emitted), ticket.number ≤ v.lastTicket) ∧
      v.awaited.Nodup ∧
      (∀ ticket, v.Spent ticket → ∀ later w, Course v later w → ∀ now reply,
        w.step now (.storeReplied ticket reply) = .done [] w) ∧
      ∀ ticket ∈ v.awaited, ∀ now reply,
        (v.step now (.storeReplied ticket reply)).view.Spent ticket := by
  have hnone : start.awaited = [] := awaited_initial hstart
  have hnodup : v.awaited.Nodup := h.advances.nodup (by simp [hnone]) (by simp [hnone])
  have hissued : ∀ ticket ∈ v.awaited, ticket.number ≤ v.lastTicket :=
    h.advances.issued (by simp [hnone])
  refine ⟨h.advances.increasing, fun ticket ht => (h.advances.fresh ticket ht).2, hnodup, ?_, ?_⟩
  · intro ticket hspent later w hlater now reply
    exact step_eq_of_not_mem_awaited (hlater.advances.spent hspent).not_mem now reply
  · intro ticket hmem now reply
    have hperm := awaited_perm_of_reply hmem now reply
    refine ⟨(hissued ticket hmem).trans (v.advances_step now _).le, ?_⟩
    exact (List.nodup_cons.1 (hperm.nodup_iff.1 hnodup)).1

end Step

/-- When a second entity is asked for, the request for the first is spent, and the replies to the
last search and to the second request count. -/
theorem replies_configs_two_entities : ∃ (start v : View History) (ms : List (Moment History)),
    View.initial "configs" 500 (History.inMemory 10) = .ok start ∧ Course start ms v ∧
    v.awaited = [⟨3⟩, ⟨1⟩] ∧ v.Spent ⟨2⟩ ∧
    (∀ later w, Course v later w → ∀ now reply,
      w.step now (.storeReplied ⟨2⟩ reply) = .done [] w) ∧
    ∀ now reply, (v.step now (.storeReplied ⟨3⟩ reply)).view.Spent ⟨3⟩ := by
  obtain ⟨start, hstart⟩ : ∃ start, View.initial "configs" 500 (History.inMemory 10) = .ok start :=
    ⟨_, rfl⟩
  have hcourse := Course.step (.step (.start : Course start [] start) 0 (.routeChanged "configs/1"))
    0 (.routeChanged "configs/2")
  generalize hv : (View.step 0 (View.step 0 start (.routeChanged "configs/1")).view
    (.routeChanged "configs/2")).view = v at hcourse
  have hwaits : v.awaited = [⟨3⟩, ⟨1⟩] ∧ v.lastTicket = 3 := by
    obtain rfl := Except.ok.inj hstart
    subst hv
    decide +kernel
  obtain ⟨-, -, -, hstays, hspends⟩ := hcourse.replies_count_once hstart
  have hspent : v.Spent ⟨2⟩ := ⟨by simp [hwaits.2], by simp [hwaits.1]⟩
  exact ⟨start, v, _, hstart, hcourse, hwaits.1, hspent, hstays ⟨2⟩ hspent,
    hspends ⟨3⟩ (by simp [hwaits.1])⟩

end View

end ConfigBrowser
