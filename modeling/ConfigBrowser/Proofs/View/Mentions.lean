import ConfigBrowser.Proofs.View.Dialogs

/-!
# Which Tickets a Turn Mentions

Actions name requests, timers and dialogs by their tickets. A ticket that has been handed out and
is not waited for is named again only as that of the dialog that stands on the screen: requests and
dialogs get new tickets, and a timer goes with the request that is waited for.

Nothing is supposed of the page here, so an event may fail to write a path.

## Main results

* `View.Spent.omits_handle`: no route mentions a spent ticket.
* `View.Spent.shown_of_mentions`: a spent ticket is mentioned as that of the dialog on the screen.
-/

namespace ConfigBrowser

/-- Does an action mention a ticket? -/
def Action.mentions (ticket : Ticket) : Action → Bool
  | .store t _ | .scheduleTimer t _ | .cancelTimer t => t = ticket
  | .openDialog t _ | .closeDialog t | .showDialogError t _ => t = ticket
  | _ => false

namespace View

variable {η : Type}

/-- A turn that does not mention a ticket and leaves it spent. -/
abbrev Omits (ticket : Ticket) (t : Turn η) : Prop :=
  t.Within (·.Spent ticket) fun a => a.mentions ticket = false

namespace Spent

variable {v : View η} {d : Ticket} (hspent : v.Spent d)
include hspent

/-- The next ticket is none that has been handed out. -/
theorem nextTicket_ne : v.nextTicket ≠ d := by
  rintro rfl
  exact absurd hspent.issued (not_le.2 (Nat.lt_succ_self _))

/-- The request under way has a ticket that is waited for. -/
theorem ticket_ne_of_pending {p : PendingDetail} (hpending : v.pending = some p) :
    p.ticket ≠ d := by
  rintro rfl
  exact hspent.not_mem (mem_awaited_iff.2 (.inl (ownsDetail_iff_pending.2 ⟨p, hpending, rfl⟩)))

/-! ### Parts of a route's work -/

/-- A ticket is still spent once the list has been searched. -/
theorem searched : v.searched.Spent d := (Part.search .empty).advances.spent hspent

/-- A ticket is still spent once the request under way has been dropped. -/
theorem abandoned : Spent { v with pending := none } d := Part.abandon.advances.spent hspent

/-- A ticket is still spent once the dialog is closed. -/
theorem closed : Spent { v with dialog := none } d := by
  have hkept : v.Advances [] { v with dialog := none } :=
    .of_sublist le_rfl (awaited_sublist (.inl rfl) (.inl rfl) (.inr rfl))
  exact hkept.spent hspent

/-- A ticket is still spent once the list has been entered. -/
theorem listed (args : RouteArgs) : (v.listed args).Spent d := by
  rw [View.listed]
  split
  · exact ⟨hspent.searched.issued, hspent.searched.not_mem⟩
  · exact ⟨hspent.issued, hspent.not_mem⟩

/-- A ticket is still spent once the list has been filtered. -/
theorem filterListed (args : RouteArgs) : (v.filterListed args).Spent d := by
  have hfiltering : v.filtering.Spent d := ⟨hspent.issued, hspent.not_mem⟩
  rw [View.filterListed]
  split
  · exact hfiltering.listed args
  · split
    · exact ⟨hspent.issued, hspent.not_mem⟩
    · exact ⟨hfiltering.searched.issued, hfiltering.searched.not_mem⟩

/-- Entering the list names new tickets only. -/
theorem not_mentions_listActions (args : RouteArgs) :
    ∀ a ∈ v.listActions args, a.mentions d = false := by
  rw [listActions]
  split <;> simp [Action.mentions, hspent.nextTicket_ne]

/-- Filtering the list names new tickets only. -/
theorem not_mentions_filterActions (args : RouteArgs) :
    ∀ a ∈ v.filterActions args, a.mentions d = false := by
  have hfiltering : v.filtering.Spent d := ⟨hspent.issued, hspent.not_mem⟩
  rw [filterActions]
  split
  · exact hfiltering.not_mentions_listActions args
  · split <;> simp [Action.mentions, hspent.nextTicket_ne]

/-- Dropping the request under way names its timer only. -/
theorem not_mentions_abandonActions : ∀ a ∈ v.abandonActions, a.mentions d = false := by
  rw [abandonActions]
  split
  · next p hpending => simp [Action.mentions, hspent.ticket_ne_of_pending hpending]
  · simp

/-- Searching the list mentions no spent ticket. -/
theorem omits_search (args : RouteArgs) : Omits d (v.search args) := by
  refine .done hspent.searched fun a ha => ?_
  rw [List.mem_singleton.1 ha]
  exact decide_eq_false hspent.nextTicket_ne

/-- Dropping the request under way mentions no spent ticket. -/
theorem omits_abandonDetail : Omits d v.abandonDetail := by
  rw [abandonDetail_eq]
  exact .done hspent.abandoned hspent.not_mentions_abandonActions

/-- Going to another route mentions no ticket. -/
theorem omits_redirect (h : Handler) (args : RouteArgs) : Omits d (v.redirect h args) := by
  rw [redirect]
  split
  · exact .done hspent (by simp [Action.mentions])
  · exact .fail hspent

/-- Asking for an entity mentions no spent ticket. -/
theorem omits_loadDetail (args : RouteArgs) : Omits d (v.loadDetail args) := by
  cases hid : args.id? with
  | none =>
      rw [loadDetail, hid]
      exact .done hspent (by simp)
  | some id =>
      rw [loadDetail_eq v hid]
      refine .done ((Part.ask hid).advances.spent hspent) fun a ha => ?_
      rcases List.mem_append.1 ha with ha | ha
      · obtain ⟨p, hp, rfl⟩ := List.mem_map.1 ha
        simpa [Action.mentions] using hspent.ticket_ne_of_pending (Option.mem_toList.1 hp)
      · have hnext := hspent.nextTicket_ne
        rcases List.mem_cons.1 ha with rfl | ha
        · exact decide_eq_false hnext
        · rcases List.mem_cons.1 ha with rfl | ha
          · rfl
          · rw [List.mem_singleton.1 ha]
            exact decide_eq_false hnext

/-- Going to the route without its flag mentions no spent ticket. -/
theorem omits_stripAndRedirect (flag : Flag) (args : RouteArgs) :
    Omits d (v.stripAndRedirect flag args) := by
  simp only [stripAndRedirect]
  split
  · exact .fail hspent
  · exact (hspent.omits_search _).andThen fun w hw => .done hw (by simp [Action.mentions])

/-- A route with a flag mentions no spent ticket. -/
theorem omits_loadTransient (flag : Flag) (args : RouteArgs) :
    Omits d (v.loadTransient args flag) := by
  have hlisted := hspent.listed args
  rw [loadTransient, reconcile_transientPlan]
  refine .done_andThen (hspent.not_mentions_listActions args) ?_
  split
  · exact hlisted.omits_abandonDetail
  · rw [enterEditMode_eq]
    have hedited : Spent { v.listed args with mode := (v.listed args).modeAfter flag args } d :=
      ⟨hlisted.issued, hlisted.not_mem⟩
    exact hedited.omits_stripAndRedirect flag args

/-- A route that tells of a deletion mentions no spent ticket. -/
theorem omits_loadDelete (args : RouteArgs) : Omits d (v.loadDelete args) := by
  rw [loadDelete]
  split
  · exact .fail hspent
  · exact (hspent.omits_search args).andThen fun w hw => .done hw (by simp [Action.mentions])

variable [HistoryStore η]

/-- No handler mentions a spent ticket. -/
theorem omits_handle (args : RouteArgs) (h : Handler) : Omits d (v.handle args h) := by
  have hlisted := hspent.listed args
  cases h with
  | load =>
      rw [handle, load, loadPlan, reconcile_listPlan]
      refine .done_andThen (hspent.not_mentions_listActions args) ?_
      split
      · rw [leaveDetail_eq]
        have hleft := hlisted.abandoned
        refine .done ⟨hleft.issued, hleft.not_mem⟩ fun a ha => ?_
        rcases List.mem_append.1 ha with ha | ha
        · exact hlisted.not_mentions_abandonActions a ha
        · rw [List.mem_singleton.1 ha]
          rfl
      · exact .done hlisted (by simp)
  | loadFilter =>
      rw [handle, loadFilter, reconcile_filterPlan]
      refine .done_andThen (hspent.not_mentions_filterActions args) ?_
      exact ((hspent.filterListed args).omits_redirect _ _).andThen fun w hw =>
        .done hw (by simp [syncListFilter, Action.mentions])
  | loadDelete => exact hspent.omits_loadDelete args
  | loadConfigs =>
      rw [handle, loadConfigs, detailPlan, reconcile_listPlan]
      exact .done_andThen (hspent.not_mentions_listActions args) (hlisted.omits_loadDetail args)
  | loadNewConfigs => exact hspent.omits_loadTransient .new args
  | loadEditConfigs => exact hspent.omits_loadTransient .edit args

/-! ### Events -/

/-- A change of location mentions no spent ticket. -/
theorem omits_routeChanged (now : Int) (path : String) :
    Omits d (v.step now (.routeChanged path)) := by
  rw [step, onRouteChanged]
  split
  · exact .done hspent (by simp)
  · next h args hresolve =>
    rw [enterRoute_eq]
    have hentered := (v.advances_entered path h args).spent hspent
    refine .done_andThen (fun a ha => ?_) (hentered.omits_handle args h)
    rcases List.mem_append.1 ha with ha | ha
    · rw [toolbarActions] at ha
      split at ha
      · simp at ha
      · rw [List.mem_singleton.1 ha]
        rfl
    · split at ha
      · exact hspent.not_mentions_abandonActions a ha
      · simp at ha

/-- The end of a session mentions no spent ticket. -/
theorem omits_sessionReset (now : Int) : Omits d (v.step now .sessionReset) := by
  rw [step, onSessionReset_eq]
  have hended : Spent { v with filtered := false } d := ⟨hspent.issued, hspent.not_mem⟩
  split
  · exact hended.omits_search _
  · exact .done hended (by simp)

/-- The reply to the request under way mentions no spent ticket. -/
theorem omits_detailReply {p : PendingDetail} (hpending : v.pending = some p) (now : Int)
    (reply : StoreReply) : Omits d (v.step now (.storeReplied p.ticket reply)) := by
  have howned : v.ownsDetail p.ticket = true := ownsDetail_iff_pending.2 ⟨p, hpending, rfl⟩
  have hdone := hspent.abandoned
  rw [step, onStoreReplied, if_pos howned]
  simp only [onDetailReply, hpending]
  refine .done_andThen (by simp [Action.mentions, hspent.ticket_ne_of_pending hpending]) ?_
  cases reply with
  | entity e =>
      simp only [showEntity]
      split
      · exact .fail hdone
      · exact .done ⟨hdone.issued, hdone.not_mem⟩ (by simp [Action.mentions])
  | _ => exact .done hdone (by simp [Action.mentions])

/-- A spent ticket is mentioned only as that of the dialog that stands on the screen. -/
theorem shown_of_mentions {now : Int} {e : Event} {a : Action}
    (ha : a ∈ (v.step now e).emitted) (hmentions : a.mentions d = true) :
    ∃ p, v.dialog = some p ∧ p.ticket = d ∧ p.IsShown := by
  have hnext : ¬ v.nextTicket = d := hspent.nextTicket_ne
  have hnever : ∀ {t : Turn η}, Omits d t → a ∉ t.emitted := by
    intro t homits hmem
    simp [homits.emitted a hmem] at hmentions
  have houtcome := v.outcome_step now e
  generalize hstep : v.step now e = t at houtcome ha
  cases houtcome with
  | route => exact absurd (hstep ▸ ha) (hnever (hspent.omits_routeChanged now _))
  | reset => exact absurd (hstep ▸ ha) (hnever (hspent.omits_sessionReset now))
  | answered hpending =>
      exact absurd (hstep ▸ ha) (hnever (hspent.omits_detailReply hpending now _))
  | led => exact absurd ha (hnever (hspent.omits_redirect _ _))
  | deleted => exact absurd ha (hnever (hspent.closed.omits_redirect _ _))
  | listed _ hlisted =>
      rw [List.mem_singleton.1 ha] at hmentions
      rcases hlisted with ⟨rows, rfl⟩ | ⟨text, rfl⟩ <;> cases hmentions
  | @favored changed => cases changed <;> simp_all [Turn.emitted, Except.map, Action.mentions]
  | closed hdialog hasks =>
      rw [List.mem_singleton.1 ha] at hmentions
      exact ⟨_, hdialog, of_decide_eq_true hmentions, .inl hasks⟩
  | deletes hdialog hasks =>
      rcases List.mem_cons.1 ha with rfl | ha
      · exact ⟨_, hdialog, of_decide_eq_true hmentions, .inl hasks⟩
      · rw [List.mem_singleton.1 ha] at hmentions
        exact absurd (of_decide_eq_true hmentions) hnext
  | created hdialog hwaits hpurpose =>
      rcases List.mem_cons.1 ha with rfl | ha
      · exact ⟨_, hdialog, of_decide_eq_true hmentions, .inr hpurpose⟩
      · rw [List.mem_singleton.1 ha] at hmentions
        cases hmentions
  | rearmed text hdialog hwaits hpurpose =>
      rw [List.mem_singleton.1 ha] at hmentions
      exact ⟨_, hdialog, of_decide_eq_true hmentions, .inr hpurpose⟩
  | opened | creates | refused =>
      rw [List.mem_singleton.1 ha] at hmentions
      exact absurd (of_decide_eq_true hmentions) hnext
  | escalated =>
      rw [List.mem_singleton.1 ha] at hmentions
      cases hmentions
  | ignored | lost => exact absurd ha List.not_mem_nil

end Spent

end View

end ConfigBrowser
