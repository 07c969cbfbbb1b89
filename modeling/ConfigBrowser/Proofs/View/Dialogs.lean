import ConfigBrowser.Proofs.View.Tickets

/-!
# What Events Do to the Dialogs

The view tracks one dialog, and its actions open and close dialogs on the screen. Routes, timers,
searches and entities leave all dialogs alone, also when they fail. What the other events make of
the dialog that is tracked goes together with what they open and close.

Nothing is supposed of the page here, so an event may fail to write a path.

## Main results

* `View.dialogMove_step`: what each event does to the dialogs.
* `View.Sound.created_of_error`: when an event fails and drops the dialog.
-/

namespace ConfigBrowser

/-- The dialogs that are open after an action. -/
def Action.dialogsAfter (dialogs : SortedMap Ticket DialogSpec) : Action →
    SortedMap Ticket DialogSpec
  | .openDialog dialog spec => dialogs.insert dialog spec
  | .closeDialog dialog => dialogs.erase dialog
  | _ => dialogs

/-- Does the action open or close a dialog? -/
def Action.movesDialog : Action → Bool
  | .openDialog .. | .closeDialog _ => true
  | _ => false

/-- A plain action opens and closes no dialog. -/
theorem Action.movesDialog_of_plain {a : Action} (h : a.isPlain = true) :
    a.movesDialog = false := by
  cases a <;> first | rfl | simp [isPlain] at h

/-- Actions that open and close no dialog leave those on the screen. -/
theorem Action.foldl_dialogsAfter {actions : List Action}
    (h : ∀ a ∈ actions, a.movesDialog = false) (dialogs : SortedMap Ticket DialogSpec) :
    actions.foldl Action.dialogsAfter dialogs = dialogs := by
  induction actions with
  | nil => rfl
  | cons a rest ih =>
      have ha : Action.dialogsAfter dialogs a = dialogs := by
        have hstays := h a List.mem_cons_self
        cases a <;> simp [movesDialog] at hstays <;> rfl
      rw [List.foldl_cons, ha]
      exact ih fun b hb => h b (List.mem_cons_of_mem a hb)

/-- Does the dialog stand on the screen, as far as the view knows? One that deletes is closed as
soon as it is confirmed. -/
def PendingDialog.IsShown (p : PendingDialog) : Prop := p.state = .prompting ∨ p.purpose = .create

namespace View

variable {η : Type}

/-- Another state of the view tracks the same dialog, and no fewer tickets have been handed out. -/
structure SameDialog (v w : View η) : Prop where
  dialog : w.dialog = v.dialog
  tickets : v.lastTicket ≤ w.lastTicket

/-- A view has the same dialog as itself. -/
theorem SameDialog.refl (v : View η) : v.SameDialog v := ⟨rfl, le_rfl⟩

/-- A turn that leaves all dialogs alone. -/
def AloofTurn (v : View η) (t : Turn η) : Prop :=
  t.Within v.SameDialog fun a => a.movesDialog = false

/-- Going to another route has nothing to do with the dialog. -/
theorem aloof_redirect {v w : View η} (h : v.SameDialog w) (args : RouteArgs) (handler : Handler) :
    v.AloofTurn (w.redirect handler args) :=
  ⟨(view_redirect w handler args).symm ▸ h, fun _ ha =>
    Action.movesDialog_of_plain (isPlain_of_mem_redirect ha)⟩

/-- The parts of a route's work open and close no dialog. -/
theorem Parts.movesDialog {v w : View η} {actions : List Action} (h : v.Parts actions w) :
    ∀ a ∈ actions, a.movesDialog = false := by
  intro a ha
  rcases h.mem_cases ha with hplain | ⟨ticket, request, rfl, -⟩
  · exact Action.movesDialog_of_plain hplain
  · rfl

/-! ### Events about dialogs -/

/-- What an event does to the dialog that is tracked, together with what is opened and closed. -/
inductive DialogMove (v : View η) : Event → Turn η → Prop where
  /-- All dialogs are left alone. A decision on a dialog that asks does not do that. -/
  | aloof {e : Event} {t : Turn η} (hturn : v.AloofTurn t)
      (hevent : ∀ p, v.dialog = some p → p.state = .prompting →
        ∀ decision, e ≠ .dialogResolved p.ticket decision) : DialogMove v e t
  /-- A button opens a dialog under a new ticket. -/
  | opens {button : ToolbarButton} (purpose : DialogPurpose) (spec : DialogSpec)
      (hdialog : v.dialog = none) (hspec : spec.isError = false) :
      DialogMove v (.toolbarPressed button)
        (.done [.openDialog v.nextTicket spec]
          { v with
            dialog := some ⟨v.nextTicket, purpose, .prompting⟩
            lastTicket := v.lastTicket + 1 })
  /-- The dialog is closed. At most a deletion is waited for from then on. -/
  | closes {e : Event} {p : PendingDialog} {actions : List Action} {w : View η}
      (hdialog : v.dialog = some p)
      (hevent : ∀ d decision, e = .dialogResolved d decision → d = p.ticket)
      (hactions : ∀ a ∈ actions, a.movesDialog = false)
      (htracked : ∀ q, w.dialog = some q → q.ticket = p.ticket ∧ ¬ q.IsShown)
      (htickets : v.lastTicket ≤ w.lastTicket) :
      DialogMove v e (.done (.closeDialog p.ticket :: actions) w)
  /-- The dialog that creates waits for the store, or asks again. -/
  | turns {e : Event} {p : PendingDialog} {actions : List Action} {w : View η} (state : DialogState)
      (hdialog : v.dialog = some p) (hpurpose : p.purpose = .create)
      (hevent : ∀ d decision, e = .dialogResolved d decision →
        d = p.ticket ∧ decision ≠ .cancelled)
      (hactions : ∀ a ∈ actions, a.movesDialog = false)
      (htracked : w.dialog = some { p with state }) (htickets : v.lastTicket ≤ w.lastTicket) :
      DialogMove v e (.done actions w)
  /-- The store has created an entity to which there is no path. The dialog is dropped, and it is
  not closed. -/
  | loses {ticket : Ticket} {id : String} {p : PendingDialog} {err : Error}
      (hdialog : v.dialog = some p)
      (hpath : v.hash .loadConfigs (v.currentArgs.set RouteArgs.idKey id) = .error err ∨
        v.hash .loadNewConfigs ((v.currentArgs.set RouteArgs.idKey id).withFlag .new) =
          .error err) :
      DialogMove v (.storeReplied ticket (.created id)) (.fail err { v with dialog := none })
  /-- The store has deleted the entity. -/
  | deletes {ticket : Ticket} {p : PendingDialog} (hdialog : v.dialog = some p)
      (hshown : ¬ p.IsShown) :
      DialogMove v (.storeReplied ticket .deleted)
        ({ v with dialog := none }.redirect .loadDelete (v.currentArgs.withFlag .deleted))
  /-- The store has refused to delete the entity, which another dialog reports. -/
  | refuses {ticket : Ticket} {reply : StoreReply} {p : PendingDialog} (text : String)
      (hdialog : v.dialog = some p) (hshown : ¬ p.IsShown) :
      DialogMove v (.storeReplied ticket reply)
        (.done [.openDialog v.nextTicket (.error text)]
          { v with dialog := none, lastTicket := v.lastTicket + 1 })

/-- What each event does to the dialogs. -/
theorem dialogMove_step [HistoryStore η] (v : View η) (now : Int) (e : Event) :
    v.DialogMove e (v.step now e) := by
  have htickets := (v.advances_step now e).le
  have houtcome := v.outcome_step now e
  generalize v.step now e = t at htickets houtcome
  have hplain : (∀ a ∈ t.emitted, a.isPlain = true) → ∀ a ∈ t.emitted, a.movesDialog = false :=
    fun h a ha => Action.movesDialog_of_plain (h a ha)
  cases houtcome with
  | ignored hroute hreply hdecision => exact .aloof (Turn.Within.done (.refl v) (by simp)) hdecision
  | route hresolve hparts hanswer =>
      refine .aloof ⟨⟨hparts.frame.dialog, htickets⟩, fun a ha => ?_⟩ (by simp)
      rcases List.mem_append.1 (Turn.mem_of_mem_emitted hanswer ha) with ha | ha
      · exact Action.movesDialog_of_plain (isPlain_of_mem_enterActions ha)
      · exact hparts.movesDialog a ha
  | escalated =>
      exact .aloof (Turn.Within.done ⟨rfl, le_rfl⟩ (by simp [Action.movesDialog])) (by simp)
  | answered hpending hview hall =>
      exact .aloof ⟨⟨by rw [hview], htickets⟩, hplain hall⟩ (by simp)
  | listed hsearch ha =>
      refine .aloof (Turn.Within.done ⟨rfl, htickets⟩ ?_) (by simp)
      rcases ha with ⟨rows, rfl⟩ | ⟨text, rfl⟩ <;> simp [Action.movesDialog]
  | led hto =>
      refine .aloof (aloof_redirect (.refl v) _ _) ?_
      rintro p - - decision rfl
      cases hto
  | @favored changed history =>
      refine .aloof ⟨⟨rfl, htickets⟩, ?_⟩ (by simp)
      cases changed <;> simp [Turn.emitted, Except.map, Action.movesDialog]
  | @opened purpose hdialog =>
      exact .opens purpose purpose.spec hdialog (by cases purpose <;> rfl)
  | closed hdialog hasks =>
      refine .closes hdialog ?_ (by simp) (by simp) htickets
      rintro _ _ ⟨⟩
      rfl
  | creates name payload hdialog hasks hpurpose =>
      refine .turns _ hdialog hpurpose ?_ (by simp [Action.movesDialog]) rfl htickets
      rintro _ _ ⟨⟩
      exact ⟨rfl, by simp⟩
  | deletes hdialog hasks hpurpose hid =>
      refine .closes hdialog ?_ (by simp [Action.movesDialog]) ?_ htickets
      · rintro _ _ ⟨⟩
        rfl
      · rintro q ⟨⟩
        exact ⟨rfl, by simp [PendingDialog.IsShown, hpurpose]⟩
  | created hdialog =>
      exact .closes hdialog (by simp) (by simp [Action.movesDialog]) (by simp) htickets
  | lost hdialog hwaits hpurpose hpath => exact .loses hdialog hpath
  | rearmed text hdialog hwaits hpurpose =>
      exact .turns _ hdialog hpurpose (by simp) (by simp [Action.movesDialog]) rfl htickets
  | deleted hdialog hwaits hpurpose =>
      exact .deletes hdialog (by simp [PendingDialog.IsShown, hwaits, hpurpose])
  | refused text hdialog hwaits hpurpose =>
      exact .refuses text hdialog (by simp [PendingDialog.IsShown, hwaits, hpurpose])
  | reset hparts =>
      exact .aloof ⟨⟨hparts.frame.dialog, htickets⟩, hparts.movesDialog⟩ (by simp)

/-- On a page without a colon in its name, an event fails and drops the dialog only if the store has
created an entity without an id. -/
theorem Sound.created_of_error [HistoryStore η] {v : View η} (hv : v.Sound) {now : Int} {e : Event}
    {err : Error} {p : PendingDialog} (herror : (v.step now e).answer = .error err)
    (hdialog : v.dialog = some p) (hdropped : (v.step now e).view.dialog = none) :
    ∃ ticket, e = .storeReplied ticket (.created "") := by
  have hmove := v.dialogMove_step now e
  generalize v.step now e = t at hmove herror hdropped
  cases hmove with
  | aloof hturn hevent => simp [hturn.view.dialog, hdialog] at hdropped
  | opens purpose spec hnone hspec => simp [hdialog] at hnone
  | closes hdialog hevent hactions htracked htickets => cases herror
  | turns state hdialog hpurpose hevent hactions htracked htickets => cases herror
  | refuses text hdialog hshown => cases herror
  | @loses ticket id q err' hdialog hpath =>
      refine ⟨ticket, ?_⟩
      by_contra hne
      have hid : (v.currentArgs.set RouteArgs.idKey id).id?.isSome = true := by
        rw [RouteArgs.id?_set_idKey, if_neg fun h => hne (by rw [h])]
        rfl
      rcases hpath with hpath | hpath
      · obtain ⟨path, hok⟩ := hv.exists_hash_loadConfigs hid
        simp [hok] at hpath
      · have hrenders : Handler.loadNewConfigs.Renders
            ((v.currentArgs.set RouteArgs.idKey id).withFlag .new) := by
          refine ⟨?_, fun _ => by rwa [RouteArgs.id?_withFlag]⟩
          rintro flag ⟨⟩
          exact RouteArgs.hasFlag_withFlag _ _
        obtain ⟨path, hok⟩ := hv.exists_hash hrenders
        simp [hok] at hpath
  | deletes hdialog hshown =>
      have hrenders : Handler.loadDelete.Renders (v.currentArgs.withFlag .deleted) := by
        refine ⟨?_, fun h => by simp [Handler.requiresId] at h⟩
        rintro flag ⟨⟩
        exact RouteArgs.hasFlag_withFlag _ _
      obtain ⟨path, hok⟩ := hv.exists_hash hrenders
      have hsame : hash { v with dialog := none } .loadDelete (v.currentArgs.withFlag .deleted) =
        .ok path := hok
      rw [redirect, hsame] at herror
      cases herror

end View

end ConfigBrowser
