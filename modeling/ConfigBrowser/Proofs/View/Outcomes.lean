import ConfigBrowser.Proofs.View.Quiet

/-!
# What an Event Can Come To

Everything that handling an event can come to, with the turn written out: one constructor for each
thing that can happen. Nothing is supposed of the page, so paths may fail to be written.

A route does its work in parts. A part searches the list, asks for an entity, drops the request
under way, or does none of these. When a later part fails, the actions of the earlier ones are lost,
while what they did to the view stays done.

## Main results

* `View.inParts_handle`: every handler works in parts.
* `View.outcome_step`: every event comes to one of the outcomes.
-/

namespace ConfigBrowser

/-- Does an action concern neither the store nor a dialog? -/
def Action.isPlain : Action → Bool
  | .store .. | .openDialog .. | .closeDialog _ | .showDialogError .. => false
  | _ => true

/-- Does a request leave the store as it is? -/
def StoreRequest.reads : StoreRequest → Bool
  | .get _ | .search _ => true
  | .put .. | .delete _ => false

/-- The button that opens a dialog. -/
def DialogPurpose.button : DialogPurpose → ToolbarButton
  | .create => .new
  | .delete => .delete

/-- What a dialog shows. -/
def DialogPurpose.spec : DialogPurpose → DialogSpec
  | .create => .create
  | .delete => .delete

variable {η : Type}

/-- An action of a turn that ends, if it does not fail, with certain actions is one of them. -/
theorem Turn.mem_of_mem_emitted {t : Turn η} {actions : List Action}
    (h : ∀ done, t.answer = .ok done → done = actions) {a : Action} (ha : a ∈ t.emitted) :
    a ∈ actions := by
  rw [emitted] at ha
  split at ha
  · next done hdone => exact h done hdone ▸ ha
  · exact absurd ha List.not_mem_nil

namespace View

/-! ### Parts of a route's work -/

/-- A part of the work of a route. -/
inductive Part (v : View η) : List Action → View η → Prop where
  /-- The list is searched. -/
  | search (args : RouteArgs) : Part v [.store v.nextTicket (.search (v.query args))] v.searched
  /-- An entity is asked for. -/
  | ask {args : RouteArgs} {id : String} (hid : args.id? = some id) :
      Part v (v.askActions id) (v.asked id args)
  /-- The request under way is dropped. -/
  | abandon : Part v v.abandonActions { v with pending := none }
  /-- Something is remembered or shown. -/
  | note {actions : List Action} (hplain : ∀ a ∈ actions, a.isPlain = true)
      (reconciler : Reconciler) (filtered : Bool) (displayed : Option (Entity × RouteArgs))
      (mode : DetailMode) : Part v actions { v with reconciler, filtered, displayed, mode }

/-- Parts one after the other. -/
inductive Parts : View η → List Action → View η → Prop where
  | nil (v : View η) : Parts v [] v
  | cons {v u w : View η} {first rest : List Action} (hfirst : v.Part first u)
      (hrest : Parts u rest w) : Parts v (first ++ rest) w

/-- Parts may follow parts. -/
theorem Parts.append {v u w : View η} {first second : List Action} (h : v.Parts first u)
    (h' : u.Parts second w) : v.Parts (first ++ second) w := by
  induction h with
  | nil => exact h'
  | cons hfirst _ ih => exact List.append_assoc .. ▸ .cons hfirst (ih h')

/-- A part is a row of parts. -/
theorem Part.parts {v w : View η} {actions : List Action} (h : v.Part actions w) :
    v.Parts actions w :=
  List.append_nil actions ▸ .cons h (.nil w)

/-- Actions that concern neither the store nor a dialog are a part of their own. -/
theorem parts_plain {v : View η} {actions : List Action} (h : ∀ a ∈ actions, a.isPlain = true) :
    v.Parts actions v :=
  (Part.note h v.reconciler v.filtered v.displayed v.mode).parts

/-- What the parts of a route's work leave alone. -/
structure Frame (v w : View η) : Prop where
  history : w.history = v.history
  current : w.current = v.current
  toolbar : w.toolbar = v.toolbar
  dialog : w.dialog = v.dialog

/-- What the parts of the work leave alone is left alone by each. -/
theorem Part.frame {v w : View η} {actions : List Action} (h : v.Part actions w) : v.Frame w := by
  cases h <;> exact ⟨rfl, rfl, rfl, rfl⟩

/-- A row of parts leaves alone what each of them does. -/
theorem Parts.frame {v w : View η} {actions : List Action} (h : v.Parts actions w) :
    v.Frame w := by
  induction h with
  | nil => exact ⟨rfl, rfl, rfl, rfl⟩
  | cons hfirst _ ih =>
      have hframe := hfirst.frame
      exact ⟨ih.history.trans hframe.history, ih.current.trans hframe.current,
        ih.toolbar.trans hframe.toolbar, ih.dialog.trans hframe.dialog⟩

/-- Dropping the request under way concerns neither the store nor a dialog. -/
theorem isPlain_of_mem_abandonActions {v : View η} {a : Action} (h : a ∈ v.abandonActions) :
    a.isPlain = true := by
  rw [abandonActions] at h
  split at h
  · rcases List.mem_cons.1 h with rfl | h
    · rfl
    · rw [List.mem_singleton.1 h]
      rfl
  · simp at h

/-- The parts of a route's work open and close no dialog, and only read from the store. -/
theorem Part.mem_cases {v w : View η} {actions : List Action} (h : v.Part actions w) {a : Action}
    (ha : a ∈ actions) :
    a.isPlain = true ∨ ∃ ticket request, a = .store ticket request ∧ request.reads = true := by
  cases h with
  | search args => exact .inr ⟨_, _, List.mem_singleton.1 ha, rfl⟩
  | ask hid =>
      rcases List.mem_append.1 ha with ha | ha
      · obtain ⟨p, -, rfl⟩ := List.mem_map.1 ha
        exact .inl rfl
      · simp only [List.mem_cons, List.not_mem_nil, or_false] at ha
        rcases ha with rfl | rfl | rfl
        · exact .inr ⟨_, _, rfl, rfl⟩
        · exact .inl rfl
        · exact .inl rfl
  | abandon => exact .inl (isPlain_of_mem_abandonActions ha)
  | note hplain => exact .inl (hplain a ha)

/-- A row of parts opens and closes no dialog, and only reads from the store. -/
theorem Parts.mem_cases {v w : View η} {actions : List Action} (h : v.Parts actions w) {a : Action}
    (ha : a ∈ actions) :
    a.isPlain = true ∨ ∃ ticket request, a = .store ticket request ∧ request.reads = true := by
  induction h with
  | nil => exact absurd ha List.not_mem_nil
  | cons hfirst _ ih => exact (List.mem_append.1 ha).elim hfirst.mem_cases ih

/-- A turn that works in parts. If it fails, its actions are lost. -/
def InParts (v : View η) (t : Turn η) : Prop :=
  ∃ actions, v.Parts actions t.view ∧ ∀ done, t.answer = .ok done → done = actions

namespace InParts

/-- A turn that ends with the actions of parts works in parts. -/
theorem done {v w : View η} {actions : List Action} (h : v.Parts actions w) :
    v.InParts (.done actions w) :=
  ⟨actions, h, fun _ heq => (Except.ok.inj heq).symm⟩

/-- A turn that fails at once works in no part. -/
theorem fail (v : View η) (e : Error) : v.InParts (.fail e v) :=
  ⟨[], .nil v, fun _ heq => by cases heq⟩

/-- What goes on in parts after a turn in parts is in parts. -/
theorem andThen {v : View η} {t : Turn η} {next : View η → Turn η} (h : v.InParts t)
    (hnext : ∀ w, InParts w (next w)) : v.InParts (t.andThen next) := by
  obtain ⟨answer, u⟩ := t
  obtain ⟨first, hfirst, hanswer⟩ := h
  cases answer with
  | error e => exact ⟨first, hfirst, hanswer⟩
  | ok done =>
      obtain rfl := hanswer done rfl
      obtain ⟨second, hsecond, hlast⟩ := hnext u
      refine ⟨done ++ second, hfirst.append hsecond, fun all hall => ?_⟩
      rcases hturn : (next u).answer with e | rest
      · simp [Turn.andThen, hturn, Except.map] at hall
      · have hrest : done ++ rest = all := by
          simpa [Turn.andThen, hturn, Except.map] using hall
        rw [← hrest, hlast rest hturn]

end InParts

/-! ### The handlers in parts -/

section Handlers

variable (v : View η) (args : RouteArgs)

/-- Searching the list is a part. -/
theorem inParts_search : v.InParts (v.search args) := InParts.done (Part.search args).parts

/-- Dropping the request under way is a part. -/
theorem inParts_abandonDetail : v.InParts v.abandonDetail := by
  rw [abandonDetail_eq]
  exact InParts.done Part.abandon.parts

/-- Actions that concern neither the store nor a dialog are parts. -/
theorem inParts_plain {actions : List Action} (h : ∀ a ∈ actions, a.isPlain = true) :
    v.InParts (.done actions v) :=
  InParts.done (parts_plain h)

/-- Going to another route is a part, and may fail for want of a path. -/
theorem inParts_redirect (h : Handler) : v.InParts (v.redirect h args) := by
  rw [redirect]
  split
  · exact v.inParts_plain (by simp [Action.isPlain])
  · exact InParts.fail v _

/-- What follows once something has been remembered is in parts if it is in parts on its own. -/
theorem inParts_of_note {t : Turn η} (reconciler : Reconciler) (filtered : Bool)
    (displayed : Option (Entity × RouteArgs)) (mode : DetailMode)
    (h : InParts { v with reconciler, filtered, displayed, mode } t) : v.InParts t := by
  have hnoted : v.InParts (.done [] { v with reconciler, filtered, displayed, mode }) :=
    InParts.done (Part.note (by simp) reconciler filtered displayed mode).parts
  obtain ⟨actions, hparts, hanswer⟩ := h
  obtain ⟨first, hfirst, hnone⟩ := hnoted
  obtain rfl := hnone [] rfl
  exact ⟨actions, hfirst.append hparts, hanswer⟩

/-- A task of a navigation is done in parts. -/
theorem inParts_runTask (c : Classification) (task : Task) : v.InParts (v.runTask args c task) := by
  cases task with
  | enterList =>
      exact (v.inParts_search args).andThen fun w => w.inParts_plain (by simp [Action.isPlain])
  | enterFilterMode =>
      refine v.inParts_of_note v.reconciler true v.displayed v.mode ?_
      simp only [runTask, enterFilterMode]
      split
      · exact inParts_search _ args
      · exact inParts_plain _ (by simp)
  | leaveFilterRoute => exact v.inParts_redirect _ _

/-- Tasks are done in parts, and one that fails takes the actions of all with it. -/
theorem inParts_runTasks (c : Classification) (tasks : List Task) :
    v.InParts (v.runTasks args c tasks) := by
  induction tasks generalizing v with
  | nil => exact v.inParts_plain (by simp)
  | cons task rest ih => exact (v.inParts_runTask args c task).andThen ih

/-- A navigation that is recorded is handled in parts if what follows is. -/
theorem inParts_reconcile (plan : List (Condition Task)) {next : Bool → View η → Turn η}
    (hnext : ∀ stopped w, InParts w (next stopped w)) : v.InParts (v.reconcile args plan next) := by
  rw [reconcile]
  refine v.inParts_of_note (v.reconciler.reconcile args plan).2 v.filtered v.displayed v.mode ?_
  exact (inParts_runTasks _ args _ _).andThen (hnext _)

/-- Asking for the entity of a route is a part, and without an id nothing is done. -/
theorem inParts_loadDetail : v.InParts (v.loadDetail args) := by
  cases hid : args.id? with
  | none =>
      rw [loadDetail, hid]
      exact v.inParts_plain (by simp)
  | some id =>
      rw [loadDetail_eq v hid]
      exact InParts.done (Part.ask hid).parts

/-- Searching the list and going to the route without its flag are parts. -/
theorem inParts_stripAndRedirect (flag : Flag) : v.InParts (v.stripAndRedirect flag args) := by
  simp only [stripAndRedirect]
  split
  · exact InParts.fail v _
  · exact (v.inParts_search _).andThen fun w => w.inParts_plain (by simp [Action.isPlain])

/-- A route with a flag is handled in parts. -/
theorem inParts_loadTransient (flag : Flag) : v.InParts (v.loadTransient args flag) := by
  refine v.inParts_reconcile args transientPlan fun stopped w => ?_
  split
  · exact w.inParts_abandonDetail
  · rw [enterEditMode_eq]
    refine w.inParts_of_note w.reconciler w.filtered w.displayed (w.modeAfter flag args) ?_
    exact inParts_stripAndRedirect _ args flag

/-- A route that tells of a deletion is handled in parts. -/
theorem inParts_loadDelete : v.InParts (v.loadDelete args) := by
  rw [loadDelete]
  split
  · exact InParts.fail v _
  · exact (v.inParts_search args).andThen fun w => w.inParts_plain (by simp [Action.isPlain])

variable [HistoryStore η]

/-- Leaving the entity is a part. -/
theorem inParts_leaveDetail : v.InParts v.leaveDetail := by
  refine v.inParts_abandonDetail.andThen fun w => InParts.done (Part.parts ?_)
  exact .note (by simp [Action.isPlain]) w.reconciler w.filtered none .viewing

/-- Every handler works in parts. -/
theorem inParts_handle (h : Handler) : v.InParts (v.handle args h) := by
  cases h with
  | load =>
      refine v.inParts_reconcile args loadPlan fun _ w => ?_
      split
      · exact w.inParts_leaveDetail
      · exact w.inParts_plain (by simp)
  | loadFilter =>
      exact v.inParts_reconcile args filterPlan fun _ w =>
        w.inParts_plain (by simp [syncListFilter, Action.isPlain])
  | loadDelete => exact v.inParts_loadDelete args
  | loadConfigs => exact v.inParts_reconcile args detailPlan fun _ w => w.inParts_loadDetail args
  | loadNewConfigs => exact v.inParts_loadTransient args .new
  | loadEditConfigs => exact v.inParts_loadTransient args .edit

end Handlers

/-! ### Outcomes -/

/-- A navigation leaves the view as it is, whether or not there is a path to go to. -/
@[simp] theorem view_redirect (v : View η) (h : Handler) (args : RouteArgs) :
    (v.redirect h args).view = v := by
  rw [redirect]
  split <;> rfl

/-- Going to another route concerns neither the store nor a dialog. -/
theorem isPlain_of_mem_redirect {v : View η} {h : Handler} {args : RouteArgs} {a : Action}
    (ha : a ∈ (v.redirect h args).emitted) : a.isPlain = true := by
  rw [redirect] at ha
  split at ha
  · rw [List.mem_singleton.1 ha]
    rfl
  · exact absurd ha List.not_mem_nil

/-- The actions of entering a route. -/
def enterActions (v : View η) (args : RouteArgs) : List Action :=
  v.toolbarActions (toolbarOf args) ++ if v.pendingDiffers args then v.abandonActions else []

/-- Entering a route concerns neither the store nor a dialog. -/
theorem isPlain_of_mem_enterActions {v : View η} {args : RouteArgs} {a : Action}
    (h : a ∈ v.enterActions args) : a.isPlain = true := by
  rcases List.mem_append.1 h with h | h
  · rw [toolbarActions] at h
    split at h
    · simp at h
    · rw [List.mem_singleton.1 h]
      rfl
  · split at h
    · exact isPlain_of_mem_abandonActions h
    · simp at h

/-- What handling an event can come to. -/
inductive Outcome (v : View η) : Event → Turn η → Prop where
  /-- Nothing happens. A route that resolves is never ignored, nor is a reply that is waited for,
  nor a decision that is asked for. -/
  | ignored {e : Event}
      (hroute : ∀ path, e = .routeChanged path → ∃ err, v.table.resolve path = .error err)
      (hreply : ∀ ticket reply, e = .storeReplied ticket reply → v.ownsDetail ticket = false ∧
        v.ownsSearch ticket = false ∧ v.ownsMutation ticket = false)
      (hdecision : ∀ p, v.dialog = some p → p.state = .prompting →
        ∀ decision, e ≠ .dialogResolved p.ticket decision) :
      Outcome v e (.done [] v)
  /-- A route is entered, and handled as far as paths can be written. -/
  | route {path : String} {h : Handler} {args : RouteArgs} {actions : List Action} {t : Turn η}
      (hresolve : v.table.resolve path = .ok (h, args))
      (hparts : (v.entered path h args).Parts actions t.view)
      (hanswer : ∀ done, t.answer = .ok done → done = v.enterActions args ++ actions) :
      Outcome v (.routeChanged path) t
  /-- The wait for an entity is found long. -/
  | escalated {p : PendingDetail} (hpending : v.pending = some p) :
      Outcome v (.timerFired p.ticket)
        (.done [.showMessage stillLoadingText]
          { v with pending := some { p with escalated := true } })
  /-- The wait for an entity is over. -/
  | answered {p : PendingDetail} {reply : StoreReply} {t : Turn η} {history : η}
      {displayed : Option (Entity × RouteArgs)} (hpending : v.pending = some p)
      (hview : t.view = { v with pending := none, history, displayed })
      (hplain : ∀ a ∈ t.emitted, a.isPlain = true) : Outcome v (.storeReplied p.ticket reply) t
  /-- The last search is answered, with rows or with a message. -/
  | listed {ticket : Ticket} {reply : StoreReply} {a : Action}
      (hsearch : v.latestSearch = some ticket)
      (ha : (∃ rows, a = .replaceList rows) ∨ ∃ text, a = .showError text) :
      Outcome v (.storeReplied ticket reply) (.done [a] { v with latestSearch := none })
  /-- A button, or the request to edit, leads to another route. -/
  | led {e : Event} {h : Handler} {args : RouteArgs} (hto : v.quietDestination e = some (h, args))
      (hreply : ∀ ticket reply, e ≠ .storeReplied ticket reply) : Outcome v e (v.redirect h args)
  /-- The displayed entity becomes a favorite, or is none any more, if the history can record it. -/
  | favored {changed : Except Error Bool} {history : η} :
      Outcome v (.toolbarPressed .favorites)
        ⟨changed.map fun favorited => [.favoriteChanged favorited], { v with history }⟩
  /-- A button opens a dialog under a new ticket. -/
  | opened {purpose : DialogPurpose} (hdialog : v.dialog = none)
      (henabled : (v.toolbar.getD .noSelection).isEnabled purpose.button = true) :
      Outcome v (.toolbarPressed purpose.button)
        (.done [.openDialog v.nextTicket purpose.spec]
          { v with
            dialog := some ⟨v.nextTicket, purpose, .prompting⟩
            lastTicket := v.lastTicket + 1 })
  /-- The dialog is closed, without a request. -/
  | closed {p : PendingDialog} {decision : DialogDecision} (hdialog : v.dialog = some p)
      (hasks : p.state = .prompting) :
      Outcome v (.dialogResolved p.ticket decision)
        (.done [.closeDialog p.ticket] { v with dialog := none })
  /-- The dialog stays open and waits for a new entity. -/
  | creates {p : PendingDialog} {fields : SortedMap String String} (name payload : String)
      (hdialog : v.dialog = some p) (hasks : p.state = .prompting)
      (hpurpose : p.purpose = .create) :
      Outcome v (.dialogResolved p.ticket (.confirmed fields))
        (.done [.store v.nextTicket (.put name payload)]
          { v with
            dialog := some { p with state := .awaiting v.nextTicket name }
            lastTicket := v.lastTicket + 1 })
  /-- The dialog is closed and waits for the selected entity to be deleted. -/
  | deletes {p : PendingDialog} {fields : SortedMap String String} {id : String}
      (hdialog : v.dialog = some p) (hasks : p.state = .prompting) (hpurpose : p.purpose = .delete)
      (hid : v.currentArgs.id? = some id) :
      Outcome v (.dialogResolved p.ticket (.confirmed fields))
        (.done [.closeDialog p.ticket, .store v.nextTicket (.delete id)]
          { v with
            dialog := some { p with state := .awaiting v.nextTicket "" }
            lastTicket := v.lastTicket + 1 })
  /-- The new entity is there, and led to. -/
  | created {p : PendingDialog} {ticket : Ticket} {name id path : String} {history : η}
      (hdialog : v.dialog = some p) (hwaits : p.state = .awaiting ticket name)
      (hpurpose : p.purpose = .create)
      (hpath : v.hash .loadNewConfigs ((v.currentArgs.set RouteArgs.idKey id).withFlag .new) =
        .ok path) :
      Outcome v (.storeReplied ticket (.created id))
        (.done [.closeDialog p.ticket, .navigate path] { v with dialog := none, history })
  /-- The new entity is there, and there is no path to it. -/
  | lost {p : PendingDialog} {ticket : Ticket} {name id : String} {err : Error}
      (hdialog : v.dialog = some p) (hwaits : p.state = .awaiting ticket name)
      (hpurpose : p.purpose = .create)
      (hpath : v.hash .loadConfigs (v.currentArgs.set RouteArgs.idKey id) = .error err ∨
        v.hash .loadNewConfigs ((v.currentArgs.set RouteArgs.idKey id).withFlag .new) =
          .error err) :
      Outcome v (.storeReplied ticket (.created id)) (.fail err { v with dialog := none })
  /-- The store has created nothing, and the dialog asks again. -/
  | rearmed {p : PendingDialog} {ticket : Ticket} {name : String} {reply : StoreReply}
      (text : String) (hdialog : v.dialog = some p) (hwaits : p.state = .awaiting ticket name)
      (hpurpose : p.purpose = .create) :
      Outcome v (.storeReplied ticket reply)
        (.done [.showDialogError p.ticket text]
          { v with dialog := some { p with state := .prompting } })
  /-- The entity is deleted. -/
  | deleted {p : PendingDialog} {ticket : Ticket} {name : String} (hdialog : v.dialog = some p)
      (hwaits : p.state = .awaiting ticket name) (hpurpose : p.purpose = .delete) :
      Outcome v (.storeReplied ticket .deleted)
        ({ v with dialog := none }.redirect .loadDelete (v.currentArgs.withFlag .deleted))
  /-- The store has deleted nothing, which another dialog reports. -/
  | refused {p : PendingDialog} {ticket : Ticket} {name : String} {reply : StoreReply}
      (text : String) (hdialog : v.dialog = some p) (hwaits : p.state = .awaiting ticket name)
      (hpurpose : p.purpose = .delete) :
      Outcome v (.storeReplied ticket reply)
        (.done [.openDialog v.nextTicket (.error text)]
          { v with dialog := none, lastTicket := v.lastTicket + 1 })
  /-- The view is entered anew. -/
  | reset {actions : List Action} {w : View η} (hparts : v.Parts actions w) :
      Outcome v .sessionReset (.done actions w)

section Events

/-- A view waits for the reply to a change when its dialog does. -/
theorem ownsMutation_iff {v : View η} {ticket : Ticket} :
    v.ownsMutation ticket = true ↔
      ∃ p, v.dialog = some p ∧ ∃ name, p.state = .awaiting ticket name := by
  rw [ownsMutation]
  cases v.dialog with
  | none => simp
  | some p => rw [Option.any_some]; cases hstate : p.state <;> simp [hstate, eq_comm]

/-- A view waits for the reply to the request under way. -/
theorem ownsDetail_iff_pending {v : View η} {ticket : Ticket} :
    v.ownsDetail ticket = true ↔ ∃ p, v.pending = some p ∧ p.ticket = ticket := by
  rw [ownsDetail]
  cases v.pending <;> simp

variable (v : View η)

/-- A button that can be pressed opens its dialog, unless one is open. -/
theorem outcome_openDialog (purpose : DialogPurpose)
    (henabled : (v.toolbar.getD .noSelection).isEnabled purpose.button = true) :
    v.Outcome (.toolbarPressed purpose.button) (v.openDialog purpose) := by
  simp only [openDialog]
  split
  · exact .ignored (by simp) (by simp) (by simp)
  · next hdialog => cases purpose <;> exact .opened hdialog henabled

/-- What a decision comes to: nothing, a closed dialog, or a request to the store. -/
theorem outcome_onDialogResolved (dialog : Ticket) (decision : DialogDecision) :
    v.Outcome (.dialogResolved dialog decision) (v.onDialogResolved dialog decision) := by
  rw [onDialogResolved]
  split
  · next hdialog => exact .ignored (by simp) (by simp) (by simp [hdialog])
  · next p hdialog =>
    split
    · next hasks =>
      obtain ⟨rfl, hstate⟩ := hasks
      cases decision with
      | cancelled => exact .closed hdialog hstate
      | confirmed fields =>
          dsimp only
          rw [confirm]
          cases hpurpose : p.purpose with
          | create => exact .creates _ _ hdialog hstate hpurpose
          | delete =>
              dsimp only
              split
              · exact .closed hdialog hstate
              · next id hid => exact .deletes hdialog hstate hpurpose hid
    · next hasks =>
      refine .ignored (by simp) (by simp) fun q hq hstate decision' he => ?_
      obtain rfl : p = q := Option.some.inj (hdialog.symm.trans hq)
      exact hasks ⟨(Event.dialogResolved.inj he).1.symm, hstate⟩

/-- A timer finds the wait for an entity long, or nothing. -/
theorem outcome_onTimer (timer : Ticket) : v.Outcome (.timerFired timer) (v.onTimer timer) := by
  rw [onTimer]
  split
  · next p hpending =>
    split
    · next hfired =>
      obtain ⟨rfl, -⟩ := hfired
      exact .escalated hpending
    · exact .ignored (by simp) (by simp) (by simp)
  · exact .ignored (by simp) (by simp) (by simp)

/-- The wish to edit leads to the route for editing, or to nothing. -/
theorem outcome_onEditRequested {e : Event} (he : e = .toolbarPressed .edit ∨ e = .editRequested) :
    v.Outcome e v.onEditRequested := by
  have hto : v.quietDestination e = v.editDestination := by rcases he with rfl | rfl <;> rfl
  have hreply : ∀ ticket reply, e ≠ .storeReplied ticket reply := by
    rcases he with rfl | rfl <;> simp
  rw [editDestination] at hto
  rw [onEditRequested]
  cases hid : v.currentArgs.id? with
  | none => rcases he with rfl | rfl <;> exact .ignored (by simp) (by simp) (by simp)
  | some id => exact .led (hto.trans (by rw [hid]; rfl)) hreply

/-- The end of a session enters the view anew. -/
theorem outcome_onSessionReset : v.Outcome .sessionReset v.onSessionReset := by
  have hended : v.Part [] { v with filtered := false } :=
    .note (by simp) v.reconciler false v.displayed v.mode
  rw [onSessionReset_eq]
  split
  · exact .reset (.cons hended (Part.search _).parts)
  · exact .reset hended.parts

variable [HistoryStore η] (now : Int)

/-- A path that resolves is entered and handled in parts, and any other one is ignored. -/
theorem outcome_onRouteChanged (path : String) :
    v.Outcome (.routeChanged path) (v.onRouteChanged path) := by
  rw [onRouteChanged]
  split
  · next err hresolve =>
    refine .ignored ?_ (by simp) (by simp)
    rintro _ ⟨⟩
    exact ⟨err, hresolve⟩
  · next h args hresolve =>
    obtain ⟨actions, hparts, hanswer⟩ := (v.entered path h args).inParts_handle args h
    rw [enterRoute_eq, Turn.andThen_done]
    refine .route hresolve hparts fun done hdone => ?_
    rcases hturn : ((v.entered path h args).handle args h).answer with e | rest
    · simp [hturn, Except.map] at hdone
    · rw [hturn] at hdone
      rw [← hanswer rest hturn]
      exact (Except.ok.inj hdone).symm

/-- The reply to the request under way ends the wait for the entity. -/
theorem outcome_onDetailReply {p : PendingDetail} (hpending : v.pending = some p)
    (reply : StoreReply) :
    v.Outcome (.storeReplied p.ticket reply) (v.onDetailReply now reply) := by
  simp only [onDetailReply, hpending, Turn.andThen_done]
  cases reply with
  | entity e =>
      rcases hpath : detailPath { v with pending := none } p.args with err | path
      · simp only [showEntity, hpath]
        exact .answered hpending rfl fun a ha => absurd ha List.not_mem_nil
      · simp only [showEntity, hpath]
        exact .answered hpending rfl (by simp [Turn.emitted, Turn.done, Except.map, Action.isPlain])
  | _ =>
      exact .answered hpending rfl (by simp [Turn.emitted, Turn.done, Except.map, Action.isPlain])

/-- The reply to a change comes to a new entity, a deletion or a failure of either. -/
theorem outcome_onMutationReply {ticket : Ticket} (howned : v.ownsMutation ticket = true)
    (reply : StoreReply) :
    v.Outcome (.storeReplied ticket reply) (v.onMutationReply now reply) := by
  obtain ⟨p, hdialog, name, hwaits⟩ := ownsMutation_iff.1 howned
  simp only [onMutationReply, hdialog, hwaits]
  split
  · next id hpurpose =>
    simp only [onCreated]
    split
    · next hpath => exact .lost hdialog hwaits hpurpose (.inl hpath)
    · split
      · next hpath => exact .lost hdialog hwaits hpurpose (.inr hpath)
      · next hpath => exact .created hdialog hwaits hpurpose hpath
  · next hpurpose _ => exact .rearmed _ hdialog hwaits hpurpose
  · next hpurpose => exact .deleted hdialog hwaits hpurpose
  · next hpurpose _ => exact .refused _ hdialog hwaits hpurpose

/-- Pressing the button for favorites changes the list, or comes to nothing. -/
theorem outcome_toggleFavorite :
    v.Outcome (.toolbarPressed .favorites) (v.toggleFavorite now) := by
  have hfavored : ∀ {α : Type} (changed : Except Error α) (favorited : Bool) (history : η),
      v.Outcome (.toolbarPressed .favorites)
        ⟨changed.map fun _ => [.favoriteChanged favorited], { v with history }⟩ := by
    intro α changed favorited history
    have hanswer : changed.map (fun _ => [Action.favoriteChanged favorited]) =
        (changed.map fun _ => favorited).map fun favorited => [.favoriteChanged favorited] := by
      cases changed <;> rfl
    rw [hanswer]
    exact .favored
  simp only [toggleFavorite]
  split
  · exact .ignored (by simp) (by simp) (by simp)
  · split
    · next err hpath => exact hfavored (.error err : Except Error Bool) false v.history
    · split
      · exact hfavored _ _ _
      · exact hfavored _ _ _

/-- What the press of a button comes to. -/
theorem outcome_onToolbar (button : ToolbarButton) :
    v.Outcome (.toolbarPressed button) (v.onToolbar now button) := by
  simp only [onToolbar]
  split
  · next henabled =>
    cases button with
    | new => exact v.outcome_openDialog .create henabled
    | delete => exact v.outcome_openDialog .delete henabled
    | up => exact .led rfl (by simp)
    | edit => exact v.outcome_onEditRequested (.inl rfl)
    | favorites => exact v.outcome_toggleFavorite now
  · exact .ignored (by simp) (by simp) (by simp)

/-- A reply comes to what the one who waits for it makes of it, and to nothing if nobody does. -/
theorem outcome_onStoreReplied (ticket : Ticket) (reply : StoreReply) :
    v.Outcome (.storeReplied ticket reply) (v.onStoreReplied now ticket reply) := by
  rw [onStoreReplied]
  split
  · next howned =>
    obtain ⟨p, hpending, rfl⟩ := ownsDetail_iff_pending.1 howned
    exact v.outcome_onDetailReply now hpending reply
  · next hdetail =>
    split
    · next howned =>
      have hsearch : v.latestSearch = some ticket := by simpa [ownsSearch] using howned
      simp only [onSearchReply]
      split
      · exact .listed hsearch (.inl ⟨_, rfl⟩)
      · exact .listed hsearch (.inr ⟨_, rfl⟩)
      · exact .listed hsearch (.inr ⟨_, rfl⟩)
    · next hsearch =>
      split
      · next howned => exact v.outcome_onMutationReply now howned reply
      · next hmutation =>
        refine .ignored (by simp) ?_ (by simp)
        rintro _ _ ⟨⟩
        exact ⟨by simpa using hdetail, by simpa using hsearch, by simpa using hmutation⟩

/-- Every event comes to one of the outcomes. -/
theorem outcome_step (e : Event) : v.Outcome e (v.step now e) := by
  cases e with
  | routeChanged path => exact v.outcome_onRouteChanged path
  | storeReplied ticket reply => exact v.outcome_onStoreReplied now ticket reply
  | dialogResolved dialog decision => exact v.outcome_onDialogResolved dialog decision
  | timerFired timer => exact v.outcome_onTimer timer
  | toolbarPressed button => exact v.outcome_onToolbar now button
  | editRequested => exact v.outcome_onEditRequested (.inr rfl)
  | sessionReset => exact v.outcome_onSessionReset

end Events

end View

end ConfigBrowser
