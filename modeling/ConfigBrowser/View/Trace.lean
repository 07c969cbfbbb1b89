import ConfigBrowser.History.Trace
import ConfigBrowser.View.Describe
import ConfigBrowser.View.Step

/-!
# Marks of the View

What is noted while the view handles an event: the span of the event, and in it what each part of
the handling notes, in order. Handling does not depend on it.

## Main results

* `View.balanced_marks`: what is noted on an event is a whole span.
-/

namespace ConfigBrowser

open Log

/-- The marks of what follows a turn, if the turn has not failed. -/
def Turn.thenMarks {η : Type} (t : Turn η) (next : View η → List Mark) : List Mark :=
  match t.answer with
  | .ok _ => next t.view
  | .error _ => []

namespace View

/-! ### Searching and loading -/

/-- The marks of a search. -/
def searchMarks : List Mark :=
  [.debug .search "search issued" ["ticket", "name", "kind", "filter"]]

/-- The marks of the reply to the latest search. -/
def searchReplyMarks : StoreReply → List Mark
  | .listing _ => [.debug .search "search resolved" ["ticket", "rows"]]
  | .error _ => [.warn .search "search failed" ["ticket", "error"]]
  | _ => [.warn .search "unexpected reply to search" ["ticket", "reply"]]

/-- The marks of loading the entity of a route. -/
def loadMarks (v : View History) (args : RouteArgs) : List Mark :=
  if args.id?.isNone then [.debug .detail "detail load without id skipped" []]
  else
    let superseded :=
      if v.pending.isSome then [Mark.debug .detail "detail load superseded" ["ticket"]] else []
    superseded ++ [.debug .detail "detail load issued" ["ticket", "id", "editable"]]

/-- The marks of forgetting the request under way. -/
def abandonMarks (v : View History) : List Mark :=
  if v.pending.isSome then [.debug .detail "detail load abandoned" ["ticket"]] else []

/-- The marks of showing an entity. -/
def showMarks (v : View History) (now : Int) (e : Entity) (args : RouteArgs) : List Mark :=
  match v.detailPath args with
  | .error _ => []
  | .ok path =>
    let recent := HistoryList.recent.key v.page
    let failed := (v.history.put recent ⟨e.name, path, now⟩).1.toBool = false
    v.history.putMarks recent ⟨e.name, path, now⟩ ++
      if failed then [.warn .detail "failed to record recent history" ["error"]] else []

/-- The marks of the reply to the request under way. -/
def detailReplyMarks (v : View History) (now : Int) (reply : StoreReply) : List Mark :=
  match v.pending, reply with
  | none, _ => []
  | some p, .entity e =>
    .debug .detail "detail resolved" ["ticket", "id"] :: v.showMarks now e p.args
  | some _, .error _ => [.warn .detail "detail load failed" ["ticket", "error"]]
  | some _, _ => [.warn .detail "unexpected reply to detail load" ["ticket", "reply"]]

/-- The marks of a timer that runs out. -/
def timerMarks (v : View History) (timer : Ticket) : List Mark :=
  let escalates := v.pending.any fun p => p.ticket = timer ∧ !p.escalated
  [.debug .detail (if escalates then "detail load escalated" else "inactive timer ignored")
    ["timer"]]

/-! ### Buttons and dialogs -/

/-- The marks of opening a dialog. -/
def openMarks (v : View History) : List Mark :=
  if v.dialog.isSome then [.debug .dialogs "dialog already open, press ignored" ["dialog"]] else []

/-- The marks of confirming a dialog. -/
def confirmMarks (v : View History) (p : PendingDialog) : List Mark :=
  if p.purpose = .delete ∧ v.currentArgs.id?.isNone then
    [.debug .dialogs "delete confirmed without a selected entity" []]
  else [.debug .dialogs "dialog confirmed" ["dialog", "ticket", "purpose"]]

/-- The marks of a decision. -/
def decisionMarks (v : View History) (dialog : Ticket) (decision : DialogDecision) : List Mark :=
  match v.dialog.filter fun p => p.ticket = dialog ∧ p.state = .prompting, decision with
  | none, _ => [.debug .dialogs "resolution for unknown or resolved dialog ignored" ["dialog"]]
  | some _, .cancelled => []
  | some p, .confirmed _ => v.confirmMarks p

/-- The marks of remembering and showing a new entity. -/
def createdMarks (v : View History) (now : Int) (name id : String) : List Mark :=
  let args := v.currentArgs.set RouteArgs.idKey id
  match v.detailPath args, v.hash .loadNewConfigs (args.withFlag .new) with
  | .ok value, .ok _ =>
    let key := HistoryList.new.key v.page
    let failed := (v.history.put key ⟨name, value, now⟩).1.toBool = false
    v.history.putMarks key ⟨name, value, now⟩ ++
      (if failed then [Mark.warn .dialogs "failed to record new history" ["error"]] else []) ++
      [.debug .dialogs "entity created" ["id", "path"]]
  | _, _ => []

/-- The marks of the reply that the dialog waits for. -/
def mutationReplyMarks (v : View History) (now : Int) (reply : StoreReply) : List Mark :=
  match v.dialog with
  | none => []
  | some p =>
    match p.state with
    | .prompting => []
    | .awaiting _ name =>
      match p.purpose, reply with
      | .create, .created id => v.createdMarks now name id
      | .create, _ => [.warn .dialogs "create failed" ["dialog", "error"]]
      | .delete, .deleted =>
        (v.redirect .loadDelete (v.currentArgs.withFlag .deleted)).thenMarks fun _ =>
          [.debug .dialogs "entity deleted" ["path"]]
      | .delete, _ => [.warn .dialogs "delete failed" ["error"]]

/-- The marks of asking to edit the selected entity. -/
def editMarks (v : View History) : List Mark :=
  if v.currentArgs.id?.isNone then
    [.debug .dialogs "edit requested without a selected entity" []]
  else []

/-- The marks of marking the displayed entity as a favorite, or no longer. -/
def favoriteMarks (v : View History) (now : Int) : List Mark :=
  match v.displayed with
  | none => [.debug .dialogs "favorites pressed without a displayed entity" []]
  | some (e, args) =>
    match v.detailPath args with
    | .error _ => []
    | .ok path =>
      let key := HistoryList.favorites.key v.page
      let marks :=
        if HistoryStore.contains v.history key path then v.history.removeMarks key path
        else v.history.putMarks key ⟨e.name, path, now⟩
      marks ++ (v.toggleFavorite now).thenMarks fun _ =>
        [.debug .dialogs "favorite toggled" ["favorited"]]

/-- The marks of the press of a button. -/
def toolbarMarks (v : View History) (now : Int) (button : ToolbarButton) : List Mark :=
  if (v.toolbar.getD .noSelection).isEnabled button then
    match button with
    | .new | .delete => v.openMarks
    | .up => []
    | .edit => v.editMarks
    | .favorites => v.favoriteMarks now
  else [.debug .dialogs "press on disabled button ignored" ["button", "mode"]]

/-! ### Routes -/

/-- The marks of a task of a navigation. -/
def taskMarks (c : Classification) (v : View History) : Task → List Mark
  | .enterList => searchMarks
  | .enterFilterMode => if !v.filtered ∧ c = .continuation then searchMarks else []
  | .leaveFilterRoute => []

/-- The marks of tasks in order. -/
def tasksMarks (args : RouteArgs) (c : Classification) (v : View History) : List Task → List Mark
  | [] => []
  | task :: rest =>
    v.taskMarks c task ++ (v.runTask args c task).thenMarks fun v => v.tasksMarks args c rest

/-- The marks of a navigation's tasks and of what follows them. -/
def reconcileMarks (v : View History) (args : RouteArgs) (plan : List (Condition Task))
    (next : Bool → View History → List Mark) : List Mark :=
  let (outcome, reconciler) := v.reconciler.reconcile args plan
  let reconciled := { v with reconciler }
  .debug .reconciling "route reconciled" ["classification", "fired", "stopped"] ::
    (reconciled.tasksMarks args outcome.classification outcome.fired ++
      (reconciled.runTasks args outcome.classification outcome.fired).thenMarks
        (next outcome.stopped))

/-- The marks of searching the list and redirecting to the entity without a flag. -/
def redirectMarks (v : View History) (flag : Flag) (args : RouteArgs) : List Mark :=
  (v.redirect .loadConfigs (args.lower flag)).thenMarks fun _ =>
    .debug .redirects "canonical redirect" ["flag", "path"] :: searchMarks

/-- The marks of a route with a flag behind the id. -/
def transientMarks (v : View History) (args : RouteArgs) (flag : Flag) : List Mark :=
  v.reconcileMarks args transientPlan fun stopped v =>
    if stopped then
      .debug .handling "transient route entered as new page, stopping" ["flag"] :: v.abandonMarks
    else v.redirectMarks flag args

/-- The marks of what a handler does. -/
def handleMarks (v : View History) (args : RouteArgs) : Handler → List Mark
  | .load =>
    v.reconcileMarks args loadPlan fun _ v => if args.id?.isNone then v.abandonMarks else []
  | .loadFilter => v.reconcileMarks args filterPlan fun _ _ => []
  | .loadDelete =>
    (v.redirect .load (args.only [RouteArgs.nameKey])).thenMarks fun _ => searchMarks
  | .loadConfigs => v.reconcileMarks args detailPlan fun _ v => v.loadMarks args
  | .loadNewConfigs => v.transientMarks args .new
  | .loadEditConfigs => v.transientMarks args .edit

/-- The marks of making a route the current one. -/
def enterMarks (v : View History) (args : RouteArgs) : List Mark :=
  let mode := if args.id?.isSome then ToolbarMode.selectionActive else .noSelection
  let changed :=
    if v.toolbar = some mode then [] else [Mark.debug .state "toolbar mode changed" ["mode"]]
  changed ++ if v.pendingDiffers args then v.abandonMarks else []

/-- The marks of a change of location. -/
def routeMarks (v : View History) (path : String) : List Mark :=
  match v.table.resolve path with
  | .error _ => [.debug .handling "route ignored" ["error"]]
  | .ok (handler, args) =>
    .debug .handling "route resolved" ["handler", "args"] ::
      (v.enterMarks args ++
        (v.enterRoute path handler args).thenMarks fun v => v.handleMarks args handler)

/-- The marks of ending what stuck from the last visit. -/
def resetMarks (v : View History) : List Mark :=
  .debug .handling "session reset" ["was_filtered"] ::
    if v.filtered ∧ v.current.isSome then searchMarks else []

/-! ### Events -/

/-- The marks of a reply. -/
def replyMarks (v : View History) (now : Int) (ticket : Ticket) (reply : StoreReply) :
    List Mark :=
  if v.ownsDetail ticket then v.detailReplyMarks now reply
  else if v.ownsSearch ticket then searchReplyMarks reply
  else if v.ownsMutation ticket then v.mutationReplyMarks now reply
  else [.debug .handling "stale reply discarded" ["ticket"]]

/-- The marks of what is done for an event. -/
def stepMarks (now : Int) (v : View History) : Event → List Mark
  | .routeChanged path => v.routeMarks path
  | .storeReplied ticket reply => v.replyMarks now ticket reply
  | .dialogResolved dialog decision => v.decisionMarks dialog decision
  | .timerFired timer => v.timerMarks timer
  | .toolbarPressed button => v.toolbarMarks now button
  | .editRequested => v.editMarks
  | .sessionReset => v.resetMarks

/-- The marks of an event. -/
def marks (now : Int) (v : View History) (e : Event) : List Mark :=
  Mark.within ⟨.handling, "handle_event", [("event", e.describe)]⟩ <|
    v.stepMarks now e ++
      (v.step now e).thenMarks fun _ => [.trace .handling "event handled" ["actions"]]

/-! ### Laws -/

/-- What follows a turn is noted in whole spans if it is after every turn. -/
theorem balanced_thenMarks {η : Type} (t : Turn η) {next : View η → List Mark}
    (h : ∀ v, Mark.Balanced (next v)) : Mark.Balanced (t.thenMarks next) := by
  rw [Turn.thenMarks]
  split
  · exact h _
  · exact Mark.balanced_nil

/-- A search is noted without a span. -/
theorem balanced_searchMarks : Mark.Balanced searchMarks := fun _ => rfl

/-- What is noted on tasks ends all spans that it begins. -/
theorem balanced_tasksMarks (args : RouteArgs) (c : Classification) (v : View History)
    (tasks : List Task) : Mark.Balanced (v.tasksMarks args c tasks) := by
  induction tasks generalizing v with
  | nil => exact Mark.balanced_nil
  | cons task rest ih =>
    refine Mark.balanced_append ?_ (balanced_thenMarks _ ih)
    cases task
    · exact balanced_searchMarks
    · exact Mark.balanced_ite _ balanced_searchMarks Mark.balanced_nil
    · exact Mark.balanced_nil

/-- What is noted on a navigation does so if what follows it does. -/
theorem balanced_reconcileMarks (v : View History) (args : RouteArgs)
    (plan : List (Condition Task)) {next : Bool → View History → List Mark}
    (h : ∀ stopped v, Mark.Balanced (next stopped v)) :
    Mark.Balanced (v.reconcileMarks args plan next) :=
  Mark.balanced_note _ <| Mark.balanced_append (balanced_tasksMarks _ _ _ _) <|
    balanced_thenMarks _ (h _)

/-- A request that is dropped is noted without a span. -/
theorem balanced_abandonMarks (v : View History) : Mark.Balanced v.abandonMarks := by
  rw [abandonMarks]
  split <;> exact fun _ => rfl

/-- A request for an entity is noted without a span. -/
theorem balanced_loadMarks (v : View History) (args : RouteArgs) :
    Mark.Balanced (v.loadMarks args) := by
  rw [loadMarks]
  split
  · exact fun _ => rfl
  · dsimp only
    split <;> exact fun _ => rfl

/-- What is noted on a route with a flag ends all spans that it begins. -/
theorem balanced_transientMarks (v : View History) (args : RouteArgs) (flag : Flag) :
    Mark.Balanced (v.transientMarks args flag) :=
  balanced_reconcileMarks _ _ _ fun stopped v => by
    split
    · exact Mark.balanced_note _ (balanced_abandonMarks v)
    · exact balanced_thenMarks _ fun _ => Mark.balanced_note _ balanced_searchMarks

/-- What is noted on a handler does so, too. -/
theorem balanced_handleMarks (v : View History) (args : RouteArgs) (handler : Handler) :
    Mark.Balanced (v.handleMarks args handler) := by
  cases handler
  · exact balanced_reconcileMarks v args loadPlan fun _ v =>
      Mark.balanced_ite _ (balanced_abandonMarks v) Mark.balanced_nil
  · exact balanced_reconcileMarks _ _ _ fun _ _ => Mark.balanced_nil
  · exact balanced_thenMarks _ fun _ => balanced_searchMarks
  · exact balanced_reconcileMarks _ _ _ fun _ v => balanced_loadMarks v args
  · exact balanced_transientMarks v args _
  · exact balanced_transientMarks v args _

/-- What is noted on a change of location ends all spans that it begins. -/
theorem balanced_routeMarks (v : View History) (path : String) :
    Mark.Balanced (v.routeMarks path) := by
  rw [routeMarks]
  split
  · exact fun _ => rfl
  · refine Mark.balanced_note _ (Mark.balanced_append ?_ ?_)
    · exact Mark.balanced_append (Mark.balanced_ite _ Mark.balanced_nil fun _ => rfl) <|
        Mark.balanced_ite _ (balanced_abandonMarks v) Mark.balanced_nil
    · exact balanced_thenMarks _ fun v => balanced_handleMarks v _ _

/-- What is noted on the reply to the request under way ends the span of its put. -/
theorem balanced_detailReplyMarks (v : View History) (now : Int) (reply : StoreReply) :
    Mark.Balanced (v.detailReplyMarks now reply) := by
  rw [detailReplyMarks.eq_def]
  split
  · exact Mark.balanced_nil
  · refine Mark.balanced_note _ ?_
    rw [showMarks]
    split
    · exact Mark.balanced_nil
    · exact Mark.balanced_append (History.balanced_putMarks _ _ _) <|
        Mark.balanced_ite _ (fun _ => rfl) Mark.balanced_nil
  · exact fun _ => rfl
  · exact fun _ => rfl

/-- What is noted on the reply to a change ends the span of its put. -/
theorem balanced_mutationReplyMarks (v : View History) (now : Int) (reply : StoreReply) :
    Mark.Balanced (v.mutationReplyMarks now reply) := by
  rw [mutationReplyMarks]
  split
  · exact Mark.balanced_nil
  · split
    · exact Mark.balanced_nil
    · split
      · rw [createdMarks]
        dsimp only
        split
        · exact Mark.balanced_append (Mark.balanced_append (History.balanced_putMarks _ _ _) <|
            Mark.balanced_ite _ (fun _ => rfl) Mark.balanced_nil) fun _ => rfl
        · exact Mark.balanced_nil
      · exact fun _ => rfl
      · exact balanced_thenMarks _ fun _ _ => rfl
      · exact fun _ => rfl

/-- What is noted on a reply ends all spans that it begins. -/
theorem balanced_replyMarks (v : View History) (now : Int) (ticket : Ticket) (reply : StoreReply) :
    Mark.Balanced (v.replyMarks now ticket reply) := by
  rw [replyMarks]
  split
  · exact balanced_detailReplyMarks v now reply
  · split
    · cases reply <;> exact fun _ => rfl
    · split
      · exact balanced_mutationReplyMarks v now reply
      · exact fun _ => rfl

/-- The wish to edit is noted without a span. -/
theorem balanced_editMarks (v : View History) : Mark.Balanced v.editMarks := by
  rw [editMarks]
  split <;> exact fun _ => rfl

/-- What is noted on a button ends all spans that it begins. -/
theorem balanced_toolbarMarks (v : View History) (now : Int) (button : ToolbarButton) :
    Mark.Balanced (v.toolbarMarks now button) := by
  have hopen : Mark.Balanced v.openMarks := by
    rw [openMarks]
    split <;> exact fun _ => rfl
  have hfavorite : Mark.Balanced (v.favoriteMarks now) := by
    rw [favoriteMarks]
    split
    · exact fun _ => rfl
    · split
      · exact Mark.balanced_nil
      · refine Mark.balanced_append ?_ (balanced_thenMarks _ fun _ _ => rfl)
        split
        · exact History.balanced_removeMarks _ _ _
        · exact History.balanced_putMarks _ _ _
  rw [toolbarMarks.eq_def]
  split
  · cases button
    · exact hopen
    · exact Mark.balanced_nil
    · exact balanced_editMarks v
    · exact hopen
    · exact hfavorite
  · exact fun _ => rfl

/-- A decision is noted without a span. -/
theorem balanced_decisionMarks (v : View History) (dialog : Ticket) (decision : DialogDecision) :
    Mark.Balanced (v.decisionMarks dialog decision) := by
  rw [decisionMarks.eq_def]
  split
  · exact fun _ => rfl
  · exact Mark.balanced_nil
  · rw [confirmMarks]
    split <;> exact fun _ => rfl

/-- What is noted on an event is a whole span. -/
theorem balanced_marks (now : Int) (v : View History) (e : Event) :
    Mark.Balanced (v.marks now e) := by
  refine Mark.balanced_within _ (Mark.balanced_append ?_ (balanced_thenMarks _ fun _ _ => rfl))
  cases e
  · exact balanced_routeMarks v _
  · exact balanced_replyMarks v now _ _
  · exact balanced_decisionMarks v _ _
  · exact fun _ => rfl
  · exact balanced_toolbarMarks v now _
  · exact balanced_editMarks v
  · refine Mark.balanced_note _ ?_
    split
    · exact balanced_searchMarks
    · exact Mark.balanced_nil

end View

end ConfigBrowser
