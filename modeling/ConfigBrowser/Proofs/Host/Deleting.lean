import ConfigBrowser.Proofs.Host.ListMatch
import ConfigBrowser.Proofs.Host.Reaching
import ConfigBrowser.Proofs.Host.Storing
import ConfigBrowser.Proofs.View.Destinations

/-!
# Deleting an Entity

The button for deletion on a host at rest, and what comes of the dialog that it opens. The store is
asked to delete the entity of the route. If it does, the view goes on to the route of a deletion,
which searches the list without being remembered, and from there to the list, searched by name
alone. Whether the list is then searched once more depends on what the memory of navigations takes
the second route for, but the last search is by name alone either way
(`Resting.getLast?_searches`). If the store refuses, all is as it was but for a dialog that says so.

The turns are followed from the view and the traffic that each leaves, so that nothing is supposed
of the operations before but what a host at rest satisfies.

## Main results

* `Host.Reaches.leaves_deleted`: from the route of a deletion to the list.
* `Host.Resting.deletes`: an entity that is stored and not locked is deleted.
* `Host.Resting.refuses`: any other is not, and nothing changes but the dialogs.
* `Host.performAll_deletes`: so it is after any operations.
-/

namespace ConfigBrowser

namespace View

variable {η : Type}

/-! ### The routes after a deletion -/

/-- The path after a deletion, and the arguments that it is read back with: no id, and what the list
is searched for. -/
structure DeletedRoute (v : View η) (path : String) (args : RouteArgs) : Prop where
  hash : v.hash .loadDelete (v.currentArgs.withFlag .deleted) = .ok path
  resolve : v.table.resolve path = .ok (.loadDelete, args)
  listKey : args.listKey = v.currentArgs.listKey

variable {v : View η} (hv : v.Regular)
include hv

/-- A regular view has a route to what it shows when its entity is deleted. -/
theorem Regular.exists_deletedRoute : ∃ path args, v.DeletedRoute path args := by
  have hrenders : Handler.loadDelete.Renders (v.currentArgs.withFlag .deleted) := by
    refine ⟨fun flag hflag => ?_, fun hid => by cases hid⟩
    obtain rfl : Flag.deleted = flag := Option.some.inj hflag
    exact RouteArgs.hasFlag_withFlag _ _
  obtain ⟨path, hpath⟩ := hv.sound.exists_hash hrenders
  refine ⟨path, Handler.loadDelete.canonical (v.currentArgs.withFlag .deleted), hpath, ?_, ?_⟩
  · exact resolve_of_hash_of_not_ambiguous hv.routable hv.sound.table hpath
      fun hambiguous => absurd hambiguous.1 (by decide)
  · rw [Handler.listKey_canonical]
    exact RouteArgs.listKey_eq_of_identity_eq (RouteArgs.identity_withFlag _ _)

/-- After a deletion the list is shown, searched by name alone. -/
theorem DeletedRoute.exists_list {path : String} {args : RouteArgs}
    (hdeleted : v.DeletedRoute path args) :
    ∃ next, v.hash .load (args.only [RouteArgs.nameKey]) = .ok next ∧
      v.table.resolve next = .ok (.load, args.only [RouteArgs.nameKey]) := by
  have hadmits := admits_of_resolve hv.sound.colon hv.sound.table hdeleted.resolve
  obtain ⟨next, hnext⟩ : ∃ next, v.hash .load (args.only [RouteArgs.nameKey]) = .ok next :=
    hv.sound.exists_hash_load
  exact ⟨next, hnext, hv.resolve_plainRoute hadmits hnext⟩

end View

namespace Host

variable {η : Type} [HistoryStore η] {h k : Host MemoryStore η}

/-! ### From the button to the answer -/

/-- The dialog is confirmed and closed, and the store answers. -/
theorem Asks.reaches_answered {fields : SortedMap String String} (hk : h.Asks .delete fields k)
    {route : CurrentRoute} {id : String} (hcurrent : h.view.current = some route)
    (hid : route.args.id? = some id) :
    ∃ j, (k.enqueue (.dialogResolved h.view.nextTicket (.confirmed fields))).Reaches 1
      [.closeDialog h.view.nextTicket,
        .store (h.view.prompted .delete).nextTicket (.delete id)]
      ((h.view.prompted .delete).awaiting ⟨h.view.nextTicket, .delete, .prompting⟩ "")
      ⟨(h.store.delete id).2, false,
        [.storeReplied (h.view.prompted .delete).nextTicket (h.store.delete id).1], .empty⟩ j := by
  have hselected : (h.view.prompted .delete).currentArgs.id? = some id := by
    rw [View.currentArgs, View.prompted, hcurrent, hid]
  have hconfirm : (h.view.prompted .delete).step k.clock
      (.dialogResolved h.view.nextTicket (.confirmed fields)) =
        .done [.closeDialog h.view.nextTicket,
          .store (h.view.prompted .delete).nextTicket (.delete id)]
          ((h.view.prompted .delete).awaiting ⟨h.view.nextTicket, .delete, .prompting⟩ "") := by
    rw [View.step_dialogResolved_prompted]
    simp only [View.confirm, hselected]
    rfl
  exact ⟨_, hk.reaches.turn hconfirm rfl rfl⟩

/-! ### Back to the list -/

/-- What a view has come to once it has gone to a list without an entity. -/
structure Clears (v : View η) (path : String) (args : RouteArgs) (w : View η) : Prop where
  dialog : w.dialog = v.dialog
  current : w.current = some ⟨path, .load, args⟩
  toolbar : w.toolbar = some .noSelection
  pending : w.pending = none
  displayed : w.displayed = none

section Routes

variable {n : Nat} {issued : List Action} {v : View η} {store : MemoryStore} {path : String}
  {args : RouteArgs} {o : Host MemoryStore η}
  (hr : o.Reaches n issued v ⟨store, false, [.routeChanged path], .empty⟩ k)
  (hpending : v.pending = none)
include hr hpending

/-- The route of a list: the detail pane is cleared, and the list searched if the page is new. -/
theorem Reaches.clears (hresolve : v.table.resolve path = .ok (.load, args))
    (hid : args.id? = none) :
    ∃ m actions w j, m ≤ 2 ∧ o.Reaches (n + m) (issued ++ actions) w ⟨store, false, [], .empty⟩ j ∧
      actions.filter Action.movesDialog = [] ∧ actions.filterMap Action.path? = [] ∧
      actions.filterMap Action.search? = v.listSearch args ∧ Clears v path args w := by
  have hentered := View.pending_entered_of_none hpending path .load args
  have htoolbar : some (View.toolbarOf args) = some ToolbarMode.noSelection := by
    rw [View.toolbarOf, hid]
    rfl
  rw [View.listSearch]
  cases hc : v.reconciler.classify args with
  | newPage =>
      have hturn := View.step_routeChanged_of_handle hpending hresolve
        (View.load_eq_of_opening (v := v.entered path .load args) hid hentered hc) o.clock
      obtain ⟨j, hlisted⟩ := hr.lists hturn none
        (by rw [List.filter_append, View.filter_matters_toolbarActions]; rfl) rfl rfl
      refine ⟨2, _, _, j, le_rfl, hlisted, ?_, ?_, ?_, rfl, rfl, htoolbar, rfl, rfl⟩
      · simp [Action.movesDialog, View.historyAction]
      · simp [Action.path?, View.historyAction]
      · simp [List.filterMap_cons, Action.search?, View.historyAction, View.query]
  | continuation =>
      have hturn := View.step_routeChanged_of_handle hpending hresolve
        (View.load_eq_of_continuation (v := v.entered path .load args) hid hentered hc) o.clock
      have hshown := hr.turn hturn
        (by rw [List.filter_append, View.filter_matters_toolbarActions]) rfl
      refine ⟨1, _, _, _, by decide, hshown, ?_, ?_, ?_, rfl, rfl, htoolbar, rfl, rfl⟩
      · simp [Action.movesDialog, View.historyAction]
      · simp [Action.path?, View.historyAction]
      · simp [Action.search?, View.historyAction]

/-- The route of a deletion: the list is searched, and left for the list by name. -/
theorem Reaches.leaves_deleted (hresolve : v.table.resolve path = .ok (.loadDelete, args))
    {next : String} (hnext : v.hash .load (args.only [RouteArgs.nameKey]) = .ok next)
    (hlist : v.table.resolve next = .ok (.load, args.only [RouteArgs.nameKey])) :
    ∃ m actions w j, m ≤ 4 ∧ o.Reaches (n + m) (issued ++ actions) w ⟨store, false, [], .empty⟩ j ∧
      actions.filter Action.movesDialog = [] ∧ actions.filterMap Action.path? = [next] ∧
      actions.filterMap Action.search? =
        args.listKey :: v.listSearch (args.only [RouteArgs.nameKey]) ∧
      Clears v next (args.only [RouteArgs.nameKey]) w := by
  have hentered := View.pending_entered_of_none hpending path .loadDelete args
  have hturn := View.step_routeChanged_of_handle hpending hresolve
    (View.loadDelete_eq (v.entered path .loadDelete args) hnext) o.clock
  obtain ⟨j, hsearched⟩ := hr.lists hturn (some next)
    (by rw [List.filter_append, View.filter_matters_toolbarActions]; rfl) hentered rfl
  obtain ⟨m, actions, w, j', hm, hcleared, hmoves, hpaths, hsearches, hclears⟩ :=
    hsearched.clears hentered hlist (by rw [RouteArgs.id?_only]; rfl)
  rw [List.append_assoc, Nat.add_assoc, Nat.add_comm 2 m] at hcleared
  refine ⟨m + 2, _, w, j', Nat.add_le_add_right hm 2, hcleared, ?_, ?_, ?_, hclears.dialog,
    hclears.current, hclears.toolbar, hclears.pending, hclears.displayed⟩
  · simp [Action.movesDialog, hmoves]
  · simp [List.filterMap_cons, Action.path?, hpaths]
  · rw [List.filterMap_append, List.filterMap_append, List.filterMap_append,
      View.filterMap_search?_toolbarActions, hsearches]
    rfl

end Routes

/-! ### The whole way -/

/-- What deleting the entity of a route makes of a host: the store loses the entity, and that is
all; the list is shown, searched by name, and no dialog is open that was not open before. -/
structure Deletes (h : Browser) (route : CurrentRoute) (id : String) (k : Browser) : Prop where
  lost : k.store.get? id = none
  others : ∀ other, other ≠ id → k.store.get? other = h.store.get? other
  locked : k.store.locked = h.store.locked
  nextId : k.store.nextId = h.store.nextId
  listed : ∃ path, h.view.hash .load (route.args.only [RouteArgs.nameKey]) = .ok path ∧
    k.location = some path ∧
    k.view.current = some ⟨path, .load, route.args.only [RouteArgs.nameKey]⟩
  displayed : k.view.displayed = none
  pending : k.view.pending = none
  toolbar : k.view.toolbar = some .noSelection
  dialogs : k.dialogs = h.dialogs
  lastSearch : k.lastSearch? = some (route.args.name?, none)

/-- What a deletion that the store refuses makes of a host: nothing but a dialog that says so. -/
structure Refuses (h k : Browser) : Prop where
  store : k.store = h.store
  current : k.view.current = h.view.current
  location : k.location = h.location
  displayed : k.view.displayed = h.view.displayed
  pending : k.view.pending = h.view.pending
  message : k.message = h.message
  timers : k.timers = h.timers
  /-- Nothing was navigated to. -/
  paths : k.log.filterMap Action.path? = h.log.filterMap Action.path?
  dialogs : ∃ ticket text, h.dialogs.get? ticket = none ∧
    k.dialogs = h.dialogs.insert ticket (.error text)

omit [HistoryStore η] in
/-- The last search after a deletion is by name alone, whether or not the list is a new page. -/
theorem Resting.getLast?_searches (hr : h.Resting) {route : CurrentRoute}
    (hcurrent : h.view.current = some route) {args : RouteArgs}
    (hlistKey : args.listKey = route.args.listKey) :
    (args.listKey :: h.view.listSearch (args.only [RouteArgs.nameKey])).getLast? =
      some (route.args.name?, none) := by
  have hname : args.name? = route.args.name? := (Prod.mk.inj hlistKey).1
  have honly := args.listKey_only_name
  rw [View.listSearch, Reconciler.classify, hr.previous, hcurrent, Option.map_some]
  dsimp only
  split_ifs with hsame
  · have hkept := RouteArgs.listKey_eq_of_identity_eq hsame
    rw [hlistKey, hkept, honly, hname]
    rfl
  · rw [← hname, ← honly]
    rfl

section Deletes

variable {h k₁ : Browser} (hr : h.Resting) {fields : SortedMap String String}
  (hk : h.Asks .delete fields k₁) {route : CurrentRoute} {id : String}
  (hcurrent : h.view.current = some route) (hid : route.args.id? = some id)
include hr hk hcurrent hid

/-- The entity is deleted when it is stored and not locked. -/
theorem Resting.deletes (hstored : (h.store.get? id).isSome = true)
    (hlocked : id ∉ h.store.locked) :
    ∃ k₂, k₁.resolveDialog h.view.nextTicket (.confirmed fields) = (.ok (), k₂) ∧
      k₂.queue = [] ∧ k₂.view.dialog = none ∧ Deletes h route id k₂ := by
  obtain ⟨path, args, hdeleted⟩ := hr.regular.exists_deletedRoute
  obtain ⟨next, hnext, hlist⟩ := hdeleted.exists_list hr.regular
  obtain ⟨j, hj⟩ := hk.reaches_answered hcurrent hid
  rw [MemoryStore.delete_of_stored hstored hlocked] at hj
  have hreply := (View.step_storeReplied_of_awaiting
    (v := (h.view.prompted .delete).awaiting ⟨h.view.nextTicket, .delete, .prompting⟩ "")
    hr.pending hr.latestSearch rfl rfl k₁.clock .deleted).trans (View.redirect_of_hash
      (v := { h.view with dialog := none, lastTicket := h.view.lastTicket + 2 }) hdeleted.hash)
  obtain ⟨m, actions, w, k₂, hm, hreaches, hmoves, hpaths, hsearches, hclears⟩ :=
    (hj.turn hreply rfl rfl).leaves_deleted hr.pending hdeleted.resolve hnext hlist
  have hlistKey : args.listKey = route.args.listKey := by
    rw [hdeleted.listKey, View.currentArgs, hcurrent]
  have hlast : (args.listKey :: View.listSearch
      { h.view with dialog := none, lastTicket := h.view.lastTicket + 2 }
      (args.only [RouteArgs.nameKey])).getLast? = some (route.args.name?, none) :=
    hr.getLast?_searches hcurrent hlistKey
  rw [RouteArgs.only_name_eq (Prod.mk.inj hlistKey).1] at hnext hclears
  obtain ⟨hstore, -, hqueue, -⟩ := Traffic.mk.inj hreaches.traffic
  refine ⟨k₂, hk.resolve.trans (hreaches.dispatch rfl ?_), hqueue,
    hreaches.view ▸ hclears.dialog, ?_⟩
  · exact (Nat.add_le_add_left hm 2).trans (by decide)
  exact
    { lost := by
        rw [hstore]
        exact (SortedMap.get?_erase ..).trans (if_pos rfl)
      others := fun other hne => by
        rw [hstore]
        exact (SortedMap.get?_erase ..).trans (if_neg hne)
      locked := by rw [hstore]
      nextId := by rw [hstore]
      listed := by
        refine ⟨next, hnext, ?_, hreaches.view ▸ hclears.current⟩
        rw [hreaches.location, List.filterMap_append, hpaths]
        rfl
      displayed := hreaches.view ▸ hclears.displayed
      pending := hreaches.view ▸ hclears.pending
      toolbar := hreaches.view ▸ hclears.toolbar
      dialogs := by
        refine hr.dialogs_of_closed hk hreaches ?_
        rw [List.filter_append, hmoves]
        rfl
      lastSearch := by
        rw [lastSearch?, hreaches.log, List.filterMap_append, List.filterMap_append, hsearches,
          List.getLast?_append, List.getLast?_append, hlast]
        rfl }

/-- An entity that is locked or not stored is not deleted, and a dialog says so. -/
theorem Resting.refuses (hrefused : ¬ ((h.store.get? id).isSome = true ∧ id ∉ h.store.locked)) :
    ∃ k₂, k₁.resolveDialog h.view.nextTicket (.confirmed fields) = (.ok (), k₂) ∧
      k₂.queue = [] ∧ k₂.view.dialog = none ∧ Refuses h k₂ := by
  obtain ⟨text, hdelete⟩ := MemoryStore.delete_of_refused hrefused
  obtain ⟨j, hj⟩ := hk.reaches_answered hcurrent hid
  rw [hdelete] at hj
  have hreply : ((h.view.prompted .delete).awaiting
      ⟨h.view.nextTicket, .delete, .prompting⟩ "").step k₁.clock
        (.storeReplied (h.view.prompted .delete).nextTicket (.error text)) =
          .done [.openDialog ⟨h.view.lastTicket + 3⟩ (.error text)]
            { h.view with dialog := none, lastTicket := h.view.lastTicket + 3 } :=
    View.step_storeReplied_of_awaiting
      (v := (h.view.prompted .delete).awaiting ⟨h.view.nextTicket, .delete, .prompting⟩ "")
      hr.pending hr.latestSearch rfl rfl k₁.clock (.error text)
  have hreaches := hj.turn hreply rfl rfl
  refine ⟨_, hk.resolve.trans (hreaches.dispatch rfl (by decide)),
    congrArg Traffic.queue hreaches.traffic, by rw [hreaches.view], ?_⟩
  have haround := hreaches.surroundings.trans
    (congrArg (List.foldl Surroundings.after · _) hk.surroundings)
  have hclosed : h.dialogs.get? ⟨h.view.lastTicket + 3⟩ = none :=
    hr.get?_dialogs_of_lt (Nat.lt_add_of_pos_right (by decide))
  exact
    { store := congrArg Traffic.store hreaches.traffic
      current := by rw [hreaches.view]
      location := congrArg Surroundings.location haround
      displayed := by rw [hreaches.view]
      pending := by rw [hreaches.view]
      message := congrArg Surroundings.message haround
      timers := congrArg Surroundings.timers haround
      paths := by
        rw [hreaches.log]
        change (k₁.log ++ _).filterMap _ = _
        rw [hk.log]
        simp [Action.path?]
      dialogs := by
        refine ⟨_, text, hclosed, (congrArg Surroundings.dialogs haround).trans ?_⟩
        change ((h.dialogs.insert h.view.nextTicket .delete).erase h.view.nextTicket).insert _ _ = _
        rw [SortedMap.erase_insert hr.get?_nextTicket] }

end Deletes

/-- On a page whose paths can be told from others, a host that never holds requests back comes to
rest after any operations. If its view tracks no dialog then and its route has an id, the button for
deletion opens a dialog. Confirming it deletes the entity if it is stored and not locked, and
changes nothing otherwise but that a dialog says so. -/
theorem performAll_deletes {page : String} {delay : Nat} {history : History} {view : View History}
    (hpage : Routable page) (hview : View.initial page delay history = .ok view)
    {store : MemoryStore} {ops : List Operation} (hprompt : .setDeferred true ∉ ops)
    {h : Browser} (hops : (Host.initial view store).performAll ops = h)
    (hdialog : h.view.dialog = none) {route : CurrentRoute}
    (hcurrent : h.view.current = some route) {id : String} (hid : route.args.id? = some id)
    (fields : SortedMap String String) :
    h.queue = [] ∧ ∃ k₁ k₂, h.press .delete = (.ok (), k₁) ∧
      k₁.dialogs = h.dialogs.insert h.view.nextTicket .delete ∧
      k₁.resolveDialog h.view.nextTicket (.confirmed fields) = (.ok (), k₂) ∧
      k₂.queue = [] ∧ k₂.view.dialog = none ∧
      ((h.store.get? id).isSome = true ∧ id ∉ h.store.locked → Deletes h route id k₂) ∧
      (¬ ((h.store.get? id).isSome = true ∧ id ∉ h.store.locked) → Refuses h k₂) := by
  have hr := Resting.performAll hpage hview hprompt hops
  have henabled : (h.view.toolbar.getD .noSelection).isEnabled .delete = true := by
    rw [hr.toolbar, hcurrent, Option.map_some, View.toolbarOf, hid]
    rfl
  obtain ⟨k₁, hk⟩ := hr.asks hdialog .delete henabled fields
  by_cases hdeletable : (h.store.get? id).isSome = true ∧ id ∉ h.store.locked
  · obtain ⟨k₂, hresolve, hqueue, hnone, hdeletes⟩ :=
      hr.deletes hk hcurrent hid hdeletable.1 hdeletable.2
    exact ⟨hr.queue, k₁, k₂, hk.press, hk.dialogs, hresolve, hqueue, hnone, fun _ => hdeletes,
      absurd hdeletable⟩
  · obtain ⟨k₂, hresolve, hqueue, hnone, hrefuses⟩ := hr.refuses hk hcurrent hid hdeletable
    exact ⟨hr.queue, k₁, k₂, hk.press, hk.dialogs, hresolve, hqueue, hnone,
      fun hstored => absurd hstored hdeletable, fun _ => hrefuses⟩

/-- The route of one entity deletes it, that of a locked one does not. -/
theorem deletes_configs_view : ∃ (view : View History) (h k₁ k₂ l l₁ l₂ : Browser)
    (route : CurrentRoute),
    let store := (MemoryStore.ofEntities [⟨"7", "T", "view", .null⟩,
      ⟨"8", "T", "other view", .null⟩]).lock "8"
    View.initial "configs" 500 (History.inMemory 10) = .ok view ∧
    (Host.initial view store).performAll [.navigate "configs/7/name:view/type:T"] = h ∧
    (Host.initial view store).performAll [.navigate "configs/8"] = l ∧
    h.location = some "configs/7/name:view/type:T" ∧ h.press .delete = (.ok (), k₁) ∧
    k₁.resolveDialog h.view.nextTicket (.confirmed .empty) = (.ok (), k₂) ∧
    Deletes h route "7" k₂ ∧ k₂.location = some "configs/name:view" ∧
    l.location = some "configs/8" ∧ l.press .delete = (.ok (), l₁) ∧
    l₁.resolveDialog l.view.nextTicket (.confirmed .empty) = (.ok (), l₂) ∧ Refuses l l₂ := by
  obtain ⟨view, hview⟩ : ∃ view, View.initial "configs" 500 (History.inMemory 10) = .ok view :=
    ⟨_, rfl⟩
  have hpage : Routable "configs" := ⟨by decide, 'c', by decide, by decide⟩
  generalize hstore : (MemoryStore.ofEntities [⟨"7", "T", "view", .null⟩,
    ⟨"8", "T", "other view", .null⟩]).lock "8" = store
  generalize hops : [Operation.navigate "configs/7/name:view/type:T"] = ops
  generalize hops' : [Operation.navigate "configs/8"] = ops'
  have hprompt : .setDeferred true ∉ ops := by simp [← hops]
  have hprompt' : .setDeferred true ∉ ops' := by simp [← hops']
  generalize hlast : (Host.initial view store).performAll ops = h
  generalize hlast' : (Host.initial view store).performAll ops' = l
  have hruns : h.view.dialog = none ∧ h.location = some "configs/7/name:view/type:T" ∧
      (h.view.current.map fun route => (route.args.id?, h.view.hash .load
        (route.args.only [RouteArgs.nameKey]))) = some (some "7", .ok "configs/name:view") ∧
      (h.store.get? "7").isSome = true ∧ "7" ∉ h.store.locked ∧
      l.view.dialog = none ∧ l.location = some "configs/8" ∧
      (l.view.current.map fun route => route.args.id?) = some (some "8") ∧
      "8" ∈ l.store.locked := by
    subst hlast hlast' hops hops' hstore
    obtain rfl := Except.ok.inj hview
    decide +kernel
  obtain ⟨hnone, hlocation, hroute, hstored, hlocked, hnone', hlocation', hroute', hlocked'⟩ :=
    hruns
  obtain ⟨route, hcurrent, hargs⟩ := Option.map_eq_some_iff.1 hroute
  obtain ⟨hid, hpath⟩ := Prod.mk.inj hargs
  obtain ⟨route', hcurrent', hid'⟩ := Option.map_eq_some_iff.1 hroute'
  obtain ⟨-, k₁, k₂, hpress, -, hresolve, -, -, hdeletes, -⟩ :=
    performAll_deletes hpage hview hprompt hlast hnone hcurrent hid .empty
  obtain ⟨-, l₁, l₂, hpress', -, hresolve', -, -, -, hrefuses⟩ :=
    performAll_deletes hpage hview hprompt' hlast' hnone' hcurrent' hid' .empty
  have hgone := hdeletes ⟨hstored, hlocked⟩
  obtain ⟨path, hhash, hleft, -⟩ := hgone.listed
  rw [Except.ok.inj (hhash.symm.trans hpath)] at hleft
  subst hstore hops hops'
  exact ⟨view, h, k₁, k₂, l, l₁, l₂, route, hview, hlast, hlast', hlocation, hpress, hresolve,
    hgone, hleft, hlocation', hpress', hresolve', hrefuses fun hkept => hkept.2 hlocked'⟩

end Host

end ConfigBrowser
