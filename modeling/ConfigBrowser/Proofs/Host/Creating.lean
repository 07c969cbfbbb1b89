import ConfigBrowser.Proofs.History.Changes
import ConfigBrowser.Proofs.Host.Reaching
import ConfigBrowser.Proofs.Host.Storing
import ConfigBrowser.Proofs.View.Destinations

/-!
# Creating an Entity

The button for a new entity on a host at rest, and what comes of the dialog that it opens. The store
creates the entity under its next id, which no entity has. The view records the entity in the
history and goes on to the route of a new entity. From a route of the same page that is a
continuation: the list is searched, and the plain route of the entity shows it
(`Host.Reaches.shows_new`). Without a route before it a page is opened, and nothing is shown
(`Host.Reaches.opens_new`).

Both paths are known to be read back as they were written, since the new id is not empty and has no
colon in it.

## Main results

* `View.Regular.exists_newRoute`: the path to a new entity, and the arguments it is read back with.
* `Host.Reaches.shows_new`, `Host.Reaches.opens_new`: from the route of a new entity to the end.
* `Host.Resting.creates`: a host at rest creates an entity.
* `Host.performAll_creates`: so it is after any operations.
-/

namespace ConfigBrowser

namespace View

variable {η : Type}

/-! ### The routes of a new entity -/

/-- The path to an entity that has just been created, and the arguments that it is read back with:
the new id, and what the list is searched for. -/
structure NewRoute (v : View η) (id path : String) (args : RouteArgs) : Prop where
  hash : v.hash .loadNewConfigs ((v.currentArgs.set RouteArgs.idKey id).withFlag .new) = .ok path
  resolve : v.table.resolve path = .ok (.loadNewConfigs, args)
  id : args.id? = some id
  listKey : args.listKey = v.currentArgs.listKey

variable {v : View η} (hv : v.Regular)
include hv

/-- An id that a path can hold has a route to its new entity. -/
theorem Regular.exists_newRoute {id : String} (hne : id ≠ "") (hcolon : ':' ∉ id.toList) :
    ∃ path args, v.NewRoute id path args := by
  have hid : ((v.currentArgs.set RouteArgs.idKey id).withFlag .new).id? = some id := by
    rw [RouteArgs.id?_withFlag, RouteArgs.id?_set_idKey, if_neg hne]
  have hrenders : Handler.loadNewConfigs.Renders
      ((v.currentArgs.set RouteArgs.idKey id).withFlag .new) := by
    refine ⟨fun flag hflag => ?_, fun _ => by rw [hid]; rfl⟩
    obtain rfl : Flag.new = flag := Option.some.inj hflag
    exact RouteArgs.hasFlag_withFlag _ _
  obtain ⟨path, hpath⟩ := hv.sound.exists_hash hrenders
  refine ⟨path, Handler.loadNewConfigs.canonical
    ((v.currentArgs.set RouteArgs.idKey id).withFlag .new), hpath, ?_, ?_, ?_⟩
  · refine resolve_of_hash hv.routable hv.sound.table hpath ?_
    rw [hid]
    rintro _ ⟨⟩ ⟨key, value, -, hsplit⟩
    exact hcolon (hsplit ▸ by simp)
  · rw [Handler.id?_canonical, if_pos (by decide), hid]
  · rw [Handler.listKey_canonical]
    exact RouteArgs.listKey_eq_of_identity_eq
      ((RouteArgs.identity_withFlag _ _).trans (RouteArgs.identity_insert_id _ _))

/-- The route to a new entity continues the page that shows it. -/
theorem NewRoute.classify {id path : String} {args : RouteArgs} (hnew : v.NewRoute id path args)
    {route : CurrentRoute} (hcurrent : v.current = some route)
    (hprevious : v.reconciler.previous = some route.args) :
    v.reconciler.classify args = .continuation := by
  have hadmits := admits_of_resolve hv.sound.colon hv.sound.table hnew.resolve
  have hlist : route.args.listKey = args.listKey := by
    rw [hnew.listKey, currentArgs, hcurrent]
  rw [Reconciler.classify, hprevious]
  exact if_pos ((hv.sound.current route hcurrent).identity_eq hadmits hlist)

/-- The path to a new entity without the flag is that by which the history knows it. -/
theorem NewRoute.exists_plain {id path : String} {args : RouteArgs} (hne : id ≠ "")
    (hnew : v.NewRoute id path args) :
    ∃ next, v.hash .loadConfigs (args.lower .new) = .ok next ∧
      v.table.resolve next = .ok (.loadConfigs, args.lower .new) ∧
      v.detailPath (v.currentArgs.set RouteArgs.idKey id) = .ok next := by
  have hadmits := admits_of_resolve hv.sound.colon hv.sound.table hnew.resolve
  have hlower : (args.lower .new).id? = some id := by rw [RouteArgs.id?_lower, hnew.id]
  have hset : (v.currentArgs.set RouteArgs.idKey id).id? = some id := by
    rw [RouteArgs.id?_set_idKey, if_neg hne]
  have hplain : Handler.loadNewConfigs.plainRoute args = (.loadConfigs, args.lower .new) := by
    rw [Handler.plainRoute_of_ne (by decide), hnew.id]
    rfl
  obtain ⟨next, hnext⟩ : ∃ next, v.hash .loadConfigs (args.lower .new) = .ok next :=
    hv.sound.exists_hash_loadConfigs (by rw [hlower]; rfl)
  obtain ⟨value, hvalue⟩ :
      ∃ value, v.hash .loadConfigs (v.currentArgs.set RouteArgs.idKey id) = .ok value :=
    hv.sound.exists_hash_loadConfigs (by rw [hset]; rfl)
  refine ⟨next, hnext, ?_, ?_⟩
  · rw [← hplain]
    exact hv.resolve_plainRoute hadmits (by rw [hplain]; exact hnext)
  · have hlist : (v.currentArgs.set RouteArgs.idKey id).listKey = (args.lower .new).listKey := by
      rw [RouteArgs.listKey_lower, hnew.listKey]
      exact RouteArgs.listKey_eq_of_identity_eq (RouteArgs.identity_insert_id _ _)
    obtain ⟨hname, htype⟩ := Prod.mk.inj hlist
    obtain ⟨-, rfl⟩ := (hash_eq_ok_iff hv.sound.colon hv.sound.table).1 hnext
    obtain ⟨-, hsame⟩ := (hash_eq_ok_iff hv.sound.colon hv.sound.table).1 hvalue
    rw [detailPath, hvalue, hsame, Handler.path, Handler.path,
      Handler.pieces_congr _ (hset.trans hlower.symm) hname htype]

/-- The view once the store has created an entity and the history has recorded it. -/
def recorded {η : Type} [HistoryStore η] (v : View η) (now : Int) (name value : String) : View η :=
  { v with
    dialog := none
    lastTicket := v.lastTicket + 2
    history := (HistoryStore.put v.history (HistoryList.new.key v.page) ⟨name, value, now⟩).2 }

end View

namespace Host

variable {η : Type} [HistoryStore η] {h k : Host MemoryStore η}

/-! ### From the button to the new entity -/

/-- The dialog is confirmed, the store creates the entity, and the view leads to it. -/
theorem Resting.reaches_created (hr : h.Resting) (hroom : h.store.HasRoom)
    {fields : SortedMap String String} {name : String}
    (hname : fields.get? "name" = some name) (hblank : Text.isAllBlank name = false)
    {path value : String} {args : RouteArgs} (hnew : h.view.NewRoute h.store.freshId path args)
    (hvalue : h.view.detailPath (h.view.currentArgs.set RouteArgs.idKey h.store.freshId) =
      .ok value) (hk : h.Asks .create fields k) :
    ∃ ticket j, (k.enqueue (.dialogResolved h.view.nextTicket (.confirmed fields))).Reaches 2
      [.store ticket (.put name ((fields.get? "xml").getD "")), .closeDialog h.view.nextTicket,
        .navigate path]
      (h.view.recorded k.clock name value)
      ⟨(h.store.execute (.put name ((fields.get? "xml").getD ""))).2, false,
        [.routeChanged path], .empty⟩ j := by
  set payload := (fields.get? "xml").getD "" with hpayload
  have hconfirm : (h.view.prompted .create).step k.clock
      (.dialogResolved h.view.nextTicket (.confirmed fields)) =
        .done [.store (h.view.prompted .create).nextTicket (.put name payload)]
          ((h.view.prompted .create).awaiting ⟨h.view.nextTicket, .create, .prompting⟩ name) := by
    rw [View.step_dialogResolved_prompted, View.confirm, hname]
    rfl
  have hput : (RemoteStore.execute h.store (.put name payload)).1 = .created h.store.freshId :=
    congrArg Prod.fst (MemoryStore.execute_put hroom hblank payload)
  have hafter : [Action.store (h.view.prompted .create).nextTicket (.put name payload)].foldl
      Traffic.after ⟨h.store, false, [], .empty⟩ = ⟨(h.store.execute (.put name payload)).2, false,
        [.storeReplied (h.view.prompted .create).nextTicket (.created h.store.freshId)],
        .empty⟩ := by
    rw [← hput]
    rfl
  have hreply := (View.step_storeReplied_of_awaiting
    (v := (h.view.prompted .create).awaiting ⟨h.view.nextTicket, .create, .prompting⟩ name)
    hr.pending hr.latestSearch rfl rfl k.clock (.created h.store.freshId)).trans
      (View.onCreated_of_path
        (v := { h.view with dialog := none, lastTicket := h.view.lastTicket + 2 }) hvalue hnew.hash
        k.clock h.view.nextTicket name)
  exact ⟨_, _, (hk.reaches.turn hconfirm rfl hafter).turn hreply rfl rfl⟩

/-- What a view has come to once it has gone to an entity and shows it. -/
structure Shows (v : View η) (now : Int) (path : String) (args : RouteArgs) (e : Entity)
    (w : View η) : Prop where
  dialog : w.dialog = v.dialog
  current : w.current = some ⟨path, .loadConfigs, args⟩
  pending : w.pending = none
  displayed : w.displayed = some (e, args)
  history : w.history = (HistoryStore.put v.history (HistoryList.recent.key v.page)
    ⟨e.name, path, now⟩).2

/-- The route of an entity on a page that stays: the entity is asked for and shown. -/
theorem Reaches.shows {n : Nat} {issued : List Action} {v : View η} {store : MemoryStore}
    {path : String} {o : Host MemoryStore η}
    (hr : o.Reaches n issued v ⟨store, false, [.routeChanged path], .empty⟩ k)
    (hpending : v.pending = none) {args : RouteArgs} {id : String} {e : Entity}
    (hresolve : v.table.resolve path = .ok (.loadConfigs, args)) (hid : args.id? = some id)
    (hc : v.reconciler.classify args = .continuation) (hpath : v.detailPath args = .ok path)
    (hstored : store.get? id = some e) :
    ∃ actions w j, o.Reaches (n + 2) (issued ++ actions) w ⟨store, false, [], .empty⟩ j ∧
      actions.filter Action.movesDialog = [] ∧ actions.filterMap Action.path? = [] ∧
      Shows v o.clock path args e w := by
  have hask := View.step_routeChanged_of_handle hpending hresolve
    (View.loadConfigs_eq_of_continuation (v := v.entered path .loadConfigs args) hid
      (View.pending_entered_of_none hpending ..) hc) o.clock
  have hsent : (v.toolbarActions (View.toolbarOf args) ++ [Action.store v.nextTicket (.get id),
      .showMessage View.loadingText, .scheduleTimer v.nextTicket v.loadingDelay]).filter
        Action.matters = [.store v.nextTicket (.get id)] := by
    rw [List.filter_append, View.filter_matters_toolbarActions]
    rfl
  have hget : (RemoteStore.execute store (.get id)).1 = .entity e :=
    congrArg (Option.elim · (MemoryStore.notFound id) .entity) hstored
  have hafter : [Action.store v.nextTicket (.get id)].foldl Traffic.after
      ⟨store, false, [], .empty⟩ =
        ⟨store, false, [.storeReplied v.nextTicket (.entity e)], .empty⟩ := by
    rw [← hget]
    rfl
  obtain ⟨data, favorited, hshow⟩ := View.step_entity_of_pending
    (v := View.asked { v.entered path .loadConfigs args with reconciler := ⟨some args⟩ } id args)
    rfl hpath o.clock e
  have hshown := (hr.turn hask hsent hafter).turn hshow rfl rfl
  rw [List.append_assoc] at hshown
  exact ⟨_, _, _, hshown, by simp [Action.movesDialog], by simp [Action.path?], rfl, rfl, rfl, rfl,
    rfl⟩

section New

variable {n : Nat} {issued : List Action} {v : View η} {store : MemoryStore} {id path : String}
  {args : RouteArgs} {o : Host MemoryStore η}
  (hr : o.Reaches n issued v ⟨store, false, [.routeChanged path], .empty⟩ k)
  (hpending : v.pending = none) (hresolve : v.table.resolve path = .ok (.loadNewConfigs, args))
include hr hpending hresolve

/-- The route of a new entity on a page that stays: the list is searched, and the entity shown. -/
theorem Reaches.shows_new (hc : v.reconciler.classify args = .continuation) {next : String}
    (hnext : v.hash .loadConfigs (args.lower .new) = .ok next)
    (hplain : v.table.resolve next = .ok (.loadConfigs, args.lower .new))
    (hid : args.id? = some id) {e : Entity} (hstored : store.get? id = some e) :
    ∃ actions w j, o.Reaches (n + 4) (issued ++ actions) w ⟨store, false, [], .empty⟩ j ∧
      actions.filter Action.movesDialog = [] ∧ actions.filterMap Action.path? = [next] ∧
      Shows v o.clock next (args.lower .new) e w := by
  have hturn := View.step_routeChanged_of_handle hpending hresolve
    (View.loadTransient_eq_of_continuation (v.entered path .loadNewConfigs args) hc hnext) o.clock
  obtain ⟨j, hlisted⟩ := hr.lists hturn (some next)
    (by rw [List.filter_append, View.filter_matters_toolbarActions]; rfl)
    (View.pending_entered_of_none hpending path .loadNewConfigs args) rfl
  obtain ⟨actions, w, j', hshown, hmoves, hpaths, hshows⟩ := hlisted.shows
    (View.pending_entered_of_none hpending path .loadNewConfigs args) hplain
    (by rw [RouteArgs.id?_lower, hid]) (if_pos (RouteArgs.identity_lower ..).symm) hnext hstored
  rw [List.append_assoc] at hshown
  refine ⟨_, w, j', hshown, ?_, ?_, ⟨hshows.dialog, hshows.current, hshows.pending,
    hshows.displayed, hshows.history⟩⟩
  · simp [Action.movesDialog, hmoves]
  · simp [List.filterMap_cons, Action.path?, hpaths]

/-- The route of a new entity that opens a page: the list is searched, and no more. -/
theorem Reaches.opens_new (hc : v.reconciler.classify args = .newPage) :
    ∃ actions w j, o.Reaches (n + 2) (issued ++ actions) w ⟨store, false, [], .empty⟩ j ∧
      actions.filter Action.movesDialog = [] ∧ actions.filterMap Action.path? = [] ∧
      w.dialog = v.dialog ∧ w.current = some ⟨path, .loadNewConfigs, args⟩ ∧ w.pending = none ∧
      w.displayed = v.displayed := by
  have hturn := View.step_routeChanged_of_handle hpending hresolve
    (View.loadTransient_eq_of_opening (v := v.entered path .loadNewConfigs args)
      (View.pending_entered_of_none hpending ..) .new hc) o.clock
  obtain ⟨j, hlisted⟩ := hr.lists hturn none
    (by rw [List.filter_append, View.filter_matters_toolbarActions]; rfl) rfl rfl
  exact ⟨_, _, j, hlisted, by simp [Action.movesDialog], by simp [Action.path?], rfl, rfl, rfl, rfl⟩

end New

/-! ### The whole way -/

/-- What creating an entity always makes of a host: the store gains the entity under its next id,
and that is all; the dialog is gone, and nothing is loading. -/
structure Created (h : Browser) (name payload : String) (k : Browser) : Prop where
  fresh : h.store.get? h.store.freshId = none
  stored : k.store.get? h.store.freshId =
    some (MemoryStore.entityOf h.store.freshId name payload)
  others : ∀ id, id ≠ h.store.freshId → k.store.get? id = h.store.get? id
  locked : k.store.locked = h.store.locked
  queue : k.queue = []
  dialog : k.view.dialog = none
  dialogs : k.dialogs = h.dialogs
  pending : k.view.pending = none

/-- What creating an entity makes of a host. -/
structure Creates (h : Browser) (name payload : String) (k : Browser) : Prop
    extends Created h name payload k where
  /-- From a route the host goes to the new entity, which is displayed and comes first in the
  history. -/
  shown : ∀ route, h.view.current = some route → ∃ path args,
    h.view.hash .loadConfigs (route.args.set RouteArgs.idKey h.store.freshId) = .ok path ∧
    k.location = some path ∧ k.view.current = some ⟨path, .loadConfigs, args⟩ ∧
    args.id? = some h.store.freshId ∧ args.listKey = route.args.listKey ∧
    k.view.displayed = some (MemoryStore.entityOf h.store.freshId name payload, args) ∧
    ∀ list ∈ [HistoryList.new, .recent],
      (k.view.history.entries (list.key h.view.page)).head?.map HistoryEntry.value = some path
  /-- Without one it stops at the route of the new entity. -/
  stopped : h.view.current = none → ∃ path args,
    h.view.hash .loadNewConfigs ((RouteArgs.set .empty RouteArgs.idKey h.store.freshId).withFlag
      .new) = .ok path ∧
    k.location = some path ∧ k.view.current = some ⟨path, .loadNewConfigs, args⟩ ∧
    args.id? = some h.store.freshId ∧ k.view.displayed = none

section Creates

variable {h k₁ k₂ : Browser} (hr : h.Resting) (hroom : h.store.HasRoom)
  {fields : SortedMap String String} (hk : h.Asks .create fields k₁) {name : String}
  (hblank : Text.isAllBlank name = false)
include hr hroom hk hblank

/-- A host that has created an entity and closed the dialog since the decision. -/
theorem Resting.created (hfresh : h.store.get? h.store.freshId = none) {payload : String} {n : Nat}
    {issued : List Action} {w : View History}
    (hreaches : (k₁.enqueue (.dialogResolved h.view.nextTicket (.confirmed fields))).Reaches n
      issued w ⟨(h.store.execute (.put name payload)).2, false, [], .empty⟩ k₂)
    (hmoves : issued.filter Action.movesDialog = [.closeDialog h.view.nextTicket])
    (hdialog : w.dialog = none) (hpending : w.pending = none) : Created h name payload k₂ := by
  obtain ⟨hstore, -, hqueue, -⟩ := Traffic.mk.inj hreaches.traffic
  rw [MemoryStore.execute_put hroom hblank payload] at hstore
  exact
    { fresh := hfresh
      stored := by
        rw [hstore]
        exact (SortedMap.get?_insert ..).trans (if_pos rfl)
      others := fun id hne => by
        rw [hstore]
        exact (SortedMap.get?_insert ..).trans (if_neg hne)
      locked := by rw [hstore]
      queue := hqueue
      dialog := hreaches.view ▸ hdialog
      dialogs := hr.dialogs_of_closed hk hreaches hmoves
      pending := hreaches.view ▸ hpending }

end Creates

/-- A host at rest that tracks no dialog creates an entity. -/
theorem Resting.creates {h : Browser} (hr : h.Resting) (hstore : h.store.Built)
    (hroom : h.store.HasRoom) (hdialog : h.view.dialog = none) {fields : SortedMap String String}
    {name : String} (hname : fields.get? "name" = some name)
    (hblank : Text.isAllBlank name = false) :
    ∃ k₁ k₂, h.press .new = (.ok (), k₁) ∧
      k₁.dialogs = h.dialogs.insert h.view.nextTicket .create ∧
      k₁.resolveDialog h.view.nextTicket (.confirmed fields) = (.ok (), k₂) ∧
      Creates h name ((fields.get? "xml").getD "") k₂ := by
  obtain ⟨k₁, hk⟩ := hr.asks hdialog .create
    (by cases h.view.toolbar.getD .noSelection <;> rfl) fields
  obtain ⟨path, args, hnew⟩ :=
    hr.regular.exists_newRoute h.store.freshId_ne_empty h.store.colon_not_mem_freshId
  obtain ⟨next, hnext, hplain, hvalue⟩ := hnew.exists_plain hr.regular h.store.freshId_ne_empty
  obtain ⟨ticket, j, hj⟩ := hr.reaches_created hroom hname hblank hnew hvalue hk
  have hfresh := hstore.get?_freshId hroom
  cases hcurrent : h.view.current with
  | none =>
      have hc : h.view.reconciler.classify args = .newPage := by
        rw [Reconciler.classify, hr.previous, hcurrent]
        rfl
      obtain ⟨actions, w, k₂, hreaches, hmoves, hpaths, hclosed, hstopped, hidle, hdisplayed⟩ :=
        hj.opens_new hr.pending hnew.resolve hc
      have hcreated := hr.created hroom hk hblank hfresh hreaches
        (by rw [List.filter_append, hmoves]; rfl) hclosed hidle
      refine ⟨k₁, k₂, hk.press, hk.dialogs, hk.resolve.trans (hreaches.dispatch rfl (by decide)),
        hcreated, by simp [hcurrent], fun _ => ?_⟩
      have hempty : h.view.currentArgs = .empty := by rw [View.currentArgs, hcurrent]
      refine ⟨path, args, hempty ▸ hnew.hash, ?_, hreaches.view ▸ hstopped, hnew.id, ?_⟩
      · rw [hreaches.location, List.filterMap_append, hpaths]
        rfl
      · rw [hreaches.view, hdisplayed]
        exact hr.displayed hcurrent
  | some route =>
      have hc := hnew.classify hr.regular hcurrent (by rw [hr.previous, hcurrent]; rfl)
      have hstored : (h.store.execute (.put name ((fields.get? "xml").getD ""))).2.get?
          h.store.freshId =
          some (MemoryStore.entityOf h.store.freshId name ((fields.get? "xml").getD "")) := by
        rw [MemoryStore.execute_put hroom hblank]
        exact (SortedMap.get?_insert ..).trans (if_pos rfl)
      obtain ⟨actions, w, k₂, hreaches, hmoves, hpaths, hshows⟩ :=
        hj.shows_new hr.pending hnew.resolve hc hnext hplain hnew.id hstored
      have hcreated := hr.created hroom hk hblank hfresh hreaches
        (by rw [List.filter_append, hmoves]; rfl) hshows.dialog hshows.pending
      refine ⟨k₁, k₂, hk.press, hk.dialogs, hk.resolve.trans (hreaches.dispatch rfl (by decide)),
        hcreated, ?_, by simp [hcurrent]⟩
      rintro _ hsame
      obtain rfl := Option.some.inj (hcurrent.symm.trans hsame)
      have hargs : h.view.currentArgs = route.args := by rw [View.currentArgs, hcurrent]
      refine ⟨next, args.lower .new, hargs ▸ hvalue, ?_, hreaches.view ▸ hshows.current, ?_, ?_,
        hreaches.view ▸ hshows.displayed, ?_⟩
      · rw [hreaches.location, List.filterMap_append, hpaths]
        rfl
      · rw [RouteArgs.id?_lower, hnew.id]
      · rw [RouteArgs.listKey_lower, hnew.listKey, hargs]
      · have hne : HistoryList.new.key h.view.page ≠ HistoryList.recent.key h.view.page :=
          fun hsame => by cases HistoryList.key_injective hsame
        intro list hlist
        rw [hreaches.view, hshows.history]
        rcases List.mem_pair.1 hlist with rfl | rfl
        · exact congrArg (Option.map _) (History.head?_entries_put_put _ hne ..)
        · exact congrArg (Option.map _) (History.head?_entries_put ..)

/-- On a page whose paths can be told from others, a host that never holds requests back comes to
rest after any operations. If its view tracks no dialog then, the button for a new entity opens one,
and confirming it with a name that is not blank creates the entity, as long as the counter of the
store has room. -/
theorem performAll_creates {page : String} {delay : Nat} {history : History} {view : View History}
    (hpage : Routable page) (hview : View.initial page delay history = .ok view)
    {store : MemoryStore} (hstore : store.Built) {ops : List Operation}
    (hprompt : .setDeferred true ∉ ops)
    {h : Browser} (hops : (Host.initial view store).performAll ops = h)
    (hroom : h.store.HasRoom) (hdialog : h.view.dialog = none) {fields : SortedMap String String}
    {name : String} (hname : fields.get? "name" = some name)
    (hblank : Text.isAllBlank name = false) :
    h.queue = [] ∧ ∃ k₁ k₂, h.press .new = (.ok (), k₁) ∧
      k₁.dialogs = h.dialogs.insert h.view.nextTicket .create ∧
      k₁.resolveDialog h.view.nextTicket (.confirmed fields) = (.ok (), k₂) ∧
      Creates h name ((fields.get? "xml").getD "") k₂ := by
  have hr := Resting.performAll hpage hview hprompt hops
  have hbuilt := (Prompt.initial hpage.colon hview store).built_performAll rfl hstore hprompt
  rw [hops] at hbuilt
  exact ⟨hr.queue, hr.creates hbuilt hroom hdialog hname hblank⟩

/-- From a list that is searched by name, and from nowhere. -/
theorem creates_configs_fx : ∃ (view : View History) (h k₁ k₂ start l₁ l₂ : Browser),
    View.initial "configs" 500 (History.inMemory 10) = .ok view ∧
    (Host.initial view MemoryStore.empty).performAll [.navigate "configs/name:f"] = h ∧
    (Host.initial view MemoryStore.empty).performAll [] = start ∧
    h.view.current.isSome = true ∧ h.press .new = (.ok (), k₁) ∧
    k₁.resolveDialog h.view.nextTicket (.confirmed (.ofList [("name", "fx")])) = (.ok (), k₂) ∧
    Creates h "fx" "" k₂ ∧ k₂.location = some "configs/1/name:f" ∧
    start.view.current = none ∧ start.press .new = (.ok (), l₁) ∧
    l₁.resolveDialog start.view.nextTicket (.confirmed (.ofList [("name", "fx")])) =
      (.ok (), l₂) ∧
    Creates start "fx" "" l₂ ∧ l₂.location = some "configs/1/new:" := by
  obtain ⟨view, hview⟩ : ∃ view, View.initial "configs" 500 (History.inMemory 10) = .ok view :=
    ⟨_, rfl⟩
  have hpage : Routable "configs" := ⟨by decide, 'c', by decide, by decide⟩
  generalize hops : [Operation.navigate "configs/name:f"] = ops
  generalize hfields : SortedMap.ofList [("name", "fx")] = fields
  have hasks : fields.get? "name" = some "fx" ∧ (fields.get? "xml").getD "" = "" := by
    subst hfields
    decide
  have hprompt : .setDeferred true ∉ ops := by simp [← hops]
  generalize hstart : (Host.initial view MemoryStore.empty).performAll [] = start
  generalize hlast : (Host.initial view MemoryStore.empty).performAll ops = h
  have hruns : start.store.HasRoom ∧ h.store.HasRoom ∧
      start.view.dialog = none ∧ start.view.current = none ∧
      h.view.dialog = none ∧ h.view.current.isSome = true ∧
      start.view.hash .loadNewConfigs ((RouteArgs.set .empty RouteArgs.idKey
        start.store.freshId).withFlag .new) = .ok "configs/1/new:" ∧
      h.view.hash .loadConfigs (h.view.currentArgs.set RouteArgs.idKey h.store.freshId) =
        .ok "configs/1/name:f" := by
    subst hlast hstart hops
    obtain rfl := Except.ok.inj hview
    decide +kernel
  obtain ⟨hroom, hroom', hnone, hfirst, hnone', hcurrent, hpath, hpath'⟩ := hruns
  obtain ⟨-, l₁, l₂, hpress, -, hresolve, hcreates⟩ := performAll_creates hpage hview .empty
    List.not_mem_nil hstart hroom hnone hasks.1 (by decide)
  obtain ⟨-, k₁, k₂, hpress', -, hresolve', hcreates'⟩ := performAll_creates hpage hview .empty
    hprompt hlast hroom' hnone' hasks.1 (by decide)
  rw [hasks.2] at hcreates hcreates'
  refine ⟨view, h, k₁, k₂, start, l₁, l₂, hview, hlast, hstart, hcurrent, hpress', hresolve',
    hcreates', ?_, hfirst, hpress, hresolve, hcreates, ?_⟩
  · obtain ⟨route, hroute⟩ := Option.isSome_iff_exists.1 hcurrent
    obtain ⟨path, args, hhash, hlocation, -⟩ := hcreates'.shown route hroute
    rw [View.currentArgs, hroute] at hpath'
    rw [hlocation, Except.ok.inj (hhash.symm.trans hpath')]
  · obtain ⟨path, args, hhash, hlocation, -⟩ := hcreates.stopped hfirst
    rw [hlocation, Except.ok.inj (hhash.symm.trans hpath)]

end Host

end ConfigBrowser
