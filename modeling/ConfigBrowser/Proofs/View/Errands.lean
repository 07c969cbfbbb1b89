import ConfigBrowser.Proofs.Route.Sizes
import ConfigBrowser.Proofs.View.Errors
import ConfigBrowser.Proofs.View.Weights

/-!
# What a Turn Sends For

Most actions only show something. What a turn sends for comes in order: at first it may search the
list, and at last it may ask for an entity or go to another route, but never both. A decision that
asks the store for a change sends for nothing else.

A route that redirects goes to a route with fewer arguments, on every page without a colon in its
name, so that there is an end to it after five routes.

## Main results

* `View.Sound.errands_step`: what the turn of a view sends for that loads nothing.
* `View.Sound.rank_lt_of_navigate`, `View.Sound.rank_le`: redirects come to an end.
-/

namespace ConfigBrowser

namespace Action

/-- Does an action matter for the rows of the list, or for what happens next? -/
def matters : Action → Bool
  | navigate _ | store .. | replaceList _ => true
  | _ => false

/-- The rows that an action shows in the list. -/
def rows? : Action → Option (List EntitySummary)
  | replaceList rows => some rows
  | _ => none

section

variable {α : Type} {f : Action → Option α}

/-- What is picked from actions that matter is picked from all of them. -/
theorem filterMap_filter_matters (h : ∀ a, a.matters = false → f a = none)
    (actions : List Action) : (actions.filter matters).filterMap f = actions.filterMap f := by
  rw [List.filterMap_filter]
  refine congrArg (actions.filterMap ·) (funext fun a => ?_)
  cases ha : a.matters with
  | true => rfl
  | false => exact (h a ha).symm

end

/-- Rows are shown by actions that matter. -/
theorem filterMap_rows?_filter_matters (actions : List Action) :
    (actions.filter matters).filterMap rows? = actions.filterMap rows? :=
  filterMap_filter_matters (fun a ha => by cases a <;> first | rfl | cases ha) actions

/-- Paths are gone to by actions that matter. -/
theorem filterMap_path?_filter_matters (actions : List Action) :
    (actions.filter matters).filterMap path? = actions.filterMap path? :=
  filterMap_filter_matters (fun a ha => by cases a <;> first | rfl | cases ha) actions

end Action

namespace View

variable {η : Type}

/-! ### Errands -/

/-- The search of a turn, if it makes one: the view waits for that search from then on. -/
inductive Searches (v w : View η) : List Action → Prop where
  | none (hsearch : w.latestSearch = v.latestSearch) : Searches v w []
  | one {ticket : Ticket} {query : SearchQuery} (hsearch : w.latestSearch = some ticket) :
      Searches v w [.store ticket (.search query)]

/-- What a turn sends for at last: nothing, an entity, which the view waits for from then on, or
another route. -/
inductive Aims (w : View η) : List Action → Option String → Prop where
  | stay (hpending : w.pending = none) : Aims w [] none
  | ask {p : PendingDetail} {id : String} (hpending : w.pending = some p) :
      Aims w [.store p.ticket (.get id)] none
  | lead {path : String} (hpending : w.pending = none) : Aims w [.navigate path] (some path)

/-- What a turn sends for, and the route that it goes to. -/
inductive Errands (v : View η) (actions : List Action) (w : View η) (next : Option String) :
    Prop where
  | intro {searches aims : List Action}
      (hactions : actions.filter Action.matters = searches ++ aims)
      (hsearches : v.Searches w searches) (haims : w.Aims aims next)

/-- A turn that sends for a change in the store, and nothing else. -/
structure Sends (v : View η) (actions : List Action) (w : View η) (r : StoreRequest) : Prop where
  actions : actions.filter Action.matters = [.store v.nextTicket r]
  pending : w.pending = v.pending
  latestSearch : w.latestSearch = v.latestSearch
  waits : w.ownsMutation v.nextTicket = true

section

variable {v w : View η} {actions : List Action} {next : Option String}

/-- A turn that sends for nothing. -/
theorem Errands.nothing (hactions : actions.filter Action.matters = [])
    (hsearch : w.latestSearch = v.latestSearch) (hpending : w.pending = none) :
    v.Errands actions w none :=
  .intro hactions (.none hsearch) (.stay hpending)

section

variable (h : v.Errands actions w next)
include h

/-- A turn reads from the store. -/
theorem Errands.reads {ticket : Ticket} {r : StoreRequest} (ha : .store ticket r ∈ actions) :
    r.reads = true := by
  obtain ⟨hactions, hsearches, haims⟩ := h
  have hmem : .store ticket r ∈ actions.filter Action.matters := List.mem_filter.2 ⟨ha, rfl⟩
  rw [hactions] at hmem
  rcases List.mem_append.1 hmem with hmem | hmem
  · cases hsearches with
    | none => cases hmem
    | one =>
        obtain ⟨-, rfl⟩ := Action.store.inj (List.mem_singleton.1 hmem)
        rfl
  · cases haims with
    | stay => cases hmem
    | ask =>
        obtain ⟨-, rfl⟩ := Action.store.inj (List.mem_singleton.1 hmem)
        rfl
    | lead => cases List.mem_singleton.1 hmem

/-- A turn goes to the route that it is said to. -/
theorem Errands.paths : actions.filterMap Action.path? = next.toList := by
  obtain ⟨hactions, hsearches, haims⟩ := h
  rw [← Action.filterMap_path?_filter_matters, hactions, List.filterMap_append]
  cases hsearches <;> cases haims <;> rfl

/-- A path that a turn goes to next is among its actions. -/
theorem Errands.navigate_mem {path : String} (hpath : path ∈ next) : .navigate path ∈ actions := by
  have hmem : path ∈ actions.filterMap Action.path? := h.paths ▸ Option.mem_toList.2 hpath
  obtain ⟨a, ha, heq⟩ := List.mem_filterMap.1 hmem
  cases a with
  | navigate other => exact Option.some.inj heq ▸ ha
  | _ => cases heq

/-- A turn shows no rows. -/
theorem Errands.rows : actions.filterMap Action.rows? = [] := by
  obtain ⟨hactions, hsearches, haims⟩ := h
  rw [← Action.filterMap_rows?_filter_matters, hactions, List.filterMap_append]
  cases hsearches <;> cases haims <;> rfl

end

/-- A turn that sends for a change shows no rows. -/
theorem Sends.rows {r : StoreRequest} (h : v.Sends actions w r) :
    actions.filterMap Action.rows? = [] := by
  rw [← Action.filterMap_rows?_filter_matters, h.actions]
  rfl

/-- A turn that goes to another route at once. -/
theorem Errands.lead {path : String} (hactions : actions.filter Action.matters = [.navigate path])
    (hsearch : w.latestSearch = v.latestSearch) (hpending : w.pending = none) :
    v.Errands actions w (some path) :=
  .intro hactions (.none hsearch) (.lead hpending)

end

/-- Searching is a matter of the search that the views wait for. -/
theorem Searches.congr {v v' w w' : View η} {searches : List Action} (h : v.Searches w searches)
    (hv : v'.latestSearch = v.latestSearch) (hw : w'.latestSearch = w.latestSearch) :
    v'.Searches w' searches := by
  cases h with
  | none hsearch => exact .none (hw.trans (hsearch.trans hv.symm))
  | one hsearch => exact .one (hw.trans hsearch)

/-- What is sent for at last is a matter of the request under way. -/
theorem Aims.congr {w w' : View η} {aims : List Action} {next : Option String}
    (h : w.Aims aims next) (hw : w'.pending = w.pending) : w'.Aims aims next := by
  cases h with
  | stay hpending => exact .stay (hw.trans hpending)
  | ask hpending => exact .ask (hw.trans hpending)
  | lead hpending => exact .lead (hw.trans hpending)

/-! ### Routes -/

/-- Showing buttons sends for nothing. -/
@[simp] theorem filter_matters_toolbarActions (v : View η) (mode : ToolbarMode) :
    (v.toolbarActions mode).filter Action.matters = [] := by
  rw [toolbarActions]
  split <;> rfl

/-- Dropping the request under way sends for nothing. -/
@[simp] theorem filter_matters_abandonActions (v : View η) :
    v.abandonActions.filter Action.matters = [] := by
  rw [abandonActions]
  split <;> rfl

/-- Asking for an entity sends for that entity alone. -/
@[simp] theorem filter_matters_askActions (v : View η) (id : String) :
    (v.askActions id).filter Action.matters = [.store v.nextTicket (.get id)] := by
  rw [askActions]
  cases v.pending <;> rfl

/-- Entering a route sends for nothing. -/
@[simp] theorem filter_matters_enterActions (v : View η) (args : RouteArgs) :
    (v.enterActions args).filter Action.matters = [] := by
  rw [enterActions, List.filter_append, filter_matters_toolbarActions]
  split
  · exact v.filter_matters_abandonActions
  · rfl

/-- Showing the list searches it at most. -/
theorem searches_listActions (v : View η) (args : RouteArgs) :
    v.Searches (v.listed args) ((v.listActions args).filter Action.matters) := by
  rw [listActions, listed]
  cases v.reconciler.classify args with
  | newPage => exact .one rfl
  | continuation => exact .none rfl

/-- Showing the list with its filters searches it at most. -/
theorem searches_filterActions (v : View η) (args : RouteArgs) :
    v.Searches (v.filterListed args) ((v.filterActions args).filter Action.matters) := by
  rw [filterActions, filterListed]
  cases v.reconciler.classify args with
  | newPage => exact (v.filtering.searches_listActions args).congr rfl rfl
  | continuation =>
      cases v.filtered with
      | true => exact .none rfl
      | false => exact .one rfl

section Handlers

variable {v w : View η} {args : RouteArgs} {actions : List Action}

/-- A route with a flag searches the list and may go to the route without it. -/
theorem Sound.errands_loadTransient (hv : v.Sound) (hpending : v.pending = none) {flag : Flag}
    (hid : args.id?.isSome = true) (hturn : v.loadTransient args flag = .done actions w) :
    ∃ next, v.Errands actions w next := by
  cases hc : v.reconciler.classify args with
  | newPage =>
      rw [loadTransient_eq_of_newPage v flag hc] at hturn
      obtain ⟨⟨rfl⟩, rfl⟩ := Turn.mk.inj hturn
      refine ⟨none, .intro ?_ ((v.searches_listActions args).congr rfl rfl) (.stay rfl)⟩
      simp
  | continuation =>
      have hlower : (args.lower flag).id?.isSome = true := by rwa [RouteArgs.id?_lower]
      obtain ⟨path, hpath⟩ := hv.exists_hash_loadConfigs hlower
      rw [loadTransient_eq_of_continuation v hc hpath] at hturn
      obtain ⟨⟨rfl⟩, rfl⟩ := Turn.mk.inj hturn
      exact ⟨some path, .intro rfl (.one rfl) (.lead hpending)⟩

variable [HistoryStore η]

/-- What a route sends for. -/
theorem Sound.errands_handle (hv : v.Sound) (hpending : v.pending = none) {h : Handler}
    (ha : h.Admits args) (hturn : v.handle args h = .done actions w) :
    ∃ next, v.Errands actions w next := by
  cases h with
  | load =>
      rw [handle, load_eq v (ha.id?_eq_none (by decide))] at hturn
      obtain ⟨⟨rfl⟩, rfl⟩ := Turn.mk.inj hturn
      refine ⟨none, .intro ?_ ((v.searches_listActions args).congr rfl rfl) (.stay rfl)⟩
      simp [historyAction, Action.matters]
  | loadFilter =>
      obtain ⟨path, hpath⟩ := hv.exists_hash_unfiltered args
      rw [handle, loadFilter_eq v hpath] at hturn
      obtain ⟨⟨rfl⟩, rfl⟩ := Turn.mk.inj hturn
      obtain ⟨-, -, -, hkept, -⟩ := v.filterListed_spec args
      refine ⟨some path, .intro ?_ (v.searches_filterActions args) (.lead (hkept.trans hpending))⟩
      rw [List.filter_append]
      rfl
  | loadDelete =>
      obtain ⟨path, hpath⟩ := hv.exists_hash_load
      rw [handle, loadDelete_eq v hpath] at hturn
      obtain ⟨⟨rfl⟩, rfl⟩ := Turn.mk.inj hturn
      exact ⟨some path, .intro rfl (.one rfl) (.lead hpending)⟩
  | loadConfigs =>
      obtain ⟨id, hid⟩ := ha.exists_id rfl
      rw [handle, loadConfigs_eq v hid] at hturn
      obtain ⟨⟨rfl⟩, rfl⟩ := Turn.mk.inj hturn
      have haims : ((v.listed args).asked id args).Aims
          [.store (v.listed args).nextTicket (.get id)] none :=
        .ask (p := ⟨_, args, (v.listed args).isEditing id, false⟩) rfl
      refine ⟨none, .intro ?_ ((v.searches_listActions args).congr rfl rfl) haims⟩
      simp
  | loadNewConfigs =>
      obtain ⟨id, hid⟩ := ha.exists_id rfl
      exact hv.errands_loadTransient hpending (by rw [hid]; rfl) hturn
  | loadEditConfigs =>
      obtain ⟨id, hid⟩ := ha.exists_id rfl
      exact hv.errands_loadTransient hpending (by rw [hid]; rfl) hturn

/-- What a route sends for when nothing is loading. -/
theorem Sound.errands_routeChanged (hv : v.Sound) (hpending : v.pending = none) {now : Int}
    {path : String} (hturn : v.step now (.routeChanged path) = .done actions w) :
    ∃ next, v.Errands actions w next := by
  cases hresolve : v.table.resolve path with
  | error err =>
      rw [step_routeChanged_of_error hresolve] at hturn
      obtain ⟨⟨rfl⟩, rfl⟩ := Turn.mk.inj hturn
      exact ⟨none, .nothing rfl rfl hpending⟩
  | ok route =>
      obtain ⟨h, args⟩ := route
      have ha : h.Admits args := admits_of_resolve hv.colon hv.table hresolve
      have hentered : (v.entered path h args).pending = none := by
        rw [entered, hpending]
        exact ite_self none
      obtain ⟨done, u, hhandle, -⟩ := (hv.of_entered ha path).exists_handles ha
      obtain ⟨next, hdone, hsearches, haims⟩ :=
        (hv.of_entered ha path).errands_handle hentered ha hhandle
      rw [View.step, onRouteChanged, hresolve] at hturn
      simp only [enterRoute_eq] at hturn
      rw [Turn.done_andThen hhandle] at hturn
      obtain ⟨⟨rfl⟩, rfl⟩ := Turn.mk.inj hturn
      refine ⟨next, .intro ?_ (hsearches.congr rfl rfl) haims⟩
      rw [List.filter_append, hdone, ← enterActions, filter_matters_enterActions, List.nil_append]

/-! ### Other events -/

omit [HistoryStore η] in
/-- A redirect that does not fail goes to another route and leaves the view as it is. -/
theorem eq_of_redirect {u : View η} {h : Handler} (hturn : u.redirect h args = .done actions w) :
    ∃ path, actions = [.navigate path] ∧ w = u := by
  rw [redirect] at hturn
  split at hturn
  · obtain ⟨⟨rfl⟩, rfl⟩ := Turn.mk.inj hturn
    exact ⟨_, rfl, rfl⟩
  · cases hturn

/-- The reply to the request under way is handled as that. -/
theorem step_of_pending {p : PendingDetail} (hpending : v.pending = some p) (now : Int)
    (reply : StoreReply) :
    v.step now (.storeReplied p.ticket reply) = v.onDetailReply now reply := by
  rw [step, onStoreReplied, if_pos (ownsDetail_iff_pending.2 ⟨p, hpending, rfl⟩)]

/-- The reply to the request under way sends for nothing. -/
theorem Sound.matters_onDetailReply (hv : v.Sound) (hpending : v.pending.isSome = true) (now : Int)
    (reply : StoreReply) : ∃ actions w, v.onDetailReply now reply = .done actions w ∧
      actions.filter Action.matters = [] ∧ w.pending = none ∧ w.latestSearch = v.latestSearch ∧
      w.dialog = v.dialog := by
  obtain ⟨p, hp⟩ := Option.isSome_iff_exists.1 hpending
  rcases hv.onDetailReply_cases hp now reply with
    ⟨e, history, favorited, rfl, hturn⟩ | ⟨text, -, hturn⟩
  · exact ⟨_, _, hturn, rfl, rfl, rfl, rfl⟩
  · exact ⟨_, _, hturn, rfl, rfl, rfl, rfl⟩

/-- What the turn of a view sends for that loads and searches nothing. -/
theorem Sound.errands_step (hv : v.Sound) (hpending : v.pending = none)
    (hsearch : v.latestSearch = none) {now : Int} {e : Event}
    (hturn : v.step now e = .done actions w) :
    (∃ next, v.Errands actions w next) ∨
      ∃ dialog decision r, e = .dialogResolved dialog decision ∧ v.Sends actions w r := by
  have houtcome := v.outcome_step now e
  generalize hstep : v.step now e = t at houtcome hturn
  cases houtcome with
  | ignored =>
      obtain ⟨⟨rfl⟩, rfl⟩ := Turn.mk.inj hturn
      exact .inl ⟨none, .nothing rfl rfl hpending⟩
  | route => exact .inl (hv.errands_routeChanged hpending (hstep.trans hturn))
  | escalated hp => cases hpending.symm.trans hp
  | answered hp => cases hpending.symm.trans hp
  | listed hs => cases hsearch.symm.trans hs
  | led =>
      obtain ⟨path, rfl, rfl⟩ := eq_of_redirect hturn
      exact .inl ⟨some path, .lead rfl rfl hpending⟩
  | @favored changed =>
      cases changed with
      | error err => cases hturn
      | ok favorited =>
          obtain ⟨⟨rfl⟩, rfl⟩ := Turn.mk.inj hturn
          exact .inl ⟨none, .nothing rfl rfl hpending⟩
  | opened | closed | rearmed | refused =>
      obtain ⟨⟨rfl⟩, rfl⟩ := Turn.mk.inj hturn
      exact .inl ⟨none, .nothing rfl rfl hpending⟩
  | creates | deletes =>
      obtain ⟨⟨rfl⟩, rfl⟩ := Turn.mk.inj hturn
      exact .inr ⟨_, _, _, rfl, rfl, rfl, rfl, by simp [ownsMutation]⟩
  | created =>
      obtain ⟨⟨rfl⟩, rfl⟩ := Turn.mk.inj hturn
      exact .inl ⟨_, .lead rfl rfl hpending⟩
  | lost => cases hturn
  | deleted =>
      obtain ⟨path, rfl, rfl⟩ := eq_of_redirect hturn
      exact .inl ⟨some path, .lead rfl rfl hpending⟩
  | reset hparts =>
      obtain ⟨⟨rfl⟩, rfl⟩ := Turn.mk.inj hturn
      change v.onSessionReset = _ at hstep
      rw [onSessionReset_eq] at hstep
      split at hstep
      · obtain ⟨⟨rfl⟩, rfl⟩ := Turn.mk.inj hstep
        exact .inl ⟨none, .intro rfl (.one rfl) (.stay hpending)⟩
      · obtain ⟨⟨rfl⟩, rfl⟩ := Turn.mk.inj hstep
        exact .inl ⟨none, .nothing rfl rfl hpending⟩

/-- A dialog begins to wait for a change only in a turn that sends for one. -/
theorem Errands.awaitsChange_eq_false {next : Option String} (h : v.Errands actions w next)
    {now : Int} {e : Event} (hturn : v.step now e = .done actions w)
    (hquiet : v.awaitsChange = false) : w.awaitsChange = false := by
  by_contra hwaits
  obtain ⟨ticket, howned⟩ := awaitsChange_iff.1 (Bool.not_eq_false _ ▸ hwaits)
  have hview : (v.step now e).view = w := congrArg Turn.view hturn
  rw [← hview] at howned
  rcases ownsMutation_step howned with hold | ⟨-, dialog, decision, rfl⟩
  · rw [awaitsChange_iff.2 ⟨ticket, hold⟩] at hquiet
    cases hquiet
  · rw [hview] at howned
    have houtcome := v.outcome_onDialogResolved dialog decision
    have hstep : v.onDialogResolved dialog decision = .done actions w := hturn
    generalize v.onDialogResolved dialog decision = t at houtcome hstep
    cases houtcome with
    | ignored =>
        obtain ⟨-, rfl⟩ := Turn.mk.inj hstep
        rw [awaitsChange_iff.2 ⟨ticket, howned⟩] at hquiet
        cases hquiet
    | led hto => cases hto
    | closed =>
        obtain ⟨-, rfl⟩ := Turn.mk.inj hstep
        simp [ownsMutation] at howned
    | creates =>
        obtain ⟨⟨rfl⟩, rfl⟩ := Turn.mk.inj hstep
        cases h.reads List.mem_cons_self
    | deletes =>
        obtain ⟨⟨rfl⟩, rfl⟩ := Turn.mk.inj hstep
        cases h.reads (List.mem_cons_of_mem _ List.mem_cons_self)

end Handlers

/-! ### Redirects come to an end -/

/-- A route redirects with fewer arguments: the flag is gone. -/
theorem size_lt_of_redirectTo {v : View η} {h h' : Handler} {args args' : RouteArgs}
    (ha : h.Admits args) (hto : v.redirectTo args h = some (h', args')) :
    args'.size < args.size := by
  have hraised : ∀ flag, h.flag? = some flag → ∃ value, args.get? flag.key = some value :=
    fun flag hflag => Option.isSome_iff_exists.1 (ha.flag flag hflag)
  have hlower : ∀ flag, h.flag? = some flag → (args.lower flag).size < args.size :=
    fun flag hflag => SortedMap.size_erase_lt (hraised flag hflag).choose_spec
  have htransient : ∀ flag, h.flag? = some flag →
      v.transientTo args flag = some (h', args') → args'.size < args.size := by
    intro flag hflag hto
    rw [transientTo] at hto
    split at hto
    · cases hto
    · obtain ⟨rfl, rfl⟩ := Prod.mk.inj (Option.some.inj hto)
      exact hlower flag hflag
  cases h with
  | load | loadConfigs => cases hto
  | loadFilter =>
      obtain ⟨rfl, rfl⟩ := Prod.mk.inj (Option.some.inj hto)
      exact hlower .filter rfl
  | loadDelete =>
      obtain ⟨rfl, rfl⟩ := Prod.mk.inj (Option.some.inj hto)
      obtain ⟨value, hvalue⟩ := hraised .deleted rfl
      exact SortedMap.size_filterKeys_lt hvalue (by decide)
  | loadNewConfigs => exact htransient .new rfl hto
  | loadEditConfigs => exact htransient .edit rfl hto

/-- The number of arguments of a route. -/
def rank (v : View η) (path : String) : Nat :=
  match v.table.resolve path with
  | .ok (_, args) => args.size
  | .error _ => 0

section Rank

variable {v : View η} (hv : v.Sound)
include hv

/-- No route has a rank above four. -/
theorem Sound.rank_le (path : String) : v.rank path ≤ 4 := by
  rw [rank]
  split
  · next h args hresolve => exact (admits_of_resolve hv.colon hv.table hresolve).size_le
  · exact Nat.zero_le 4

variable [HistoryStore η]

/-- Ranks stay the same. -/
theorem Sound.rank_step (now : Int) (e : Event) (path : String) :
    (v.step now e).view.rank path = v.rank path := by
  rw [rank, rank, hv.table_step]

/-- A route redirects to one with fewer arguments. -/
theorem Sound.rank_lt_of_navigate {now : Int} {path next : String}
    (ha : .navigate next ∈ (v.step now (.routeChanged path)).emitted) :
    v.rank next < v.rank path := by
  obtain ⟨h', args', hto, hhash⟩ := hv.leadsTo_destination ha next rfl
  rw [destination] at hto
  cases hresolve : v.table.resolve path with
  | error err => simp [hresolve] at hto
  | ok route =>
      obtain ⟨h, args⟩ := route
      rw [hresolve] at hto
      have hless : args'.size < args.size :=
        size_lt_of_redirectTo (admits_of_resolve hv.colon hv.table hresolve) hto
      rw [rank, rank, hresolve]
      split
      · next h'' args'' hnext =>
        exact (size_le_of_resolve_hash hv.colon hv.table hhash hnext).trans_lt hless
      · exact (Nat.zero_le _).trans_lt hless

end Rank

/-! ### Views in order -/

/-- What is known of a view on a page without a colon in its name, with a history in memory. -/
structure Orderly (v : View History) : Prop where
  sound : v.Sound
  file : v.history.file = none
  issued : ∀ ticket ∈ v.awaited, ticket.number ≤ v.lastTicket
  nodup : v.awaited.Nodup
  displayed : ∀ entity args, v.displayed = some (entity, args) → args.id?.isSome = true

namespace Orderly

/-- A new view without a history file is orderly. -/
theorem initial {page : String} {delay : Nat} {history : History} {v : View History}
    (hpage : ':' ∉ page.toList) (hfile : history.file = none)
    (hv : View.initial page delay history = .ok v) : v.Orderly := by
  have hsound := Sound.initial hpage hv
  have hnone := awaited_initial hv
  obtain ⟨table, -, rfl⟩ := initial_eq_ok_iff.1 hv
  exact ⟨hsound, hfile, by simp [hnone], by simp [hnone], by simp⟩

variable {v : View History} (hv : v.Orderly)
include hv

/-- An orderly view stays orderly. -/
theorem step (now : Int) (e : Event) : (v.step now e).view.Orderly where
  sound := hv.sound.step now e
  file := History.file_of_changed hv.file (v.changed_step now e)
  issued := (v.advances_step now e).issued hv.issued
  nodup := (v.advances_step now e).nodup hv.issued hv.nodup
  displayed _ _ := hv.sound.displayed_step now e hv.displayed

/-- Only a new entity with an empty id makes an event fail. -/
theorem exists_done {e : Event} (he : ∀ ticket, e ≠ .storeReplied ticket (.created ""))
    (now : Int) : ∃ actions w, v.step now e = .done actions w := by
  cases hanswer : (v.step now e).answer with
  | error err =>
      obtain ⟨ticket, -, -, hcreated, -⟩ := hv.sound.created_empty_of_error
        (History.writable_of_file_eq_none hv.file) hv.displayed hanswer
      exact absurd hcreated (he ticket)
  | ok actions => exact ⟨actions, _, congrArg (Turn.mk · (v.step now e).view) hanswer⟩

/-- The listing that answers the last search shows its rows. -/
theorem step_listing {ticket : Ticket} (hsearch : v.latestSearch = some ticket) (now : Int)
    (rows : List EntitySummary) :
    v.step now (.storeReplied ticket (.listing rows)) =
      .done [.replaceList rows] { v with latestSearch := none } := by
  have howned : v.ownsSearch ticket = true := decide_eq_true hsearch
  have hdetail : ¬ v.ownsDetail ticket = true := by
    intro hdetail
    obtain ⟨p, hpending, rfl⟩ := ownsDetail_iff_pending.1 hdetail
    have hnodup := hv.nodup
    rw [awaited, hpending, hsearch] at hnodup
    simp at hnodup
  rw [View.step, onStoreReplied, if_neg hdetail, if_pos howned]
  rfl

end Orderly

end View

end ConfigBrowser
