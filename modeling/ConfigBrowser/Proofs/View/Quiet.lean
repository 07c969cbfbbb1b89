import ConfigBrowser.Proofs.View.Handlers

/-!
# Quiet Turns

What actions ask for, and the turns that ask for little. They leave the memory of navigations, the
current route and the request under way as they are, they neither search the list nor ask for an
entity nor show one, and if they navigate then to a given destination. Where that is, for a
decision, a timer, a button or a reply, the view and the event alone decide.

## Main results

* `View.QuietTurn.redirect`: a navigation is quiet.
* `View.onSessionReset_eq`: what a reset does.
-/

namespace ConfigBrowser

/-! ### What actions ask for -/

namespace Action

/-- The request for an entity: its ticket and the id. -/
def get? : Action → Option (Ticket × String)
  | store ticket (.get id) => some (ticket, id)
  | _ => none

/-- The name and the type that the list is searched for. -/
def search? : Action → Option (Option String × Option String)
  | store _ (.search query) => some (query.name, query.kind)
  | _ => none

/-- The path of a navigation. -/
def path? : Action → Option String
  | navigate path => some path
  | _ => none

/-- Is it an entity that is shown? -/
def showsEntity : Action → Bool
  | render .detail _ => true
  | _ => false

/-- Entities are shown by rendering the template of the detail pane. -/
theorem showsEntity_iff {a : Action} : a.showsEntity = true ↔ ∃ data, a = render .detail data := by
  constructor
  · intro h
    rw [showsEntity.eq_def] at h
    split at h
    · next data => exact ⟨data, rfl⟩
    · simp at h
  · rintro ⟨data, rfl⟩
    rfl

/-- What actions ask for: the searches of the list, the requests for an entity and the paths to go
to, each in order. No entity is shown. -/
structure Asks (actions : List Action) (searches : List (Option String × Option String))
    (gets : List (Ticket × String)) (paths : List String) : Prop where
  searches : actions.filterMap search? = searches
  gets : actions.filterMap get? = gets
  paths : actions.filterMap path? = paths
  shows : actions.all fun a => !a.showsEntity

/-- What actions ask for in order is asked for by them together. -/
theorem Asks.append {first second : List Action} {s s' : List (Option String × Option String)}
    {g g' : List (Ticket × String)} {p p' : List String} (h : Asks first s g p)
    (h' : Asks second s' g' p') : Asks (first ++ second) (s ++ s') (g ++ g') (p ++ p') where
  searches := by rw [List.filterMap_append, h.searches, h'.searches]
  gets := by rw [List.filterMap_append, h.gets, h'.gets]
  paths := by rw [List.filterMap_append, h.paths, h'.paths]
  shows := by rw [List.all_append, h.shows, h'.shows, Bool.and_self]

end Action

/-! ### Where events lead -/

namespace View

variable {η : Type}

/-- Where asking to edit leads. -/
def editDestination (v : View η) : Option (Handler × RouteArgs) :=
  if v.currentArgs.id?.isSome then
    some (.loadEditConfigs, (v.currentArgs.only
      [RouteArgs.idKey, RouteArgs.nameKey, RouteArgs.typeKey]).withFlag .edit)
  else none

/-- Where a button leads. -/
def buttonDestination (v : View η) : ToolbarButton → Option (Handler × RouteArgs)
  | .up => some (.load, v.currentArgs.only [RouteArgs.nameKey, RouteArgs.typeKey])
  | .edit => v.editDestination
  | .new | .delete | .favorites => none

/-- Where a reply of the store leads. -/
def replyDestination (v : View η) : StoreReply → Option (Handler × RouteArgs)
  | .created id => some (.loadNewConfigs, (v.currentArgs.set RouteArgs.idKey id).withFlag .new)
  | .deleted => some (.loadDelete, v.currentArgs.withFlag .deleted)
  | .entity _ | .listing _ | .error _ => none

/-- Where an event other than a route leads, if it navigates. -/
def quietDestination (v : View η) : Event → Option (Handler × RouteArgs)
  | .storeReplied _ reply => v.replyDestination reply
  | .toolbarPressed button => v.buttonDestination button
  | .editRequested => v.editDestination
  | .routeChanged _ | .dialogResolved .. | .timerFired _ | .sessionReset => none

/-- An action that navigates, if at all, to a destination, by the path that its rule writes. -/
def LeadsTo (v : View η) (destination : Option (Handler × RouteArgs)) (a : Action) : Prop :=
  ∀ path, a.path? = some path →
    ∃ h args, destination = some (h, args) ∧ v.hash h args = .ok path

end View

/-! ### Quiet turns -/

/-- What a request for an entity is known by: its ticket and the arguments it was made for. -/
def PendingDetail.request (p : PendingDetail) : Ticket × RouteArgs := (p.ticket, p.args)

/-- Does an action leave the list and the detail pane alone? -/
def Action.Quiet (a : Action) : Prop :=
  a.get? = none ∧ a.search? = none ∧ a.showsEntity = false

namespace View

variable {η : Type}

/-- A view that differs from another one in nothing that has to do with routes: the page, the
memory of navigations, the current route and the request under way are the same. -/
structure Aside (v w : View η) : Prop where
  page : w.page = v.page
  table : w.table = v.table
  reconciler : w.reconciler = v.reconciler
  current : w.current = v.current
  pending : w.pending.map PendingDetail.request = v.pending.map PendingDetail.request

/-- A view does not differ from itself. -/
theorem Aside.refl (v : View η) : v.Aside v := ⟨rfl, rfl, rfl, rfl, rfl⟩

/-- A turn that concerns neither routes nor the list nor the detail pane, and navigates to no other
than the given destination. -/
abbrev QuietTurn (v : View η) (destination : Option (Handler × RouteArgs)) (t : Turn η) : Prop :=
  t.Within v.Aside fun a => a.Quiet ∧ v.LeadsTo destination a

section Quiet

variable {v w : View η} {destination : Option (Handler × RouteArgs)}

/-- A turn whose actions ask for nothing is quiet. -/
theorem QuietTurn.done {actions : List Action} (h : v.Aside w)
    (hasks : Action.Asks actions [] [] []) : v.QuietTurn destination (.done actions w) := by
  refine ⟨h, fun a ha => ⟨⟨?_, ?_, ?_⟩, fun path hpath => ?_⟩⟩
  · exact List.filterMap_eq_nil_iff.1 hasks.gets a ha
  · exact List.filterMap_eq_nil_iff.1 hasks.searches a ha
  · simpa using List.all_eq_true.1 hasks.shows a ha
  · rw [List.filterMap_eq_nil_iff.1 hasks.paths a ha] at hpath
    simp at hpath

/-- Going to another route is quiet. -/
theorem QuietTurn.redirect (h : v.Aside w) (handler : Handler) (args : RouteArgs) :
    v.QuietTurn (some (handler, args)) (w.redirect handler args) := by
  rw [View.redirect]
  split
  · next path hpath =>
    refine ⟨h, fun a ha => ?_⟩
    obtain rfl := List.mem_singleton.1 ha
    refine ⟨⟨rfl, rfl, rfl⟩, ?_⟩
    rintro _ ⟨⟩
    exact ⟨handler, args, rfl, by rw [hash, ← h.table]; exact hpath⟩
  · exact Turn.Within.fail h

end Quiet

/-- Does a reset search the list again? -/
def searchesOnReset (v : View η) : Bool := v.filtered && v.current.isSome

/-- A reset searches the list again if it showed its filters. -/
theorem onSessionReset_eq (v : View η) :
    v.onSessionReset =
      if v.searchesOnReset then { v with filtered := false }.search (v.currentArgs.lower .filter)
      else .done [] { v with filtered := false } := by
  simp only [onSessionReset, searchesOnReset, Bool.and_eq_true]
  rfl

/-- What a view knows but the filter and its searches stays the same at a reset. -/
theorem aside_onSessionReset (v : View η) : v.Aside v.onSessionReset.view := by
  rw [onSessionReset_eq]
  split <;> exact ⟨rfl, rfl, rfl, rfl, rfl⟩

end View

end ConfigBrowser
