import ConfigBrowser.History.Lists
import ConfigBrowser.Host.Trace
import ConfigBrowser.Proofs.Host.Operations
import ConfigBrowser.Proofs.View.ListMatch

/-!
# The List of a Host

Whether the list that a host shows was searched for the name and the type of the current route. What
is known of the courses of a view is carried over to the log of its host, whatever its store answers
and in whatever order requests are released.

## Main results

* `Host.Story.list_matches_iff`: when the last search of a host is that of the current route.
-/

namespace ConfigBrowser.Host

variable {σ η : Type}

/-- The name and the type of the last search in the log of a host. -/
def lastSearch? (h : Host σ η) : Option (Option String × Option String) :=
  (h.log.filterMap Action.search?).getLast?

variable [RemoteStore σ] [HistoryStore η]

/-- The log of a fresh host holds the searches of its view. -/
theorem Story.lastSearch?_eq {view : View η} {store : σ} {ms : List (Moment η)} {h : Host σ η}
    (hstory : Story (Host.initial view store) ms h) : h.lastSearch? = lastSearch ms := by
  have hlog : h.log = ms.flatMap Moment.emitted := hstory.log_eq
  rw [lastSearch?, hlog, List.filterMap_flatMap, lastSearch]
  rfl

/-- The list of a host that was fresh: the last search in the log is that of the current route,
unless a deletion was overlooked. -/
theorem Story.list_matches_iff {page : String} (hpage : ':' ∉ page.toList) {delay : Nat}
    {history : η} {view : View η} (hview : View.initial page delay history = .ok view) {store : σ}
    {ms : List (Moment η)} {h : Host σ η} (hstory : Story (Host.initial view store) ms h)
    {route : CurrentRoute} (hroute : h.view.current = some route) :
    ∃ key, h.lastSearch? = some key ∧ (key = route.args.listKey ↔ ¬ Overlooked ms) := by
  rw [hstory.lastSearch?_eq]
  have hsound := View.Sound.initial hpage hview
  obtain ⟨table, -, rfl⟩ := View.initial_eq_ok_iff.1 hview
  exact hstory.course.search_eq_iff hsound rfl rfl hroute

/-- The list stays that of a deletion: the route after it continues on the page before it. -/
theorem list_behind_after_deletion : ∃ (view : View History) (ms : List (Moment History))
    (h : Browser), View.initial "configs" 500 (History.inMemory 10) = .ok view ∧
    Story (Host.initial view MemoryStore.empty) ms h ∧ h.queue = [] ∧
    h.view.current = some ⟨"configs", .load, .empty⟩ ∧
    h.lastSearch? = some (none, some "T") ∧ Overlooked ms := by
  obtain ⟨view, hview⟩ : ∃ view, View.initial "configs" 500 (History.inMemory 10) = .ok view :=
    ⟨_, rfl⟩
  generalize hops : [Operation.navigate "configs", .navigate "configs/deleted:/type:T"] = ops
  have hruns : settles (Host.initial view MemoryStore.empty) ops = true ∧
      (performAll (Host.initial view MemoryStore.empty) ops).view.current =
        some ⟨"configs", .load, .empty⟩ ∧
      (performAll (Host.initial view MemoryStore.empty) ops).lastSearch? =
        some (none, some "T") := by
    subst hops
    obtain rfl := Except.ok.inj hview
    decide +kernel
  obtain ⟨hsettles, hcurrent, hlast⟩ := hruns
  obtain ⟨hstory, hqueue⟩ := Story.start.performAll rfl hsettles
  obtain ⟨key, hkey, hmatch⟩ := hstory.list_matches_iff (by decide) hview hcurrent
  refine ⟨view, _, _, hview, hstory, hqueue, hcurrent, hlast, ?_⟩
  by_contra hnot
  have hsame : (none, some "T") = RouteArgs.listKey .empty := by
    rw [← hmatch.2 hnot]
    exact Option.some.inj (hlast.symm.trans hkey)
  exact absurd hsame (by decide)

end ConfigBrowser.Host
