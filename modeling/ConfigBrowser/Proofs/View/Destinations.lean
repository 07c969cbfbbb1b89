import ConfigBrowser.History.Lists
import ConfigBrowser.Proofs.View.Course

/-!
# Where the View Navigates

The handler and the arguments that each event navigates to. The path of a navigation is written out
by the rule of the handler, and when the location has changed it comes back as a route. It resolves
to the handler it was written for, with the same id, in every case but one: the store may choose an
id of the form `key:value` for a new entity, and the path to that entity resolves to nothing.

## Main results

* `View.Sound.leadsTo_destination`: what a navigation was written for.
* `View.Course.navigate_resolves_iff`: when the path of a navigation resolves to that.
-/

namespace ConfigBrowser

open Route

/-- A canonical route has the id of its arguments, if the handler's pattern names an id. -/
theorem Handler.id?_canonical (h : Handler) (args : RouteArgs) :
    (h.canonical args).id? = if RouteArgs.idKey ∈ h.keys then args.id? else none := by
  have hflag : h.flag?.map Flag.key ≠ some RouteArgs.idKey := by
    cases h <;> decide
  rw [RouteArgs.id?, get?_canonical, if_neg hflag]
  by_cases hkeys : RouteArgs.idKey ∈ h.keys
  · rw [if_pos hkeys, if_pos rfl, if_pos hkeys, RouteArgs.id?, Option.filter_filter]
    simp
  · rw [if_neg hkeys, if_neg hkeys]
    rfl

/-- Does the event report a new entity whose id has the form `key:value`? -/
def Event.CreatesNamedForm (e : Event) : Prop :=
  ∃ ticket id, e = .storeReplied ticket (.created id) ∧ IsNamedForm id.toList

namespace View

variable {η : Type} [HistoryStore η]

omit [HistoryStore η] in
/-- The handler and the arguments that an event navigates to, if it navigates. -/
def destination (v : View η) : Event → Option (Handler × RouteArgs)
  | .routeChanged path =>
    match v.table.resolve path with
    | .ok (h, args) => v.redirectTo args h
    | .error _ => none
  | e => v.quietDestination e

/-- A navigation leads to the destination of the event, by the path that the rule writes. -/
theorem Sound.leadsTo_destination {v : View η} (hv : v.Sound) {now : Int} {e : Event} {a : Action}
    (ha : a ∈ (v.step now e).emitted) : v.LeadsTo (v.destination e) a := by
  have hnone : ∀ {actions : List Action}, actions.filterMap Action.path? = [] → a ∈ actions →
      v.LeadsTo (v.destination e) a := by
    intro actions hpaths hmem path hpath
    rw [List.filterMap_eq_nil_iff.1 hpaths a hmem] at hpath
    simp at hpath
  have hdoes := hv.does now e
  generalize v.step now e = t at ha hdoes
  cases hdoes with
  | quiet hroute hreset howned hturn =>
      cases e with
      | routeChanged path => exact absurd rfl (hroute path)
      | _ => exact (hturn.emitted a ha).2
  | unresolved hresolve => exact hnone rfl ha
  | @route path h args actions w hresolve hadmits hspec =>
      obtain ⟨paths, hasks, hpaths⟩ := hspec.asks
      intro p hp
      have hmem : p ∈ paths := hasks.paths ▸ List.mem_filterMap.2 ⟨a, ha, hp⟩
      have hok : Except.ok p ∈ paths.map (Except.ok : String → Except Error String) :=
        List.mem_map_of_mem hmem
      rw [hpaths] at hok
      obtain ⟨⟨h', args'⟩, hto, hhash⟩ := List.mem_map.1 hok
      refine ⟨h', args', ?_, hhash⟩
      simp only [destination, hresolve]
      exact Option.mem_toList.1 hto
  | answer howned hspec => exact hnone hspec.paths ha
  | reset =>
      rw [onSessionReset_eq] at ha
      split at ha <;> exact hnone rfl ha

omit [HistoryStore η] in
/-- The id of the current route never has the form `key:value`. -/
theorem Sound.not_isNamedForm_current {v : View η} (hv : v.Sound) {id : String}
    (hid : v.currentArgs.id? = some id) : ¬ IsNamedForm id.toList := by
  rw [currentArgs] at hid
  split at hid
  · next route hroute => exact (hv.current route hroute).not_isNamedForm hid
  · simp [RouteArgs.id?] at hid

omit [HistoryStore η] in
/-- A route redirects with its own id or with none. -/
theorem id?_of_redirectTo {v : View η} {h h' : Handler} {args args' : RouteArgs}
    (hto : v.redirectTo args h = some (h', args')) : args'.id? = none ∨ args'.id? = args.id? := by
  have htransient : ∀ flag, v.transientTo args flag = some (h', args') → args'.id? = args.id? := by
    intro flag hto
    rw [transientTo] at hto
    split at hto
    · simp at hto
    · obtain ⟨-, rfl⟩ := Prod.mk.inj (Option.some.inj hto)
      exact args.id?_lower flag
  cases h with
  | load | loadConfigs => simp [redirectTo] at hto
  | loadFilter =>
      obtain ⟨-, rfl⟩ := Prod.mk.inj (Option.some.inj hto)
      exact .inr (args.id?_lower .filter)
  | loadDelete =>
      obtain ⟨-, rfl⟩ := Prod.mk.inj (Option.some.inj hto)
      exact .inl (by rw [RouteArgs.id?_only, if_neg (by decide)])
  | loadNewConfigs => exact .inr (htransient .new hto)
  | loadEditConfigs => exact .inr (htransient .edit hto)

omit [HistoryStore η] in
/-- No destination has an id of the form `key:value`, unless the store has just chosen one. -/
theorem Sound.not_isNamedForm_destination {v : View η} (hv : v.Sound) {e : Event} {h : Handler}
    {args : RouteArgs} (hto : v.destination e = some (h, args)) (he : ¬ e.CreatesNamedForm)
    {id : String} (hid : args.id? = some id) : ¬ IsNamedForm id.toList := by
  have hedit : v.editDestination = some (h, args) → ¬ IsNamedForm id.toList := by
    intro hto
    rw [editDestination] at hto
    split at hto
    · obtain ⟨-, rfl⟩ := Prod.mk.inj (Option.some.inj hto)
      rw [RouteArgs.id?_withFlag, RouteArgs.id?_only, if_pos (by decide)] at hid
      exact hv.not_isNamedForm_current hid
    · simp at hto
  cases e with
  | routeChanged path =>
      simp only [destination] at hto
      split at hto
      · next route args' hresolve =>
        have ha := admits_of_resolve hv.colon hv.table hresolve
        rcases id?_of_redirectTo hto with hnone | hsame
        · simp [hnone] at hid
        · exact ha.not_isNamedForm (hsame ▸ hid)
      · simp at hto
  | storeReplied ticket reply =>
      cases reply with
      | created new =>
          obtain ⟨-, rfl⟩ := Prod.mk.inj (Option.some.inj hto)
          rw [RouteArgs.id?_withFlag, RouteArgs.id?_set_idKey] at hid
          split at hid
          · simp at hid
          · obtain rfl := Option.some.inj hid
            exact fun hform => he ⟨ticket, new, rfl, hform⟩
      | deleted =>
          obtain ⟨-, rfl⟩ := Prod.mk.inj (Option.some.inj hto)
          rw [RouteArgs.id?_withFlag] at hid
          exact hv.not_isNamedForm_current hid
      | _ => simp [destination, quietDestination, replyDestination] at hto
  | dialogResolved dialog decision => simp [destination, quietDestination] at hto
  | timerFired timer => simp [destination, quietDestination] at hto
  | toolbarPressed button =>
      cases button with
      | up =>
          obtain ⟨-, rfl⟩ := Prod.mk.inj (Option.some.inj hto)
          rw [RouteArgs.id?_only, if_neg (by decide)] at hid
          simp at hid
      | edit => exact hedit hto
      | _ => simp [destination, quietDestination, buttonDestination] at hto
  | editRequested => exact hedit hto
  | sessionReset => simp [destination, quietDestination] at hto

/-- The path of a navigation resolves to the handler it was written for, with the same id if the
handler's pattern names one, unless the store has just created an entity whose id has the form
`key:value`: then it resolves to nothing. -/
theorem Course.navigate_resolves_iff {page : String} {delay : Nat} {history : η} {start v : View η}
    {ms : List (Moment η)} (hpage : Routable page)
    (hstart : View.initial page delay history = .ok start) (h : Course start ms v) {now : Int}
    {e : Event} {path : String} (hnavigate : .navigate path ∈ Moment.emitted ⟨v, now, e⟩) :
    ∃ handler args, v.destination e = some (handler, args) ∧
      v.table.hash handler args = .ok path ∧
      ((∃ bound, v.table.resolve path = .ok (handler, bound) ∧
        bound.id? = if RouteArgs.idKey ∈ handler.keys then args.id? else none) ↔
        ¬ e.CreatesNamedForm) ∧
      (e.CreatesNamedForm → v.table.resolve path = .error (.route path)) := by
  have hsound : start.Sound := Sound.initial hpage.colon hstart
  have hv : v.Sound := h.sound hsound
  have hroutable : Routable v.page := by
    obtain ⟨table, -, rfl⟩ := initial_eq_ok_iff.1 hstart
    rw [h.page hsound]
    exact hpage
  obtain ⟨handler, args, hto, hhash⟩ := hv.leadsTo_destination hnavigate path rfl
  have hbad : e.CreatesNamedForm → v.table.resolve path = .error (.route path) := by
    rintro ⟨ticket, id, rfl, hform⟩
    obtain ⟨rfl, rfl⟩ := Prod.mk.inj (Option.some.inj hto)
    have hne : id ≠ "" := by
      rintro rfl
      obtain ⟨key, value, -, hkey⟩ := hform
      simp at hkey
    refine resolve_of_hash_new hroutable hv.table hhash ?_ hform
    rw [RouteArgs.id?_withFlag, RouteArgs.id?_set_idKey, if_neg hne]
  refine ⟨handler, args, hto, hhash, ⟨?_, fun hgood => ?_⟩, hbad⟩
  · rintro ⟨bound, hresolve, -⟩ hcreates
    simp [hbad hcreates] at hresolve
  · refine ⟨_, resolve_of_hash hroutable hv.table hhash fun id hid => ?_, ?_⟩
    · exact hv.not_isNamedForm_destination hto hgood hid
    · exact handler.id?_canonical args

/-- A new entity with the id `a:1` is navigated to by a path that resolves to nothing. -/
theorem navigate_configs_named_form : ∃ (start v : View History) (ms : List (Moment History)),
    View.initial "configs" 500 (History.inMemory 10) = .ok start ∧ Course start ms v ∧
    .navigate "configs/a:1/new:" ∈
      Moment.emitted ⟨v, 0, .storeReplied ⟨2⟩ (.created "a:1")⟩ ∧
    v.table.resolve "configs/a:1/new:" = .error (.route "configs/a:1/new:") := by
  obtain ⟨start, hstart⟩ : ∃ start, View.initial "configs" 500 (History.inMemory 10) = .ok start :=
    ⟨_, rfl⟩
  have hcourse := Course.step (.step (.start : Course start [] start) 0 (.toolbarPressed .new)) 0
    (.dialogResolved ⟨1⟩ (.confirmed .empty))
  generalize hv : (View.step 0 (View.step 0 start (.toolbarPressed .new)).view
    (.dialogResolved ⟨1⟩ (.confirmed .empty))).view = v at hcourse
  have hnavigate : .navigate "configs/a:1/new:" ∈
      Moment.emitted ⟨v, 0, .storeReplied ⟨2⟩ (.created "a:1")⟩ := by
    obtain rfl := Except.ok.inj hstart
    subst hv
    decide +kernel
  obtain ⟨-, -, -, -, -, hnone⟩ :=
    hcourse.navigate_resolves_iff ⟨by decide, 'c', by decide, by decide⟩ hstart hnavigate
  refine ⟨start, v, _, hstart, hcourse, hnavigate, hnone ⟨⟨2⟩, "a:1", rfl, ['a'], ['1'], ?_, rfl⟩⟩
  decide

end View

end ConfigBrowser
