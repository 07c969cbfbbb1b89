import ConfigBrowser.Proofs.View.Weights

/-!
# Redirects

A route with a flag gives way to the route without it. The path that the view goes to is read back
as just that: the entity's route if there is an id and the list's otherwise, with all other
arguments, or the list's with the name alone after a deletion. It continues on the page of the
route with the flag, so that the list is not searched once more, and it goes nowhere else.

## Main results

* `Handler.Admits.plainRoute`: the route without the flag is one that a path can resolve to.
* `View.redirectTo_of_redirects`: a route redirects to the route without its flag.
* `View.Sound.reconciler_step`: only routes change the memory of navigations.
* `View.Course.redirect_plain_then_settled`: what the redirect of a route resolves to, and does.
-/

namespace ConfigBrowser

/-! ### Routes without flags -/

/-- Lowering a flag leaves the page. -/
theorem RouteArgs.identity_lower (args : RouteArgs) (flag : Flag) :
    (args.lower flag).identity = args.identity := by
  refine SortedMap.ext_get? fun key => ?_
  rw [identity, identity, SortedMap.get?_filterKeys, SortedMap.get?_filterKeys]
  split
  · next hkept =>
    refine get?_lower ?_
    rintro rfl
    simp [flag.isTransient_key] at hkept
  · rfl

namespace Handler

/-- The arguments without the handler's flag. -/
def unflagged (h : Handler) (args : RouteArgs) : RouteArgs :=
  match h.flag? with
  | some flag => args.lower flag
  | none => args

/-- The route that a route gives way to. It is the entity's if there is an id and the list's
otherwise, with all arguments but the flag. After a deletion it is the list's with the name
alone. -/
def plainRoute (args : RouteArgs) : Handler → Handler × RouteArgs
  | loadDelete => (load, args.only [RouteArgs.nameKey])
  | h => (if args.id?.isSome then loadConfigs else load, h.unflagged args)

/-- Every handler but one has the plain route of its arguments without its flag. -/
theorem plainRoute_of_ne {h : Handler} (hne : h ≠ loadDelete) (args : RouteArgs) :
    h.plainRoute args = (if args.id?.isSome then loadConfigs else load, h.unflagged args) := by
  cases h with
  | loadDelete => exact absurd rfl hne
  | _ => rfl

/-- Plain routes are those of the list and of an entity. -/
theorem plainRoute_handler (h : Handler) (args : RouteArgs) :
    (h.plainRoute args).1 = load ∨ (h.plainRoute args).1 = loadConfigs := by
  by_cases hdelete : h = loadDelete
  · subst hdelete
    exact .inl rfl
  · rw [plainRoute_of_ne hdelete]
    split
    · exact .inr rfl
    · exact .inl rfl

/-- Without its flag, a handler has all other arguments. -/
theorem get?_unflagged (h : Handler) (args : RouteArgs) (key : String) :
    (h.unflagged args).get? key =
      if h.flag?.map Flag.key = some key then none else args.get? key := by
  rw [unflagged]
  cases h.flag? with
  | none => rfl
  | some flag => simp [RouteArgs.lower, RouteArgs.without, SortedMap.get?_erase, eq_comm]

/-- A flag has no part in the identity of a page. -/
theorem identity_unflagged (h : Handler) (args : RouteArgs) :
    (h.unflagged args).identity = args.identity := by
  rw [unflagged]
  cases h.flag? with
  | none => rfl
  | some flag => exact args.identity_lower flag

namespace Admits

variable {h h' : Handler} {args args' : RouteArgs}

/-- A handler without a flag admits some of the arguments that another handler admits, if its
pattern names them, and the id is among them if it has to be. -/
theorem of_part (ha : h.Admits args)
    (hpart : ∀ key value, args'.get? key = some value → args.get? key = some value ∧ key ∈ h'.keys)
    (hflag : h'.flag? = none)
    (hid : h'.requiresId = true → args'.contains RouteArgs.idKey = true) : h'.Admits args' where
  mem_keys key hkey := by
    obtain ⟨value, hget⟩ := Option.isSome_iff_exists.1 hkey
    exact (hpart key value hget).2
  flag flag hsome := by simp [hflag] at hsome
  id id hget := ha.id id (hpart _ id hget).1
  requiresId := hid

/-- The arguments without the flag are arguments of an entity's route. -/
theorem of_get?_unflagged (ha : h.Admits args) {key value : String}
    (hget : (h.unflagged args).get? key = some value) :
    args.get? key = some value ∧ key ∈ loadConfigs.keys := by
  rw [get?_unflagged] at hget
  split at hget
  · simp at hget
  · next hflag =>
    have hmem := ha.mem_keys key (Option.isSome_iff_exists.2 ⟨value, hget⟩)
    have hkeys : ∀ h : Handler, ∀ key ∈ h.keys, h.flag?.map Flag.key ≠ some key →
        key ∈ loadConfigs.keys := by
      intro h
      cases h <;> decide
    exact ⟨hget, hkeys h key hmem hflag⟩

/-- The id is left when the flag goes. -/
theorem get?_id_unflagged (ha : h.Admits args) :
    (h.unflagged args).get? RouteArgs.idKey = args.id? := by
  rw [get?_unflagged, if_neg (by cases h <;> decide), RouteArgs.id?_eq_get? ha.get?_id_ne]

/-- The list's route admits the name of a route. -/
theorem only_name (ha : h.Admits args) : load.Admits (args.only [RouteArgs.nameKey]) := by
  refine ha.of_part (fun key value hget => ?_) rfl (fun hrequires => by cases hrequires)
  rw [RouteArgs.only, SortedMap.get?_filterKeys] at hget
  split at hget
  · next hkept =>
    obtain rfl : key = RouteArgs.nameKey := by simpa using hkept
    exact ⟨hget, by decide⟩
  · simp at hget

/-- The route without the flag is one that a path can resolve to. -/
theorem plainRoute (ha : h.Admits args) : (h.plainRoute args).1.Admits (h.plainRoute args).2 := by
  by_cases hdelete : h = loadDelete
  · subst hdelete
    exact ha.only_name
  rw [plainRoute_of_ne hdelete]
  split
  · next hid =>
    refine ha.of_part (fun key value hget => ha.of_get?_unflagged hget) rfl fun _ => ?_
    rwa [SortedMap.contains, ha.get?_id_unflagged]
  · next hid =>
    refine ha.of_part (fun key value hget => ⟨(ha.of_get?_unflagged hget).1, ?_⟩) rfl
      fun hrequires => by cases hrequires
    -- What is left without an id are arguments of the list.
    have hlist : ∀ key ∈ loadConfigs.keys, key ≠ RouteArgs.idKey → key ∈ load.keys := by decide
    refine hlist key (ha.of_get?_unflagged hget).2 ?_
    rintro rfl
    rw [ha.get?_id_unflagged] at hget
    simp [hget] at hid

/-- The route without the flag is what its path is read back as. -/
theorem canonical_plainRoute (ha : h.Admits args) :
    (h.plainRoute args).1.canonical (h.plainRoute args).2 = (h.plainRoute args).2 := by
  have hplain := ha.plainRoute
  have hflag : (h.plainRoute args).1.flag? = none := by
    rcases h.plainRoute_handler args with hload | hconfigs
    · rw [hload]
      rfl
    · rw [hconfigs]
      rfl
  rw [canonical_eq_bareFlag hplain.mem_keys hplain.get?_id_ne, bareFlag, hflag]

end Admits

end Handler

/-! ### Routes that redirect -/

namespace View

variable {η : Type}

/-- Does a route redirect? The filter and a deletion do, a new entity and an edit unless they open
a new page, and the list and an entity do not. -/
def Redirects (v : View η) (args : RouteArgs) : Handler → Prop
  | .load | .loadConfigs => False
  | .loadFilter | .loadDelete => True
  | .loadNewConfigs | .loadEditConfigs => v.reconciler.classify args = .continuation

instance (v : View η) (args : RouteArgs) : (h : Handler) → Decidable (v.Redirects args h)
  | .load | .loadConfigs => .isFalse id
  | .loadFilter | .loadDelete => .isTrue trivial
  | .loadNewConfigs | .loadEditConfigs =>
    inferInstanceAs (Decidable (v.reconciler.classify args = .continuation))

variable {v : View η} {h : Handler} {args : RouteArgs}

/-- A route that stays leads nowhere. -/
theorem redirectTo_of_not_redirects (hstays : ¬ v.Redirects args h) :
    v.redirectTo args h = none := by
  have htransient : ∀ flag, v.reconciler.classify args ≠ .continuation →
      v.transientTo args flag = none := by
    intro flag hnew
    rw [transientTo]
    cases hc : v.reconciler.classify args with
    | newPage => rfl
    | continuation => exact absurd hc hnew
  cases h with
  | load | loadConfigs => rfl
  | loadFilter | loadDelete => exact absurd trivial hstays
  | loadNewConfigs => exact htransient .new hstays
  | loadEditConfigs => exact htransient .edit hstays

/-- A route redirects to the route without its flag. -/
theorem redirectTo_of_redirects (ha : h.Admits args) (hredirects : v.Redirects args h) :
    v.redirectTo args h = some (h.plainRoute args) := by
  have htransient : ∀ flag, h.requiresId = true → v.reconciler.classify args = .continuation →
      v.transientTo args flag =
        some (if args.id?.isSome then .loadConfigs else .load, args.lower flag) := by
    intro flag hrequires hcontinues
    obtain ⟨id, hid⟩ := ha.exists_id hrequires
    rw [transientTo, hcontinues, hid]
    rfl
  cases h with
  | load | loadConfigs => exact hredirects.elim
  | loadFilter =>
      rw [redirectTo, unfiltered, RouteArgs.id?_lower]
      rfl
  | loadDelete => rfl
  | loadNewConfigs => exact htransient .new rfl hredirects
  | loadEditConfigs => exact htransient .edit rfl hredirects

variable [HistoryStore η]

/-- Only routes that resolve change the memory of navigations. -/
theorem Sound.reconciler_step (hv : v.Sound) {now : Int} {e : Event}
    (hroute : Moment.route? ⟨v, now, e⟩ = none) :
    (v.step now e).view.reconciler = v.reconciler := by
  have hdoes := hv.does now e
  generalize v.step now e = t at hdoes ⊢
  cases hdoes with
  | quiet _ _ _ hturn => exact hturn.view.reconciler
  | unresolved => rfl
  | route hresolve => simp [Moment.route?_of_resolve now hresolve] at hroute
  | answer _ hspec => exact hspec.reconciler
  | reset => exact v.aside_onSessionReset.reconciler

/-- The memory of navigations lasts as long as no route resolves. -/
theorem Course.reconciler_eq {w : View η} {ms : List (Moment η)} (h : Course w ms v)
    (hw : w.Sound) (hroute : ∀ m ∈ ms, m.route? = none) : v.reconciler = w.reconciler := by
  induction h with
  | start => rfl
  | step hcourse now e ih =>
      rw [(hcourse.sound hw).reconciler_step (hroute _ (by simp)),
        ih fun m hm => hroute m (List.mem_append_left _ hm)]

/-- The route without a flag asks for no search and goes nowhere if it continues on the page. -/
theorem Sound.settled (hv : v.Sound) {path : String} (hplain : h = .load ∨ h = .loadConfigs)
    (hresolve : v.table.resolve path = .ok (h, args))
    (hcontinues : v.reconciler.classify args = .continuation) (now : Int) :
    ∃ actions w, v.step now (.routeChanged path) = .done actions w ∧
      actions.filterMap Action.search? = [] ∧ actions.filterMap Action.path? = [] := by
  obtain ⟨actions, w, hstep, hspec⟩ := hv.step_routeChanged hresolve now
  obtain ⟨paths, hasks, hpaths⟩ := hspec.asks
  have hsearches : (v.entered path h args).searchesFor args h = [] := by
    have hlist : (v.entered path h args).listSearch args = [] := by
      have hstays : (v.entered path h args).reconciler.classify args = .continuation := hcontinues
      rw [listSearch, hstays]
    rcases hplain with rfl | rfl <;> exact hlist
  have hnone : paths = [] := by
    have hto : (v.entered path h args).redirectTo args h = none := by
      rcases hplain with rfl | rfl <;> rfl
    rw [hto] at hpaths
    exact List.map_eq_nil_iff.1 hpaths
  exact ⟨actions, w, hstep, hasks.searches.trans hsearches, hasks.paths.trans hnone⟩

omit [HistoryStore η] in
/-- Entering a route leaves the question whether it redirects. -/
theorem redirectTo_entered (v : View η) (path : String) (h : Handler) (args : RouteArgs) :
    (v.entered path h args).redirectTo args h = v.redirectTo args h := rfl

/-- What is known of a view on a page with a plain name holds along every course. -/
theorem Course.regular {start : View η} {ms : List (Moment η)} (h : Course start ms v)
    (hstart : start.Regular) : v.Regular := by
  induction h with
  | start => exact hstart
  | step _ now e ih => exact ih.step now e

omit [HistoryStore η] in
/-- The path to the route without the flag resolves to it. -/
theorem Regular.resolve_plainRoute (hv : v.Regular) (ha : h.Admits args) {next : String}
    (hnext : v.hash (h.plainRoute args).1 (h.plainRoute args).2 = .ok next) :
    v.table.resolve next = .ok (h.plainRoute args) := by
  have hback := resolve_of_hash_of_not_ambiguous hv.routable hv.sound.table hnext
    ha.plainRoute.not_ambiguous
  rwa [ha.canonical_plainRoute] at hback

omit [HistoryStore η] in
/-- A route with a flag that has been handled is continued by the route without it. -/
theorem Handles.classify_plainRoute {path : String} {actions : List Action} {w : View η}
    (hspec : (v.entered path h args).Handles h args actions w) (hdelete : h ≠ .loadDelete) :
    w.reconciler.classify (h.plainRoute args).2 = .continuation := by
  rw [hspec.reconciler, if_neg hdelete, Handler.plainRoute_of_ne hdelete]
  exact if_pos (h.identity_unflagged args).symm

/-- On a page whose paths can be told from others, a route goes elsewhere exactly when it redirects:
then it emits one navigation, which resolves to the route without the flag. Except after a deletion,
that route asks for no search and for no further navigation, however many events other than routes
come in between. -/
theorem Course.redirect_plain_then_settled {page : String} {delay : Nat} {history : η}
    {start : View η} {ms : List (Moment η)} (hpage : Routable page)
    (hstart : View.initial page delay history = .ok start) (hcourse : Course start ms v)
    {path : String} (hresolve : v.table.resolve path = .ok (h, args)) (now : Int) :
    ∃ actions w, v.step now (.routeChanged path) = .done actions w ∧
      (¬ v.Redirects args h → actions.filterMap Action.path? = []) ∧
      (v.Redirects args h → ∃ next, actions.filterMap Action.path? = [next] ∧
        v.table.resolve next = .ok (h.plainRoute args) ∧
        (h ≠ .loadDelete → ∀ between u, Course w between u → (∀ m ∈ between, m.route? = none) →
          ∀ later, ∃ settled x, u.step later (.routeChanged next) = .done settled x ∧
            settled.filterMap Action.search? = [] ∧ settled.filterMap Action.path? = [])) := by
  have hv : v.Regular := hcourse.regular (Regular.initial hpage hstart)
  have ha : h.Admits args := admits_of_resolve hv.sound.colon hv.sound.table hresolve
  obtain ⟨actions, w, hstep, hspec⟩ := hv.sound.step_routeChanged hresolve now
  have hw : w.Sound := hv.sound.of_handles ha hspec
  obtain ⟨paths, hasks, hpaths⟩ := hspec.asks
  rw [redirectTo_entered] at hpaths
  refine ⟨actions, w, hstep, fun hstays => ?_, fun hredirects => ?_⟩
  · rw [redirectTo_of_not_redirects hstays] at hpaths
    rw [hasks.paths, List.map_eq_nil_iff.1 hpaths]
  rw [redirectTo_of_redirects ha hredirects] at hpaths
  obtain ⟨next, rfl, hnext⟩ := List.map_eq_singleton_iff.1 hpaths
  have hplain := hv.resolve_plainRoute ha hnext.symm
  refine ⟨next, hasks.paths, hplain, fun hdelete between u hbetween hquiet later => ?_⟩
  have hu : u.Sound := hbetween.sound hw
  have htable : u.table = v.table := by
    have hpage := hbetween.page hw
    have hthere := hu.table
    rw [hpage, hspec.page] at hthere
    exact Except.ok.inj (hthere.symm.trans hv.sound.table)
  rw [← htable] at hplain
  refine hu.settled (h.plainRoute_handler args) hplain ?_ later
  rw [hbetween.reconciler_eq hw hquiet]
  exact hspec.classify_plainRoute hdelete

/-- The route to edit an entity of the list that is shown redirects to the entity's route, which
asks for no search, also when the view has been entered anew in between. -/
theorem redirect_configs_edit : ∃ (start v w u : View History) (ms between : List (Moment History))
    (args : RouteArgs) (actions : List Action) (next : String),
    View.initial "configs" 500 (History.inMemory 10) = .ok start ∧ Course start ms v ∧
    v.table.resolve "configs/a%2Fb/name:x/edit:now" = .ok (.loadEditConfigs, args) ∧
    v.step 0 (.routeChanged "configs/a%2Fb/name:x/edit:now") = .done actions w ∧
    actions.filterMap Action.path? = [next] ∧
    v.table.resolve next = .ok (.loadConfigs, args.lower .edit) ∧ Course w between u ∧
    ∃ settled x, u.step 0 (.routeChanged next) = .done settled x ∧
      settled.filterMap Action.search? = [] ∧ settled.filterMap Action.path? = [] := by
  obtain ⟨start, hstart⟩ : ∃ start, View.initial "configs" 500 (History.inMemory 10) = .ok start :=
    ⟨_, rfl⟩
  have hcourse := Course.step (.start : Course start [] start) 0 (.routeChanged "configs/name:x")
  generalize hv : (View.step 0 start (.routeChanged "configs/name:x")).view = v at hcourse
  obtain ⟨args, hresolve, hredirects, hid⟩ : ∃ args,
      v.table.resolve "configs/a%2Fb/name:x/edit:now" = .ok (.loadEditConfigs, args) ∧
      v.Redirects args .loadEditConfigs ∧ args.id? = some "a/b" := by
    obtain rfl := Except.ok.inj hstart
    subst hv
    exact ⟨_, rfl, by decide +kernel, by decide +kernel⟩
  obtain ⟨actions, w, hstep, -, hto⟩ := hcourse.redirect_plain_then_settled
    ⟨by decide, 'c', by decide, by decide⟩ hstart hresolve 0
  obtain ⟨next, hnext, hplain, hsettled⟩ := hto hredirects
  rw [Handler.plainRoute_of_ne (by decide), hid] at hplain
  have hreset := Course.step (.start : Course w [] w) 0 .sessionReset
  refine ⟨start, v, w, _, _, _, args, actions, next, hstart, hcourse, hresolve, hstep, hnext,
    hplain, hreset, hsettled (by decide) _ _ hreset ?_ 0⟩
  simp [Moment.route?]

end View

end ConfigBrowser
