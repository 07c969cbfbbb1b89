import ConfigBrowser.Proofs.View.Destinations
import ConfigBrowser.Proofs.View.ListMatch
import ConfigBrowser.Proofs.View.Tickets

/-!
# What Events Cause

A host turns the navigations and the requests of the view into further events: a route for a
navigation, a reply for a request. The weight of an event is a bound on the number of events that it
causes in this way, itself included. It depends on the view: a route to an entity weighs less if it
stays on the page, and a reply weighs more if the dialog waits for it.

An event weighs more than all that it causes at once. Where a route redirects, this needs to know
which route comes of the path: the one it was written for, and it stays on the page. A dialog that
is confirmed to create an entity, or to delete one, causes the most, six events in all.

## Main results

* `View.Regular.outweighs`: an event weighs more than all that it causes at once.
* `View.weight_le`: no event weighs more than six.
-/

namespace ConfigBrowser

/-! ### Staying on the page -/

/-- Arguments that paths resolved to are of one page if the list is searched for the same. -/
theorem Handler.Admits.identity_eq {h h' : Handler} {args args' : RouteArgs} (ha : h.Admits args)
    (ha' : h'.Admits args') (hlist : args.listKey = args'.listKey) :
    args.identity = args'.identity := by
  have hkeys : ∀ h : Handler, ∀ key ∈ h.keys, key = RouteArgs.nameKey ∨ key = RouteArgs.typeKey ∨
      key = RouteArgs.idKey ∨ Flag.isTransient key = true := by
    intro h
    cases h <;> decide
  obtain ⟨hname, htype⟩ := Prod.mk.inj hlist
  refine SortedMap.ext_get? fun key => ?_
  rw [RouteArgs.identity, RouteArgs.identity, SortedMap.get?_filterKeys, SortedMap.get?_filterKeys]
  split
  · next hkept =>
    obtain ⟨hid, hflag⟩ : key ≠ RouteArgs.idKey ∧ Flag.isTransient key = false := by
      simpa using hkept
    by_cases hlisted : key = RouteArgs.nameKey ∨ key = RouteArgs.typeKey
    · rcases hlisted with rfl | rfl
      · exact hname
      · exact htype
    · have hnone : ∀ {h : Handler} {args : RouteArgs}, h.Admits args → args.get? key = none := by
        intro h args ha
        by_contra hsome
        have hcontains : args.contains key = true := Option.isSome_iff_ne_none.2 hsome
        rcases hkeys h key (ha.mem_keys key hcontains) with hk | hk | hk | hk
        · exact hlisted (.inl hk)
        · exact hlisted (.inr hk)
        · exact hid hk
        · simp [hflag] at hk
      rw [hnone ha, hnone ha']
  · rfl

/-- The canonical arguments of a handler search the list for the same. -/
theorem Handler.listKey_canonical (h : Handler) (args : RouteArgs) :
    (h.canonical args).listKey = args.listKey := by
  rw [RouteArgs.listKey, RouteArgs.name?, RouteArgs.type?, get?_canonical, get?_canonical]
  cases h <;> rfl

namespace View

variable {η : Type}

/-! ### Weights -/

/-- The most events that a route that resolves causes, itself included. -/
def routeWeight (v : View η) (args : RouteArgs) : Handler → Nat
  | .load => 2
  | .loadConfigs =>
    match v.reconciler.classify args with
    | .newPage => 3
    | .continuation => 2
  | .loadFilter | .loadDelete | .loadNewConfigs | .loadEditConfigs => 4

/-- The most events that an event causes, itself included. -/
def weight (v : View η) : Event → Nat
  | .routeChanged path =>
    match v.table.resolve path with
    | .ok (h, args) => v.routeWeight args h
    | .error _ => 1
  | .storeReplied ticket _ => if v.ownsMutation ticket then 5 else 1
  | .dialogResolved .. => 6
  | .toolbarPressed _ | .editRequested => 5
  | .sessionReset => 2
  | .timerFired _ => 1

/-- A route that resolves causes at most four events, itself included. -/
theorem routeWeight_le (v : View η) (args : RouteArgs) (h : Handler) :
    0 < v.routeWeight args h ∧ v.routeWeight args h ≤ 4 := by
  cases h with
  | loadConfigs =>
      rw [routeWeight]
      split <;> decide
  | _ => simp [routeWeight]

/-- A change of location causes at most four events, itself included. -/
theorem weight_routeChanged_le (v : View η) (path : String) :
    0 < v.weight (.routeChanged path) ∧ v.weight (.routeChanged path) ≤ 4 := by
  rw [weight]
  split
  · exact v.routeWeight_le _ _
  · decide

/-- No event weighs more than six. -/
theorem weight_le (v : View η) (e : Event) : 0 < v.weight e ∧ v.weight e ≤ 6 := by
  cases e with
  | routeChanged path =>
      have := v.weight_routeChanged_le path
      omega
  | storeReplied ticket reply =>
      rw [weight]
      split <;> decide
  | _ => simp [weight]

/-- The most events that an action causes. -/
def actionWeight (v : View η) : Action → Nat
  | .navigate path => v.weight (.routeChanged path)
  | .store _ r => if r.reads then 1 else 5
  | _ => 0

/-- The most events that actions cause. -/
def burden (v : View η) : List Action → Nat
  | [] => 0
  | a :: rest => v.actionWeight a + v.burden rest

/-- The most events that routes cause. -/
def pathsWeight (v : View η) : List String → Nat
  | [] => 0
  | path :: rest => v.weight (.routeChanged path) + v.pathsWeight rest

/-- The most events that events cause, themselves included. -/
def total (v : View η) : List Event → Nat
  | [] => 0
  | e :: rest => v.weight e + v.total rest

/-- Events weigh together what they weigh in parts. -/
theorem total_append (v : View η) (first second : List Event) :
    v.total (first ++ second) = v.total first + v.total second := by
  induction first with
  | nil => exact (Nat.zero_add _).symm
  | cons e rest ih => rw [List.cons_append, total, total, ih, Nat.add_assoc]

/-- Events that weigh the same for two views do so together. -/
theorem total_congr {v w : View η} {events : List Event}
    (h : ∀ e ∈ events, w.weight e = v.weight e) : w.total events = v.total events := by
  induction events with
  | nil => rfl
  | cons e rest ih =>
      rw [total, total, h e List.mem_cons_self, ih fun e he => h e (List.mem_cons_of_mem _ he)]

end View

/-- Does an action cause an event other than the reply to a request that only reads? -/
def Action.isHeavy : Action → Bool
  | .navigate _ => true
  | .store _ r => !r.reads
  | _ => false

/-- Does an action change the store? -/
def Action.changes : Action → Bool
  | .store _ r => !r.reads
  | _ => false

/-- A plain action changes nothing in the store. -/
theorem Action.changes_of_isPlain (a : Action) (h : a.isPlain = true) : a.changes = false := by
  cases a <;> first | rfl | simp [isPlain] at h

namespace View

variable {η : Type}

/-- Actions that change nothing in the store weigh what they ask for. -/
theorem burden_eq {actions : List Action} (v : View η)
    (hreads : ∀ a ∈ actions, a.changes = false) :
    v.burden actions = (actions.filterMap Action.search?).length +
        (actions.filterMap Action.get?).length + v.pathsWeight (actions.filterMap Action.path?) ∧
      actions.countP Action.isHeavy = (actions.filterMap Action.path?).length := by
  induction actions with
  | nil => exact ⟨rfl, rfl⟩
  | cons a rest ih =>
      obtain ⟨hburden, hheavy⟩ := ih fun a ha => hreads a (List.mem_cons_of_mem _ ha)
      have ha := hreads a List.mem_cons_self
      rw [burden, hburden, List.countP_cons, hheavy]
      cases a with
      | navigate path =>
          simp only [List.filterMap_cons, Action.search?, Action.get?, Action.path?, actionWeight,
            pathsWeight, Action.isHeavy, List.length_cons, if_true]
          exact ⟨by omega, trivial⟩
      | store ticket r =>
          cases r with
          | put _ _ | delete _ => cases ha
          | get _ | search _ =>
              simp only [List.filterMap_cons, Action.search?, Action.get?, Action.path?,
                actionWeight, Action.isHeavy, StoreRequest.reads, List.length_cons, if_true,
                Bool.not_true, Bool.false_eq_true, if_false]
              omega
      | _ => exact ⟨Nat.zero_add _, rfl⟩

/-- An action that is heavy has weight. -/
theorem countP_isHeavy_le_burden (v : View η) (actions : List Action) :
    actions.countP Action.isHeavy ≤ v.burden actions := by
  induction actions with
  | nil => exact le_rfl
  | cons a rest ih =>
      have ha : (if a.isHeavy then 1 else 0) ≤ v.actionWeight a := by
        cases a with
        | navigate path => exact (v.weight_routeChanged_le path).1
        | store ticket r =>
            rw [Action.isHeavy, actionWeight]
            cases r.reads <;> decide
        | _ => exact le_rfl
      rw [List.countP_cons, burden]
      omega

/-! ### Regular views -/

/-- What is known of a view on a page with a plain name: it is sound, and it waits only for replies
to requests that it has made, for each of them once. -/
structure Regular (v : View η) : Prop where
  routable : Routable v.page
  sound : v.Sound
  issued : ∀ ticket ∈ v.awaited, ticket.number ≤ v.lastTicket
  nodup : v.awaited.Nodup

/-- The first view of a page whose paths can be told from others is regular. -/
theorem Regular.initial {page : String} {delay : Nat} {history : η} {v : View η}
    (hpage : Routable page) (hv : View.initial page delay history = .ok v) : v.Regular := by
  have hsound := Sound.initial hpage.colon hv
  have hnone := awaited_initial hv
  obtain ⟨table, -, rfl⟩ := initial_eq_ok_iff.1 hv
  exact ⟨hpage, hsound, by simp [hnone], by simp [hnone]⟩

variable [HistoryStore η] {v : View η} {now : Int} {e : Event}

/-- A regular view stays regular. -/
theorem Regular.step (hv : v.Regular) (now : Int) (e : Event) : (v.step now e).view.Regular where
  routable := by
    rw [hv.sound.page_step]
    exact hv.routable
  sound := hv.sound.step now e
  issued := (v.advances_step now e).issued hv.issued
  nodup := (v.advances_step now e).nodup hv.issued hv.nodup

/-- No event changes the route table. -/
theorem Sound.table_step (hv : v.Sound) (now : Int) (e : Event) :
    (v.step now e).view.table = v.table := by
  have htable := (hv.step now e).table
  rw [hv.page_step, hv.table] at htable
  exact (Except.ok.inj htable).symm

/-- An event weighs more than the actions of its turn, and at most one of them causes more than a
reply to a request that only reads. -/
structure Outweighs (v : View η) (e : Event) (t : Turn η) : Prop where
  burden : t.view.burden t.emitted < v.weight e
  heavy : t.emitted.countP Action.isHeavy ≤ 1

omit [HistoryStore η] in
/-- A turn without actions is outweighed by every event. -/
theorem Outweighs.of_emitted_eq_nil {t : Turn η} (h : t.emitted = []) : v.Outweighs e t := by
  refine ⟨?_, by simp [h]⟩
  rw [h]
  exact (v.weight_le e).1

omit [HistoryStore η] in
/-- A redirect alone. -/
theorem outweighs_redirect {w : View η} (h : Handler) (args : RouteArgs) (he : 4 < v.weight e) :
    v.Outweighs e (w.redirect h args) := by
  rw [redirect]
  split
  · next path _ =>
    refine ⟨?_, le_rfl⟩
    have := w.weight_routeChanged_le path
    change w.weight (.routeChanged path) + 0 < _
    omega
  · exact Outweighs.of_emitted_eq_nil rfl

/-! ### Routes -/

omit [HistoryStore η] in
/-- A route redirects to the list, or to an entity on the same page. -/
theorem redirectTo_cases {h h' : Handler} {args args' : RouteArgs}
    (hto : v.redirectTo args h = some (h', args')) :
    h' = .load ∨ (h' = .loadConfigs ∧ h ≠ .loadDelete ∧ args'.listKey = args.listKey) := by
  have htransient : ∀ flag, v.transientTo args flag = some (h', args') →
      h' = .loadConfigs ∧ args'.listKey = args.listKey := by
    intro flag hto
    rw [transientTo] at hto
    split at hto
    · simp at hto
    · obtain ⟨rfl, rfl⟩ := Prod.mk.inj (Option.some.inj hto)
      exact ⟨rfl, args.listKey_lower flag⟩
  cases h with
  | load | loadConfigs => simp [redirectTo] at hto
  | loadFilter =>
      obtain ⟨rfl, rfl⟩ := Prod.mk.inj (Option.some.inj hto)
      rw [unfiltered]
      split
      · exact .inr ⟨rfl, by decide, args.listKey_lower .filter⟩
      · exact .inl rfl
  | loadDelete =>
      obtain ⟨rfl, rfl⟩ := Prod.mk.inj (Option.some.inj hto)
      exact .inl rfl
  | loadNewConfigs =>
      obtain ⟨rfl, hlist⟩ := htransient .new hto
      exact .inr ⟨rfl, by decide, hlist⟩
  | loadEditConfigs =>
      obtain ⟨rfl, hlist⟩ := htransient .edit hto
      exact .inr ⟨rfl, by decide, hlist⟩

omit [HistoryStore η] in
/-- The path that a route redirects to resolves, and causes at most one event more: the list is
shown, or an entity is asked for on the same page. -/
theorem Regular.weight_redirect (hv : v.Regular) {path next : String} {h h' : Handler}
    {args args' : RouteArgs} {actions : List Action} {w : View η}
    (hresolve : v.table.resolve path = .ok (h, args))
    (hspec : (v.entered path h args).Handles h args actions w)
    (hto : v.redirectTo args h = some (h', args')) (hpath : v.hash h' args' = .ok next) :
    w.weight (.routeChanged next) = 2 := by
  have hnamed : ∀ id, args'.id? = some id → ¬ Route.IsNamedForm id.toList := fun id hid =>
    hv.sound.not_isNamedForm_destination (e := .routeChanged path) (h := h')
      (by simp only [destination, hresolve, hto]) (fun ⟨_, _, he, _⟩ => nomatch he) hid
  have hcomes : v.table.resolve next = .ok (h', h'.canonical args') :=
    resolve_of_hash hv.routable hv.sound.table hpath hnamed
  have htable : w.table.resolve next = .ok (h', h'.canonical args') := by
    rw [hspec.table]
    exact hcomes
  simp only [weight, htable]
  rcases redirectTo_cases hto with rfl | ⟨rfl, hdelete, hlist⟩
  · rfl
  · have hadmits := admits_of_resolve hv.sound.colon hv.sound.table hresolve
    have hadmits' := admits_of_resolve hv.sound.colon hv.sound.table hcomes
    have hsame : args.identity = (Handler.loadConfigs.canonical args').identity :=
      hadmits.identity_eq hadmits' (by rw [Handler.listKey_canonical, hlist])
    have hstays : w.reconciler.classify (Handler.loadConfigs.canonical args') = .continuation := by
      rw [hspec.reconciler, if_neg hdelete]
      exact if_pos hsame
    rw [routeWeight, hstays]

/-- A route changes nothing in the store. -/
theorem changes_of_mem_route {path : String} {a : Action}
    (ha : a ∈ (v.step now (.routeChanged path)).emitted) : a.changes = false := by
  have houtcome := v.outcome_step now (.routeChanged path)
  generalize v.step now (.routeChanged path) = t at ha houtcome
  cases houtcome with
  | ignored => simp at ha
  | route hresolve hparts hanswer =>
      rcases List.mem_append.1 (Turn.mem_of_mem_emitted hanswer ha) with ha | ha
      · exact a.changes_of_isPlain (isPlain_of_mem_enterActions ha)
      · rcases hparts.mem_cases ha with ha | ⟨ticket, r, rfl, hreads⟩
        · exact a.changes_of_isPlain ha
        · simp [Action.changes, hreads]
  | led hto => simp [quietDestination] at hto

omit [HistoryStore η] in
/-- A route weighs more than its searches, its requests for entities and its redirect together. -/
theorem lt_routeWeight (v : View η) (h : Handler) (args : RouteArgs) :
    (v.searchesFor args h).length + (v.getsFor args h).length +
      (if (v.redirectTo args h).isSome then 2 else 0) < v.routeWeight args h := by
  have hid : args.id?.toList.length ≤ 1 := by
    cases args.id? <;> simp
  cases h with
  | load =>
      simp only [searchesFor, listSearch, getsFor, redirectTo, routeWeight]
      cases v.reconciler.classify args <;> simp
  | loadConfigs =>
      simp only [searchesFor, listSearch, getsFor, redirectTo, routeWeight, List.length_map]
      cases v.reconciler.classify args
      · simp
        omega
      · simp
  | loadFilter =>
      simp only [searchesFor, listSearch, getsFor, redirectTo, routeWeight]
      cases v.filtered <;> cases v.reconciler.classify args <;> simp
  | loadDelete => simp [searchesFor, getsFor, redirectTo, routeWeight]
  | loadNewConfigs =>
      cases hto : v.transientTo args .new <;>
        simp [searchesFor, getsFor, redirectTo, routeWeight, hto]
  | loadEditConfigs =>
      cases hto : v.transientTo args .edit <;>
        simp [searchesFor, getsFor, redirectTo, routeWeight, hto]

/-- A route weighs more than the events that it causes at once. -/
theorem Regular.outweighs_route (hv : v.Regular) {path : String} {h : Handler} {args : RouteArgs}
    (hresolve : v.table.resolve path = .ok (h, args)) (now : Int) :
    v.Outweighs (.routeChanged path) (v.step now (.routeChanged path)) := by
  have hreads : ∀ a ∈ (v.step now (.routeChanged path)).emitted, a.changes = false :=
    fun a ha => changes_of_mem_route ha
  obtain ⟨actions, w, hstep, hspec⟩ := hv.sound.step_routeChanged hresolve now
  obtain ⟨paths, hasks, hpaths⟩ := hspec.asks
  rw [hstep] at hreads ⊢
  obtain ⟨hburden, hheavy⟩ := w.burden_eq hreads
  rw [Turn.emitted_done, hasks.paths] at hheavy hburden
  rw [hasks.searches, hasks.gets] at hburden
  have hlt := (v.entered path h args).lt_routeWeight h args
  have hweight : v.weight (.routeChanged path) = v.routeWeight args h := by
    simp only [weight, hresolve]
  have hredirect : paths.length ≤ 1 ∧
      w.pathsWeight paths ≤
        if ((v.entered path h args).redirectTo args h).isSome then 2 else 0 := by
    change paths.length ≤ 1 ∧
      w.pathsWeight paths ≤ if (v.redirectTo args h).isSome then 2 else 0
    change paths.map Except.ok =
      (v.redirectTo args h).toList.map fun target => v.hash target.1 target.2 at hpaths
    cases hto : v.redirectTo args h with
    | none =>
        obtain rfl : paths = [] := by simpa [hto] using hpaths
        exact ⟨Nat.zero_le 1, le_rfl⟩
    | some target =>
        obtain ⟨next, rfl⟩ : ∃ next, paths = [next] := by
          have hlength := congrArg List.length hpaths
          rw [List.length_map, hto] at hlength
          exact List.length_eq_one_iff.1 hlength
        have hpath : v.hash target.1 target.2 = .ok next := by
          simpa [hto] using hpaths.symm
        have htwo := hv.weight_redirect hresolve hspec hto hpath
        exact ⟨le_rfl, by rw [pathsWeight, pathsWeight, htwo]; simp⟩
  refine ⟨?_, hheavy ▸ hredirect.1⟩
  change w.burden actions < v.weight _
  rw [hburden, hweight]
  exact (Nat.add_le_add_left hredirect.2 _).trans_lt hlt

/-! ### All events -/

/-- A reply weighs more than all that it causes at once. -/
theorem Regular.outweighs_reply (hv : v.Regular) (now : Int) (ticket : Ticket)
    (reply : StoreReply) :
    v.Outweighs (.storeReplied ticket reply) (v.step now (.storeReplied ticket reply)) := by
  have hdoes := hv.sound.does now (.storeReplied ticket reply)
  have houtcome := v.outcome_step now (.storeReplied ticket reply)
  have hmutation : ∀ {p : PendingDialog} {name : String}, v.dialog = some p →
      p.state = .awaiting ticket name → v.weight (.storeReplied ticket reply) = 5 :=
    fun hdialog hwaits => if_pos (ownsMutation_iff.2 ⟨_, hdialog, _, hwaits⟩)
  generalize v.step now (.storeReplied ticket reply) = t at hdoes houtcome ⊢
  cases houtcome with
  | ignored => exact Outweighs.of_emitted_eq_nil rfl
  | answered hpending hview hplain =>
      cases hdoes with
      | quiet _ _ howned =>
          have hnot := howned _ _ rfl
          simp [ownsDetail_iff_pending.2 ⟨_, hpending, rfl⟩] at hnot
      | @answer _ _ actions w _ hspec =>
          obtain ⟨hburden, hheavy⟩ := w.burden_eq fun a ha => a.changes_of_isPlain (hplain a ha)
          rw [Turn.emitted_done, hspec.paths] at hheavy hburden
          rw [hspec.searches, hspec.gets] at hburden
          refine ⟨?_, hheavy ▸ Nat.zero_le 1⟩
          change w.burden actions < _
          rw [hburden]
          exact (v.weight_le _).1
  | listed hsearch ha =>
      rcases ha with ⟨rows, rfl⟩ | ⟨text, rfl⟩
      · exact ⟨(v.weight_le _).1, Nat.zero_le 1⟩
      · exact ⟨(v.weight_le _).1, Nat.zero_le 1⟩
  | led _ hreply => exact absurd rfl (hreply _ _)
  | @created _ _ _ _ path history hdialog hwaits =>
      have hpath := weight_routeChanged_le { v with dialog := none, history } path
      refine ⟨?_, le_rfl⟩
      rw [hmutation hdialog hwaits]
      change 0 + (weight { v with dialog := none, history } (.routeChanged path) + 0) < 5
      omega
  | lost => exact Outweighs.of_emitted_eq_nil rfl
  | rearmed => exact ⟨(v.weight_le _).1, Nat.zero_le 1⟩
  | deleted hdialog hwaits =>
      exact outweighs_redirect _ _ (by rw [hmutation hdialog hwaits]; decide)
  | refused => exact ⟨(v.weight_le _).1, Nat.zero_le 1⟩

/-- An event weighs more than all that it causes at once. -/
theorem Regular.outweighs (hv : v.Regular) (now : Int) (e : Event) :
    v.Outweighs e (v.step now e) := by
  cases e with
  | routeChanged path =>
      cases hresolve : v.table.resolve path with
      | error err =>
          rw [step_routeChanged_of_error hresolve]
          exact Outweighs.of_emitted_eq_nil rfl
      | ok route => exact hv.outweighs_route hresolve now
  | storeReplied ticket reply => exact hv.outweighs_reply now ticket reply
  | sessionReset =>
      change v.Outweighs .sessionReset v.onSessionReset
      rw [onSessionReset_eq]
      split
      · exact ⟨Nat.lt_succ_self 1, Nat.zero_le 1⟩
      · exact Outweighs.of_emitted_eq_nil rfl
  | dialogResolved dialog decision =>
      have houtcome := v.outcome_step now (.dialogResolved dialog decision)
      generalize v.step now (.dialogResolved dialog decision) = t at houtcome ⊢
      cases houtcome with
      | ignored => exact Outweighs.of_emitted_eq_nil rfl
      | closed => exact ⟨(v.weight_le _).1, Nat.zero_le 1⟩
      | creates => exact ⟨Nat.lt_succ_self 5, le_rfl⟩
      | deletes => exact ⟨Nat.lt_succ_self 5, le_rfl⟩
      | led hto => simp [quietDestination] at hto
  | timerFired timer =>
      have houtcome := v.outcome_step now (.timerFired timer)
      generalize v.step now (.timerFired timer) = t at houtcome ⊢
      cases houtcome with
      | ignored => exact Outweighs.of_emitted_eq_nil rfl
      | escalated => exact ⟨(v.weight_le _).1, Nat.zero_le 1⟩
      | led hto => simp [quietDestination] at hto
  | toolbarPressed button =>
      have houtcome := v.outcome_step now (.toolbarPressed button)
      generalize v.step now (.toolbarPressed button) = t at houtcome ⊢
      cases houtcome with
      | ignored => exact Outweighs.of_emitted_eq_nil rfl
      | led => exact outweighs_redirect _ _ (Nat.lt_succ_self 4)
      | @favored changed =>
          cases changed with
          | error err => exact Outweighs.of_emitted_eq_nil rfl
          | ok favorited => exact ⟨(v.weight_le _).1, Nat.zero_le 1⟩
      | opened => exact ⟨(v.weight_le _).1, Nat.zero_le 1⟩
  | editRequested =>
      have houtcome := v.outcome_step now .editRequested
      generalize v.step now .editRequested = t at houtcome ⊢
      cases houtcome with
      | ignored => exact Outweighs.of_emitted_eq_nil rfl
      | led => exact outweighs_redirect _ _ (Nat.lt_succ_self 4)

/-! ### Replies to requests that only read -/

omit [HistoryStore η] in
/-- Is the event the reply to a request that has been made, and that the dialog does not wait
for? -/
def isRead (v : View η) : Event → Bool
  | .storeReplied ticket _ => decide (ticket.number ≤ v.lastTicket) && !v.ownsMutation ticket
  | _ => false

omit [HistoryStore η] in
/-- The reply to a read is one whose request was made and that the dialog does not wait for. -/
theorem isRead_iff : v.isRead e = true ↔ ∃ ticket reply, e = .storeReplied ticket reply ∧
    ticket.number ≤ v.lastTicket ∧ v.ownsMutation ticket = false := by
  cases e <;> simp [isRead]

omit [HistoryStore η] in
/-- The reply to a read causes no event but itself. -/
theorem weight_of_isRead (h : v.isRead e = true) : v.weight e = 1 := by
  obtain ⟨ticket, reply, rfl, -, hnot⟩ := isRead_iff.1 h
  simp [weight, hnot]

/-- A dialog begins to wait for a reply when it is confirmed, and for that to the request made
then. -/
theorem ownsMutation_step {ticket : Ticket}
    (h : (v.step now e).view.ownsMutation ticket = true) : v.ownsMutation ticket = true ∨
      ticket = v.nextTicket ∧ ∃ dialog decision, e = .dialogResolved dialog decision := by
  have houtcome := v.outcome_step now e
  generalize v.step now e = t at houtcome h
  have hsame : ∀ {w : View η}, w.dialog = v.dialog → w.ownsMutation ticket = true →
      v.ownsMutation ticket = true := by
    intro w hdialog howned
    rw [ownsMutation, ← hdialog]
    exact howned
  cases houtcome with
  | route hresolve hparts => exact .inl (hsame hparts.frame.dialog h)
  | reset hparts => exact .inl (hsame hparts.frame.dialog h)
  | answered hpending hview => exact .inl (hsame (by rw [hview]) h)
  | led =>
      rw [view_redirect] at h
      exact .inl h
  | deleted =>
      rw [view_redirect] at h
      simp [ownsMutation] at h
  | creates name payload hdialog hasks =>
      obtain ⟨p, hp, other, hwaits⟩ := ownsMutation_iff.1 h
      obtain rfl := Option.some.inj hp
      exact .inr ⟨(DialogState.awaiting.inj hwaits).1.symm, _, _, rfl⟩
  | deletes hdialog hasks =>
      obtain ⟨p, hp, other, hwaits⟩ := ownsMutation_iff.1 h
      obtain rfl := Option.some.inj hp
      exact .inr ⟨(DialogState.awaiting.inj hwaits).1.symm, _, _, rfl⟩
  | _ => first | exact .inl h | simp [ownsMutation] at h

omit [HistoryStore η] in
/-- Does the dialog wait for a reply? -/
def awaitsChange (v : View η) : Bool := (v.dialog.bind PendingDialog.request?).isSome

omit [HistoryStore η] in
/-- A view awaits a change if the reply to some request belongs to its dialog. -/
theorem awaitsChange_iff : v.awaitsChange = true ↔ ∃ ticket, v.ownsMutation ticket = true := by
  rw [awaitsChange, Option.isSome_iff_exists]
  exact exists_congr fun ticket => ownsMutation_iff_request.symm

/-- Only a decision has a dialog begin to wait. -/
theorem awaitsChange_step (he : ∀ dialog decision, e ≠ .dialogResolved dialog decision)
    (h : (v.step now e).view.awaitsChange = true) : v.awaitsChange = true := by
  obtain ⟨ticket, howned⟩ := awaitsChange_iff.1 h
  rcases ownsMutation_step howned with hold | ⟨-, dialog, decision, rfl⟩
  · exact awaitsChange_iff.2 ⟨ticket, hold⟩
  · exact absurd rfl (he dialog decision)

/-- Only a decision makes a view await a change. -/
theorem awaitsChange_step_eq_false (he : ∀ dialog decision, e ≠ .dialogResolved dialog decision)
    (h : v.awaitsChange = false) : (v.step now e).view.awaitsChange = false := by
  by_contra hwaits
  have hwaited : v.awaitsChange = true :=
    awaitsChange_step he (Bool.not_eq_false _ ▸ hwaits)
  simp [h] at hwaited

/-- The reply that a dialog waits for ends its wait. -/
theorem awaitsChange_reply (hnodup : v.awaited.Nodup) {ticket : Ticket}
    (howned : v.ownsMutation ticket = true) (now : Int) (reply : StoreReply) :
    (v.step now (.storeReplied ticket reply)).view.awaitsChange = false := by
  by_contra hwaits
  obtain ⟨other, howned'⟩ := awaitsChange_iff.1 (by simpa using hwaits)
  have hawaited : ticket ∈ v.awaited := mem_awaited_iff.2 (.inr (.inr howned))
  have hspent := (List.nodup_cons.1
    ((awaited_perm_of_reply hawaited now reply).nodup_iff.1 hnodup)).1
  rcases ownsMutation_step howned' with hold | ⟨-, dialog, decision, he⟩
  · have hsame : other = ticket := Option.some.inj
      ((ownsMutation_iff_request.1 hold).symm.trans (ownsMutation_iff_request.1 howned))
    rw [hsame] at howned'
    exact hspent (mem_awaited_iff.2 (.inr (.inr howned')))
  · cases he

/-- The reply to a request that only read stays one. -/
theorem isRead_step (now : Int) (e : Event) {e' : Event} (h : v.isRead e' = true) :
    (v.step now e).view.isRead e' = true := by
  obtain ⟨ticket, reply, rfl, hissued, hnot⟩ := isRead_iff.1 h
  refine isRead_iff.2 ⟨ticket, reply, rfl, hissued.trans (v.advances_step now e).le, ?_⟩
  by_contra howned
  rcases ownsMutation_step (by simpa using howned) with hold | ⟨rfl, -⟩
  · simp [hnot] at hold
  · exact absurd hissued (not_le.2 (Nat.lt_succ_self _))

/-- What a decision asks of the store is a change. -/
theorem reads_eq_false_of_decision {dialog ticket : Ticket} {decision : DialogDecision}
    {r : StoreRequest}
    (ha : .store ticket r ∈ (v.step now (.dialogResolved dialog decision)).emitted) :
    r.reads = false := by
  have houtcome := v.outcome_step now (.dialogResolved dialog decision)
  generalize v.step now (.dialogResolved dialog decision) = t at houtcome ha
  cases houtcome with
  | ignored => simp at ha
  | led hto => simp [quietDestination] at hto
  | closed => simp at ha
  | creates =>
      obtain ⟨-, rfl⟩ := Action.store.inj (List.mem_singleton.1 ha)
      rfl
  | deletes =>
      obtain ⟨-, rfl⟩ : ticket = v.nextTicket ∧ r = _ := by simpa using ha
      rfl

/-- The reply to a request of the turn that only reads. -/
theorem Regular.isRead_of_mem (hv : v.Regular) {ticket : Ticket} {r : StoreRequest}
    (ha : .store ticket r ∈ (v.step now e).emitted) (hreads : r.reads = true) (reply : StoreReply) :
    (v.step now e).view.isRead (.storeReplied ticket reply) = true := by
  obtain ⟨hnew, hissued⟩ :=
    (v.advances_step now e).fresh ticket (List.mem_filterMap.2 ⟨_, ha, rfl⟩)
  refine isRead_iff.2 ⟨ticket, reply, rfl, hissued, ?_⟩
  by_contra howned
  rcases ownsMutation_step (by simpa using howned) with hold | ⟨-, dialog, decision, rfl⟩
  · exact absurd (hv.issued ticket (mem_awaited_iff.2 (.inr (.inr hold)))) (not_le.2 hnew)
  · simp [reads_eq_false_of_decision ha] at hreads

/-- The reply to a request that only read changes the weight of no event. -/
theorem weight_step_of_isRead (h : v.isRead e = true) (now : Int) (e' : Event) :
    (v.step now e).view.weight e' = v.weight e' := by
  obtain ⟨ticket, reply, rfl, -, hnot⟩ := isRead_iff.1 h
  have houtcome := v.outcome_step now (.storeReplied ticket reply)
  generalize v.step now (.storeReplied ticket reply) = t at houtcome ⊢
  have hidle : ∀ {p : PendingDialog} {name : String}, v.dialog = some p →
      p.state ≠ .awaiting ticket name := by
    intro p name hdialog hwaits
    simp [ownsMutation_iff.2 ⟨p, hdialog, name, hwaits⟩] at hnot
  cases houtcome with
  | ignored => rfl
  | answered hpending hview =>
      rw [hview]
      cases e' <;> rfl
  | listed => cases e' <;> rfl
  | led _ hreply => exact absurd rfl (hreply _ _)
  | created hdialog hwaits => exact absurd hwaits (hidle hdialog)
  | lost hdialog hwaits => exact absurd hwaits (hidle hdialog)
  | rearmed text hdialog hwaits => exact absurd hwaits (hidle hdialog)
  | deleted hdialog hwaits => exact absurd hwaits (hidle hdialog)
  | refused text hdialog hwaits => exact absurd hwaits (hidle hdialog)

/-! ### Queues -/

omit [HistoryStore η] in
/-- The number of events that are not replies to requests that only read. -/
def others (v : View η) (events : List Event) : Nat := events.countP fun e => !v.isRead e

omit [HistoryStore η] in
/-- Events other than replies to reads are counted part by part. -/
theorem others_append (v : View η) (first second : List Event) :
    v.others (first ++ second) = v.others first + v.others second :=
  List.countP_append

omit [HistoryStore η] in
/-- Replies to requests that only read weigh one each. -/
theorem total_of_isRead {events : List Event} (h : ∀ e ∈ events, v.isRead e = true) :
    v.total events = events.length := by
  induction events with
  | nil => rfl
  | cons e rest ih =>
      rw [total, weight_of_isRead (h e List.mem_cons_self),
        ih fun e he => h e (List.mem_cons_of_mem _ he), List.length_cons, Nat.add_comm]

omit [HistoryStore η] in
/-- No other events are counted exactly if all are replies to reads. -/
theorem others_eq_zero_iff {events : List Event} :
    v.others events = 0 ↔ ∀ e ∈ events, v.isRead e = true := by
  simp [others, List.countP_eq_zero]

/-- What waits behind an event weighs the same once it has been handled, and at most one event that
waits then is anything else than the reply to a request that only read. -/
theorem Regular.rest (hv : v.Regular) {rest : List Event} (hothers : v.others (e :: rest) ≤ 1)
    (now : Int) : (v.step now e).view.total rest = v.total rest ∧
      (v.step now e).view.others rest + (v.step now e).emitted.countP Action.isHeavy ≤ 1 := by
  obtain ⟨hburden, hheavy⟩ := hv.outweighs now e
  have hcons : v.others (e :: rest) = v.others rest + if v.isRead e then 0 else 1 := by
    rw [others, List.countP_cons, others]
    cases v.isRead e <;> rfl
  cases hread : v.isRead e with
  | true =>
      -- A reply to a request that only read causes nothing, and changes no weights.
      have hkept : (v.step now e).view.others rest ≤ v.others rest := by
        refine List.countP_mono_left fun e' _ hother => ?_
        cases hread' : v.isRead e' with
        | true => simp [isRead_step now e hread'] at hother
        | false => rfl
      have hnone := (v.step now e).view.countP_isHeavy_le_burden (v.step now e).emitted
      rw [weight_of_isRead hread] at hburden
      exact ⟨total_congr fun e' _ => weight_step_of_isRead hread now e', by omega⟩
  | false =>
      -- All that waits behind it are such replies, and stay so.
      rw [hread] at hcons
      have hreads : ∀ e' ∈ rest, v.isRead e' = true :=
        others_eq_zero_iff.1 (by simp at hcons; omega)
      have hreads' : ∀ e' ∈ rest, (v.step now e).view.isRead e' = true := fun e' he' =>
        isRead_step now e (hreads e' he')
      have hnone := others_eq_zero_iff.2 hreads'
      exact ⟨by rw [total_of_isRead hreads, total_of_isRead hreads'], by omega⟩

end View

end ConfigBrowser
