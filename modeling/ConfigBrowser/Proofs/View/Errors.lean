import ConfigBrowser.Proofs.View.Failures
import ConfigBrowser.Proofs.View.Pane

/-!
# The One Event That Fails

On a page without a colon in its name, and with a history whose changes can always be recorded,
there is one event that fails: the reply that the entity a dialog asked for has been created, with
an empty id. No route, button, decision or timer fails, and no other reply.

Every path that the view writes needs an id or a flag. The arguments of the current route and those
of the request under way come from paths that resolved, and the displayed entity was requested
before, so that the arguments it is displayed with have an id as well.

## Main results

* `View.Course.displayed`: what is displayed has a path to go to.
* `View.Course.error_iff`: which events fail, and with which error.
-/

namespace ConfigBrowser

/-! ### Histories that can be written -/

namespace HistoryStore

variable {η : Type} [HistoryStore η]

/-- The histories that changes can lead to, whether or not they could be recorded. -/
inductive Changed (start : η) : η → Prop where
  | start : Changed start start
  | put {h : η} (hchanged : Changed start h) (key : String) (e : HistoryEntry) :
      Changed start (HistoryStore.put h key e).2
  | remove {h : η} (hchanged : Changed start h) (key value : String) :
      Changed start (HistoryStore.remove h key value).2

/-- Can every change be recorded, now and after any other changes? -/
def Writable (start : η) : Prop :=
  ∀ h, Changed start h →
    (∀ key e, (HistoryStore.put h key e).1 = .ok ()) ∧
    ∀ key value, ∃ found, (HistoryStore.remove h key value).1 = .ok found

/-- Further changes may follow. -/
theorem Changed.trans {start h h' : η} (hfirst : Changed start h) (hnext : Changed h h') :
    Changed start h' := by
  induction hnext with
  | start => exact hfirst
  | put _ key e ih => exact ih.put key e
  | remove _ key value ih => exact ih.remove key value

end HistoryStore

namespace History

/-- A history in memory stays in memory. -/
theorem file_of_changed {start h : History} (hstart : start.file = none)
    (hchanged : HistoryStore.Changed start h) : h.file = none := by
  induction hchanged with
  | start => exact hstart
  | @put h _ key e ih =>
      change (h.put key e).2.file = none
      rw [put_of_file_eq_none ih]
      exact ih
  | @remove h _ key value ih =>
      change (h.remove key value).2.file = none
      rw [remove_of_file_eq_none ih]
      split <;> exact ih

/-- Every change of a history in memory can be recorded. -/
theorem writable_of_file_eq_none {start : History} (hstart : start.file = none) :
    HistoryStore.Writable start := by
  intro h hchanged
  have hfile := file_of_changed hstart hchanged
  refine ⟨fun key e => ?_, fun key value => ?_⟩
  · change (h.put key e).1 = .ok ()
    rw [put_of_file_eq_none hfile]
  · change ∃ found, (h.remove key value).1 = .ok found
    rw [remove_of_file_eq_none hfile]
    split
    · exact ⟨true, rfl⟩
    · exact ⟨false, rfl⟩

end History

namespace View

variable {η : Type} [HistoryStore η] {v : View η} {now : Int} {e : Event} {args : RouteArgs}

/-! ### What becomes of the history -/

/-- Showing an entity changes the history by puts. -/
theorem changed_showEntity (v : View η) (entity : Entity) (args : RouteArgs) (editable : Bool) :
    HistoryStore.Changed v.history (v.showEntity now entity args editable).view.history := by
  rw [showEntity]
  split
  · exact .start
  · exact .put .start _ _

/-- The reply to a change changes the history by puts. -/
theorem changed_onMutationReply (v : View η) (reply : StoreReply) :
    HistoryStore.Changed v.history (v.onMutationReply now reply).view.history := by
  simp only [onMutationReply]
  split
  · exact .start
  · split
    · exact .start
    · split
      · simp only [onCreated]
        split
        · exact .start
        · split
          · exact .start
          · exact .put .start _ _
      · exact .start
      · rw [view_redirect]
        exact .start
      · exact .start

/-- The button for favorites changes the history by a put or a removal. -/
theorem changed_toggleFavorite (v : View η) :
    HistoryStore.Changed v.history (v.toggleFavorite now).view.history := by
  simp only [toggleFavorite]
  split
  · exact .start
  · split
    · exact .start
    · split
      · exact .remove .start _ _
      · exact .put .start _ _

/-- The reply to the request under way changes the history by puts. -/
theorem changed_onDetailReply (v : View η) (reply : StoreReply) :
    HistoryStore.Changed v.history (v.onDetailReply now reply).view.history := by
  rw [onDetailReply]
  split
  · exact .start
  · next p hpending =>
    cases reply with
    | entity entity => exact changed_showEntity { v with pending := none } entity _ _
    | _ => exact .start

/-- No event does more to the history than change its lists. -/
theorem changed_step (v : View η) (now : Int) (e : Event) :
    HistoryStore.Changed v.history (v.step now e).view.history := by
  by_cases hwrites : (∃ ticket reply, e = .storeReplied ticket reply) ∨
      e = .toolbarPressed .favorites
  · rcases hwrites with ⟨ticket, reply, rfl⟩ | rfl
    · rw [step, onStoreReplied]
      split
      · exact v.changed_onDetailReply reply
      · split
        · cases reply <;> exact .start
        · split
          · exact v.changed_onMutationReply reply
          · exact .start
    · rw [step, onToolbar]
      split
      · exact v.changed_toggleFavorite
      · exact .start
  · have houtcome := v.outcome_step now e
    generalize v.step now e = t at houtcome
    cases houtcome with
    | route hresolve hparts => rw [hparts.frame.history]; exact .start
    | led => rw [view_redirect]; exact .start
    | reset hparts => rw [Turn.view_done, hparts.frame.history]; exact .start
    | ignored | escalated | opened | closed | creates | deletes => exact .start
    | favored => exact absurd (.inr rfl) hwrites
    | _ => exact absurd (.inl ⟨_, _, rfl⟩) hwrites

/-- A course changes the history by puts and removals. -/
theorem Course.changed {start : View η} {ms : List (Moment η)} (h : Course start ms v) :
    HistoryStore.Changed start.history v.history := by
  induction h with
  | start => exact .start
  | step _ now e ih => exact ih.trans (changed_step _ now e)

/-! ### What is displayed -/

/-- An event displays nothing but an entity whose id was known. -/
theorem Sound.displayed_step (hv : v.Sound) (now : Int) (e : Event) {entity : Entity}
    (hbefore : ∀ entity args, v.displayed = some (entity, args) → args.id?.isSome = true)
    (hdisplayed : (v.step now e).view.displayed = some (entity, args)) :
    args.id?.isSome = true := by
  rcases View.displayed_step ⟨v, now, e⟩ hdisplayed with ⟨⟨p, hpending, rfl, -⟩, -⟩ | hsame
  · exact hv.pending p hpending
  · exact hbefore entity args hsame

/-- What is displayed has an id to go to. -/
theorem Course.displayed {start : View η} {ms : List (Moment η)} (h : Course start ms v)
    (hstart : start.Sound) (hnone : start.displayed = none) {entity : Entity}
    (hdisplayed : v.displayed = some (entity, args)) : args.id?.isSome = true := by
  induction h generalizing entity args with
  | start => simp [hnone] at hdisplayed
  | @step ms v h now e ih =>
      exact (h.sound hstart).displayed_step now e (fun _ _ => ih) hdisplayed

/-! ### Events that do not fail -/

omit [HistoryStore η] in
/-- Where an event other than a reply leads, there is a path to. -/
theorem Sound.exists_hash_of_quietDestination (hv : v.Sound) {h : Handler}
    (hto : v.quietDestination e = some (h, args))
    (hreply : ∀ ticket reply, e ≠ .storeReplied ticket reply) :
    ∃ path, v.hash h args = .ok path := by
  have hedit : v.editDestination = some (h, args) → ∃ path, v.hash h args = .ok path := by
    intro hto
    rw [editDestination] at hto
    split at hto
    · next hid =>
      obtain ⟨rfl, rfl⟩ := Prod.mk.inj (Option.some.inj hto)
      refine hv.exists_hash ⟨?_, fun _ => ?_⟩
      · rintro _ ⟨⟩
        exact RouteArgs.hasFlag_withFlag _ _
      · rw [RouteArgs.id?_withFlag, RouteArgs.id?_only, if_pos (by decide)]
        exact hid
    · cases hto
  cases e with
  | storeReplied ticket reply => exact absurd rfl (hreply ticket reply)
  | toolbarPressed button =>
      cases button with
      | up =>
          obtain ⟨rfl, rfl⟩ := Prod.mk.inj (Option.some.inj hto)
          exact hv.exists_hash_load
      | edit => exact hedit hto
      | _ => cases hto
  | editRequested => exact hedit hto
  | _ => cases hto

/-- The favorites' button does not fail. -/
theorem Sound.exists_favorites (hv : v.Sound) (hwritable : HistoryStore.Writable v.history)
    (hdisplayed : ∀ entity args, v.displayed = some (entity, args) → args.id?.isSome = true)
    (now : Int) : ∃ actions, (v.step now (.toolbarPressed .favorites)).answer = .ok actions := by
  obtain ⟨hput, hremove⟩ := hwritable v.history .start
  rw [View.step, onToolbar]
  split
  · simp only [toggleFavorite]
    split
    · exact ⟨_, rfl⟩
    · next entity args hshown =>
      obtain ⟨path, hpath⟩ := hv.exists_hash_loadConfigs (hdisplayed entity args hshown)
      rw [detailPath, hpath]
      dsimp only
      split
      · obtain ⟨found, hfound⟩ := hremove (HistoryList.favorites.key v.page) path
        rw [hfound]
        exact ⟨_, rfl⟩
      · rw [hput]
        exact ⟨_, rfl⟩
  · exact ⟨_, rfl⟩

omit [HistoryStore η] in
/-- There is no path to an entity without an id. -/
theorem Sound.hash_loadConfigs_of_id?_eq_none (hv : v.Sound) (hid : args.id? = none) :
    v.hash .loadConfigs args =
      .error (.missingArgument Handler.loadConfigs.name RouteArgs.idKey) := by
  have hsegments : RoutePattern.renderSegments Handler.loadConfigs.name args
      Handler.loadConfigs.segments =
        .error (.missingArgument Handler.loadConfigs.name RouteArgs.idKey) := by
    rw [Handler.segments, RoutePattern.renderSegments, RoutePattern.renderSegment_id, hid]
    rfl
  rw [hash, hash_eq_of_page hv.colon hv.table, hsegments]
  rfl

omit [HistoryStore η] in
/-- The reply that a dialog waits for is waited for by the dialog alone. -/
theorem not_owns_of_ownsMutation (hnodup : v.awaited.Nodup) {ticket : Ticket}
    (hmutation : v.ownsMutation ticket = true) :
    v.ownsDetail ticket = false ∧ v.ownsSearch ticket = false := by
  obtain ⟨p, hdialog, name, hwaits⟩ := ownsMutation_iff.1 hmutation
  have hrequest : v.dialog.bind PendingDialog.request? = some ticket := by
    rw [hdialog, Option.bind_some, p.request?_of_awaiting hwaits]
  rw [awaited, hrequest, Option.toList_some, ← List.append_assoc, List.nodup_append] at hnodup
  obtain ⟨-, -, hapart⟩ := hnodup
  constructor
  · by_contra hdetail
    obtain ⟨q, hpending, hq⟩ := ownsDetail_iff_pending.1 (by simpa using hdetail)
    exact hapart ticket (by simp [hpending, hq]) ticket (List.mem_singleton_self _) rfl
  · by_contra hsearch
    have hlatest : v.latestSearch = some ticket := by simpa [ownsSearch] using hsearch
    exact hapart ticket (by simp [hlatest]) ticket (List.mem_singleton_self _) rfl

/-- The reply that an entity has been created without an id fails. -/
theorem Sound.step_created_empty (hv : v.Sound) (hnodup : v.awaited.Nodup) {p : PendingDialog}
    {ticket : Ticket} {name : String} (hdialog : v.dialog = some p)
    (hpurpose : p.purpose = .create) (hwaits : p.state = .awaiting ticket name) (now : Int) :
    (v.step now (.storeReplied ticket (.created ""))).answer =
      .error (.missingArgument Handler.loadConfigs.name RouteArgs.idKey) := by
  have hmutation : v.ownsMutation ticket = true := ownsMutation_iff.2 ⟨p, hdialog, name, hwaits⟩
  obtain ⟨hdetail, hsearch⟩ := not_owns_of_ownsMutation hnodup hmutation
  have hpath : v.hash .loadConfigs (v.currentArgs.set RouteArgs.idKey "") =
      .error (.missingArgument Handler.loadConfigs.name RouteArgs.idKey) :=
    hv.hash_loadConfigs_of_id?_eq_none (by rw [RouteArgs.id?_set_idKey, if_pos rfl])
  rw [View.step, onStoreReplied, if_neg (by simp [hdetail]), if_neg (by simp [hsearch]),
    if_pos hmutation]
  have hdropped : detailPath { v with dialog := none } (v.currentArgs.set RouteArgs.idKey "") =
      .error (.missingArgument Handler.loadConfigs.name RouteArgs.idKey) := hpath
  simp only [onMutationReply, hdialog, hwaits, hpurpose, onCreated]
  rw [show currentArgs { v with dialog := none } = v.currentArgs from rfl, hdropped]
  rfl

/-! ### Which events fail -/

/-- An event that fails is the reply that an entity has been created with an empty id. -/
theorem Sound.created_empty_of_error (hv : v.Sound) (hwritable : HistoryStore.Writable v.history)
    (hdisplayed : ∀ entity args, v.displayed = some (entity, args) → args.id?.isSome = true)
    {err : Error} (herror : (v.step now e).answer = .error err) :
    ∃ ticket p name, e = .storeReplied ticket (.created "") ∧ v.dialog = some p ∧
      p.purpose = .create ∧ p.state = .awaiting ticket name := by
  obtain ⟨hroute, hreply⟩ := hv.of_error herror
  have houtcome := v.outcome_step now e
  generalize hstep : v.step now e = t at houtcome herror
  cases houtcome with
  | route => exact absurd rfl (hroute _)
  | @answered p reply _ _ _ hpending =>
      obtain ⟨actions, w, hanswer, -⟩ :=
        hv.onDetailReply (by rw [hpending]; rfl) now reply
      rw [← hstep, View.step, onStoreReplied,
        if_pos (ownsDetail_iff_pending.2 ⟨p, hpending, rfl⟩), hanswer] at herror
      cases herror
  | led hto hnoreply =>
      obtain ⟨path, hpath⟩ := hv.exists_hash_of_quietDestination hto hnoreply
      rw [redirect, hpath] at herror
      cases herror
  | favored =>
      obtain ⟨actions, hok⟩ := hv.exists_favorites hwritable hdisplayed now
      rw [← hstep, hok] at herror
      cases herror
  | @lost p ticket name id _ hdialog hwaits hpurpose =>
      obtain ⟨hcreated, -⟩ := hreply ticket (.created id) rfl
      exact ⟨ticket, p, name, by rw [hcreated], hdialog, hpurpose, hwaits⟩
  | @deleted p ticket name hdialog =>
      obtain ⟨hcreated, -⟩ := hreply ticket .deleted rfl
      cases hcreated
  | _ => cases herror

/-- On a page without a colon in its name, with a history that can be written, an event fails
exactly when it is the reply that the entity which a dialog asked for has been created with an empty
id. What is missing then is the id of the path to the entity. -/
theorem Course.error_iff {page : String} (hpage : ':' ∉ page.toList) {delay : Nat} {history : η}
    (hwritable : HistoryStore.Writable history) {start : View η}
    (hstart : View.initial page delay history = .ok start) {ms : List (Moment η)}
    (h : Course start ms v) (now : Int) (e : Event) (err : Error) :
    (v.step now e).answer = .error err ↔
      err = .missingArgument "load_configs" "id" ∧
      ∃ ticket p name, e = .storeReplied ticket (.created "") ∧ v.dialog = some p ∧
        p.purpose = .create ∧ p.state = .awaiting ticket name := by
  have hsound : start.Sound := Sound.initial hpage hstart
  have hv : v.Sound := h.sound hsound
  have hnone : start.awaited = [] := awaited_initial hstart
  have hnodup : v.awaited.Nodup := h.advances.nodup (by simp [hnone]) (by simp [hnone])
  constructor
  · intro herror
    obtain ⟨table, htable, rfl⟩ := initial_eq_ok_iff.1 hstart
    have hlater : HistoryStore.Writable v.history := fun _ hchanged =>
      hwritable _ (h.changed.trans hchanged)
    obtain ⟨ticket, p, name, rfl, hdialog, hpurpose, hwaits⟩ :=
      hv.created_empty_of_error hlater (fun _ _ => h.displayed hsound rfl) herror
    rw [hv.step_created_empty hnodup hdialog hpurpose hwaits] at herror
    exact ⟨(Except.error.inj herror).symm, ticket, p, name, rfl, hdialog, hpurpose, hwaits⟩
  · rintro ⟨rfl, ticket, p, name, rfl, hdialog, hpurpose, hwaits⟩
    exact hv.step_created_empty hnodup hdialog hpurpose hwaits now

/-- While a dialog waits for a new entity, the reply that it was created without an id fails, and a
deletion that nobody asked for does not. -/
theorem error_configs_created : ∃ (start v : View History) (ms : List (Moment History)),
    View.initial "configs" 500 (History.inMemory 10) = .ok start ∧ Course start ms v ∧
    (v.step 0 (.storeReplied ⟨2⟩ (.created ""))).answer =
      .error (.missingArgument "load_configs" "id") ∧
    ∀ err, (v.step 0 (.storeReplied ⟨2⟩ .deleted)).answer ≠ .error err := by
  obtain ⟨start, hstart⟩ : ∃ start, View.initial "configs" 500 (History.inMemory 10) = .ok start :=
    ⟨_, rfl⟩
  have hcourse := Course.step (.step (.start : Course start [] start) 0 (.toolbarPressed .new)) 0
    (.dialogResolved ⟨1⟩ (.confirmed .empty))
  generalize hv : (View.step 0 (View.step 0 start (.toolbarPressed .new)).view
    (.dialogResolved ⟨1⟩ (.confirmed .empty))).view = v at hcourse
  have hwaits : v.dialog = some ⟨⟨1⟩, .create, .awaiting ⟨2⟩ ""⟩ := by
    obtain rfl := Except.ok.inj hstart
    subst hv
    decide +kernel
  have hfails := hcourse.error_iff (by decide) (History.writable_of_file_eq_none rfl) hstart 0
  refine ⟨start, v, _, hstart, hcourse, ?_, fun err herror => ?_⟩
  · exact (hfails _ _).2 ⟨rfl, _, _, _, rfl, hwaits, rfl, rfl⟩
  · obtain ⟨-, ticket, p, name, hevent, -⟩ := (hfails _ err).1 herror
    cases hevent

end View

end ConfigBrowser
