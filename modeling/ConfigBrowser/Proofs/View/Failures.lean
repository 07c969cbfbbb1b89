import ConfigBrowser.History.Lists
import ConfigBrowser.Proofs.View.Dialogs

/-!
# What a Failed Event Leaves Behind

An event fails when the history cannot be written or when there is no path to go to. The buttons
find that out before they change anything. Routes and replies find it out afterwards: a route has
been entered by then, and what a reply was waited for with is gone.

On a page without a colon in its name there is always a path, save one to an entity without an id.
There the only failed events that change anything are the replies that such an entity has been
created: the dialog that asked for it is no longer tracked, and stays open.

## Main results

* `View.failure_step`: what a failed event leaves behind.
* `View.Course.intact_of_error_iff`: when a failed event leaves the view intact.
-/

namespace ConfigBrowser.View

variable {η : Type}

/-- Another state of the view differs from it in the history at most. -/
def Intact (v w : View η) : Prop := w = { v with history := w.history }

/-- An intact view waits for the entity that it waited for. -/
theorem Intact.pending_eq {v w : View η} (h : v.Intact w) : w.pending = v.pending := by rw [h]

/-- An intact view keeps its dialog. -/
theorem Intact.dialog_eq {v w : View η} (h : v.Intact w) : w.dialog = v.dialog := by rw [h]

/-- What an event that fails leaves behind. -/
inductive Failure (v : View η) : Event → View η → Prop where
  /-- A route has been entered. -/
  | entered {path : String} {h : Handler} {args : RouteArgs} {w : View η}
      (hresolve : v.table.resolve path = .ok (h, args))
      (hcurrent : w.current = some ⟨path, h, args⟩) : Failure v (.routeChanged path) w
  /-- Everything is as it was, except for the history at most. -/
  | kept {e : Event} {history : η} (hroute : ∀ path, e ≠ .routeChanged path)
      (hreply : ∀ ticket reply, e ≠ .storeReplied ticket reply) : Failure v e { v with history }
  /-- The wait for an entity is over. -/
  | answered {p : PendingDetail} {reply : StoreReply} {w : View η} (hpending : v.pending = some p)
      (hover : w.pending = none) : Failure v (.storeReplied p.ticket reply) w
  /-- The dialog is no longer tracked. -/
  | dropped {p : PendingDialog} {ticket : Ticket} {reply : StoreReply}
      (hdialog : v.dialog = some p) :
      Failure v (.storeReplied ticket reply) { v with dialog := none }

variable [HistoryStore η] {v : View η} {now : Int} {e : Event} {err : Error}

/-- Every event that fails leaves one of these behind. -/
theorem failure_step (herror : (v.step now e).answer = .error err) :
    v.Failure e (v.step now e).view := by
  have houtcome := v.outcome_step now e
  generalize v.step now e = t at houtcome herror
  cases houtcome with
  | route hresolve hparts hanswer => exact .entered hresolve hparts.frame.current
  | answered hpending hview hplain => exact .answered hpending (by rw [hview])
  | led hto hreply =>
      rw [view_redirect]
      refine .kept ?_ hreply
      rintro path rfl
      cases hto
  | favored => exact .kept (by simp) (by simp)
  | lost hdialog => exact .dropped hdialog
  | deleted hdialog =>
      rw [view_redirect]
      exact .dropped hdialog
  | _ => cases herror

omit [HistoryStore η] in
/-- A failed event other than a route leaves the view intact if it is not a reply. -/
theorem Failure.intact_iff {w : View η} (h : v.Failure e w)
    (hroute : ∀ path, e ≠ .routeChanged path) :
    v.Intact w ↔ ∀ ticket reply, e ≠ .storeReplied ticket reply := by
  cases h with
  | entered => exact absurd rfl (hroute _)
  | kept _ hreply => exact iff_of_true rfl hreply
  | answered hpending hover =>
      refine iff_of_false (fun hintact => ?_) (fun hreply => hreply _ _ rfl)
      rw [hintact.pending_eq, hpending] at hover
      cases hover
  | dropped hdialog =>
      refine iff_of_false (fun hintact => ?_) (fun hreply => hreply _ _ rfl)
      have hnone := hintact.dialog_eq
      rw [hdialog] at hnone
      cases hnone

omit [HistoryStore η] in
/-- A route that fails has become the current one. -/
theorem Failure.exists_current {path : String} {w : View η} (h : v.Failure (.routeChanged path) w) :
    ∃ handler args, v.table.resolve path = .ok (handler, args) ∧
      w.current = some ⟨path, handler, args⟩ := by
  cases h with
  | entered hresolve hcurrent => exact ⟨_, _, hresolve, hcurrent⟩
  | kept hroute => exact absurd rfl (hroute path)

/-- On a page without a colon in its name, a failed event is not a route, and a reply only if it is
that an entity without an id has been created. -/
theorem Sound.of_error (hv : v.Sound) (herror : (v.step now e).answer = .error err) :
    (∀ path, e ≠ .routeChanged path) ∧ ∀ ticket reply, e = .storeReplied ticket reply →
      reply = .created "" ∧ v.dialog.isSome = true ∧
        (v.step now e).view = { v with dialog := none } := by
  obtain ⟨hroute, howned⟩ : (∀ path, e ≠ .routeChanged path) ∧
      ∀ ticket reply, e = .storeReplied ticket reply → v.ownsDetail ticket = false := by
    have hdoes := hv.does now e
    generalize v.step now e = t at hdoes herror
    cases hdoes with
    | quiet hroute hreset howned hturn => exact ⟨hroute, howned⟩
    | reset => exact ⟨by simp, by simp⟩
    | _ => cases herror
  refine ⟨hroute, ?_⟩
  rintro ticket reply rfl
  have hfailure := failure_step herror
  generalize hview : (v.step now (.storeReplied ticket reply)).view = w at hfailure
  cases hfailure with
  | kept hroute' hreply => exact absurd rfl (hreply ticket reply)
  | answered hpending hover =>
      have hnot := howned _ reply rfl
      simp [ownsDetail_iff_pending.2 ⟨_, hpending, rfl⟩] at hnot
  | dropped hdialog =>
      obtain ⟨other, hcreated⟩ := hv.created_of_error herror hdialog (by rw [hview])
      exact ⟨(Event.storeReplied.inj hcreated).2, by rw [hdialog]; rfl, rfl⟩

/-- When a failed event leaves the view intact. It does so on every page if it is neither a route
nor a reply, and no reply that fails does. A route that fails has become the current one, which
happens only on a page with a colon in its name. On any other page the one exception is the reply
that an entity without an id has been created, which drops the dialog that is tracked. -/
theorem Course.intact_of_error_iff {page : String} {delay : Nat} {history : η} {start : View η}
    {ms : List (Moment η)} (hstart : View.initial page delay history = .ok start)
    (h : Course start ms v) (herror : (v.step now e).answer = .error err) :
    ((∀ path, e ≠ .routeChanged path) →
        (v.Intact (v.step now e).view ↔ ∀ ticket reply, e ≠ .storeReplied ticket reply)) ∧
      (∀ path, e = .routeChanged path → ':' ∈ page.toList ∧
        ∃ handler args, v.table.resolve path = .ok (handler, args) ∧
          (v.step now e).view.current = some ⟨path, handler, args⟩) ∧
      (':' ∉ page.toList →
        (v.Intact (v.step now e).view ↔ ∀ ticket, e ≠ .storeReplied ticket (.created "")) ∧
          ∀ ticket, e = .storeReplied ticket (.created "") →
            v.dialog.isSome = true ∧ (v.step now e).view = { v with dialog := none }) := by
  have hfailure := failure_step herror
  have hsound : ':' ∉ page.toList → v.Sound := fun hpage => h.sound (Sound.initial hpage hstart)
  refine ⟨hfailure.intact_iff, ?_, fun hpage => ?_⟩
  · rintro path rfl
    refine ⟨?_, hfailure.exists_current⟩
    by_contra hpage
    exact ((hsound hpage).of_error herror).1 path rfl
  · obtain ⟨hroute, hreply⟩ := (hsound hpage).of_error herror
    refine ⟨(hfailure.intact_iff hroute).trans ⟨fun hnone ticket => hnone ticket _, ?_⟩, ?_⟩
    · rintro hnone ticket reply rfl
      obtain ⟨rfl, -⟩ := hreply ticket reply rfl
      exact hnone ticket rfl
    · exact fun ticket he => (hreply ticket _ he).2

/-- The dialog that asked for an entity is dropped when the entity is created without an id. -/
theorem dialog_dropped_configs : ∃ (start v : View History) (ms : List (Moment History)),
    View.initial "configs" 500 (History.inMemory 10) = .ok start ∧ Course start ms v ∧
    (v.step 0 (.storeReplied ⟨2⟩ (.created ""))).answer =
      .error (.missingArgument "load_configs" "id") ∧
    ¬ v.Intact (v.step 0 (.storeReplied ⟨2⟩ (.created ""))).view := by
  obtain ⟨start, hstart⟩ : ∃ start, View.initial "configs" 500 (History.inMemory 10) = .ok start :=
    ⟨_, rfl⟩
  have hcourse := Course.step (.step (.start : Course start [] start) 0 (.toolbarPressed .new)) 0
    (.dialogResolved ⟨1⟩ (.confirmed .empty))
  generalize hv : (View.step 0 (View.step 0 start (.toolbarPressed .new)).view
    (.dialogResolved ⟨1⟩ (.confirmed .empty))).view = v at hcourse
  have herror : (v.step 0 (.storeReplied ⟨2⟩ (.created ""))).answer =
      .error (.missingArgument "load_configs" "id") := by
    obtain rfl := Except.ok.inj hstart
    subst hv
    decide +kernel
  obtain ⟨-, -, hpage⟩ := hcourse.intact_of_error_iff hstart herror
  obtain ⟨hintact, -⟩ := hpage (by decide)
  exact ⟨start, v, _, hstart, hcourse, herror, fun h => hintact.1 h ⟨2⟩ rfl⟩

end ConfigBrowser.View
