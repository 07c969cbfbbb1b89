import ConfigBrowser.Proofs.View.Alike
import ConfigBrowser.Proofs.View.Errors

/-!
# The Order of Replies

Replies to different requests can arrive in any order. A reply belongs to the request for an
entity, to the latest search or to the dialog, and changes nothing that decides what another reply
belongs to or is answered with. What it changes of the view is its own, apart from the history,
where an entity that is shown and one that was created go into different lists.

Two replies that arrive one after the other can therefore be exchanged, and by an induction on
permutations so can any number of them. They may arrive at other times as well: a time is only
written to the history.

## Main results

* `View.exchange`: two replies to different requests can be exchanged.
* `View.Course.receiveAll_in_any_order`: replies to different requests lead to the same view in any
  order, and each has the same answer.
-/

namespace ConfigBrowser

/-- A reply that arrives: when, to which request, and what it says. -/
structure Delivery where
  now : Int
  ticket : Ticket
  reply : StoreReply
deriving DecidableEq, Repr

/-- What arrives, whenever it does. -/
def Delivery.content (d : Delivery) : Ticket × StoreReply := (d.ticket, d.reply)

namespace View

section

variable {η : Type} [HistoryStore η]

/-- Handles a reply that arrives. -/
def receive (v : View η) (d : Delivery) : Turn η := v.step d.now (.storeReplied d.ticket d.reply)

/-- Handles replies as they arrive: what each is answered with, and the view in the end. -/
def receiveAll (v : View η) : List Delivery → List (Ticket × Except Error (List Action)) × View η
  | [] => ([], v)
  | d :: rest =>
    let (answers, w) := (v.receive d).view.receiveAll rest
    ((d.ticket, (v.receive d).answer) :: answers, w)

/-! ### What a reply belongs to -/

/-- What a request was made for. -/
inductive Owner where
  | detail
  | search
  | mutation
deriving DecidableEq, Repr

/-- What the reply to a ticket belongs to, if the view waits for it. -/
def owner (v : View η) (ticket : Ticket) : Option Owner :=
  if v.ownsDetail ticket then some .detail
  else if v.ownsSearch ticket then some .search
  else if v.ownsMutation ticket then some .mutation
  else none

/-- Handles a reply that belongs to something. -/
def respond (v : View η) (d : Delivery) : Option Owner → Turn η
  | some .detail => v.onDetailReply d.now d.reply
  | some .search => v.onSearchReply d.reply
  | some .mutation => v.onMutationReply d.now d.reply
  | none => .done [] v

/-- A delivery goes to the one who waits for its ticket. -/
theorem receive_eq (v : View η) (d : Delivery) : v.receive d = v.respond d (v.owner d.ticket) := by
  change v.onStoreReplied d.now d.ticket d.reply = _
  rw [onStoreReplied, owner]
  split
  · rfl
  · split
    · rfl
    · split <;> rfl

/-- A delivery is handled as the one who waits for it does. -/
theorem receive_of_owner {v : View η} {d : Delivery} {o : Option Owner}
    (howner : v.owner d.ticket = o) : v.receive d = v.respond d o := by
  rw [receive_eq, howner]

omit [HistoryStore η] in
/-- A ticket under which a view waits for something. -/
theorem owns_of_owner {v : View η} {ticket : Ticket} {o : Owner} (h : v.owner ticket = some o) :
    match o with
    | .detail => ∃ p, v.pending = some p ∧ p.ticket = ticket
    | .search => v.latestSearch = some ticket
    | .mutation => ∃ p, v.dialog = some p ∧ ∃ name, p.state = .awaiting ticket name := by
  rw [owner] at h
  split at h
  · next hdetail =>
    cases h
    exact ownsDetail_iff_pending.1 hdetail
  · split at h
    · next hsearch =>
      cases h
      exact of_decide_eq_true hsearch
    · split at h
      · next hmutation =>
        cases h
        exact ownsMutation_iff.1 hmutation
      · cases h

/-- A reply does not change what the reply to another ticket belongs to. -/
theorem owner_receive (v : View η) {d : Delivery} {ticket : Ticket} (hne : d.ticket ≠ ticket) :
    (v.receive d).view.owner ticket = v.owner ticket := by
  obtain ⟨now, first, reply⟩ := d
  have hout := v.outcome_step now (.storeReplied first reply)
  change (v.step now (.storeReplied first reply)).view.owner ticket = v.owner ticket
  generalize v.step now (.storeReplied first reply) = t at hout
  change first ≠ ticket at hne
  have howner : ∀ {w : View η}, w.ownsDetail ticket = v.ownsDetail ticket →
      w.ownsSearch ticket = v.ownsSearch ticket → w.ownsMutation ticket = v.ownsMutation ticket →
      w.owner ticket = v.owner ticket := by
    intro w hdetail hsearch hmutation
    rw [owner, owner, hdetail, hsearch, hmutation]
  have hmutation : ∀ {p : PendingDialog} {name : String}, v.dialog = some p →
      p.state = .awaiting first name → false = v.ownsMutation ticket := by
    intro p name hdialog hwaits
    simp [ownsMutation, hdialog, hwaits, hne]
  cases hout with
  | ignored => rfl
  | answered hpending hview =>
      rw [hview]
      exact howner (by simp [ownsDetail, hpending, hne]) rfl rfl
  | listed hsearch => exact howner rfl (by simp [ownsSearch, hsearch, hne]) rfl
  | led _ hreply => exact absurd rfl (hreply _ _)
  | created hdialog hwaits => exact howner rfl rfl (hmutation hdialog hwaits)
  | lost hdialog hwaits => exact howner rfl rfl (hmutation hdialog hwaits)
  | rearmed text hdialog hwaits => exact howner rfl rfl (hmutation hdialog hwaits)
  | deleted hdialog hwaits =>
      rw [view_redirect]
      exact howner rfl rfl (hmutation hdialog hwaits)
  | refused text hdialog hwaits => exact howner rfl rfl (hmutation hdialog hwaits)

end

/-! ### What a reply does -/

variable {v : View History}

/-- Views with the same rules write the same paths. -/
theorem hash_eq_of {w : View History} (htable : w.table = v.table) (h : Handler)
    (args : RouteArgs) : w.hash h args = v.hash h args :=
  congrArg (·.hash h args) htable

/-- Views at the same route have the same arguments. -/
theorem currentArgs_eq_of {w : View History} (hcurrent : w.current = v.current) :
    w.currentArgs = v.currentArgs := by
  rw [currentArgs, currentArgs, hcurrent]

/-- Views with the same rules go to the same path. -/
theorem redirect_eq_of {w : View History} (htable : w.table = v.table) (h : Handler)
    (args : RouteArgs) : w.redirect h args = ⟨(v.redirect h args).answer, w⟩ := by
  rw [redirect, redirect, hash_eq_of htable]
  split <;> rfl

/-- A change of the history by a reply: nothing, or an entry put in front of a list. -/
inductive Remembers (key : String) : (History → History) → Prop where
  | nothing : Remembers key id
  | entry (e : HistoryEntry) : Remembers key fun h => (HistoryStore.put h key e).2

/-- Entries are put in front of different lists in either order. -/
theorem Remembers.comm {key key' : String} {remember remember' : History → History}
    (h : Remembers key remember) (h' : Remembers key' remember') (hne : key ≠ key')
    {history : History} (hfile : history.file = none) :
    remember' (remember history) = remember (remember' history) := by
  cases h with
  | nothing => rfl
  | entry e =>
      cases h' with
      | nothing => rfl
      | entry e' => exact History.put_comm hfile hne e e'

/-- What is remembered under one key is not held under another one. -/
theorem Remembers.contains {key key' : String} {remember : History → History}
    (h : Remembers key remember) (hne : key' ≠ key) (history : History) (value : String) :
    HistoryStore.contains (remember history) key' value =
      HistoryStore.contains history key' value := by
  cases h with
  | nothing => rfl
  | entry e => exact history.contains_put_of_ne hne e value

/-- The reply to the latest search does the same to every view. -/
theorem onSearchReply_eq (v w : View History) (reply : StoreReply) :
    w.onSearchReply reply = ⟨(v.onSearchReply reply).answer, { w with latestSearch := none }⟩ := by
  cases reply <;> rfl

/-- An entity is shown and remembered alike in every view with the same favorites. -/
theorem exists_showEntity (v : View History) (now : Int) (e : Entity) (args : RouteArgs)
    (editable : Bool) :
    ∃ (displayed : Option (Entity × RouteArgs)) (remember : History → History),
      Remembers (HistoryList.recent.key v.page) remember ∧
      ∀ w : View History, w.page = v.page → w.table = v.table →
        (∀ value, HistoryStore.contains w.history (HistoryList.favorites.key v.page) value =
          HistoryStore.contains v.history (HistoryList.favorites.key v.page) value) →
        w.showEntity now e args editable =
          ⟨(v.showEntity now e args editable).answer, { w with
            displayed := displayed.or w.displayed
            history := remember w.history }⟩ := by
  cases hpath : v.hash .loadConfigs args with
  | error err =>
      refine ⟨none, id, .nothing, fun w _ htable _ => ?_⟩
      simp only [showEntity, detailPath, hash_eq_of htable, hpath]
      rfl
  | ok path =>
      refine ⟨some (e, args), _, .entry ⟨e.name, path, now⟩, fun w hpage htable hfavorites => ?_⟩
      have hother : HistoryList.favorites.key v.page ≠ HistoryList.recent.key v.page :=
        fun h => absurd (HistoryList.key_injective h) (by decide)
      simp only [showEntity, detailPath, hash_eq_of htable, hpath, hpage,
        History.contains_put_of_ne _ hother, hfavorites]
      rfl

/-- The reply to the request under way does the same to every view with the same request under way
and the same favorites. -/
theorem exists_onDetailReply {p : PendingDetail} (hpending : v.pending = some p) (now : Int)
    (reply : StoreReply) :
    ∃ (displayed : Option (Entity × RouteArgs)) (remember : History → History),
      Remembers (HistoryList.recent.key v.page) remember ∧
      ∀ w : View History, w.page = v.page → w.table = v.table → w.pending = v.pending →
        (∀ value, HistoryStore.contains w.history (HistoryList.favorites.key v.page) value =
          HistoryStore.contains v.history (HistoryList.favorites.key v.page) value) →
        w.onDetailReply now reply =
          ⟨(v.onDetailReply now reply).answer, { w with
            pending := none
            displayed := displayed.or w.displayed
            history := remember w.history }⟩ := by
  cases reply with
  | entity e =>
      obtain ⟨displayed, remember, hremember, hshown⟩ :=
        exists_showEntity { v with pending := none } now e p.args p.editable
      refine ⟨displayed, remember, hremember, fun w hpage htable hw hfavorites => ?_⟩
      have hw' := hshown { w with pending := none } hpage htable hfavorites
      simp only [onDetailReply, hw, hpending, Turn.andThen_done, hw']
  | _ =>
      refine ⟨none, id, .nothing, fun w _ _ hw _ => ?_⟩
      rw [onDetailReply, onDetailReply, hw, hpending]
      rfl

/-- A new entity is remembered and led to alike in every view of the same current route. -/
theorem exists_onCreated (v : View History) (now : Int) (dialog : Ticket) (name created : String) :
    ∃ remember, Remembers (HistoryList.new.key v.page) remember ∧
      ∀ w : View History, w.page = v.page → w.table = v.table → w.current = v.current →
        w.onCreated now dialog name created =
          ⟨(v.onCreated now dialog name created).answer,
            { w with history := remember w.history }⟩ := by
  cases hvalue : v.hash .loadConfigs (v.currentArgs.set RouteArgs.idKey created) with
  | error e =>
      refine ⟨id, .nothing, fun w _ htable hcurrent => ?_⟩
      simp only [onCreated, detailPath, currentArgs_eq_of hcurrent, hash_eq_of htable, hvalue]
      rfl
  | ok value =>
      cases hpath : v.hash .loadNewConfigs
          ((v.currentArgs.set RouteArgs.idKey created).withFlag .new) with
      | error e =>
          refine ⟨id, .nothing, fun w _ htable hcurrent => ?_⟩
          simp only [onCreated, detailPath, currentArgs_eq_of hcurrent, hash_eq_of htable, hvalue,
            hpath]
          rfl
      | ok path =>
          refine ⟨_, .entry ⟨name, value, now⟩, fun w hpage htable hcurrent => ?_⟩
          simp only [onCreated, detailPath, currentArgs_eq_of hcurrent, hash_eq_of htable, hvalue,
            hpath, hpage]
          rfl

/-- The reply that the dialog waits for does the same to every view with the same dialog, current
route and tickets. -/
theorem exists_onMutationReply {p : PendingDialog} {ticket : Ticket} {name : String}
    (hdialog : v.dialog = some p) (hwaits : p.state = .awaiting ticket name) (now : Int)
    (reply : StoreReply) :
    ∃ (dialog : Option PendingDialog) (lastTicket : Nat) (remember : History → History),
      Remembers (HistoryList.new.key v.page) remember ∧
      ∀ w : View History, w.page = v.page → w.table = v.table → w.current = v.current →
        w.dialog = v.dialog → w.lastTicket = v.lastTicket →
        w.onMutationReply now reply =
          ⟨(v.onMutationReply now reply).answer,
            { w with dialog, lastTicket, history := remember w.history }⟩ := by
  cases hpurpose : p.purpose with
  | create =>
      cases reply with
      | created id =>
          obtain ⟨remember, hremember, hcreated⟩ :=
            exists_onCreated { v with dialog := none } now p.ticket name id
          refine ⟨none, v.lastTicket, remember, hremember,
            fun w hpage htable hcurrent hw hlast => ?_⟩
          have hw' := hcreated { w with dialog := none } hpage htable hcurrent
          simp only [onMutationReply, hw, hdialog, hwaits, hpurpose, ← hlast, hw']
      | _ =>
          refine ⟨some { p with state := .prompting }, v.lastTicket, id, .nothing,
            fun w _ _ _ hw hlast => ?_⟩
          simp only [onMutationReply, hw, hdialog, hwaits, hpurpose, ← hlast]
          rfl
  | delete =>
      cases reply with
      | deleted =>
          refine ⟨none, v.lastTicket, id, .nothing, fun w _ htable hcurrent hw hlast => ?_⟩
          have hw' : currentArgs { w with dialog := none } =
              currentArgs { v with dialog := none } := currentArgs_eq_of (v := v) hcurrent
          have hredirect := redirect_eq_of (v := { v with dialog := none })
            (w := { w with dialog := none }) htable .loadDelete
          simp only [onMutationReply, hw, hdialog, hwaits, hpurpose, ← hlast, hw', hredirect]
          rfl
      | _ =>
          refine ⟨none, v.lastTicket + 1, id, .nothing, fun w _ _ _ hw hlast => ?_⟩
          simp only [onMutationReply, hw, hdialog, hwaits, hpurpose, issue, ← hlast]
          rfl

/-! ### Two replies -/

/-- Two replies can be exchanged: either order leads to the same view, and each has the same answer
in both. -/
def Exchange (v : View History) (d d' : Delivery) : Prop :=
  ∃ w, (v.receive d).view.receive d' = ⟨(v.receive d').answer, w⟩ ∧
    (v.receive d').view.receive d = ⟨(v.receive d).answer, w⟩

/-- Deliveries that may be exchanged may be exchanged either way. -/
theorem Exchange.symm {d d' : Delivery} (h : v.Exchange d d') : v.Exchange d' d := by
  obtain ⟨w, hfirst, hsecond⟩ := h
  exact ⟨w, hsecond, hfirst⟩

variable {d d' : Delivery} (hne : d.ticket ≠ d'.ticket)
include hne

/-- Two replies can be exchanged if what they belong to handles them alike in either order. -/
theorem exchange_of_respond {o o' : Option Owner} (hd : v.owner d.ticket = o)
    (hd' : v.owner d'.ticket = o') (w : View History)
    (hfirst : (v.respond d o).view.respond d' o' = ⟨(v.respond d' o').answer, w⟩)
    (hsecond : (v.respond d' o').view.respond d o = ⟨(v.respond d o).answer, w⟩) :
    v.Exchange d d' := by
  have howner := (owner_receive v hne).trans hd'
  have howner' := (owner_receive v hne.symm).trans hd
  rw [receive_of_owner hd] at howner
  rw [receive_of_owner hd'] at howner'
  refine ⟨w, ?_, ?_⟩
  · rw [receive_of_owner hd, receive_of_owner hd', receive_of_owner howner, hfirst]
  · rw [receive_of_owner hd, receive_of_owner hd', receive_of_owner howner', hsecond]

/-- A delivery that nobody waits for may come before or after any other. -/
theorem exchange_none (hd' : v.owner d'.ticket = none) : v.Exchange d d' :=
  exchange_of_respond hne rfl hd' (v.respond d (v.owner d.ticket)).view rfl rfl

/-- The entity and the rows of the list may come in either order. -/
theorem exchange_detail_search (hd : v.owner d.ticket = some .detail)
    (hd' : v.owner d'.ticket = some .search) : v.Exchange d d' := by
  obtain ⟨p, hpending, -⟩ := owns_of_owner hd
  obtain ⟨displayed, remember, -, hdetail⟩ := exists_onDetailReply hpending d.now d.reply
  refine exchange_of_respond hne hd hd' { v with
    pending := none
    displayed := displayed.or v.displayed
    history := remember v.history
    latestSearch := none } ?_ ?_
  · rw [respond, respond, respond, hdetail v rfl rfl rfl fun _ => rfl]
    exact onSearchReply_eq v _ d'.reply
  · rw [respond, respond, respond, onSearchReply_eq v v]
    exact hdetail _ rfl rfl rfl fun _ => rfl

/-- The rows of the list and the reply to a change may come in either order. -/
theorem exchange_search_mutation (hd : v.owner d.ticket = some .search)
    (hd' : v.owner d'.ticket = some .mutation) : v.Exchange d d' := by
  obtain ⟨p, hdialog, name, hwaits⟩ := owns_of_owner hd'
  obtain ⟨dialog, lastTicket, remember, -, hmutation⟩ :=
    exists_onMutationReply hdialog hwaits d'.now d'.reply
  refine exchange_of_respond hne hd hd'
    { v with latestSearch := none, dialog, lastTicket, history := remember v.history } ?_ ?_
  · rw [respond, respond, respond, onSearchReply_eq v v]
    exact hmutation _ rfl rfl rfl rfl rfl
  · rw [respond, respond, respond, hmutation v rfl rfl rfl rfl rfl]
    exact onSearchReply_eq v _ d.reply

/-- An entity that is shown and one that was created are remembered in different lists. -/
theorem exchange_detail_mutation (hfile : v.history.file = none)
    (hd : v.owner d.ticket = some .detail) (hd' : v.owner d'.ticket = some .mutation) :
    v.Exchange d d' := by
  obtain ⟨p, hpending, -⟩ := owns_of_owner hd
  obtain ⟨q, hdialog, name, hwaits⟩ := owns_of_owner hd'
  obtain ⟨displayed, remember, hremember, hdetail⟩ := exists_onDetailReply hpending d.now d.reply
  obtain ⟨dialog, lastTicket, remember', hremember', hmutation⟩ :=
    exists_onMutationReply hdialog hwaits d'.now d'.reply
  have hlists : HistoryList.recent.key v.page ≠ HistoryList.new.key v.page :=
    fun h => nomatch HistoryList.key_injective h
  have hfavorites : HistoryList.favorites.key v.page ≠ HistoryList.new.key v.page :=
    fun h => nomatch HistoryList.key_injective h
  refine exchange_of_respond hne hd hd' { v with
    pending := none
    displayed := displayed.or v.displayed
    dialog
    lastTicket
    history := remember' (remember v.history) } ?_ ?_
  · rw [respond, respond, respond, hdetail v rfl rfl rfl fun _ => rfl]
    exact hmutation _ rfl rfl rfl rfl rfl
  · rw [respond, respond, respond, hmutation v rfl rfl rfl rfl rfl,
      hremember.comm hremember' hlists hfile]
    exact hdetail _ rfl rfl rfl (hremember'.contains hfavorites v.history)

omit hne in
/-- One thing does not wait for two replies. -/
theorem ticket_eq_of_owner {o : Owner} (hd : v.owner d.ticket = some o)
    (hd' : v.owner d'.ticket = some o) : d.ticket = d'.ticket := by
  have howns := owns_of_owner hd
  have howns' := owns_of_owner hd'
  cases o with
  | detail =>
      obtain ⟨p, hpending, hp⟩ := howns
      obtain ⟨q, hpending', hq⟩ := howns'
      obtain rfl := Option.some.inj (hpending.symm.trans hpending')
      exact hp.symm.trans hq
  | search => exact Option.some.inj (howns.symm.trans howns')
  | mutation =>
      obtain ⟨p, hdialog, name, hwaits⟩ := howns
      obtain ⟨q, hdialog', name', hwaits'⟩ := howns'
      obtain rfl := Option.some.inj (hdialog.symm.trans hdialog')
      exact (DialogState.awaiting.inj (hwaits.symm.trans hwaits')).1

/-- Two replies to different requests can be exchanged. -/
theorem exchange (hfile : v.history.file = none) : v.Exchange d d' := by
  cases hd : v.owner d.ticket with
  | none => exact (exchange_none hne.symm hd).symm
  | some o =>
      cases hd' : v.owner d'.ticket with
      | none => exact exchange_none hne hd'
      | some o' =>
          have hdiffers : o ≠ o' := fun heq => hne (ticket_eq_of_owner hd (heq ▸ hd'))
          cases o <;> cases o'
          case detail.search => exact exchange_detail_search hne hd hd'
          case detail.mutation => exact exchange_detail_mutation hne hfile hd hd'
          case search.detail => exact (exchange_detail_search hne.symm hd' hd).symm
          case search.mutation => exact exchange_search_mutation hne hd hd'
          case mutation.detail => exact (exchange_detail_mutation hne.symm hfile hd' hd).symm
          case mutation.search => exact (exchange_search_mutation hne.symm hd' hd).symm
          all_goals exact absurd rfl hdiffers

/-! ### Any number of replies -/

omit hne

/-- A history in memory stays in memory. -/
theorem file_receive (hfile : v.history.file = none) (d : Delivery) :
    (v.receive d).view.history.file = none :=
  History.file_of_changed hfile (v.changed_step d.now (.storeReplied d.ticket d.reply))

/-- Replies to different requests can be handled in any order. -/
theorem receiveAll_perm {first second : List Delivery} (hperm : first.Perm second)
    (hfile : v.history.file = none) (hdistinct : (first.map (·.ticket)).Nodup) :
    (v.receiveAll first).2 = (v.receiveAll second).2 ∧
      (v.receiveAll first).1.Perm (v.receiveAll second).1 := by
  induction hperm generalizing v with
  | nil => exact ⟨rfl, .refl _⟩
  | cons d _ ih =>
      obtain ⟨hview, hanswers⟩ := ih (file_receive hfile d) (List.nodup_cons.1 hdistinct).2
      exact ⟨hview, hanswers.cons _⟩
  | swap d d' rest =>
      have hne : d.ticket ≠ d'.ticket := fun heq => by
        simp [heq] at hdistinct
      obtain ⟨w, hfirst, hsecond⟩ := exchange hne hfile
      simp only [receiveAll, hfirst, hsecond]
      exact ⟨trivial, .swap _ _ _⟩
  | trans hperm _ ih ih' =>
      obtain ⟨hview, hanswers⟩ := ih hfile hdistinct
      obtain ⟨hview', hanswers'⟩ := ih' hfile ((hperm.map _).nodup_iff.1 hdistinct)
      exact ⟨hview.trans hview', hanswers.trans hanswers'⟩

/-- Replies may be handled at other times. -/
theorem receiveAll_alike {w : View History} (h : v.Alike Eq w) (hfile : v.history.file = none)
    (hfile' : w.history.file = none) {first second : List Delivery}
    (hsame : first.map Delivery.content = second.map Delivery.content) :
    (v.receiveAll first).2.Alike Eq (w.receiveAll second).2 ∧
      (v.receiveAll first).1 = (w.receiveAll second).1 := by
  induction first generalizing v w second with
  | nil =>
      obtain rfl : second = [] := by simpa using hsame.symm
      exact ⟨h, rfl⟩
  | cons d rest ih =>
      cases second with
      | nil => simp at hsame
      | cons d' rest' =>
          obtain ⟨hd, hrest⟩ := List.cons.inj hsame
          obtain ⟨hticket, hreply⟩ := Prod.mk.inj hd
          have hturn : (v.receive d).Alike Eq (w.receive d') := by
            rw [receive, receive, hticket, hreply]
            exact h.step hfile hfile' d.now d'.now _
          obtain ⟨hview, hanswers⟩ :=
            ih hturn.view (file_receive hfile d) (file_receive hfile' d') hrest
          refine ⟨hview, ?_⟩
          change (d.ticket, _) :: _ = (d'.ticket, _) :: _
          rw [hticket, hturn.answer_eq, hanswers]

/-- The order and the times in which replies to different requests arrive do not matter: a view
with its history in memory ends the same, up to the times of visits, and each reply has the same
answer. -/
theorem Course.receiveAll_in_any_order {page : String} {delay limit : Nat} {start : View History}
    {ms : List (Moment History)}
    (hstart : View.initial page delay (History.inMemory limit) = .ok start)
    (h : Course start ms v) {first second : List Delivery}
    (hsame : (first.map Delivery.content).Perm (second.map Delivery.content))
    (hdistinct : (first.map (·.ticket)).Nodup) :
    (v.receiveAll first).2.undated = (v.receiveAll second).2.undated ∧
      (v.receiveAll first).1.Perm (v.receiveAll second).1 := by
  have hfile : v.history.file = none := by
    obtain ⟨table, -, rfl⟩ := initial_eq_ok_iff.1 hstart
    exact History.file_of_changed rfl h.changed
  have halike : v.Alike Eq v := .intro rfl rfl
  -- Replies that differ in their times alone are handled alike, so all may arrive at one time.
  let atZero (d : Ticket × StoreReply) : Delivery := ⟨0, d.1, d.2⟩
  have hzero : ∀ ds : List Delivery, ((ds.map Delivery.content).map atZero).map Delivery.content =
      ds.map Delivery.content := fun ds => by
    rw [List.map_map]
    exact List.map_id _
  have htickets : (((first.map Delivery.content).map atZero).map (·.ticket)).Nodup := by
    rw [List.map_map, List.map_map]
    exact hdistinct
  obtain ⟨hview, hanswers⟩ := receiveAll_alike halike hfile hfile (hzero first)
  obtain ⟨hview', hanswers'⟩ := receiveAll_alike halike hfile hfile (hzero second)
  obtain ⟨hsameView, hsameAnswers⟩ := View.receiveAll_perm (hsame.map atZero) hfile htickets
  rw [← hanswers, ← hanswers', hview.undated_eq, hview'.undated_eq, hsameView]
  exact ⟨rfl, hsameAnswers⟩

/-- A list, an entity and a new entity that arrive in this order, or the other way round and at
other times. -/
theorem receiveAll_configs : ∃ (start v : View History) (ms : List (Moment History)),
    View.initial "configs" 500 (History.inMemory 10) = .ok start ∧ Course start ms v ∧
    v.owner ⟨1⟩ = some .search ∧ v.owner ⟨2⟩ = some .detail ∧ v.owner ⟨4⟩ = some .mutation ∧
    let entity : Entity := ⟨"1", "a", "b", .null⟩
    let first : List Delivery :=
      [⟨10, ⟨1⟩, .listing []⟩, ⟨20, ⟨2⟩, .entity entity⟩, ⟨30, ⟨4⟩, .created "7"⟩]
    let second : List Delivery :=
      [⟨40, ⟨4⟩, .created "7"⟩, ⟨50, ⟨2⟩, .entity entity⟩, ⟨60, ⟨1⟩, .listing []⟩]
    (v.receiveAll first).2.undated = (v.receiveAll second).2.undated ∧
      (v.receiveAll first).1.Perm (v.receiveAll second).1 := by
  obtain ⟨start, hstart⟩ : ∃ start, View.initial "configs" 500 (History.inMemory 10) = .ok start :=
    ⟨_, rfl⟩
  have hcourse := Course.step (.step (.step (.start : Course start [] start) 0
    (.routeChanged "configs/1")) 0 (.toolbarPressed .new)) 0
    (.dialogResolved ⟨3⟩ (.confirmed .empty))
  generalize hv : (View.step 0 (View.step 0 (View.step 0 start (.routeChanged "configs/1")).view
    (.toolbarPressed .new)).view (.dialogResolved ⟨3⟩ (.confirmed .empty))).view = v at hcourse
  have howners : v.owner ⟨1⟩ = some .search ∧ v.owner ⟨2⟩ = some .detail ∧
      v.owner ⟨4⟩ = some .mutation := by
    obtain rfl := Except.ok.inj hstart
    subst hv
    decide +kernel
  have hreversed := (List.reverse_perm [(⟨1⟩, .listing []),
    (⟨2⟩, .entity ⟨"1", "a", "b", .null⟩), ((⟨4⟩, .created "7") : Ticket × StoreReply)]).symm
  exact ⟨start, v, _, hstart, hcourse, howners.1, howners.2.1, howners.2.2,
    hcourse.receiveAll_in_any_order hstart hreversed (by decide)⟩

end View

end ConfigBrowser
