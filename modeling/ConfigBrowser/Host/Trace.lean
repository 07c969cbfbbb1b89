import ConfigBrowser.Host.Command
import ConfigBrowser.Store.Memory
import ConfigBrowser.View.Trace

/-!
# Trails of the Host

What is noted while a host with a store in memory runs commands: on each command, each event and
each action, and on each request to the store. The host does not depend on it.

A trail ends early where the store gives no answer to a request, since the program breaks down
there. As long as the trail goes on, every answer that the host gets is one that the store gives.

## Main results

* `Host.execute?_of_unbroken`: a request whose trail goes on is answered.
* `Host.execute?_of_unbroken_actions`: so are all requests among actions whose trail goes on.
* `Host.sound_commandTrail`: what is noted on a command ends all spans that it begins, and it ends
  early only where the store has no room for another entity.
-/

namespace ConfigBrowser

open Log

/-- The marks of a request to a store. -/
def MemoryStore.requestMarks (s : MemoryStore) (r : StoreRequest) : List Mark :=
  Mark.within ⟨.store, "memory_store", [("request", r.describe)]⟩ <|
    match s.execute? r with
    | some (.created _, _) => [.debug .store "entity created" ["id"]]
    | _ => []

/-- The host of a browser. -/
abbrev Browser := Host MemoryStore History

/-- What is noted on a piece of work. -/
structure Trail where
  marks : List Mark
  /-- The host as it was when the program broke down, if it did. -/
  broken : Option Browser

namespace Trail

/-- A trail that goes on. -/
def of (marks : List Mark) : Trail := ⟨marks, none⟩

/-- A trail and the one that comes next, which there is not after a breakdown. -/
def append (first next : Trail) : Trail :=
  if first.broken.isSome then first else ⟨first.marks ++ next.marks, next.broken⟩

instance : Append Trail := ⟨append⟩

/-- A trail goes on exactly if both of its parts do. -/
theorem broken_append_eq_none_iff (first next : Trail) :
    (first ++ next).broken = none ↔ first.broken = none ∧ next.broken = none := by
  show (first.append next).broken = none ↔ _
  rw [append]
  cases hfirst : first.broken <;> simp [hfirst]

/-- A trail ends all spans that it begins, and no others. It ends early only where the store has no
room for another entity. -/
structure Sound (t : Trail) : Prop where
  balanced : Mark.Balanced t.marks
  exhausted : ∀ h, t.broken = some h → ¬ h.store.HasRoom

/-- A trail that goes on is sound if it ends its spans. -/
theorem sound_of {marks : List Mark} (hmarks : Mark.Balanced marks) : (of marks).Sound :=
  ⟨hmarks, fun _ hbroken => by cases hbroken⟩

/-- Where nothing is noted, no span is open. -/
theorem sound_nil : (of []).Sound := sound_of Mark.balanced_nil

/-- Trails one behind the other are sound if each of them is. -/
theorem sound_append {first next : Trail} (hfirst : first.Sound) (hnext : next.Sound) :
    (first ++ next).Sound := by
  show (first.append next).Sound
  rw [append]
  split
  · exact hfirst
  · exact ⟨Mark.balanced_append hfirst.balanced hnext.balanced, hnext.exhausted⟩

end Trail

namespace Host

/-! ### Handling events -/

/-- The trail of sending a request to the store. -/
def requestTrail (h : Browser) (r : StoreRequest) : Trail :=
  { marks := h.store.requestMarks r
    broken := if (h.store.execute? r).isNone then some h else none }

/-- The trail of an action. -/
def actionTrail (h : Browser) (a : Action) : Trail :=
  .of [.trace .host "executing action" ["action"]] ++
    match a with
    | .store _ r => if h.deferred then .of [] else h.requestTrail r
    | _ => .of []

/-- The trail of actions that are carried out in order. -/
def actionsTrail (h : Browser) : List Action → Trail
  | [] => .of []
  | a :: rest => h.actionTrail a ++ (h.execute a).actionsTrail rest

/-- The trail of handling the events that wait. -/
def drainTrail (fuel : Nat) (h : Browser) : Trail :=
  match h.queue with
  | [] => .of []
  | e :: rest =>
    match fuel with
    | 0 => .of []
    | fuel + 1 =>
      let turn := h.view.step h.clock e
      .of (h.view.marks h.clock e) ++
        match turn.answer with
        | .error _ => .of []
        | .ok actions =>
          let next : Browser := { h with view := turn.view, queue := rest }
          next.actionsTrail actions ++ drainTrail fuel (actions.foldl execute next)

/-- The trail of an event and all that follows from it. -/
def dispatchTrail (h : Browser) (e : Event) : Trail := (h.enqueue e).drainTrail stepLimit

/-! ### What a person and the world can do -/

/-- The trail of releasing a held request. -/
def releaseTrail (h : Browser) (ticket : Ticket) : Trail :=
  match h.inFlight.get? ticket with
  | none => .of []
  | some r =>
    let (reply, store) := h.store.execute r
    let released : Browser := { h with inFlight := h.inFlight.erase ticket, store }
    h.requestTrail r ++ released.dispatchTrail (.storeReplied ticket reply)

/-- The trail of releasing held requests, at most `fuel` of them. -/
def releaseUpToTrail (fuel : Nat) (h : Browser) : Trail :=
  match h.inFlight.keys with
  | [] => .of []
  | ticket :: _ =>
    match fuel with
    | 0 => .of []
    | fuel + 1 =>
      h.releaseTrail ticket ++
        match h.release ticket with
        | (.error _, _) => .of []
        | (.ok _, h) => releaseUpToTrail fuel h

/-- The trail of releasing all held requests. -/
def releaseAllTrail (h : Browser) : Trail := h.releaseUpToTrail (h.inFlight.size + stepLimit)

/-- The trail of timers that run out in order. -/
def fireTrail (h : Browser) : List Ticket → Trail
  | [] => .of []
  | timer :: rest =>
    h.dispatchTrail (.timerFired timer) ++
      match h.dispatch (.timerFired timer) with
      | (.error _, _) => .of []
      | (.ok _, h) => fireTrail h rest

/-- The trail of a decision on the newest open dialog. -/
def resolveTrail (h : Browser) (decision : DialogDecision) : Trail :=
  match h.newestDialog? with
  | some dialog => h.dispatchTrail (.dialogResolved dialog decision)
  | none => .of [.debug .script "no open dialog to resolve" []]

/-- The trail of what a command asks of the host. -/
def effectTrail (h : Browser) : Command → Trail
  | .navigate path => h.dispatchTrail (.routeChanged path)
  | .press button => h.dispatchTrail (.toolbarPressed button)
  | .confirm fields => h.resolveTrail (.confirmed fields)
  | .cancel => h.resolveTrail .cancelled
  | .edit => h.dispatchTrail .editRequested
  | .reset => h.dispatchTrail .sessionReset
  | .timers => fireTrail { h with timers := .empty } h.timers.keys
  | .defer _ => .of []
  | .release (some ticket) => h.releaseTrail ticket
  | .release none => h.releaseAllTrail

/-- The trail of a command. -/
def commandTrail (h : Browser) (command : Command) : Trail :=
  .of [.debug .script "running script command" ["command"]] ++ h.effectTrail command

/-! ### Laws -/

/-- A request whose trail goes on is answered, and the host gets that answer. -/
theorem execute?_of_unbroken {h : Browser} {r : StoreRequest}
    (hgoes : (h.requestTrail r).broken = none) :
    h.store.execute? r = some (h.store.execute r) := by
  rw [requestTrail] at hgoes
  cases hanswer : h.store.execute? r with
  | none => simp [hanswer] at hgoes
  | some answer => rw [MemoryStore.execute_of_execute? hanswer]

/-- Where the trail of actions goes on, each request that is not held back is answered in its
turn. -/
theorem execute?_of_unbroken_actions {h : Browser} {before after : List Action} {ticket : Ticket}
    {r : StoreRequest}
    (hgoes : (h.actionsTrail (before ++ .store ticket r :: after)).broken = none)
    (hsent : (before.foldl execute h).deferred = false) :
    (before.foldl execute h).store.execute? r =
      some ((before.foldl execute h).store.execute r) := by
  induction before generalizing h with
  | nil =>
    obtain ⟨haction, -⟩ := (Trail.broken_append_eq_none_iff _ _).1 hgoes
    obtain ⟨-, hrequest⟩ := (Trail.broken_append_eq_none_iff _ _).1 haction
    rw [List.foldl_nil] at hsent
    simp only [hsent, Bool.false_eq_true, if_false] at hrequest
    exact execute?_of_unbroken hrequest
  | cons a rest ih => exact ih ((Trail.broken_append_eq_none_iff _ _).1 hgoes).2 hsent

/-- The program breaks down on a request exactly if the store gives no answer to it. -/
theorem broken_requestTrail_eq_some_iff {h k : Browser} {r : StoreRequest} :
    (h.requestTrail r).broken = some k ↔ h.store.execute? r = none ∧ k = h := by
  rw [requestTrail]
  cases hanswer : h.store.execute? r <;> simp [eq_comm]

/-- What is noted on a request is a whole span, with or without an answer. -/
theorem sound_requestTrail (h : Browser) (r : StoreRequest) : (h.requestTrail r).Sound where
  balanced := Mark.balanced_within _ (by split <;> exact fun _ => rfl)
  exhausted k hbroken := by
    obtain ⟨hanswer, rfl⟩ := broken_requestTrail_eq_some_iff.1 hbroken
    obtain ⟨_, _, _, _, hroom⟩ := (MemoryStore.execute?_eq_none_iff _ _).1 hanswer
    exact hroom

/-- What is noted on actions is sound. -/
theorem sound_actionsTrail (h : Browser) (actions : List Action) :
    (h.actionsTrail actions).Sound := by
  induction actions generalizing h with
  | nil => exact Trail.sound_nil
  | cons a rest ih =>
    refine Trail.sound_append (Trail.sound_append (Trail.sound_of fun _ => rfl) ?_) (ih _)
    split
    · split
      · exact Trail.sound_nil
      · exact sound_requestTrail _ _
    · exact Trail.sound_nil

/-- What is noted on the events that wait is sound. -/
theorem sound_drainTrail (fuel : Nat) (h : Browser) : (h.drainTrail fuel).Sound := by
  induction fuel generalizing h with
  | zero =>
    rw [drainTrail]
    split <;> exact Trail.sound_nil
  | succ fuel ih =>
    rw [drainTrail]
    split
    · exact Trail.sound_nil
    · refine Trail.sound_append (Trail.sound_of (View.balanced_marks _ _ _)) ?_
      split
      · exact Trail.sound_nil
      · exact Trail.sound_append (sound_actionsTrail _ _) (ih _)

/-- What is noted on a released request is sound. -/
theorem sound_releaseTrail (h : Browser) (ticket : Ticket) : (h.releaseTrail ticket).Sound := by
  rw [releaseTrail]
  split
  · exact Trail.sound_nil
  · exact Trail.sound_append (sound_requestTrail _ _) (sound_drainTrail _ _)

/-- What is noted on released requests is sound. -/
theorem sound_releaseUpToTrail (fuel : Nat) (h : Browser) : (h.releaseUpToTrail fuel).Sound := by
  induction fuel generalizing h with
  | zero =>
    rw [releaseUpToTrail]
    split <;> exact Trail.sound_nil
  | succ fuel ih =>
    rw [releaseUpToTrail]
    split
    · exact Trail.sound_nil
    · refine Trail.sound_append (sound_releaseTrail _ _) ?_
      split
      · exact Trail.sound_nil
      · exact ih _

/-- What is noted on timers is sound. -/
theorem sound_fireTrail (h : Browser) (timers : List Ticket) : (h.fireTrail timers).Sound := by
  induction timers generalizing h with
  | nil => exact Trail.sound_nil
  | cons timer rest ih =>
    refine Trail.sound_append (sound_drainTrail _ _) ?_
    split
    · exact Trail.sound_nil
    · exact ih _

/-- What is noted on a command ends all spans that it begins, also if the program breaks down. That
happens only where the store has no room for another entity. -/
theorem sound_commandTrail (h : Browser) (command : Command) : (h.commandTrail command).Sound := by
  have hresolve (decision : DialogDecision) : (h.resolveTrail decision).Sound := by
    rw [resolveTrail]
    split
    · exact sound_drainTrail _ _
    · exact Trail.sound_of fun _ => rfl
  refine Trail.sound_append (Trail.sound_of fun _ => rfl) ?_
  cases command with
  | navigate _ | press _ | edit | reset => exact sound_drainTrail _ _
  | confirm _ | cancel => exact hresolve _
  | timers => exact sound_fireTrail _ _
  | defer _ => exact Trail.sound_nil
  | release ticket =>
    cases ticket
    · exact sound_releaseUpToTrail _ _
    · exact sound_releaseTrail _ _

end Host

end ConfigBrowser
