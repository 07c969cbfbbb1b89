import ConfigBrowser.Proofs.Host.Mirroring
import ConfigBrowser.Proofs.Host.Replies

/-!
# Hosts That Hold Nothing Back

A host that never holds requests back has each of them answered before it comes to rest. So between
two operations its view waits for nothing, no timer is armed, and an operation is no more than one
event with all that follows from it.

## Main results

* `Host.Prompt.pending_eq_none`, `Host.Prompt.latestSearch_eq_none`: nothing is waited for at rest.
* `Host.Prompt.perform_induction`: what an operation keeps.
-/

namespace ConfigBrowser

variable {σ η : Type}

/-- Where requests are not held back, actions leave it at that. -/
theorem Traffic.foldl_after_prompt [RemoteStore σ] {t : Traffic σ} (ht : t.deferred = false)
    (actions : List Action) :
    (actions.foldl after t).deferred = false ∧ (actions.foldl after t).inFlight = t.inFlight := by
  induction actions generalizing t with
  | nil => exact ⟨ht, rfl⟩
  | cons a rest ih =>
      cases a with
      | store ticket r =>
          rw [List.foldl_cons, after, if_neg (by simp [ht])]
          exact ih ht
      | _ => exact ih ht

namespace Host

/-- A host that holds nothing back: it is in line with its view, and every reply that the view
expects waits to be handled. -/
structure Prompt (h : Host σ η) : Prop extends Answerable h where
  mirrors : h.Mirrors
  deferred : h.deferred = false
  inFlight : h.inFlight = .empty

namespace Prompt

variable {h : Host σ η} {e : Event} {rest : List Event}

/-! ### At rest -/

section Rest

variable (hp : h.Prompt) (hqueue : h.queue = [])
include hp hqueue

/-- A prompt host without events that wait is settled. -/
theorem settled : h.Settled := ⟨hp.toDisciplined, hqueue⟩

/-- No request is held, so no reply is expected. -/
theorem not_expects {ticket : Ticket} {R : StoreRequest → Prop} :
    ¬ h.view.Expects ticket R := fun hexpects => by
  obtain ⟨r, -, hheld⟩ := hp.held hqueue hexpects
  rw [hp.inFlight] at hheld
  cases hheld

/-- A prompt host without events that wait has no entity loading. -/
theorem pending_eq_none : h.view.pending = none := by
  cases hpending : h.view.pending with
  | none => rfl
  | some p =>
      obtain ⟨id, hid⟩ := Option.isSome_iff_exists.1 (hp.sound.pending p hpending)
      exact absurd (.entity hpending hid) (hp.not_expects hqueue)

/-- A prompt host without events that wait has no search going on. -/
theorem latestSearch_eq_none : h.view.latestSearch = none := by
  cases hsearch : h.view.latestSearch with
  | none => rfl
  | some ticket => exact absurd (.listing hsearch) (hp.not_expects hqueue)

/-- A prompt host without events that wait has no timer armed. -/
theorem timers_eq_empty : h.timers = .empty := by
  have harmed : h.timers = h.view.notice.timers := congrArg Notice.timers hp.mirrors.notice
  rw [harmed, View.notice, hp.pending_eq_none hqueue]

/-- No timer runs out. -/
theorem fireTimers_eq [RemoteStore σ] [HistoryStore η] : h.fireTimers.2 = h := by
  have hsame : { h with timers := .empty } = h := by rw [← hp.timers_eq_empty hqueue]
  change (fire { h with timers := .empty } h.timers.keys).2 = h
  rw [hsame, hp.timers_eq_empty hqueue]
  rfl

end Rest

/-! ### Operations -/

variable [RemoteStore σ] [HistoryStore η]

/-- Handling an event holds nothing back. -/
theorem handled (hp : h.Prompt) (hqueue : h.queue = e :: rest) : (h.handled e rest).Prompt where
  toAnswerable := hp.toAnswerable.handled hqueue
  mirrors := hp.mirrors.handled hp.toDisciplined hqueue
  deferred := by
    have hkept := (Traffic.foldl_after_prompt (t := { h.traffic with queue := rest }) hp.deferred
      (h.view.step h.clock e).emitted).1
    rwa [← hp.traffic_handled hqueue] at hkept
  inFlight := by
    have hkept := (Traffic.foldl_after_prompt (t := { h.traffic with queue := rest }) hp.deferred
      (h.view.step h.clock e).emitted).2
    rw [← hp.traffic_handled hqueue] at hkept
    exact hkept.trans hp.inFlight

omit [HistoryStore η] in
/-- What an operation does before its event holds nothing back. -/
theorem acts (hp : h.Prompt) (hqueue : h.queue = []) {h' : Host σ η} (hacts : h.Acts e h')
    (he : ∀ timer, e ≠ .timerFired timer) : (h'.enqueue e).Prompt where
  toAnswerable := hp.toAnswerable.acts hqueue hacts
  mirrors := hp.mirrors.acts (hp.settled hqueue) hacts he
  deferred := by
    cases hacts <;> exact hp.deferred
  inFlight := by
    cases hacts with
    | release hheld =>
        rw [hp.inFlight] at hheld
        cases hheld
    | _ => exact hp.inFlight

omit [RemoteStore σ] [HistoryStore η] in
/-- The clock does not matter. -/
theorem wait (hp : h.Prompt) (now : Int) : Prompt { h with clock := now } where
  sound := hp.sound
  issued := hp.issued
  nodup := hp.nodup
  alone := hp.alone
  owes := hp.owes
  mirrors := ⟨hp.mirrors.notice, hp.mirrors.timers, hp.mirrors.ahead, hp.mirrors.there⟩
  deferred := hp.deferred
  inFlight := hp.inFlight

/-- What an operation keeps that holds nothing back: what is kept whenever an event is handled, and
holds once the operation has done what comes before its event. -/
theorem perform_induction {P : Host σ η → Prop}
    (hhandled : ∀ {h : Host σ η} {e : Event} {rest : List Event}, h.Prompt →
      h.queue = e :: rest → P h → P (h.handled e rest))
    (hp : h.Prompt) (hqueue : h.queue = []) (hidle : ∀ clock, P { h with clock })
    (hacts : ∀ {h' : Host σ η} {e : Event}, h.Acts e h' → P (h'.enqueue e))
    {op : Operation} (hop : op ≠ .setDeferred true) :
    (h.perform op).Prompt ∧ (h.perform op).queue = [] ∧ P (h.perform op) := by
  have hstays : h.Prompt ∧ h.queue = [] ∧ P h := ⟨hp, hqueue, hidle h.clock⟩
  have hdispatch : ∀ {h' : Host σ η} {e : Event}, h.Acts e h' → (∀ timer, e ≠ .timerFired timer) →
      (h'.dispatch e).2.Prompt ∧ (h'.dispatch e).2.queue = [] ∧ P (h'.dispatch e).2 := by
    intro h' e he hnot
    obtain ⟨hsettled, hprompt, hP⟩ :=
      ((hp.settled hqueue).of_eq he.view_eq he.queue_eq).dispatch_induction
        (P := fun h => h.Prompt ∧ P h)
        (fun _ hnext h => ⟨h.1.handled hnext, hhandled h.1 hnext h.2⟩)
        ⟨hp.acts hqueue he hnot, hacts he⟩
    exact ⟨hprompt, hsettled.queue, hP⟩
  cases op with
  | navigate path => exact hdispatch (.navigate path) (by simp)
  | press button => exact hdispatch (.press button) (by simp)
  | requestEdit => exact hdispatch .requestEdit (by simp)
  | resolveDialog dialog decision => exact hdispatch (.decide dialog decision) (by simp)
  | reset => exact hdispatch .reset (by simp)
  | fireTimers =>
      rw [perform, hp.fireTimers_eq hqueue]
      exact hstays
  | release ticket =>
      have hnone : h.inFlight.get? ticket = none := by
        rw [hp.inFlight]
        rfl
      rw [perform, release, hnone]
      exact hstays
  | releaseAll =>
      have hnone : h.inFlight.keys = [] := by
        rw [hp.inFlight]
        rfl
      rw [perform, releaseAll, releaseUpTo.eq_def, hnone]
      exact hstays
  | setDeferred deferred =>
      cases deferred with
      | true => exact absurd rfl hop
      | false =>
          have hsame : h.setDeferred false = h := by rw [setDeferred, ← hp.deferred]
          rw [perform, hsame]
          exact hstays
  | wait now =>
      exact ⟨hp.wait now, hqueue, hidle now⟩

omit [RemoteStore σ] [HistoryStore η] in
/-- A new host is prompt. -/
theorem initial {page : String} {delay : Nat} {history : η} {view : View η}
    (hpage : ':' ∉ page.toList) (hview : View.initial page delay history = .ok view) (store : σ) :
    (Host.initial view store).Prompt where
  toAnswerable := .initial hpage hview store
  mirrors := .initial hview store
  deferred := rfl
  inFlight := rfl

end Prompt

end Host

end ConfigBrowser
