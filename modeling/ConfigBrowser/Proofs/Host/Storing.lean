import ConfigBrowser.Proofs.Host.Lagging
import ConfigBrowser.Proofs.Host.Prompt
import ConfigBrowser.Proofs.Store.Numbering
import ConfigBrowser.Proofs.View.Deletions

/-!
# The Store of a Host

Only a decision changes the store. A host that holds nothing back asks for one change at most in the
course of an operation, so its store comes of that before the operation by answering one request.

## Main results

* `Host.Prompt.store_perform`: what an operation makes of the store.
* `Host.Prompt.built_performAll`: the store comes of the empty one.
-/

namespace ConfigBrowser.Host

variable {η : Type} [HistoryStore η] {h : Host MemoryStore η} {e : Event} {rest : List Event}

/-- Only a decision changes the store, by one request at most. -/
theorem Prompt.store_handled (hp : h.Prompt) (hqueue : h.queue = e :: rest) :
    (h.handled e rest).store = h.store ∨
      (∃ dialog decision, e = .dialogResolved dialog decision) ∧
        ∃ r, (h.handled e rest).store = (h.store.execute r).2 := by
  have hstore : (h.handled e rest).store = ((h.view.step h.clock e).emitted.foldl Traffic.after
      { h.traffic with queue := rest }).store := congrArg Traffic.store (hp.traffic_handled hqueue)
  rw [hstore]
  by_cases hdecision : ∃ dialog decision, e = .dialogResolved dialog decision
  · obtain ⟨dialog, decision, rfl⟩ := hdecision
    have hone : ((h.view.step h.clock (.dialogResolved dialog decision)).emitted.filter
        Action.matters).length ≤ 1 := View.length_matters_of_decision dialog decision
    rw [← Traffic.foldl_after_filter_matters]
    generalize (h.view.step h.clock (.dialogResolved dialog decision)).emitted.filter
      Action.matters = actions at hone
    rcases actions with _ | ⟨a, _ | _⟩
    · exact .inl rfl
    · cases a with
      | store ticket r =>
          refine .inr ⟨⟨dialog, decision, rfl⟩, r, ?_⟩
          rw [List.foldl_cons, Traffic.after, if_neg (by simp [traffic, hp.deferred])]
          rfl
      | _ => exact .inl rfl
    · simp at hone
  · left
    rw [Traffic.foldl_after_immediate (by exact hp.deferred)]
    · rfl
    · intro ticket r hmem
      refine execute_of_reads ?_
      by_contra hwrites
      obtain ⟨p, fields, -, rfl, -⟩ := View.confirms_of_write hmem (by simpa using hwrites)
      exact hdecision ⟨p.ticket, _, rfl⟩

/-- The store is a given one or has answered one request since, and no further decision waits once
it has. -/
def ChangedOnce (store : MemoryStore) (h : Host MemoryStore η) : Prop :=
  h.store = store ∨ (∃ r, h.store = (store.execute r).2) ∧
    ∀ dialog decision, .dialogResolved dialog decision ∉ h.queue

/-- Handling an event keeps the store changed at most once. -/
theorem ChangedOnce.handled {store : MemoryStore} (hp : h.Prompt) (hqueue : h.queue = e :: rest)
    (hc : h.ChangedOnce store) : (h.handled e rest).ChangedOnce store := by
  have hrest : (∀ dialog decision, .dialogResolved dialog decision ∉ rest) →
      ∀ dialog decision, .dialogResolved dialog decision ∉ (h.handled e rest).queue := by
    intro hnone dialog decision hmem
    rcases h.handled_queue e rest _ hmem with hold | hreported
    · exact hnone dialog decision hold
    · cases hreported
  rcases hc with rfl | ⟨hchanged, hnone⟩
  · rcases hp.store_handled hqueue with hkept | ⟨⟨dialog, decision, rfl⟩, hchange⟩
    · exact .inl hkept
    · obtain rfl := hp.rest_eq_nil hqueue rfl
      exact .inr ⟨hchange, hrest fun _ _ => List.not_mem_nil⟩
  · rw [hqueue] at hnone
    rcases hp.store_handled hqueue with hkept | ⟨⟨dialog, decision, rfl⟩, -⟩
    · refine .inr ⟨by rwa [hkept], hrest fun dialog decision => ?_⟩
      exact List.not_mem_of_not_mem_cons (hnone dialog decision)
    · exact absurd List.mem_cons_self (hnone dialog decision)

/-- In the course of an operation the store answers one request that changes it, at most. -/
theorem Prompt.store_perform (hp : h.Prompt) (hqueue : h.queue = []) {op : Operation}
    (hop : op ≠ .setDeferred true) :
    (h.perform op).store = h.store ∨ ∃ r, (h.perform op).store = (h.store.execute r).2 := by
  have hacts : ∀ {h' : Host MemoryStore η} {e : Event}, h.Acts e h' →
      (h'.enqueue e).ChangedOnce h.store := by
    intro h' e hacts
    cases hacts with
    | release hheld =>
        rw [hp.inFlight] at hheld
        cases hheld
    | _ => exact .inl rfl
  obtain ⟨-, -, hchanged⟩ :=
    hp.perform_induction ChangedOnce.handled hqueue (fun _ => .inl rfl) hacts hop
  exact hchanged.imp_right And.left

/-- The store of a host comes of the empty one, whatever operations there are. -/
theorem Prompt.built_performAll (hp : h.Prompt) (hqueue : h.queue = []) (hstore : h.store.Built)
    {ops : List Operation} (hops : .setDeferred true ∉ ops) :
    (h.performAll ops).store.Built := by
  induction ops generalizing h with
  | nil => exact hstore
  | cons op later ih =>
      have hop : op ≠ .setDeferred true := (List.ne_of_not_mem_cons hops).symm
      have hnext : (h.perform op).store.Built := by
        rcases hp.store_perform hqueue hop with hsame | ⟨r, hchange⟩
        · rwa [hsame]
        · rw [hchange]
          exact hstore.execute r
      obtain ⟨hp', hqueue', -⟩ := hp.perform_induction (P := fun _ => True)
        (fun _ _ _ => trivial) hqueue (fun _ => trivial) (fun _ => trivial) hop
      exact ih hp' hqueue' hnext (List.not_mem_of_not_mem_cons hops)

end ConfigBrowser.Host
