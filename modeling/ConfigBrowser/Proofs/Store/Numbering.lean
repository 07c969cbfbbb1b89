import Mathlib
import ConfigBrowser.Store.Memory

/-!
# The Numbers of New Entities

A store in memory numbers the entities that it creates. Its counter stays above every id that reads
as a number, since it is moved on whenever an entity with such an id is stored. So the number that
comes next is that of no entity, as long as the counter has not come to the end of its range. There
it stays where it is when entities are stored, and no more entities are created.

## Main results

* `MemoryStore.execute_put`: creating an entity takes the next id.
* `MemoryStore.Built.numbered`: the counter of every store is above the ids that read as numbers.
* `MemoryStore.Built.get?_freshId`: the id of the next entity is not taken.
-/

namespace ConfigBrowser.MemoryStore

/-- The id of the entity that is created next. -/
def freshId (s : MemoryStore) : String := toString s.nextId.toNat

/-- The stores that come of the empty one, by way of storing and locking entities and answering
requests. -/
inductive Built : MemoryStore → Prop where
  | empty : Built empty
  | insert {s : MemoryStore} (h : Built s) (e : Entity) : Built (s.insert e)
  | lock {s : MemoryStore} (h : Built s) (id : String) : Built (s.lock id)
  | execute {s : MemoryStore} (h : Built s) (r : StoreRequest) : Built (s.execute r).2

/-- The counter is above every id that reads as a number, as far as its range goes. -/
def Numbered (s : MemoryStore) : Prop :=
  ∀ id n, s.entities.contains id = true → Text.readCount UInt64.size id.toList = some n →
    min (n + 1) (UInt64.size - 1) ≤ s.nextId.toNat

/-- The next id is written in decimal digits. -/
theorem toList_freshId (s : MemoryStore) : s.freshId.toList = Text.digitsOf s.nextId.toNat := by
  simp [freshId, Text.digitsOf]

/-- The id of the next entity reads as its number. -/
theorem readCount_freshId (s : MemoryStore) :
    Text.readCount UInt64.size s.freshId.toList = some s.nextId.toNat := by
  rw [toList_freshId, Text.readCount_digitsOf s.nextId.toNat_lt_size]

/-- The next id is not empty. -/
theorem freshId_ne_empty (s : MemoryStore) : s.freshId ≠ "" := Nat.repr_ne_empty

/-- The next id has no colon, so that it can stand in a path. -/
theorem colon_not_mem_freshId (s : MemoryStore) : ':' ∉ s.freshId.toList := by
  intro hmem
  obtain ⟨before, after, hsplit⟩ := List.append_of_mem hmem
  have hvalue := Text.valueFrom_digitsOf s.nextId.toNat
  rw [← toList_freshId, hsplit, Text.valueFrom_append] at hvalue
  cases hbefore : Text.valueFrom 0 before <;>
    simp [hbefore, Text.valueFrom, Text.digitValue] at hvalue

/-- Creating an entity takes the next id, if the counter can be moved on. -/
theorem put_of_hasRoom {s : MemoryStore} (hroom : s.HasRoom) {name : String}
    (hname : Text.isAllBlank name = false) (payload : String) :
    s.put name payload = some (.created s.freshId,
      { s with
        entities := s.entities.insert s.freshId (entityOf s.freshId name payload)
        nextId := s.nextId + 1 }) := by
  rw [put, if_neg (by simp [hname]), if_pos hroom]
  rfl

/-- Nothing is created under a blank name. -/
theorem put_of_blank (s : MemoryStore) {name : String} (hname : Text.isAllBlank name = true)
    (payload : String) : s.put name payload = some (.error "name is required", s) :=
  if_pos hname

/-- Where the counter has no room, no entity is created. -/
theorem execute?_put_eq_none_iff (s : MemoryStore) {name : String}
    (hname : Text.isAllBlank name = false) (payload : String) :
    s.execute? (.put name payload) = none ↔ ¬ s.HasRoom := by
  rw [execute?_eq_none_iff]
  constructor
  · rintro ⟨_, _, _, _, hroom⟩
    exact hroom
  · exact fun hroom => ⟨name, payload, rfl, hname, hroom⟩

/-- A host gets the next id for the entity that it has created. -/
theorem execute_put {s : MemoryStore} (hroom : s.HasRoom) {name : String}
    (hname : Text.isAllBlank name = false) (payload : String) :
    s.execute (.put name payload) = (.created s.freshId,
      { s with
        entities := s.entities.insert s.freshId (entityOf s.freshId name payload)
        nextId := s.nextId + 1 }) :=
  execute_of_execute? (put_of_hasRoom hroom hname payload)

/-- A store is left as it is unless an entity is created. -/
theorem execute_put_eq_or (s : MemoryStore) (name payload : String) :
    (s.execute (.put name payload)).2 = s ∨ s.HasRoom ∧ Text.isAllBlank name = false := by
  cases hname : Text.isAllBlank name with
  | true =>
      left
      rw [execute, execute?, s.put_of_blank hname]
      rfl
  | false =>
      by_cases hroom : s.HasRoom
      · exact .inr ⟨hroom, rfl⟩
      · have hnone := (s.execute?_put_eq_none_iff hname payload).2 hroom
        rw [execute, hnone]
        exact .inl rfl

/-- Storing an entity never moves the counter back. -/
theorem le_counterAfter (counter : UInt64) (id : String) :
    counter.toNat ≤ (counterAfter counter id).toNat := by
  rw [counterAfter]
  split
  · rw [UInt64.toNat_max]
    exact le_max_left _ _
  · exact le_rfl

/-- An entity whose id reads as a number moves the counter above that number, or to its end. -/
theorem toNat_counterAfter_of_readCount (counter : UInt64) {id : String} {n : Nat}
    (hread : Text.readCount UInt64.size id.toList = some n) :
    (counterAfter counter id).toNat = max counter.toNat (min (n + 1) (UInt64.size - 1)) := by
  have hlt : min (n + 1) (UInt64.size - 1) < UInt64.size :=
    (Nat.min_le_right _ _).trans_lt (by decide)
  rw [counterAfter, hread]
  dsimp only
  rw [UInt64.toNat_max, UInt64.toNat_ofNat_of_lt' hlt]

/-- A counter with room goes on by one. -/
theorem toNat_succ {s : MemoryStore} (hroom : s.HasRoom) :
    (s.nextId + 1).toNat = s.nextId.toNat + 1 := by
  rw [HasRoom] at hroom
  rw [UInt64.toNat_add]
  exact Nat.mod_eq_of_lt (by simp only [UInt64.size] at hroom; simp; omega)

/-- What is stored besides an entity that is new was stored before. -/
theorem contains_insert_iff {entities : SortedMap String Entity} {id other : String} {e : Entity} :
    (entities.insert id e).contains other = true ↔ other = id ∨ entities.contains other = true := by
  rw [SortedMap.contains, SortedMap.get?_insert, SortedMap.contains]
  by_cases hsame : other = id <;> simp [hsame]

namespace Numbered

variable {s : MemoryStore} (h : s.Numbered)
include h

/-- Storing an entity moves the counter above its id. -/
theorem insert (e : Entity) : (s.insert e).Numbered := by
  intro id n hstored hread
  rcases contains_insert_iff.1 hstored with rfl | hstored
  · exact (le_max_right _ _).trans_eq (toNat_counterAfter_of_readCount s.nextId hread).symm
  · exact (h id n hstored hread).trans (le_counterAfter s.nextId e.id)

/-- Creating an entity moves the counter above the number that it takes. -/
theorem put (name payload : String) : (s.execute (.put name payload)).2.Numbered := by
  rcases s.execute_put_eq_or name payload with hsame | ⟨hroom, hname⟩
  · rwa [hsame]
  · rw [execute_put hroom hname]
    intro id n hstored hread
    dsimp only
    rw [toNat_succ hroom]
    rcases contains_insert_iff.1 hstored with rfl | hstored
    · obtain rfl : s.nextId.toNat = n := Option.some.inj (s.readCount_freshId.symm.trans hread)
      exact Nat.min_le_left _ _
    · exact (h id n hstored hread).trans (Nat.le_succ _)

/-- Deleting an entity leaves the counter above the others. -/
theorem delete (id : String) : (s.delete id).2.Numbered := by
  rcases s.delete_cases id with hdelete | ⟨text, hdelete⟩ <;> rw [hdelete]
  · intro other n hstored hread
    obtain ⟨e, hget⟩ := Option.isSome_iff_exists.1 hstored
    exact h other n (Option.isSome_iff_exists.2 ⟨e, SortedMap.get?_of_get?_erase hget⟩) hread
  · exact h

end Numbered

/-- The counter of every store is above the ids that read as numbers. -/
theorem Built.numbered {s : MemoryStore} (h : s.Built) : s.Numbered := by
  induction h with
  | empty => exact fun id n hstored _ => by cases hstored
  | insert _ e ih => exact ih.insert e
  | lock _ _ ih => exact ih
  | execute _ r ih =>
      cases r with
      | get _ | search _ => exact ih
      | put name payload => exact ih.put name payload
      | delete id => exact ih.delete id

/-- The id of the next entity is not taken. -/
theorem Numbered.get?_freshId {s : MemoryStore} (h : s.Numbered) (hroom : s.HasRoom) :
    s.get? s.freshId = none := by
  cases hget : s.get? s.freshId with
  | none => rfl
  | some e =>
      have hstored : s.entities.contains s.freshId = true := Option.isSome_iff_exists.2 ⟨e, hget⟩
      have hbelow := h _ _ hstored s.readCount_freshId
      rw [HasRoom] at hroom
      omega

/-- The id that a store hands out next is not taken. -/
theorem Built.get?_freshId {s : MemoryStore} (h : s.Built) (hroom : s.HasRoom) :
    s.get? s.freshId = none :=
  h.numbered.get?_freshId hroom

end ConfigBrowser.MemoryStore
