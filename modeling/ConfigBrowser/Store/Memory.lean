import ConfigBrowser.Store.Message
import ConfigBrowser.Store.NameSearch
import ConfigBrowser.Store.RootElement
import ConfigBrowser.Text.Digits

/-!
# The Store in Memory

A remote store that keeps its entities in memory. New entities are numbered: the counter is a
64-bit word that stays above every id that is the text of a number. The last number is handed out to
nobody: with the counter there, creating an entity breaks the program down before anything has
changed. Entities can be locked against deletion.

## Main results

* `MemoryStore.execute?_eq_none_iff`: only creating an entity breaks down, for want of numbers.
* `MemoryStore.execute_of_execute?`: an answer that the store gives is the one that a host gets.
* `MemoryStore.delete_cases`: what a deletion can come to.
* `MemoryStore.execute_search`: a search answers with a listing and changes nothing.
* `MemoryStore.execute_ne_created_empty`: new entities have ids.
* `MemoryStore.listing_sorted`: a listing ascends by name and, for equal names, by id.
-/

namespace ConfigBrowser

/-- A store in memory. -/
structure MemoryStore where
  entities : SortedMap String Entity
  /-- The ids that cannot be deleted. -/
  locked : List String
  /-- The number of the next entity to be created. -/
  nextId : UInt64
deriving DecidableEq, Repr

namespace MemoryStore

/-- The type of an entity whose document has no root element. -/
def unknownType : String := "Unknown"

/-- The store without entities. -/
def empty : MemoryStore := ⟨.empty, [], 1⟩

/-- The counter once an id is taken. At the end of its range it stays where it is. -/
def counterAfter (counter : UInt64) (id : String) : UInt64 :=
  match Text.readCount UInt64.size id.toList with
  | some n => max counter (UInt64.ofNat (min (n + 1) (UInt64.size - 1)))
  | none => counter

/-- Stores an entity under its id, in place of the one that was there. -/
def insert (s : MemoryStore) (e : Entity) : MemoryStore :=
  { s with entities := s.entities.insert e.id e, nextId := counterAfter s.nextId e.id }

/-- A store that holds the given entities. -/
def ofEntities (entities : List Entity) : MemoryStore := entities.foldl insert empty

/-- Keeps an id from being deleted. -/
def lock (s : MemoryStore) (id : String) : MemoryStore := { s with locked := id :: s.locked }

/-- The entity with an id. -/
def get? (s : MemoryStore) (id : String) : Option Entity := s.entities.get? id

/-- The number of entities. -/
def size (s : MemoryStore) : Nat := s.entities.size

/-- Does an entity answer a query? -/
def answers (query : SearchQuery) (e : Entity) : Bool :=
  (match query.kind with
    | some kind => kind = "" || e.kind = kind
    | none => true) &&
  match query.name.bind Store.patternOf with
  | some pattern => Store.nameMatches pattern e.name.toList
  | none => true

/-- The order of rows: by name, then by id. -/
def rowOrder : EntitySummary → EntitySummary → Ordering :=
  compareLex (compareOn EntitySummary.name) (compareOn EntitySummary.id)

/-- Does a row come before another one, or is it equal to it? -/
def rowLE (a b : EntitySummary) : Bool := (rowOrder a b).isLE

/-- The rows that answer a query, by name and id. -/
def listing (s : MemoryStore) (query : SearchQuery) : List EntitySummary :=
  ((s.entities.values.filter (answers query)).map Entity.summary).mergeSort rowLE

/-- The answer about an id that is not there. -/
def notFound (id : String) : StoreReply := .error ("configuration " ++ id ++ " not found")

/-- The entity that a document becomes. -/
def entityOf (id name payload : String) : Entity :=
  { id
    kind := (Store.rootElement payload.toList).elim unknownType String.ofList
    name
    data := .object [("xml", .string payload)] }

/-- Can the counter be moved on? -/
def HasRoom (s : MemoryStore) : Prop := s.nextId.toNat < UInt64.size - 1

instance (s : MemoryStore) : Decidable s.HasRoom :=
  inferInstanceAs (Decidable (s.nextId.toNat < UInt64.size - 1))

/-- Creates an entity with the next number as its id. The counter is moved on first, and where it
cannot be there is no answer. -/
def put (s : MemoryStore) (name payload : String) : Option (StoreReply × MemoryStore) :=
  if Text.isAllBlank name then some (.error "name is required", s)
  else if s.HasRoom then
    let id := toString s.nextId.toNat
    let entities := s.entities.insert id (entityOf id name payload)
    some (.created id, { s with entities, nextId := s.nextId + 1 })
  else none

/-- Deletes an entity, unless it is locked. -/
def delete (s : MemoryStore) (id : String) : StoreReply × MemoryStore :=
  if s.locked.contains id then (.error "locked", s)
  else if s.entities.contains id then (.deleted, { s with entities := s.entities.erase id })
  else (notFound id, s)

/-- Answers a request. Without an answer the program breaks down. -/
def execute? (s : MemoryStore) : StoreRequest → Option (StoreReply × MemoryStore)
  | .get id => some ((s.get? id).elim (notFound id) .entity, s)
  | .put name payload => s.put name payload
  | .delete id => some (s.delete id)
  | .search query => some (.listing (s.listing query), s)

/-- The answer to a request, and the store after it. A failure that leaves the store as it is stands
in for an answer that is not given. No program goes on with it, which `Host.commandTrail` tells. -/
def execute (s : MemoryStore) (r : StoreRequest) : StoreReply × MemoryStore :=
  (s.execute? r).getD (.error "out of numbers", s)

instance : RemoteStore MemoryStore := ⟨execute⟩

/-- An answer that the store gives is the one that a host gets. -/
theorem execute_of_execute? {s after : MemoryStore} {r : StoreRequest} {reply : StoreReply}
    (h : s.execute? r = some (reply, after)) : s.execute r = (reply, after) := by
  rw [execute, h]
  rfl

/-- A request breaks down exactly if it is to create an entity and the counter cannot be moved on. A
blank name is refused before. -/
theorem execute?_eq_none_iff (s : MemoryStore) (r : StoreRequest) :
    s.execute? r = none ↔
      ∃ name payload, r = .put name payload ∧ Text.isAllBlank name = false ∧ ¬ s.HasRoom := by
  cases r with
  | put name payload =>
      rw [execute?, put]
      by_cases hblank : Text.isAllBlank name = true <;> by_cases hroom : s.HasRoom <;>
        simp [hblank, hroom]
  | get _ | delete _ | search _ => simp [execute?]

/-- The store deletes an entity that is there and not locked. -/
theorem delete_of_stored {s : MemoryStore} {id : String} (hstored : (s.get? id).isSome = true)
    (hlocked : id ∉ s.locked) :
    s.delete id = (.deleted, { s with entities := s.entities.erase id }) := by
  have hcontains : s.entities.contains id = true := hstored
  rw [delete, if_neg (by simpa using hlocked), if_pos hcontains]

/-- The store refuses to delete any other id, and stays as it is. -/
theorem delete_of_refused {s : MemoryStore} {id : String}
    (hrefused : ¬ ((s.get? id).isSome = true ∧ id ∉ s.locked)) :
    ∃ text, s.delete id = (.error text, s) := by
  rw [delete]
  split
  · exact ⟨_, rfl⟩
  · next hlocked =>
    have hnone : ¬ s.entities.contains id = true :=
      fun hstored => hrefused ⟨hstored, by simpa using hlocked⟩
    rw [if_neg hnone]
    exact ⟨_, rfl⟩

/-- A deletion takes one entity away, or it is refused and changes nothing. -/
theorem delete_cases (s : MemoryStore) (id : String) :
    s.delete id = (.deleted, { s with entities := s.entities.erase id }) ∨
      ∃ text, s.delete id = (.error text, s) := by
  by_cases hstored : (s.get? id).isSome = true ∧ id ∉ s.locked
  · exact .inl (delete_of_stored hstored.1 hstored.2)
  · exact .inr (delete_of_refused hstored)

/-- A search answers with a listing and changes nothing. -/
theorem execute_search (s : MemoryStore) (query : SearchQuery) :
    s.execute (.search query) = (.listing (s.listing query), s) := rfl

/-- The store in memory never creates an entity with an empty id. -/
theorem execute_ne_created_empty (s : MemoryStore) (r : StoreRequest) :
    (s.execute r).1 ≠ .created "" := by
  cases r with
  | get id =>
      rw [execute, execute?, Option.getD_some]
      cases s.get? id <;> simp [notFound]
  | put name payload =>
      rw [execute, execute?, put]
      split
      · simp
      · split
        · simp [Nat.repr_ne_empty]
        · simp
  | delete id =>
      rw [execute, execute?, Option.getD_some]
      rcases s.delete_cases id with hdelete | ⟨text, hdelete⟩ <;> simp [hdelete]
  | search query => simp [execute_search]

instance : Std.TransCmp rowOrder :=
  inferInstanceAs (Std.TransCmp (compareLex (compareOn EntitySummary.name) (compareOn _)))

/-- The order of rows is transitive. -/
theorem rowLE_trans (a b c : EntitySummary) (hab : rowLE a b) (hbc : rowLE b c) : rowLE a c :=
  Std.TransCmp.isLE_trans hab hbc

/-- The order of rows is total. -/
theorem rowLE_total (a b : EntitySummary) : rowLE a b || rowLE b a := by
  have hswap : rowOrder b a = (rowOrder a b).swap := Std.OrientedCmp.eq_swap
  rw [rowLE, rowLE, hswap]
  cases rowOrder a b <;> rfl

/-- The rows of a listing stand in their order. -/
theorem listing_sorted (s : MemoryStore) (query : SearchQuery) :
    (s.listing query).Pairwise fun a b => rowLE a b :=
  List.pairwise_mergeSort rowLE_trans rowLE_total _

end MemoryStore

end ConfigBrowser
