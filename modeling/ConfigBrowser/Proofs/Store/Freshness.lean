import ConfigBrowser.Proofs.Store.Numbering
import Mathlib

/-!
# New Entities along a Run

Entities are stored, locked, created, deleted and searched for, in any order. As long as the counter
of the store has room, every entity that is created gets an id of its own: no stored entity has it,
and none that was created before had it, even if it has been deleted since.

The counter has room while the numbers that have been taken, counted without a bound, leave it one
to go on to. An entity that is stored under the last number of all takes the counter to its end, and
there it stays: the next entity cannot be created, and the program breaks down over it.

## Main results

* `MemoryStore.Tracked.step`: what is known of the counter along a run.
* `MemoryStore.fresh_numbers_iff`: all entities of a run are created under ids of their own exactly
  if the counter has room for each, and a run without room ends with the next entity.
-/

namespace ConfigBrowser

/-- The id under which an entity has been created, as a reply tells it. -/
def StoreReply.created? : StoreReply → Option String
  | created id => some id
  | _ => none

namespace MemoryStore

/-! ### Runs -/

/-- What is done to a store. -/
inductive Deed where
  | insert (e : Entity)
  | lock (id : String)
  | request (r : StoreRequest)
deriving DecidableEq, Repr

/-- The store after a deed. One that breaks down leaves it as it is, and nothing follows it. -/
def act (s : MemoryStore) : Deed → MemoryStore
  | .insert e => s.insert e
  | .lock id => s.lock id
  | .request r => (s.execute r).2

/-- The id that a deed hands out, if it creates an entity. -/
def handsOut (s : MemoryStore) : Deed → Option String
  | .request r => (s.execute r).1.created?
  | .insert _ | .lock _ => none

/-- The store after deeds in order. -/
def after (s : MemoryStore) (deeds : List Deed) : MemoryStore := deeds.foldl act s

/-- The ids that deeds hand out, in order. -/
def handedOut (s : MemoryStore) : List Deed → List String
  | [] => []
  | deed :: deeds => (s.handsOut deed).toList ++ (s.act deed).handedOut deeds

/-- The last of several deeds is done last. -/
theorem after_append_singleton (s : MemoryStore) (deeds : List Deed) (deed : Deed) :
    s.after (deeds ++ [deed]) = (s.after deeds).act deed := by
  rw [after, List.foldl_append]
  rfl

/-- The id that the last deed hands out comes last. -/
theorem handedOut_append_singleton (s : MemoryStore) (deeds : List Deed) (deed : Deed) :
    s.handedOut (deeds ++ [deed]) =
      s.handedOut deeds ++ ((s.after deeds).handsOut deed).toList := by
  induction deeds generalizing s with
  | nil => simp [handedOut, after]
  | cons first deeds ih =>
      rw [List.cons_append, handedOut, ih, handedOut, List.append_assoc]
      rfl

/-- A store that holds given entities is one in which they have been stored. -/
theorem ofEntities_eq_after (entities : List Entity) :
    ofEntities entities = empty.after (entities.map .insert) := by
  rw [ofEntities, after, List.foldl_map]
  rfl

/-- The number above all that have been taken, given that before a deed. There is no bound to it. -/
def Deed.count (n : Nat) : Deed → Nat
  | .insert e =>
    match Text.readCount UInt64.size e.id.toList with
    | some taken => max n (taken + 1)
    | none => n
  | .request (.put name _) => if Text.isAllBlank name then n else n + 1
  | .request _ | .lock _ => n

/-- The number above all that deeds have taken. -/
def reached (deeds : List Deed) : Nat := deeds.foldl Deed.count 1

/-- The number above all goes on with the last deed. -/
theorem reached_append_singleton (deeds : List Deed) (deed : Deed) :
    reached (deeds ++ [deed]) = deed.count (reached deeds) := by
  rw [reached, List.foldl_append]
  rfl

/-- A deed takes no number back. -/
theorem le_count (n : Nat) (deed : Deed) : n ≤ deed.count n := by
  rw [Deed.count.eq_def]
  split
  · split
    · exact le_max_left _ _
    · exact le_rfl
  · split
    · exact le_rfl
    · exact Nat.le_succ n
  · exact le_rfl
  · exact le_rfl

/-- Does something hold wherever deeds create an entity? It may speak of the deeds before, and of
the name and the payload of the entity. -/
def AtEachPut (deeds : List Deed) (P : List Deed → String → String → Prop) : Prop :=
  ∀ before name payload, Text.isAllBlank name = false →
    before ++ [.request (.put name payload)] <+: deeds → P before name payload

/-- Without deeds no entity is created. -/
theorem atEachPut_nil {P : List Deed → String → String → Prop} : AtEachPut [] P := by
  intro before name payload _ hinit
  exact absurd (List.prefix_nil.1 hinit) (by simp)

/-- What holds wherever deeds create an entity holds before the last one and at it. -/
theorem atEachPut_append_singleton {deeds : List Deed} {deed : Deed}
    {P : List Deed → String → String → Prop} :
    AtEachPut (deeds ++ [deed]) P ↔ AtEachPut deeds P ∧
      ∀ name payload, Text.isAllBlank name = false → deed = .request (.put name payload) →
        P deeds name payload := by
  constructor
  · intro h
    refine ⟨fun before name payload hname hinit => ?_, fun name payload hname hdeed => ?_⟩
    · exact h before name payload hname (hinit.trans (List.prefix_append ..))
    · exact h deeds name payload hname (hdeed ▸ List.prefix_refl _)
  · rintro ⟨hbefore, hlast⟩ before name payload hname hinit
    rcases List.prefix_concat_iff.1 hinit with heq | hinit
    · obtain ⟨rfl, hdeed⟩ := List.append_inj' heq rfl
      exact hlast name payload hname (List.cons.inj hdeed).1.symm
    · exact hbefore before name payload hname hinit

/-! ### One entity -/

/-- An entity is created under an id of its own: neither stored nor handed out before, and with the
counter moved on. All other entities are left as they are. -/
structure CreatesAfresh (s : MemoryStore) (handed : List String) (name payload id : String)
    (after : MemoryStore) : Prop where
  answer : s.execute? (.put name payload) = some (.created id, after)
  free : s.get? id = none
  unused : id ∉ handed
  stored : ∀ other, after.get? other =
    if other = id then some (entityOf id name payload) else s.get? other
  size : after.size = s.size + 1
  counter : after.nextId.toNat = s.nextId.toNat + 1

/-- An entity under an id that is not stored is one more. -/
theorem size_insert_of_get?_eq_none {entities : SortedMap String Entity} {id : String}
    (hnew : entities.get? id = none) (e : Entity) :
    (entities.insert id e).size = entities.size + 1 := by
  have hget : (entities.insert id e).get? id = some e := by rw [SortedMap.get?_insert, if_pos rfl]
  have hlt := SortedMap.size_erase_lt hget
  rw [SortedMap.erase_insert hnew] at hlt
  exact Nat.le_antisymm (SortedMap.size_insert_le ..) hlt

/-- A counter with room gives an entity an id of its own, if its number has not been handed out. -/
theorem Numbered.createsAfresh {s : MemoryStore} (h : s.Numbered) (hroom : s.HasRoom)
    {handed : List String} (hhanded : s.freshId ∉ handed) {name : String}
    (hname : Text.isAllBlank name = false) (payload : String) :
    ∃ after, CreatesAfresh s handed name payload s.freshId after :=
  have hfree := h.get?_freshId hroom
  ⟨_, {
    answer := put_of_hasRoom hroom hname payload
    free := hfree
    unused := hhanded
    stored := fun _ => SortedMap.get?_insert ..
    size := size_insert_of_get?_eq_none hfree _
    counter := toNat_succ hroom }⟩

/-! ### The counter along a run -/

/-- What is known after deeds that had room for every entity they created: the counter is as far as
the numbers that have been taken, or at its end, and all ids that have been handed out are below. -/
structure Tracked (deeds : List Deed) : Prop where
  numbered : (empty.after deeds).Numbered
  counter : (empty.after deeds).nextId.toNat = min (reached deeds) (UInt64.size - 1)
  handed : ∀ id ∈ empty.handedOut deeds, ∃ n < (empty.after deeds).nextId.toNat, id = toString n

/-- The empty store begins to count at one. -/
theorem tracked_nil : Tracked [] where
  numbered := fun _ _ hstored _ => by cases hstored
  counter := by decide
  handed := fun id hid => absurd hid List.not_mem_nil

/-- Storing an entity moves the counter as far as its number is, or to its end. -/
theorem toNat_counterAfter (counter : UInt64) (e : Entity) {n : Nat}
    (hcounter : counter.toNat = min n (UInt64.size - 1)) :
    (counterAfter counter e.id).toNat = min ((Deed.insert e).count n) (UInt64.size - 1) := by
  rw [Deed.count]
  cases hread : Text.readCount UInt64.size e.id.toList with
  | none => rwa [counterAfter, hread]
  | some taken =>
      dsimp only
      rw [toNat_counterAfter_of_readCount counter hread, hcounter]
      generalize UInt64.size - 1 = last
      omega

namespace Tracked

variable {deeds : List Deed} (h : Tracked deeds)
include h

/-- Where the numbers that have been taken leave room, so does the counter. -/
theorem hasRoom_iff : (empty.after deeds).HasRoom ↔ reached deeds < UInt64.size - 1 := by
  rw [HasRoom, h.counter]
  omega

/-- The next id has not been handed out. -/
theorem freshId_not_mem : (empty.after deeds).freshId ∉ empty.handedOut deeds := by
  intro hmem
  obtain ⟨n, hn, hid⟩ := h.handed _ hmem
  have hsame : (empty.after deeds).nextId.toNat = n := Nat.repr_inj.1 hid
  omega

/-- A deed that hands out no id and moves the counter as far as the numbers. -/
theorem step_of_handsOut_eq_none {deed : Deed}
    (hnone : (empty.after deeds).handsOut deed = none)
    (hnumbered : ((empty.after deeds).act deed).Numbered)
    (hcounter : ((empty.after deeds).act deed).nextId.toNat =
      min (deed.count (reached deeds)) (UInt64.size - 1))
    (hle : (empty.after deeds).nextId.toNat ≤ ((empty.after deeds).act deed).nextId.toNat) :
    Tracked (deeds ++ [deed]) := by
  refine ⟨?_, ?_, fun id hid => ?_⟩
  · rwa [after_append_singleton]
  · rw [after_append_singleton, reached_append_singleton, hcounter]
  · rw [handedOut_append_singleton, hnone] at hid
    obtain ⟨n, hn, rfl⟩ := h.handed id (by simpa using hid)
    rw [after_append_singleton]
    exact ⟨n, hn.trans_le hle, rfl⟩

/-- A put that creates an entity, with room for its number. -/
theorem step_put {name : String} (hname : Text.isAllBlank name = false)
    (hroom : reached deeds < UInt64.size - 1) (payload : String) :
    Tracked (deeds ++ [.request (.put name payload)]) := by
  have hput := execute_put (h.hasRoom_iff.2 hroom) hname payload
  have hmoved := toNat_succ (h.hasRoom_iff.2 hroom)
  have hcount : (Deed.request (.put name payload)).count (reached deeds) = reached deeds + 1 :=
    if_neg (by simp [hname])
  have hcounter : ((empty.after deeds).act (.request (.put name payload))).nextId.toNat =
      (empty.after deeds).nextId.toNat + 1 := by
    rw [act, hput, hmoved]
  refine ⟨?_, ?_, fun id hid => ?_⟩
  · rw [after_append_singleton]
    exact h.numbered.put name payload
  · rw [after_append_singleton, reached_append_singleton, hcount, hcounter, h.counter]
    omega
  · rw [after_append_singleton, hcounter]
    rw [handedOut_append_singleton, handsOut, hput, List.mem_append] at hid
    rcases hid with hbefore | hnew
    · obtain ⟨n, hn, rfl⟩ := h.handed id hbefore
      exact ⟨n, Nat.lt_succ_of_lt hn, rfl⟩
    · obtain rfl : id = (empty.after deeds).freshId := by
        simpa [StoreReply.created?] using hnew
      exact ⟨_, Nat.lt_succ_self _, rfl⟩

/-- One deed more, with room for the entity that it may create. -/
theorem step {deed : Deed}
    (hroom : ∀ name payload, Text.isAllBlank name = false → deed = .request (.put name payload) →
      reached deeds < UInt64.size - 1) :
    Tracked (deeds ++ [deed]) := by
  cases deed with
  | insert e =>
      exact h.step_of_handsOut_eq_none rfl (h.numbered.insert e)
        (toNat_counterAfter _ e h.counter) (le_counterAfter _ e.id)
  | lock id => exact h.step_of_handsOut_eq_none rfl h.numbered h.counter le_rfl
  | request r =>
      cases r with
      | get id =>
          refine h.step_of_handsOut_eq_none ?_ h.numbered h.counter le_rfl
          rw [handsOut, execute, execute?, Option.getD_some]
          cases (empty.after deeds).get? id <;> rfl
      | search query => exact h.step_of_handsOut_eq_none rfl h.numbered h.counter le_rfl
      | delete id =>
          have hkept : ((empty.after deeds).delete id).2.nextId = (empty.after deeds).nextId ∧
              ((empty.after deeds).delete id).1.created? = none := by
            rcases (empty.after deeds).delete_cases id with hdelete | ⟨text, hdelete⟩ <;>
              rw [hdelete] <;> exact ⟨rfl, rfl⟩
          refine h.step_of_handsOut_eq_none hkept.2 (h.numbered.delete id) ?_ ?_
          · exact (congrArg UInt64.toNat hkept.1).trans h.counter
          · exact (congrArg UInt64.toNat hkept.1).ge
      | put name payload =>
          cases hname : Text.isAllBlank name with
          | false => exact h.step_put hname (hroom name payload hname rfl) payload
          | true =>
              have hput : (empty.after deeds).execute (.put name payload) =
                  (.error "name is required", empty.after deeds) :=
                execute_of_execute? (put_of_blank _ hname payload)
              have hcount : (Deed.request (.put name payload)).count (reached deeds) =
                  reached deeds := if_pos hname
              have hact : (empty.after deeds).act (.request (.put name payload)) =
                  empty.after deeds := by rw [act, hput]
              refine h.step_of_handsOut_eq_none ?_ ?_ ?_ ?_
              · rw [handsOut, hput]
                rfl
              · rw [hact]
                exact h.numbered
              · rw [hact, hcount, h.counter]
              · rw [hact]

end Tracked

/-- Deeds that have room for every entity that they create. -/
theorem tracked_of_room {deeds : List Deed}
    (hroom : AtEachPut deeds fun before _ _ => reached before < UInt64.size - 1) :
    Tracked deeds := by
  induction deeds using List.reverseRecOn with
  | nil => exact tracked_nil
  | append_singleton deeds deed ih =>
      obtain ⟨hbefore, hlast⟩ := atEachPut_append_singleton.1 hroom
      exact (ih hbefore).step hlast

/-- Every put with a name that is not blank creates an entity under an id of its own exactly if the
numbers that have been taken leave room for each: the id is neither stored nor was it handed out
before, all other entities are left, and the counter moves on. The numbers that are taken are those
of the entities that are stored, as far as their ids read as numbers of 64 bits, and those of the
entities that are created. Behind a run that had room for its entities, the next put breaks the
program down exactly if no room is left. -/
theorem fresh_numbers_iff (deeds : List Deed) :
    ((AtEachPut deeds fun before name payload => ∃ id after,
      CreatesAfresh (empty.after before) (empty.handedOut before) name payload id after) ↔
    AtEachPut deeds fun before _ _ => reached before < UInt64.size - 1) ∧
    ((AtEachPut deeds fun before _ _ => reached before < UInt64.size - 1) →
      ∀ name payload, Text.isAllBlank name = false →
        ((empty.after deeds).execute? (.put name payload) = none ↔
          UInt64.size - 1 ≤ reached deeds)) := by
  refine ⟨?_, fun hroom name payload hname => ?_⟩
  · induction deeds using List.reverseRecOn with
    | nil => exact iff_of_true atEachPut_nil atEachPut_nil
    | append_singleton deeds deed ih =>
        rw [atEachPut_append_singleton, atEachPut_append_singleton, ih]
        refine and_congr_right fun hroom => ?_
        have htracked := tracked_of_room hroom
        refine forall₄_congr fun name payload hname _ => ?_
        rw [← htracked.hasRoom_iff]
        constructor
        · rintro ⟨id, after, hcreates⟩
          by_contra hfull
          have hnone := (execute?_put_eq_none_iff _ hname payload).2 hfull
          exact Option.some_ne_none _ (hcreates.answer.symm.trans hnone)
        · exact fun hhas =>
            ⟨_, htracked.numbered.createsAfresh hhas htracked.freshId_not_mem hname payload⟩
  · rw [execute?_put_eq_none_iff _ hname, (tracked_of_room hroom).hasRoom_iff, Nat.not_lt]

/-- There is room for every entity if all numbers together fit into the counter. -/
theorem room_of_reached_le {deeds : List Deed} (h : reached deeds ≤ UInt64.size - 1) :
    AtEachPut deeds fun before _ _ => reached before < UInt64.size - 1 := by
  induction deeds using List.reverseRecOn with
  | nil => exact atEachPut_nil
  | append_singleton deeds deed ih =>
      rw [reached_append_singleton] at h
      refine atEachPut_append_singleton.2 ⟨ih ((le_count _ deed).trans h), ?_⟩
      rintro name payload hname rfl
      rw [Deed.count, hname] at h
      exact h

/-- Numbers are not handed out again when their entities are deleted. Once an entity is stored under
the last number of all, no more are created, although its own number was never handed out. -/
theorem fresh_numbers_until_the_last :
    let create name := Deed.request (.put name "<a/>")
    let last : Entity := ⟨"18446744073709551615", "ViewDefinition", "old", .null⟩
    let s := ofEntities [last]
    (AtEachPut [.insert { last with id := "+07" }, create "a", .request (.delete "8"), create "b"]
      fun before name payload => ∃ id after,
        CreatesAfresh (empty.after before) (empty.handedOut before) name payload id after) ∧
    s = empty.after [.insert last] ∧ s.execute? (.put "new" "<a/>") = none ∧
    ¬ AtEachPut [.insert last, create "new"] fun before name payload => ∃ id after,
        CreatesAfresh (empty.after before) (empty.handedOut before) name payload id after := by
  intro create last s
  have hafter : s = empty.after [.insert last] := ofEntities_eq_after [last]
  have hfull : UInt64.size - 1 ≤ reached [.insert last] := by decide +kernel
  -- No entity is created on the way to the last number.
  have hroom : AtEachPut [.insert last] fun before _ _ => reached before < UInt64.size - 1 :=
    atEachPut_append_singleton.2 ⟨atEachPut_nil, fun _ _ _ hput => by cases hput⟩
  refine ⟨(fresh_numbers_iff _).1.2 (room_of_reached_le (by decide +kernel)), hafter, ?_,
    fun hfresh => ?_⟩
  · rw [hafter]
    exact ((fresh_numbers_iff _).2 hroom "new" "<a/>" (by decide)).2 hfull
  · have hlt := (fresh_numbers_iff _).1.1 hfresh [.insert last] "new" "<a/>" (by decide)
      (List.prefix_refl _)
    exact absurd hlt (Nat.not_lt.2 hfull)

end MemoryStore

end ConfigBrowser
