/-!
# Sorted Maps

Finite maps as lists of entries in strictly increasing key order. The order is part of the
type, so a map has exactly one representation and two maps are equal when they answer every
look-up alike. Route arguments, stored entities, history lists, held requests, armed timers and
open dialogs are all such maps.

## Main results

* `SortedMap.ext_get?`: maps that answer every look-up alike are equal.
* `SortedMap.get?_insert`, `SortedMap.get?_erase`, `SortedMap.get?_filterKeys`,
  `SortedMap.get?_mapValues`: what each operation does to look-up.
* `SortedMap.size_insert_le`, `SortedMap.size_filterKeys_lt`: how the number of entries changes.
* `SortedMap.length_le_size`, `SortedMap.size_le_length`: counting the entries by their keys.
* `SortedMap.ofList_entries`: a map is rebuilt from its entries.
-/

namespace ConfigBrowser

universe u v

/-- A finite map, kept as its entries in strictly increasing key order. -/
structure SortedMap (κ : Type u) (α : Type v) [Ord κ] where
  /-- The key/value pairs. -/
  entries : List (κ × α)
  /-- No key comes twice and keys ascend. -/
  sorted : entries.Pairwise fun a b => compare a.1 b.1 = .lt

namespace SortedMap

variable {κ : Type u} {α : Type v} [Ord κ]

/-- A map is known by its entries. -/
theorem ext_entries {m n : SortedMap κ α} (h : m.entries = n.entries) : m = n := by
  cases m; cases n; cases h; rfl

instance [DecidableEq κ] [DecidableEq α] : DecidableEq (SortedMap κ α) := fun m n =>
  decidable_of_iff (m.entries = n.entries) ⟨ext_entries, fun h => h ▸ rfl⟩

/-- The map without entries. -/
def empty : SortedMap κ α := ⟨[], .nil⟩

instance : Inhabited (SortedMap κ α) := ⟨empty⟩

instance [Repr κ] [Repr α] : Repr (SortedMap κ α) := ⟨fun m p => reprPrec m.entries p⟩

/-- The value of the first pair with a given key. -/
def find [DecidableEq κ] (k : κ) : List (κ × α) → Option α
  | [] => none
  | e :: rest => if k = e.1 then some e.2 else find k rest

/-- The value stored under a key. -/
def get? [DecidableEq κ] (m : SortedMap κ α) (k : κ) : Option α := find k m.entries

/-- Is there a value under the key? -/
def contains [DecidableEq κ] (m : SortedMap κ α) (k : κ) : Bool := (m.get? k).isSome

/-- The keys in ascending order. -/
def keys (m : SortedMap κ α) : List κ := m.entries.map (·.1)

/-- The values in ascending order of their keys. -/
def values (m : SortedMap κ α) : List α := m.entries.map (·.2)

/-- The number of entries. -/
def size (m : SortedMap κ α) : Nat := m.entries.length

/-- Are there no entries? -/
def isEmpty (m : SortedMap κ α) : Bool := m.entries.isEmpty

/-- Puts an entry in its place in an ascending list, replacing the value of an equal key. -/
def insertEntry (k : κ) (v : α) : List (κ × α) → List (κ × α)
  | [] => [(k, v)]
  | e :: rest =>
    match compare k e.1 with
    | .lt => (k, v) :: e :: rest
    | .eq => (k, v) :: rest
    | .gt => e :: insertEntry k v rest

/-- An entry after an insertion is the new one, or was there before. -/
theorem mem_insertEntry {k : κ} {v : α} {a : κ × α} {l : List (κ × α)}
    (h : a ∈ insertEntry k v l) : a = (k, v) ∨ a ∈ l := by
  induction l with
  | nil => exact .inl (List.mem_singleton.1 h)
  | cons e rest ih =>
    rw [insertEntry] at h
    split at h
    · simpa using h
    · rcases List.mem_cons.1 h with h | h
      · exact .inl h
      · exact .inr (List.mem_cons_of_mem _ h)
    · rcases List.mem_cons.1 h with h | h
      · exact .inr (h ▸ List.mem_cons_self)
      · exact (ih h).imp_right (List.mem_cons_of_mem _)

/-- An insertion keeps the keys in strictly ascending order. -/
theorem pairwise_insertEntry [Std.TransOrd κ] [Std.LawfulEqOrd κ] (k : κ) (v : α)
    {l : List (κ × α)} (h : l.Pairwise fun a b => compare a.1 b.1 = .lt) :
    (insertEntry k v l).Pairwise fun a b => compare a.1 b.1 = .lt := by
  induction l with
  | nil => exact List.pairwise_singleton _ _
  | cons e rest ih =>
    obtain ⟨hhead, htail⟩ := List.pairwise_cons.1 h
    rw [insertEntry]
    split
    · next hlt =>
      refine List.pairwise_cons.2 ⟨fun b hb => ?_, h⟩
      rcases List.mem_cons.1 hb with rfl | hb
      · exact hlt
      · exact Std.TransCmp.lt_trans hlt (hhead b hb)
    · next heq =>
      have hk : k = e.1 := Std.LawfulEqCmp.eq_of_compare heq
      exact List.pairwise_cons.2 ⟨fun b hb => hk ▸ hhead b hb, htail⟩
    · next hgt =>
      refine List.pairwise_cons.2 ⟨fun b hb => ?_, ih htail⟩
      rcases mem_insertEntry hb with rfl | hb
      · exact Std.OrientedCmp.lt_of_gt hgt
      · exact hhead b hb

/-- Stores a value under a key, in place of the value that was there. -/
def insert [Std.TransOrd κ] [Std.LawfulEqOrd κ] (m : SortedMap κ α) (k : κ) (v : α) :
    SortedMap κ α :=
  ⟨insertEntry k v m.entries, pairwise_insertEntry k v m.sorted⟩

/-- The entries that satisfy a condition on key and value. -/
def filter (m : SortedMap κ α) (p : κ → α → Bool) : SortedMap κ α :=
  ⟨m.entries.filter fun e => p e.1 e.2, m.sorted.filter _⟩

/-- The entries whose keys satisfy a condition. -/
def filterKeys (m : SortedMap κ α) (p : κ → Bool) : SortedMap κ α := m.filter fun k _ => p k

/-- Drops the entry under a key, if there is one. -/
def erase [DecidableEq κ] (m : SortedMap κ α) (k : κ) : SortedMap κ α :=
  m.filterKeys (· ≠ k)

/-- The map with every value changed in the same way. -/
def mapValues {β : Type v} (m : SortedMap κ α) (f : α → β) : SortedMap κ β :=
  ⟨m.entries.map fun e => (e.1, f e.2), List.pairwise_map.2 m.sorted⟩

/-- The map of a list of pairs. Of pairs with equal keys the last one counts. -/
def ofList [Std.TransOrd κ] [Std.LawfulEqOrd κ] (l : List (κ × α)) : SortedMap κ α :=
  l.foldl (fun m e => m.insert e.1 e.2) empty

/-! ### Look-up -/

/-- The empty map has no values. -/
@[simp] theorem get?_empty [DecidableEq κ] (k : κ) : (empty : SortedMap κ α).get? k = none := rfl

/-- Among entries, an insertion is found under its key, and nothing changes under the others. -/
theorem find_insertEntry [DecidableEq κ] [Std.TransOrd κ] [Std.LawfulEqOrd κ] (k k' : κ) (v : α)
    (l : List (κ × α)) :
    find k' (insertEntry k v l) = if k' = k then some v else find k' l := by
  induction l with
  | nil => simp [insertEntry, find]
  | cons e rest ih =>
    rw [insertEntry]
    split
    · simp [find]
    · next heq =>
      have hk : k = e.1 := Std.LawfulEqCmp.eq_of_compare heq
      by_cases h : k' = k <;> simp [find, h, ← hk]
    · next hgt =>
      have hk : e.1 ≠ k := by
        rintro rfl
        simp at hgt
      by_cases he : k' = e.1
      · simp [find, he, hk]
      · simp [find, he, ih]

/-- An insertion concerns its own key and no other. -/
theorem get?_insert [DecidableEq κ] [Std.TransOrd κ] [Std.LawfulEqOrd κ] (m : SortedMap κ α)
    (k k' : κ) (v : α) : (m.insert k v).get? k' = if k' = k then some v else m.get? k' :=
  find_insertEntry k k' v m.entries

omit [Ord κ] in
/-- Leaving out keys leaves what is found under the others. -/
theorem find_filter [DecidableEq κ] (p : κ → Bool) (k : κ) (l : List (κ × α)) :
    find k (l.filter fun e => p e.1) = if p k then find k l else none := by
  induction l with
  | nil => simp [find]
  | cons e rest ih =>
    by_cases hk : k = e.1
    · subst hk
      cases hp : p e.1 <;> simp [find, hp, ih]
    · cases hp : p e.1 <;> simp [find, hp, hk, ih]

/-- A map without some of its keys has the same values under the rest. -/
theorem get?_filterKeys [DecidableEq κ] (m : SortedMap κ α) (p : κ → Bool) (k : κ) :
    (m.filterKeys p).get? k = if p k then m.get? k else none :=
  find_filter p k m.entries

/-- Erasing concerns its own key and no other. -/
theorem get?_erase [DecidableEq κ] (m : SortedMap κ α) (k k' : κ) :
    (m.erase k).get? k' = if k' = k then none else m.get? k' := by
  rw [erase, get?_filterKeys]
  by_cases h : k' = k <;> simp [h]

/-- What is there after erasing was there before. -/
theorem get?_of_get?_erase [DecidableEq κ] {m : SortedMap κ α} {k k' : κ} {v : α}
    (h : (m.erase k).get? k' = some v) : m.get? k' = some v := by
  rw [get?_erase] at h
  split at h
  · cases h
  · exact h

omit [Ord κ] in
/-- Among entries whose values are changed, the changed value is found. -/
theorem find_map_values [DecidableEq κ] {β : Type v} (f : α → β) (k : κ) (l : List (κ × α)) :
    find k (l.map fun e => (e.1, f e.2)) = (find k l).map f := by
  induction l with
  | nil => rfl
  | cons e rest ih =>
    by_cases hk : k = e.1 <;> simp [find, hk, ih]

/-- A map whose values are changed has the changed value under each key. -/
theorem get?_mapValues [DecidableEq κ] {β : Type v} (m : SortedMap κ α) (f : α → β) (k : κ) :
    (m.mapValues f).get? k = (m.get? k).map f :=
  find_map_values f k m.entries

/-! ### Extensionality -/

/-- The entries of a map are its keys with their values. -/
theorem mem_entries_iff [DecidableEq κ] [Std.TransOrd κ] [Std.LawfulEqOrd κ] {m : SortedMap κ α}
    {k : κ} {v : α} : (k, v) ∈ m.entries ↔ m.get? k = some v := by
  obtain ⟨l, hl⟩ := m
  simp only [get?]
  induction l with
  | nil => simp [find]
  | cons e rest ih =>
    obtain ⟨hhead, htail⟩ := List.pairwise_cons.1 hl
    by_cases hk : k = e.1
    · subst hk
      have hnot : (e.1, v) ∉ rest := fun hmem => by simpa using hhead _ hmem
      simp [find, hnot, Prod.ext_iff, eq_comm]
    · have : (k, v) ≠ e := fun h => hk (h ▸ rfl)
      simp [find, hk, this, ih htail]

/-- The keys of a map are those that have values. -/
theorem mem_keys_iff [DecidableEq κ] [Std.TransOrd κ] [Std.LawfulEqOrd κ] {m : SortedMap κ α}
    {k : κ} : k ∈ m.keys ↔ ∃ v, m.get? k = some v := by
  simp [keys, ← mem_entries_iff]

/-- Maps that answer every look-up alike are equal. -/
theorem ext_get? [DecidableEq κ] [Std.TransOrd κ] [Std.LawfulEqOrd κ] {m n : SortedMap κ α}
    (h : ∀ k, m.get? k = n.get? k) : m = n := by
  have nodup : ∀ m : SortedMap κ α, m.entries.Nodup := fun m =>
    m.sorted.imp fun hlt heq => by simp [heq] at hlt
  have hperm : m.entries.Perm n.entries :=
    (List.perm_ext_iff_of_nodup (nodup m) (nodup n)).2 fun e => by
      rw [mem_entries_iff, mem_entries_iff, h]
  refine ext_entries (hperm.eq_of_pairwise (fun a b _ _ hab hba => ?_) m.sorted n.sorted)
  exact absurd hba (by simp [Std.OrientedCmp.gt_of_lt hab])

/-- Dropping an entry that was new gives back the map. -/
theorem erase_insert [DecidableEq κ] [Std.TransOrd κ] [Std.LawfulEqOrd κ] {m : SortedMap κ α}
    {k : κ} (h : m.get? k = none) (v : α) : (m.insert k v).erase k = m := by
  refine ext_get? fun k' => ?_
  rw [get?_erase, get?_insert]
  split
  · next heq => rw [heq, h]
  · rfl

/-! ### Size -/

/-- An insertion adds one entry at most. -/
theorem length_insertEntry_le (k : κ) (v : α) (l : List (κ × α)) :
    (insertEntry k v l).length ≤ l.length + 1 := by
  induction l with
  | nil => exact Nat.le_refl 1
  | cons e rest ih =>
    rw [insertEntry]
    split
    · exact Nat.le_refl _
    · exact Nat.le_succ _
    · exact Nat.succ_le_succ ih

/-- A map grows by one entry at most when something is inserted. -/
theorem size_insert_le [Std.TransOrd κ] [Std.LawfulEqOrd κ] (m : SortedMap κ α) (k : κ) (v : α) :
    (m.insert k v).size ≤ m.size + 1 :=
  length_insertEntry_le k v m.entries

/-- There are fewer entries once an entry has been dropped. -/
theorem size_filterKeys_lt [DecidableEq κ] [Std.TransOrd κ] [Std.LawfulEqOrd κ]
    {m : SortedMap κ α} {p : κ → Bool} {k : κ} {v : α} (h : m.get? k = some v)
    (hp : p k = false) : (m.filterKeys p).size < m.size :=
  List.length_filter_lt_length_iff_exists.2 ⟨(k, v), mem_entries_iff.2 h, by simp [hp]⟩

/-- A map shrinks when a key that is there is erased. -/
theorem size_erase_lt [DecidableEq κ] [Std.TransOrd κ] [Std.LawfulEqOrd κ] {m : SortedMap κ α}
    {k : κ} {v : α} (h : m.get? k = some v) : (m.erase k).size < m.size :=
  size_filterKeys_lt h (by simp)

/-- There are at least as many entries as keys that have one. -/
theorem length_le_size [DecidableEq κ] [Std.TransOrd κ] [Std.LawfulEqOrd κ] {m : SortedMap κ α}
    {keys : List κ} (hnodup : keys.Nodup) (h : ∀ k ∈ keys, m.contains k = true) :
    keys.length ≤ m.size := by
  have hsubset : keys ⊆ m.keys := fun k hk => mem_keys_iff.2 (Option.isSome_iff_exists.1 (h k hk))
  have hlength := hnodup.length_le_of_subset hsubset
  rwa [SortedMap.keys, List.length_map] at hlength

/-- There are at most as many entries as keys that may have one. -/
theorem size_le_length [DecidableEq κ] [Std.TransOrd κ] [Std.LawfulEqOrd κ] {m : SortedMap κ α}
    {keys : List κ} (h : ∀ k, m.contains k = true → k ∈ keys) : m.size ≤ keys.length := by
  have hnodup : m.keys.Nodup := by
    refine List.pairwise_map.2 (m.sorted.imp fun hlt heq => ?_)
    simp [heq] at hlt
  have hsubset : m.keys ⊆ keys := fun k hk => h k (Option.isSome_iff_exists.2 (mem_keys_iff.1 hk))
  have hlength := hnodup.length_le_of_subset hsubset
  rwa [SortedMap.keys, List.length_map] at hlength

/-! ### Rebuilding -/

/-- A key above all others is inserted at the end. -/
theorem insertEntry_of_forall_lt {k : κ} {v : α} {l : List (κ × α)}
    (h : ∀ e ∈ l, compare k e.1 = .gt) : insertEntry k v l = l ++ [(k, v)] := by
  induction l with
  | nil => rfl
  | cons e rest ih =>
    rw [insertEntry, h e List.mem_cons_self]
    simp [ih fun x hx => h x (List.mem_cons_of_mem _ hx)]

/-- Entries in ascending order are inserted one behind the other. -/
theorem entries_foldl_insert [Std.TransOrd κ] [Std.LawfulEqOrd κ] {l : List (κ × α)}
    (m : SortedMap κ α) (h : (m.entries ++ l).Pairwise fun a b => compare a.1 b.1 = .lt) :
    (l.foldl (fun m e => m.insert e.1 e.2) m).entries = m.entries ++ l := by
  induction l generalizing m with
  | nil => simp
  | cons e rest ih =>
    have hinsert : (m.insert e.1 e.2).entries = m.entries ++ [e] :=
      insertEntry_of_forall_lt fun x hx =>
        Std.OrientedCmp.gt_of_lt ((List.pairwise_append.1 h).2.2 x hx e List.mem_cons_self)
    rw [List.foldl_cons, ih _ (by simpa [hinsert] using h), hinsert]
    simp

/-- A map is rebuilt from its entries. -/
theorem ofList_entries [Std.TransOrd κ] [Std.LawfulEqOrd κ] (m : SortedMap κ α) :
    ofList m.entries = m :=
  ext_entries (entries_foldl_insert empty (by simpa [empty] using m.sorted))

end SortedMap

end ConfigBrowser
