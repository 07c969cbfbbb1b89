import ConfigBrowser.History.Lists

/-!
# Changes of a History in Memory

Changes to different lists can be made in either order. The times of visits decide nothing: what a
change does to a history without its times depends on the history without its times alone.

## Main results

* `History.put_comm`: entries put in front of different lists.
* `History.undated_put`, `History.undated_remove`: changes of a history without its times.
-/

namespace ConfigBrowser

/-- Values stored under different keys may be stored in either order. -/
theorem SortedMap.insert_comm {κ α : Type} [Ord κ] [DecidableEq κ] [Std.TransOrd κ]
    [Std.LawfulEqOrd κ] (m : SortedMap κ α) {k k' : κ} (hne : k ≠ k') (x x' : α) :
    (m.insert k x).insert k' x' = (m.insert k' x').insert k x := by
  refine ext_get? fun key => ?_
  simp only [get?_insert]
  by_cases hk : key = k
  · rw [if_pos hk, if_pos hk, if_neg (hk ▸ hne)]
  · rw [if_neg hk, if_neg hk]

/-- An entry without its time. -/
def HistoryEntry.undated (e : HistoryEntry) : HistoryEntry := { e with visitedAt := 0 }

namespace History

/-! ### Different lists -/

/-- Putting an entry in front of a list leaves the other lists. -/
theorem entries_put_of_ne (h : History) {key key' : String} (hne : key' ≠ key)
    (e : HistoryEntry) : (h.put key e).2.entries key' = h.entries key' := by
  rw [entries, put_lists, SortedMap.get?_insert, if_neg hne, entries]

/-- An entry that is put in front of a list is its first. -/
theorem head?_entries_put (h : History) (key : String) (e : HistoryEntry) :
    ((h.put key e).2.entries key).head? = some e := by
  obtain ⟨limit, hlimit⟩ := Nat.exists_eq_add_of_lt h.limit_pos
  rw [entries, put_lists, SortedMap.get?_insert, if_pos rfl, hlimit]
  rfl

/-- It stays the first when an entry is put in front of another list. -/
theorem head?_entries_put_put (h : History) {key key' : String} (hne : key ≠ key')
    (e e' : HistoryEntry) : (((h.put key e).2.put key' e').2.entries key).head? = some e := by
  rw [entries_put_of_ne _ hne, head?_entries_put]

/-- Putting an entry in front of a list leaves what the other lists contain. -/
theorem contains_put_of_ne (h : History) {key key' : String} (hne : key' ≠ key)
    (e : HistoryEntry) (value : String) :
    HistoryStore.contains (HistoryStore.put h key e).2 key' value =
      HistoryStore.contains h key' value :=
  congrArg (·.any (·.value = value)) (h.entries_put_of_ne hne e)

/-- Without a file a put succeeds. -/
theorem put_fst_of_file_eq_none {h : History} (hfile : h.file = none) (key : String)
    (e : HistoryEntry) : (HistoryStore.put h key e).1 = .ok () :=
  congrArg Prod.fst (put_of_file_eq_none hfile key e)

/-- A history in memory stays there. -/
theorem file_put {h : History} (hfile : h.file = none) (key : String) (e : HistoryEntry) :
    (h.put key e).2.file = none := by
  rw [put_of_file_eq_none hfile]
  exact hfile

/-- Entries are put in front of different lists in either order. -/
theorem put_comm {h : History} (hfile : h.file = none) {key key' : String} (hne : key ≠ key')
    (e e' : HistoryEntry) :
    ((h.put key e).2.put key' e').2 = ((h.put key' e').2.put key e).2 := by
  rw [put_of_file_eq_none (file_put hfile key e), put_of_file_eq_none (file_put hfile key' e'),
    entries_put_of_ne h hne.symm, entries_put_of_ne h hne, put_of_file_eq_none hfile,
    put_of_file_eq_none hfile]
  simp only [withList, SortedMap.insert_comm _ hne]

/-! ### Times of visits -/

/-- A history without the times of visits. -/
def undated (h : History) : History :=
  { h with
    document :=
      { h.document with lists := h.document.lists.mapValues (·.map HistoryEntry.undated) } }

/-- Without the times of visits, the entries are the same but for these. -/
theorem entries_undated (h : History) (key : String) :
    h.undated.entries key = (h.entries key).map HistoryEntry.undated := by
  rw [entries, entries, undated, SortedMap.get?_mapValues]
  cases h.document.lists.get? key <;> rfl

/-- Whether a value is in a list does not depend on the times of visits. -/
theorem contains_undated (h : History) (key value : String) :
    HistoryStore.contains h.undated key value = HistoryStore.contains h key value := by
  change (h.undated.entries key).any _ = (h.entries key).any _
  rw [entries_undated, List.any_map]
  rfl

/-- What a list shows does not depend on the times of visits. -/
theorem rendered_undated (h : History) (key : String) :
    HistoryStore.rendered h.undated key = HistoryStore.rendered h key := by
  have hentries : HistoryStore.entries h.undated key =
      (HistoryStore.entries h key).map HistoryEntry.undated := h.entries_undated key
  have hlines : ∀ es : List HistoryEntry,
      (es.map HistoryEntry.undated).map HistoryStore.line = es.map HistoryStore.line := by
    intro es
    rw [List.map_map]
    rfl
  rw [HistoryStore.rendered, HistoryStore.rendered, hentries]
  cases HistoryStore.entries h key with
  | nil => rfl
  | cons e rest => exact congrArg (fun lines => some ("\n".intercalate lines)) (hlines (e :: rest))

/-- Times may be left out before a list is replaced, or afterwards. -/
theorem undated_withList (h : History) (key : String) (list : List HistoryEntry) :
    (h.withList key list).undated = h.undated.withList key (list.map HistoryEntry.undated) := by
  have hlists : (h.document.lists.insert key list).mapValues (·.map HistoryEntry.undated) =
      (h.document.lists.mapValues (·.map HistoryEntry.undated)).insert key
        (list.map HistoryEntry.undated) := by
    refine SortedMap.ext_get? fun k => ?_
    rw [SortedMap.get?_mapValues, SortedMap.get?_insert, SortedMap.get?_insert,
      SortedMap.get?_mapValues]
    split <;> rfl
  simp only [undated, withList, hlists]

/-- An entry is put in front of a list without regard to times. -/
theorem undated_put {h : History} (hfile : h.file = none) (key : String) (e : HistoryEntry) :
    (h.put key e).2.undated = (h.undated.put key e.undated).2 := by
  have hfront : (putFront h.limit e (h.entries key)).map HistoryEntry.undated =
      putFront h.limit e.undated (h.undated.entries key) := by
    rw [putFront, putFront, List.map_take, List.map_cons, entries_undated, List.filter_map]
    rfl
  have hwith := h.undated_withList key (putFront h.limit e (h.entries key))
  rw [hfront] at hwith
  rw [put_of_file_eq_none hfile, put_of_file_eq_none (h := h.undated) hfile]
  exact congrArg (fun g : History => { g with dirty := false }) hwith

/-- Entries are removed from a list without regard to times. -/
theorem undated_remove {h : History} (hfile : h.file = none) (key value : String) :
    (h.remove key value).1 = (h.undated.remove key value).1 ∧
      (h.remove key value).2.undated = (h.undated.remove key value).2 := by
  have hany : (h.undated.entries key).any (·.value = value) =
      (h.entries key).any (·.value = value) := h.contains_undated key value
  have hkept : ((h.entries key).filter (·.value ≠ value)).map HistoryEntry.undated =
      (h.undated.entries key).filter (·.value ≠ value) := by
    rw [entries_undated, List.filter_map]
    rfl
  have hwith := h.undated_withList key ((h.entries key).filter (·.value ≠ value))
  rw [hkept] at hwith
  rw [remove_of_file_eq_none hfile, remove_of_file_eq_none (h := h.undated) hfile, hany]
  split
  · exact ⟨rfl, congrArg (fun g : History => { g with dirty := false }) hwith⟩
  · exact ⟨rfl, rfl⟩

end History

end ConfigBrowser
