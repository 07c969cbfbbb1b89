import ConfigBrowser.Proofs.History.Attempts
import Mathlib

/-!
# Histories in Changing Surroundings

A history whose file may be treated in another way at every change, as a disk that fills up or a
folder that comes and goes. Which of its saves fail is a parameter, so that what is said about every
exposed history is said whichever of them do.

The lists do not hang on that. In every history, exposed or not, what has been put is there, what
has been removed is not, and a put leaves the other lists alone.

## Main results

* `HistoryStore.Lawful`: what changes make of what the lists contain.
-/

namespace ConfigBrowser

/-- The laws of what the lists of a history contain. They hold whether or not a change could be
recorded. -/
class HistoryStore.Lawful (η : Type) [HistoryStore η] : Prop where
  /-- What has been put is there. -/
  contains_put (h : η) (key : String) (e : HistoryEntry) :
    contains (put h key e).2 key e.value = true
  /-- A put leaves what the other lists contain. -/
  contains_put_of_ne (h : η) {key key' : String} (hne : key' ≠ key) (e : HistoryEntry)
    (value : String) : contains (put h key e).2 key' value = contains h key' value
  /-- What has been removed is not there. -/
  contains_remove (h : η) (key value : String) : contains (remove h key value).2 key value = false

namespace History

instance : HistoryStore.Lawful History where
  contains_put h key e := by
    have hfirst := List.mem_of_mem_head? (h.head?_entries_put key e)
    exact List.any_eq_true.2 ⟨e, hfirst, decide_eq_true rfl⟩
  contains_put_of_ne h _ _ hne e value := h.contains_put_of_ne hne e value
  contains_remove h key value := by
    have hentries := h.entries_make (.remove key value) key
    rw [make, Change.apply, if_pos rfl] at hentries
    refine List.any_eq_false.2 fun e he => ?_
    change e ∈ (h.remove key value).2.entries key at he
    rw [hentries] at he
    simpa using (List.mem_filter.1 he).2

end History

/-- A history in surroundings that may be others at every change. -/
structure ExposedHistory where
  history : History
  /-- How the file will be treated at the changes to come. -/
  ahead : Nat → FileAccess

namespace ExposedHistory

/-- The history at its next change. -/
def current (x : ExposedHistory) : History := x.history.within (x.ahead 0)

/-- What is left of the surroundings after a change of the history. -/
def next (x : ExposedHistory) (history : History) : ExposedHistory :=
  ⟨history, fun n => x.ahead (n + 1)⟩

instance : HistoryStore ExposedHistory where
  put x key e := ((x.current.put key e).1, x.next (x.current.put key e).2)
  remove x key value := ((x.current.remove key value).1, x.next (x.current.remove key value).2)
  entries x := x.history.entries

instance : HistoryStore.Lawful ExposedHistory where
  contains_put x key e := HistoryStore.Lawful.contains_put x.current key e
  contains_put_of_ne x _ _ hne e value :=
    HistoryStore.Lawful.contains_put_of_ne x.current hne e value
  contains_remove x key value := HistoryStore.Lawful.contains_remove x.current key value

end ExposedHistory

end ConfigBrowser
